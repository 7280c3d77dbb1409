import CardVault.Api.App
import CardVault.Caching.Transparent

/-!
# The wrapper over the storage layer

`Caching<Storage>`: the methods of `T` are those of the storage layer and of the key
tables, and the wrappers are the ones that the domain and the key managers call.

Main results:
* `interpret_findThrough`, `interpret_insertThrough`: a wrapper over any storage.
* `call_interpret`: what a wrapper does over the storage layer.
-/

namespace CardVault

open Interaction

namespace Cached

/-! ## Interpretation -/

section Generic

variable {C C' : Type} {R : C → Type} {R' : C' → Type} {V E α : Type}
  (f : (c : C) → Prog C' R' (R c))

theorem interpret_findThrough {lookup : Prog C R (Option V)} {lookup' : Prog C' R' (Option V)}
    {find : Prog C R (Except E α)} {find' : Prog C' R' (Except E α)} {cache : V → Prog C R Unit}
    {cache' : V → Prog C' R' Unit} (hlookup : lookup.interpret f = lookup')
    (hfind : find.interpret f = find') (hcache : ∀ value, (cache value).interpret f = cache' value)
    (hit : V → α) (found : α → Option V) :
    (findThrough lookup hit find found cache).interpret f =
      findThrough lookup' hit find' found cache' := by
  unfold findThrough
  rw [Prog.interpret_bind, hlookup]
  congr 1
  funext reply
  cases reply with
  | some value => rfl
  | none =>
    dsimp only
    rw [Prog.interpret_andThen, hfind]
    congr 1
    funext output
    cases found output with
    | none => rfl
    | some value =>
      dsimp only
      rw [Prog.interpret_mapResult, hcache]

theorem interpret_insertThrough {insert : Prog C R (Except E V)}
    {insert' : Prog C' R' (Except E V)} {cache : V → Prog C R Unit} {cache' : V → Prog C' R' Unit}
    (hinsert : insert.interpret f = insert')
    (hcache : ∀ value, (cache value).interpret f = cache' value) :
    (insertThrough insert cache).interpret f = insertThrough insert' cache' := by
  unfold insertThrough
  rw [Prog.interpret_andThen, hinsert]
  congr 1
  funext output
  rw [Prog.interpret_mapResult, hcache]

end Generic

section Commands

variable {T : Interfaces} {C' : Type} {R' : C' → Type} (f : (c : Cmd T) → Prog C' R' (Reply c))

theorem interpret_lookup (key : Key) : (lookup key).interpret f = f (.lookup key) :=
  Prog.interpret_perform f (Cmd.lookup key)

theorem interpret_cacheData (key : Key) (value : key.Value) :
    (cacheData key value).interpret f = f (.cacheData key value) :=
  Prog.interpret_perform f (Cmd.cacheData key value)

theorem interpret_inner (method : Method T) : (inner method).interpret f = f (.inner method) :=
  Prog.interpret_perform f (Cmd.inner method)

end Commands

/-! ## The storage layer -/

/-- The interfaces of the storage layer. -/
abbrev storageInterfaces : Interfaces where
  Algorithm := GcmAes256
  MerchantError := Fault MerchantDBError
  HashError := HashDBError
  FingerprintError := FingerprintDBError
  EntityError := EntityDBError

section Storage

variable (ctx : KvStoreContext) (aead : Aead) (uuid : String) (now : PrimitiveDateTime)

/-- The methods of the storage layer. -/
def storage : (method : Method storageInterfaces) → ApiApp method.Answer
  | .findByMerchantId merchantId key => liftKey (CardVault.findByMerchantId aead merchantId key)
  | .insertMerchant new key => liftKey (CardVault.insertMerchant aead new key)
  | .findAllKeysExcludingEntityKeys key limit =>
    liftKey (CardVault.findAllKeysExcludingEntityKeys aead key limit)
  | .findOptionalByDataHash dataHash => liftKv (CardVault.findOptionalByDataHash ctx dataHash)
  | .insertHash dataHash => liftKv (CardVault.insertHash ctx uuid now dataHash)
  | .findOptionalByFingerprintHash hash =>
    liftKv (CardVault.findOptionalByFingerprintHash ctx hash)
  | .insertFingerprint hash fingerprintId =>
    liftKv (CardVault.insertFingerprint ctx hash fingerprintId)
  | .findByEntityId entityId => liftKey (CardVault.findByEntityId entityId)
  | .insertEntity entityId identifier => liftKey (CardVault.insertEntity entityId identifier)

/-- The commands of a wrapper over the storage layer. -/
def storageCmd : (c : Cmd storageInterfaces) → ApiApp (Reply c)
  | .lookup (.merchant merchantId) => liftKey (lookupMerchant merchantId)
  | .lookup (.hashTable dataHash) => liftKv (Caching.lookupHashTable dataHash)
  | .lookup (.fingerprint fingerprintHash) => liftKv (Caching.lookupFingerprint fingerprintHash)
  | .lookup (.entity entityId) => liftKey (lookupEntity entityId)
  | .cacheData (.merchant merchantId) value => liftKey (cacheMerchant merchantId value)
  | .cacheData (.hashTable dataHash) value => liftKv (Caching.cacheHashTable dataHash value)
  | .cacheData (.fingerprint fingerprintHash) value =>
    liftKv (Caching.cacheFingerprint fingerprintHash value)
  | .cacheData (.entity entityId) value => liftKey (cacheEntity entityId value)
  | .inner method => storage ctx aead uuid now method

/-- The wrappers that the domain and the key managers call. -/
def wrapped : (method : Method storageInterfaces) → ApiApp method.Answer
  | .findByMerchantId merchantId key => liftKey (Caching.findByMerchantId aead merchantId key)
  | .insertMerchant new key => liftKey (Caching.insertMerchant aead new key)
  | .findAllKeysExcludingEntityKeys key limit =>
    liftKey (CardVault.findAllKeysExcludingEntityKeys aead key limit)
  | .findOptionalByDataHash dataHash => liftKv (Caching.findOptionalByDataHash ctx dataHash)
  | .insertHash dataHash => liftKv (Caching.insertHash ctx uuid now dataHash)
  | .findOptionalByFingerprintHash hash =>
    liftKv (Caching.findOptionalByFingerprintHash ctx hash)
  | .insertFingerprint hash fingerprintId =>
    liftKv (Caching.insertFingerprint ctx hash fingerprintId)
  | .findByEntityId entityId => liftKey (Caching.findByEntityId entityId)
  | .insertEntity entityId identifier => liftKey (Caching.insertEntity entityId identifier)

/-- A find through the cache, as it is written out. -/
theorem findByMerchantId_eq (merchantId : String) (key : GcmAes256) :
    Caching.findByMerchantId aead merchantId key = findThrough (lookupMerchant merchantId) id
      (CardVault.findByMerchantId aead merchantId key) some (cacheMerchant merchantId) := by
  unfold Caching.findByMerchantId findThrough
  congr 1
  funext reply
  cases reply <;> rfl

theorem findByEntityId_eq (entityId : String) :
    Caching.findByEntityId entityId = findThrough (lookupEntity entityId) id
      (CardVault.findByEntityId entityId) some
      fun output => cacheEntity output.entityId output := by
  unfold Caching.findByEntityId findThrough
  congr 1
  funext reply
  cases reply <;> rfl

theorem findOptionalByDataHash_eq (dataHash : Bytes) :
    Caching.findOptionalByDataHash ctx dataHash = findThrough (Caching.lookupHashTable dataHash)
      some (CardVault.findOptionalByDataHash ctx dataHash) id
      (Caching.cacheHashTable dataHash) := by
  unfold Caching.findOptionalByDataHash findThrough
  congr 1
  funext reply
  cases reply with
  | some value => rfl
  | none =>
    dsimp only
    congr 1
    funext output
    cases output <;> rfl

theorem findOptionalByFingerprintHash_eq (fingerprintHash : Bytes) :
    Caching.findOptionalByFingerprintHash ctx fingerprintHash = findThrough
      (Caching.lookupFingerprint fingerprintHash) some
      (CardVault.findOptionalByFingerprintHash ctx fingerprintHash) id
      (Caching.cacheFingerprint fingerprintHash) := by
  unfold Caching.findOptionalByFingerprintHash findThrough
  congr 1
  funext reply
  cases reply with
  | some value => rfl
  | none =>
    dsimp only
    congr 1
    funext output
    cases output <;> rfl

/-- Over the storage layer, a wrapper is the one that its callers call. -/
theorem call_interpret (method : Method storageInterfaces) :
    (call method).interpret (storageCmd ctx aead uuid now) = wrapped ctx aead uuid now method := by
  cases method with
  | findByMerchantId merchantId key =>
    refine (interpret_findThrough _ (interpret_lookup _ (.merchant merchantId))
      (interpret_inner _ (.findByMerchantId merchantId key))
      (interpret_cacheData _ (.merchant merchantId)) id some).trans ?_
    refine Eq.symm ((congrArg liftKey (findByMerchantId_eq aead merchantId key)).trans ?_)
    exact interpret_findThrough _ rfl rfl (fun _ => rfl) id some
  | findByEntityId entityId =>
    refine (interpret_findThrough _ (interpret_lookup _ (.entity entityId))
      (interpret_inner _ (.findByEntityId entityId))
      (fun output : Entity => interpret_cacheData _ (.entity output.entityId) output) id some).trans
      ?_
    refine Eq.symm ((congrArg liftKey (findByEntityId_eq entityId)).trans ?_)
    exact interpret_findThrough _ rfl rfl (fun _ => rfl) id some
  | findOptionalByDataHash dataHash =>
    refine (interpret_findThrough _ (interpret_lookup _ (.hashTable dataHash))
      (interpret_inner _ (.findOptionalByDataHash dataHash))
      (interpret_cacheData _ (.hashTable dataHash)) some id).trans ?_
    refine Eq.symm ((congrArg liftKv (findOptionalByDataHash_eq ctx dataHash)).trans ?_)
    exact interpret_findThrough _ rfl rfl (fun _ => rfl) some id
  | findOptionalByFingerprintHash fingerprintHash =>
    refine (interpret_findThrough _ (interpret_lookup _ (.fingerprint fingerprintHash))
      (interpret_inner _ (.findOptionalByFingerprintHash fingerprintHash))
      (interpret_cacheData _ (.fingerprint fingerprintHash)) some id).trans ?_
    refine Eq.symm ((congrArg liftKv (findOptionalByFingerprintHash_eq ctx fingerprintHash)).trans
      ?_)
    exact interpret_findThrough _ rfl rfl (fun _ => rfl) some id
  | findAllKeysExcludingEntityKeys key limit =>
    exact interpret_inner _ (.findAllKeysExcludingEntityKeys key limit)
  | insertMerchant new key =>
    refine (interpret_insertThrough _ (interpret_inner _ (.insertMerchant new key))
      (interpret_cacheData _ (.merchant new.merchantId))).trans ?_
    exact (interpret_insertThrough _ rfl fun _ => rfl).symm
  | insertEntity entityId identifier =>
    refine (interpret_insertThrough _ (interpret_inner _ (.insertEntity entityId identifier))
      (interpret_cacheData _ (.entity entityId))).trans ?_
    exact (interpret_insertThrough _ rfl fun _ => rfl).symm
  | insertHash dataHash =>
    refine (interpret_insertThrough _ (interpret_inner _ (.insertHash dataHash))
      (interpret_cacheData _ (.hashTable dataHash))).trans ?_
    exact (interpret_insertThrough _ rfl fun _ => rfl).symm
  | insertFingerprint fingerprintHash fingerprintId =>
    refine (interpret_insertThrough _
      (interpret_inner _ (.insertFingerprint fingerprintHash fingerprintId))
      (fun output : Fingerprint =>
        interpret_cacheData _ (.fingerprint output.fingerprintHash) output)).trans ?_
    exact (interpret_insertThrough _ rfl fun _ => rfl).symm

end Storage

end Cached

end CardVault
