import CardVault.Lib.Traces
import CardVault.KeyManager.Provider
import CardVault.Storage.Db

/-!
# The caching wrapper

`Caching<T>` (`src/src/storage/caching.rs` and the files beside it) over any storage
`T`: the four tables that it caches, the interface methods that it wraps, and the
cache commands `lookup` and `cache_data`. A wrapper looks its key up first and asks
`T` on a miss; what `T` answers is cached under the key that was asked for, or under
the key of the row.

Main results:
* `findThrough`, `insertThrough`: the two ways in which a method is wrapped.
* `call`: the wrapped methods.
-/

namespace CardVault

open Interaction

namespace Cached

/-! ## Tables -/

/-- The key of a row that `Caching` caches: the types that are `Cacheable`, each with
    its `Key`. -/
inductive Key where
  | merchant (merchantId : String)
  | hashTable (dataHash : Bytes)
  | fingerprint (fingerprintHash : Bytes)
  | entity (entityId : String)
  deriving DecidableEq, Repr

/-- `Cacheable::Value`. -/
def Key.Value : Key → Type
  | .merchant _ => Merchant
  | .hashTable _ => HashTable
  | .fingerprint _ => Fingerprint
  | .entity _ => Entity

/-- A row without its serial number. -/
def Key.ignoreId : (key : Key) → key.Value → key.Value
  | .merchant _, (row : Merchant) => row
  | .hashTable _, (row : HashTable) => { row with id := 0 }
  | .fingerprint _, (row : Fingerprint) => { row with id := 0 }
  | .entity _, (row : Entity) => { row with id := 0 }

/-- The row is stored under this key. -/
def Key.Names : (key : Key) → key.Value → Prop
  | .merchant merchantId, (row : Merchant) => row.merchantId = merchantId
  | .hashTable dataHash, (row : HashTable) => row.dataHash = dataHash
  | .fingerprint fingerprintHash, (row : Fingerprint) => row.fingerprintHash = fingerprintHash
  | .entity entityId, (row : Entity) => row.entityId = entityId

/-- The key of a row is not its serial number. -/
theorem Key.names_iff_of_ignoreId {key : Key} {row row' : key.Value}
    (h : key.ignoreId row = key.ignoreId row') : key.Names row ↔ key.Names row' := by
  cases key with
  | merchant => rw [show row = row' from h]
  | hashTable =>
    have hhash := congrArg HashTable.dataHash h
    exact iff_of_eq (congrArg (· = _) hhash)
  | fingerprint =>
    have hhash := congrArg Fingerprint.fingerprintHash h
    exact iff_of_eq (congrArg (· = _) hhash)
  | entity =>
    have hid := congrArg Entity.entityId h
    exact iff_of_eq (congrArg (· = _) hid)

/-! ## Methods of the storage -/

/-- The associated types of the interfaces of `T`. -/
structure Interfaces where
  Algorithm : Type
  MerchantError : Type
  HashError : Type
  FingerprintError : Type
  EntityError : Type

/-- The methods of the interfaces that `Caching` wraps. -/
inductive Method (T : Interfaces) where
  | findByMerchantId (merchantId : String) (key : T.Algorithm)
  | insertMerchant (new : MerchantNew) (key : T.Algorithm)
  | findAllKeysExcludingEntityKeys (key : T.Algorithm) (limit : ℤ)
  | findOptionalByDataHash (dataHash : Bytes)
  | insertHash (dataHash : Bytes)
  | findOptionalByFingerprintHash (fingerprintHash : Bytes)
  | insertFingerprint (fingerprintHash : Bytes) (fingerprintId : String)
  | findByEntityId (entityId : String)
  | insertEntity (entityId identifier : String)

namespace Method

variable {T : Interfaces}

/-- What a method returns. -/
def Answer : Method T → Type
  | .findByMerchantId .. => Except T.MerchantError Merchant
  | .insertMerchant .. => Except T.MerchantError Merchant
  | .findAllKeysExcludingEntityKeys .. => Except T.MerchantError (List Merchant)
  | .findOptionalByDataHash _ => Except T.HashError (Option HashTable)
  | .insertHash _ => Except T.HashError HashTable
  | .findOptionalByFingerprintHash _ => Except T.FingerprintError (Option Fingerprint)
  | .insertFingerprint .. => Except T.FingerprintError Fingerprint
  | .findByEntityId _ => Except T.EntityError Entity
  | .insertEntity .. => Except T.EntityError Entity

/-- The method is called with this master key, if it takes one. -/
def Uses (masterKey : T.Algorithm) : Method T → Prop
  | .findByMerchantId _ key => key = masterKey
  | .insertMerchant _ key => key = masterKey
  | .findAllKeysExcludingEntityKeys key _ => key = masterKey
  | _ => True

/-- The method inserts. -/
def Inserts : Method T → Prop
  | .insertMerchant .. | .insertHash _ | .insertFingerprint .. | .insertEntity .. => True
  | _ => False

/-- A row with the key it belongs to. -/
abbrev Row : Type := (key : Key) × key.Value

/-- The rows of an answer, each with the key it was asked for; a list of merchants
    comes with the keys of its rows. -/
def rows : (method : Method T) → method.Answer → List Row
  | .findByMerchantId merchantId _, (.ok merchant : Except _ Merchant) =>
    [⟨.merchant merchantId, merchant⟩]
  | .insertMerchant new _, (.ok merchant : Except _ Merchant) =>
    [⟨.merchant new.merchantId, merchant⟩]
  | .findAllKeysExcludingEntityKeys _ _, (.ok merchants : Except _ (List Merchant)) =>
    merchants.map fun merchant => ⟨.merchant merchant.merchantId, merchant⟩
  | .findOptionalByDataHash dataHash, (.ok (some row) : Except _ (Option HashTable)) =>
    [⟨.hashTable dataHash, row⟩]
  | .insertHash dataHash, (.ok row : Except _ HashTable) => [⟨.hashTable dataHash, row⟩]
  | .findOptionalByFingerprintHash hash, (.ok (some row) : Except _ (Option Fingerprint)) =>
    [⟨.fingerprint hash, row⟩]
  | .insertFingerprint hash _, (.ok row : Except _ Fingerprint) => [⟨.fingerprint hash, row⟩]
  | .findByEntityId entityId, (.ok row : Except _ Entity) => [⟨.entity entityId, row⟩]
  | .insertEntity entityId _, (.ok row : Except _ Entity) => [⟨.entity entityId, row⟩]
  | _, _ => []

end Method

/-! ## Commands -/

/-- What the wrapper does: it asks its cache or `T`. -/
inductive Cmd (T : Interfaces) where
  /-- `Caching::lookup` -/
  | lookup (key : Key)
  /-- `Caching::cache_data` -/
  | cacheData (key : Key) (value : key.Value)
  /-- a method of `self.inner` -/
  | inner (method : Method T)

/-- What each command answers. -/
def Reply {T : Interfaces} : Cmd T → Type
  | .lookup key => Option key.Value
  | .cacheData .. => Unit
  | .inner method => method.Answer

/-- An `async fn` of the wrapper. -/
abbrev App (T : Interfaces) (α : Type) : Type := Prog (Cmd T) Reply α

variable {T : Interfaces}

/-- `Caching::lookup`. -/
def lookup (key : Key) : App T (Option key.Value) := Prog.perform (Cmd.lookup key)

/-- `Caching::cache_data`. -/
def cacheData (key : Key) (value : key.Value) : App T Unit :=
  Prog.perform (Cmd.cacheData key value)

/-- A call of `self.inner`. -/
def inner (method : Method T) : App T method.Answer := Prog.perform (Cmd.inner method)

/-! ## Wrappers -/

section Generic

variable {C : Type} {R : C → Type} {V E α : Type}

/-- A find: what the cache holds, or else what `find` answers, `cache`d if there is a
    row in it. -/
def findThrough (lookup : Prog C R (Option V)) (hit : V → α) (find : Prog C R (Except E α))
    (found : α → Option V) (cache : V → Prog C R Unit) : Prog C R (Except E α) :=
  lookup.bind fun
    | some value => .pure (.ok (hit value))
    | none => find.andThen fun output =>
      match found output with
      | some value => (cache value).mapResult fun _ => .ok output
      | none => .pure (.ok output)

/-- An insert: what `insert` answers is `cache`d. -/
def insertThrough (insert : Prog C R (Except E V)) (cache : V → Prog C R Unit) :
    Prog C R (Except E V) :=
  insert.andThen fun output => (cache output).mapResult fun _ => .ok output

end Generic

/-- `find_by_merchant_id` (`caching/merchant.rs`). -/
def findByMerchantId (merchantId : String) (key : T.Algorithm) :
    App T (Except T.MerchantError Merchant) :=
  findThrough (lookup (.merchant merchantId)) id (inner (.findByMerchantId merchantId key)) some
    (cacheData (.merchant merchantId))

/-- `insert_merchant` (`caching/merchant.rs`). -/
def insertMerchant (new : MerchantNew) (key : T.Algorithm) :
    App T (Except T.MerchantError Merchant) :=
  insertThrough (inner (.insertMerchant new key)) (cacheData (.merchant new.merchantId))

/-- `find_all_keys_excluding_entity_keys` (`caching/merchant.rs`), which asks `T`. -/
def findAllKeysExcludingEntityKeys (key : T.Algorithm) (limit : ℤ) :
    App T (Except T.MerchantError (List Merchant)) :=
  inner (.findAllKeysExcludingEntityKeys key limit)

/-- `find_optional_by_data_hash` (`caching/hash_table.rs`). -/
def findOptionalByDataHash (dataHash : Bytes) : App T (Except T.HashError (Option HashTable)) :=
  findThrough (lookup (.hashTable dataHash)) some (inner (.findOptionalByDataHash dataHash)) id
    (cacheData (.hashTable dataHash))

/-- `insert_hash` (`caching/hash_table.rs`). -/
def insertHash (dataHash : Bytes) : App T (Except T.HashError HashTable) :=
  insertThrough (inner (.insertHash dataHash)) (cacheData (.hashTable dataHash))

/-- `find_optional_by_fingerprint_hash` (`caching/fingerprint.rs`). -/
def findOptionalByFingerprintHash (fingerprintHash : Bytes) :
    App T (Except T.FingerprintError (Option Fingerprint)) :=
  findThrough (lookup (.fingerprint fingerprintHash)) some
    (inner (.findOptionalByFingerprintHash fingerprintHash)) id
    (cacheData (.fingerprint fingerprintHash))

/-- `insert_fingerprint` (`caching/fingerprint.rs`), which caches under the hash of the
    row. -/
def insertFingerprint (fingerprintHash : Bytes) (fingerprintId : String) :
    App T (Except T.FingerprintError Fingerprint) :=
  insertThrough (inner (.insertFingerprint fingerprintHash fingerprintId))
    fun output => cacheData (.fingerprint output.fingerprintHash) output

/-- `find_by_entity_id` (`caching/entity.rs`), which caches under the id of the row. -/
def findByEntityId (entityId : String) : App T (Except T.EntityError Entity) :=
  findThrough (lookup (.entity entityId)) id (inner (.findByEntityId entityId)) some
    fun output => cacheData (.entity output.entityId) output

/-- `insert_entity` (`caching/entity.rs`). -/
def insertEntity (entityId identifier : String) : App T (Except T.EntityError Entity) :=
  insertThrough (inner (.insertEntity entityId identifier)) (cacheData (.entity entityId))

/-- A method called through `Caching`. -/
def call : (method : Method T) → App T method.Answer
  | .findByMerchantId merchantId key => findByMerchantId merchantId key
  | .insertMerchant new key => insertMerchant new key
  | .findAllKeysExcludingEntityKeys key limit => findAllKeysExcludingEntityKeys key limit
  | .findOptionalByDataHash dataHash => findOptionalByDataHash dataHash
  | .insertHash dataHash => insertHash dataHash
  | .findOptionalByFingerprintHash hash => findOptionalByFingerprintHash hash
  | .insertFingerprint hash fingerprintId => insertFingerprint hash fingerprintId
  | .findByEntityId entityId => findByEntityId entityId
  | .insertEntity entityId identifier => insertEntity entityId identifier

end Cached

end CardVault
