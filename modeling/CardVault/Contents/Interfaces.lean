import CardVault.Contents.Resources

/-!
# The storage interfaces keep what rows hold

The methods of `src/src/storage/db.rs` and `src/src/storage/storage_v2/db.rs`, the cache in
front of them, and the compositions of `src/src/domain/*.rs`.

Main results:
* `keeps_getOrInsertLocker`, `keeps_findByLockerIdMerchantIdCustomerId`,
  `keeps_deleteLocker`: what the card routes call.
* `keeps_getOrInsertVault`, `keeps_upsertVault`, `keeps_findByVaultIdEntityId`,
  `keeps_deleteFromVault`: what the data routes call.
* `keeps_insertOrGetHash`, `keeps_getOrInsertFingerprint`.
-/

namespace CardVault

open Interaction Relational

variable {σ : Type} [Preorder σ] {ctx : KvStoreContext} {K : Contents σ} {x : σ}

/-! ## The impls -/

section Impls

variable {M : KvResource} {E : Type} [StorageErrorExt E]

/-- A row that was asked for by key. -/
theorem Query.Tells.at {q : Query} {out : q.Output} {e : M.DieselEntity} {key : PartitionKey}
    {y : σ} (h : q.Tells (K.Of y) out) (hrow : q.outputRow out = some (M.serialize e))
    (hkey : q.rowKey = some key) : M.At key e ∧ K.Of y (M.serialize e) :=
  ⟨congrArg _ ((h _ hrow).1 key (by rw [hkey]; rfl)), (h _ hrow).2⟩

/-- A DELETE stores no row. -/
theorem Statement.stores_of_delete {R : Row → Prop} {stmt : Statement}
    (h : stmt.effect = .delete) : stmt.Stores R := by
  unfold Statement.Stores
  rw [h]
  trivial

theorem Fingerprint.keeps : Fingerprint.kvResource.Keeps ctx K where
  setStorageScheme _ _ _ h := h
  storageInsert _ new h := (keeps_executeOnPrimary (.insertFingerprint new)
    (Fingerprint.spec.insertStatement_stores h)).mono fun _ _ _ hreply e he =>
      (hreply e he).at rfl rfl
  storageFind _ pk := (keeps_findOnRouted (q := .findFingerprint pk) fun _ _ => trivial).mono
    fun _ _ _ hreply e he => (hreply e he).at rfl rfl

theorem HashTable.keeps : HashTable.kvResource.Keeps ctx K where
  setStorageScheme _ _ _ h := h
  storageInsert _ new h := (keeps_executeOnPrimary (.insertHashTable new)
    (HashTable.spec.insertStatement_stores h)).mono fun _ _ _ hreply e he =>
      (hreply e he).at rfl rfl
  storageFind _ pk := (keeps_findOnRouted (q := .findHashTable pk) fun _ _ => trivial).mono
    fun _ _ _ hreply e he => (hreply e he).at rfl rfl

theorem Locker.keeps : Locker.kvResource.Keeps ctx K where
  setStorageScheme _ _ _ h := h
  storageInsert _ new h := (keeps_executeOnPrimary (.insertLocker new)
    (Locker.spec.insertStatement_stores h)).mono fun _ _ _ hreply e he =>
      (hreply e he).at rfl rfl
  storageFind _ pk := (keeps_findOnRouted (q := .findLocker pk) fun _ _ => trivial).mono
    fun _ _ _ hreply e he => (hreply e he).at rfl rfl

theorem ReverseLookup.keeps : ReverseLookup.kvResource.Keeps ctx K where
  setStorageScheme _ _ _ h := h
  storageInsert _ new h := (keeps_executeOnPrimary (.insertReverseLookup new)
    (ReverseLookup.spec.insertStatement_stores h)).mono fun _ _ _ hreply e he =>
      (hreply e he).at rfl rfl
  storageFind _ pk := (keeps_findOnPrimary (q := .findReverseLookup pk) fun _ _ => trivial).mono
    fun _ _ _ hreply e he => (hreply e he).at rfl rfl

theorem Vault.keeps : Vault.kvResource.Keeps ctx K where
  setStorageScheme _ _ _ h := h
  storageInsert _ new h := (keeps_executeOnPrimary (.insertVault new)
    (Vault.spec.insertStatement_stores h)).mono fun _ _ _ hreply e he =>
      (hreply e he).at rfl rfl
  storageFind _ pk := (keeps_findOnRouted (q := .findVault pk) fun _ _ => trivial).mono
    fun _ _ _ hreply e he => (hreply e he).at rfl rfl

end Impls

/-! ## Lockers -/

theorem keeps_insertReverseLookup (new : ReverseLookupNew) :
    KeepsContents ctx K (insertReverseLookup ctx new) (fun _ _ => True) x :=
  (keeps_insertResource ReverseLookup.spec ReverseLookup.keeps (K := K) new trivial rfl).any

theorem keeps_deleteReverseLookup (lookupId : String) :
    KeepsContents ctx K (deleteReverseLookup ctx lookupId) (fun _ _ => True) x :=
  keeps_deleteResourceByIdInner ReverseLookup.deletableSpec
    (fun _ _ => (keeps_executeOnPrimary _ (Statement.stores_of_delete rfl)).any) lookupId

theorem keeps_findByLookupId (lookupId : String) :
    KeepsContents ctx K (findByLookupId ctx lookupId) (fun _ _ => True) x :=
  (keeps_findResourceById ReverseLookup.spec ReverseLookup.keeps lookupId).any

theorem keeps_insertLocker (new : LockerNew)
    (hnew : K.data x new.primaryKey.getPartitionKey.display new.encData) :
    KeepsContents ctx K (insertLocker ctx new) (fun _ _ => True) x := by
  refine Prog.Safe.mapResult (KeepsContents.any (keeps_insertResourceInner
    (M := Locker.kvResource) Locker.spec Locker.keeps new hnew rfl fun _ => ?_))
  exact keeps_mapResult (keeps_insertReverseLookup _) _

/-- A find of a locker answers allowed data. -/
theorem keeps_findByLockerIdMerchantIdCustomerId (pk : LockerPrimaryKeyType) :
    KeepsContents ctx K
      (findByLockerIdMerchantIdCustomerId ctx pk.lockerId pk.merchantId pk.customerId)
      (fun reply y => ∀ locker, reply = .ok locker → ∃ encData,
        locker.data = .encrypted encData ∧ K.data y pk.getPartitionKey.display encData) x := by
  refine (keeps_findResourceById Locker.spec Locker.keeps pk).mono
    fun reply y _ hreply locker hlocker => ?_
  obtain ⟨e, rfl, hat, hof⟩ := hreply locker hlocker
  change e.primaryKey.getPartitionKey.display = pk.getPartitionKey.display at hat
  rw [← hat]
  exact ⟨e.encData, rfl, hof⟩

theorem keeps_storageFindByLookup (key : LockerHashLookupKey) :
    KeepsContents ctx K (Locker.storageFindByLookup key) (fun _ _ => True) x :=
  keeps_mapResult (keeps_findOnRouted (q := .findLockerByHash key) fun _ _ => trivial) _

theorem keeps_findOptionalByHashIdMerchantIdCustomerId (key : LockerHashLookupKey) :
    KeepsContents ctx K
      (findOptionalByHashIdMerchantIdCustomerId ctx key.hashId key.merchantId key.customerId)
      (fun _ _ => True) x := by
  refine keeps_mapResult (Q := fun _ _ => True) ?_ optionalResult
  refine Prog.Safe.bind (Q := fun _ _ => True) (keeps_mapResult keeps_kvSettings _)
    fun scheme y _ _ => ?_
  cases scheme with
  | postgresOnly => exact keeps_storageFindByLookup key
  | redisKv =>
    refine keeps_andThen (keeps_mapResult (keeps_findByLookupId _) _) fun found z _ => ?_
    cases found with
    | none => exact keeps_storageFindByLookup key
    | some keyStr =>
      refine keeps_andThen (keeps_mapResult (keeps_kvWrapper_hGet (.combinationKey keyStr))
        _) fun result w _ => ?_
      cases result with
      | none => exact keeps_storageFindByLookup key
      | some v => exact keeps_pure _

theorem keeps_deleteLocker (pk : LockerPrimaryKeyType) :
    KeepsContents ctx K (deleteLocker ctx pk.lockerId pk.merchantId pk.customerId)
      (fun _ _ => True) x := by
  refine keeps_andThen (keeps_findOptionalResourceById Locker.spec Locker.keeps pk)
    fun resource y _ => keeps_andThen (keeps_deleteResourceByIdInner Locker.deletableSpec
      (fun _ _ => (keeps_executeOnPrimary _ (Statement.stores_of_delete rfl)).any) pk)
      fun deletedRows z _ => ?_
  cases resource with
  | none => exact keeps_pure _
  | some resource =>
    exact keeps_andThen (keeps_mapResult (keeps_deleteReverseLookup _) _)
      fun _ _ _ => keeps_pure _

/-! ## Vault rows -/

theorem keeps_insertVault (new : VaultNew)
    (hnew : K.data x new.primaryKey.getPartitionKey.display new.encryptedData) :
    KeepsContents ctx K (insertVault ctx new) (fun _ _ => True) x :=
  (keeps_insertResource (M := Vault.kvResource) Vault.spec Vault.keeps new.toVaultNewInner hnew
    rfl).any

/-- A find of a vault row answers allowed data. -/
theorem keeps_findByVaultIdEntityId (pk : VaultPrimaryKey) :
    KeepsContents ctx K (findByVaultIdEntityId ctx pk.vaultId pk.entityId)
      (fun reply y => ∀ vault, reply = .ok vault → ∃ encryptedData,
        vault.data = .encrypted encryptedData ∧
          K.data y pk.getPartitionKey.display encryptedData) x := by
  refine Prog.Safe.mapResult ((keeps_findOptionalResourceById Vault.spec Vault.keeps pk).mono
    fun reply y _ hreply vault hvault => ?_)
  cases reply with
  | error e => cases hvault
  | ok found =>
    cases found with
    | none => cases hvault
    | some vault' =>
      cases hvault
      obtain ⟨e, rfl, hat, hof⟩ := hreply _ rfl
      change e.primaryKey.getPartitionKey.display = pk.getPartitionKey.display at hat
      rw [← hat]
      exact ⟨e.encryptedData, rfl, hof⟩

/-- The UPDATE of a vault row stores the data of the update. -/
theorem updateVault_stores {pk : VaultPrimaryKey} {update : VaultUpdate}
    (h : K.data x pk.getPartitionKey.display update.encryptedData) :
    (Statement.updateVault pk update).Stores (K.Of x) := by
  intro row hrow
  cases row with
  | vault row =>
    have hkey : row.primaryKey.getPartitionKey = pk.getPartitionKey := hrow
    change K.data x row.primaryKey.getPartitionKey.display update.encryptedData
    rwa [hkey]
  | fingerprint row => cases hrow
  | locker row => cases hrow
  | hashTable row => trivial
  | reverseLookup row => trivial

theorem keeps_updateVaultData (pk : VaultPrimaryKey) (update : VaultUpdate)
    (h : K.data x pk.getPartitionKey.display update.encryptedData) :
    KeepsContents ctx K (updateVaultData ctx pk.vaultId pk.entityId update) (fun _ _ => True)
      x := by
  refine keeps_updateResourceById (M := Vault.kvUpdatableResource) Vault.updatableSpec Vault.keeps
    update pk (updateVault_stores h) (fun e hat => ?_)
    (keeps_mapResult (keeps_executeOnPrimary (E := VaultDBError)
      (.updateVault pk { update with updatedBy := .postgresOnly }) (updateVault_stores h))
      (Except.map VaultInner.toVault))
  change e.primaryKey.getPartitionKey.display = pk.getPartitionKey.display at hat
  change K.data x e.primaryKey.getPartitionKey.display update.encryptedData
  rwa [hat]

theorem keeps_deleteFromVault (pk : VaultPrimaryKey) :
    KeepsContents ctx K (deleteFromVault ctx pk.vaultId pk.entityId) (fun _ _ => True) x :=
  keeps_deleteResourceByIdInner Vault.deletableSpec
    (fun _ _ => (keeps_executeOnPrimary _ (Statement.stores_of_delete rfl)).any) pk

/-! ## Compositions -/

theorem keeps_onDuplicate {E α : Type} [StorageErrorExt E] {insert recover : App (Except E α)}
    {Q : Except E α → σ → Prop} (hinsert : KeepsContents ctx K insert Q x)
    (herr : ∀ err y, x ≤ y → Q (.error err) y)
    (hrecover : ∀ y, x ≤ y → KeepsContents ctx K recover Q y) :
    KeepsContents ctx K (onDuplicate insert recover) Q x := by
  refine hinsert.lasting.bind fun reply y hxy hreply => ?_
  cases reply with
  | ok a => exact hreply
  | error err =>
    dsimp only
    split_ifs
    · exact hrecover y hxy
    · exact fun z hyz => herr err z (hxy.trans hyz)

theorem keeps_getOrInsertLocker (new : LockerNew)
    (hnew : K.data x new.primaryKey.getPartitionKey.display new.encData) :
    KeepsContents ctx K (getOrInsertLocker ctx new) (fun _ _ => True) x :=
  keeps_onDuplicate (keeps_insertLocker new hnew) (fun _ _ _ => trivial)
    fun _ _ => (keeps_findByLockerIdMerchantIdCustomerId new.primaryKey).any

theorem keeps_getOrInsertVault (new : VaultNew)
    (hnew : K.data x new.primaryKey.getPartitionKey.display new.encryptedData) :
    KeepsContents ctx K (getOrInsertVault ctx new) (fun _ _ => True) x :=
  keeps_onDuplicate (keeps_insertVault new hnew) (fun _ _ _ => trivial)
    fun _ _ => (keeps_findByVaultIdEntityId new.primaryKey).any

theorem keeps_upsertVault (new : VaultNew)
    (hnew : K.data x new.primaryKey.getPartitionKey.display new.encryptedData) :
    KeepsContents ctx K (upsertVault ctx new) (fun _ _ => True) x :=
  keeps_onDuplicate (keeps_insertVault new hnew) (fun _ _ _ => trivial)
    fun _ hxy => keeps_updateVaultData new.primaryKey new.toVaultUpdate (K.data_mono _ _ _ _ hxy
      hnew)

/-! ## Hashes and fingerprints, behind the cache -/

section Cached

variable {fingerprintHash dataHash : Bytes}

theorem keeps_insertHash (uuid : String) (now : PrimitiveDateTime) :
    KeepsContents ctx K (Caching.insertHash ctx uuid now dataHash) (fun _ _ => True) x := by
  refine Prog.Safe.andThen (keeps_insertResource (M := HashTable.kvResource) HashTable.spec
    HashTable.keeps _ trivial rfl) (fun _ _ _ _ => trivial) fun output y _ hreply => ?_
  obtain ⟨e, rfl, hat, -⟩ := hreply output rfl
  exact keeps_mapResult (keeps_perform (.cacheHashTable dataHash e) trivial
    ⟨PartitionKey.display_hashTable_inj.1 hat, trivial⟩) _

theorem keeps_findOptionalByDataHash :
    KeepsContents ctx K (Caching.findOptionalByDataHash ctx dataHash) (fun _ _ => True) x := by
  refine (keeps_perform (.lookupHashTable dataHash) trivial trivial).bind
    fun reply y _ _ => ?_
  cases (reply : Option HashTable) with
  | some value => exact keeps_pure _
  | none =>
    refine Prog.Safe.andThen (keeps_findOptionalResourceById HashTable.spec HashTable.keeps
      dataHash) (fun _ _ _ _ => trivial) fun found z _ hreply => ?_
    cases found with
    | none => exact keeps_pure _
    | some value =>
      obtain ⟨e, rfl, hat, -⟩ := hreply _ rfl
      exact keeps_mapResult (keeps_perform (.cacheHashTable dataHash e) trivial
        ⟨PartitionKey.display_hashTable_inj.1 hat, trivial⟩) _

theorem keeps_insertOrGetHash (uuid : String) (now : PrimitiveDateTime) :
    KeepsContents ctx K (insertOrGetHash ctx uuid now dataHash) (fun _ _ => True) x :=
  keeps_onDuplicate (keeps_insertHash uuid now) (fun _ _ _ => trivial)
    fun _ _ => keeps_mapResult keeps_findOptionalByDataHash _

/-- A fingerprint that may be the one of the hash. -/
def Contents.Identifies (K : Contents σ) (fingerprintHash : Bytes) (fingerprint : Fingerprint)
    (y : σ) : Prop :=
  fingerprint.fingerprintHash = fingerprintHash ∧
    K.fingerprint y fingerprintHash fingerprint.fingerprintId

theorem identifies_of_finds {fingerprint : Fingerprint} {y : σ}
    (h : Fingerprint.kvResource.Finds K (.fingerprint fingerprintHash) fingerprint y) :
    K.Identifies fingerprintHash fingerprint y := by
  obtain ⟨e, rfl, hat, hof⟩ := h
  cases PartitionKey.display_fingerprint_inj.1 hat
  exact ⟨rfl, hof⟩

theorem Contents.Identifies.cache {fingerprint : Fingerprint}
    (h : K.Identifies fingerprintHash fingerprint x) :
    (Cmd.cacheFingerprint fingerprintHash fingerprint).Stores (K.Of x) := by
  obtain ⟨rfl, hof⟩ := h
  exact ⟨rfl, hof⟩

theorem Contents.Identifies.mono {fingerprint : Fingerprint} {y : σ}
    (h : K.Identifies fingerprintHash fingerprint x) (hxy : x ≤ y) :
    K.Identifies fingerprintHash fingerprint y :=
  ⟨h.1, K.fingerprint_mono _ _ _ _ hxy h.2⟩

theorem keeps_insertFingerprint {fingerprintId : String}
    (hnew : K.fingerprint x fingerprintHash fingerprintId) :
    KeepsContents ctx K (Caching.insertFingerprint ctx fingerprintHash fingerprintId)
      (fun reply y => ∀ fingerprint, reply = .ok fingerprint →
        K.Identifies fingerprintHash fingerprint y) x := by
  refine Prog.Safe.andThen (keeps_insertResource (M := Fingerprint.kvResource) Fingerprint.spec
    Fingerprint.keeps ⟨fingerprintHash, fingerprintId, some .postgresOnly⟩ hnew rfl)
    (fun _ _ _ _ _ h => by cases h) fun output y _ hreply => ?_
  have hid := identifies_of_finds (hreply output rfl)
  refine Prog.Safe.mapResult ((keeps_perform (.cacheFingerprint output.fingerprintHash output)
    trivial ?_).mono fun _ z hyz _ fingerprint h => ?_)
  · rw [hid.1]
    exact hid.cache
  · cases h
    exact hid.mono hyz

theorem keeps_findOptionalByFingerprintHash :
    KeepsContents ctx K (Caching.findOptionalByFingerprintHash ctx fingerprintHash)
      (fun reply y => ∀ fingerprint, reply = .ok (some fingerprint) →
        K.Identifies fingerprintHash fingerprint y) x := by
  refine (keeps_perform (.lookupFingerprint fingerprintHash) trivial trivial).bind
    fun reply y _ hreply => ?_
  have htells := hreply.2
  cases (reply : Option Fingerprint) with
  | some value =>
    intro z hyz fingerprint h
    cases h
    obtain ⟨hkey, hof⟩ := htells value rfl
    subst hkey
    exact ⟨rfl, K.fingerprint_mono _ _ _ _ hyz hof⟩
  | none =>
    refine Prog.Safe.andThen (keeps_findOptionalResourceById Fingerprint.spec Fingerprint.keeps
      fingerprintHash) (fun _ _ _ _ _ h => by cases h) fun found z _ hfound => ?_
    cases found with
    | none => exact fun _ _ _ h => by cases h
    | some value =>
      have hid := identifies_of_finds (hfound value rfl)
      refine Prog.Safe.mapResult ((keeps_perform (.cacheFingerprint fingerprintHash value) trivial
        hid.cache).mono fun _ w hzw _ fingerprint h => ?_)
      cases h
      exact hid.mono hzw

/-- The fingerprint that is answered is an allowed one of the hash asked for. -/
theorem keeps_getOrInsertFingerprint {sign : Bytes → Bytes → Bytes} {nanoId data key : String}
    {fingerprintId : Option String}
    (hnew : K.fingerprint x
      (hmacSha512Encode sign key.toUTF8.data.toList data.toUTF8.data.toList)
      (fingerprintId.getD nanoId)) :
    KeepsContents ctx K (getOrInsertFingerprint ctx sign nanoId data key fingerprintId)
      (fun reply y => ∀ fingerprint, reply = .ok fingerprint → K.Identifies
        (hmacSha512Encode sign key.toUTF8.data.toList data.toUTF8.data.toList) fingerprint y)
      x := by
  refine Prog.Safe.andThen keeps_findOptionalByFingerprintHash (fun _ _ _ _ _ h => by cases h)
    fun found y hxy hfound => ?_
  cases found with
  | some value =>
    intro z hyz fingerprint h
    cases h
    exact (hfound value rfl).mono hyz
  | none =>
    refine keeps_onDuplicate (keeps_insertFingerprint (K.fingerprint_mono _ _ _ _ hxy hnew))
      (fun _ _ _ _ h => by cases h) fun z _ => Prog.Safe.mapResult
        (keeps_findOptionalByFingerprintHash.mono fun reply w _ hreply fingerprint h => ?_)
    cases reply with
    | error e => cases h
    | ok found =>
      cases found with
      | none => cases h
      | some value =>
        cases h
        exact hreply _ rfl

end Cached

end CardVault
