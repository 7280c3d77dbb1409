import CardVault.Kv.ReverseLookup

/-!
# The storage interfaces

The methods of `LockerInterface`, `HashInterface`, `FingerprintInterface` and
`VaultInterface` on `Storage` (`src/src/storage/db.rs`,
`src/src/storage/storage_v2/db.rs`), and the in-process cache in front of the
two of them whose rows never change (`src/src/storage/caching`). Values the
methods make up themselves (a UUID, the time) are arguments here.

Main results:
* `obeys_insertLocker` and its like: every method issues well-formed commands.
-/

namespace CardVault

open Interaction

section Interfaces

variable (store : KvStoreContext)

/-! ## LockerInterface -/

/-- `insert_locker`. -/
def insertLocker (new : LockerNew) : App (Except VaultDBError Locker) :=
  let partitionKey := .locker new.merchantId new.customerId new.lockerId
  insertResourceWithReverseLookup store Locker.kvSecondaryLookupResource new partitionKey

/-- `find_by_locker_id_merchant_id_customer_id`. -/
def findByLockerIdMerchantIdCustomerId (lockerId merchantId customerId : String) :
    App (Except VaultDBError Locker) :=
  findResourceById store Locker.kvResource { lockerId, merchantId, customerId }

/-- `find_optional_by_hash_id_merchant_id_customer_id`. -/
def findOptionalByHashIdMerchantIdCustomerId (hashId merchantId customerId : String) :
    App (Except VaultDBError (Option Locker)) :=
  findOptionalResourceByLookupId store Locker.kvSecondaryLookupResource
    { hashId, merchantId, customerId }

/-- `delete_locker`. -/
def deleteLocker (lockerId merchantId customerId : String) : App (Except VaultDBError ℕ) :=
  deleteResourceByIdWithReverseLookup store Locker.kvDeletableWithLookup
    { lockerId, merchantId, customerId }

/-! ## HashInterface -/

/-- `find_optional_by_data_hash`. -/
def findOptionalByDataHash (dataHash : Bytes) : App (Except HashDBError (Option HashTable)) :=
  findOptionalResourceById store HashTable.kvResource dataHash

/-- `insert_hash`, with the UUID and the time it takes. -/
def insertHash (uuid : String) (now : PrimitiveDateTime) (dataHash : Bytes) :
    App (Except HashDBError HashTable) :=
  insertResource store HashTable.kvResource
    { hashId := uuid, dataHash, createdAt := now, updatedBy := some .postgresOnly }
    (.hashTable dataHash)

/-! ## FingerprintInterface -/

/-- `find_optional_by_fingerprint_hash`. -/
def findOptionalByFingerprintHash (fingerprintHash : Bytes) :
    App (Except FingerprintDBError (Option Fingerprint)) :=
  findOptionalResourceById store Fingerprint.kvResource fingerprintHash

/-- `insert_fingerprint`. -/
def insertFingerprint (fingerprintHash : Bytes) (fingerprintId : String) :
    App (Except FingerprintDBError Fingerprint) :=
  insertResource store Fingerprint.kvResource
    { fingerprintHash, fingerprintId, updatedBy := some .postgresOnly }
    (.fingerprint fingerprintHash)

/-! ## VaultInterface -/

/-- `insert_vault`. -/
def insertVault (new : VaultNew) : App (Except VaultDBError Vault) :=
  insertResource store Vault.kvResource new.toVaultNewInner (.vault new.entityId new.vaultId)

/-- `find_by_vault_id_entity_id`. -/
def findByVaultIdEntityId (vaultId entityId : String) : App (Except VaultDBError Vault) :=
  (findOptionalResourceById store Vault.kvResource { entityId, vaultId }).mapResult fun
    | .ok (some vault) => .ok vault
    | .ok none => .error .notFoundError
    | .error err => .error err

/-- `update_vault_data`. -/
def updateVaultData (vaultId entityId : String) (update : VaultUpdate) :
    App (Except VaultDBError Vault) :=
  updateResourceById store Vault.kvUpdatableResource update { entityId, vaultId }

/-- `delete_from_vault`. -/
def deleteFromVault (vaultId entityId : String) : App (Except VaultDBError ℕ) :=
  deleteResourceById store Vault.kvDeletableResource { entityId, vaultId }

/-! ## Caching -/

namespace Caching

/-- `Caching::lookup::<Fingerprint>`. -/
def lookupFingerprint (fingerprintHash : Bytes) : App (Option Fingerprint) :=
  Prog.perform (Cmd.lookupFingerprint fingerprintHash)

/-- `Caching::cache_data::<Fingerprint>`. -/
def cacheFingerprint (fingerprintHash : Bytes) (value : Fingerprint) : App Unit :=
  Prog.perform (Cmd.cacheFingerprint fingerprintHash value)

/-- `Caching::lookup::<HashTable>`. -/
def lookupHashTable (dataHash : Bytes) : App (Option HashTable) :=
  Prog.perform (Cmd.lookupHashTable dataHash)

/-- `Caching::cache_data::<HashTable>`. -/
def cacheHashTable (dataHash : Bytes) (value : HashTable) : App Unit :=
  Prog.perform (Cmd.cacheHashTable dataHash value)

/-- `find_optional_by_fingerprint_hash` behind the cache. -/
def findOptionalByFingerprintHash (fingerprintHash : Bytes) :
    App (Except FingerprintDBError (Option Fingerprint)) :=
  (lookupFingerprint fingerprintHash).bind fun
    | some data => .pure (.ok (some data))
    | none =>
      (CardVault.findOptionalByFingerprintHash store fingerprintHash).andThen fun
        | some fingerprint =>
          (cacheFingerprint fingerprintHash fingerprint).mapResult fun _ => .ok (some fingerprint)
        | none => .pure (.ok none)

/-- `insert_fingerprint` behind the cache. -/
def insertFingerprint (fingerprintHash : Bytes) (fingerprintId : String) :
    App (Except FingerprintDBError Fingerprint) :=
  (CardVault.insertFingerprint store fingerprintHash fingerprintId).andThen fun output =>
    (cacheFingerprint output.fingerprintHash output).mapResult fun _ => .ok output

/-- `find_optional_by_data_hash` behind the cache. -/
def findOptionalByDataHash (dataHash : Bytes) : App (Except HashDBError (Option HashTable)) :=
  (lookupHashTable dataHash).bind fun
    | some value => .pure (.ok (some value))
    | none =>
      (CardVault.findOptionalByDataHash store dataHash).andThen fun
        | none => .pure (.ok none)
        | some value => (cacheHashTable dataHash value).mapResult fun _ => .ok (some value)

/-- `insert_hash` behind the cache. -/
def insertHash (uuid : String) (now : PrimitiveDateTime) (dataHash : Bytes) :
    App (Except HashDBError HashTable) :=
  (CardVault.insertHash store uuid now dataHash).andThen fun output =>
    (cacheHashTable dataHash output).mapResult fun _ => .ok output

end Caching

end Interfaces

/-! ## Lockers, with nothing in between -/

section LockerRun

variable (ctx : KvStoreContext) (s : Store)

theorem run_findByLockerIdMerchantIdCustomerId (pk : LockerPrimaryKeyType) :
    (findByLockerIdMerchantIdCustomerId ctx pk.lockerId pk.merchantId pk.customerId).run
        Store.exec s =
      ((Locker.kvResource.answer (s.visible pk.getPartitionKey)).map LockerInner.toLocker, s) :=
  Prog.run_mapResult_of (run_findResourceByIdInner ctx s Locker.spec pk) _

theorem run_findOptionalByHashIdMerchantIdCustomerId (hs : s.WellFormed ctx)
    (key : LockerHashLookupKey) :
    (findOptionalByHashIdMerchantIdCustomerId ctx key.hashId key.merchantId key.customerId).run
        Store.exec s =
      (optionalResult ((Locker.kvResource.answer (s.visibleByLookup key)).map
        LockerInner.toLocker), s) :=
  Prog.run_mapResult_of (run_findResourceByLookupId ctx s hs key) _

/-- A find of a locker answers the visible row. -/
theorem findLocker_ok_iff {pk : LockerPrimaryKeyType} {locker : Locker} :
    ((findByLockerIdMerchantIdCustomerId ctx pk.lockerId pk.merchantId pk.customerId).run
        Store.exec s).1 = .ok locker ↔
      ∃ row, s.visible pk.getPartitionKey = some (.locker row) ∧ row.toLocker = locker := by
  rw [run_findByLockerIdMerchantIdCustomerId]
  cases s.visible pk.getPartitionKey with
  | none => simp [KvResource.answer, Except.map]
  | some row => cases row <;> simp [KvResource.answer, Except.map]

theorem findLocker_notFound_iff (hs : s.WellFormed ctx) {pk : LockerPrimaryKeyType} :
    ((findByLockerIdMerchantIdCustomerId ctx pk.lockerId pk.merchantId pk.customerId).run
        Store.exec s).1 = .error .notFoundError ↔ s.visible pk.getPartitionKey = none := by
  rw [run_findByLockerIdMerchantIdCustomerId]
  cases hv : s.visible pk.getPartitionKey with
  | none => simp [KvResource.answer, Except.map, StorageErrorExt.fromDieselError,
      classifyDieselError]
  | some row =>
    obtain ⟨e, rfl, -⟩ := Locker.spec.exists_visible ctx s hs rfl hv
    simp [KvResource.answer, Except.map]

/-- A find by lookup columns answers no row. -/
theorem findLockerByHash_none_iff (hs : s.WellFormed ctx) {key : LockerHashLookupKey} :
    ((findOptionalByHashIdMerchantIdCustomerId ctx key.hashId key.merchantId key.customerId).run
        Store.exec s).1 = .ok none ↔ s.visibleByLookup key = none := by
  rw [run_findOptionalByHashIdMerchantIdCustomerId ctx s hs]
  cases s.visibleByLookup key with
  | none => simp [KvResource.answer, Except.map, StorageErrorExt.fromDieselError, optionalResult,
      classifyDieselError, StorageErrorExt.isNotFound]
  | some row => cases row <;> simp [KvResource.answer, Except.map, optionalResult, kvBackendError,
      StorageErrorExt.isNotFound, StorageErrorExt.fromKvError, classifyKvError]

/-- A find by lookup columns answers the row it is about to answer. -/
theorem findLockerByHash_some_iff (hs : s.WellFormed ctx) {key : LockerHashLookupKey}
    {locker : Locker} :
    ((findOptionalByHashIdMerchantIdCustomerId ctx key.hashId key.merchantId key.customerId).run
        Store.exec s).1 = .ok (some locker) ↔
      ∃ row, s.visibleByLookup key = some (.locker row) ∧ row.toLocker = locker := by
  rw [run_findOptionalByHashIdMerchantIdCustomerId ctx s hs]
  cases s.visibleByLookup key with
  | none => simp [KvResource.answer, Except.map, StorageErrorExt.fromDieselError, optionalResult,
      classifyDieselError, StorageErrorExt.isNotFound]
  | some row => cases row <;> simp [KvResource.answer, Except.map, optionalResult, kvBackendError,
      StorageErrorExt.isNotFound, StorageErrorExt.fromKvError, classifyKvError]

end LockerRun

/-! ## Vault rows, with nothing in between -/

namespace Store

/-- A new vault row is written, and its statement queued. -/
def writeVault (ctx : KvStoreContext) (s : Store) (new : VaultNew) : Store :=
  let row := { new.toVaultNewInner with updatedBy := some .redisKv }
  s.write ctx new.primaryKey.getPartitionKey (.vault row.toVaultInner)
    ⟨.insertVault row, Resource.vault.entityType, .insert⟩

/-- A vault row is written with an update applied, and its statement queued. -/
def rewriteVault (ctx : KvStoreContext) (s : Store) (pk : VaultPrimaryKey) (update : VaultUpdate)
    (current : VaultInner) : Store :=
  let update := { update with updatedBy := .redisKv }
  s.write ctx pk.getPartitionKey (.vault (VaultInner.fromUpdate update current))
    ⟨.updateVault pk update, Resource.vault.entityType, .update⟩

/-- The vault row a find is about to answer. -/
def visibleVault (s : Store) (pk : VaultPrimaryKey) : Option VaultInner :=
  (s.visible pk.getPartitionKey).bind Vault.kvResource.deserialize

end Store

section VaultRun

variable (ctx : KvStoreContext) (s : Store)

theorem run_insertVault_enabled (hmode : s.mode = .enabled) (new : VaultNew) :
    (insertVault ctx new).run Store.exec s =
      match s.cached new.primaryKey.getPartitionKey with
      | some _ => (.error .duplicate, s)
      | none =>
        (.ok { new.toVaultNewInner with updatedBy := some .redisKv }.toVaultInner.toVault,
          s.writeVault ctx new) :=
  run_insertResource_enabled ctx s Vault.spec hmode new.toVaultNewInner
    new.primaryKey.getPartitionKey

theorem run_insertVault_postgresOnly (hmode : s.mode ≠ .enabled) (new : VaultNew) :
    (insertVault ctx new).run Store.exec s =
      (((s.pg.execute (.insertVault { new.toVaultNewInner with
          updatedBy := some .postgresOnly })).1.mapError StorageErrorExt.fromDieselError).map
            VaultInner.toVault,
        { s with pg := s.pg.apply (.insertVault { new.toVaultNewInner with
          updatedBy := some .postgresOnly }) }) := by
  have hinsert := run_executeOnPrimary (E := VaultDBError) s
    (.insertVault { new.toVaultNewInner with updatedBy := some .postgresOnly })
  refine (run_insertResource_postgresOnly ctx s (M := Vault.kvResource) hmode new.toVaultNewInner
    new.primaryKey.getPartitionKey).trans ?_
  exact congrArg (fun answer => (Except.map VaultInner.toVault answer.1, answer.2)) hinsert

theorem answer_visibleVault (hs : s.WellFormed ctx) (pk : VaultPrimaryKey) :
    Vault.kvResource.answer (s.visible pk.getPartitionKey) =
      match s.visibleVault pk with
      | some row => .ok row
      | none => .error .notFoundError := by
  unfold Store.visibleVault
  cases hv : s.visible pk.getPartitionKey with
  | none => rfl
  | some row =>
    obtain ⟨e, rfl, -⟩ := Vault.spec.exists_visible ctx s hs rfl hv
    rfl

theorem run_findByVaultIdEntityId (hs : s.WellFormed ctx) (pk : VaultPrimaryKey) :
    (findByVaultIdEntityId ctx pk.vaultId pk.entityId).run Store.exec s =
      (match s.visibleVault pk with
        | some row => .ok row.toVault
        | none => .error .notFoundError, s) := by
  have hfind := run_findOptionalResourceById ctx s Vault.spec pk
  rw [show Vault.kvResource.answer (s.visible (Vault.kvResource.getPartitionKey pk)) = _ from
    answer_visibleVault ctx s hs pk] at hfind
  unfold findByVaultIdEntityId
  refine (Prog.run_mapResult_of hfind _).trans ?_
  cases s.visibleVault pk <;> rfl

/-- An update that goes through Redis. -/
theorem run_updateVaultData_redisKv (hs : s.WellFormed ctx) (pk : VaultPrimaryKey)
    (h : s.ThroughRedis pk.getPartitionKey) (update : VaultUpdate) :
    (updateVaultData ctx pk.vaultId pk.entityId update).run Store.exec s =
      match s.visibleVault pk with
      | none => (.error .notFoundError, s)
      | some current =>
        (.ok (VaultInner.fromUpdate { update with updatedBy := .redisKv } current).toVault,
          s.rewriteVault ctx pk update current) := by
  have hrun := run_updateResourceById_redisKv ctx s Vault.updatableSpec update pk
    (h.imp_right fun h => ⟨h.1, ?_⟩)
  · rw [show Vault.kvUpdatableResource.answer (s.visible
      (Vault.kvUpdatableResource.getPartitionKey pk)) = _ from answer_visibleVault ctx s hs pk]
      at hrun
    refine hrun.trans ?_
    cases s.visibleVault pk <;> rfl
  · obtain ⟨row, hrow⟩ := Option.isSome_iff_exists.1 h.2
    obtain ⟨e, _, he⟩ := Vault.spec.exists_cached ctx hs
      (Vault.spec.getPartitionKey_resource pk) hrow
    exact ⟨row, e, hrow, he⟩

/-- An update that goes to Postgres. -/
theorem run_updateVaultData_postgresOnly (pk : VaultPrimaryKey)
    (h : s.mode = .disabled ∨ s.mode = .softKill ∧ s.cached pk.getPartitionKey = none)
    (update : VaultUpdate) :
    (updateVaultData ctx pk.vaultId pk.entityId update).run Store.exec s =
      (((s.pg.execute (.updateVault pk { update with
          updatedBy := .postgresOnly })).1.mapError StorageErrorExt.fromDieselError).map
            VaultInner.toVault,
        { s with pg := s.pg.apply (.updateVault pk { update with updatedBy := .postgresOnly }) }) :=
  (run_updateResourceById_postgresOnly ctx s (M := Vault.kvUpdatableResource) update pk h).trans
    (Vault.run_storageUpdate _ pk s)

theorem run_deleteFromVault (hs : s.WellFormed ctx) (pk : VaultPrimaryKey) :
    ∃ count, (deleteFromVault ctx pk.vaultId pk.entityId).run Store.exec s =
      (.ok count, s.remove ctx pk.getPartitionKey
        ⟨.deleteVault pk, Resource.vault.entityType, .delete⟩) :=
  run_deleteResourceByIdInner ctx s Vault.deletableSpec hs pk

end VaultRun

/-! ## Commands issued -/

section Obeys

variable (ctx : KvStoreContext)

theorem obeys_insertLocker (new : LockerNew) : Obeys ctx (insertLocker ctx new) fun _ => True :=
  obeys_insertResourceWithReverseLookup ctx (M := Locker.kvSecondaryLookupResource) Locker.spec
    new rfl

theorem obeys_findByLockerIdMerchantIdCustomerId (lockerId merchantId customerId : String) :
    Obeys ctx (findByLockerIdMerchantIdCustomerId ctx lockerId merchantId customerId)
      fun _ => True :=
  obeys_findResourceById ctx Locker.spec _

theorem obeys_findOptionalByHashIdMerchantIdCustomerId (hashId merchantId customerId : String) :
    Obeys ctx (findOptionalByHashIdMerchantIdCustomerId ctx hashId merchantId customerId)
      fun _ => True :=
  Obeys.discard (obeys_findResourceByLookupId ctx (M := Locker.kvSecondaryLookupResource) _
    (Obeys.discard ((obeys_findOnRouted ctx _).mono fun _ _ => trivial)))

theorem obeys_deleteLocker (lockerId merchantId customerId : String) :
    Obeys ctx (deleteLocker ctx lockerId merchantId customerId) fun _ => True :=
  obeys_deleteResourceByIdWithReverseLookup ctx (M := Locker.kvDeletableWithLookup)
    Locker.deletableSpec _

theorem obeys_findOptionalByDataHash (dataHash : Bytes) :
    Obeys ctx (findOptionalByDataHash ctx dataHash) fun _ => True :=
  obeys_findOptionalResourceById ctx HashTable.spec dataHash

theorem obeys_insertHash (uuid : String) (now : PrimitiveDateTime) (dataHash : Bytes) :
    Obeys ctx (insertHash ctx uuid now dataHash) fun _ => True :=
  obeys_insertResource ctx HashTable.spec _ rfl

theorem obeys_findOptionalByFingerprintHash (fingerprintHash : Bytes) :
    Obeys ctx (findOptionalByFingerprintHash ctx fingerprintHash) fun _ => True :=
  obeys_findOptionalResourceById ctx Fingerprint.spec fingerprintHash

theorem obeys_insertFingerprint (fingerprintHash : Bytes) (fingerprintId : String) :
    Obeys ctx (insertFingerprint ctx fingerprintHash fingerprintId) fun _ => True :=
  obeys_insertResource ctx Fingerprint.spec _ rfl

theorem obeys_insertVault (new : VaultNew) : Obeys ctx (insertVault ctx new) fun _ => True :=
  obeys_insertResource ctx Vault.spec _ rfl

theorem obeys_findByVaultIdEntityId (vaultId entityId : String) :
    Obeys ctx (findByVaultIdEntityId ctx vaultId entityId) fun _ => True :=
  Obeys.discard (obeys_findOptionalResourceById ctx Vault.spec _)

theorem obeys_updateVaultData (vaultId entityId : String) (update : VaultUpdate) :
    Obeys ctx (updateVaultData ctx vaultId entityId update) fun _ => True :=
  obeys_updateResourceById ctx Vault.updatableSpec update _

theorem obeys_deleteFromVault (vaultId entityId : String) :
    Obeys ctx (deleteFromVault ctx vaultId entityId) fun _ => True :=
  obeys_deleteResourceByIdInner ctx Vault.deletableSpec _

end Obeys

end CardVault
