import CardVault.Replica

/-!
# The build without the KV layer

The bodies that the methods of the storage interfaces have when the crate is
compiled without its `kv` feature (the `cfg(not(feature = "kv"))` blocks of
`src/src/storage/db.rs` and `src/src/storage/storage_v2/db.rs`), next to the ones
with it. All of them use the primary.

Main results:
* `Method.withKv_eq_withoutKv`: with the KV mode `Disabled` a method does what it
  does without the feature, on the pool that its reads are routed to.
* `Method.withKv_differs`: which is not always the primary.
-/

namespace CardVault

open Interaction

/-! ## The methods without the feature -/

/-- `OptionalExtension::optional`. -/
def optionalRow {α : Type} : Except DieselError α → Except DieselError (Option α)
  | .ok row => .ok (some row)
  | .error .notFound => .ok none
  | .error e => .error e

/-- A read of at most one row on the primary pool. -/
def findOptionalOnPrimary (E : Type) [StorageErrorExt E] (q : Query) :
    App (Except E (Option q.Output)) :=
  getConn.andThen fun pool =>
    (Prog.perform (Cmd.query pool q)).mapResult fun reply : Except DieselError q.Output =>
      (optionalRow reply).mapError StorageErrorExt.fromDieselError

namespace WithoutKv

/-- `insert_locker`. -/
def insertLocker (new : LockerNew) : App (Except VaultDBError Locker) :=
  (executeOnPrimary VaultDBError (.insertLocker new)).mapResult (Except.map LockerInner.toLocker)

/-- `find_by_locker_id_merchant_id_customer_id`. -/
def findByLockerIdMerchantIdCustomerId (lockerId merchantId customerId : String) :
    App (Except VaultDBError Locker) :=
  (findOnPrimary VaultDBError (.findLocker ⟨lockerId, merchantId, customerId⟩)).mapResult
    (Except.map LockerInner.toLocker)

/-- `find_optional_by_hash_id_merchant_id_customer_id`. -/
def findOptionalByHashIdMerchantIdCustomerId (hashId merchantId customerId : String) :
    App (Except VaultDBError (Option Locker)) :=
  (findOptionalOnPrimary VaultDBError
    (.findLockerByHash ⟨hashId, merchantId, customerId⟩)).mapResult
      (Except.map (Option.map LockerInner.toLocker))

/-- `delete_locker`. -/
def deleteLocker (lockerId merchantId customerId : String) : App (Except VaultDBError ℕ) :=
  executeOnPrimary VaultDBError (.deleteLocker ⟨lockerId, merchantId, customerId⟩)

/-- `find_optional_by_data_hash`. -/
def findOptionalByDataHash (dataHash : Bytes) : App (Except HashDBError (Option HashTable)) :=
  findOptionalOnPrimary HashDBError (.findHashTable dataHash)

/-- `insert_hash`, with the UUID and the time it takes. -/
def insertHash (uuid : String) (now : PrimitiveDateTime) (dataHash : Bytes) :
    App (Except HashDBError HashTable) :=
  executeOnPrimary HashDBError (.insertHashTable
    { hashId := uuid, dataHash, createdAt := now, updatedBy := some .postgresOnly })

/-- `find_optional_by_fingerprint_hash`. -/
def findOptionalByFingerprintHash (fingerprintHash : Bytes) :
    App (Except FingerprintDBError (Option Fingerprint)) :=
  findOptionalOnPrimary FingerprintDBError (.findFingerprint fingerprintHash)

/-- `insert_fingerprint`. -/
def insertFingerprint (fingerprintHash : Bytes) (fingerprintId : String) :
    App (Except FingerprintDBError Fingerprint) :=
  executeOnPrimary FingerprintDBError (.insertFingerprint
    { fingerprintHash, fingerprintId, updatedBy := some .postgresOnly })

/-- `insert_vault`: the columns of a `VaultNew` are those of a `VaultNewInner`. -/
def insertVault (new : VaultNew) : App (Except VaultDBError Vault) :=
  (executeOnPrimary VaultDBError (.insertVault new.toVaultNewInner)).mapResult
    (Except.map VaultInner.toVault)

/-- `find_by_vault_id_entity_id`. -/
def findByVaultIdEntityId (vaultId entityId : String) : App (Except VaultDBError Vault) :=
  (findOnPrimary VaultDBError (.findVault { entityId, vaultId })).mapResult
    (Except.map VaultInner.toVault)

/-- `update_vault_data`. -/
def updateVaultData (vaultId entityId : String) (update : VaultUpdate) :
    App (Except VaultDBError Vault) :=
  (executeOnPrimary VaultDBError (.updateVault { entityId, vaultId } update)).mapResult
    (Except.map VaultInner.toVault)

/-- `delete_from_vault`. -/
def deleteFromVault (vaultId entityId : String) : App (Except VaultDBError ℕ) :=
  executeOnPrimary VaultDBError (.deleteVault { entityId, vaultId })

end WithoutKv

/-! ## The methods of both builds -/

/-- A call of a method of the four interfaces. -/
inductive Method where
  | insertLocker (new : LockerNew)
  | findByLockerIdMerchantIdCustomerId (lockerId merchantId customerId : String)
  | findOptionalByHashIdMerchantIdCustomerId (hashId merchantId customerId : String)
  | deleteLocker (lockerId merchantId customerId : String)
  | findOptionalByDataHash (dataHash : Bytes)
  | insertHash (uuid : String) (now : PrimitiveDateTime) (dataHash : Bytes)
  | findOptionalByFingerprintHash (fingerprintHash : Bytes)
  | insertFingerprint (fingerprintHash : Bytes) (fingerprintId : String)
  | insertVault (new : VaultNew)
  | findByVaultIdEntityId (vaultId entityId : String)
  | updateVaultData (vaultId entityId : String) (update : VaultUpdate)
  | deleteFromVault (vaultId entityId : String)

namespace Method

/-- What a method answers. -/
def Answer : Method → Type
  | insertLocker _ => Except VaultDBError Locker
  | findByLockerIdMerchantIdCustomerId .. => Except VaultDBError Locker
  | findOptionalByHashIdMerchantIdCustomerId .. => Except VaultDBError (Option Locker)
  | deleteLocker .. => Except VaultDBError ℕ
  | findOptionalByDataHash _ => Except HashDBError (Option HashTable)
  | insertHash .. => Except HashDBError HashTable
  | findOptionalByFingerprintHash _ => Except FingerprintDBError (Option Fingerprint)
  | insertFingerprint .. => Except FingerprintDBError Fingerprint
  | insertVault _ => Except VaultDBError Vault
  | findByVaultIdEntityId .. => Except VaultDBError Vault
  | updateVaultData .. => Except VaultDBError Vault
  | deleteFromVault .. => Except VaultDBError ℕ

/-- The method with the feature. -/
def withKv (ctx : KvStoreContext) : (m : Method) → App m.Answer
  | insertLocker new => CardVault.insertLocker ctx new
  | findByLockerIdMerchantIdCustomerId lockerId merchantId customerId =>
    CardVault.findByLockerIdMerchantIdCustomerId ctx lockerId merchantId customerId
  | findOptionalByHashIdMerchantIdCustomerId hashId merchantId customerId =>
    CardVault.findOptionalByHashIdMerchantIdCustomerId ctx hashId merchantId customerId
  | deleteLocker lockerId merchantId customerId =>
    CardVault.deleteLocker ctx lockerId merchantId customerId
  | findOptionalByDataHash dataHash => CardVault.findOptionalByDataHash ctx dataHash
  | insertHash uuid now dataHash => CardVault.insertHash ctx uuid now dataHash
  | findOptionalByFingerprintHash fingerprintHash =>
    CardVault.findOptionalByFingerprintHash ctx fingerprintHash
  | insertFingerprint fingerprintHash fingerprintId =>
    CardVault.insertFingerprint ctx fingerprintHash fingerprintId
  | insertVault new => CardVault.insertVault ctx new
  | findByVaultIdEntityId vaultId entityId =>
    CardVault.findByVaultIdEntityId ctx vaultId entityId
  | updateVaultData vaultId entityId update =>
    CardVault.updateVaultData ctx vaultId entityId update
  | deleteFromVault vaultId entityId => CardVault.deleteFromVault ctx vaultId entityId

/-- The method without the feature. -/
def withoutKv : (m : Method) → App m.Answer
  | insertLocker new => WithoutKv.insertLocker new
  | findByLockerIdMerchantIdCustomerId lockerId merchantId customerId =>
    WithoutKv.findByLockerIdMerchantIdCustomerId lockerId merchantId customerId
  | findOptionalByHashIdMerchantIdCustomerId hashId merchantId customerId =>
    WithoutKv.findOptionalByHashIdMerchantIdCustomerId hashId merchantId customerId
  | deleteLocker lockerId merchantId customerId =>
    WithoutKv.deleteLocker lockerId merchantId customerId
  | findOptionalByDataHash dataHash => WithoutKv.findOptionalByDataHash dataHash
  | insertHash uuid now dataHash => WithoutKv.insertHash uuid now dataHash
  | findOptionalByFingerprintHash fingerprintHash =>
    WithoutKv.findOptionalByFingerprintHash fingerprintHash
  | insertFingerprint fingerprintHash fingerprintId =>
    WithoutKv.insertFingerprint fingerprintHash fingerprintId
  | insertVault new => WithoutKv.insertVault new
  | findByVaultIdEntityId vaultId entityId => WithoutKv.findByVaultIdEntityId vaultId entityId
  | updateVaultData vaultId entityId update =>
    WithoutKv.updateVaultData vaultId entityId update
  | deleteFromVault vaultId entityId => WithoutKv.deleteFromVault vaultId entityId

/-- The method only reads. -/
def isFind : Method → Bool
  | findByLockerIdMerchantIdCustomerId .. | findOptionalByHashIdMerchantIdCustomerId ..
  | findOptionalByDataHash _ | findOptionalByFingerprintHash _ | findByVaultIdEntityId .. => true
  | _ => false

/-- What the method is given to write says that Postgres was written, as
    `LockerNew::new`, `VaultNew::new` and `VaultUpdate::from` have it. -/
def SaysPostgresOnly : Method → Prop
  | insertLocker new => new.updatedBy = some .postgresOnly
  | insertVault new => new.updatedBy = .postgresOnly
  | updateVaultData _ _ update => update.updatedBy = .postgresOnly
  | _ => True

end Method

/-! ## Runs with the KV mode `Disabled` -/

namespace Replicated

/-- The store whose primary is what the next routed read is answered from. -/
def onRead (u : Replicated) : Replicated := { u with store := { u.store with pg := u.readPg } }

/-- The tables of the interfaces are the same. -/
structure SameTables (u v : Replicated) : Prop where
  locker : u.store.pg.locker = v.store.pg.locker
  hashTable : u.store.pg.hashTable = v.store.pg.hashTable
  fingerprint : u.store.pg.fingerprint = v.store.pg.fingerprint
  vault : u.store.pg.vault = v.store.pg.vault

theorem SameTables.refl (u : Replicated) : SameTables u u := ⟨rfl, rfl, rfl, rfl⟩

theorem afterRead_sameTables (u : Replicated) : SameTables u.afterRead u := by
  unfold afterRead next
  split_ifs <;> exact ⟨rfl, rfl, rfl, rfl⟩

section Disabled

variable (ctx : KvStoreContext) {u : Replicated} (hmode : u.store.mode = .disabled)
include hmode

theorem run_kvSettings_disabled : kvSettings.run exec u = (.disabled, u) := by
  refine (run_primary issues_kvSettings u).trans ?_
  rw [CardVault.run_kvSettings, hmode]

theorem run_insertResourceInner_disabled {M : KvResource} (new : M.DieselNew) (key : PartitionKey)
    (insertLookup : M.DieselNew → StorageScheme → App (Except M.Error Unit)) :
    (insertResourceInner ctx M new key insertLookup).run exec u =
      (M.storageInsert (M.setStorageScheme new .postgresOnly)).run exec u := by
  have hscheme : decideStorageSchemeForInsertOperation.run exec u = (.postgresOnly, u) :=
    Prog.run_mapResult_of (run_kvSettings_disabled hmode) _
  exact Prog.run_bind_of hscheme _

theorem run_insertResource_disabled {M : KvResource} (new : M.DieselNew) (key : PartitionKey) :
    (insertResource ctx M new key).run exec u =
      ((M.storageInsert (M.setStorageScheme new .postgresOnly)).mapResult
        (Except.map M.intoModel)).run exec u := by
  rw [insertResource, Prog.run_mapResult, run_insertResourceInner_disabled ctx hmode,
    Prog.run_mapResult]

theorem run_findScheme_disabled :
    decideStorageSchemeForFindOperation.run exec u = (.postgresOnly, u) :=
  Prog.run_mapResult_of (run_kvSettings_disabled hmode) _

theorem run_findResourceById_disabled {M : KvResource} (pk : M.PrimaryKeyType) :
    (findResourceById ctx M pk).run exec u =
      ((M.storageFind pk).mapResult (Except.map M.intoModel)).run exec u := by
  rw [findResourceById, Prog.run_mapResult, Prog.run_mapResult, findResourceByIdInner,
    Prog.run_bind_of (run_findScheme_disabled hmode)]

theorem run_findResourceByLookupId_disabled {M : KvSecondaryLookupResource}
    (lookupKey : M.LookupKeyType) :
    (findResourceByLookupId ctx M lookupKey).run exec u =
      (M.storageFindByLookup lookupKey).run exec u :=
  Prog.run_bind_of (run_findScheme_disabled hmode) _

theorem findById_routed {M : KvResource} (pk : M.PrimaryKeyType) :
    (findResourceById ctx M pk).run exec u =
      (((M.storageFind pk).run exec u).1.map M.intoModel, ((M.storageFind pk).run exec u).2) :=
  (run_findResourceById_disabled ctx hmode pk).trans (Prog.run_mapResult exec _ _ u)

theorem findOptional_routed {M : KvResource} (pk : M.PrimaryKeyType) :
    (findOptionalResourceById ctx M pk).run exec u =
      (optionalResult (((M.storageFind pk).run exec u).1.map M.intoModel),
        ((M.storageFind pk).run exec u).2) :=
  Prog.run_mapResult_of (findById_routed ctx hmode pk) _

theorem run_mutateScheme_disabled {M : KvResource} (key : PartitionKey) :
    (decideStorageSchemeForMutateOperation ctx M key).run exec u =
      (.ok (.postgresOnly, none), u) := Prog.run_bind_of (run_kvSettings_disabled hmode) _

theorem run_updateResourceById_disabled {M : KvUpdatableResource} (update : M.DieselUpdate)
    (pk : M.PrimaryKeyType) :
    (updateResourceById ctx M update pk).run exec u =
      (M.storageUpdate (M.setUpdateStorageScheme update .postgresOnly) pk).run exec u :=
  Prog.run_andThen_ok (run_mutateScheme_disabled ctx hmode _) _

theorem run_deleteResourceByIdInner_disabled {M : KvDeletableResource} (pk : M.PrimaryKeyType) :
    (deleteResourceByIdInner ctx M pk).run exec u = (M.storageDelete pk).run exec u :=
  Prog.run_andThen_ok (run_mutateScheme_disabled ctx hmode _) _

end Disabled

/-! ### Reads -/

section Reads

variable {E : Type} [StorageErrorExt E] (u : Replicated) {q : Query}

/-- A routed read answers what a read on the primary answers of the store that
    the read is routed to. -/
theorem findOnRouted_eq_findOnPrimary (hq : ∀ stmt, q ≠ .execute stmt) :
    ((findOnRouted E q).run exec u).1 = ((findOnPrimary E q).run exec u.onRead).1 := by
  have hkeep : ∀ pg : Pg, (pg.query q).2 = pg := by
    intro pg
    cases q with
    | execute stmt => exact absurd rfl (hq stmt)
    | _ => rfl
  rw [run_findOnRouted u hq, CardVault.run_findOnRouted _ (hkeep _)]
  rw [run_primary (issues_findOnPrimary q), CardVault.run_findOnPrimary _ (hkeep _)]
  rfl

/-- The two ways to leave a missing row out of the errors. -/
theorem run_findOptionalOnPrimary [LawfulStorageError E] (q : Query) :
    (findOptionalOnPrimary E q).run exec u =
      (optionalResult ((findOnPrimary E q).run exec u).1, ((findOnPrimary E q).run exec u).2) := by
  have hconn : (getConn : App (Except E DbPool)).run exec u = (.ok .primary, u) := rfl
  refine (Prog.run_andThen_ok hconn _).trans ?_
  rw [findOnPrimary, Prog.run_andThen_ok hconn]
  obtain ⟨reply, v, hanswer⟩ : ∃ (reply : Except DieselError q.Output) (v : Replicated),
      (Prog.perform (Cmd.query .primary q)).run exec u = (reply, v) := ⟨_, _, rfl⟩
  have hrow : (runQuery .primary q : App (Except E q.Output)).run exec u =
      (reply.mapError StorageErrorExt.fromDieselError, v) := by
    refine (Prog.run_mapResult_of hanswer _).trans ?_
    cases reply <;> rfl
  refine (Prog.run_mapResult_of hanswer _).trans ?_
  rw [hrow]
  cases reply with
  | ok row => rfl
  | error e =>
    have hnot := LawfulStorageError.isNotFound_fromDieselError (E := E) e
    cases e with
    | notFound => simp [optionalRow, optionalResult, Except.mapError, hnot.2 rfl]
    | uniqueViolation => simp [optionalRow, optionalResult, Except.mapError, hnot]
    | other => simp [optionalRow, optionalResult, Except.mapError, hnot]

theorem run_findOnPrimary (hq : ∀ stmt, q ≠ .execute stmt) :
    ((findOnPrimary E q).run exec u).2 = u := by
  have hkeep : (u.store.pg.query q).2 = u.store.pg := by
    cases q with
    | execute stmt => exact absurd rfl (hq stmt)
    | _ => rfl
  rw [run_primary (issues_findOnPrimary q), CardVault.run_findOnPrimary _ hkeep]

/-- A find of the two builds, with what each makes of the row. -/
theorem find_agrees {β : Type} (hq : ∀ stmt, q ≠ .execute stmt) {p p' : App β}
    {f g : Except E q.Output → β}
    (hp : p.run exec u = (f ((findOnRouted E q).run exec u).1, ((findOnRouted E q).run exec u).2))
    (hp' : ∀ v : Replicated, p'.run exec v =
      (g ((findOnPrimary E q).run exec v).1, ((findOnPrimary E q).run exec v).2))
    (hfg : ∀ r, f r = g r) :
    (p.run exec u).1 = (p'.run exec u.onRead).1 ∧
      SameTables (p.run exec u).2 (p'.run exec u).2 := by
  rw [hp, hp', hp']
  refine ⟨?_, ?_⟩
  · rw [hfg, findOnRouted_eq_findOnPrimary u hq]
  · rw [run_findOnPrimary u hq, run_findOnRouted u hq]
    exact afterRead_sameTables u

end Reads

/-! ### Deletes of lockers -/

/-- Which row the find before a delete sees does not matter to the delete. -/
theorem run_deleteLocker_disabled (ctx : KvStoreContext) {u : Replicated}
    (hmode : u.store.mode = .disabled) (pk : LockerPrimaryKeyType) :
    ((deleteResourceByIdWithReverseLookup ctx Locker.kvDeletableWithLookup pk).run exec u).1 =
        ((executeOnPrimary VaultDBError (.deleteLocker pk)).run exec u).1 ∧
      SameTables ((deleteResourceByIdWithReverseLookup ctx Locker.kvDeletableWithLookup pk).run
        exec u).2 ((executeOnPrimary VaultDBError (.deleteLocker pk)).run exec u).2 := by
  have hfind : ∃ found, (findOptionalResourceById ctx Locker.kvResource pk).run exec u =
      (.ok found, u.afterRead) := by
    have hrouted := findOptional_routed ctx hmode (M := Locker.kvResource) pk
    have hread : (Locker.kvResource.storageFind pk).run exec u =
        ((oneRow (u.readPg.locker.get LockerInner.primaryKey pk)).mapError
          StorageErrorExt.fromDieselError, u.afterRead) := by
      refine (run_findOnRouted u (q := .findLocker pk) fun _ h => nomatch h).trans ?_
      rw [CardVault.run_findOnRouted _ rfl]
      rfl
    rw [hread] at hrouted
    cases hrow : u.readPg.locker.get LockerInner.primaryKey pk with
    | none => exact ⟨none, by rw [hrouted, hrow]; rfl⟩
    | some row => exact ⟨some row.toLocker, by rw [hrouted, hrow]; rfl⟩
  obtain ⟨found, hfind⟩ := hfind
  have hstore : u.afterRead.store = u.store := by
    unfold afterRead
    split_ifs <;> rfl
  obtain ⟨w, hdelete, hw⟩ : ∃ w : Replicated,
      (deleteResourceByIdInner ctx Locker.kvDeletableResource pk).run exec u.afterRead =
        (.ok (u.store.pg.locker.delete LockerInner.primaryKey pk).1, w) ∧
      w.store = { u.store with pg := u.store.pg.apply (.deleteLocker pk) } := by
    refine ⟨{ u.afterRead with
      store := { u.store with pg := u.store.pg.apply (.deleteLocker pk) } }, ?_, rfl⟩
    refine (run_deleteResourceByIdInner_disabled ctx (u := u.afterRead)
      (by rw [hstore]; exact hmode) (M := Locker.kvDeletableResource) pk).trans ?_
    refine (run_executeOnPrimary u.afterRead (.deleteLocker pk)).trans ?_
    rw [hstore]
    rfl
  have hrun : (deleteResourceByIdWithReverseLookup ctx Locker.kvDeletableWithLookup pk).run exec u =
      _ := (Prog.run_andThen_ok hfind _).trans (Prog.run_andThen_ok hdelete _)
  rw [run_executeOnPrimary, hrun]
  have hlocker : w.store.pg.locker = (u.store.pg.apply (.deleteLocker pk)).locker := by rw [hw]
  have hhash : w.store.pg.hashTable = u.store.pg.hashTable := by rw [hw]; rfl
  have hfingerprint : w.store.pg.fingerprint = u.store.pg.fingerprint := by rw [hw]; rfl
  have hvault : w.store.pg.vault = u.store.pg.vault := by rw [hw]; rfl
  cases found with
  | none => exact ⟨rfl, hlocker, hhash, hfingerprint, hvault⟩
  | some locker =>
    have hwmode : w.store.mode = .disabled := by rw [hw]; exact hmode
    have hlookup : (deleteReverseLookup ctx
        (Locker.getReverseLookupKeyFromResource locker).lookupId).run exec w = _ :=
      (run_deleteResourceByIdInner_disabled ctx (M := ReverseLookup.kvDeletableResource)
        hwmode _).trans (run_executeOnPrimary w _)
    have hlast := Prog.run_andThen_ok (Prog.run_mapResult_of hlookup
      (mapLookupError (E := VaultDBError))) fun _ =>
        (Prog.pure (.ok (u.store.pg.locker.delete LockerInner.primaryKey pk).1) :
          App (Except VaultDBError ℕ))
    dsimp only [Option.map]
    rw [hlast]
    exact ⟨rfl, hlocker, hhash, hfingerprint, hvault⟩

end Replicated

/-! ## Method by method -/

namespace Method

open Replicated

theorem map_toLocker_optional (r : Except VaultDBError LockerInner) :
    optionalResult (r.map LockerInner.toLocker) =
      (optionalResult r).map (Option.map LockerInner.toLocker) := by
  cases r with
  | ok row => rfl
  | error e =>
    simp only [Except.map, optionalResult]
    split_ifs <;> rfl

/-- The end of `find_by_vault_id_entity_id`. -/
def orNotFound : Except VaultDBError (Option Vault) → Except VaultDBError Vault
  | .ok (some vault) => .ok vault
  | .ok none => .error .notFoundError
  | .error err => .error err

theorem orNotFound_optionalResult (r : Except VaultDBError Vault) :
    orNotFound (optionalResult r) = r := by
  cases r with
  | ok row => rfl
  | error e => cases e <;> rfl

theorem map_id {E α : Type} (r : Except E α) : r.map (fun row => row) = r := by
  cases r <;> rfl

section Agree

variable (ctx : KvStoreContext) {u : Replicated} (hmode : u.store.mode = .disabled)
include hmode

theorem insertLocker_agrees {new : LockerNew} (hnew : new.updatedBy = some .postgresOnly) :
    (CardVault.insertLocker ctx new).run exec u = (WithoutKv.insertLocker new).run exec u := by
  have hset : Locker.kvResource.setStorageScheme new .postgresOnly = new := by
    cases new
    cases hnew
    rfl
  refine (Prog.run_mapResult exec _ _ u).trans ?_
  rw [run_insertResourceInner_disabled ctx hmode, ← Prog.run_mapResult exec
    (Except.map Locker.kvResource.intoModel)]
  exact congrArg (fun new => (WithoutKv.insertLocker new).run exec u) hset

theorem insertHash_agrees (uuid : String) (now : PrimitiveDateTime) (dataHash : Bytes) :
    (CardVault.insertHash ctx uuid now dataHash).run exec u =
      (WithoutKv.insertHash uuid now dataHash).run exec u := by
  refine (run_insertResource_disabled ctx hmode (M := HashTable.kvResource) _ _).trans ?_
  rw [Prog.run_mapResult]
  exact congrArg (·, _) (map_id _)

theorem insertFingerprint_agrees (fingerprintHash : Bytes) (fingerprintId : String) :
    (CardVault.insertFingerprint ctx fingerprintHash fingerprintId).run exec u =
      (WithoutKv.insertFingerprint fingerprintHash fingerprintId).run exec u := by
  refine (run_insertResource_disabled ctx hmode (M := Fingerprint.kvResource) _ _).trans ?_
  rw [Prog.run_mapResult]
  exact congrArg (·, _) (map_id _)

theorem insertVault_agrees {new : VaultNew} (hnew : new.updatedBy = .postgresOnly) :
    (CardVault.insertVault ctx new).run exec u = (WithoutKv.insertVault new).run exec u := by
  have hset : Vault.kvResource.setStorageScheme new.toVaultNewInner .postgresOnly =
      new.toVaultNewInner := by
    cases new
    cases hnew
    rfl
  refine (run_insertResource_disabled ctx hmode (M := Vault.kvResource) _ _).trans ?_
  rw [hset]
  rfl

theorem updateVaultData_agrees (vaultId entityId : String) {update : VaultUpdate}
    (hupdate : update.updatedBy = .postgresOnly) :
    (CardVault.updateVaultData ctx vaultId entityId update).run exec u =
      (WithoutKv.updateVaultData vaultId entityId update).run exec u := by
  have hset : Vault.kvUpdatableResource.setUpdateStorageScheme update .postgresOnly = update := by
    cases update
    cases hupdate
    rfl
  refine (run_updateResourceById_disabled ctx hmode (M := Vault.kvUpdatableResource) _ _).trans ?_
  rw [hset]
  rfl

theorem deleteFromVault_agrees (vaultId entityId : String) :
    (CardVault.deleteFromVault ctx vaultId entityId).run exec u =
      (WithoutKv.deleteFromVault vaultId entityId).run exec u :=
  run_deleteResourceByIdInner_disabled ctx hmode (M := Vault.kvDeletableResource) _

theorem findOptionalByHash_routed (key : LockerHashLookupKey) :
    (findOptionalResourceByLookupId ctx Locker.kvSecondaryLookupResource key).run exec u =
      (optionalResult (((findOnRouted VaultDBError (.findLockerByHash key)).run exec u).1.map
        LockerInner.toLocker),
        ((findOnRouted VaultDBError (.findLockerByHash key)).run exec u).2) :=
  Prog.run_mapResult_of ((run_findResourceByLookupId_disabled ctx hmode
    (M := Locker.kvSecondaryLookupResource) key).trans (Prog.run_mapResult exec _ _ u)) _

end Agree

/-- With the KV mode `Disabled`, a method answers what it answers without the
    feature, a find on the pool that its read is routed to, and leaves the tables
    of the interfaces the same. -/
theorem withKv_eq_withoutKv (ctx : KvStoreContext) (u : Replicated)
    (hmode : u.store.mode = .disabled) (m : Method) (hnew : m.SaysPostgresOnly) :
    ((m.withKv ctx).run exec u).1 =
        (m.withoutKv.run exec (if m.isFind then u.onRead else u)).1 ∧
      SameTables ((m.withKv ctx).run exec u).2 (m.withoutKv.run exec u).2 := by
  have hwrite : ∀ {α : Type} {p q : App α}, p.run exec u = q.run exec u →
      (p.run exec u).1 = (q.run exec u).1 ∧ SameTables (p.run exec u).2 (q.run exec u).2 :=
    fun h => ⟨congrArg Prod.fst h, h ▸ SameTables.refl _⟩
  cases m with
  | insertLocker new => exact hwrite (insertLocker_agrees ctx hmode hnew)
  | findByLockerIdMerchantIdCustomerId lockerId merchantId customerId =>
    exact find_agrees u (E := VaultDBError) (q := .findLocker ⟨lockerId, merchantId, customerId⟩)
      (fun _ h => nomatch h)
      (findById_routed ctx hmode (M := Locker.kvResource) ⟨lockerId, merchantId, customerId⟩)
      (fun v => Prog.run_mapResult exec _ _ v) fun _ => rfl
  | findOptionalByHashIdMerchantIdCustomerId hashId merchantId customerId =>
    exact find_agrees u (E := VaultDBError)
      (q := .findLockerByHash ⟨hashId, merchantId, customerId⟩)
      (f := fun r => optionalResult (Except.map LockerInner.toLocker r))
      (g := fun r => Except.map (Option.map LockerInner.toLocker) (optionalResult r))
      (fun _ h => nomatch h)
      (findOptionalByHash_routed ctx hmode ⟨hashId, merchantId, customerId⟩)
      (fun v => Prog.run_mapResult_of (run_findOptionalOnPrimary v _) _) map_toLocker_optional
  | deleteLocker lockerId merchantId customerId =>
    exact run_deleteLocker_disabled ctx hmode ⟨lockerId, merchantId, customerId⟩
  | findOptionalByDataHash dataHash =>
    exact find_agrees u (E := HashDBError) (q := .findHashTable dataHash)
      (f := fun r => optionalResult (Except.map (fun row => row) r)) (g := optionalResult)
      (fun _ h => nomatch h)
      (findOptional_routed ctx hmode (M := HashTable.kvResource) dataHash)
      (fun v => run_findOptionalOnPrimary v _) fun r => congrArg optionalResult (map_id r)
  | insertHash uuid now dataHash => exact hwrite (insertHash_agrees ctx hmode uuid now dataHash)
  | findOptionalByFingerprintHash fingerprintHash =>
    exact find_agrees u (E := FingerprintDBError) (q := .findFingerprint fingerprintHash)
      (f := fun r => optionalResult (Except.map (fun row => row) r)) (g := optionalResult)
      (fun _ h => nomatch h)
      (findOptional_routed ctx hmode (M := Fingerprint.kvResource) fingerprintHash)
      (fun v => run_findOptionalOnPrimary v _) fun r => congrArg optionalResult (map_id r)
  | insertFingerprint fingerprintHash fingerprintId =>
    exact hwrite (insertFingerprint_agrees ctx hmode fingerprintHash fingerprintId)
  | insertVault new => exact hwrite (insertVault_agrees ctx hmode hnew)
  | findByVaultIdEntityId vaultId entityId =>
    exact find_agrees u (E := VaultDBError) (q := .findVault { entityId, vaultId })
      (f := fun r => orNotFound (optionalResult (Except.map VaultInner.toVault r)))
      (g := Except.map VaultInner.toVault) (fun _ h => nomatch h)
      (Prog.run_mapResult_of (findOptional_routed ctx hmode (M := Vault.kvResource)
        { entityId, vaultId }) _)
      (fun v => Prog.run_mapResult exec _ _ v) fun _ => orNotFound_optionalResult _
  | updateVaultData vaultId entityId update =>
    exact hwrite (updateVaultData_agrees ctx hmode vaultId entityId hnew)
  | deleteFromVault vaultId entityId => exact hwrite (deleteFromVault_agrees ctx hmode _ _)

/-! ### A row that the replica does not have yet -/

/-- A fingerprint on the primary only. -/
def fingerprintBehind : Replicated :=
  behind .disabled (Pg.empty.apply (.insertFingerprint ⟨[1], "id", some .postgresOnly⟩))

/-- The find of the fingerprint. -/
def findFingerprintBehind : Method := .findOptionalByFingerprintHash [1]

theorem withKv_eq_withoutKv_behind :
    ((findFingerprintBehind.withKv .default).run exec fingerprintBehind).1 =
        (findFingerprintBehind.withoutKv.run exec fingerprintBehind.onRead).1 ∧
      SameTables ((findFingerprintBehind.withKv .default).run exec fingerprintBehind).2
        (findFingerprintBehind.withoutKv.run exec fingerprintBehind).2 :=
  withKv_eq_withoutKv .default fingerprintBehind rfl findFingerprintBehind trivial

/-- The answer has a row. -/
def foundFingerprint : Except FingerprintDBError (Option Fingerprint) → Bool
  | .ok (some _) => true
  | _ => false

/-- The find with the feature misses a row that the find without it answers. -/
theorem withKv_differs :
    ¬ ∀ (ctx : KvStoreContext) (u : Replicated), u.store.mode = .disabled → ∀ m : Method,
      ((m.withKv ctx).run exec u).1 = (m.withoutKv.run exec u).1 ∧
        SameTables ((m.withKv ctx).run exec u).2 (m.withoutKv.run exec u).2 := by
  intro h
  have hanswer := (h .default fingerprintBehind rfl findFingerprintBehind).1
  have hfound := congrArg foundFingerprint hanswer
  exact absurd hfound (by decide +kernel)

end Method

end CardVault
