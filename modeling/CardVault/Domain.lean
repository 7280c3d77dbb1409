import CardVault.Storage.Db

/-!
# Domain compositions

Insert-or-read-back and upsert, sequenced from the storage interfaces
(`src/src/domain/*.rs`).

Main results, for a composition that runs with nothing in between:
* `run_onDuplicate_ok`, `run_onDuplicate_error`: an insert, and what follows its
  duplicate error.
* `run_getOrInsertVault`, `run_getOrInsertLocker`, `run_upsertVault_of_none`,
  `run_upsertVault_of_some`: in the mode that writes to Redis.
-/

namespace CardVault

open Interaction

/-- `match insert { Ok, Err(duplicate) => recover, Err }`, the frame of every
    composition. -/
def onDuplicate {E α : Type} [StorageErrorExt E] (insert recover : App (Except E α)) :
    App (Except E α) :=
  insert.bind fun
    | .ok a => .pure (.ok a)
    | .error err => if StorageErrorExt.isDuplicate err then recover else .pure (.error err)

section OnDuplicate

variable {E α S : Type} [StorageErrorExt E] {insert recover : App (Except E α)}
  {exec : S → (c : Cmd) → Reply c × S} {s s' : S}

theorem run_onDuplicate_ok {a : α} (h : insert.run exec s = (.ok a, s'))
    (recover : App (Except E α)) :
    (onDuplicate insert recover).run exec s = (.ok a, s') := Prog.run_bind_of h _

theorem run_onDuplicate_error {err : E} (h : insert.run exec s = (.error err, s'))
    (recover : App (Except E α)) :
    (onDuplicate insert recover).run exec s =
      if StorageErrorExt.isDuplicate err then recover.run exec s' else (.error err, s') := by
  refine (Prog.run_bind_of h _).trans ?_
  dsimp only
  split_ifs <;> rfl

end OnDuplicate

section Domain

variable (store : KvStoreContext)

/-- `domain::locker::get_or_insert`. -/
def getOrInsertLocker (new : LockerNew) : App (Except VaultDBError Locker) :=
  onDuplicate (insertLocker store new)
    (findByLockerIdMerchantIdCustomerId store new.lockerId new.merchantId new.customerId)

/-- `domain::vault::get_or_insert`. -/
def getOrInsertVault (new : VaultNew) : App (Except VaultDBError Vault) :=
  onDuplicate (insertVault store new) (findByVaultIdEntityId store new.vaultId new.entityId)

/-- `domain::vault::upsert`. -/
def upsertVault (new : VaultNew) : App (Except VaultDBError Vault) :=
  let update := new.toVaultUpdate
  onDuplicate (insertVault store new) (updateVaultData store new.vaultId new.entityId update)

/-- `Ok(Some(row))`, or the error of a row that is gone again. -/
def orInsertError {E α : Type} (insertError : E) : Except E (Option α) → Except E α
  | .ok (some a) => .ok a
  | .ok none => .error insertError
  | .error err => .error err

/-- `domain::hash::insert_or_get`, with the UUID and the time `insert_hash` takes. -/
def insertOrGetHash (uuid : String) (now : PrimitiveDateTime) (dataHash : Bytes) :
    App (Except HashDBError HashTable) :=
  onDuplicate (Caching.insertHash store uuid now dataHash)
    ((Caching.findOptionalByDataHash store dataHash).mapResult (orInsertError .dbInsertError))

/-- `HmacSha512::<1>::encode`; `sign` is HMAC-SHA512 of the `ring` crate. -/
def hmacSha512Encode (sign : Bytes → Bytes → Bytes) (key input : Bytes) : Bytes :=
  sign key (sign key input)

/-- `domain::fingerprint::get_or_insert`, with the nano id it makes up. -/
def getOrInsertFingerprint (sign : Bytes → Bytes → Bytes) (nanoId : String) (data key : String)
    (fingerprintId : Option String) : App (Except FingerprintDBError Fingerprint) :=
  let fingerprintHash := hmacSha512Encode sign key.toUTF8.data.toList data.toUTF8.data.toList
  (Caching.findOptionalByFingerprintHash store fingerprintHash).andThen fun
    | some fingerprint => .pure (.ok fingerprint)
    | none =>
      let fingerprintId := fingerprintId.getD nanoId
      onDuplicate (Caching.insertFingerprint store fingerprintHash fingerprintId)
        ((Caching.findOptionalByFingerprintHash store fingerprintHash).mapResult
          (orInsertError .dbInsertError))

end Domain

section Run

variable (ctx : KvStoreContext) {s : Store}

/-- `get_or_insert` of a vault row inserts, or finds the row that Redis holds. -/
theorem run_getOrInsertVault (hmode : s.mode = .enabled) (new : VaultNew) :
    (getOrInsertVault ctx new).run Store.exec s =
      match s.cached new.primaryKey.getPartitionKey with
      | none =>
        (.ok { new.toVaultNewInner with updatedBy := some .redisKv }.toVaultInner.toVault,
          s.writeVault ctx new)
      | some _ => (findByVaultIdEntityId ctx new.vaultId new.entityId).run Store.exec s := by
  have hinsert := run_insertVault_enabled ctx s hmode new
  cases hc : s.cached new.primaryKey.getPartitionKey with
  | none =>
    rw [hc] at hinsert
    exact run_onDuplicate_ok hinsert _
  | some row =>
    rw [hc] at hinsert
    exact run_onDuplicate_error hinsert _

/-- `get_or_insert` of a locker fails when Redis holds the lookup id; else it
    inserts, or finds the row that Redis holds. -/
theorem run_getOrInsertLocker (hmode : s.mode = .enabled) (new : LockerNew) :
    (getOrInsertLocker ctx new).run Store.exec s =
      match s.cached (.reverseLookup new.hashKey.getLookupKey.lookupId) with
      | some _ => (.error .unknownError, s)
      | none =>
        match s.cached new.primaryKey.getPartitionKey with
        | none =>
          (.ok { new with updatedBy := some .redisKv }.toLockerInner.toLocker,
            (s.writeLookup ctx new).writeLocker ctx new)
        | some _ =>
          (findByLockerIdMerchantIdCustomerId ctx new.lockerId new.merchantId new.customerId).run
            Store.exec (s.writeLookup ctx new) := by
  have hinsert : (insertLocker ctx new).run Store.exec s = _ :=
    run_insertLocker_enabled ctx s hmode new
  cases hl : s.cached (.reverseLookup new.hashKey.getLookupKey.lookupId) with
  | some row =>
    rw [hl] at hinsert
    exact run_onDuplicate_error hinsert _
  | none =>
    rw [hl] at hinsert
    cases hc : s.cached new.primaryKey.getPartitionKey with
    | none =>
      rw [hc] at hinsert
      exact run_onDuplicate_ok hinsert _
    | some row =>
      rw [hc] at hinsert
      exact run_onDuplicate_error hinsert _

/-- An upsert of a row that Redis does not hold is an insert. -/
theorem run_upsertVault_of_none (hmode : s.mode = .enabled) (new : VaultNew)
    (hc : s.cached new.primaryKey.getPartitionKey = none) :
    (upsertVault ctx new).run Store.exec s =
      (.ok { new.toVaultNewInner with updatedBy := some .redisKv }.toVaultInner.toVault,
        s.writeVault ctx new) := by
  have hinsert := run_insertVault_enabled ctx s hmode new
  rw [hc] at hinsert
  exact run_onDuplicate_ok hinsert _

/-- An upsert of a row that Redis holds is an update. -/
theorem run_upsertVault_of_some (hs : s.WellFormed ctx) (hmode : s.mode = .enabled)
    (new : VaultNew) {current : VaultInner}
    (hc : s.cached new.primaryKey.getPartitionKey = some (.vault current)) :
    (upsertVault ctx new).run Store.exec s =
      (.ok (VaultInner.fromUpdate { new.toVaultUpdate with updatedBy := .redisKv }
          current).toVault,
        s.rewriteVault ctx new.primaryKey new.toVaultUpdate current) := by
  have hv : s.visibleVault new.primaryKey = some current := by
    simp [Store.visibleVault, Store.visible, hmode, hc]
  have hupdate := run_updateVaultData_redisKv ctx s hs new.primaryKey (Or.inl hmode)
    new.toVaultUpdate
  rw [hv] at hupdate
  have hinsert := run_insertVault_enabled ctx s hmode new
  rw [hc] at hinsert
  exact (run_onDuplicate_error hinsert _).trans hupdate

end Run

/-! ## Commands issued -/

section Obeys

variable (ctx : KvStoreContext)

theorem obeys_onDuplicate {E α : Type} [StorageErrorExt E] {insert recover : App (Except E α)}
    (hinsert : Obeys ctx insert fun _ => True) (hrecover : Obeys ctx recover fun _ => True) :
    Obeys ctx (onDuplicate insert recover) fun _ => True := by
  refine Obeys.bind hinsert fun reply _ => ?_
  cases reply with
  | ok a => trivial
  | error err =>
    dsimp only
    split_ifs
    · exact hrecover
    · trivial

theorem obeys_upsertVault (new : VaultNew) : Obeys ctx (upsertVault ctx new) fun _ => True :=
  obeys_onDuplicate ctx (obeys_insertVault ctx new) (obeys_updateVaultData ctx _ _ _)

end Obeys

end CardVault
