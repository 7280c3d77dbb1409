import CardVault.KeyManager.Replica
import CardVault.Replica

/-!
# Insert-or-read-back with a lagging replica

The five insert-or-read-back compositions, called for a key whose row is
committed on the primary, while reads go to a replica that may not show it.

Main results:
* `Replicated.run_insertResource_committed`: without Redis, the INSERT of a
  committed key fails.
* `Replicated.returned_getOrInsertVault_iff` and its like: the compositions on the
  tables of the KV layer.
* `Replicated.returned_committed_iff`: when each composition answers the
  committed row.
-/

namespace CardVault

open Interaction

namespace Replicated

/-! ## Inserts and finds -/

section Resource

variable (ctx : KvStoreContext) (u : Replicated) {M : KvResource}

/-- An insert in the mode that writes to Redis fails when Redis holds the key. -/
theorem run_insertResource_enabled (hM : M.Spec)
    (hinsert : ∀ new, (M.storageInsert new).Issues OnPrimary) (hmode : u.store.mode = .enabled)
    (new : M.DieselNew) (key : PartitionKey) :
    ∃ u', (insertResource ctx M new key).run exec u =
      (match u.store.cached key with
        | some _ => .error (kvDuplicateError key.display)
        | none => .ok (M.intoModel (M.intoEntity (M.setStorageScheme new .redisKv))), u') ∧
      ((u.store.cached key).isSome → u' = u) := by
  rw [run_primary (issues_insertResource ctx hinsert new key) u,
    CardVault.run_insertResource_enabled ctx u.store hM hmode new key]
  cases u.store.cached key with
  | none => exact ⟨_, rfl, fun h => nomatch h⟩
  | some row => exact ⟨_, rfl, fun _ => rfl⟩

/-- An INSERT on the primary of a key that has a row there. -/
theorem run_executeOnPrimary_committed {E : Type} [StorageErrorExt E] {stmt : Statement}
    {mk : ℕ → Row} {row : Row} (hmk : stmt.effect = .insert mk)
    (hrow : u.store.pg.rowAt stmt.partitionKey = some row) :
    (executeOnPrimary E stmt).run exec u =
      (.error (StorageErrorExt.fromDieselError
        (if stmt.fits then .uniqueViolation else .other)), u) := by
  have hexec := Pg.execute_insert_of_rowAt hmk hrow
  rw [run_executeOnPrimary, hexec, Pg.apply_of_insert_error hmk hexec]
  rfl

/-- Without Redis, the INSERT of a committed key fails. -/
theorem run_insertResource_committed (hmode : u.store.mode ≠ .enabled) (new : M.DieselNew)
    (key : PartitionKey) {err : M.Error}
    (hinsert : (M.storageInsert (M.setStorageScheme new .postgresOnly)).run exec u =
      (.error err, u)) :
    (insertResource ctx M new key).run exec u = (.error err, u) := by
  have hscheme : decideStorageSchemeForInsertOperation.run exec u = (.postgresOnly, u) := by
    refine (run_primary (Prog.Issues.mapResult issues_kvSettings) u).trans ?_
    have h := run_decideStorageSchemeForInsertOperation u.store
    rw [if_neg hmode] at h
    exact congrArg (fun answer => (answer.1, ({ u with store := answer.2 } : Replicated))) h
  have hinner : (insertResourceInner ctx M new key fun _ _ => .pure (.ok ())).run exec u =
      (.error err, u) := (Prog.run_bind_of hscheme _).trans hinsert
  exact Prog.run_mapResult_of hinner _

/-- A find that takes no row for an answer. -/
theorem run_findOptionalResourceById (hM : M.Spec) (hrouted : ReadsRouted M)
    (pk : M.PrimaryKeyType) :
    (findOptionalResourceById ctx M pk).run exec u =
      (optionalResult ((M.answer (u.visible (M.getPartitionKey pk))).map M.intoModel),
        u.afterFind (M.getPartitionKey pk)) :=
  Prog.run_mapResult_of
    (Prog.run_mapResult_of (run_findResourceByIdInner u ctx hM hrouted pk) _) _

end Resource

/-! ## The committed row -/

/-- The row found is `row`, up to the serial number and to what a `TIMESTAMP`
    column cuts off. -/
def IsRow (row : Row) (found : Option Row) : Prop := found.map Row.stored = some row.stored

instance (row : Row) (found : Option Row) : Decidable (IsRow row found) :=
  inferInstanceAs (Decidable (_ = _))

/-- The call answered `row`. -/
def Returned (M : KvResource) (row : Row) (reply : Except M.Error M.Model) : Prop :=
  ∃ e, reply = .ok (M.intoModel e) ∧ (M.serialize e).stored = row.stored

/-- A model tells which row it was made from, up to the serial number. -/
def ModelTellsRow (M : KvResource) : Prop :=
  ∀ e e', M.intoModel e = M.intoModel e' → (M.serialize e).stored = (M.serialize e').stored

theorem modelTellsRow_fingerprint : ModelTellsRow Fingerprint.kvResource :=
  fun _ _ h => congrArg (fun e => (Row.fingerprint e).stored) h

theorem modelTellsRow_hashTable : ModelTellsRow HashTable.kvResource :=
  fun _ _ h => congrArg (fun e => (Row.hashTable e).stored) h

theorem modelTellsRow_locker : ModelTellsRow Locker.kvResource := fun e e' h => by
  have h : e.toLocker = e'.toLocker := h
  simp only [LockerInner.toLocker, Locker.mk.injEq, Encryptable.encrypted.injEq] at h
  simp [Row.stored, h]

theorem modelTellsRow_vault : ModelTellsRow Vault.kvResource := fun e e' h => by
  have h : e.toVault = e'.toVault := h
  simp only [VaultInner.toVault, Vault.mk.injEq, Encryptable.encrypted.injEq] at h
  simp [Row.stored, h]

/-- Two rows of the same content are rows of the same table. -/
theorem resource_of_stored {row row' : Row} (h : row.stored = row'.stored) :
    row.partitionKey.resource = row'.partitionKey.resource := by
  cases row <;> cases row' <;> first | rfl | cases h

section Answers

variable {M : KvResource} (hM : M.Spec) (hmodel : ModelTellsRow M) {row : Row}
  (hrow : row.partitionKey.resource = some M.resource)
include hmodel

theorem returned_ok_iff (e : M.DieselEntity) :
    Returned M row (.ok (M.intoModel e)) ↔ IsRow row (some (M.serialize e)) := by
  constructor
  · rintro ⟨e', hok, hstored⟩
    have hsame := hmodel e e' (Except.ok.inj hok)
    exact congrArg some (hsame.trans hstored)
  · exact fun h => ⟨e, rfl, Option.some.inj h⟩

omit hmodel in
theorem not_returned_error (err : M.Error) : ¬ Returned M row (.error err) :=
  fun ⟨_, h, _⟩ => nomatch h

include hM hrow

/-- A find answers `row` when that is the row it finds. -/
theorem returned_answer_iff (found : Option Row) :
    Returned M row ((M.answer found).map M.intoModel) ↔ IsRow row found := by
  cases found with
  | none => exact iff_of_false (not_returned_error _) (fun h => nomatch h)
  | some row' =>
    cases hd : M.deserialize row' with
    | some e =>
      have hanswer : M.answer (some row') = .ok e := by simp [KvResource.answer, hd]
      rw [hanswer, ← hM.serialize_of_deserialize row' e hd]
      exact returned_ok_iff hmodel e
    | none =>
      have hanswer : M.answer (some row') = .error (kvBackendError .backend) := by
        simp [KvResource.answer, hd]
      rw [hanswer]
      refine iff_of_false (not_returned_error _) fun h => ?_
      -- a row of the same content could be read
      have hres := (resource_of_stored (Option.some.inj h)).trans hrow
      rw [← hM.deserialize_isSome, hd] at hres
      cases hres

/-- An answer that is passed on as it is, or turned from no row into an error. -/
theorem returned_optional_iff {f : Except M.Error (Option M.Model) → Except M.Error M.Model}
    (hsome : ∀ a, f (.ok (some a)) = .ok a) (hnone : ∀ a, f (.ok none) ≠ .ok a)
    (herror : ∀ err a, f (.error err) ≠ .ok a) (found : Option Row) :
    Returned M row (f (optionalResult ((M.answer found).map M.intoModel))) ↔ IsRow row found := by
  rw [← returned_answer_iff hM hmodel hrow]
  cases (M.answer found).map M.intoModel with
  | ok a => rw [optionalResult, hsome]
  | error err =>
    refine iff_of_false (fun h => ?_) (not_returned_error _)
    obtain ⟨e, he, -⟩ := h
    rw [optionalResult] at he
    split_ifs at he
    · exact hnone _ he
    · exact herror _ _ he

end Answers

section OnDuplicate

variable {M : KvResource} {insert recover : App (Except M.Error M.Model)} {u u' : Replicated}
  {row : Row}

/-- An insert that succeeds: the new row is answered. -/
theorem returned_onDuplicate_ok (hmodel : ModelTellsRow M) {e : M.DieselEntity}
    (h : insert.run exec u = (.ok (M.intoModel e), u')) :
    Returned M row ((onDuplicate insert recover).run exec u).1 ↔
      IsRow row (some (M.serialize e)) := by
  rw [run_onDuplicate_ok h]
  exact returned_ok_iff hmodel e

/-- An insert that fails: a duplicate is read back. -/
theorem returned_onDuplicate_error {err : M.Error} (h : insert.run exec u = (.error err, u')) :
    Returned M row ((onDuplicate insert recover).run exec u).1 ↔
      StorageErrorExt.isDuplicate err = true ∧ Returned M row (recover.run exec u').1 := by
  rw [run_onDuplicate_error h]
  split_ifs with hdup
  · simp [hdup]
  · simp [hdup, not_returned_error]

end OnDuplicate

/-- An INSERT of a committed key fails as a duplicate when its values fit. -/
theorem isDuplicate_committed {E : Type} [StorageErrorExt E] [LawfulStorageError E]
    (fits : Bool) : StorageErrorExt.isDuplicate
      (StorageErrorExt.fromDieselError (if fits then .uniqueViolation else .other) : E) = fits := by
  rw [Bool.eq_iff_iff, LawfulStorageError.isDuplicate_fromDieselError]
  cases fits <;> simp

/-! ## Vault rows and lockers -/

section Compositions

variable (ctx : KvStoreContext) (u : Replicated)

/-- When `get_or_insert` of a vault row answers the committed row: what Redis holds
    is that row (or Redis holds nothing and the new row is the same), and without
    Redis the INSERT meets the row and the read that follows shows it. -/
def HoldsVault (new : VaultNew) (row : Row) : Prop :=
  let key := new.primaryKey.getPartitionKey
  let inserted := { new.toVaultNewInner with updatedBy := some .redisKv }.toVaultInner
  if u.store.mode = .enabled then IsRow row (some ((u.store.cached key).getD (.vault inserted)))
  else (Statement.insertVault new.toVaultNewInner).fits = true ∧ IsRow row (u.visible key)

variable {u}

theorem visible_of_cached {key : PartitionKey} {row : Row}
    (hmode : u.store.mode = .enabled) (hc : u.store.cached key = some row) :
    u.visible key = some row := by
  simp [visible, fromRedis, hmode, hc]

theorem resource_of_rowAt {row : Row} {key : PartitionKey}
    (hrow : u.store.pg.rowAt key = some row) : row.partitionKey.resource = key.resource := by
  rw [Pg.partitionKey_of_rowAt hrow]

theorem returned_findVault_iff {row : Row} (pk : VaultPrimaryKey)
    (hrow : row.partitionKey.resource = some .vault) :
    Returned Vault.kvResource row
      ((findByVaultIdEntityId ctx pk.vaultId pk.entityId).run exec u).1 ↔
        IsRow row (u.visible pk.getPartitionKey) := by
  have hfind := run_findOptionalResourceById ctx u Vault.spec readsRouted_vault pk
  let f : Except VaultDBError (Option Vault) → Except VaultDBError Vault := fun
    | .ok (some vault) => .ok vault
    | .ok none => .error .notFoundError
    | .error err => .error err
  have hrun : (findByVaultIdEntityId ctx pk.vaultId pk.entityId).run exec u = (_, _) :=
    Prog.run_mapResult_of hfind f
  rw [hrun]
  exact returned_optional_iff Vault.spec modelTellsRow_vault hrow (f := f) (fun _ => rfl)
    (fun _ h => nomatch h) (fun _ _ h => nomatch h) _

theorem returned_getOrInsertVault_iff {row : Row} (new : VaultNew)
    (hrow : u.store.pg.rowAt new.primaryKey.getPartitionKey = some row) :
    Returned Vault.kvResource row ((getOrInsertVault ctx new).run exec u).1 ↔
      u.HoldsVault new row := by
  have hfind := @returned_findVault_iff ctx u row new.primaryKey (resource_of_rowAt hrow)
  unfold HoldsVault
  by_cases hmode : u.store.mode = .enabled
  · simp only [hmode, if_true]
    obtain ⟨u', hinsert, hsame⟩ := run_insertResource_enabled ctx u Vault.spec
      (fun _ => issues_executeOnPrimary _) hmode new.toVaultNewInner
      new.primaryKey.getPartitionKey
    cases hc : u.store.cached new.primaryKey.getPartitionKey with
    | none =>
      rw [hc] at hinsert
      exact returned_onDuplicate_ok modelTellsRow_vault hinsert
    | some stored =>
      rw [hc] at hinsert hsame
      obtain rfl := hsame rfl
      rw [visible_of_cached hmode hc] at hfind
      refine (returned_onDuplicate_error hinsert).trans ?_
      exact (and_iff_right rfl).trans hfind
  · simp only [hmode, if_false]
    have hstorage := @run_executeOnPrimary_committed u VaultDBError _
      (.insertVault { new.toVaultNewInner with updatedBy := some .postgresOnly }) _ row rfl hrow
    have hinsert := run_insertResource_committed ctx u (M := Vault.kvResource) hmode
      new.toVaultNewInner new.primaryKey.getPartitionKey hstorage
    refine (returned_onDuplicate_error hinsert).trans ?_
    exact and_congr (iff_of_eq (congrArg (· = true) (isDuplicate_committed _))) hfind

/-- When `get_or_insert` of a locker answers the committed row: as for a vault row,
    and Redis must not hold the lookup id. -/
def HoldsLocker (u : Replicated) (new : LockerNew) (row : Row) : Prop :=
  let key := new.primaryKey.getPartitionKey
  let inserted := { new with updatedBy := some .redisKv }.toLockerInner
  if u.store.mode = .enabled then
    u.store.cached (.reverseLookup new.hashKey.getLookupKey.lookupId) = none ∧
      IsRow row (some ((u.store.cached key).getD (.locker inserted)))
  else (Statement.insertLocker new).fits = true ∧ IsRow row (u.visible key)

theorem returned_findLocker_iff {row : Row} (pk : LockerPrimaryKeyType)
    (hrow : row.partitionKey.resource = some .locker) :
    Returned Locker.kvResource row ((findByLockerIdMerchantIdCustomerId ctx pk.lockerId
      pk.merchantId pk.customerId).run exec u).1 ↔ IsRow row (u.visible pk.getPartitionKey) := by
  have hfind := run_findResourceByIdInner u ctx Locker.spec readsRouted_locker pk
  have hrun : (findByLockerIdMerchantIdCustomerId ctx pk.lockerId pk.merchantId
      pk.customerId).run exec u = (_, _) := Prog.run_mapResult_of hfind _
  rw [hrun]
  exact returned_answer_iff Locker.spec modelTellsRow_locker hrow _

theorem returned_getOrInsertLocker_iff {row : Row} (new : LockerNew)
    (hrow : u.store.pg.rowAt new.primaryKey.getPartitionKey = some row) :
    Returned Locker.kvResource row ((getOrInsertLocker ctx new).run exec u).1 ↔
      u.HoldsLocker new row := by
  have hfind := fun u' : Replicated =>
    @returned_findLocker_iff ctx u' row new.primaryKey (resource_of_rowAt hrow)
  have hprimary := run_primary (issues_insertLocker ctx new) u
  unfold HoldsLocker
  by_cases hmode : u.store.mode = .enabled
  · simp only [hmode, if_true]
    have hinsert : (insertLocker ctx new).run Store.exec u.store = _ :=
      run_insertLocker_enabled ctx u.store hmode new
    rw [hinsert] at hprimary
    cases hl : u.store.cached (.reverseLookup new.hashKey.getLookupKey.lookupId) with
    | some lookup =>
      rw [hl] at hprimary
      refine (returned_onDuplicate_error hprimary).trans ?_
      exact iff_of_false (fun h => nomatch h.1) (fun h => nomatch h.1)
    | none =>
      rw [hl] at hprimary
      cases hc : u.store.cached new.primaryKey.getPartitionKey with
      | none =>
        rw [hc] at hprimary
        refine (returned_onDuplicate_ok modelTellsRow_locker hprimary).trans ?_
        exact (and_iff_right rfl).symm
      | some stored =>
        rw [hc] at hprimary
        have hc' : (u.store.writeLookup ctx new).cached new.primaryKey.getPartitionKey =
            some stored := (writeLookup_cached ctx u.store new new.primaryKey).trans hc
        let u' : Replicated := { u with store := u.store.writeLookup ctx new }
        have hread : u'.visible new.primaryKey.getPartitionKey = some stored :=
          visible_of_cached hmode hc'
        have hfind' := hfind u'
        rw [hread] at hfind'
        refine (returned_onDuplicate_error hprimary).trans ?_
        exact and_congr (iff_of_true rfl rfl) hfind'
  · simp only [hmode, if_false]
    have hinsert : (insertLocker ctx new).run Store.exec u.store = _ :=
      run_insertLocker_postgresOnly ctx u.store hmode new
    have hexec := @Pg.execute_insert_of_rowAt u.store.pg
      (.insertLocker { new with updatedBy := some .postgresOnly }) _ row rfl hrow
    rw [hexec, Pg.apply_of_insert_error rfl hexec] at hinsert
    rw [hinsert] at hprimary
    refine (returned_onDuplicate_error hprimary).trans ?_
    exact and_congr (iff_of_eq (congrArg (· = true) (isDuplicate_committed _))) (hfind u)

end Compositions

/-! ## Through the in-process caches -/

section Caches

variable {T E : Type} {lookup : App (Option T)} {find : App (Except E (Option T))}
  {insert : App (Except E T)} {cache : T → App Unit} {cached : Option T} {u u' : Replicated}

/-- A read through a cache answers what the cache holds, or what the read behind it
    finds, which it then caches. -/
theorem run_readThrough {p : App (Except E (Option T))}
    {next after : Option T → App (Except E (Option T))} (hp : p = lookup.bind next)
    (hhit : ∀ value, next (some value) = .pure (.ok (some value)))
    (hmiss : next none = find.andThen after) (hnone : after none = .pure (.ok none))
    (hfound : ∀ value, after (some value) = (cache value).mapResult fun _ => .ok (some value))
    {found : Except E (Option T)} (hlookup : lookup.run exec u = (cached, u))
    (hfind : find.run exec u = (found, u')) :
    ∃ u'', p.run exec u = (cached.elim found fun value => .ok (some value), u'') ∧
      (cached = none → found = .ok none → u'' = u') := by
  have hrun := Prog.run_bind_of hlookup next
  rw [hp, hrun]
  cases cached with
  | some value => exact ⟨u, by rw [hhit]; rfl, fun h => nomatch h⟩
  | none =>
    rw [hmiss]
    cases found with
    | error e => exact ⟨u', Prog.run_andThen_error hfind _, fun _ _ => rfl⟩
    | ok found =>
      rw [Prog.run_andThen_ok hfind]
      cases found with
      | none => exact ⟨u', by rw [hnone]; rfl, fun _ _ => rfl⟩
      | some value =>
        refine ⟨((cache value).run exec u').2, ?_, fun _ h => nomatch h⟩
        rw [hfound]
        exact Prog.run_mapResult_of rfl _

/-- An insert through a cache answers what the insert behind it does. -/
theorem run_insertThrough (cache : T → App Unit) {reply : Except E T}
    (hinsert : insert.run exec u = (reply, u')) :
    ∃ u'', ((insert.andThen fun output => (cache output).mapResult fun _ => .ok output).run
        exec u) = (reply, u'') ∧ ((∃ e, reply = .error e) → u'' = u') := by
  cases reply with
  | error e => exact ⟨u', Prog.run_andThen_error hinsert _, fun _ => rfl⟩
  | ok output =>
    refine ⟨((cache output).run exec u').2, ?_, fun ⟨_, h⟩ => nomatch h⟩
    exact (Prog.run_andThen_ok hinsert _).trans (Prog.run_mapResult_of rfl _)

end Caches

/-! ## Hashes -/

section Hashes

variable (ctx : KvStoreContext) {u : Replicated}

/-- The row that a read through the cache answers. -/
def knownHash (u : Replicated) (dataHash : Bytes) : Option Row :=
  match u.store.hashTableCache dataHash with
  | some value => some (.hashTable value)
  | none => u.visible (.hashTable dataHash)

/-- When `insert_or_get` of a hash answers the committed row: Redis holds no row
    and the new one is the same, or the insert meets a row and the read that follows
    shows the committed one. -/
def HoldsHash (u : Replicated) (uuid : String) (now : PrimitiveDateTime) (dataHash : Bytes)
    (row : Row) : Prop :=
  let inserted : HashTableNew :=
    { hashId := uuid, dataHash, createdAt := now, updatedBy := some .redisKv }
  if u.store.mode = .enabled ∧ u.store.cached (.hashTable dataHash) = none then
    IsRow row (some (.hashTable inserted.toHashTable))
  else
    (u.store.mode ≠ .enabled → (Statement.insertHashTable inserted).fits = true) ∧
      IsRow row (u.knownHash dataHash)

/-- The read after a duplicate. -/
theorem returned_readHash_iff {row : Row} (dataHash : Bytes)
    (hrow : row.partitionKey.resource = some .hashTable) :
    Returned HashTable.kvResource row (((Caching.findOptionalByDataHash ctx dataHash).mapResult
      (orInsertError .dbInsertError)).run exec u).1 ↔ IsRow row (u.knownHash dataHash) := by
  have hlookup : (Caching.lookupHashTable dataHash).run exec u =
      (u.store.hashTableCache dataHash, u) := rfl
  have hfind : (findOptionalByDataHash ctx dataHash).run exec u = (_, _) :=
    run_findOptionalResourceById ctx u HashTable.spec readsRouted_hashTable dataHash
  obtain ⟨u', hread, -⟩ := run_readThrough (p := Caching.findOptionalByDataHash ctx dataHash) rfl
    (fun _ => rfl) rfl rfl (fun _ => rfl) hlookup hfind
  rw [Prog.run_mapResult_of hread]
  unfold knownHash
  cases u.store.hashTableCache dataHash with
  | some value => exact returned_ok_iff modelTellsRow_hashTable value
  | none =>
    exact returned_optional_iff HashTable.spec modelTellsRow_hashTable hrow
      (f := orInsertError HashDBError.dbInsertError) (fun _ => rfl) (fun _ h => nomatch h)
      (fun _ _ h => nomatch h) _

theorem returned_insertOrGetHash_iff {row : Row} (uuid : String) (now : PrimitiveDateTime)
    (dataHash : Bytes) (hrow : u.store.pg.rowAt (.hashTable dataHash) = some row) :
    Returned HashTable.kvResource row ((insertOrGetHash ctx uuid now dataHash).run exec u).1 ↔
      u.HoldsHash uuid now dataHash row := by
  have hread := @returned_readHash_iff ctx u row dataHash (resource_of_rowAt hrow)
  let new : HashTableNew :=
    { hashId := uuid, dataHash, createdAt := now, updatedBy := some .postgresOnly }
  unfold HoldsHash
  by_cases hmode : u.store.mode = .enabled
  · obtain ⟨u', hinsert, hsame⟩ := run_insertResource_enabled ctx u HashTable.spec
      (fun _ => issues_executeOnPrimary _) hmode new (.hashTable dataHash)
    cases hc : u.store.cached (.hashTable dataHash) with
    | none =>
      rw [hc] at hinsert
      simp only [hmode, and_self, if_true]
      obtain ⟨u'', hthrough, -⟩ := run_insertThrough (Caching.cacheHashTable dataHash) hinsert
      exact returned_onDuplicate_ok modelTellsRow_hashTable hthrough
    | some stored =>
      rw [hc] at hinsert hsame
      obtain rfl := hsame rfl
      simp only [hmode, reduceCtorEq, and_false, if_false, ne_eq, not_true_eq_false,
        false_implies, true_and]
      obtain ⟨u'', hthrough, hend⟩ := run_insertThrough (Caching.cacheHashTable dataHash) hinsert
      obtain rfl := hend ⟨_, rfl⟩
      refine (returned_onDuplicate_error hthrough).trans ?_
      exact (and_iff_right rfl).trans hread
  · simp only [hmode, false_and, if_false, ne_eq, not_false_eq_true, true_implies]
    have hstorage := @run_executeOnPrimary_committed u HashDBError _ (.insertHashTable new) _ row
      rfl hrow
    have hinsert := run_insertResource_committed ctx u (M := HashTable.kvResource) hmode new
      (.hashTable dataHash) hstorage
    obtain ⟨u'', hthrough, hend⟩ := run_insertThrough (Caching.cacheHashTable dataHash) hinsert
    obtain rfl := hend ⟨_, rfl⟩
    refine (returned_onDuplicate_error hthrough).trans ?_
    exact and_congr (iff_of_eq (congrArg (· = true) (isDuplicate_committed _))) hread

end Hashes

/-! ## Fingerprints -/

section Fingerprints

variable (ctx : KvStoreContext) {u : Replicated}

/-- The row that a read through the cache answers. -/
def knownFingerprint (u : Replicated) (fingerprintHash : Bytes) : Option Row :=
  match u.store.fingerprintCache fingerprintHash with
  | some value => some (.fingerprint value)
  | none => u.visible (.fingerprint fingerprintHash)

/-- When `get_or_insert` of a fingerprint answers the committed row: its first read
    shows it; or that read shows nothing, and what is inserted into Redis is the
    same, or the INSERT meets the row and the second read shows it. -/
def HoldsFingerprint (u : Replicated) (fingerprintHash : Bytes) (fingerprintId : String)
    (row : Row) : Prop :=
  let key : PartitionKey := .fingerprint fingerprintHash
  let inserted : FingerprintTableNew :=
    { fingerprintHash, fingerprintId, updatedBy := some .redisKv }
  match u.knownFingerprint fingerprintHash with
  | some found => IsRow row (some found)
  | none =>
    if u.store.mode = .enabled then IsRow row (some (.fingerprint inserted.toFingerprint))
    else (Statement.insertFingerprint inserted).fits = true ∧
      IsRow row ((u.afterFind key).visible key)

@[simp] theorem afterFind_store (key : PartitionKey) : (u.afterFind key).store = u.store := by
  unfold afterFind afterRead
  cases u.fromRedis key with
  | some row => rfl
  | none =>
    dsimp only
    split_ifs <;> rfl

/-- A read through the cache. -/
theorem run_readFingerprint (fingerprintHash : Bytes) :
    ∃ u', (Caching.findOptionalByFingerprintHash ctx fingerprintHash).run exec u =
        ((u.store.fingerprintCache fingerprintHash).elim
          (optionalResult ((Fingerprint.kvResource.answer
            (u.visible (.fingerprint fingerprintHash))).map fun row => row))
          fun value => .ok (some value), u') ∧
      (u.knownFingerprint fingerprintHash = none →
        u' = u.afterFind (.fingerprint fingerprintHash)) := by
  have hlookup : (Caching.lookupFingerprint fingerprintHash).run exec u =
      (u.store.fingerprintCache fingerprintHash, u) := rfl
  have hfind : (findOptionalByFingerprintHash ctx fingerprintHash).run exec u = (_, _) :=
    run_findOptionalResourceById ctx u Fingerprint.spec readsRouted_fingerprint fingerprintHash
  obtain ⟨u', hread, hend⟩ := run_readThrough
    (p := Caching.findOptionalByFingerprintHash ctx fingerprintHash) rfl (fun _ => rfl) rfl rfl
    (fun _ => rfl) hlookup hfind
  refine ⟨u', hread, fun hnone => ?_⟩
  unfold knownFingerprint at hnone
  cases hc : u.store.fingerprintCache fingerprintHash with
  | some value =>
    rw [hc] at hnone
    cases hnone
  | none =>
    rw [hc] at hnone
    refine hend hc ?_
    change optionalResult (Except.map _ (Fingerprint.kvResource.answer
      (u.visible (.fingerprint fingerprintHash)))) = _
    rw [show u.visible (.fingerprint fingerprintHash) = none from hnone]
    rfl

/-- The answer of a read through the cache, no row being an error. -/
theorem returned_readFingerprint_iff {row : Row} (fingerprintHash : Bytes)
    (hrow : row.partitionKey.resource = some .fingerprint) :
    Returned Fingerprint.kvResource row
      (((Caching.findOptionalByFingerprintHash ctx fingerprintHash).mapResult
        (orInsertError .dbInsertError)).run exec u).1 ↔
      IsRow row (u.knownFingerprint fingerprintHash) := by
  obtain ⟨u', hread, -⟩ := run_readFingerprint ctx (u := u) fingerprintHash
  rw [Prog.run_mapResult_of hread]
  unfold knownFingerprint
  cases u.store.fingerprintCache fingerprintHash with
  | some value => exact returned_ok_iff modelTellsRow_fingerprint value
  | none =>
    exact returned_optional_iff Fingerprint.spec modelTellsRow_fingerprint hrow
      (f := orInsertError FingerprintDBError.dbInsertError) (fun _ => rfl) (fun _ h => nomatch h)
      (fun _ _ h => nomatch h) _

/-- After a first read that found nothing. -/
theorem returned_insertFingerprint_iff {row : Row} (fingerprintHash : Bytes)
    (fingerprintId : String)
    (hrow : u.store.pg.rowAt (.fingerprint fingerprintHash) = some row)
    (hnone : u.store.mode = .enabled → u.store.cached (.fingerprint fingerprintHash) = none) :
    Returned Fingerprint.kvResource row
      ((onDuplicate (Caching.insertFingerprint ctx fingerprintHash fingerprintId)
        ((Caching.findOptionalByFingerprintHash ctx fingerprintHash).mapResult
          (orInsertError .dbInsertError))).run exec u).1 ↔
      if u.store.mode = .enabled then
        IsRow row (some (.fingerprint (FingerprintTableNew.toFingerprint
          { fingerprintHash, fingerprintId, updatedBy := some .redisKv })))
      else
        (Statement.insertFingerprint
          { fingerprintHash, fingerprintId, updatedBy := some .redisKv }).fits = true ∧
          IsRow row (u.knownFingerprint fingerprintHash) := by
  have hread := @returned_readFingerprint_iff ctx u row fingerprintHash (resource_of_rowAt hrow)
  let new : FingerprintTableNew :=
    { fingerprintHash, fingerprintId, updatedBy := some .postgresOnly }
  by_cases hmode : u.store.mode = .enabled
  · simp only [hmode, if_true]
    obtain ⟨u', hinsert, -⟩ := run_insertResource_enabled ctx u Fingerprint.spec
      (fun _ => issues_executeOnPrimary _) hmode new (.fingerprint fingerprintHash)
    rw [hnone hmode] at hinsert
    obtain ⟨u'', hthrough, -⟩ := run_insertThrough
      (fun output => Caching.cacheFingerprint output.fingerprintHash output) hinsert
    exact returned_onDuplicate_ok modelTellsRow_fingerprint hthrough
  · simp only [hmode, if_false]
    have hstorage := @run_executeOnPrimary_committed u FingerprintDBError _
      (.insertFingerprint new) _ row rfl hrow
    have hinsert := run_insertResource_committed ctx u (M := Fingerprint.kvResource) hmode new
      (.fingerprint fingerprintHash) hstorage
    obtain ⟨u'', hthrough, hend⟩ := run_insertThrough
      (fun output => Caching.cacheFingerprint output.fingerprintHash output) hinsert
    obtain rfl := hend ⟨_, rfl⟩
    refine (returned_onDuplicate_error hthrough).trans ?_
    exact and_congr (iff_of_eq (congrArg (· = true) (isDuplicate_committed _))) hread

theorem returned_getOrInsertFingerprint_iff {row : Row} (sign : Bytes → Bytes → Bytes)
    (nanoId data key : String) (fingerprintId : Option String) {fingerprintHash : Bytes}
    (hhash : fingerprintHash =
      hmacSha512Encode sign key.toUTF8.data.toList data.toUTF8.data.toList)
    (hrow : u.store.pg.rowAt (.fingerprint fingerprintHash) = some row) :
    Returned Fingerprint.kvResource row
      ((getOrInsertFingerprint ctx sign nanoId data key fingerprintId).run exec u).1 ↔
      u.HoldsFingerprint fingerprintHash (fingerprintId.getD nanoId) row := by
  have hres := resource_of_rowAt hrow
  obtain ⟨u', hread, hend⟩ := run_readFingerprint ctx (u := u) fingerprintHash
  unfold getOrInsertFingerprint HoldsFingerprint
  rw [← hhash]
  dsimp only
  cases hk : u.knownFingerprint fingerprintHash with
  | none =>
    obtain rfl := hend hk
    have hc : u.store.fingerprintCache fingerprintHash = none := by
      cases hc : u.store.fingerprintCache fingerprintHash with
      | none => rfl
      | some value => simp [knownFingerprint, hc] at hk
    have hv : u.visible (.fingerprint fingerprintHash) = none := by
      simpa [knownFingerprint, hc] using hk
    rw [hc, hv] at hread
    rw [Prog.run_andThen_ok (a := none) hread]
    have hsecond := @returned_insertFingerprint_iff ctx
      (u.afterFind (.fingerprint fingerprintHash)) row fingerprintHash
      (fingerprintId.getD nanoId) (by rwa [afterFind_store]) fun hmode => by
        rw [afterFind_store] at hmode ⊢
        cases hcached : u.store.cached (.fingerprint fingerprintHash) with
        | none => rfl
        | some stored =>
          rw [visible_of_cached hmode hcached] at hv
          cases hv
    rw [afterFind_store] at hsecond
    refine hsecond.trans ?_
    simp only [knownFingerprint, afterFind_store, hc]
  | some found =>
    unfold knownFingerprint at hk
    cases hc : u.store.fingerprintCache fingerprintHash with
    | some value =>
      rw [hc] at hk hread
      cases hk
      rw [Prog.run_andThen_ok (a := some value) hread]
      exact returned_ok_iff modelTellsRow_fingerprint value
    | none =>
      rw [hc] at hk hread
      rw [show u.visible (.fingerprint fingerprintHash) = some found from hk] at hread
      cases found with
      | fingerprint e =>
        rw [Prog.run_andThen_ok (a := some e) hread]
        exact returned_ok_iff modelTellsRow_fingerprint e
      | _ =>
        -- the row read is not one of the table
        rw [Prog.run_andThen_error (e := FingerprintDBError.unknownError) hread]
        refine iff_of_false (not_returned_error _) fun h => ?_
        have hwrong := (resource_of_stored (Option.some.inj h)).trans hres
        cases hwrong

end Fingerprints

/-! ## The five compositions -/

/-- When each composition answers the row that is committed on the primary. -/
theorem returned_committed_iff (ctx : KvStoreContext) :
    (∀ (u : Replicated) (new : VaultNew) (row : Row),
      u.store.pg.rowAt new.primaryKey.getPartitionKey = some row →
        (Returned Vault.kvResource row ((getOrInsertVault ctx new).run exec u).1 ↔
          u.HoldsVault new row)) ∧
    (∀ (u : Replicated) (new : LockerNew) (row : Row),
      u.store.pg.rowAt new.primaryKey.getPartitionKey = some row →
        (Returned Locker.kvResource row ((getOrInsertLocker ctx new).run exec u).1 ↔
          u.HoldsLocker new row)) ∧
    (∀ (u : Replicated) (uuid : String) (now : PrimitiveDateTime) (dataHash : Bytes) (row : Row),
      u.store.pg.rowAt (.hashTable dataHash) = some row →
        (Returned HashTable.kvResource row
            ((insertOrGetHash ctx uuid now dataHash).run exec u).1 ↔
          u.HoldsHash uuid now dataHash row)) ∧
    (∀ (u : Replicated) (sign : Bytes → Bytes → Bytes) (nanoId data key : String)
        (fingerprintId : Option String) (fingerprintHash : Bytes) (row : Row),
      fingerprintHash = hmacSha512Encode sign key.toUTF8.data.toList data.toUTF8.data.toList →
        u.store.pg.rowAt (.fingerprint fingerprintHash) = some row →
          (Returned Fingerprint.kvResource row
              ((getOrInsertFingerprint ctx sign nanoId data key fingerprintId).run exec u).1 ↔
            u.HoldsFingerprint fingerprintHash (fingerprintId.getD nanoId) row)) ∧
    ∀ (σ : Type) (service : KeyService σ) (aead : Aead) (keys : KeyReplicated σ)
        (generatedKey : Bytes) (merchantId : String) (key : GcmAes256) (row : MerchantInner),
      keys.store.tables.merchantRow merchantId = some row →
        (KeyReplicated.ReturnedMerchant aead key row
            ((findOrCreateMerchant aead generatedKey merchantId key).run
              (KeyReplicated.exec service) keys).1 ↔
          keys.HoldsMerchant aead generatedKey merchantId key row) := by
  refine ⟨?_, ?_, ?_, ?_, ?_⟩
  · exact fun u new row hrow => returned_getOrInsertVault_iff ctx new hrow
  · exact fun u new row hrow => returned_getOrInsertLocker_iff ctx new hrow
  · exact fun u uuid now dataHash row hrow =>
      returned_insertOrGetHash_iff ctx uuid now dataHash hrow
  · exact fun u sign nanoId data key fingerprintId fingerprintHash row hhash hrow =>
      returned_getOrInsertFingerprint_iff ctx sign nanoId data key fingerprintId hhash hrow
  · exact fun σ service aead keys generatedKey merchantId key row hrow =>
      KeyReplicated.returned_findOrCreateMerchant_iff service aead keys generatedKey key hrow

/-! ### A vault row that the replica does not have yet -/

/-- The record of a card. -/
def lateVault : VaultNew := ⟨"card", "merchant", [1], ⟨0⟩, none, .postgresOnly⟩

/-- The card is committed on the primary. -/
def latePg : Pg := Pg.empty.apply (.insertVault lateVault.toVaultNewInner)

/-- Its row. -/
def lateRow : Row := .vault ⟨1, "merchant", "card", [1], ⟨0⟩, none, some .postgresOnly⟩

/-- With a replica that shows the row the call answers it. -/
theorem returned_committed_lateVault :
    Returned Vault.kvResource lateRow ((getOrInsertVault .default lateVault).run exec
      { behind .disabled latePg with lag := fun _ => latePg }).1 :=
  ((returned_committed_iff .default).1 _ lateVault lateRow (by decide +kernel)).2 (by
    unfold HoldsVault
    decide +kernel)

/-- The tables `pg` are an earlier state of the tables `later`. -/
def EarlierPg (pg later : Pg) : Prop :=
  ∃ stmts : List Statement, later = stmts.foldl (fun pg stmt => pg.apply stmt) pg

/-- With a replica that lags behind it answers an error. -/
theorem committed_not_returned :
    ¬ ∀ (ctx : KvStoreContext) (u : Replicated) (new : VaultNew) (row : Row),
      u.usesReplica = true → (∀ n, EarlierPg (u.lag n) u.store.pg) →
        u.store.mode = .disabled ∨ u.store.mode = .enabled →
          u.store.pg.rowAt new.primaryKey.getPartitionKey = some row →
            Returned Vault.kvResource row ((getOrInsertVault ctx new).run exec u).1 := by
  intro h
  obtain ⟨e, he, -⟩ := h .default (behind .disabled latePg) lateVault lateRow (by decide)
    (fun _ => ⟨[.insertVault lateVault.toVaultNewInner], rfl⟩) (Or.inl rfl) (by decide +kernel)
  have hnone : ((getOrInsertVault .default lateVault).run exec (behind .disabled latePg)).1 =
      .error .notFoundError := by decide +kernel
  cases hnone.symm.trans he

end Replicated

end CardVault
