import CardVault.Api.Cards
import CardVault.Concurrent.Writes

/-!
# Lockers behind the card routes

What the steps of `add_card` and `retrieve_card` do to the lockers, run with nothing
in between: the calls on the hash table leave them alone, and an insert that reports a
row has either stored it or left what was there.

Main results:
* `SameLockers.insertOrGetHash` and its like: calls that leave the lockers.
* `getOrInsertLocker_ok`: what can be found after `get_or_insert`.
-/

namespace CardVault

open Interaction

/-! ## Calls that leave the lockers -/

section Reads

variable (ctx : KvStoreContext)

theorem reads_findOptionalByHash (hashId merchantId customerId : String) :
    Reads (findOptionalByHashIdMerchantIdCustomerId ctx hashId merchantId customerId) := by
  have hfind : Reads (Locker.storageFindByLookup ⟨hashId, merchantId, customerId⟩) :=
    Prog.Issues.mapResult (reads_findOnRouted fun _ => Query.noConfusion)
  refine Prog.Issues.mapResult (Prog.Issues.bind (Prog.Issues.mapResult reads_kvSettings)
    fun scheme => ?_)
  cases scheme with
  | postgresOnly => exact hfind
  | redisKv =>
    refine Prog.Issues.andThen (Prog.Issues.mapResult
      (reads_findResourceById ctx reads_findReverseLookup _)) fun found => ?_
    cases found with
    | none => exact hfind
    | some keyStr =>
      refine Prog.Issues.andThen (Prog.Issues.mapResult (reads_kvWrapper_hGet ctx _ _ _))
        fun held => ?_
      cases held with
      | some v => trivial
      | none => exact hfind

end Reads

/-- A program that reads leaves the store as it is. -/
theorem run_reads {α : Type} {p : App α} (h : Reads p) (s : Store) :
    (p.run Store.exec s).2 = s := by
  induction p generalizing s with
  | pure a => rfl
  | call c k ih =>
    have hquiet := exec_quiet (s := s) (h.1 _)
    rw [Prog.run_call, hquiet]
    exact ih _ (h.2 _ trivial) s

/-- The mode and the lockers of the two stores are the same. -/
structure SameLockers (s s' : Store) : Prop where
  mode : s'.mode = s.mode
  cached : ∀ pk : LockerPrimaryKeyType, s'.cached pk.getPartitionKey = s.cached pk.getPartitionKey
  pg : s'.pg.locker = s.pg.locker

namespace SameLockers

variable {s s' s'' : Store}

theorem refl (s : Store) : SameLockers s s := ⟨rfl, fun _ => rfl, rfl⟩

theorem trans (h : SameLockers s s') (h' : SameLockers s' s'') : SameLockers s s'' :=
  ⟨h'.mode.trans h.mode, fun pk => (h'.cached pk).trans (h.cached pk), h'.pg.trans h.pg⟩

theorem rowAt (h : SameLockers s s') (pk : LockerPrimaryKeyType) :
    s'.pg.rowAt pk.getPartitionKey = s.pg.rowAt pk.getPartitionKey := by
  change (s'.pg.locker.get _ _).map _ = (s.pg.locker.get _ _).map _
  rw [h.pg]

theorem visible (h : SameLockers s s') (pk : LockerPrimaryKeyType) :
    s'.visible pk.getPartitionKey = s.visible pk.getPartitionKey := by
  unfold Store.visible
  rw [h.mode, h.cached, h.rowAt]

variable (ctx : KvStoreContext)

/-- A row of another table is written. -/
theorem write (s : Store) {key : PartitionKey} (row : Row) (query : SerializableQuery)
    (hkey : ∀ pk : LockerPrimaryKeyType, pk.getPartitionKey.display ≠ key.display) :
    SameLockers s (s.write ctx key row query) :=
  ⟨rfl, fun pk => (Store.write_cached ..).trans (if_neg (hkey pk)), rfl⟩

end SameLockers

/-- Wherever it runs, the program leaves the lockers. -/
def SparesLockers {α : Type} (p : App α) : Prop := ∀ s, SameLockers s (p.run Store.exec s).2

namespace SparesLockers

variable {α β E : Type}

theorem bind {p : App α} {f : α → App β} (hp : SparesLockers p) (hf : ∀ a, SparesLockers (f a)) :
    SparesLockers (p.bind f) := by
  intro s
  rw [Prog.run_bind]
  exact (hp s).trans (hf _ _)

theorem pure (a : α) : SparesLockers (Prog.pure a) := SameLockers.refl

theorem andThen {p : App (Except E α)} {f : α → App (Except E β)} (hp : SparesLockers p)
    (hf : ∀ a, SparesLockers (f a)) : SparesLockers (p.andThen f) := by
  refine bind hp fun reply => ?_
  cases reply with
  | ok a => exact hf a
  | error e => exact pure _

theorem mapResult {p : App α} (hp : SparesLockers p) (f : α → β) :
    SparesLockers (p.mapResult f) := bind hp fun _ => pure _

theorem reads {p : App α} (hp : Reads p) : SparesLockers p := by
  intro s
  rw [run_reads hp]
  exact SameLockers.refl s

theorem onDuplicate [StorageErrorExt E] {insert recover : App (Except E α)}
    (hinsert : SparesLockers insert) (hrecover : SparesLockers recover) :
    SparesLockers (onDuplicate insert recover) := by
  refine bind hinsert fun reply => ?_
  cases reply with
  | ok a => exact pure _
  | error err =>
    dsimp only
    split_ifs
    · exact hrecover
    · exact pure _

theorem cacheHashTable (dataHash : Bytes) (value : HashTable) :
    SparesLockers (Caching.cacheHashTable dataHash value) := fun _ => ⟨rfl, fun _ => rfl, rfl⟩

variable (ctx : KvStoreContext) (uuid : String) (now : PrimitiveDateTime) (dataHash : Bytes)

theorem insertHash : SparesLockers (CardVault.insertHash ctx uuid now dataHash) := by
  intro s
  unfold CardVault.insertHash
  by_cases hmode : s.mode = .enabled
  · rw [run_insertResource_enabled ctx s HashTable.spec hmode]
    split
    · exact SameLockers.refl s
    · refine SameLockers.write ctx s _ _ fun pk hpk => ?_
      have hresource := @PartitionKey.resource_eq_of_display _ _ .locker .hashTable rfl rfl hpk
      cases hresource
  · rw [run_insertResource_postgresOnly ctx s (M := HashTable.kvResource) hmode]
    have hinsert := run_executeOnPrimary (E := HashDBError) s (.insertHashTable
      { hashId := uuid, dataHash, createdAt := now, updatedBy := some .postgresOnly })
    refine ⟨?_, fun pk => ?_, ?_⟩
    · exact congrArg (fun answer => Store.mode answer.2) hinsert
    · exact congrArg (fun answer => Store.cached answer.2 pk.getPartitionKey) hinsert
    · exact congrArg (fun answer => answer.2.pg.locker) hinsert

theorem findOptionalByDataHash :
    SparesLockers (Caching.findOptionalByDataHash ctx dataHash) := by
  have hstorage : ∀ pk, Reads (HashTable.kvResource.storageFind pk) := fun _ =>
    reads_findOnRouted fun _ => Query.noConfusion
  have hfind : SparesLockers (CardVault.findOptionalByDataHash ctx dataHash) :=
    reads (Prog.Issues.mapResult (reads_findResourceById ctx hstorage dataHash))
  refine bind (reads (reads_perform fun _ => rfl)) fun cached => ?_
  cases cached with
  | some value => exact pure _
  | none =>
    refine andThen hfind fun found => ?_
    cases found with
    | none => exact pure _
    | some value => exact mapResult (cacheHashTable dataHash value) _

theorem insertOrGetHash : SparesLockers (CardVault.insertOrGetHash ctx uuid now dataHash) := by
  refine onDuplicate ?_ (mapResult (findOptionalByDataHash ctx dataHash) _)
  exact andThen (insertHash ctx uuid now dataHash) fun output =>
    mapResult (cacheHashTable dataHash output) _

end SparesLockers

/-! ## Insert or get -/

namespace Store

/-- The row that an insert of a locker runs into: the one that Redis holds in the mode
    that writes to Redis, else the one that is visible. -/
def inTheWay (s : Store) (pk : LockerPrimaryKeyType) : Option Row :=
  match s.mode with
  | .enabled => s.cached pk.getPartitionKey
  | .disabled | .softKill => s.visible pk.getPartitionKey

/-- The `ttl` that an insert stores. -/
def storedTtl (s : Store) (ttl : Option PrimitiveDateTime) : Option PrimitiveDateTime :=
  match s.mode with
  | .enabled => ttl
  | .disabled | .softKill => ttl.map PrimitiveDateTime.toTimestamp

end Store

theorem SameLockers.inTheWay {s s' : Store} (h : SameLockers s s') (pk : LockerPrimaryKeyType) :
    s'.inTheWay pk = s.inTheWay pk := by
  unfold Store.inTheWay
  rw [h.mode, h.cached, h.visible]

theorem SameLockers.storedTtl {s s' : Store} (h : SameLockers s s')
    (ttl : Option PrimitiveDateTime) : s'.storedTtl ttl = s.storedTtl ttl := by
  unfold Store.storedTtl
  rw [h.mode]

section GetOrInsert

variable (ctx : KvStoreContext) {s s' : Store} {new : LockerNew} {locker : Locker}

/-- A find that answers a locker, with nothing in between, changes nothing. -/
theorem run_findLocker_ok (pk : LockerPrimaryKeyType)
    (h : (findByLockerIdMerchantIdCustomerId ctx pk.lockerId pk.merchantId pk.customerId).run
      Store.exec s = (.ok locker, s')) :
    s' = s ∧ ∃ row, s.visible pk.getPartitionKey = some (.locker row) ∧ row.toLocker = locker := by
  have hrun := run_findByLockerIdMerchantIdCustomerId ctx s pk
  rw [h] at hrun
  exact ⟨congrArg Prod.snd hrun, (findLocker_ok_iff ctx s).1 (congrArg Prod.fst h)⟩

/-- A statement does not show at a key that Redis holds, nor at the keys of other rows. -/
theorem visible_apply (s : Store) (stmt : Statement) {key : PartitionKey}
    (h : stmt.partitionKey ≠ key ∨ s.mode ≠ .disabled ∧ s.cached key ≠ none) :
    ({ s with pg := s.pg.apply stmt } : Store).visible key = s.visible key := by
  have hmode : ({ s with pg := s.pg.apply stmt } : Store).mode = s.mode := rfl
  have hcached : ({ s with pg := s.pg.apply stmt } : Store).cached key = s.cached key := rfl
  unfold Store.visible
  rw [hmode, hcached]
  rcases h with h | ⟨hdisabled, hheld⟩
  · rw [Pg.rowAt_apply_of_ne h]
  · cases hm : s.mode with
    | disabled => exact absurd hm hdisabled
    | _ =>
      cases hc : s.cached key with
      | none => exact absurd hc hheld
      | some row => rfl

/-- Where nothing is visible, what Postgres stores next is. -/
theorem visible_apply_of_none {s : Store} (stmt : Statement) {key : PartitionKey}
    (h : s.visible key = none) :
    ({ s with pg := s.pg.apply stmt } : Store).visible key = (s.pg.apply stmt).rowAt key := by
  have hmode : ({ s with pg := s.pg.apply stmt } : Store).mode = s.mode := rfl
  have hcached : ({ s with pg := s.pg.apply stmt } : Store).cached key = s.cached key := rfl
  unfold Store.visible at h ⊢
  rw [hmode, hcached]
  cases hm : s.mode with
  | disabled => rfl
  | _ =>
    rw [hm] at h
    cases hc : s.cached key with
    | none => rfl
    | some row =>
      rw [hc] at h
      cases h

/-- The locker that `get_or_insert` answers can be found, unless another row was in the
    way; then what was visible stays visible. -/
theorem getOrInsertLocker_ok
    (h : (getOrInsertLocker ctx new).run Store.exec s = (.ok locker, s')) :
    match s.inTheWay new.primaryKey with
    | some _ => ∀ pk : LockerPrimaryKeyType,
        s'.visible pk.getPartitionKey = s.visible pk.getPartitionKey
    | none => locker.lockerId = new.lockerId ∧ ∃ row,
        s'.visible new.primaryKey.getPartitionKey = some (.locker row) ∧
          row.encData = new.encData ∧ row.ttl = s.storedTtl new.ttl := by
  by_cases hmode : s.mode = .enabled
  · have hway : s.inTheWay new.primaryKey = s.cached new.primaryKey.getPartitionKey := by
      simp only [Store.inTheWay, hmode]
    have hrun := run_getOrInsertLocker ctx hmode new
    rw [h] at hrun
    rw [hway]
    cases hl : s.cached (.reverseLookup new.hashKey.getLookupKey.lookupId) with
    | some row =>
      rw [hl] at hrun
      cases congrArg Prod.fst hrun
    | none =>
      rw [hl] at hrun
      cases hc : s.cached new.primaryKey.getPartitionKey with
      | some row =>
        rw [hc] at hrun
        obtain ⟨rfl, -⟩ := run_findLocker_ok ctx new.primaryKey hrun.symm
        exact writeLookup_visible ctx s new
      | none =>
        rw [hc] at hrun
        cases hrun
        have hcached : ((s.writeLookup ctx new).writeLocker ctx new).cached
            new.primaryKey.getPartitionKey =
              some (.locker { new with updatedBy := some .redisKv }.toLockerInner) :=
          Store.write_cached_self ..
        have hafter : ((s.writeLookup ctx new).writeLocker ctx new).mode = .enabled := hmode
        refine ⟨rfl, { new with updatedBy := some .redisKv }.toLockerInner, ?_, rfl, ?_⟩
        · unfold Store.visible
          rw [hcached, hafter]
        · simp only [Store.storedTtl, hmode]
          rfl
  · have hway : s.inTheWay new.primaryKey = s.visible new.primaryKey.getPartitionKey := by
      unfold Store.inTheWay
      cases hm : s.mode with
      | enabled => exact absurd hm hmode
      | disabled => rfl
      | softKill => rfl
    have httl : s.storedTtl new.ttl = new.ttl.map PrimitiveDateTime.toTimestamp := by
      unfold Store.storedTtl
      cases hm : s.mode with
      | enabled => exact absurd hm hmode
      | disabled => rfl
      | softKill => rfl
    have hinsert : (insertLocker ctx new).run Store.exec s = _ :=
      run_insertLocker_postgresOnly ctx s hmode new
    rw [hway]
    cases hexec : (s.pg.execute (.insertLocker { new with updatedBy := some .postgresOnly })).1 with
    | ok out =>
      rw [hexec] at hinsert
      have hrun := h.symm.trans (run_onDuplicate_ok hinsert _)
      cases hrun
      obtain ⟨-, hnone, id, hout, hafter⟩ := Pg.execute_insert_ok rfl hexec
      cases hv : s.visible new.primaryKey.getPartitionKey with
      | some row =>
        -- Redis holds a row that Postgres does not have
        have hheld : s.mode ≠ .disabled ∧ s.cached new.primaryKey.getPartitionKey ≠ none := by
          refine ⟨fun hdisabled => ?_, fun hc => ?_⟩
          · simp only [Store.visible, hdisabled] at hv
            cases hnone.symm.trans hv
          · rw [Store.visible_of_cached_none hc] at hv
            cases hnone.symm.trans hv
        intro pk
        refine visible_apply s _ ?_
        by_cases hpk : new.primaryKey.getPartitionKey = pk.getPartitionKey
        · rw [← hpk]
          exact Or.inr hheld
        · exact Or.inl hpk
      | none =>
        refine ⟨?_, _, (visible_apply_of_none _ hv).trans hafter, rfl, httl.symm⟩
        have hrow : out = _ := Row.locker.inj (Option.some.inj hout)
        rw [hrow]
        rfl
    | error e =>
      have hpg := Pg.apply_of_insert_error rfl hexec
      rw [hexec, hpg] at hinsert
      have hrun := h.symm.trans (run_onDuplicate_error hinsert _)
      split_ifs at hrun
      · obtain ⟨rfl, row, hv, -⟩ := run_findLocker_ok ctx new.primaryKey hrun.symm
        rw [hv]
        exact fun pk => rfl
      · cases congrArg Prod.fst hrun

end GetOrInsert

end CardVault
