import CardVault.System

/-!
# Inserts after the mode became `SoftKill`

In this mode inserts go to Postgres, while the statements of the time before are
still queued. An insert that Postgres accepts is the visible row from then on
when Redis does not hold the key and nothing queued changes or deletes it.

Main results:
* `settle_rowAt_of_inserts`: a row that only INSERTs are queued for stays.
* `softKill_insert_safe_iff`: when an acknowledged insert is safe.
-/

namespace CardVault

open Interaction

/-! ## The resource of a key -/

/-- The impl of a table. -/
abbrev Resource.kvResource : Resource → KvResource
  | .fingerprint => Fingerprint.kvResource
  | .hashTable => HashTable.kvResource
  | .locker => Locker.kvResource
  | .reverseLookup => ReverseLookup.kvResource
  | .vault => Vault.kvResource

/-- Every impl keeps its promises. -/
def Resource.spec : (t : Resource) → t.kvResource.Spec
  | .fingerprint => Fingerprint.spec
  | .hashTable => HashTable.spec
  | .locker => Locker.spec
  | .reverseLookup => ReverseLookup.spec
  | .vault => Vault.spec

/-- The primary key of a new record. -/
def Resource.newKey : (t : Resource) → t.kvResource.DieselNew → t.kvResource.PrimaryKeyType
  | .fingerprint, new => FingerprintTableNew.fingerprintHash new
  | .hashTable, new => HashTableNew.dataHash new
  | .locker, new => LockerNew.primaryKey new
  | .reverseLookup, new => ReverseLookupNew.lookupId new
  | .vault, new => ⟨VaultNewInner.entityId new, VaultNewInner.vaultId new⟩

/-- The insert of a table: lockers are the ones with a reverse lookup. -/
def Resource.insert (ctx : KvStoreContext) : (t : Resource) → (new : t.kvResource.DieselNew) →
    App (Except t.kvResource.Error t.kvResource.Model)
  | .locker, new => insertResourceWithReverseLookup ctx Locker.kvSecondaryLookupResource new
      (Locker.kvResource.getPartitionKey (Resource.newKey .locker new))
  | .fingerprint, new => insertResource ctx Fingerprint.kvResource new
      (Fingerprint.kvResource.getPartitionKey (Resource.newKey .fingerprint new))
  | .hashTable, new => insertResource ctx HashTable.kvResource new
      (HashTable.kvResource.getPartitionKey (Resource.newKey .hashTable new))
  | .reverseLookup, new => insertResource ctx ReverseLookup.kvResource new
      (ReverseLookup.kvResource.getPartitionKey (Resource.newKey .reverseLookup new))
  | .vault, new => insertResource ctx Vault.kvResource new
      (Vault.kvResource.getPartitionKey (Resource.newKey .vault new))

/-- The key of a new record. -/
def Resource.key (t : Resource) (new : t.kvResource.DieselNew) : PartitionKey :=
  t.kvResource.getPartitionKey (t.newKey new)

theorem Resource.key_eq (t : Resource) (new : t.kvResource.DieselNew) (scheme : StorageScheme) :
    (t.spec.insertStatement (t.kvResource.setStorageScheme new scheme)).partitionKey =
      t.key new := by cases t <;> rfl

theorem Resource.run_insert_postgresOnly (ctx : KvStoreContext) {s : Store}
    (hmode : s.mode ≠ .enabled) (t : Resource) (new : t.kvResource.DieselNew) :
    (t.insert ctx new).run Store.exec s =
      (((t.kvResource.storageInsert (t.kvResource.setStorageScheme new .postgresOnly)).run
          Store.exec s).1.map t.kvResource.intoModel,
        ((t.kvResource.storageInsert (t.kvResource.setStorageScheme new .postgresOnly)).run
          Store.exec s).2) := by
  cases t with
  | locker =>
    have hinner := fun insertLookup => run_insertResourceInner_postgresOnly ctx s
      (M := Locker.kvResource) hmode new
      (Locker.kvResource.getPartitionKey (Resource.newKey .locker new)) insertLookup
    refine (Prog.run_mapResult Store.exec _ _ s).trans ?_
    exact congrArg (fun answer : Except VaultDBError LockerInner × Store =>
      (Except.map LockerInner.toLocker answer.1, answer.2)) (hinner _)
  | fingerprint => exact run_insertResource_postgresOnly ctx s hmode new _
  | hashTable => exact run_insertResource_postgresOnly ctx s hmode new _
  | reverseLookup => exact run_insertResource_postgresOnly ctx s hmode new _
  | vault => exact run_insertResource_postgresOnly ctx s hmode new _

/-! ## A row that only INSERTs are queued for -/

namespace Store

variable {ctx : KvStoreContext} {s : Store} {key : PartitionKey}

theorem rowAt_apply_insert {stmt : Statement} (h : stmt.isInsert = true) {pg : Pg} {row : Row}
    (hrow : pg.rowAt stmt.partitionKey = some row) :
    (pg.apply stmt).rowAt stmt.partitionKey = some row := by
  have hallowed := Pg.rowAt_apply_allowed stmt pg
  unfold Statement.isInsert at h
  cases heffect : stmt.effect with
  | insert mk =>
    rw [heffect, hrow] at hallowed
    exact hallowed
  | update f => simp [heffect] at h
  | delete => simp [heffect] at h

/-- A row in Postgres that only INSERTs are queued for stays as it is. -/
theorem settle_rowAt_of_inserts (hs : s.WellFormed ctx) {row : Row}
    (hrow : s.pg.rowAt key = some row) (hq : ∀ stmt ∈ s.queued ctx key, stmt.isInsert = true)
    (steps : List EnvStep) : (s.settle ctx steps).pg.rowAt key = some row := by
  have h := settle_invariant ctx
    (I := fun s' => s'.WellFormed ctx ∧ s'.pg.rowAt key = some row ∧
      ∀ stmt ∈ s'.queued ctx key, stmt.isInsert = true)
    (fun s' e hs' => ?_) ⟨hs, hrow, hq⟩ steps
  · exact h.2.1
  · obtain ⟨hwf, hrow', hq'⟩ := hs'
    refine ⟨envStep_wellFormed hwf e, ?_, fun stmt hstmt =>
      hq' stmt ((envStep_queued_suffix hwf key e).subset hstmt)⟩
    cases e with
    | drain stream =>
      change (s'.drain stream).pg.rowAt key = some row
      rcases drain_queued_cases hwf key stream with
        ⟨stmt, hqueue, rfl, hpg⟩ | ⟨-, hpg | ⟨stmt, hne, hpg⟩⟩
      · rw [hpg]
        exact rowAt_apply_insert (hq' stmt (by rw [hqueue]; exact List.mem_cons_self)) hrow'
      · rw [hpg, hrow']
      · rw [hpg, Pg.rowAt_apply_of_ne hne, hrow']
    | expire k =>
      change (s'.expire ctx k).pg.rowAt key = some row
      rw [expire_pg, hrow']

/-! ## An insert that Postgres accepts -/

/-- No row with the key is visible to a find. -/
def NotVisible (ctx : KvStoreContext) (s : Store) (t : Resource)
    (pk : t.kvResource.PrimaryKeyType) : Prop :=
  ∀ model, ((findResourceById ctx t.kvResource pk).run exec s).1 ≠ .ok model

theorem run_findResourceById (t : Resource) (pk : t.kvResource.PrimaryKeyType) (s : Store) :
    ((findResourceById ctx t.kvResource pk).run exec s).1 =
      (t.kvResource.answer (s.visible (t.kvResource.getPartitionKey pk))).map
        t.kvResource.intoModel :=
  congrArg Prod.fst (Prog.run_mapResult_of (run_findResourceByIdInner ctx s t.spec pk) _)

theorem notVisible_iff (hs : s.WellFormed ctx) {t : Resource} {pk : t.kvResource.PrimaryKeyType} :
    s.NotVisible ctx t pk ↔ s.visible (t.kvResource.getPartitionKey pk) = none := by
  unfold NotVisible
  simp only [run_findResourceById]
  cases hv : s.visible (t.kvResource.getPartitionKey pk) with
  | none => simp [KvResource.answer, Except.map]
  | some row =>
    obtain ⟨e, -, he⟩ := t.spec.exists_visible ctx s hs (t.spec.getPartitionKey_resource pk) hv
    simp [KvResource.answer, he, Except.map]

/-- What the answer to an insert says, in the modes that write to Postgres. -/
theorem insert_postgresOnly_ok (hmode : s.mode ≠ .enabled) {t : Resource}
    {new : t.kvResource.DieselNew} {model : t.kvResource.Model}
    (hok : ((t.insert ctx new).run exec s).1 = .ok model) :
    ∃ e pg, t.kvResource.intoModel e = model ∧
      ((t.insert ctx new).run exec s).2 = { s with pg } ∧ s.pg.rowAt (t.key new) = none ∧
        pg.rowAt (t.key new) = some (t.kvResource.serialize e) ∧
          pg = s.pg.apply
            (t.spec.insertStatement (t.kvResource.setStorageScheme new .postgresOnly)) := by
  obtain ⟨reply, hrun, hreply, -⟩ := t.spec.run_storageInsert
    (t.kvResource.setStorageScheme new .postgresOnly) s
  have hinsert := t.run_insert_postgresOnly ctx hmode new
  rw [hrun] at hinsert
  rw [hinsert] at hok ⊢
  cases reply with
  | error err => cases hok
  | ok e =>
    cases hok
    obtain ⟨-, hnone, hsome⟩ := hreply e rfl
    rw [t.key_eq] at hnone hsome
    exact ⟨e, _, rfl, rfl, hnone, hsome, rfl⟩

/-- The row that an insert of this mode stores carries the other scheme than a
    queued update. -/
theorem find_ne_of_update {new : VaultNewInner} {pg pg' : Pg} {e : VaultInner}
    {pk : VaultPrimaryKey} {update : VaultUpdate}
    (hc : s.cached (Resource.key .vault new) = none)
    (hnone : pg.rowAt (Resource.key .vault new) = none)
    (he : (pg.apply (.insertVault { new with updatedBy := some .postgresOnly })).rowAt
      (Resource.key .vault new) = some (.vault e))
    (hpk : (Statement.updateVault pk update).partitionKey = Resource.key .vault new)
    (hupdate : update.updatedBy = .redisKv) (hpg : s.pg = pg'.apply (.updateVault pk update)) :
    ((findResourceById ctx Vault.kvResource (Resource.newKey .vault new)).run exec s).1 ≠
      .ok e.toVault := by
  have hscheme : e.updatedBy = some .postgresOnly := by
    have hallowed := Pg.rowAt_apply_allowed
      (.insertVault { new with updatedBy := some .postgresOnly }) pg
    have hbefore : pg.rowAt (Statement.insertVault { new with
      updatedBy := some .postgresOnly }).partitionKey = none := hnone
    rw [hbefore] at hallowed
    rcases hallowed with h | ⟨id, h⟩
    · cases he.symm.trans h
    · cases he.symm.trans h
      rfl
  have hvisible := visible_of_cached_none hc
  have hallowed := Pg.rowAt_apply_allowed (.updateVault pk update) pg'
  rw [hpk, ← hpg] at hallowed
  rw [run_findResourceById .vault]
  change Except.map VaultInner.toVault (Vault.kvResource.answer
    (s.visible (Resource.key .vault new))) ≠ _
  rw [hvisible, show s.pg.rowAt (Resource.key .vault new) = _ from hallowed]
  cases pg'.rowAt (Resource.key .vault new) with
  | none => exact fun h => nomatch h
  | some row =>
    cases row with
    | vault row =>
      intro h
      have hby := congrArg Vault.updatedBy (Except.ok.inj h)
      change some update.updatedBy = e.updatedBy at hby
      rw [hupdate, hscheme] at hby
      cases hby
    | _ => exact fun h => nomatch h

/-! ## When an insert is safe -/

/-- The inserted row is the visible one for good exactly when Redis does not hold
    its key and only INSERTs are queued for it. -/
theorem softKill_insert_settle_iff (hs : s.WellFormed ctx) (hmode : s.mode = .softKill)
    {t : Resource} {new : t.kvResource.DieselNew} {model : t.kvResource.Model}
    (hok : ((t.insert ctx new).run exec s).1 = .ok model)
    (hs' : ((t.insert ctx new).run exec s).2.WellFormed ctx) :
    (s.NotVisible ctx t (t.newKey new) ∧ ∀ steps, ((findResourceById ctx t.kvResource
        (t.newKey new)).run exec (((t.insert ctx new).run exec s).2.settle ctx steps)).1 =
          .ok model) ↔
      s.cached (t.key new) = none ∧ ∀ stmt ∈ s.queued ctx (t.key new), stmt.isInsert = true := by
  obtain ⟨e, pg, rfl, hrun, hnone, hsome, hpg⟩ := insert_postgresOnly_ok (by simp [hmode]) hok
  rw [hrun] at hs' ⊢
  have hnotVisible : s.NotVisible ctx t (t.newKey new) ↔ s.cached (t.key new) = none := by
    rw [notVisible_iff hs]
    change s.visible (t.key new) = none ↔ _
    unfold visible
    rw [hmode]
    cases s.cached (t.key new) <;> simp [hnone]
  rw [hnotVisible]
  refine and_congr_right fun hc => ?_
  have hc' : ∀ steps, (({ s with pg } : Store).settle ctx steps).cached (t.key new) = none :=
    settle_cached_none hs' hc
  constructor
  · intro hfind stmt hstmt
    by_contra hinsert
    obtain ⟨steps, pg', hpg'⟩ := @exists_settle_apply ctx { s with pg } _ _ hstmt
    have hkey : stmt.partitionKey = t.key new := partitionKey_of_queued hstmt
    have hfound := hfind steps
    cases heffect : stmt.effect with
    | insert mk => exact hinsert (by simp [Statement.isInsert, heffect])
    | delete =>
      have hallowed := Pg.rowAt_apply_allowed stmt pg'
      rw [heffect, ← hpg', hkey] at hallowed
      have hvisible : (({ s with pg } : Store).settle ctx steps).visible (t.key new) = none :=
        (visible_of_cached_none (hc' steps)).trans hallowed
      rw [run_findResourceById] at hfound
      rw [show (({ s with pg } : Store).settle ctx steps).visible
        (t.kvResource.getPartitionKey (t.newKey new)) = none from hvisible] at hfound
      cases hfound
    | update f =>
      cases stmt with
      | updateVault pk update =>
        cases t with
        | vault =>
          subst hpg
          exact find_ne_of_update (hc' steps) hnone hsome hkey
            (@updatedBy_of_queued ctx s _ hs _ _ hstmt) hpg' hfound
        | _ => cases hkey
      | _ => cases heffect
  · intro hinserts steps
    have hrow := settle_rowAt_of_inserts hs' hsome hinserts steps
    have hvisible : (({ s with pg } : Store).settle ctx steps).visible (t.key new) =
        some (t.kvResource.serialize e) := (visible_of_cached_none (hc' steps)).trans hrow
    rw [run_findResourceById]
    rw [show (({ s with pg } : Store).settle ctx steps).visible
      (t.kvResource.getPartitionKey (t.newKey new)) = _ from hvisible]
    simp [KvResource.answer, t.spec.deserialize_serialize, Except.map]

theorem obeys_insert (ctx : KvStoreContext) (t : Resource) (new : t.kvResource.DieselNew) :
    Obeys ctx (t.insert ctx new) fun _ => True := by
  cases t with
  | locker =>
    exact obeys_insertResourceWithReverseLookup ctx (M := Locker.kvSecondaryLookupResource)
      Locker.spec new rfl
  | fingerprint => exact obeys_insertResource ctx Fingerprint.spec new rfl
  | hashTable => exact obeys_insertResource ctx HashTable.spec new rfl
  | reverseLookup => exact obeys_insertResource ctx ReverseLookup.spec new rfl
  | vault => exact obeys_insertResource ctx Vault.spec new rfl

/-- After the mode became `SoftKill`: an acknowledged insert has replaced no row
    and is what every later find answers, exactly when Redis does not hold its key
    and no update or delete of the key is queued. -/
theorem softKill_insert_safe_iff (hs : SoftKilled ctx s) {t : Resource}
    {new : t.kvResource.DieselNew} {model : t.kvResource.Model}
    (hok : ((t.insert ctx new).run exec s).1 = .ok model) :
    (s.NotVisible ctx t (t.newKey new) ∧
        ∀ acts : List Action, (∀ a ∈ acts, a.isQuiet = true) →
          ((findResourceById ctx t.kvResource (t.newKey new)).run exec
            (runActs (step ctx) acts ((t.insert ctx new).run exec s).2)).1 = .ok model) ↔
      s.cached (t.key new) = none ∧ ∀ stmt ∈ s.queued ctx (t.key new), stmt.isInsert = true := by
  have hs' := (Obeys.run (obeys_insert ctx t new) hs.wellFormed).2
  rw [forall_quiet_iff hs' (P := fun s' => ((findResourceById ctx t.kvResource
    (t.newKey new)).run exec s').1 = .ok model)]
  exact softKill_insert_settle_iff hs.wellFormed hs.mode_eq hok hs'

/-- A record of a vault row. -/
def cardRecord : VaultNewInner := (recordOf 1).toVaultNewInner

/-- The row that an insert of the record answers in this mode. -/
def cardVault : Vault :=
  { vaultId := "card", entityId := "merchant", data := .encrypted [1], createdAt := ⟨0⟩
    expiresAt := none, updatedBy := some .postgresOnly }

/-- The mode became `SoftKill` after a run from the empty store. -/
def softKilled (acts : List Action) : Store :=
  { runActs (step .default) acts emptyStore with runtimeConfig := some ⟨.softKill, false⟩ }

/-- The record of a vault row whose Redis key is also that of (`merchant_a`, `card`). -/
def sharedRecord : VaultNew := { recordOf 1 with vaultId := "a_card" }

/-- The row was inserted, and the other one of its Redis key deleted: the INSERT is queued,
    and Redis does not hold the row. -/
def queuedActs : List Action :=
  [.request (.insertVault sharedRecord), .request (.deleteFromVault "card" "merchant_a")]

theorem softKill_insert_safe_queued :
    (softKilled queuedActs).queued .default (Resource.key .vault sharedRecord.toVaultNewInner) ≠
        [] ∧
      (softKilled queuedActs).NotVisible .default .vault
        (Resource.newKey .vault sharedRecord.toVaultNewInner) ∧
      ∀ acts : List Action, (∀ a ∈ acts, a.isQuiet = true) →
        ((findResourceById .default Vault.kvResource
            (Resource.newKey .vault sharedRecord.toVaultNewInner)).run exec
          (runActs (step .default) acts ((Resource.insert .default .vault
            sharedRecord.toVaultNewInner).run exec (softKilled queuedActs)).2)).1 =
              .ok { cardVault with vaultId := "a_card" } := by
  refine ⟨by decide +kernel, (softKill_insert_safe_iff
    ⟨runActs (step .default) queuedActs emptyStore, false, [],
      reachable_of_acts queuedActs (by simp [queuedActs]), by simp, rfl⟩ ?_).2 ?_⟩
  · decide +kernel
  · decide +kernel

/-- A vault row that was inserted and deleted again, with nothing drained. -/
def deletedActs : List Action :=
  [.request (.insertVault (recordOf 1)), .request (.deleteFromVault "card" "merchant")]

/-- Not every acknowledged insert is safe: a delete of the key from the time
    before `SoftKill` is replayed after the insert. -/
theorem softKill_insert_not_safe :
    ¬ ∀ (ctx : KvStoreContext) (s : Store) (t : Resource) (new : t.kvResource.DieselNew)
      (model : t.kvResource.Model), SoftKilled ctx s →
        ((t.insert ctx new).run exec s).1 = .ok model →
          s.NotVisible ctx t (t.newKey new) ∧
            ∀ acts : List Action, (∀ a ∈ acts, a.isQuiet = true) →
              ((findResourceById ctx t.kvResource (t.newKey new)).run exec
                (runActs (step ctx) acts ((t.insert ctx new).run exec s).2)).1 = .ok model := by
  intro h
  have hfind := (h .default (softKilled deletedActs) .vault cardRecord cardVault
    ⟨runActs (step .default) deletedActs emptyStore, false, [],
      reachable_of_acts deletedActs (by simp [deletedActs]), by simp, rfl⟩ (by decide +kernel)).2
    [drainRecord, drainRecord] (by decide)
  have hfind' : ((findResourceById .default Vault.kvResource
      (Resource.newKey .vault cardRecord)).run exec
        (runActs (step .default) [drainRecord, drainRecord]
          ((Resource.insert .default .vault cardRecord).run exec (softKilled deletedActs)).2)).1 =
      (.error .notFoundError : Except VaultDBError Vault) := by
    decide +kernel
  cases hfind'.symm.trans hfind

end Store

end CardVault
