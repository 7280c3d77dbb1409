import CardVault.Failed.Helpers
import CardVault.Deletion

/-!
# Retried deletes of a locker

A delete of a locker names the lookup record by the row that it found before it
deleted that row (`delete_resource_by_id_with_reverse_lookup` in
`src/src/storage/kv/resource.rs`, lines 655–682). An attempt that deletes the row and
then fails leaves the next one without the name.

Main results:
* `halts_deleteLocker`: an attempt that returns `Ok` has run without failures.
* `drained_iff`: what is left of a row when its stream is drained.
* `retried_delete_iff`: when the attempt that returns `Ok` gets rid of the lookup
  record.
-/

namespace CardVault

open Interaction Stream

/-! ## Attempts -/

section Attempts

variable (ctx : KvStoreContext)

/-- One attempt to delete a locker. -/
abbrev deleteAttempt (pk : LockerPrimaryKeyType) : App (Except VaultDBError ℕ) :=
  deleteResourceByIdWithReverseLookup ctx Locker.kvDeletableWithLookup pk

/-- Attempts that return an error, with whatever the environment does in between. -/
inductive Attempts (pk : LockerPrimaryKeyType) (s : Store) : Store → Prop
  | none : Attempts pk s s
  | failed {q q' : Store} {done : List Cmd} {e : VaultDBError} : Attempts pk s q →
    Outcomes StorageFailure (deleteAttempt ctx pk) q done (.error e) q' → Attempts pk s q'
  | env {q : Store} (step : EnvStep) : Attempts pk s q → Attempts pk s (q.envStep ctx step)
  | setRuntimeConfig {q : Store} (config : Option RuntimeConfigValues) : Attempts pk s q →
    Attempts pk s { q with runtimeConfig := config }

variable {ctx} {s q q' : Store} {pk : LockerPrimaryKeyType}

theorem Attempts.wellFormed (hs : s.WellFormed ctx) (h : Attempts ctx pk s q) :
    q.WellFormed ctx := by
  induction h with
  | none => exact hs
  | failed _ ho ih =>
    exact (Obeys.outcome (obeys_deleteResourceByIdWithReverseLookup ctx
      (M := Locker.kvDeletableWithLookup) Locker.deletableSpec pk) ih ho).2
  | env step _ ih => exact Store.envStep_wellFormed ih step
  | setRuntimeConfig config _ ih => exact ih.setRuntimeConfig config

/-- An attempt ends with its first failure. -/
theorem halts_deleteLocker (hs : s.WellFormed ctx) (pk : LockerPrimaryKeyType) :
    ∃ writes, Halts (fun _ => True) (deleteAttempt ctx pk) s writes := by
  have hfind : Halts (fun _ => True) (findOptionalResourceById ctx Locker.kvResource pk) s [] := by
    refine Prog.Halts.mapResult ((halts_find ctx .locker pk s).map _) ?_
    rintro _ ⟨e, rfl, he⟩
    exact ⟨e, by simp [optionalResult, he]⟩
  have hfound := run_findOptionalResourceById ctx s Locker.spec pk
  have hdelete := halts_deleteResourceByIdInner ctx Locker.deletableSpec hs pk
    (halts_executeOnPrimary (.deleteLocker pk) s)
  obtain ⟨count, hdeleted⟩ := run_deleteResourceByIdInner ctx s Locker.deletableSpec hs pk
  have hs' := (Obeys.run (obeys_deleteResourceByIdInner ctx Locker.deletableSpec pk) hs).2
  rw [hdeleted] at hs'
  cases hv : s.visible pk.getPartitionKey with
  | none =>
    rw [show s.visible (Locker.kvResource.getPartitionKey pk) = none from hv] at hfound
    exact ⟨_, Prog.Halts.andThen hfind hfound
      (Prog.Halts.andThen hdelete hdeleted (Prog.halts_pure _ _))⟩
  | some row =>
    obtain ⟨e, rfl, -⟩ := Locker.spec.exists_visible ctx s hs rfl hv
    rw [show s.visible (Locker.kvResource.getPartitionKey pk) = some (.locker e) from hv] at hfound
    have hlookup := halts_deleteResourceByIdInner ctx ReverseLookup.deletableSpec hs'
      e.hashKey.getLookupKey.lookupId (halts_executeOnPrimary (.deleteReverseLookup _) _)
    obtain ⟨count', hgone⟩ := run_deleteResourceByIdInner ctx _ ReverseLookup.deletableSpec hs'
      e.hashKey.getLookupKey.lookupId
    have hlookup' : Halts (fun _ : VaultDBError => True)
        ((deleteReverseLookup ctx e.hashKey.getLookupKey.lookupId).mapResult mapLookupError) _ _ :=
      Prog.Halts.mapResult hlookup fun r hr => by
        obtain ⟨_, rfl, -⟩ := hr
        exact ⟨_, rfl, trivial⟩
    exact ⟨_, Prog.Halts.andThen hfind hfound (Prog.Halts.andThen hdelete hdeleted
      (Prog.Halts.andThen hlookup' (Prog.run_mapResult_of hgone _) (Prog.halts_pure _ _)))⟩

/-- An attempt that returns `Ok` has run without failures. -/
theorem deleted_of_ok (hq : q.WellFormed ctx) {done : List Cmd} {count : ℕ}
    (ho : Outcomes StorageFailure (deleteAttempt ctx pk) q done (.ok count) q') :
    q' = q.deleteLocker ctx pk := by
  obtain ⟨writes, hhalts⟩ := halts_deleteLocker hq pk
  obtain ⟨count', hrun⟩ := run_deleteLocker ctx q hq pk
  rcases hhalts.outcome ho with ⟨hok, -⟩ | ⟨⟨e, he, -⟩, -⟩
  · exact congrArg Prod.snd (hok.symm.trans hrun)
  · cases he

end Attempts

/-! ## What is left when a stream is drained -/

section Drained

variable {ctx : KvStoreContext} {s : Store} {key : PartitionKey} {query : SerializableQuery}

namespace Store

variable (ctx) in
/-- Once the stream of the key is drained, neither Redis nor Postgres has a row. -/
def NothingLeft (s : Store) (key : PartitionKey) : Prop :=
  ∀ steps, (s.settle ctx steps).streams (ctx.stream key) = [] →
    (s.settle ctx steps).cached key = none ∧ (s.settle ctx steps).pg.rowAt key = none

variable (ctx) in
/-- The row that the statements queued for the key make where there is none. -/
def remade (s : Store) (key : PartitionKey) : Option Row :=
  (s.queued ctx key).foldl (fun row stmt => stmt.act row) none

theorem nothingLeft_iff (hs : s.WellFormed ctx) (hkey : key.soleKey = true) :
    s.NothingLeft ctx key ↔ s.cached key = none ∧ s.settled ctx key = none := by
  have hview : ∀ pg : Pg, pg.rowAt key = none ↔ pg.view key = none := fun pg => by simp [Pg.view]
  constructor
  · intro h
    obtain ⟨hstream, -⟩ := @settle_drain_replicate ctx (s.streams (ctx.stream key)).length s
      (ctx.stream key)
    have hredis := (settle_map_drain ctx (List.replicate (s.streams (ctx.stream key)).length
      (ctx.stream key)) s).2
    rw [List.map_replicate] at hredis
    rw [List.drop_length] at hstream
    obtain ⟨hcached, hrow⟩ := h _ hstream
    refine ⟨?_, ?_⟩
    · rwa [cached, hredis] at hcached
    · rw [← settled_settle hs hkey, ← view_eq_settled, ← hview]
      · exact hrow
      · rw [queued, hstream]
        rfl
  · rintro ⟨hcached, hsettled⟩ steps hstream
    refine ⟨settle_cached_none hs hcached steps, ?_⟩
    rw [hview, view_eq_settled, settled_settle hs hkey, hsettled]
    rw [queued, hstream]
    rfl

/-- A delete of the key leaves nothing, but what is made again of what was queued
    before it, when it goes to Postgres. -/
theorem nothingLeft_remove (hs : (s.remove ctx key query).WellFormed ctx)
    (hkey : key.soleKey = true) (hquery : query.statement.partitionKey = key)
    (heffect : query.statement.effect = .delete) :
    (s.remove ctx key query).NothingLeft ctx key ↔
      s.ThroughRedis key ∨ s.cached key = none ∧ s.remade ctx key = none := by
  have hact : ∀ row, query.statement.act row = none := fun row => by
    simp [Statement.act, heffect]
  rw [nothingLeft_iff hs hkey]
  by_cases h : s.ThroughRedis key
  · have hgone : (s.erase ctx key query).settled ctx key = none := by
      rw [settled, queued_erase query hquery, List.foldl_append]
      exact hact _
    simp [remove, h, hgone]
  · have hgone : (s.remove ctx key query).settled ctx key = s.remade ctx key := by
      rw [remove, if_neg h]
      change (s.queued ctx key).foldl _ ((s.pg.apply query.statement).view key) = _
      rw [Pg.view_apply hkey, if_pos hquery, hact]
      rfl
    have hcached : (s.remove ctx key query).cached key = s.cached key := by
      rw [remove, if_neg h]
      rfl
    rw [hgone, hcached, or_iff_right h]

end Store

end Drained

/-! ## Lookup records -/

section Lookup

variable (ctx : KvStoreContext) {q : Store}

/-- When an attempt to delete `pk` that returns `Ok` gets rid of the lookup record of
    `key`. The row found names it, and its delete goes through Redis, or no statement
    queued before makes it again; or the row found does not name it, and there is none,
    not even among what is queued. -/
structure LookupGoes (q : Store) (pk : LockerPrimaryKeyType) (key : LockerHashLookupKey) :
    Prop where
  named : (∃ row, q.visible pk.getPartitionKey = some (.locker row) ∧
      row.hashKey.getLookupKey = key.getLookupKey) →
    q.ThroughRedis (.reverseLookup key.getLookupKey.lookupId) ∨
      q.cached (.reverseLookup key.getLookupKey.lookupId) = none ∧
        q.remade ctx (.reverseLookup key.getLookupKey.lookupId) = none
  unnamed : (¬ ∃ row, q.visible pk.getPartitionKey = some (.locker row) ∧
      row.hashKey.getLookupKey = key.getLookupKey) →
    q.cached (.reverseLookup key.getLookupKey.lookupId) = none ∧
      q.settled ctx (.reverseLookup key.getLookupKey.lookupId) = none

variable {ctx}

theorem deleteLocker_wellFormed (hq : q.WellFormed ctx) (pk : LockerPrimaryKeyType) :
    (q.deleteLocker ctx pk).WellFormed ctx := by
  obtain ⟨count, hrun⟩ := run_deleteLocker ctx q hq pk
  have h := (Obeys.run (obeys_deleteResourceByIdWithReverseLookup ctx
    (M := Locker.kvDeletableWithLookup) Locker.deletableSpec pk) hq).2
  rwa [hrun] at h

/-- Where the store after a delete has what the store before has of a lookup record. -/
theorem nothingLeft_of_same {q' : Store} {lookup : PartitionKey} (hq' : q'.WellFormed ctx)
    (hkey : lookup.soleKey = true)
    (h : q'.pg.rowAt lookup = q.pg.rowAt lookup ∧ q'.queued ctx lookup = q.queued ctx lookup ∧
      q'.cached lookup = q.cached lookup) :
    q'.NothingLeft ctx lookup ↔ q.cached lookup = none ∧ q.settled ctx lookup = none := by
  rw [Store.nothingLeft_iff hq' hkey, h.2.2, Store.settled, Pg.view, h.1, h.2.1]
  rfl

theorem nothingLeft_deleteLocker (hq : q.WellFormed ctx) (pk : LockerPrimaryKeyType)
    (key : LockerHashLookupKey) :
    (q.deleteLocker ctx pk).NothingLeft ctx (.reverseLookup key.getLookupKey.lookupId) ↔
      LookupGoes ctx q pk key := by
  have hwell := deleteLocker_wellFormed hq pk
  have hsame := Store.removeLocker_lookup ctx q pk key.getLookupKey.lookupId
  by_cases hnamed : ∃ row, q.visible pk.getPartitionKey = some (.locker row) ∧
      row.hashKey.getLookupKey = key.getLookupKey
  · -- the row found names the record
    obtain ⟨row, hv, hname⟩ := id hnamed
    have hdelete : q.deleteLocker ctx pk =
        (q.removeLocker ctx pk).removeLookup ctx key.getLookupKey.lookupId := by
      rw [Store.deleteLocker, hv, ← hname]
    rw [hdelete] at hwell ⊢
    refine (Store.nothingLeft_remove hwell rfl rfl rfl).trans ?_
    rw [Store.removeLocker_throughRedis, hsame.2.2, Store.remade, hsame.2.1]
    exact ⟨fun h => ⟨fun _ => h, fun hno => absurd hnamed hno⟩, fun h => h.named hnamed⟩
  · have hkept : (q.deleteLocker ctx pk).pg.rowAt (.reverseLookup key.getLookupKey.lookupId) =
          q.pg.rowAt (.reverseLookup key.getLookupKey.lookupId) ∧
        (q.deleteLocker ctx pk).queued ctx (.reverseLookup key.getLookupKey.lookupId) =
          q.queued ctx (.reverseLookup key.getLookupKey.lookupId) ∧
        (q.deleteLocker ctx pk).cached (.reverseLookup key.getLookupKey.lookupId) =
          q.cached (.reverseLookup key.getLookupKey.lookupId) := by
      unfold Store.deleteLocker
      split
      · -- it names another one
        rename_i row hv
        have hne : (PartitionKey.reverseLookup key.getLookupKey.lookupId).display ≠
            (PartitionKey.reverseLookup row.hashKey.getLookupKey.lookupId).display := by
          intro h
          refine hnamed ⟨row, hv, ?_⟩
          exact congrArg ReverseLookupKey.mk (PartitionKey.display_reverseLookup_inj.1 h).symm
        obtain ⟨hpg, hqueued, hcached⟩ := @Store.remove_of_ne ctx (q.removeLocker ctx pk) _
          ⟨.deleteReverseLookup row.hashKey.getLookupKey.lookupId,
            Resource.reverseLookup.entityType, .delete⟩ _ hne rfl
        exact ⟨hpg.trans hsame.1, hqueued.trans hsame.2.1, hcached.trans hsame.2.2⟩
      · exact hsame
    rw [nothingLeft_of_same hwell rfl hkept]
    exact ⟨fun h => ⟨fun h' => absurd h' hnamed, fun _ => h⟩, fun h => h.unnamed hnamed⟩

/-- Attempts to delete a locker, any call of which may fail, up to one that returns
    `Ok`. Once the stream of a lookup record is drained, neither Redis nor Postgres has
    the record, exactly when `LookupGoes` holds before that last attempt. -/
theorem retried_delete_iff {s q q' : Store} (hs : s.ReachedFailing ctx)
    (pk : LockerPrimaryKeyType) (key : LockerHashLookupKey) (h : Attempts ctx pk s q)
    {done : List Cmd} {count : ℕ}
    (ho : Outcomes StorageFailure (deleteAttempt ctx pk) q done (.ok count) q') :
    q'.NothingLeft ctx (.reverseLookup key.getLookupKey.lookupId) ↔ LookupGoes ctx q pk key := by
  have hq := h.wellFormed hs.wellFormed
  rw [deleted_of_ok hq ho]
  exact nothingLeft_deleteLocker hq pk key

end Lookup

/-! ## A delete that fails half-way, and its retry -/

/-- A store with one locker, in Redis and in the streams. -/
def oneLocker : Store :=
  runActs (Store.step .default) [.request (.insertLocker (Store.lockerOf "card" "hash"))]
    Store.emptyStore

theorem oneLocker_reached : oneLocker.ReachedFailing .default :=
  (Store.emptyStore_reachedFailing _).runActs _

/-- A delete of that locker. -/
def deleteOneLocker : App (Except VaultDBError ℕ) :=
  deleteAttempt .default (Store.lockerOf "card" "hash").primaryKey

/-- An `HDEL` fails. -/
def hdelFails : (c : Cmd) → Option (Reply c)
  | .deleteHashFields .. => some (Except.error RedisError.deleteFailed)
  | _ => none

theorem storageFailure_hdelFails (c : Cmd) (r : Reply c) (h : hdelFails c = some r) :
    StorageFailure c r := by
  cases c <;> cases h
  exact ⟨_, rfl⟩

/-- What the delete comes to when the `HDEL` of the row fails. -/
def rowNotDeleted : Except VaultDBError ℕ × Store :=
  deleteOneLocker.failAt Store.exec hdelFails 5 oneLocker

/-- The attempt fails before it has changed anything, and the next one deletes both. -/
theorem retried_delete_second :
    rowNotDeleted.1 = .error .unknownError ∧
      (deleteOneLocker.run Store.exec rowNotDeleted.2).1 = .ok 1 ∧
      (deleteOneLocker.run Store.exec rowNotDeleted.2).2.NothingLeft .default (.reverseLookup
        (Store.lockerOf "card" "hash").hashKey.getLookupKey.lookupId) := by
  obtain ⟨done, hfailed⟩ :=
    Prog.outcome_failAt storageFailure_hdelFails 5 deleteOneLocker oneLocker
  have herror : (deleteOneLocker.failAt Store.exec hdelFails 5 oneLocker).1 =
      .error .unknownError := by
    decide +kernel
  rw [herror] at hfailed
  obtain ⟨done', ho⟩ := Prog.outcome_run StorageFailure deleteOneLocker rowNotDeleted.2
  have hok : (deleteOneLocker.run Store.exec rowNotDeleted.2).1 = .ok 1 := by decide +kernel
  rw [hok] at ho
  have hvisible : rowNotDeleted.2.visible
      (Store.lockerOf "card" "hash").primaryKey.getPartitionKey =
        some (.locker (Store.lockerOf "card" "hash").redisRow) := by
    decide +kernel
  refine ⟨herror, hok, (retried_delete_iff oneLocker_reached
    (Store.lockerOf "card" "hash").primaryKey (Store.lockerOf "card" "hash").hashKey
    (.failed .none hfailed) ho).2 ⟨fun _ => Or.inl (by decide +kernel), fun h => ?_⟩⟩
  exact absurd ⟨_, hvisible, rfl⟩ h

/-- What the delete comes to when the `HDEL` of the lookup record fails. -/
def lookupNotDeleted : Except VaultDBError ℕ × Store :=
  deleteOneLocker.failAt Store.exec hdelFails 10 oneLocker

/-- The retry. -/
def deletedAgain : Except VaultDBError ℕ × Store :=
  deleteOneLocker.run Store.exec lookupNotDeleted.2

/-- Not every delete that is retried until it returns `Ok` gets rid of the lookup
    record. -/
theorem retried_delete_leaves :
    ¬ ∀ (ctx : KvStoreContext) (s q q' : Store) (pk : LockerPrimaryKeyType)
      (key : LockerHashLookupKey) (done : List Cmd) (count : ℕ), s.ReachedFailing ctx →
        key.merchantId = pk.merchantId → key.customerId = pk.customerId →
          Attempts ctx pk s q →
            Outcomes StorageFailure (deleteAttempt ctx pk) q done (.ok count) q' →
              q'.NothingLeft ctx (.reverseLookup key.getLookupKey.lookupId) := by
  intro h
  obtain ⟨done, hfailed⟩ :=
    Prog.outcome_failAt storageFailure_hdelFails 10 deleteOneLocker oneLocker
  have herror : (deleteOneLocker.failAt Store.exec hdelFails 10 oneLocker).1 =
      .error .unknownError := by
    decide +kernel
  rw [herror] at hfailed
  have hattempt : Attempts .default (Store.lockerOf "card" "hash").primaryKey oneLocker
      lookupNotDeleted.2 := .failed .none hfailed
  obtain ⟨done', ho⟩ := Prog.outcome_run StorageFailure deleteOneLocker lookupNotDeleted.2
  have hok : (deleteOneLocker.run Store.exec lookupNotDeleted.2).1 = .ok 0 := by decide +kernel
  rw [hok] at ho
  have hnothing := h .default oneLocker lookupNotDeleted.2 deletedAgain.2
    (Store.lockerOf "card" "hash").primaryKey (Store.lockerOf "card" "hash").hashKey done' 0
    oneLocker_reached rfl rfl hattempt ho
  have hleft := (hnothing [.drain (KvStoreContext.default.stream (.reverseLookup
    (Store.lockerOf "card" "hash").hashKey.getLookupKey.lookupId))] (by decide +kernel)).1
  exact absurd hleft (by decide +kernel)

end CardVault
