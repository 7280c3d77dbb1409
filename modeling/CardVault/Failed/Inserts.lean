import CardVault.Failed.Helpers

/-!
# Failed inserts of a locker

An insert of a locker is four writes: the lookup record and its entry, then the row
and its entry (`insert_resource_inner` in `src/src/storage/kv/resource.rs`, lines
304–365). An insert that returns an error leaves the first of them behind, and the
lookup record alone makes a retry fail.

Main results:
* `halts_insertLocker`: the four writes.
* `failed_insert`: what an insert that fails leaves behind, and when a retry succeeds.
-/

namespace CardVault

open Interaction

section Insert

variable (ctx : KvStoreContext) (new : LockerNew)

/-- The writes of an insert, when nothing fails. -/
def insertLockerWrites (s : Store) : List Cmd :=
  match s.cached new.lookupKey with
  | some _ => [hsetnxLookup ctx new]
  | none => [hsetnxLookup ctx new, queueEntry ctx new.lookupKey new.lookupQuery] ++
    match s.cached new.primaryKey.getPartitionKey with
    | some _ => [hsetnxLocker ctx new]
    | none => [hsetnxLocker ctx new,
      queueEntry ctx new.primaryKey.getPartitionKey new.lockerQuery]

variable {s : Store}

theorem halts_insertLocker (hmode : s.mode = .enabled) :
    Halts (fun _ => True) (insertResourceWithReverseLookup ctx Locker.kvSecondaryLookupResource new
      new.primaryKey.getPartitionKey) s (insertLockerWrites ctx new s) := by
  have hlookup : Halts (fun _ => True) (insertLookup ctx Locker.kvResource
      new.primaryKey.getPartitionKey.display new.hashKey.getLookupKey .redisKv) s
        (setNxWrites ctx new.lookupKey (.reverseLookup new.lookup.toReverseLookup)
          new.lookupQuery s) := by
    have hinner := halts_insertResourceInner_enabled ctx ReverseLookup.spec hmode new.lookup
      new.lookupKey (fun _ _ => .pure (.ok ())) (Prog.halts_pure _ s)
    refine Prog.Halts.mapResult (hinner.map _) ?_
    rintro _ ⟨e, rfl, -⟩
    exact ⟨_, rfl, trivial⟩
  have hrun : (insertLookup ctx Locker.kvResource new.primaryKey.getPartitionKey.display
      (LockerNew.hashKey { new with updatedBy := some .redisKv }).getLookupKey .redisKv).run
        Store.exec s = _ := run_insertLookup_enabled ctx s hmode new
  have hinner := halts_insertResourceInner_enabled ctx Locker.spec hmode new
    new.primaryKey.getPartitionKey (fun newObject scheme =>
      insertLookup ctx Locker.kvResource new.primaryKey.getPartitionKey.display
        newObject.hashKey.getLookupKey scheme) hlookup
  rw [hrun] at hinner
  have hwrites := hinner.map Locker.kvResource.intoModel
  unfold insertLockerWrites
  unfold setNxWrites at hwrites
  change Halts _ _ s _
  cases hl : s.cached new.lookupKey with
  | some row =>
    rw [show s.cached (.reverseLookup new.hashKey.getLookupKey.lookupId) = some row from hl,
      hl] at hwrites
    exact hwrites
  | none =>
    rw [show s.cached (.reverseLookup new.hashKey.getLookupKey.lookupId) = none from hl, hl]
      at hwrites
    dsimp only at hwrites
    rw [writeLookup_cached] at hwrites
    cases hc : s.cached new.primaryKey.getPartitionKey with
    | some row =>
      rw [hc] at hwrites
      exact hwrites
    | none =>
      rw [hc] at hwrites
      exact hwrites

/-- What an insert leaves of `s` when it fails; `done` are its calls that took effect.
    Nothing is rolled back. -/
def Store.afterPartialInsert (s : Store) (done : List Cmd) : Store :=
  if (s.cached new.lookupKey).isSome ∨ hsetnxLookup ctx new ∉ done then s
  else if queueEntry ctx new.lookupKey new.lookupQuery ∉ done then
    { s with redis := (s.writeLookup ctx new).redis }
  else if (s.cached new.primaryKey.getPartitionKey).isSome ∨ hsetnxLocker ctx new ∉ done then
    s.writeLookup ctx new
  else if queueEntry ctx new.primaryKey.getPartitionKey new.lockerQuery ∉ done then
    { s.writeLookup ctx new with redis := ((s.writeLookup ctx new).writeLocker ctx new).redis }
  else (s.writeLookup ctx new).writeLocker ctx new

theorem exec_hsetnxLookup (h : s.cached new.lookupKey = none) :
    (s.exec (hsetnxLookup ctx new)).2 = { s with redis := (s.writeLookup ctx new).redis } := by
  rw [hsetnxLookup, Store.exec_setHashFieldIfNotExist_none h]
  rfl

theorem exec_hsetnxLocker (h : s.cached new.primaryKey.getPartitionKey = none) :
    ((s.writeLookup ctx new).exec (hsetnxLocker ctx new)).2 =
      { s.writeLookup ctx new with
        redis := ((s.writeLookup ctx new).writeLocker ctx new).redis } := by
  rw [← writeLookup_cached ctx s new] at h
  rw [hsetnxLocker, Store.exec_setHashFieldIfNotExist_none h]
  rfl

theorem hsetnxLookup_ne_hsetnxLocker : hsetnxLookup ctx new ≠ hsetnxLocker ctx new := by
  intro h
  have hkey : new.lookupKey.display = new.primaryKey.getPartitionKey.display :=
    (Cmd.setHashFieldIfNotExist.inj h).1
  exact display_locker_ne_reverseLookup _ _ hkey.symm

theorem queueLookup_ne_queueLocker :
    queueEntry ctx new.lookupKey new.lookupQuery ≠
      queueEntry ctx new.primaryKey.getPartitionKey new.lockerQuery := by
  intro h
  have hentry := (Cmd.streamAppendEntry.inj h).2
  cases congrArg (fun entry => entry.query.statement) hentry

/-- The first `k` writes of an insert. -/
theorem effects_take (k : ℕ) :
    Prog.effects Store.exec s ((insertLockerWrites ctx new s).take k) =
      s.afterPartialInsert ctx new ((insertLockerWrites ctx new s).take k) := by
  have hlookup := hsetnxLookup_ne_hsetnxLocker ctx new
  have hqueue := queueLookup_ne_queueLocker ctx new
  have hsetnx : ∀ key query, queueEntry ctx key query ≠ hsetnxLookup ctx new ∧
      queueEntry ctx key query ≠ hsetnxLocker ctx new ∧
        hsetnxLocker ctx new ≠ queueEntry ctx key query :=
    fun _ _ => ⟨Cmd.noConfusion, Cmd.noConfusion, Cmd.noConfusion⟩
  unfold insertLockerWrites Store.afterPartialInsert
  cases hl : s.cached new.lookupKey with
  | some row =>
    have hexec : (s.exec (hsetnxLookup ctx new)).2 = s := by
      rw [hsetnxLookup, Store.exec_setHashFieldIfNotExist_some hl]
    rcases k with _ | k <;> simp [hexec]
  | none =>
    have h₁ := exec_hsetnxLookup ctx new hl
    have h₂ : (Store.exec { s with redis := (s.writeLookup ctx new).redis }
      (queueEntry ctx new.lookupKey new.lookupQuery)).2 = s.writeLookup ctx new := rfl
    cases hc : s.cached new.primaryKey.getPartitionKey with
    | some row =>
      have hc' := (writeLookup_cached ctx s new new.primaryKey).trans hc
      have h₃ : ((s.writeLookup ctx new).exec (hsetnxLocker ctx new)).2 =
          s.writeLookup ctx new := by
        rw [hsetnxLocker, Store.exec_setHashFieldIfNotExist_some hc']
      rcases k with _ | _ | _ | k <;> simp [h₁, h₂, h₃, hsetnx]
    | none =>
      have h₃ := exec_hsetnxLocker ctx new hc
      have h₄ : (Store.exec { s.writeLookup ctx new with
          redis := ((s.writeLookup ctx new).writeLocker ctx new).redis }
        (queueEntry ctx new.primaryKey.getPartitionKey new.lockerQuery)).2 =
          (s.writeLookup ctx new).writeLocker ctx new := rfl
      rcases k with _ | _ | _ | _ | k <;>
        simp [h₁, h₂, h₃, h₄, hsetnx, hlookup, hqueue, hlookup.symm, hqueue.symm]

/-- Only the writes among the calls matter. -/
theorem afterPartialInsert_filter (done : List Cmd) :
    s.afterPartialInsert ctx new (done.filter Cmd.isWrite) = s.afterPartialInsert ctx new done := by
  have hmem : ∀ c : Cmd, c.isWrite = true → (c ∈ done.filter Cmd.isWrite ↔ c ∈ done) := by
    intro c hc
    rw [List.mem_filter, and_iff_left hc]
  unfold Store.afterPartialInsert
  simp only [hmem (hsetnxLookup ctx new) rfl, hmem (hsetnxLocker ctx new) rfl,
    hmem (queueEntry ctx _ _) rfl]

/-- An insert of a locker that returns an error, with every call of the storage failing
    as it may: what is left behind, and when a later insert of the same locker returns
    `Ok`. The lookup record that is left behind makes a retry fail. -/
theorem failed_insert (hmode : s.mode = .enabled) (done : List Cmd)
    (e : VaultDBError) (s' : Store)
    (ho : Outcomes StorageFailure (insertResourceWithReverseLookup ctx
      Locker.kvSecondaryLookupResource new new.primaryKey.getPartitionKey) s done (.error e) s') :
    s' = s.afterPartialInsert ctx new done ∧
      ∀ t : Store, t.mode = .enabled →
        ((∃ row, ((insertResourceWithReverseLookup ctx Locker.kvSecondaryLookupResource new
          new.primaryKey.getPartitionKey).run Store.exec t).1 = .ok row) ↔
            t.cached new.lookupKey = none ∧
              t.cached new.primaryKey.getPartitionKey = none) := by
  constructor
  · obtain ⟨hpre, hs'⟩ := (halts_insertLocker ctx new hmode).made ho
    rw [hs', ← afterPartialInsert_filter, List.prefix_iff_eq_take.1 hpre]
    exact effects_take ctx new _
  · intro t ht
    rw [run_insertLocker_enabled ctx t ht new]
    change _ ↔ t.cached (.reverseLookup new.hashKey.getLookupKey.lookupId) = none ∧ _
    cases t.cached (.reverseLookup new.hashKey.getLookupKey.lookupId) with
    | some row => simp
    | none => cases t.cached new.primaryKey.getPartitionKey <;> simp

end Insert

/-! ## An insert whose first append fails -/

/-- An insert into an empty store. -/
def insertCard : App (Except VaultDBError Locker) :=
  insertResourceWithReverseLookup .default Locker.kvSecondaryLookupResource
    (Store.lockerOf "card" "hash") (Store.lockerOf "card" "hash").primaryKey.getPartitionKey

/-- What it comes to when the append of the lookup record fails. -/
def lookupNotQueued : Except VaultDBError Locker × Store :=
  insertCard.failAt Store.exec appendFails 5 Store.emptyStore

theorem outcome_lookupNotQueued :
    ∃ done e, Outcomes StorageFailure insertCard Store.emptyStore done (.error e)
      lookupNotQueued.2 := by
  obtain ⟨done, ho⟩ :=
    Prog.outcome_failAt redisFailure_appendFails 5 insertCard Store.emptyStore
  have herror : (insertCard.failAt Store.exec appendFails 5 Store.emptyStore).1 =
      .error .unknownError := by
    decide +kernel
  rw [herror] at ho
  exact ⟨done, _, Outcomes.storage ho⟩

theorem failed_insert_notQueued :
    ∃ done, lookupNotQueued.2 =
        Store.emptyStore.afterPartialInsert .default (Store.lockerOf "card" "hash") done ∧
      ((∃ row, (insertCard.run Store.exec lookupNotQueued.2).1 = .ok row) ↔
        lookupNotQueued.2.cached (Store.lockerOf "card" "hash").lookupKey = none ∧
          lookupNotQueued.2.cached (Store.lockerOf "card" "hash").primaryKey.getPartitionKey =
            none) := by
  obtain ⟨done, e, ho⟩ := outcome_lookupNotQueued
  obtain ⟨hleft, hretry⟩ := failed_insert .default (Store.lockerOf "card" "hash") rfl done e
    lookupNotQueued.2 ho
  exact ⟨done, hleft, hretry lookupNotQueued.2 (by decide +kernel)⟩

/-- Not every insert that fails leaves no trace, and not every one of a locker that no
    find can see may be repeated. -/
theorem failed_insert_seen :
    (¬ ∀ (ctx : KvStoreContext) (s : Store) (new : LockerNew) (done : List Cmd)
      (e : VaultDBError) (s' : Store), s.ReachedFailing ctx → s.mode = .enabled →
        Outcomes StorageFailure (insertResourceWithReverseLookup ctx
          Locker.kvSecondaryLookupResource new new.primaryKey.getPartitionKey) s done
            (.error e) s' →
          s'.cached new.lookupKey = s.cached new.lookupKey) ∧
      lookupNotQueued.2.visible (Store.lockerOf "card" "hash").primaryKey.getPartitionKey = none ∧
      lookupNotQueued.2.visibleByLookup (Store.lockerOf "card" "hash").hashKey = none ∧
      (insertCard.run Store.exec lookupNotQueued.2).1 = .error .unknownError := by
  refine ⟨fun h => ?_, by decide +kernel, by decide +kernel, by decide +kernel⟩
  obtain ⟨done, e, ho⟩ := outcome_lookupNotQueued
  have hsame := h .default Store.emptyStore (Store.lockerOf "card" "hash") done e _
    (Store.emptyStore_reachedFailing _) rfl ho
  exact absurd hsame (by decide +kernel)

end CardVault
