import CardVault.Expiry.Retrieves

/-!
# Spawned deletions and fresh rows

From the find of an expired row to the end of its deletion the store is stale for the
row, and the DELETE that the deletion queues waits behind statements that leave the row
expired, as long as nothing stores the row in the meantime. The deletion itself does not
look at the expiry again.

Main results:
* `Inv.step`: what one turn keeps.
* `expiry_spares_fresh`: the runs in which no fresh row is removed.
* `upsert_removed`: a run in which the deletion removes what an upsert has just stored.
-/

namespace CardVault

open Interaction Stream

/-! ## The invariant -/

theorem RowCall.obeys (ctx : KvStoreContext) (call : RowCall) :
    Obeys ctx (call.task ctx).program fun _ => True := by
  cases call with
  | retrieve expiry => exact expiry.target.obeys_find
  | addCard new =>
    exact Obeys.discard (Obeys.onDuplicate (obeys_insertLocker ctx new)
      (obeys_findByLockerIdMerchantIdCustomerId ctx _ _ _))
  | insertData new =>
    exact Obeys.discard (Obeys.onDuplicate (obeys_insertVault ctx new)
      (obeys_findByVaultIdEntityId ctx _ _))
  | upsertData new =>
    exact Obeys.discard (Obeys.onDuplicate (obeys_insertVault ctx new)
      (obeys_updateVaultData ctx _ _ _))
  | delete target => exact target.obeys_delete

/-- The rest of a task keeps to the storage layer's ways; that of a retrieve or of what it
    has spawned stores nothing. -/
structure Task.Ok (ctx : KvStoreContext) (t : Task) : Prop where
  obeys : Obeys ctx t.program fun _ => True
  drops : t.phase ≠ .request → Drops t.program

theorem RowCall.task_ok (ctx : KvStoreContext) (call : RowCall) : (call.task ctx).Ok ctx where
  obeys := call.obeys ctx
  drops hphase := by
    cases call with
    | retrieve expiry => exact expiry.target.drops_find
    | addCard | insertData | upsertData | delete => exact absurd rfl hphase

theorem RowCall.task_pending (ctx : KvStoreContext) (call : RowCall) :
    (call.task ctx).pending = none := by
  cases call with
  | retrieve expiry =>
    obtain ⟨target, now⟩ := expiry
    cases target <;> rfl
  | addCard | insertData | upsertData | delete => rfl

namespace Waiting

variable {ctx : KvStoreContext} {s : Store} {w : Waiting}

/-- What is queued for the row before the DELETE. -/
def queued (s : Store) (w : Waiting) : List Statement :=
  (((s.streams w.stream).take w.ahead).map fun entry => entry.query.statement).filter
    fun stmt => stmt.partitionKey = w.expiry.target.key

variable (ctx) in
/-- The row that the DELETE will meet has expired. -/
structure MeetsExpired (s : Store) (w : Waiting) : Prop where
  stream : w.stream = ctx.stream w.expiry.target.key
  ahead : w.ahead ≤ (s.streams w.stream).length
  leaves : s.pg.LeavesExpired w.expiry.target.key w.expiry.now (w.queued s)

theorem MeetsExpired.exec (h : MeetsExpired ctx s w) {c : Cmd}
    (hc : c.storesNow s w.expiry.target.key = false) : MeetsExpired ctx (s.exec c).2 w := by
  have hstreams : ∃ later, (s.exec c).2.streams w.stream = s.streams w.stream ++ later := by
    cases c with
    | streamAppendEntry stream entry =>
      by_cases hs : w.stream = stream
      · subst hs
        exact ⟨[entry], by simp [Store.exec]⟩
      · exact ⟨[], by simp [Store.exec, hs]⟩
    | setHashFieldIfNotExist k field value ttl =>
      refine ⟨[], ?_⟩
      simp only [Store.exec]
      split <;> simp
    | getHashField k field =>
      refine ⟨[], ?_⟩
      simp only [Store.exec]
      split <;> simp
    | _ => exact ⟨[], (List.append_nil _).symm⟩
  obtain ⟨later, hlater⟩ := hstreams
  have hqueued : w.queued (s.exec c).2 = w.queued s := by
    rw [queued, hlater, List.take_append_of_le_length h.ahead]
    rfl
  refine ⟨h.stream, ?_, ?_⟩
  · rw [hlater, List.length_append]
    exact h.ahead.trans (Nat.le_add_right _ _)
  · rw [hqueued]
    exact h.leaves.mono (Store.rowAt_exec hc)

/-- The DELETE has just been queued. -/
theorem meetsExpired_append {expiry : Expiry} {entry : DrainerEntry}
    (h : s.Stale ctx expiry.target.key expiry.now) :
    MeetsExpired ctx (s.exec (.streamAppendEntry (ctx.stream expiry.target.key) entry)).2
      ⟨expiry, ctx.stream expiry.target.key,
        (s.streams (ctx.stream expiry.target.key)).length⟩ where
  stream := rfl
  ahead := by simp [Store.exec]
  leaves := by
    have hqueued : queued (s.exec (.streamAppendEntry (ctx.stream expiry.target.key) entry)).2
        ⟨expiry, ctx.stream expiry.target.key,
          (s.streams (ctx.stream expiry.target.key)).length⟩ =
        s.queued ctx expiry.target.key := by
      simp [queued, Store.exec, Store.queued]
    rw [hqueued]
    exact h.leaves

theorem MeetsExpired.envStep (h : MeetsExpired ctx s w) (hs : s.WellFormed ctx) {e : EnvStep}
    {w' : Waiting} (hw : w.advance e = some w') : MeetsExpired ctx (s.envStep ctx e) w' := by
  cases e with
  | expire k =>
    cases hw
    have hpg : (s.expire ctx k).pg = s.pg := Store.expire_pg ..
    have hstreams : (s.expire ctx k).streams = s.streams := Store.expire_streams ..
    refine ⟨h.stream, ?_, ?_⟩
    · change w.ahead ≤ ((s.expire ctx k).streams w.stream).length
      rw [hstreams]
      exact h.ahead
    · change (s.expire ctx k).pg.LeavesExpired _ _ (w.queued (s.expire ctx k))
      rw [hpg, queued, hstreams]
      exact h.leaves
  | drain stream =>
    change MeetsExpired ctx (s.drain stream) w'
    unfold advance at hw
    by_cases hstream : w.stream = stream
    · subst hstream
      simp only [if_pos] at hw
      cases hahead : w.ahead with
      | zero =>
        rw [hahead] at hw
        cases hw
      | succ ahead =>
        rw [hahead] at hw
        cases hw
        have hlength := h.ahead
        have hleaves := h.leaves
        rcases Store.drain_cases s w.stream with ⟨hnil, -⟩ | ⟨entry, rest, hq, hd⟩
        · rw [hnil, hahead] at hlength
          cases hlength
        · rw [hq, hahead] at hlength
          have hrest : (s.drain w.stream).streams w.stream = rest := by rw [hd]; simp
          have hpg : (s.drain w.stream).pg = s.pg.apply entry.query.statement := by rw [hd]
          refine ⟨h.stream, ?_, ?_⟩
          · rw [hrest]
            exact Nat.le_of_succ_le_succ hlength
          · rw [queued, hq, hahead, List.take_succ_cons] at hleaves
            rw [hpg, queued, hrest]
            by_cases hkey : entry.query.statement.partitionKey = w.expiry.target.key
            · -- the entry replayed is about the row
              simp only [List.map_cons, List.filter_cons, hkey, decide_true, if_true] at hleaves
              exact hleaves.replay hkey
            · simp only [List.map_cons, List.filter_cons, hkey, decide_false, Bool.false_eq_true,
                if_false] at hleaves
              exact hleaves.mono (Or.inl (Pg.rowAt_apply_of_ne hkey))
    · simp only [if_neg hstream] at hw
      cases hw
      rcases Store.drain_cases s stream with ⟨-, hd⟩ | ⟨entry, rest, hq, hd⟩
      · rw [hd]
        exact h
      · have hentry := hs.streams stream entry (by simp [hq])
        have hkey : entry.query.statement.partitionKey ≠ w.expiry.target.key := by
          intro hkey
          rw [hentry.stream, hkey] at hstream
          exact hstream h.stream
        have hsame : (s.drain stream).streams w.stream = s.streams w.stream := by
          rw [hd]
          exact Function.update_of_ne hstream ..
        have hpg : (s.drain stream).pg = s.pg.apply entry.query.statement := by rw [hd]
        refine ⟨h.stream, ?_, ?_⟩
        · rw [hsame]
          exact h.ahead
        · rw [hpg, queued, hsame]
          exact h.leaves.mono (Or.inl (Pg.rowAt_apply_of_ne hkey))

end Waiting

namespace TtlPool

variable {ι : Type} [DecidableEq ι] {ctx : KvStoreContext} {p : TtlPool ι}

variable (ctx) in
/-- What holds between any two turns. -/
structure Inv (p : TtlPool ι) : Prop where
  wellFormed : p.store.WellFormed ctx
  tasks : ∀ i, (p.tasks i).Ok ctx
  pending : ∀ i, ∀ expiry ∈ (p.tasks i).pending,
    p.store.Stale ctx expiry.target.key expiry.now
  waiting : ∀ w ∈ p.waiting, w.MeetsExpired ctx p.store

omit [DecidableEq ι] in
theorem start_inv {s : Store} (hs : s.WellFormed ctx) (calls : ι → RowCall) :
    (start ctx s calls).Inv ctx where
  wellFormed := hs
  tasks i := (calls i).task_ok ctx
  pending i expiry h := by
    cases ((calls i).task_pending ctx).symm.trans h
  waiting w h := by cases h

theorem step_call {i : ι} {phase : Phase} {c : Cmd}
    {k : Reply c → App (Option PrimitiveDateTime)} (h : p.tasks i = ⟨phase, .call c k⟩) :
    p.step ctx (.thread i) =
      { store := (p.store.exec c).2
        tasks := Function.update p.tasks i ⟨phase, k (p.store.exec c).1⟩
        waiting := phase.queues p.store c ++ p.waiting } := by
  simp only [step, h]

theorem Inv.env (h : p.Inv ctx) (e : EnvStep) : (p.step ctx (.env e)).Inv ctx where
  wellFormed := Store.envStep_wellFormed h.wellFormed e
  tasks := h.tasks
  pending i expiry hexpiry := (h.pending i expiry hexpiry).envStep h.wellFormed e
  waiting w hw := by
    obtain ⟨w', hw', hadvance⟩ := List.mem_filterMap.1 hw
    exact (h.waiting w' hw').envStep h.wellFormed hadvance

/-- A command that leaves the rows of all pending deletions alone. -/
theorem Inv.call (h : p.Inv ctx) {i : ι} {phase : Phase} {c : Cmd}
    {k : Reply c → App (Option PrimitiveDateTime)} (hi : p.tasks i = ⟨phase, .call c k⟩)
    (hstores : ∀ j, ∀ expiry ∈ (p.tasks j).pending, c.stores p.store expiry.target.key = false)
    (hnow : ∀ w ∈ p.waiting, c.storesNow p.store w.expiry.target.key = false)
    (hfound : ∀ expiry, phase = .retrieve expiry →
      ∀ ttl ∈ (k (p.store.exec c).1).result, expired ttl expiry.now = true →
        p.store.Stale ctx expiry.target.key expiry.now) :
    (p.step ctx (.thread i)).Inv ctx := by
  have htask := h.tasks i
  rw [hi] at htask
  obtain ⟨hreply, hwellFormed⟩ := Store.exec_wellFormed h.wellFormed htask.obeys.1
  have hpending := h.pending i
  rw [hi] at hpending
  rw [step_call hi]
  refine ⟨hwellFormed, fun j => ?_, fun j expiry hj => ?_, fun w hw => ?_⟩
  · by_cases hij : j = i
    · subst hij
      simp only [Function.update_self]
      exact ⟨htask.obeys.2 _ () hreply, fun hphase => (htask.drops hphase).2 _ trivial⟩
    · simp only [Function.update_of_ne hij]
      exact h.tasks j
  · by_cases hij : j = i
    · subst hij
      simp only [Function.update_self] at hj
      cases phase with
      | request =>
        cases hk : k (p.store.exec c).1 <;> rw [hk] at hj <;> cases hj
      | retrieve expiry' =>
        have hdrops : c.drops = true := (htask.drops Phase.noConfusion).1
        cases hk : k (p.store.exec c).1 with
        | call c' k' => rw [hk] at hj; cases hj
        | pure ttl =>
          rw [hk] at hj
          simp only [Task.pending, Option.mem_def] at hj
          split_ifs at hj with hexpired
          cases hj
          have hstale := hfound expiry rfl ttl (by rw [hk]; rfl) hexpired
          exact hstale.exec (Cmd.stores_of_drops hdrops)
      | delete expiry' =>
        have hdrops : c.drops = true := (htask.drops Phase.noConfusion).1
        have hsame : expiry = expiry' := by
          cases hk : k (p.store.exec c).1 <;> rw [hk] at hj <;> cases hj
          rfl
        subst hsame
        exact (hpending expiry rfl).exec (Cmd.stores_of_drops hdrops)
    · simp only [Function.update_of_ne hij] at hj
      exact (h.pending j expiry hj).exec (hstores j expiry hj)
  · rcases List.mem_append.1 hw with hnew | hold
    · cases phase with
      | request => cases hnew
      | retrieve => cases hnew
      | delete expiry =>
        cases c with
        | streamAppendEntry stream entry =>
          simp only [Phase.queues] at hnew
          split_ifs at hnew with hkey
          · cases List.mem_singleton.1 hnew
            have hentry : entry.Ok ctx stream := htask.obeys.1
            obtain rfl : stream = ctx.stream expiry.target.key := by rw [hentry.stream, hkey]
            exact Waiting.meetsExpired_append (hpending expiry rfl)
          · cases hnew
        | _ => cases hnew
    · exact (h.waiting w hold).exec (hnow w hold)

/-- A retrieve spawns the deletion. -/
theorem Inv.spawn (h : p.Inv ctx) {i : ι} {expiry : Expiry} {ttl : Option PrimitiveDateTime}
    (hi : p.tasks i = ⟨.retrieve expiry, .pure ttl⟩) (hexpired : expired ttl expiry.now = true) :
    Inv ctx { p with
      tasks := Function.update p.tasks i ⟨.delete expiry, expiry.target.delete ctx⟩ } where
  wellFormed := h.wellFormed
  tasks j := by
    by_cases hij : j = i
    · subst hij
      simp only [Function.update_self]
      exact ⟨expiry.target.obeys_delete, fun _ => expiry.target.drops_delete⟩
    · simp only [Function.update_of_ne hij]
      exact h.tasks j
  pending j expiry' hj := by
    by_cases hij : j = i
    · subst hij
      have hfound := h.pending j expiry
      rw [hi] at hfound
      simp only [Function.update_self] at hj
      have hsame : expiry' = expiry := by
        cases hdelete : expiry.target.delete ctx <;> rw [hdelete] at hj <;> cases hj
        rfl
      rw [hsame]
      exact hfound (if_pos hexpired)
    · simp only [Function.update_of_ne hij] at hj
      exact h.pending j expiry' hj
  waiting := h.waiting

/-- One turn. -/
theorem Inv.step (h : p.Inv ctx) {turn : Turn ι EnvStep} (hturn : p.Undisturbed ctx turn) :
    (p.step ctx turn).Inv ctx := by
  cases turn with
  | env e => exact h.env e
  | thread i =>
    cases hi : p.tasks i with
    | mk phase program =>
      have htask := h.tasks i
      rw [hi] at htask
      simp only [Undisturbed, hi, LeavesAlone] at hturn
      cases program with
      | call c k =>
        cases phase with
        | request => exact h.call hi hturn.1 hturn.2 fun _ hphase => nomatch hphase
        | retrieve expiry =>
          have hdrops : c.drops = true := (htask.drops Phase.noConfusion).1
          refine h.call hi (fun _ _ _ => Cmd.stores_of_drops hdrops)
            (fun _ _ => Cmd.storesNow_of_drops hdrops) fun expiry' hphase => ?_
          cases hphase
          exact hturn
        | delete expiry =>
          have hdrops : c.drops = true := (htask.drops Phase.noConfusion).1
          exact h.call hi (fun _ _ _ => Cmd.stores_of_drops hdrops)
            (fun _ _ => Cmd.storesNow_of_drops hdrops) fun _ hphase => nomatch hphase
      | pure ttl =>
        cases phase with
        | request =>
          have hstep : p.step ctx (.thread i) = p := by simp only [TtlPool.step, hi]
          rwa [hstep]
        | delete expiry =>
          have hstep : p.step ctx (.thread i) = p := by simp only [TtlPool.step, hi]
          rwa [hstep]
        | retrieve expiry =>
          simp only [TtlPool.step, hi]
          split_ifs with hexpired
          · exact h.spawn hi hexpired
          · exact h

/-! ## What is removed -/

/-- Of the commands of a delete only a DELETE run at once takes the row from Postgres. -/
theorem deletesNow_of_gone {s : Store} {key : PartitionKey} {c : Cmd} {row : Row}
    (hdrops : c.drops = true) (hrow : s.pg.rowAt key = some row)
    (hgone : (s.exec c).2.pg.rowAt key = none) : c.deletesNow key = true := by
  have hkept : (s.exec c).2.pg.rowAt key = s.pg.rowAt key → c.deletesNow key = true := by
    intro hsame
    rw [hgone, hrow] at hsame
    cases hsame
  cases c with
  | query pool q =>
    cases q with
    | execute stmt =>
      by_cases hkey : stmt.partitionKey = key
      · have hdelete : stmt.isDelete = true := hdrops
        simp [Cmd.deletesNow, hkey, hdelete]
      · exact hkept (Pg.rowAt_apply_of_ne hkey)
    | _ => exact hkept rfl
  | setHashFieldIfNotExist => cases hdrops
  | getHashField k field =>
    refine hkept ?_
    simp only [Store.exec]
    split <;> rfl
  | _ => exact hkept rfl

/-- In a turn that keeps to the condition. -/
theorem Inv.sparesFresh (h : p.Inv ctx) {turn : Turn ι EnvStep} (hturn : p.Undisturbed ctx turn) :
    p.SparesFresh ctx turn := by
  intro expiry row hdeletes hgone later hlater
  suffices hexpired : row.ExpiredAt expiry.now from hexpired.not_fresh hlater
  cases turn with
  | env e =>
    cases e with
    | expire => exact hdeletes.elim
    | drain stream =>
      obtain ⟨w, hw, rfl, rfl, hahead⟩ := hdeletes
      rcases hgone with ⟨hcached, hnone⟩ | ⟨hrow, -⟩
      · cases hcached.symm.trans hnone
      · -- nothing of the row is queued before the DELETE
        have hleft := (h.waiting w hw).leaves.row row hrow
        rwa [Waiting.queued, hahead] at hleft
  | thread i =>
    cases hi : p.tasks i with
    | mk phase program =>
      have hphase : phase = .delete expiry := by
        have hdelete : (p.tasks i).phase = .delete expiry := hdeletes
        rwa [hi] at hdelete
      subst hphase
      cases program with
      | pure ttl =>
        have hstep : p.step ctx (.thread i) = p := by simp only [TtlPool.step, hi]
        rw [hstep] at hgone
        rcases hgone with ⟨hrow, hnone⟩ | ⟨hrow, hnone⟩
        · cases hrow.symm.trans hnone
        · cases hrow.symm.trans hnone
      | call c k =>
        have htask := h.tasks i
        have hstale := h.pending i expiry
        rw [hi] at htask hstale
        have hstale := hstale rfl
        rw [step_call hi] at hgone
        rcases hgone with ⟨hrow, -⟩ | ⟨hrow, hnone⟩
        · exact hstale.cached row hrow
        · have hdrops : c.drops = true := (htask.drops Phase.noConfusion).1
          simp only [Undisturbed, hi, LeavesAlone] at hturn
          have hqueued := hturn (deletesNow_of_gone hdrops hrow hnone)
          have hleft := hstale.leaves.row row hrow
          rwa [hqueued] at hleft

end TtlPool

/-- Retrieves, with the deletions they spawn, adds, upserts and deletes, interleaved
    command by command in any mode with each other, with the drainer and with the expiry
    of Redis keys: where no turn disturbs a deletion, no spawned deletion removes a row
    that is fresh. -/
theorem expiry_spares_fresh {ι : Type} [DecidableEq ι] (ctx : KvStoreContext) {s : Store}
    (hs : Store.Reached ctx s) (calls : ι → RowCall) (turns : List (Turn ι EnvStep))
    (hturns : Good (TtlPool.step ctx) (TtlPool.Undisturbed ctx) turns
      (TtlPool.start ctx s calls)) :
    Good (TtlPool.step ctx) (TtlPool.SparesFresh ctx) turns (TtlPool.start ctx s calls) :=
  Good.of_invariant (I := TtlPool.Inv ctx) (fun _ _ h hturn => ⟨h.sparesFresh hturn, h.step hturn⟩)
    turns _ (TtlPool.start_inv hs.wellFormed calls) hturns

/-! ## An upsert in between -/

namespace Store

/-- A vault row that expires at the time 1000. -/
def expiringCard : Store :=
  runActs (step .default) [.request (.insertVault { recordOf 1 with expiresAt := some ⟨1000⟩ })]
    emptyStore

theorem expiringCard_reached : Reached .default expiringCard :=
  ⟨some ⟨.enabled, false⟩, false, Pg.empty, _, rfl⟩

end Store

/-- The retrieve of that row at the time 2000. -/
def lateRetrieve : Expiry := ⟨.vault "card" "merchant", ⟨2000⟩⟩

/-- The retrieve, and an upsert with an expiry to come. -/
def retrieveAndUpsert : Fin 2 → RowCall
  | 0 => .retrieve lateRetrieve
  | 1 => .upsertData { Store.recordOf 2 with expiresAt := some ⟨9000⟩ }

/-- The deletion has run before the upsert begins; then all three entries are replayed. -/
def deletionFirst : List (Turn (Fin 2) EnvStep) :=
  List.replicate 12 (.thread 0) ++ List.replicate 12 (.thread 1) ++
    List.replicate 3 (.env (.drain (KvStoreContext.default.stream lateRetrieve.target.key)))

theorem expiry_spares_fresh_deletionFirst :
    Good (TtlPool.step .default) (TtlPool.SparesFresh .default) deletionFirst
      (TtlPool.start .default Store.expiringCard retrieveAndUpsert) :=
  expiry_spares_fresh .default Store.expiringCard_reached retrieveAndUpsert deletionFirst
    (by decide +kernel)

/-- The upsert comes after the retrieve has read the row, and before its deletion. -/
def upsertInBetween : List (Turn (Fin 2) EnvStep) :=
  List.replicate 3 (.thread 0) ++ List.replicate 12 (.thread 1) ++ List.replicate 3 (.thread 0)

theorem upsert_removed :
    ¬ ∀ (ctx : KvStoreContext) (s : Store) (calls : Fin 2 → RowCall)
        (turns : List (Turn (Fin 2) EnvStep)), Store.Reached ctx s →
      Good (TtlPool.step ctx) (TtlPool.SparesFresh ctx) turns (TtlPool.start ctx s calls) := by
  intro h
  have hspares := (h .default Store.expiringCard retrieveAndUpsert
    (upsertInBetween ++ [.thread 0]) Store.expiringCard_reached).of_append.1
  have hphase : ((runActs (TtlPool.step .default) upsertInBetween (TtlPool.start .default
      Store.expiringCard retrieveAndUpsert)).tasks 0).phase = .delete lateRetrieve := by
    decide +kernel
  have hgone : TtlPool.Gone (.vault "merchant" "card")
      (.vault ⟨0, "merchant", "card", [2], ⟨0⟩, some ⟨9000⟩, some .redisKv⟩)
      (runActs (TtlPool.step .default) upsertInBetween (TtlPool.start .default
        Store.expiringCard retrieveAndUpsert)).store
      ((runActs (TtlPool.step .default) upsertInBetween (TtlPool.start .default
        Store.expiringCard retrieveAndUpsert)).step .default (.thread 0)).store :=
    Or.inl (by decide +kernel)
  refine hspares lateRetrieve _ hphase hgone ⟨2000⟩ le_rfl fun ttl httl => ?_
  cases httl
  decide

end CardVault
