import CardVault.Concurrent.VaultCalls

/-!
# A deleted row stays deleted

An update reads the row and writes it back later with an unconditional `HSET`; a
delete that comes in between is undone. A DELETE that runs on Postgres leaves what
Redis and the stream hold. Where neither happens in a run, a delete that has
succeeded is final.

Main results:

* `DeletedInv.step`: what holds once the row has been removed.
* `stays_deleted`: the runs in which no update brings the row back.
* `resurrected`: a run in which one does.
-/

namespace CardVault

open Interaction

/-! ## When the row is removed -/

/-- A DELETE on the vault table, run at once. -/
def Cmd.isVaultDelete : Cmd → Bool
  | .query _ (.execute (.deleteVault _)) => true
  | _ => false

/-- A command that takes the row away, from Redis or from Postgres. -/
def Cmd.removes : Cmd → Bool
  | .deleteHashFields .. => true
  | c => c.isVaultDelete

section Deleted

variable {ι : Type} [DecidableEq ι] (ctx : KvStoreContext) (pk : VaultPrimaryKey)

/-- A call has removed the row. -/
def Removed (p : VaultPool ι) : Prop := ∃ e ∈ p.history, e.2.removes = true

instance (p : VaultPool ι) : Decidable (Removed p) :=
  inferInstanceAs (Decidable (∃ e ∈ p.history, e.2.removes = true))

/-- An `HSET` comes before every removal, and a DELETE that runs at once meets
    neither a row in Redis nor an INSERT on its way. -/
def Undisturbed (p : VaultPool ι) : Turn ι EnvStep → Prop
  | .env _ => True
  | .thread i => ∀ c ∈ p.nextCommand i,
    (c.isHset = true → ¬Removed p) ∧
      (c.isVaultDelete = true → p.store.cached pk.getPartitionKey = none ∧
        (p.store.queued ctx pk.getPartitionKey).foldl (fun row stmt => stmt.act row) none = none)

instance (p : VaultPool ι) : (turn : Turn ι EnvStep) → Decidable (Undisturbed ctx pk p turn)
  | .env _ => isTrue trivial
  | .thread _ => inferInstanceAs (Decidable (∀ c ∈ p.nextCommand _, _))

/-- Once a delete has succeeded, the updates that have begun have ended, and the
    stream of the key is drained, the row is nowhere. -/
def StaysDeleted (calls : ι → VaultCall) (p : VaultPool ι) : Prop :=
  (∃ i, calls i = .delete ∧ p.threads i = .pure (.ok ())) →
  (∀ i change, calls i = .update change → (∃ c, (i, c) ∈ p.history) →
    ∃ reply, p.threads i = .pure reply) →
  p.store.streams (ctx.stream pk.getPartitionKey) = [] →
    p.store.cached pk.getPartitionKey = none ∧ p.store.pg.rowAt pk.getPartitionKey = none

/-- What holds of the row between any two turns. -/
structure DeletedInv (mode : KvState) (calls : ι → VaultCall) (p : VaultPool ι)
    (done : ι → List Cmd) : Prop where
  running : CallsRun ctx pk mode calls p done
  removed : Removed p → p.store.cached pk.getPartitionKey = none
  gone : ∀ i, calls i = .delete → (calls i).plan ctx pk mode (done i) →
    p.store.settled ctx pk.getPartitionKey = none

variable {ctx pk} {mode : KvState} {calls : ι → VaultCall} {p : VaultPool ι}
  {done : ι → List Cmd}

omit [DecidableEq ι] in
theorem removed_cons {p p' : VaultPool ι} {i : ι} {c : Cmd}
    (h : p'.history = (i, c) :: p.history) :
    Removed p' ↔ c.removes = true ∨ Removed p := by
  simp [Removed, h]

theorem quiet_of_removes {c : Cmd} (h : c.removes = true) (reply : Reply c) :
    c.quiet reply = false := by
  cases c with
  | deleteHashFields => rfl
  | query pool q =>
    cases q with
    | execute stmt => rfl
    | _ => cases h
  | _ => cases h

omit [DecidableEq ι] in
/-- A write that neither removes the row nor sets it, and leaves no row of none. -/
theorem DeletedInv.keep (h : DeletedInv ctx pk mode calls p done) {p' : VaultPool ι}
    {done' : ι → List Cmd} (hrunning : CallsRun ctx pk mode calls p' done')
    (hremoved : Removed p' → Removed p)
    (hcached : p'.store.cached pk.getPartitionKey = p.store.cached pk.getPartitionKey)
    (hdone : ∀ i, calls i = .delete → done' i = done i)
    (hsettled : p.store.settled ctx pk.getPartitionKey = none →
      p'.store.settled ctx pk.getPartitionKey = none) :
    DeletedInv ctx pk mode calls p' done' where
  running := hrunning
  removed hr := hcached.trans (h.removed (hremoved hr))
  gone i hi hplan := hsettled (h.gone i hi (hdone i hi ▸ hplan))

/-- An update writes. -/
theorem DeletedInv.update (h : DeletedInv ctx pk mode calls p done) {p' : VaultPool ι} {i : ι}
    {c : Cmd} {rest : List Cmd} {change : VaultUpdate} (hcall : calls i = .update change)
    (hplan : (calls i).plan ctx pk mode (done i ++ c :: rest))
    (hsafe : c.isHset = true → ¬Removed p)
    (hstore : p'.store = (p.store.exec c).2) (hhistory : p'.history = (i, c) :: p.history)
    (hrunning : CallsRun ctx pk mode calls p' (Function.update done i (done i ++ [c]))) :
    DeletedInv ctx pk mode calls p' (Function.update done i (done i ++ [c])) := by
  have hdone : ∀ j, calls j = .delete → Function.update done i (done i ++ [c]) j = done j := by
    intro j hj
    refine Function.update_of_ne (fun he => ?_) _ _
    rw [he, hcall] at hj
    cases hj
  have hremoved := removed_cons hhistory
  have hkey : (VaultCall.updateStatement pk change .redisKv).partitionKey =
      pk.getPartitionKey := rfl
  rw [hcall] at hplan
  rcases hplan with ⟨-, current, hwrites⟩ | ⟨-, hwrites⟩
  · obtain ⟨-, rfl⟩ | ⟨-, rfl⟩ := next_of_pair hwrites
    · have hno : ¬Removed p' := fun hr => (hremoved.1 hr).elim (fun hc => nomatch hc) (hsafe rfl)
      refine ⟨hrunning, fun hr => absurd hr hno, fun j hj hplan => ?_⟩
      rw [hdone j hj] at hplan
      rw [hstore]
      exact h.gone j hj hplan
    · refine h.keep hrunning (fun hr => (hremoved.1 hr).resolve_left fun hc => nomatch hc)
        (by rw [hstore]; rfl) hdone fun hnone => ?_
      rw [hstore, settled_queueEntry hkey, hnone]
      rfl
  · obtain ⟨-, rfl⟩ := next_of_singleton hwrites
    refine h.keep hrunning (fun hr => (hremoved.1 hr).resolve_left fun hc => nomatch hc)
      (by rw [hstore]; rfl) hdone fun hnone => ?_
    rw [hstore, settled_query (by rfl) (by rfl)]
    refine foldl_act_none (fun hview => ?_) hnone
    rw [hview]
    rfl

/-- A delete writes. -/
theorem DeletedInv.delete (h : DeletedInv ctx pk mode calls p done) {p' : VaultPool ι} {i : ι}
    {c : Cmd} {rest : List Cmd} (hcall : calls i = .delete)
    (hplan : (calls i).plan ctx pk mode (done i ++ c :: rest))
    (hsafe : c.isVaultDelete = true → p.store.cached pk.getPartitionKey = none ∧
      (p.store.queued ctx pk.getPartitionKey).foldl (fun row stmt => stmt.act row) none = none)
    (hstore : p'.store = (p.store.exec c).2) (hhistory : p'.history = (i, c) :: p.history)
    (hrunning : CallsRun ctx pk mode calls p' (Function.update done i (done i ++ [c]))) :
    DeletedInv ctx pk mode calls p' (Function.update done i (done i ++ [c])) := by
  have hremoved := removed_cons hhistory
  rw [hcall] at hplan
  rcases hplan with ⟨-, hwrites⟩ | ⟨-, hwrites⟩
  · obtain ⟨hnil, rfl⟩ | ⟨-, rfl⟩ := next_of_pair hwrites
    · refine ⟨hrunning, fun _ => ?_, fun j hj hplan => ?_⟩
      · rw [hstore]
        exact Redis.deleteField_self ..
      · have hji : j ≠ i := by
          rintro rfl
          -- the entry is still to come
          rw [Function.update_self, hnil, hcall] at hplan
          rcases hplan with ⟨-, hp⟩ | ⟨-, hp⟩ <;> cases hp
        rw [Function.update_of_ne hji] at hplan
        rw [hstore]
        exact h.gone j hj hplan
    · refine ⟨hrunning, fun hr => ?_, fun _ _ _ => ?_⟩
      · rw [hstore]
        exact h.removed ((hremoved.1 hr).resolve_left fun hc => nomatch hc)
      · have hkey : (VaultCall.deleteQuery pk).statement.partitionKey = pk.getPartitionKey := rfl
        rw [hstore, settled_queueEntry hkey]
        rfl
  · obtain ⟨-, rfl⟩ := next_of_singleton hwrites
    obtain ⟨hcached, hqueued⟩ := hsafe rfl
    refine ⟨hrunning, fun _ => ?_, fun _ _ _ => ?_⟩
    · rw [hstore]
      exact hcached
    · rw [hstore, settled_query (by rfl) (by rfl)]
      exact hqueued

/-- A turn keeps what holds of the row. -/
theorem DeletedInv.step (h : DeletedInv ctx pk mode calls p done) (turn : Turn ι EnvStep)
    (hsafe : Undisturbed ctx pk p turn) :
    ∃ done', DeletedInv ctx pk mode calls (p.next ctx turn) done' := by
  rcases h.running.step turn with ⟨e, rfl, hstore, hhistory, hrunning⟩ |
    ⟨hstore, hhistory, hrunning⟩ | ⟨i, c, rest, rfl, hc, -, hplan, hstore, hhistory, hrunning⟩
  · refine ⟨done, hrunning, fun hr => ?_, fun i hi hplan => ?_⟩
    · rw [Removed, hhistory] at hr
      rw [hstore]
      rcases Store.envStep_cached h.running.wellFormed pk.getPartitionKey e with hsame | hnone
      · exact hsame.trans (h.removed hr)
      · exact hnone.1
    · rw [hstore, Store.settled_envStep h.running.wellFormed rfl e]
      exact h.gone i hi hplan
  · refine ⟨done, h.keep hrunning (fun hr => ?_) (by rw [hstore]) (fun _ _ => rfl)
      (by rw [hstore]; exact id)⟩
    rcases hhistory with hsame | ⟨i, c, hcons, hquiet⟩
    · rwa [Removed, hsame] at hr
    · refine ((removed_cons hcons).1 hr).resolve_left fun hc => ?_
      rw [quiet_of_removes hc] at hquiet
      cases hquiet
  · obtain ⟨hset, hdelete⟩ := hsafe c hc
    cases hcall : calls i with
    | update change => exact ⟨_, h.update hcall hplan hset hstore hhistory hrunning⟩
    | delete => exact ⟨_, h.delete hcall hplan hdelete hstore hhistory hrunning⟩

omit [DecidableEq ι] in
/-- What holds of the row, once a delete has succeeded. -/
theorem DeletedInv.staysDeleted (h : DeletedInv ctx pk mode calls p done) :
    StaysDeleted ctx pk calls p := by
  rintro ⟨i, hcall, hended⟩ - hdrained
  have hplan := h.running.follows.ended hended () rfl
  have hremoved : Removed p := by
    have hissued := h.running.follows.issued i
    rw [hcall] at hplan
    rcases hplan with ⟨-, hwrites⟩ | ⟨-, hwrites⟩
    · exact ⟨_, hissued _ (by rw [hwrites]; exact List.mem_cons_self), rfl⟩
    · exact ⟨_, hissued _ (by rw [hwrites]; exact List.mem_cons_self), rfl⟩
  have hqueued : p.store.queued ctx pk.getPartitionKey = [] := by
    rw [Store.queued, hdrained]
    rfl
  have hview := (Store.view_eq_settled hqueued).trans (h.gone i hcall hplan)
  exact ⟨h.removed hremoved, Option.map_eq_none_iff.1 hview⟩

variable (ctx pk calls) in
/-- In a run in which every `HSET` comes before every removal, and no DELETE runs
    at once while Redis or the stream has the row, a delete is final. -/
theorem stays_deleted {s : Store} (hs : s.WellFormed ctx) (turns : List (Turn ι EnvStep))
    (hgood : Good (VaultPool.next ctx) (Undisturbed ctx pk) turns
      (VaultPool.start ctx pk calls s)) :
    StaysDeleted ctx pk calls
      (runActs (VaultPool.next ctx) turns (VaultPool.start ctx pk calls s)) := by
  have hstart : DeletedInv ctx pk s.mode calls (VaultPool.start ctx pk calls s) fun _ => [] := by
    refine ⟨start_running hs, fun hr => ?_, fun i hi hplan => ?_⟩
    · obtain ⟨e, he, -⟩ := hr
      cases he
    · rw [hi] at hplan
      rcases hplan with ⟨-, hp⟩ | ⟨-, hp⟩ <;> cases hp
  obtain ⟨done, hinv⟩ := run_invariant
    (I := fun p => ∃ done, DeletedInv ctx pk s.mode calls p done)
    (fun p turn hp hsafe => hp.elim fun done hinv => hinv.step turn hsafe) turns _
    ⟨_, hstart⟩ hgood
  exact hinv.staysDeleted

end Deleted

/-! ## An update and a delete -/

/-- One call changes the row, the other deletes it. -/
def updateAndDelete : Fin 2 → VaultCall
  | 0 => .update ⟨[2], none, .postgresOnly⟩
  | 1 => .delete

/-- What the two calls come to. -/
def storedCardAfter (turns : List (Turn (Fin 2) EnvStep)) : VaultPool (Fin 2) :=
  runActs (VaultPool.next .default) turns
    (VaultPool.start .default ⟨"merchant", "card"⟩ updateAndDelete storedCard)

/-- The update, then the delete. -/
def inOrder : List (Turn (Fin 2) EnvStep) :=
  List.replicate 8 (.thread 0) ++ List.replicate 5 (.thread 1) ++ drainCard

theorem stays_deleted_inOrder :
    (storedCardAfter inOrder).store.cached (.vault "merchant" "card") = none ∧
      (storedCardAfter inOrder).store.pg.rowAt (.vault "merchant" "card") = none := by
  have hstays : StaysDeleted .default ⟨"merchant", "card"⟩ updateAndDelete
      (storedCardAfter inOrder) :=
    stays_deleted .default ⟨"merchant", "card"⟩ updateAndDelete
      storedCard_reachable.wellFormed inOrder (by decide +kernel)
  have hended : ∀ i, (storedCardAfter inOrder).threads i = .pure (.ok ()) := fun i =>
    Prog.eq_pure_of_result (by revert i; decide +kernel)
  exact hstays ⟨1, rfl, hended 1⟩ (fun i _ _ _ => ⟨_, hended i⟩) (by decide +kernel)

/-- The delete comes between the update's read and its `HSET`. -/
def inBetween : List (Turn (Fin 2) EnvStep) :=
  List.replicate 4 (.thread 0) ++ List.replicate 5 (.thread 1) ++ List.replicate 4 (.thread 0) ++
    drainCard

/-- Not every delete that succeeds is final. -/
theorem resurrected :
    ¬ ∀ (ctx : KvStoreContext) (mode : KvState) (pk : VaultPrimaryKey)
      (calls : Fin 2 → VaultCall) (s : Store) (turns : List (Turn (Fin 2) EnvStep)),
      (mode = .enabled ∨ mode = .softKill) → s.Reachable ctx mode →
        StaysDeleted ctx pk calls
          (runActs (VaultPool.next ctx) turns (VaultPool.start ctx pk calls s)) := by
  intro h
  have hstays : StaysDeleted .default ⟨"merchant", "card"⟩ updateAndDelete
      (storedCardAfter inBetween) :=
    h .default .enabled ⟨"merchant", "card"⟩ updateAndDelete storedCard inBetween (Or.inl rfl)
      storedCard_reachable
  have hended : ∀ i, (storedCardAfter inBetween).threads i = .pure (.ok ()) := fun i =>
    Prog.eq_pure_of_result (by revert i; decide +kernel)
  have hcached : (storedCardAfter inBetween).store.cached (.vault "merchant" "card") ≠ none := by
    decide +kernel
  exact hcached (hstays ⟨1, rfl, hended 1⟩ (fun i _ _ _ => ⟨_, hended i⟩) (by decide +kernel)).1

end CardVault
