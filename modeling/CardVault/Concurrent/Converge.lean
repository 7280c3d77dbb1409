import CardVault.Concurrent.VaultCalls

/-!
# Redis and Postgres after concurrent updates

An update's `HSET` and its entry for the drainer are two steps, so two updates can
reach Redis in one order and the stream in the other. Where the last `HSET` is not
overtaken in this way, Redis and Postgres agree once everything is replayed.

Main results:

* `AgreeInv.step`: what Redis and the settled row have to do with the last `HSET`.
* `updates_converge`: the runs after which the two agree.
* `updates_diverge`: a run after which they do not.
-/

namespace CardVault

open Interaction

/-! ## The last `HSET` -/

section LastSet

variable {ι : Type} {history : List (ι × Cmd)} {i j : ι} {c : Cmd}

/-- The call that has issued the last `HSET`. -/
def lastSet : List (ι × Cmd) → Option ι
  | [] => none
  | (i, .setHashFields ..) :: _ => some i
  | _ :: history => lastSet history

/-- A call has queued its entry. -/
def HasQueued (history : List (ι × Cmd)) (i : ι) : Prop :=
  ∃ stream entry, (i, Cmd.streamAppendEntry stream entry) ∈ history

theorem lastSet_cons (h : ∀ key field value ttl, c ≠ .setHashFields key field value ttl) :
    lastSet ((i, c) :: history) = lastSet history := by
  cases c with
  | setHashFields key field value ttl => exact absurd rfl (h key field value ttl)
  | _ => rfl

theorem isSome_lastSet {key field : String} {value : Row} {ttl : ℕ}
    (h : (i, Cmd.setHashFields key field value ttl) ∈ history) :
    (lastSet history).isSome = true := by
  induction history with
  | nil => cases h
  | cons e history ih =>
    obtain ⟨j, c⟩ := e
    cases c with
    | setHashFields => rfl
    | _ => exact ih ((List.mem_cons.1 h).resolve_left fun he => by cases he)

/-- Only the call that appends has queued anything new. -/
theorem hasQueued_of_cons (h : HasQueued ((i, c) :: history) j)
    (hne : c.isAppend = true → j ≠ i) : HasQueued history j := by
  obtain ⟨stream, entry, hmem⟩ := h
  rcases List.mem_cons.1 hmem with he | hold
  · obtain ⟨rfl, rfl⟩ := Prod.mk.inj he
    exact absurd rfl (hne rfl)
  · exact ⟨stream, entry, hold⟩

end LastSet

section Converge

variable {ι : Type} [DecidableEq ι] (ctx : KvStoreContext) (pk : VaultPrimaryKey)
  (calls : ι → VaultUpdate)

/-- The calls are all updates. -/
abbrev UpdatePool.start (s : Store) : VaultPool ι :=
  VaultPool.start ctx pk (fun i => .update (calls i)) s

/-- A call queues its entry while the last `HSET` is its own, or one whose entry
    is still to come. -/
def Ordered (p : VaultPool ι) : Turn ι EnvStep → Prop
  | .env _ => True
  | .thread i => ∀ c ∈ p.nextCommand i, c.isAppend = true →
    ∀ j ∈ lastSet p.history, j = i ∨ ¬HasQueued p.history j

instance (history : List (ι × Cmd)) (i : ι) : Decidable (HasQueued history i) :=
  decidable_of_iff (∃ e ∈ history, e.1 = i ∧ e.2.isAppend = true) <| by
    constructor
    · rintro ⟨⟨j, c⟩, he, rfl, hc⟩
      cases c with
      | streamAppendEntry stream entry => exact ⟨stream, entry, he⟩
      | _ => cases hc
    · rintro ⟨stream, entry, he⟩
      exact ⟨_, he, rfl, rfl⟩

instance (p : VaultPool ι) : (turn : Turn ι EnvStep) → Decidable (Ordered p turn)
  | .env _ => isTrue trivial
  | .thread _ => inferInstanceAs (Decidable (∀ c ∈ p.nextCommand _, _))

/-- Redis and Postgres hold rows of the key with the same data and expiry. -/
def SameRow (s : Store) : Prop :=
  ∃ v v', s.cached pk.getPartitionKey = some (.vault v) ∧
    s.pg.rowAt pk.getPartitionKey = some (.vault v') ∧
    v'.encryptedData = v.encryptedData ∧ v'.expiresAt = v.expiresAt

/-- Once all updates have succeeded and the stream of the key is drained, Postgres
    has a row for the row that Redis has, and the two agree on `P`. -/
def ConvergeOn (P : VaultInner → VaultInner → Prop) (p : VaultPool ι) : Prop :=
  (∀ i, p.threads i = .pure (.ok ())) →
  p.store.streams (ctx.stream pk.getPartitionKey) = [] →
  ∀ row, p.store.cached pk.getPartitionKey = some row →
    ∃ v v', row = .vault v ∧ p.store.pg.rowAt pk.getPartitionKey = some (.vault v') ∧ P v v'

/-- They agree on the data, and on the expiry too if every update sets one. -/
def Converged : VaultPool ι → Prop :=
  ConvergeOn ctx pk fun v v' => v'.encryptedData = v.encryptedData ∧
    ((∀ i, (calls i).expiresAt.isSome = true) → v'.expiresAt = v.expiresAt)

/-- The row has what an update sets; `cut` is what storing a time makes of it. -/
def VaultUpdate.SetIn (cut : PrimitiveDateTime → PrimitiveDateTime) (change : VaultUpdate)
    (v : VaultInner) : Prop :=
  v.encryptedData = change.encryptedData ∧
    ∀ t, change.expiresAt = some t → v.expiresAt = some (cut t)

/-- The row has what the last `HSET` has written; before the first one, what it
    had at the start. -/
def HasLast (cut : PrimitiveDateTime → PrimitiveDateTime) (v₀ : VaultInner)
    (history : List (ι × Cmd)) (v : VaultInner) : Prop :=
  match lastSet history with
  | some i => (calls i).SetIn cut v
  | none => v.encryptedData = v₀.encryptedData ∧ v.expiresAt = v₀.expiresAt

/-- What holds of the rows between any two turns. -/
structure AgreeInv (v₀ : VaultInner) (p : VaultPool ι) (done : ι → List Cmd) : Prop where
  running : CallsRun ctx pk .enabled (fun i => .update (calls i)) p done
  cached : ∀ row, p.store.cached pk.getPartitionKey = some row →
    ∃ v, row = .vault v ∧ HasLast calls id v₀ p.history v
  settled : ∃ v, p.store.settled ctx pk.getPartitionKey = some (.vault v) ∧
    ((∀ i, lastSet p.history = some i → HasQueued p.history i) →
      HasLast calls PrimitiveDateTime.toTimestamp v₀ p.history v)

variable {ctx pk calls} {v₀ : VaultInner} {p : VaultPool ι} {done : ι → List Cmd}

omit [DecidableEq ι] in
theorem hasLast_congr {cut : PrimitiveDateTime → PrimitiveDateTime}
    {history history' : List (ι × Cmd)} {v : VaultInner} (h : lastSet history' = lastSet history) :
    HasLast calls cut v₀ history' v ↔ HasLast calls cut v₀ history v := by
  rw [HasLast, HasLast, h]

omit [DecidableEq ι] in
/-- Nothing of the rows or the writes has changed. -/
theorem AgreeInv.keep (h : AgreeInv ctx pk calls v₀ p done) {p' : VaultPool ι}
    {done' : ι → List Cmd}
    (hrunning : CallsRun ctx pk .enabled (fun i => .update (calls i)) p' done')
    (hcached : ∀ row, p'.store.cached pk.getPartitionKey = some row →
      p.store.cached pk.getPartitionKey = some row)
    (hsettled : p'.store.settled ctx pk.getPartitionKey = p.store.settled ctx pk.getPartitionKey)
    (hlast : lastSet p'.history = lastSet p.history)
    (hqueued : ∀ i, HasQueued p'.history i → HasQueued p.history i) :
    AgreeInv ctx pk calls v₀ p' done' where
  running := hrunning
  cached row hrow := by
    obtain ⟨v, rfl, hv⟩ := h.cached row (hcached row hrow)
    exact ⟨v, rfl, (hasLast_congr hlast).2 hv⟩
  settled := by
    obtain ⟨v, hv, hhas⟩ := h.settled
    refine ⟨v, hsettled.trans hv, fun hall => (hasLast_congr hlast).2 (hhas fun i hi => ?_)⟩
    exact hqueued i (hall i (hlast.trans hi))

omit [DecidableEq ι] in
/-- An `HSET`: Redis has the update's row, Postgres may have to wait for it. -/
theorem AgreeInv.set (h : AgreeInv ctx pk calls v₀ p done) {p' : VaultPool ι} {i : ι}
    {current : VaultInner} {ttl : ℕ} {done' : ι → List Cmd} (hdone : done i = [])
    (hstore : p'.store = (p.store.exec (.setHashFields pk.getPartitionKey.display
      pk.getPartitionKey.display (VaultCall.updatedRow (calls i) current) ttl)).2)
    (hhistory : p'.history = (i, .setHashFields pk.getPartitionKey.display
      pk.getPartitionKey.display (VaultCall.updatedRow (calls i) current) ttl) :: p.history)
    (hrunning : CallsRun ctx pk .enabled (fun i => .update (calls i)) p' done') :
    AgreeInv ctx pk calls v₀ p' done' := by
  have hlast : lastSet p'.history = some i := by
    rw [hhistory]
    rfl
  refine ⟨hrunning, fun row hrow => ?_, ?_⟩
  · rw [hstore] at hrow
    obtain rfl := Option.some.inj ((Redis.setField_self ..).symm.trans hrow)
    refine ⟨_, rfl, ?_⟩
    rw [HasLast, hlast]
    exact ⟨rfl, fun t ht => ht⟩
  · obtain ⟨v, hv, -⟩ := h.settled
    refine ⟨v, by rw [hstore]; exact hv, fun hall => ?_⟩
    -- the entry of this `HSET` is still to come
    have hqueued := hall i hlast
    rw [hhistory] at hqueued
    obtain ⟨stream, entry, hmem⟩ := hasQueued_of_cons hqueued fun hc => nomatch hc
    have hnoted := h.running.follows.noted i _ hmem fun _ => rfl
    rw [hdone] at hnoted
    cases hnoted

/-- An entry: what is settled has the update's columns. -/
theorem AgreeInv.append (h : AgreeInv ctx pk calls v₀ p done) {p' : VaultPool ι} {i : ι}
    {key field : String} {value : Row} {ttl : ℕ} {done' : ι → List Cmd}
    (hset : Cmd.setHashFields key field value ttl ∈ done i)
    (hordered : ∀ j, lastSet p.history = some j → j = i ∨ ¬HasQueued p.history j)
    (hstore : p'.store = (p.store.exec (queueEntry ctx pk.getPartitionKey
      (VaultCall.updateQuery pk (calls i)))).2)
    (hhistory : p'.history = (i, queueEntry ctx pk.getPartitionKey
      (VaultCall.updateQuery pk (calls i))) :: p.history)
    (hrunning : CallsRun ctx pk .enabled (fun i => .update (calls i)) p' done') :
    AgreeInv ctx pk calls v₀ p' done' := by
  have hlast : lastSet p'.history = lastSet p.history := by
    rw [hhistory]
    exact lastSet_cons fun _ _ _ _ hc => nomatch hc
  refine ⟨hrunning, fun row hrow => ?_, ?_⟩
  · rw [hstore] at hrow
    obtain ⟨v, rfl, hv⟩ := h.cached row hrow
    exact ⟨v, rfl, (hasLast_congr hlast).2 hv⟩
  · obtain ⟨v, hv, -⟩ := h.settled
    have hkey : (VaultCall.updateQuery pk (calls i)).statement.partitionKey = pk.getPartitionKey :=
      rfl
    refine ⟨v.setColumns { calls i with updatedBy := .redisKv }, ?_, fun hall => ?_⟩
    · rw [hstore, settled_queueEntry hkey, hv]
      rfl
    · obtain ⟨j, hj⟩ := Option.isSome_iff_exists.1
        (isSome_lastSet (h.running.follows.issued i _ hset))
      have hji : j = i := by
        by_contra hji
        have hqueued := hall j (hlast.trans hj)
        rw [hhistory] at hqueued
        exact (hordered j hj).elim hji fun hno => hno (hasQueued_of_cons hqueued fun _ => hji)
      subst hji
      rw [HasLast, hlast, hj]
      refine ⟨rfl, fun t ht => ?_⟩
      simp only [VaultInner.setColumns, ht]

/-- A turn keeps what holds of the rows. -/
theorem AgreeInv.step (h : AgreeInv ctx pk calls v₀ p done) (turn : Turn ι EnvStep)
    (hordered : Ordered p turn) :
    ∃ done', AgreeInv ctx pk calls v₀ (p.next ctx turn) done' := by
  rcases h.running.step turn with ⟨e, rfl, hstore, hhistory, hrunning⟩ |
    ⟨hstore, hhistory, hrunning⟩ | ⟨i, c, rest, rfl, hc, -, hplan, hstore, hhistory, hrunning⟩
  · refine ⟨done, h.keep hrunning (fun row hrow => ?_) ?_ (by rw [hhistory])
      (by rw [hhistory]; exact fun _ => id)⟩
    · rw [hstore] at hrow
      rcases Store.envStep_cached h.running.wellFormed pk.getPartitionKey e with hsame | hnone
      · exact hsame.symm.trans hrow
      · cases hnone.1.symm.trans hrow
    · rw [hstore, Store.settled_envStep h.running.wellFormed rfl e]
  · refine ⟨done, h.keep hrunning (by rw [hstore]; exact fun _ => id) (by rw [hstore]) ?_ ?_⟩
    · rcases hhistory with hsame | ⟨i, c, hcons, hquiet⟩
      · rw [hsame]
      · rw [hcons]
        refine lastSet_cons fun key field value ttl hc => ?_
        subst hc
        cases hquiet
    · intro j hj
      rcases hhistory with hsame | ⟨i, c, hcons, hquiet⟩
      · rwa [hsame] at hj
      · rw [hcons] at hj
        refine hasQueued_of_cons hj fun hc => ?_
        cases c with
        | streamAppendEntry => cases hquiet
        | _ => cases hc
  · obtain ⟨-, current, hwrites⟩ | ⟨hmode, -⟩ := hplan
    · obtain ⟨hnil, rfl⟩ | ⟨hset, rfl⟩ := next_of_pair hwrites
      · exact ⟨_, h.set hnil hstore hhistory hrunning⟩
      · exact ⟨_, h.append (by rw [hset]; exact List.mem_singleton_self _)
          (hordered _ hc rfl) hstore hhistory hrunning⟩
    · exact absurd rfl hmode

/-- What the rows have to do with each other at the end: the data are the same,
    and Postgres has cut the expiry to microseconds. -/
def CutFrom (calls : ι → VaultUpdate) (v v' : VaultInner) : Prop :=
  v'.encryptedData = v.encryptedData ∧
    ((∀ i, (calls i).expiresAt.isSome = true) →
      v'.expiresAt = v.expiresAt ∨
        ∃ i t, (calls i).expiresAt = some t ∧ v.expiresAt = some t ∧
          v'.expiresAt = some t.toTimestamp)

omit [DecidableEq ι] in
/-- Once every update has succeeded, the last `HSET` has its entry. -/
theorem AgreeInv.converged (h : AgreeInv ctx pk calls v₀ p done) :
    ConvergeOn ctx pk (CutFrom calls) p := by
  intro hended hdrained row hrow
  have hqueued : ∀ i, HasQueued p.history i := by
    intro i
    rcases h.running.follows.ended (hended i) () rfl with ⟨-, current, hwrites⟩ | ⟨hmode, -⟩
    · exact ⟨_, _, h.running.follows.issued i _
        (by rw [hwrites]; exact List.mem_cons_of_mem _ (List.mem_singleton_self _))⟩
    · exact absurd rfl hmode
  have hnone : p.store.queued ctx pk.getPartitionKey = [] := by
    rw [Store.queued, hdrained]
    rfl
  obtain ⟨v, rfl, hv⟩ := h.cached row hrow
  obtain ⟨v', hsettled, hhas⟩ := h.settled
  have hv' := hhas fun i _ => hqueued i
  obtain ⟨row', hrow', hclear⟩ :=
    Option.map_eq_some_iff.1 ((Store.view_eq_settled hnone).trans hsettled)
  cases row' with
  | vault stored =>
    obtain rfl := Row.vault.inj hclear
    refine ⟨v, stored, rfl, hrow', ?_⟩
    unfold HasLast at hv hv'
    cases hlast : lastSet p.history with
    | none =>
      rw [hlast] at hv hv'
      exact ⟨hv'.1.trans hv.1.symm, fun _ => Or.inl (hv'.2.trans hv.2.symm)⟩
    | some i =>
      rw [hlast] at hv hv'
      refine ⟨hv'.1.trans hv.1.symm, fun hall => ?_⟩
      obtain ⟨t, ht⟩ := Option.isSome_iff_exists.1 (hall i)
      exact Or.inr ⟨i, t, ht, hv.2 t ht, hv'.2 t ht⟩
  | _ => cases hclear

omit [DecidableEq ι] in
theorem ConvergeOn.mono {P P' : VaultInner → VaultInner → Prop} (h : ConvergeOn ctx pk P p)
    (hP : ∀ v v', P v v' → P' v v') : ConvergeOn ctx pk P' p := by
  intro hended hdrained row hrow
  obtain ⟨v, v', hv, hstored, hagree⟩ := h hended hdrained row hrow
  exact ⟨v, v', hv, hstored, hP v v' hagree⟩

variable (ctx pk calls) in
/-- Updates whose entries come in the order of their `HSET`s, as far as the last
    one is concerned, leave Redis and Postgres with the same data, and with the
    same expiry where Postgres can store it. -/
theorem updates_converge {s : Store} (hs : s.WellFormed ctx) (hmode : s.mode = .enabled)
    (hdrained : s.streams (ctx.stream pk.getPartitionKey) = []) (hsame : SameRow pk s)
    (turns : List (Turn ι EnvStep))
    (hgood : Good (VaultPool.next ctx) Ordered turns (UpdatePool.start ctx pk calls s)) :
    let p := runActs (VaultPool.next ctx) turns (UpdatePool.start ctx pk calls s)
    ConvergeOn ctx pk (fun v v' => v'.encryptedData = v.encryptedData) p ∧
      ((∀ i t, (calls i).expiresAt = some t → t.toTimestamp = t) → Converged ctx pk calls p) := by
  obtain ⟨v, v', hcached, hrow, hdata, hexpires⟩ := hsame
  have hnone : s.queued ctx pk.getPartitionKey = [] := by
    rw [Store.queued, hdrained]
    rfl
  have hstart : AgreeInv ctx pk calls v (UpdatePool.start ctx pk calls s) fun _ => [] := by
    refine ⟨hmode ▸ start_running hs, fun row hr => ?_, { v' with id := 0 }, ?_, fun _ => ?_⟩
    · obtain rfl := Option.some.inj (hcached.symm.trans hr)
      exact ⟨v, rfl, rfl, rfl⟩
    · exact (Store.view_eq_settled hnone).symm.trans (congrArg (Option.map Row.clearId) hrow)
    · exact ⟨hdata, hexpires⟩
  obtain ⟨done, hinv⟩ := run_invariant (I := fun p => ∃ done, AgreeInv ctx pk calls v p done)
    (fun p turn hp hordered => hp.elim fun done hinv => hinv.step turn hordered) turns _
    ⟨_, hstart⟩ hgood
  refine ⟨hinv.converged.mono fun _ _ h => h.1, fun htimes => hinv.converged.mono fun v v' h => ?_⟩
  refine ⟨h.1, fun hall => (h.2 hall).elim id ?_⟩
  rintro ⟨i, t, ht, hv, hv'⟩
  rw [hv, hv', htimes i t ht]

end Converge

/-! ## Two updates -/

/-- Two updates of the stored card. -/
def twoUpdates : Fin 2 → VaultUpdate
  | 0 => ⟨[2], none, .postgresOnly⟩
  | 1 => ⟨[3], none, .postgresOnly⟩

theorem storedCard_sameRow : SameRow ⟨"merchant", "card"⟩ storedCard :=
  ⟨⟨0, "merchant", "card", [1], ⟨0⟩, none, some .redisKv⟩,
    ⟨1, "merchant", "card", [1], ⟨0⟩, none, some .redisKv⟩, by decide +kernel, by decide +kernel,
    rfl, rfl⟩

/-- What the two updates come to. -/
def twoUpdatesAfter (turns : List (Turn (Fin 2) EnvStep)) : VaultPool (Fin 2) :=
  runActs (VaultPool.next .default) turns
    (UpdatePool.start .default ⟨"merchant", "card"⟩ twoUpdates storedCard)

/-- Both read; then the first one sets and queues, then the second one. -/
def setInTurn : List (Turn (Fin 2) EnvStep) :=
  List.replicate 4 (.thread 0) ++ List.replicate 4 (.thread 1) ++ List.replicate 4 (.thread 0) ++
    List.replicate 4 (.thread 1) ++ drainCard

theorem updates_converge_setInTurn :
    ∃ v v', (twoUpdatesAfter setInTurn).store.cached (.vault "merchant" "card") = some (.vault v) ∧
      (twoUpdatesAfter setInTurn).store.pg.rowAt (.vault "merchant" "card") = some (.vault v') ∧
      v'.encryptedData = v.encryptedData := by
  have hconverged : Converged .default ⟨"merchant", "card"⟩ twoUpdates
      (twoUpdatesAfter setInTurn) :=
    (updates_converge .default ⟨"merchant", "card"⟩ twoUpdates storedCard_reachable.wellFormed
      storedCard_reachable.mode_eq (by decide +kernel) storedCard_sameRow setInTurn
      (by decide +kernel)).2 fun i t ht => match i with
        | 0 => nomatch ht
        | 1 => nomatch ht
  have hended : ∀ i, (twoUpdatesAfter setInTurn).threads i = .pure (.ok ()) := fun i =>
    Prog.eq_pure_of_result (by revert i; decide +kernel)
  have hcached : (twoUpdatesAfter setInTurn).store.cached (.vault "merchant" "card") =
      some (.vault ⟨0, "merchant", "card", [3], ⟨0⟩, none, some .redisKv⟩) := by
    decide +kernel
  obtain ⟨v, v', hv, hrow, hdata, -⟩ := hconverged hended (by decide +kernel) _ hcached
  exact ⟨v, v', hcached.trans (congrArg some hv), hrow, hdata⟩

/-- The first one sets, the second one sets and queues, the first one queues. -/
def overtaken : List (Turn (Fin 2) EnvStep) :=
  List.replicate 6 (.thread 0) ++ List.replicate 8 (.thread 1) ++ List.replicate 2 (.thread 0) ++
    drainCard

/-- Not every run of updates leaves Redis and Postgres in agreement. -/
theorem updates_diverge :
    ¬ ∀ (ctx : KvStoreContext) (pk : VaultPrimaryKey) (calls : Fin 2 → VaultUpdate) (s : Store)
      (turns : List (Turn (Fin 2) EnvStep)), s.Reachable ctx .enabled →
        s.streams (ctx.stream pk.getPartitionKey) = [] → SameRow pk s →
          Converged ctx pk calls
            (runActs (VaultPool.next ctx) turns (UpdatePool.start ctx pk calls s)) := by
  intro h
  have hconverged : Converged .default ⟨"merchant", "card"⟩ twoUpdates
      (twoUpdatesAfter overtaken) :=
    h .default ⟨"merchant", "card"⟩ twoUpdates storedCard overtaken storedCard_reachable
      (by decide +kernel) storedCard_sameRow
  have hended : ∀ i, (twoUpdatesAfter overtaken).threads i = .pure (.ok ()) := fun i =>
    Prog.eq_pure_of_result (by revert i; decide +kernel)
  have hcached : (twoUpdatesAfter overtaken).store.cached (.vault "merchant" "card") =
      some (.vault ⟨0, "merchant", "card", [3], ⟨0⟩, none, some .redisKv⟩) := by
    decide +kernel
  have hstored : (twoUpdatesAfter overtaken).store.pg.rowAt (.vault "merchant" "card") =
      some (.vault ⟨1, "merchant", "card", [2], ⟨0⟩, none, some .redisKv⟩) := by
    decide +kernel
  obtain ⟨v, v', hv, hrow, hdata, -⟩ := hconverged hended (by decide +kernel) _ hcached
  obtain rfl := Row.vault.inj hv
  obtain rfl := Row.vault.inj (Option.some.inj (hstored.symm.trans hrow))
  exact absurd hdata (by decide)

end CardVault
