import CardVault.Lib.Faults
import CardVault.Lib.Interpret

/-!
# A part of a pool, seen alone

Programs over a state that several parties share, where each command is issued for one
party. What one party sees of a run is a run of its own programs over a state of its own,
when every command is matched there: its own commands by the same command, after some steps
of the environment, and everybody else's commands by steps of the environment alone.

Main results:
* `Pool.Sees.step`: one turn of the whole.
* `Pool.Sees.run`: any number of turns.
* `Unreliable.exists_delivery`: a call that fails where the other does not is matched by a
  failure.
-/

namespace Interaction

variable {τ S A ι C E F α : Type} {R : C → Type}

/-- The program of one party among all. -/
def Prog.tag (t : τ) (p : Prog C R α) : Prog (τ × C) (fun c => R c.2) α :=
  p.interpret fun c => Prog.perform (R := fun c : τ × C => R c.2) (t, c)

@[simp] theorem Prog.tag_pure (t : τ) (a : α) :
    (Prog.pure a : Prog C R α).tag t = .pure a := rfl

@[simp] theorem Prog.tag_call (t : τ) (c : C) (k : R c → Prog C R α) :
    (Prog.call c k).tag t = .call (t, c) fun r => (k r).tag t := rfl

/-- A program that has ended in the whole has ended for its party. -/
theorem Prog.eq_pure_of_tag {t : τ} {p : Prog C R α} {a : α} (h : p.tag t = .pure a) :
    p = .pure a := by
  cases p with
  | pure b => exact congrArg Prog.pure (Prog.pure.inj h)
  | call c k => cases h

namespace Pool

section Matches

variable (exec : S → (c : τ × C) → R c.2 × S) (envStep : S → E → S)
  (exec' : A → (c : C) → R c × A) (envStep' : A → F → A)

/-- What happens to the whole is matched by what the party `t` sees. -/
structure Matches (inv : A → Prop) (rel : S → A → Prop) (t : τ) : Prop where
  own : ∀ s a c, inv a → rel s a → ∃ es,
    (exec' (runActs envStep' es a) c).1 = (exec s (t, c)).1 ∧
      rel (exec s (t, c)).2 (exec' (runActs envStep' es a) c).2
  others : ∀ s a t' c, t' ≠ t → inv a → rel s a → ∃ es,
    rel (exec s (t', c)).2 (runActs envStep' es a)
  env : ∀ s a e, inv a → rel s a → ∃ es, rel (envStep s e) (runActs envStep' es a)

end Matches

/-- The threads of one party. -/
abbrev Of (party : ι → τ) (t : τ) : Type := { i : ι // party i = t }

/-- What the party `t` sees of a pool. -/
structure Sees (party : ι → τ) (rel : S → A → Prop) (t : τ)
    (p : Pool S ι (τ × C) (fun c => R c.2) α) (q : Pool A (Of party t) C R α) : Prop where
  store : rel p.store q.store
  threads : ∀ i : Of party t, p.threads i = (q.threads i).tag t

/-- Every thread of a party is tagged as the party's. -/
def Tagged (party : ι → τ) (p : Pool S ι (τ × C) (fun c => R c.2) α) : Prop :=
  ∀ i, ∃ q : Prog C R α, p.threads i = q.tag (party i)

section Run

variable [DecidableEq ι] {exec : S → (c : τ × C) → R c.2 × S} {envStep : S → E → S}
  {exec' : A → (c : C) → R c × A} {envStep' : A → F → A} {inv : A → Prop}
  {rel : S → A → Prop} {party : ι → τ} {t : τ} {p : Pool S ι (τ × C) (fun c => R c.2) α}
  {q : Pool A (Of party t) C R α}

theorem Tagged.step (h : p.Tagged party) (turn : Turn ι E) :
    (p.step exec envStep turn).Tagged party := by
  intro i
  refine threads_step (P := fun i q' => ∃ q : Prog C R α, q' = q.tag (party i)) turn
    (fun j c k _ _ hcall => ?_) i (h i)
  obtain ⟨q, hq⟩ := hcall
  cases q with
  | pure a => cases hq
  | call c' k' =>
    cases hq
    exact ⟨_, rfl⟩

/-- Steps of the environment leave the threads of a pool alone. -/
theorem runActs_env (es : List F) (q : Pool A ι C R α) :
    runActs (fun q turn => q.step exec' envStep' turn) (es.map Turn.env) q =
      { q with store := runActs envStep' es q.store } := by
  induction es generalizing q with
  | nil => rfl
  | cons e es ih => exact ih _

/-- The environment moves, and nobody else does. -/
theorem Sees.env (h : p.Sees party rel t q) {p' : Pool S ι (τ × C) (fun c => R c.2) α}
    {es : List F} (hstore : rel p'.store (runActs envStep' es q.store))
    (hthreads : ∀ i : Of party t, p'.threads i = p.threads i) :
    p'.Sees party rel t
      (runActs (fun q turn => q.step exec' envStep' turn) (es.map Turn.env) q) := by
  rw [runActs_env]
  exact ⟨hstore, fun i => (hthreads i).trans (h.threads i)⟩

/-- One turn of the whole. -/
theorem Sees.step (hM : Matches exec envStep exec' envStep' inv rel t)
    (h : p.Sees party rel t q) (htagged : p.Tagged party) (hinv : inv q.store)
    (turn : Turn ι E) :
    ∃ turns, (p.step exec envStep turn).Sees party rel t
      (runActs (fun q turn => q.step exec' envStep' turn) turns q) := by
  cases turn with
  | env e =>
    obtain ⟨es, hes⟩ := hM.env p.store q.store e hinv h.store
    exact ⟨_, h.env hes fun _ => rfl⟩
  | thread i =>
    by_cases ht : party i = t
    · -- the party's own command
      have hi := h.threads ⟨i, ht⟩
      cases hq : q.threads ⟨i, ht⟩ with
      | pure a =>
        rw [hq] at hi
        refine ⟨[], ?_⟩
        rw [step_ended (i := i) hi]
        exact h
      | call c k =>
        rw [hq, Prog.tag_call] at hi
        obtain ⟨es, hreply, hes⟩ := hM.own p.store q.store c hinv h.store
        refine ⟨es.map Turn.env ++ [.thread ⟨i, ht⟩], ?_⟩
        rw [runActs_append, runActs_env, runActs_cons, runActs_nil, step_thread (i := i) hi]
        rw [step_thread (p := { q with store := runActs envStep' es q.store }) hq]
        refine ⟨hes, fun j => ?_⟩
        by_cases hj : j = ⟨i, ht⟩
        · subst hj
          simp only [Function.update_self, hreply]
        · have hne : (j : ι) ≠ i := fun heq => hj (Subtype.ext heq)
          simp only [Function.update_of_ne hj, Function.update_of_ne hne]
          exact h.threads j
    · obtain ⟨body, hbody⟩ := htagged i
      cases body with
      | pure a =>
        refine ⟨[], ?_⟩
        rw [step_ended hbody]
        exact h
      | call c k =>
        rw [Prog.tag_call] at hbody
        rw [step_thread hbody]
        obtain ⟨es, hes⟩ := hM.others p.store q.store (party i) c ht hinv h.store
        refine ⟨_, h.env hes fun j => Function.update_of_ne ?_ _ _⟩
        rintro rfl
        exact ht j.2

/-- Any number of turns. -/
theorem Sees.run (hM : Matches exec envStep exec' envStep' inv rel t)
    (hinv : ∀ turns : List (Turn (Of party t) F),
      inv (runActs (fun q turn => q.step exec' envStep' turn) turns q).store)
    (turns : List (Turn ι E)) (h : p.Sees party rel t q) (htagged : p.Tagged party) :
    ∃ turns', (runActs (fun p turn => p.step exec envStep turn) turns p).Sees party rel t
      (runActs (fun q turn => q.step exec' envStep' turn) turns' q) := by
  induction turns generalizing p q with
  | nil => exact ⟨[], h⟩
  | cons turn turns ih =>
    obtain ⟨first, hfirst⟩ := h.step hM htagged (hinv []) turn
    obtain ⟨rest, hrest⟩ := ih (fun turns => by rw [← runActs_append]; exact hinv _) hfirst
      (htagged.step turn)
    refine ⟨first ++ rest, ?_⟩
    rw [runActs_append]
    exact hrest

end Run

end Pool

/-! ## Unreliable calls -/

namespace Unreliable

variable {failure : (c : C) → R c → Prop}

/-- A call that does what the party's own call does, or fails and does nothing, is matched
    by the party's own call with some delivery. -/
theorem exists_delivery {exec : S → (c : τ × C) → R c.2 × S} {exec' : A → (c : C) → R c × A}
    {rel : S → A → Prop} {t : τ}
    (s : Unreliable S (C := τ × C) (R := fun c => R c.2) fun c reply => failure c.2 reply)
    (a : Unreliable A failure) (c : C) (hrel : rel s.store a.store)
    (h : ((exec s.store (t, c)).1 = (exec' a.store c).1 ∧
        rel (exec s.store (t, c)).2 (exec' a.store c).2) ∨
      (failure c (exec s.store (t, c)).1 ∧ (exec s.store (t, c)).2 = s.store)) :
    ∃ delivery : (c : C) → Delivery (failure c),
      (Unreliable.exec exec' { a with delivery } c).1 = (Unreliable.exec exec s (t, c)).1 ∧
      rel (Unreliable.exec exec s (t, c)).2.store
        (Unreliable.exec exec' { a with delivery } c).2.store := by
  classical
  -- it is enough to say what becomes of this call
  suffices hone : ∃ one : Delivery (failure c), ∀ delivery : (c : C) → Delivery (failure c),
      delivery c = one →
        (Unreliable.exec exec' { a with delivery } c).1 = (Unreliable.exec exec s (t, c)).1 ∧
          rel (Unreliable.exec exec s (t, c)).2.store
            (Unreliable.exec exec' { a with delivery } c).2.store by
    obtain ⟨one, hone⟩ := hone
    exact ⟨Function.update a.delivery c one, hone _ (Function.update_self ..)⟩
  unfold Unreliable.exec
  cases hdelivery : s.delivery (t, c) with
  | answered =>
    rcases h with ⟨hreply, hafter⟩ | ⟨hfails, hsame⟩
    · exact ⟨.answered, fun delivery hone => by
        simp only [hone]
        exact ⟨hreply.symm, hafter⟩⟩
    · exact ⟨.lost _ hfails, fun delivery hone => by
        simp only [hone, hsame]
        exact ⟨trivial, hrel⟩⟩
  | lost reply fails =>
    exact ⟨.lost reply fails, fun delivery hone => by
      simp only [hone]
      exact ⟨trivial, hrel⟩⟩
  | replyLost reply fails =>
    rcases h with ⟨-, hafter⟩ | ⟨-, hsame⟩
    · exact ⟨.replyLost reply fails, fun delivery hone => by
        simp only [hone]
        exact ⟨trivial, hafter⟩⟩
    · exact ⟨.lost reply fails, fun delivery hone => by
        simp only [hone, hsame]
        exact ⟨trivial, hrel⟩⟩

end Unreliable

end Interaction
