import Mathlib.Logic.Relation
import CardVault.Lib.Traces

/-!
# Histories of interleaved programs

Programs that run side by side over a shared state whose answers and whose other
moves are relations: a command may be answered in several ways, and anybody else
may move the state in between. Every thread keeps the trace of what it was told.

The proof method is rely and guarantee. `Guarantee` collects what one answer has to
keep: an invariant of the state, and facts about the exchanges of the threads, which
no later move may spoil. A thread's own obligation is its weakest precondition
against its trace.

Main results:
* `Threads.invariant_of_history`: the invariant and the facts hold in every history.
* `Threads.ended`: what a thread that has ended returned, with its trace.
-/

namespace Interaction

variable {S ι C : Type} {R : C → Type} {α : Type}

/-- Programs over one shared state, each with what it has been told so far, the
    latest last. -/
structure Threads (S ι C : Type) (R : C → Type) (α : Type) where
  store : S
  thread : ι → Prog C R α
  trace : ι → List (Exchange C R)

namespace Threads

/-- All programs at their beginning. -/
def fresh (s : S) (programs : ι → Prog C R α) : Threads S ι C R α :=
  { store := s, thread := programs, trace := fun _ => [] }

variable [DecidableEq ι]

/-- One move: a thread is answered its next command, or the state moves by
    itself. -/
inductive Move (answers : S → (c : C) → R c → S → Prop) (others : S → S → Prop) :
    Threads S ι C R α → Threads S ι C R α → Prop
  | thread {p : Threads S ι C R α} {i : ι} {c : C} {k : R c → Prog C R α} {r : R c} {s : S}
      (hnext : p.thread i = .call c k) (hanswer : answers p.store c r s) :
      Move answers others p
        { store := s
          thread := Function.update p.thread i (k r)
          trace := Function.update p.trace i (p.trace i ++ [⟨c, r⟩]) }
  | others {p : Threads S ι C R α} {s : S} (hmove : others p.store s) :
      Move answers others p { p with store := s }

/-- Any number of moves. -/
abbrev History (answers : S → (c : C) → R c → S → Prop) (others : S → S → Prop) :
    Threads S ι C R α → Threads S ι C R α → Prop :=
  Relation.ReflTransGen (Move answers others)

/-- What every move keeps: an invariant `inv` of the state, and a `fact` about each
    exchange. A thread issues the commands in `ok`, which depends on its trace, and
    relies on `honest` replies. -/
structure Guarantee (answers : S → (c : C) → R c → S → Prop) (others : S → S → Prop)
    (ok : List (Exchange C R) → C → Prop) (honest : (c : C) → R c → Prop) (inv : S → Prop)
    (fact : S → Exchange C R → Prop) : Prop where
  honest_answer : ∀ s t c r s', inv s → ok t c → answers s c r s' → honest c r
  inv_answer : ∀ s t c r s', inv s → (∀ x ∈ t, fact s x) → ok t c → answers s c r s' → inv s'
  fact_answer : ∀ s t c r s', inv s → ok t c → answers s c r s' → fact s' ⟨c, r⟩
  stable_answer : ∀ s c r s' x, inv s → answers s c r s' → fact s x → fact s' x
  inv_others : ∀ s s', inv s → others s s' → inv s'
  stable_others : ∀ s s' x, inv s → others s s' → fact s x → fact s' x

/-- The obligation of a thread: from the trace `t` on it issues commands in `ok`, and
    it ends with a value and a trace in `Q`. -/
abbrev Keeps (ok : List (Exchange C R) → C → Prop) (honest : (c : C) → R c → Prop)
    (p : Prog C R α) (Q : α → List (Exchange C R) → Prop) (t : List (Exchange C R)) : Prop :=
  p.wp ok (fun t c r t' => honest c r ∧ t' = t ++ [⟨c, r⟩]) Q t

/-- The state of affairs in a history: the invariant, the facts about what each thread
    was told, and its obligation. -/
structure Invariant (ok : List (Exchange C R) → C → Prop) (honest : (c : C) → R c → Prop)
    (inv : S → Prop) (fact : S → Exchange C R → Prop)
    (Q : ι → α → List (Exchange C R) → Prop) (p : Threads S ι C R α) : Prop where
  state : inv p.store
  facts : ∀ i, ∀ x ∈ p.trace i, fact p.store x
  keeps : ∀ i, Keeps ok honest (p.thread i) (Q i) (p.trace i)

variable {answers : S → (c : C) → R c → S → Prop} {others : S → S → Prop}
  {ok : List (Exchange C R) → C → Prop} {honest : (c : C) → R c → Prop} {inv : S → Prop}
  {fact : S → Exchange C R → Prop} {Q : ι → α → List (Exchange C R) → Prop}

/-- One move keeps the invariant. -/
theorem Invariant.move (hG : Guarantee answers others ok honest inv fact)
    {p q : Threads S ι C R α} (h : p.Invariant ok honest inv fact Q)
    (hmove : Move answers others p q) : q.Invariant ok honest inv fact Q := by
  cases hmove with
  | others hmove =>
    exact
      { state := hG.inv_others _ _ h.state hmove
        facts := fun i x hx => hG.stable_others _ _ x h.state hmove (h.facts i x hx)
        keeps := h.keeps }
  | @thread i c k r s hnext hanswer =>
    have hkeeps := h.keeps i
    rw [hnext] at hkeeps
    have hhonest := hG.honest_answer _ _ _ _ _ h.state hkeeps.1 hanswer
    have hold : ∀ j, ∀ x ∈ p.trace j, fact s x := fun j x hx =>
      hG.stable_answer _ _ _ _ x h.state hanswer (h.facts j x hx)
    refine ⟨hG.inv_answer _ _ _ _ _ h.state (h.facts i) hkeeps.1 hanswer, fun j x hx => ?_,
      fun j => ?_⟩
    · by_cases hj : j = i
      · subst hj
        simp only [Function.update_self, List.mem_append, List.mem_singleton] at hx
        rcases hx with hx | rfl
        · exact hold j x hx
        · exact hG.fact_answer _ _ _ _ _ h.state hkeeps.1 hanswer
      · simp only [Function.update_of_ne hj] at hx
        exact hold j x hx
    · by_cases hj : j = i
      · subst hj
        simp only [Function.update_self]
        exact hkeeps.2 r _ ⟨hhonest, rfl⟩
      · simp only [Function.update_of_ne hj]
        exact h.keeps j

/-- The invariant and the facts hold in every history. -/
theorem invariant_of_history (hG : Guarantee answers others ok honest inv fact)
    {p q : Threads S ι C R α} (h : p.Invariant ok honest inv fact Q)
    (hrun : History answers others p q) : q.Invariant ok honest inv fact Q := by
  induction hrun with
  | refl => exact h
  | tail _ hmove ih => exact ih.move hG hmove

omit [DecidableEq ι] in
theorem invariant_fresh {s : S} {programs : ι → Prog C R α} (hs : inv s)
    (hkeeps : ∀ i, Keeps ok honest (programs i) (Q i) []) :
    (fresh s programs).Invariant ok honest inv fact Q :=
  { state := hs, facts := fun _ _ hx => (nomatch hx), keeps := hkeeps }

omit [DecidableEq ι] in
/-- What a thread that has ended returned, with its trace. -/
theorem Invariant.ended {p : Threads S ι C R α} (h : p.Invariant ok honest inv fact Q) {i : ι}
    {a : α} (hended : p.thread i = .pure a) : Q i a (p.trace i) := by
  have hkeeps := h.keeps i
  rw [hended] at hkeeps
  exact hkeeps

end Threads

end Interaction
