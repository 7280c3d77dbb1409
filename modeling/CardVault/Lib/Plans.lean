import CardVault.Lib.Runs
import Mathlib.Tactic.SplitIfs

/-!
# Programs that write by a plan

A command with its reply is *quiet* when it has no part in the plan of a program:
a read, or a write that did not take effect. The other commands a program issues
are, in order, the start of a list that its `plan` allows.

Main results:

* `Prog.Issues.quietly`, `Prog.follows_perform`: quiet programs, and one command
  of the plan.
* `Pool.Follows.step`: the threads of a pool go on following their plans.
-/

namespace Interaction

namespace Prog

section Follows

variable {C : Type} {R : C → Type} {α β ε : Type}

/-- What has been done of a plan after one more command. -/
def note (quiet : (c : C) → R c → Bool) (done : List C) (c : C) (reply : R c) : List C :=
  if quiet c reply then done else done ++ [c]

variable (quiet : (c : C) → R c → Bool) (fact : (c : C) → R c → Prop) (plan : List C → Prop)

/-- With `done` behind it, the program issues commands that are quiet whatever
    the reply, and commands that a list of the plan goes on with. Replies meet
    `fact`. -/
def Follows (p : Prog C R α) (Q : α → List C → Prop) (done : List C) : Prop :=
  p.wp (fun done c => (∀ reply, quiet c reply = true) ∨ ∃ rest, plan (done ++ c :: rest))
    (fun done c reply done' => fact c reply ∧ done' = note quiet done c reply) Q done

variable {quiet fact plan} {done : List C}

theorem Follows.mono {p : Prog C R α} {Q Q' : α → List C → Prop}
    (h : p.Follows quiet fact plan Q done) (hQ : ∀ a done', Q a done' → Q' a done') :
    p.Follows quiet fact plan Q' done := wp_mono h hQ

theorem Follows.bind {p : Prog C R α} {f : α → Prog C R β} {Q : β → List C → Prop}
    (h : p.Follows quiet fact plan (fun a => (f a).Follows quiet fact plan Q) done) :
    (p.bind f).Follows quiet fact plan Q done := (wp_bind p f Q done).2 h

/-- The rule for `?`: an error ends the program. -/
theorem Follows.andThen {p : Prog C R (Except ε α)} {f : α → Prog C R (Except ε β)}
    {Q : Except ε β → List C → Prop}
    (h : p.Follows quiet fact plan (fun reply done' => match reply with
      | .ok a => (f a).Follows quiet fact plan Q done'
      | .error e => Q (.error e) done') done) :
    (p.andThen f).Follows quiet fact plan Q done := (wp_andThen p f Q done).2 h

theorem Follows.mapResult {p : Prog C R α} {f : α → β} {Q : β → List C → Prop}
    (h : p.Follows quiet fact plan (fun a => Q (f a)) done) :
    (p.mapResult f).Follows quiet fact plan Q done := (wp_mapResult f p Q done).2 h

/-- A command of the plan. -/
theorem follows_perform {c : C} {rest : List C} (h : plan (done ++ c :: rest))
    {Q : R c → List C → Prop} (hQ : ∀ reply, fact c reply → Q reply (note quiet done c reply)) :
    (perform c : Prog C R (R c)).Follows quiet fact plan Q done :=
  ⟨Or.inr ⟨rest, h⟩, fun reply _ hnext => hnext.2 ▸ hQ reply hnext.1⟩

/-- A command of the plan that is never quiet. -/
theorem follows_loud {c : C} {rest : List C} (hloud : ∀ reply, quiet c reply = false)
    (h : plan (done ++ c :: rest)) {Q : R c → List C → Prop}
    (hQ : ∀ reply, Q reply (done ++ [c])) :
    (perform c : Prog C R (R c)).Follows quiet fact plan Q done := by
  refine follows_perform h fun reply _ => ?_
  rw [note, if_neg (by rw [hloud]; exact Bool.false_ne_true)]
  exact hQ reply

/-- A program that only issues quiet commands gets nothing done. -/
theorem Issues.quietly {p : Prog C R α} (h : p.Issues fun c => ∀ reply, quiet c reply = true)
    {Q : α → List C → Prop} (hQ : ∀ a, Q a done) : p.Follows quiet fact plan Q done := by
  induction p with
  | pure a => exact hQ a
  | call c k ih =>
    refine ⟨Or.inl h.1, fun reply done' hnext => ?_⟩
    rw [hnext.2, note, if_pos (h.1 reply)]
    exact ih reply (h.2 reply trivial)

end Follows

end Prog

/-! ## Where a plan stands -/

section Stands

variable {C : Type} {done rest l : List C} {a b c : C}

/-- The next command of a list is its first one, or comes after the first one. -/
theorem next_of_cons (h : done ++ c :: rest = a :: l) :
    done = [] ∧ c = a ∧ rest = l ∨ ∃ done', done = a :: done' ∧ done' ++ c :: rest = l := by
  cases done with
  | nil =>
    obtain ⟨rfl, rfl⟩ := List.cons.inj h
    exact Or.inl ⟨rfl, rfl, rfl⟩
  | cons d done' =>
    obtain ⟨rfl, hl⟩ := List.cons.inj h
    exact Or.inr ⟨done', rfl, hl⟩

theorem next_of_singleton (h : done ++ c :: rest = [a]) : done = [] ∧ c = a := by
  obtain ⟨hnil, hc, -⟩ | ⟨done', -, hno⟩ := next_of_cons h
  · exact ⟨hnil, hc⟩
  · simp at hno

theorem next_of_pair (h : done ++ c :: rest = [a, b]) :
    done = [] ∧ c = a ∨ done = [a] ∧ c = b := by
  obtain ⟨hnil, hc, -⟩ | ⟨done', rfl, hl⟩ := next_of_cons h
  · exact Or.inl ⟨hnil, hc⟩
  · obtain ⟨rfl, hc⟩ := next_of_singleton hl
    exact Or.inr ⟨rfl, hc⟩

end Stands

/-! ## Pools -/

namespace Pool

variable {S ι C E : Type} {R : C → Type} {α : Type} [DecidableEq ι]
  {exec : S → (c : C) → R c × S} {envStep : S → E → S}
  {quiet : (c : C) → R c → Bool} {fact : (c : C) → R c → Prop} {plan : ι → List C → Prop}
  {Q : ι → α → List C → Prop}

/-- Every thread follows its plan; `done` is what it has done of it. -/
structure Follows (quiet : (c : C) → R c → Bool) (fact : (c : C) → R c → Prop)
    (plan : ι → List C → Prop) (Q : ι → α → List C → Prop) (p : Pool S ι C R α)
    (done : ι → List C) : Prop where
  threads : ∀ i, (p.threads i).Follows quiet fact (plan i) (Q i) (done i)
  /-- Everything done is in the history. -/
  issued : ∀ i, ∀ c ∈ done i, (i, c) ∈ p.history
  /-- So is nothing else, quiet commands apart. -/
  noted : ∀ i c, (i, c) ∈ p.history → (∀ reply, quiet c reply = false) → c ∈ done i

omit [DecidableEq ι] in
/-- Threads that have not begun. -/
theorem follows_start {store : S} {threads : ι → Prog C R α}
    (h : ∀ i, (threads i).Follows quiet fact (plan i) (Q i) []) :
    Follows quiet fact plan Q (⟨store, threads, []⟩ : Pool S ι C R α) fun _ => [] where
  threads := h
  issued _ _ hc := nomatch hc
  noted _ _ hc := nomatch hc

omit [DecidableEq ι] in
/-- A thread that has ended has done what it is to do. -/
theorem Follows.ended {p : Pool S ι C R α} {done : ι → List C}
    (h : Follows quiet fact plan Q p done) {i : ι} {a : α} (hi : p.threads i = .pure a) :
    Q i a (done i) := by
  have hfollows := h.threads i
  rwa [hi] at hfollows

/-- A thread takes a turn: its command is quiet, or the next one of its plan, and
    afterwards all threads follow their plans. -/
theorem Follows.step (envStep : S → E → S) {p : Pool S ι C R α} {done : ι → List C}
    (h : Follows quiet fact plan Q p done) {i : ι} {c : C} {k : R c → Prog C R α}
    (hi : p.threads i = .call c k) (hfact : fact c (exec p.store c).1) :
    ((∀ reply, quiet c reply = true) ∨ ∃ rest, plan i (done i ++ c :: rest)) ∧
      Follows quiet fact plan Q (p.step exec envStep (.thread i : Turn ι E))
        (Function.update done i (Prog.note quiet (done i) c (exec p.store c).1)) := by
  have hw : _ ∧ ∀ y, _ → (k (exec p.store c).1).wp _ _ (Q i) y := wp_step hi (h.threads i)
  obtain ⟨hallowed, hnext⟩ := hw
  refine ⟨hallowed, ?_⟩
  rw [step_thread hi]
  refine ⟨fun j => ?_, fun j c' hc' => ?_, fun j c' hc' hloud => ?_⟩
  · by_cases hj : j = i
    · subst hj
      simp only [Function.update_self]
      exact hnext _ ⟨hfact, rfl⟩
    · simp only [Function.update_of_ne hj]
      exact h.threads j
  · by_cases hj : j = i
    · subst hj
      rw [Function.update_self, Prog.note] at hc'
      split_ifs at hc' with hquiet
      · exact List.mem_cons_of_mem _ (h.issued j c' hc')
      · rcases List.mem_append.1 hc' with hold | hnew
        · exact List.mem_cons_of_mem _ (h.issued j c' hold)
        · rw [List.mem_singleton.1 hnew]
          exact List.mem_cons_self
    · rw [Function.update_of_ne hj] at hc'
      exact List.mem_cons_of_mem _ (h.issued j c' hc')
  · rcases List.mem_cons.1 hc' with hnew | hold
    · obtain ⟨rfl, rfl⟩ := Prod.mk.inj hnew
      rw [Function.update_self, Prog.note, if_neg (by rw [hloud]; exact Bool.false_ne_true)]
      exact List.mem_append_right _ (List.mem_singleton_self _)
    · by_cases hj : j = i
      · subst hj
        rw [Function.update_self, Prog.note]
        split_ifs
        · exact h.noted j c' hold hloud
        · exact List.mem_append_left _ (h.noted j c' hold hloud)
      · rw [Function.update_of_ne hj]
        exact h.noted j c' hold hloud

end Pool

end Interaction
