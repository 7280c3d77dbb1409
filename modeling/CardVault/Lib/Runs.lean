import CardVault.Lib.Prog
import Mathlib.Algebra.GroupWithZero.Nat

/-!
# Runs of a transition function, and pools of interleaved programs

A system is a step function `step : S → A → S`; a run is a list of actions.
`Good ok acts s` says that every action of the run meets the condition `ok` in
the state it is taken in.

A `Pool` interleaves programs over one shared state, one command at a time:
`Turn.thread i` lets thread `i` issue its next command, `Turn.env e` is a step
of the environment. The pool keeps the history of the commands issued.

Main results:

* `run_invariant`, `Good.of_invariant`: what every good step keeps holds after every
  good run, and what follows from it of every step.
* `Pool.step_thread`: what one turn of a thread does, by cases.
* `Pool.wp_step`: a thread's weakest precondition moves along with its turns.
* `Pool.meets_step`, `Pool.meets_nextCommand`: threads keep to their specification.
* `Pool.ended_of_turns`: a thread ends once it has had enough turns.
-/

namespace Interaction

section Runs

variable {S A : Type} (step : S → A → S)

/-- The state after a list of actions. -/
def runActs (acts : List A) (s : S) : S := acts.foldl step s

/-- Every action of the run meets `ok` in the state it is taken in. -/
def Good (ok : S → A → Prop) : List A → S → Prop
  | [], _ => True
  | a :: acts, s => ok s a ∧ Good ok acts (step s a)

instance Good.decidable {ok : S → A → Prop} [∀ s a, Decidable (ok s a)] :
    ∀ acts s, Decidable (Good step ok acts s)
  | [], _ => isTrue trivial
  | a :: acts, s =>
    have : Decidable (Good step ok acts (step s a)) := Good.decidable acts (step s a)
    inferInstanceAs (Decidable (ok s a ∧ Good step ok acts (step s a)))

@[simp] theorem runActs_nil (s : S) : runActs step [] s = s := rfl

@[simp] theorem runActs_cons (a : A) (acts : List A) (s : S) :
    runActs step (a :: acts) s = runActs step acts (step s a) := rfl

theorem runActs_append (as bs : List A) (s : S) :
    runActs step (as ++ bs) s = runActs step bs (runActs step as s) := by
  simp [runActs]

variable {step}

/-- What every step that meets the condition keeps holds after every run whose
    steps all meet it. -/
theorem run_invariant {ok : S → A → Prop} {I : S → Prop}
    (hstep : ∀ s a, I s → ok s a → I (step s a)) :
    ∀ acts s, I s → Good step ok acts s → I (runActs step acts s) := by
  intro acts
  induction acts with
  | nil => intro s hs _; exact hs
  | cons a acts ih =>
    intro s hs hgood
    exact ih (step s a) (hstep s a hs hgood.1) hgood.2

/-- The later part of a run. -/
theorem Good.of_append {ok : S → A → Prop} {bs : List A} :
    ∀ {as s}, Good step ok (as ++ bs) s → Good step ok bs (runActs step as s) := by
  intro as
  induction as with
  | nil => intro s h; exact h
  | cons a as ih => intro s h; exact ih h.2

/-- Where a step that meets `ok` keeps the invariant and meets `ok'`, every step of a run
    does. -/
theorem Good.of_invariant {ok ok' : S → A → Prop} {I : S → Prop}
    (hstep : ∀ s a, I s → ok s a → ok' s a ∧ I (step s a)) :
    ∀ acts s, I s → Good step ok acts s → Good step ok' acts s := by
  intro acts
  induction acts with
  | nil => intro s _ _; trivial
  | cons a acts ih =>
    intro s hs hgood
    obtain ⟨hok', hnext⟩ := hstep s a hs hgood.1
    exact ⟨hok', ih (step s a) hnext hgood.2⟩

/-- A run that meets two conditions meets both at every step. -/
theorem Good.and {ok ok' : S → A → Prop} :
    ∀ {acts s}, Good step ok acts s → Good step ok' acts s →
      Good step (fun s a => ok s a ∧ ok' s a) acts s := by
  intro acts
  induction acts with
  | nil => intro s _ _; trivial
  | cons a acts ih =>
    intro s h h'
    exact ⟨⟨h.1, h'.1⟩, ih h.2 h'.2⟩

theorem good_true (acts : List A) (s : S) : Good step (fun _ _ => True) acts s := by
  induction acts generalizing s with
  | nil => trivial
  | cons a acts ih => exact ⟨trivial, ih _⟩

end Runs

/-! ## Pools -/

/-- Programs over one shared state `S`, with the history of the commands they
    have issued, the latest first. -/
structure Pool (S ι C : Type) (R : C → Type) (α : Type) where
  store : S
  threads : ι → Prog C R α
  history : List (ι × C)

/-- One turn of a pool: a thread issues its next command, or the environment
    takes a step of its own. -/
inductive Turn (ι E : Type) where
  | thread (i : ι)
  | env (e : E)
  deriving DecidableEq

/-- How many turns of a list are turns of thread `i`. -/
def Turn.countThread {ι E : Type} [DecidableEq ι] (i : ι) : List (Turn ι E) → ℕ
  | [] => 0
  | .thread j :: turns => if j = i then countThread i turns + 1 else countThread i turns
  | .env _ :: turns => countThread i turns

/-! The threads of a small pool are numerals of `Fin`. These instances are constants, so that
    a numeral is one term wherever it is written. -/

instance neZeroTwo : NeZero 2 := ⟨Nat.succ_ne_zero _⟩

instance neZeroThree : NeZero 3 := ⟨Nat.succ_ne_zero _⟩

instance neZeroFour : NeZero 4 := ⟨Nat.succ_ne_zero _⟩

namespace Pool

variable {S ι C E : Type} {R : C → Type} {α : Type} [DecidableEq ι]
variable (exec : S → (c : C) → R c × S) (envStep : S → E → S)

/-- The command thread `i` issues next, if it has not ended. -/
def nextCommand (p : Pool S ι C R α) (i : ι) : Option C :=
  match p.threads i with
  | .pure _ => none
  | .call c _ => some c

/-- One turn. A thread that has ended does nothing. -/
def step (p : Pool S ι C R α) : Turn ι E → Pool S ι C R α
  | .thread i =>
    match p.threads i with
    | .pure _ => p
    | .call c k =>
      { store := (exec p.store c).2
        threads := Function.update p.threads i (k (exec p.store c).1)
        history := (i, c) :: p.history }
  | .env e => { p with store := envStep p.store e }

variable {exec envStep}

/-- A turn of thread `i`, when its program is known. -/
theorem step_thread {p : Pool S ι C R α} {i : ι} {c : C} {k : R c → Prog C R α}
    (h : p.threads i = .call c k) :
    p.step exec envStep (.thread i) =
      { store := (exec p.store c).2
        threads := Function.update p.threads i (k (exec p.store c).1)
        history := (i, c) :: p.history } := by
  simp only [step, h]

theorem step_ended {p : Pool S ι C R α} {i : ι} {a : α} (h : p.threads i = .pure a) :
    p.step exec envStep (.thread i) = p := by
  simp only [step, h]

/-- A turn of one thread leaves the others where they are. -/
theorem step_threads_of_ne {i j : ι} (hij : j ≠ i) (p : Pool S ι C R α) :
    (p.step exec envStep (.thread i : Turn ι E)).threads j = p.threads j := by
  cases hi : p.threads i with
  | pure a => rw [step_ended hi]
  | call c k =>
    rw [step_thread hi]
    exact Function.update_of_ne hij ..

@[simp] theorem step_env (p : Pool S ι C R α) (e : E) :
    p.step exec envStep (.env e) = { p with store := envStep p.store e } := rfl

omit [DecidableEq ι] in
/-- A thread whose weakest precondition holds in the abstract state `x` may
    issue its next command there, and its weakest precondition holds again in
    every abstract state the reply leads to. -/
theorem wp_step {σ : Type} {ok : σ → C → Prop} {next : σ → (c : C) → R c → σ → Prop}
    {Q : α → σ → Prop} {p : Pool S ι C R α} {i : ι} {c : C} {k : R c → Prog C R α} {x : σ}
    (h : p.threads i = .call c k) (hw : (p.threads i).wp ok next Q x) :
    ok x c ∧ ∀ y, next x c (exec p.store c).1 y → (k (exec p.store c).1).wp ok next Q y := by
  rw [h] at hw
  exact ⟨hw.1, fun y hy => hw.2 _ y hy⟩

/-! ### Commands of the threads -/

omit [DecidableEq ι] in
theorem nextCommand_eq_some {p : Pool S ι C R α} {i : ι} {c : C} (h : p.nextCommand i = some c) :
    ∃ k, p.threads i = .call c k := by
  unfold nextCommand at h
  split at h
  · cases h
  · rename_i c' k hk
    cases h
    exact ⟨k, hk⟩

omit [DecidableEq ι] in
/-- The next command of a thread is one that it may issue. -/
theorem meets_nextCommand {ok : C → Prop} {fact : (c : C) → R c → Prop} {Q : α → Prop}
    {p : Pool S ι C R α} {i : ι} {c : C} (h : (p.threads i).Meets ok fact Q)
    (hc : p.nextCommand i = some c) : ok c := by
  obtain ⟨k, hk⟩ := nextCommand_eq_some hc
  rw [hk] at h
  exact h.1

/-- What holds of a program and goes on to hold after its next reply holds of every
    thread after a turn. -/
theorem threads_step {P : ι → Prog C R α → Prop} {p : Pool S ι C R α} (turn : Turn ι E)
    (hP : ∀ i c k, turn = .thread i → p.threads i = .call c k → P i (.call c k) →
      P i (k (exec p.store c).1))
    (i : ι) (h : P i (p.threads i)) : P i ((p.step exec envStep turn).threads i) := by
  cases turn with
  | env e => exact h
  | thread j =>
    cases hj : p.threads j with
    | pure a =>
      rw [step_ended hj]
      exact h
    | call c k =>
      rw [step_thread hj]
      by_cases hij : i = j
      · subst hij
        rw [hj] at h
        simpa using hP i c k rfl hj h
      · simpa [Function.update_of_ne hij] using h

/-- After a turn whose reply is as expected, every thread still keeps to its
    specification. -/
theorem meets_step {ok : ι → C → Prop} {fact : (c : C) → R c → Prop} {Q : ι → α → Prop}
    {p : Pool S ι C R α} (h : ∀ i, (p.threads i).Meets (ok i) fact (Q i)) (turn : Turn ι E)
    (hreply : ∀ i c, turn = .thread i → p.nextCommand i = some c → fact c (exec p.store c).1)
    (i : ι) : ((p.step exec envStep turn).threads i).Meets (ok i) fact (Q i) := by
  refine threads_step (P := fun i p => p.Meets (ok i) fact (Q i)) turn
    (fun i c k hturn hi hmeets => ?_) i (h i)
  have hnext : p.nextCommand i = some c := by simp only [nextCommand, hi]
  exact hmeets.2 _ (hreply i c hturn hnext)

/-! ### The end of a thread -/

theorem within_step {p : Pool S ι C R α} {i : ι} {n : ℕ} (h : (p.threads i).Within n)
    (turn : Turn ι E) : ((p.step exec envStep turn).threads i).Within n := by
  refine threads_step (P := fun _ p => p.Within n) turn (fun j c k _ _ hcall => ?_) i h
  cases n with
  | zero => exact hcall.elim
  | succ n => exact Prog.Within.mono (hcall _) (Nat.le_succ n)

theorem within_step_thread {p : Pool S ι C R α} {i : ι} {n : ℕ}
    (h : (p.threads i).Within (n + 1)) :
    ((p.step exec envStep (.thread i : Turn ι E)).threads i).Within n := by
  cases hi : p.threads i with
  | pure a =>
    rw [step_ended hi, hi]
    exact Prog.within_pure n a
  | call c k =>
    rw [hi] at h
    rw [step_thread hi]
    simpa using h _

/-- A thread of at most `n` commands has ended once it has had `n` turns. -/
theorem ended_of_turns {i : ι} (turns : List (Turn ι E)) :
    ∀ {p : Pool S ι C R α} {n : ℕ}, (p.threads i).Within n → n ≤ Turn.countThread i turns →
      ∃ a, (runActs (fun p turn => p.step exec envStep turn) turns p).threads i = .pure a := by
  induction turns with
  | nil =>
    intro p n h hn
    obtain rfl : n = 0 := Nat.le_zero.1 hn
    cases hi : p.threads i with
    | pure a => exact ⟨a, hi⟩
    | call c k =>
      rw [hi] at h
      exact h.elim
  | cons turn turns ih =>
    intro p n h hn
    rw [runActs_cons]
    cases turn with
    | env e => exact ih (within_step h _) hn
    | thread j =>
      by_cases hj : j = i
      · subst hj
        rw [Turn.countThread, if_pos rfl] at hn
        cases n with
        | zero => exact ih (within_step h _) (Nat.zero_le _)
        | succ n => exact ih (within_step_thread h) (Nat.le_of_succ_le_succ hn)
      · rw [Turn.countThread, if_neg hj] at hn
        exact ih (within_step h _) hn

end Pool

end Interaction
