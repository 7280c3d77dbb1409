import Mathlib.Logic.Basic
import Mathlib.Logic.Function.Basic
import Mathlib.Data.Nat.Notation

/-!
# Interaction programs

`Prog C R α` is a sequential program that talks to its environment through
commands `c : C`, each answered by a reply of type `R c`, and that ends with a
value of type `α`. One program text has several meanings:

* `Prog.run exec` runs it to its end against a state, one command after the
  other, with nothing in between;
* `Prog.wp ok next` is its weakest precondition against a protocol: `ok x c`
  says which commands are allowed in the abstract state `x`, and `next x c r y`
  which abstract states the reply `r` may lead to.

Main results:

* `run_bind`, `run_andThen`: a run follows the structure of the program; with
  `run_bind_of`, `run_andThen_ok` and the like for a part whose run is known.
* `run_preserves`: what every command keeps, a run keeps.
* `wp_bind`, `wp_andThen`, `wp_mono`: the rules of the weakest precondition.
* `wp_run`: a weakest precondition against a protocol that simulates `exec`
  holds of every run.
* `Meets.bind`, `Meets.andThen`, `Meets.mapResult`: the rules for what a program
  does as long as the replies are as expected; `Meets.run_lift` for a program that
  runs in two environments.
* `Within.bind`, `Within.andThen`: how many commands a program issues at most.
* `meets_tryJoinAll`: programs that run side by side.
-/

namespace Interaction

/-- Programs over the commands `C` with replies `R`. -/
inductive Prog (C : Type) (R : C → Type) (α : Type) where
  /-- The program has ended with `a`. -/
  | pure (a : α)
  /-- The program issues `c` and goes on with the reply. -/
  | call (c : C) (k : R c → Prog C R α)

namespace Prog

variable {C : Type} {R : C → Type} {α β γ ε ε' : Type}

/-- Run `p`, then `f` on its value. -/
def bind : Prog C R α → (α → Prog C R β) → Prog C R β
  | .pure a, f => f a
  | .call c k, f => .call c fun r => (k r).bind f

instance : Monad (Prog C R) where
  pure := Prog.pure
  bind := Prog.bind

/-- A single command. -/
def perform (c : C) : Prog C R (R c) := .call c .pure

/-- Run `p` and stop at its error, or go on with its value. -/
def andThen (p : Prog C R (Except ε α)) (f : α → Prog C R (Except ε β)) :
    Prog C R (Except ε β) :=
  p.bind fun
    | .ok a => f a
    | .error e => .pure (.error e)

/-- Change the value a program ends with. -/
def mapResult (f : α → β) (p : Prog C R α) : Prog C R β := p.bind fun a => .pure (f a)

/-- The value of a program that has ended. -/
def result : Prog C R α → Option α
  | .pure a => some a
  | .call _ _ => none

theorem eq_pure_of_result {p : Prog C R α} {a : α} (h : p.result = some a) : p = .pure a := by
  cases p with
  | pure b => exact congrArg Prog.pure (Option.some.inj h)
  | call c k => cases h

@[simp] theorem monad_pure (a : α) : (Pure.pure a : Prog C R α) = .pure a := rfl

@[simp] theorem monad_bind (p : Prog C R α) (f : α → Prog C R β) : p >>= f = p.bind f := rfl

@[simp] theorem call_bind (c : C) (k : R c → Prog C R α) (f : α → Prog C R β) :
    (Prog.call c k).bind f = .call c fun r => (k r).bind f := rfl

@[simp] theorem perform_bind (c : C) (f : R c → Prog C R β) : (perform c).bind f = .call c f := rfl

@[simp] theorem pure_ok_andThen (a : α) (f : α → Prog C R (Except ε β)) :
    (Prog.pure (.ok a)).andThen f = f a := rfl

@[simp] theorem pure_error_andThen (e : ε) (f : α → Prog C R (Except ε β)) :
    (Prog.pure (.error e)).andThen f = .pure (.error e) := rfl

theorem bind_assoc (p : Prog C R α) (f : α → Prog C R β) (g : β → Prog C R γ) :
    (p.bind f).bind g = p.bind fun a => (f a).bind g := by
  induction p with
  | pure a => rfl
  | call c k ih =>
    simp only [call_bind]
    congr 1
    funext r
    exact ih r

/-! ## Running a program -/

section Run

variable {S : Type} (exec : S → (c : C) → R c × S)

/-- Run a program from the state `s`: its value and the state it leaves. -/
def run : Prog C R α → S → α × S
  | .pure a, s => (a, s)
  | .call c k, s => (k (exec s c).1).run (exec s c).2

@[simp] theorem run_pure (a : α) (s : S) : (Prog.pure a : Prog C R α).run exec s = (a, s) := rfl

@[simp] theorem run_call (c : C) (k : R c → Prog C R α) (s : S) :
    (Prog.call c k).run exec s = (k (exec s c).1).run exec (exec s c).2 := rfl

@[simp] theorem run_perform (c : C) (s : S) :
    (perform c : Prog C R (R c)).run exec s = exec s c := rfl

theorem run_bind (p : Prog C R α) (f : α → Prog C R β) (s : S) :
    (p.bind f).run exec s = (f (p.run exec s).1).run exec (p.run exec s).2 := by
  induction p generalizing s with
  | pure a => rfl
  | call c k ih => exact ih _ _

theorem run_andThen (p : Prog C R (Except ε α)) (f : α → Prog C R (Except ε β)) (s : S) :
    (p.andThen f).run exec s =
      match (p.run exec s).1 with
      | .ok a => (f a).run exec (p.run exec s).2
      | .error e => (.error e, (p.run exec s).2) := by
  rw [andThen, run_bind]
  split <;> simp_all

theorem run_mapResult (f : α → β) (p : Prog C R α) (s : S) :
    (p.mapResult f).run exec s = (f (p.run exec s).1, (p.run exec s).2) := by
  rw [mapResult, run_bind, run_pure]

section Steps

variable {exec} {s s' : S}

theorem run_bind_of {p : Prog C R α} {a : α} (h : p.run exec s = (a, s'))
    (f : α → Prog C R β) : (p.bind f).run exec s = (f a).run exec s' := by
  rw [run_bind, h]

theorem run_andThen_ok {p : Prog C R (Except ε α)} {a : α} (h : p.run exec s = (.ok a, s'))
    (f : α → Prog C R (Except ε β)) : (p.andThen f).run exec s = (f a).run exec s' := by
  rw [run_andThen, h]

theorem run_andThen_error {p : Prog C R (Except ε α)} {e : ε} (h : p.run exec s = (.error e, s'))
    (f : α → Prog C R (Except ε β)) : (p.andThen f).run exec s = (.error e, s') := by
  rw [run_andThen, h]

/-- A run of `p.andThen f` that ends well has gone through `p`. -/
theorem run_andThen_eq_ok {p : Prog C R (Except ε α)} {f : α → Prog C R (Except ε β)} {b : β}
    (h : (p.andThen f).run exec s = (.ok b, s')) :
    ∃ a t, p.run exec s = (.ok a, t) ∧ (f a).run exec t = (.ok b, s') := by
  rw [run_andThen] at h
  cases hp : (p.run exec s).1 with
  | ok a =>
    rw [hp] at h
    exact ⟨a, _, Prod.ext hp rfl, h⟩
  | error e =>
    rw [hp] at h
    cases congrArg Prod.fst h

theorem run_mapResult_of {p : Prog C R α} {a : α} (h : p.run exec s = (a, s')) (f : α → β) :
    (p.mapResult f).run exec s = (f a, s') := by
  rw [run_mapResult, h]

/-- An error that is changed on the way is an error still. -/
theorem run_mapError_eq_ok {p : Prog C R (Except ε α)} {f : ε → ε'} {a : α}
    (h : (p.mapResult (Except.mapError f)).run exec s = (.ok a, s')) :
    p.run exec s = (.ok a, s') := by
  rw [run_mapResult] at h
  cases hp : (p.run exec s).1 with
  | ok b =>
    rw [hp] at h
    obtain ⟨hanswer, hstate⟩ := Prod.mk.inj h
    obtain rfl := Except.ok.inj hanswer
    exact Prod.ext hp hstate
  | error e =>
    rw [hp] at h
    cases congrArg Prod.fst h

end Steps

/-- What every command keeps, a run keeps. -/
theorem run_preserves {I : S → Prop} (hexec : ∀ s c, I s → I (exec s c).2) (p : Prog C R α)
    {s : S} (hs : I s) : I (p.run exec s).2 := by
  induction p generalizing s with
  | pure a => exact hs
  | call c k ih => exact ih _ (hexec s c hs)

end Run

/-! ## Weakest preconditions -/

section Wp

variable {σ : Type} (ok : σ → C → Prop) (next : σ → (c : C) → R c → σ → Prop)

/-- From the abstract state `x`, every command `p` issues is allowed, whatever
    the replies, and `p` ends in a state with the postcondition `Q`. -/
def wp : Prog C R α → (α → σ → Prop) → σ → Prop
  | .pure a, Q, x => Q a x
  | .call c k, Q, x => ok x c ∧ ∀ r y, next x c r y → (k r).wp Q y

variable {ok next}

@[simp] theorem wp_pure (a : α) (Q : α → σ → Prop) (x : σ) :
    (Prog.pure a : Prog C R α).wp ok next Q x ↔ Q a x := Iff.rfl

@[simp] theorem wp_call (c : C) (k : R c → Prog C R α) (Q : α → σ → Prop) (x : σ) :
    (Prog.call c k).wp ok next Q x ↔ ok x c ∧ ∀ r y, next x c r y → (k r).wp ok next Q y := Iff.rfl

theorem wp_mono {p : Prog C R α} {Q Q' : α → σ → Prop} {x : σ} (h : p.wp ok next Q x)
    (hQ : ∀ a y, Q a y → Q' a y) : p.wp ok next Q' x := by
  induction p generalizing x with
  | pure a => exact hQ _ _ h
  | call c k ih => exact ⟨h.1, fun r y hn => ih r (h.2 r y hn)⟩

theorem wp_bind (p : Prog C R α) (f : α → Prog C R β) (Q : β → σ → Prop) (x : σ) :
    (p.bind f).wp ok next Q x ↔ p.wp ok next (fun a y => (f a).wp ok next Q y) x := by
  induction p generalizing x with
  | pure a => rfl
  | call c k ih => simp only [call_bind, wp_call, ih]

theorem wp_andThen (p : Prog C R (Except ε α)) (f : α → Prog C R (Except ε β))
    (Q : Except ε β → σ → Prop) (x : σ) :
    (p.andThen f).wp ok next Q x ↔
      p.wp ok next (fun r y =>
        match r with
        | .ok a => (f a).wp ok next Q y
        | .error e => Q (.error e) y) x := by
  rw [andThen, wp_bind]
  constructor <;> intro h <;> refine wp_mono h fun r y hr => ?_ <;> cases r <;> exact hr

theorem wp_mapResult (f : α → β) (p : Prog C R α) (Q : β → σ → Prop) (x : σ) :
    (p.mapResult f).wp ok next Q x ↔ p.wp ok next (fun a y => Q (f a) y) x := by
  rw [mapResult, wp_bind]
  rfl

/-- A run stays inside a protocol that simulates its environment: `Rel s x`
    links the states, and every allowed command keeps them linked. -/
theorem wp_run {S : Type} {exec : S → (c : C) → R c × S} {Rel : S → σ → Prop}
    (hsim : ∀ s x c, Rel s x → ok x c →
      ∃ y, next x c (exec s c).1 y ∧ Rel (exec s c).2 y)
    {p : Prog C R α} {Q : α → σ → Prop} {s : S} {x : σ} (hp : p.wp ok next Q x) (hs : Rel s x) :
    ∃ y, Q (p.run exec s).1 y ∧ Rel (p.run exec s).2 y := by
  induction p generalizing s x with
  | pure a => exact ⟨x, hp, hs⟩
  | call c k ih =>
    obtain ⟨y, hy, hrel⟩ := hsim s x c hs hp.1
    exact ih _ (hp.2 _ y hy) hrel

end Wp

/-! ## Programs that meet a specification -/

section Meets

/-- As long as every reply is as `fact` says, `p` only issues commands in `ok`,
    and it ends with a value in `Q`. -/
def Meets (ok : C → Prop) (fact : (c : C) → R c → Prop) (Q : α → Prop) : Prog C R α → Prop
  | .pure a => Q a
  | .call c k => ok c ∧ ∀ r, fact c r → (k r).Meets ok fact Q

variable {ok : C → Prop} {fact : (c : C) → R c → Prop} {Q : α → Prop} {Q' : β → Prop}

@[simp] theorem meets_pure (a : α) :
    (Prog.pure a : Prog C R α).Meets ok fact Q ↔ Q a := Iff.rfl

@[simp] theorem meets_call (c : C) (k : R c → Prog C R α) :
    (Prog.call c k).Meets ok fact Q ↔ ok c ∧ ∀ r, fact c r → (k r).Meets ok fact Q := Iff.rfl

@[simp] theorem meets_perform (c : C) {Q : R c → Prop} :
    (perform c : Prog C R (R c)).Meets ok fact Q ↔ ok c ∧ ∀ r, fact c r → Q r := Iff.rfl

theorem Meets.mono {p : Prog C R α} {Q' : α → Prop} (h : p.Meets ok fact Q)
    (hQ : ∀ a, Q a → Q' a) : p.Meets ok fact Q' := by
  induction p with
  | pure a => exact hQ a h
  | call c k ih => exact ⟨h.1, fun r hr => ih r (h.2 r hr)⟩

theorem Meets.bind {p : Prog C R α} {f : α → Prog C R β} (h : p.Meets ok fact Q)
    (hf : ∀ a, Q a → (f a).Meets ok fact Q') : (p.bind f).Meets ok fact Q' := by
  induction p with
  | pure a => exact hf a h
  | call c k ih => exact ⟨h.1, fun r hr => ih r (h.2 r hr)⟩

/-- The rule for `?`. -/
theorem Meets.andThen {p : Prog C R (Except ε α)} {f : α → Prog C R (Except ε β)}
    {Q : Except ε α → Prop} {Q' : Except ε β → Prop} (h : p.Meets ok fact Q)
    (herr : ∀ e, Q (.error e) → Q' (.error e))
    (hf : ∀ a, Q (.ok a) → (f a).Meets ok fact Q') : (p.andThen f).Meets ok fact Q' := by
  refine h.bind fun reply hreply => ?_
  cases reply with
  | ok a => exact hf a hreply
  | error e => exact herr e hreply

theorem Meets.mapResult {p : Prog C R α} {f : α → β} (h : p.Meets ok fact fun a => Q' (f a)) :
    (p.mapResult f).Meets ok fact Q' := h.bind fun _ ha => ha

/-- Where the allowed commands do the same in two environments, `f` taking the
    states of one to those of the other, so does the program. -/
theorem Meets.run_lift {S S' : Type} {exec : S → (c : C) → R c × S}
    {exec' : S' → (c : C) → R c × S'} {f : S → S'}
    (hexec : ∀ s c, ok c → exec' (f s) c = ((exec s c).1, f (exec s c).2))
    {p : Prog C R α} (h : p.Meets ok (fun _ _ => True) Q) (s : S) :
    p.run exec' (f s) = ((p.run exec s).1, f (p.run exec s).2) := by
  induction p generalizing s with
  | pure a => rfl
  | call c k ih =>
    rw [run_call, hexec s c h.1]
    exact ih _ (h.2 _ trivial) _

end Meets

/-! ## Programs that only issue some commands -/

section Issues

/-- Whatever the replies, `p` only issues commands in `ok`. -/
abbrev Issues (ok : C → Prop) (p : Prog C R α) : Prop := p.Meets ok (fun _ _ => True) fun _ => True

variable {ok : C → Prop}

theorem issues_perform {c : C} (h : ok c) : (perform c : Prog C R (R c)).Issues ok :=
  ⟨h, fun _ _ => trivial⟩

theorem Issues.mono {ok' : C → Prop} {p : Prog C R α} (h : p.Issues ok)
    (hok : ∀ c, ok c → ok' c) : p.Issues ok' := by
  induction p with
  | pure a => trivial
  | call c k ih => exact ⟨hok c h.1, fun r hr => ih r (h.2 r hr)⟩

theorem Issues.bind {p : Prog C R α} {f : α → Prog C R β} (h : p.Issues ok)
    (hf : ∀ a, (f a).Issues ok) : (p.bind f).Issues ok := Meets.bind h fun a _ => hf a

theorem Issues.andThen {p : Prog C R (Except ε α)} {f : α → Prog C R (Except ε β)}
    (h : p.Issues ok) (hf : ∀ a, (f a).Issues ok) : (p.andThen f).Issues ok :=
  Meets.andThen h (fun _ _ => trivial) fun a _ => hf a

theorem Issues.mapResult {p : Prog C R α} {f : α → β} (h : p.Issues ok) :
    (p.mapResult f).Issues ok := Meets.mapResult h

end Issues

/-! ## Programs of bounded length -/

section Within

/-- Whatever the replies, `p` ends after at most `n` commands. -/
def Within : ℕ → Prog C R α → Prop
  | _, .pure _ => True
  | 0, .call _ _ => False
  | n + 1, .call _ k => ∀ r, (k r).Within n

@[simp] theorem within_pure (n : ℕ) (a : α) : (Prog.pure a : Prog C R α).Within n := by
  cases n <;> trivial

@[simp] theorem within_call_succ (n : ℕ) (c : C) (k : R c → Prog C R α) :
    (Prog.call c k).Within (n + 1) ↔ ∀ r, (k r).Within n := Iff.rfl

theorem Within.mono {p : Prog C R α} {m n : ℕ} (h : p.Within m) (hmn : m ≤ n) : p.Within n := by
  induction p generalizing m n with
  | pure a => exact within_pure n a
  | call c k ih =>
    cases m with
    | zero => exact h.elim
    | succ m =>
      obtain ⟨n, rfl⟩ : ∃ n', n = n' + 1 := ⟨n - 1, by omega⟩
      exact fun r => ih r (h r) (by omega)

theorem Within.bind {p : Prog C R α} {f : α → Prog C R β} {m n : ℕ} (h : p.Within m)
    (hf : ∀ a, (f a).Within n) : (p.bind f).Within (m + n) := by
  induction p generalizing m with
  | pure a => exact (hf a).mono (by omega)
  | call c k ih =>
    cases m with
    | zero => exact h.elim
    | succ m =>
      have hstep : ∀ r, ((k r).bind f).Within (m + n) := fun r => ih r (h r)
      rw [show m + 1 + n = (m + n) + 1 by omega]
      exact hstep

theorem Within.mapResult {p : Prog C R α} {n : ℕ} (h : p.Within n) (f : α → β) :
    (p.mapResult f).Within n := h.bind fun a => within_pure 0 (f a)

theorem Within.andThen {p : Prog C R (Except ε α)} {f : α → Prog C R (Except ε β)} {m n : ℕ}
    (h : p.Within m) (hf : ∀ a, (f a).Within n) : (p.andThen f).Within (m + n) := by
  refine h.bind fun reply => ?_
  cases reply with
  | ok a => exact hf a
  | error e => exact within_pure n _

theorem within_perform (c : C) : (perform c : Prog C R (R c)).Within 1 :=
  fun r => within_pure 0 r

end Within

/-! ## Programs side by side -/

section TryJoinAll

/-- Run programs one after the other, up to the first error. -/
def joinSeq : List (Prog C R (Except ε α)) → Prog C R (Except ε (List α))
  | [] => .pure (.ok [])
  | p :: ps => p.andThen fun a => (joinSeq ps).mapResult fun
    | .ok as => .ok (a :: as)
    | .error e => .error e

/-- Run programs side by side, up to the first error. `schedule` says whose turn
    it is; when it is over, they run one after the other. -/
def tryJoinAll : List ℕ → List (Prog C R (Except ε α)) → Prog C R (Except ε (List α))
  | [], ps => joinSeq ps
  | i :: schedule, ps =>
    match ps[i]? with
    | some (.call c k) => .call c fun r =>
      match k r with
      | .pure (.error e) => .pure (.error e)
      | p => tryJoinAll schedule (ps.set i p)
    | _ => tryJoinAll schedule ps

variable {ok : C → Prop} {fact : (c : C) → R c → Prop}

theorem meets_joinSeq {ps : List (Prog C R (Except ε α))}
    (h : ∀ p ∈ ps, p.Meets ok fact fun _ => True) :
    (joinSeq ps).Meets ok fact fun _ => True := by
  induction ps with
  | nil => trivial
  | cons p ps ih =>
    refine (h p List.mem_cons_self).andThen (fun _ _ => trivial) fun a _ => Meets.mapResult ?_
    exact (ih fun q hq => h q (List.mem_cons_of_mem p hq)).mono fun _ _ => trivial

theorem meets_tryJoinAll (schedule : List ℕ) :
    ∀ {ps : List (Prog C R (Except ε α))}, (∀ p ∈ ps, p.Meets ok fact fun _ => True) →
      (tryJoinAll schedule ps).Meets ok fact fun _ => True := by
  induction schedule with
  | nil => exact fun h => meets_joinSeq h
  | cons i schedule ih =>
    intro ps h
    unfold tryJoinAll
    split
    · rename_i c k hi
      have hcall := h _ (List.mem_of_getElem? hi)
      refine ⟨hcall.1, fun r hr => ?_⟩
      dsimp only
      split
      · trivial
      · refine ih fun q hq => ?_
        rcases List.mem_or_eq_of_mem_set hq with hq | rfl
        · exact h q hq
        · exact hcall.2 r hr
    · exact ih h

end TryJoinAll

end Prog

end Interaction
