import CardVault.Lib.Prog

/-!
# Programs inside larger systems

`Prog.interpret f` runs a program over other commands: `f` says what each of its
commands is there. `Component` is a part of a larger state; a program interpreted on
a part runs as it does alone.

Main results:
* `interpret_bind`, `interpret_andThen`, `interpret_mapResult`: the interpretation
  follows the structure of the program.
* `Component.run_interpret`: a run on a part of the state.
-/

namespace Interaction

namespace Prog

variable {C C' : Type} {R : C → Type} {R' : C' → Type} {α β ε ε' : Type}

/-- The program with `f c` in the place of the command `c`. -/
def interpret (f : (c : C) → Prog C' R' (R c)) : Prog C R α → Prog C' R' α
  | .pure a => .pure a
  | .call c k => (f c).bind fun r => (k r).interpret f

variable (f : (c : C) → Prog C' R' (R c))

@[simp] theorem interpret_pure (a : α) : (Prog.pure a : Prog C R α).interpret f = .pure a := rfl

theorem bind_pure (p : Prog C R α) : p.bind .pure = p := by
  induction p with
  | pure a => rfl
  | call c k ih =>
    simp only [call_bind]
    congr 1
    funext r
    exact ih r

@[simp] theorem interpret_perform (c : C) :
    (perform c : Prog C R (R c)).interpret f = f c := bind_pure (f c)

theorem interpret_bind (p : Prog C R α) (g : α → Prog C R β) :
    (p.bind g).interpret f = (p.interpret f).bind fun a => (g a).interpret f := by
  induction p with
  | pure a => rfl
  | call c k ih =>
    simp only [call_bind, interpret, bind_assoc]
    congr 1
    funext r
    exact ih r

theorem interpret_andThen (p : Prog C R (Except ε α)) (g : α → Prog C R (Except ε β)) :
    (p.andThen g).interpret f = (p.interpret f).andThen fun a => (g a).interpret f := by
  rw [andThen, interpret_bind, andThen]
  congr 1
  funext reply
  cases reply <;> rfl

theorem interpret_mapResult (h : α → β) (p : Prog C R α) :
    (p.mapResult h).interpret f = (p.interpret f).mapResult h := interpret_bind f p _

end Prog

/-- A part `S` of a larger state `S'`. -/
structure Component (S S' : Type) where
  get : S' → S
  put : S → S' → S'
  get_put : ∀ s t, get (put s t) = s
  put_put : ∀ s s' t, put s (put s' t) = put s t
  put_get : ∀ t, put (get t) t = t

namespace Component

variable {S S' C C' : Type} {R : C → Type} {R' : C' → Type} {α : Type} (part : Component S S')
  {exec : S → (c : C) → R c × S} {exec' : S' → (c : C') → R' c × S'}
  {f : (c : C) → Prog C' R' (R c)}

/-- A program interpreted on a part of the state runs as it does alone, and leaves the
    rest of the state. -/
theorem run_interpret
    (hf : ∀ c t, (f c).run exec' t =
      ((exec (part.get t) c).1, part.put (exec (part.get t) c).2 t))
    (p : Prog C R α) (t : S') :
    (p.interpret f).run exec' t =
      ((p.run exec (part.get t)).1, part.put (p.run exec (part.get t)).2 t) := by
  induction p generalizing t with
  | pure a =>
    rw [Prog.interpret_pure, Prog.run_pure, Prog.run_pure, part.put_get]
  | call c k ih =>
    rw [Prog.interpret, Prog.run_bind, hf, ih]
    simp only [part.get_put, part.put_put, Prog.run_call]

end Component

end Interaction
