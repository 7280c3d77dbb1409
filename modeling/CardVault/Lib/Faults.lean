import CardVault.Lib.Runs

/-!
# Unreliable calls

An environment whose calls may fail: a call is answered, or it is lost and an
error comes back, or it takes effect and an error comes back all the same. Which
of these happens next is part of the state, and changes at will.

Main results:
* `Unreliable.exec_cases`: an unreliable call does what the reliable one does, or
  fails without effect, or fails with it.
-/

namespace Interaction

/-- What becomes of a call. A call that is not answered ends with a failure. -/
inductive Delivery {r : Type} (failure : r → Prop) where
  | answered
  | lost (reply : r) (fails : failure reply)
  | replyLost (reply : r) (fails : failure reply)

/-- A state with what becomes of the next call. -/
structure Unreliable (S : Type) {C : Type} {R : C → Type} (failure : (c : C) → R c → Prop) where
  store : S
  delivery : (c : C) → Delivery (failure c)

/-- A step of the environment, or a change of the weather. -/
inductive Weather (E : Type) {C : Type} {R : C → Type} (failure : (c : C) → R c → Prop) where
  | env (e : E)
  | deliver (delivery : (c : C) → Delivery (failure c))

namespace Unreliable

variable {S C E : Type} {R : C → Type} {failure : (c : C) → R c → Prop}
variable (base : S → (c : C) → R c × S) (around : S → E → S)

/-- One call. -/
def exec (u : Unreliable S failure) (c : C) : R c × Unreliable S failure :=
  match u.delivery c with
  | .answered => ((base u.store c).1, { u with store := (base u.store c).2 })
  | .lost reply _ => (reply, u)
  | .replyLost reply _ => (reply, { u with store := (base u.store c).2 })

/-- One step of the environment. -/
def envStep (u : Unreliable S failure) : Weather E failure → Unreliable S failure
  | .env e => { u with store := around u.store e }
  | .deliver delivery => { u with delivery }

/-- A call does what the reliable call does, or fails, with or without effect. -/
theorem exec_cases (u : Unreliable S failure) (c : C) :
    ((u.exec base c).1 = (base u.store c).1 ∧ (u.exec base c).2.store = (base u.store c).2) ∨
    (failure c (u.exec base c).1 ∧ ((u.exec base c).2.store = u.store ∨
      (u.exec base c).2.store = (base u.store c).2)) := by
  unfold Unreliable.exec
  cases u.delivery c with
  | answered => exact Or.inl ⟨rfl, rfl⟩
  | lost reply fails => exact Or.inr ⟨fails, Or.inl rfl⟩
  | replyLost reply fails => exact Or.inr ⟨fails, Or.inr rfl⟩

/-- What a call leaves behind is the state before it, or what the reliable call
    leaves. -/
theorem exec_store (u : Unreliable S failure) (c : C) :
    (u.exec base c).2.store = u.store ∨ (u.exec base c).2.store = (base u.store c).2 := by
  rcases exec_cases base u c with ⟨_, h⟩ | ⟨_, h⟩
  · exact Or.inr h
  · exact h

end Unreliable

end Interaction
