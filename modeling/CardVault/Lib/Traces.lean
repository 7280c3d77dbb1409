import CardVault.Lib.Prog

/-!
# Traces of a program

What a program returns together with all it was told on the way: `Prog.Always`
holds of a program when a postcondition on its value and its trace holds whatever
the replies.

Main results:
* `Always.bind`, `Always.andThen`, `Always.mapResult`: the rules.
-/

namespace Interaction

/-- A command with its reply. -/
abbrev Exchange (C : Type) (R : C → Type) : Type := (c : C) × R c

namespace Prog

variable {C : Type} {R : C → Type} {α β ε : Type} {honest : (c : C) → R c → Prop}

/-- Whatever the replies, as long as they are `honest`: the value that `p` ends with
    and the exchanges on the way satisfy `Q`. -/
def Always (honest : (c : C) → R c → Prop) :
    Prog C R α → (α → List (Exchange C R) → Prop) → Prop
  | .pure a, Q => Q a []
  | .call c k, Q => ∀ r, honest c r → (k r).Always honest fun a t => Q a (⟨c, r⟩ :: t)

theorem Always.mono {p : Prog C R α} {Q Q' : α → List (Exchange C R) → Prop}
    (h : p.Always honest Q) (hQ : ∀ a t, Q a t → Q' a t) : p.Always honest Q' := by
  induction p generalizing Q Q' with
  | pure a => exact hQ a [] h
  | call c k ih => exact fun r hr => ih r (h r hr) fun a t => hQ a _

theorem Always.bind {p : Prog C R α} {f : α → Prog C R β} {Q : α → List (Exchange C R) → Prop}
    {Q' : β → List (Exchange C R) → Prop} (h : p.Always honest Q)
    (hf : ∀ a t, Q a t → (f a).Always honest fun b t' => Q' b (t ++ t')) :
    (p.bind f).Always honest Q' := by
  induction p generalizing Q Q' with
  | pure a => exact hf a [] h
  | call c k ih => exact fun r hr => ih r (h r hr) fun a t => hf a _

/-- The rule for `?`. -/
theorem Always.andThen {p : Prog C R (Except ε α)} {f : α → Prog C R (Except ε β)}
    {Q : Except ε α → List (Exchange C R) → Prop} {Q' : Except ε β → List (Exchange C R) → Prop}
    (h : p.Always honest Q) (herr : ∀ e t, Q (.error e) t → Q' (.error e) t)
    (hf : ∀ a t, Q (.ok a) t → (f a).Always honest fun b t' => Q' b (t ++ t')) :
    (p.andThen f).Always honest Q' := by
  refine h.bind fun reply t hreply => ?_
  cases reply with
  | ok a => exact hf a t hreply
  | error e =>
    change Q' (.error e) (t ++ [])
    rw [List.append_nil]
    exact herr e t hreply

theorem Always.mapResult {p : Prog C R α} {f : α → β} {Q : β → List (Exchange C R) → Prop}
    (h : p.Always honest fun a t => Q (f a) t) : (p.mapResult f).Always honest Q := by
  refine h.bind fun a t ha => ?_
  change Q (f a) (t ++ [])
  rwa [List.append_nil]

/-- The commands of a trace are commands that the program issues. -/
theorem Always.issues {ok : C → Prop} {p : Prog C R α} {Q : α → List (Exchange C R) → Prop}
    (h : p.Always honest Q) (hp : p.Issues ok) :
    p.Always honest fun a t => Q a t ∧ ∀ x ∈ t, ok x.1 := by
  induction p generalizing Q with
  | pure a => exact ⟨h, fun x hx => nomatch hx⟩
  | call c k ih =>
    refine fun r hr => (ih r (h r hr) (hp.2 r trivial)).mono fun a t ht => ⟨ht.1, fun x hx => ?_⟩
    rcases List.mem_cons.1 hx with rfl | hx
    · exact hp.1
    · exact ht.2 x hx

end Prog

end Interaction
