import CardVault.Lib.Faults
import CardVault.Lib.Interpret
import Mathlib.Order.Basic

/-!
# Programs under interference

What a program does while others move the shared state between any two of its commands.
Of the state only what is known for good is looked at: an abstract state in a preorder,
which everybody can only increase. `Prog.Safe` is the obligation of a program against
this: at every command it may rely on what it knew before, and on what a reply has told
it since.

Main results:
* `Safe.bind`, `Safe.andThen`, `Safe.mapResult`: the rules.
* `Safe.interpret`: a program of a part is safe in the whole.
* `safe_tryJoinAll`: safe programs that one program runs side by side.
* `Pool.Grows.run`: a safe program that runs alone.
* `Pool.safe_run`: a pool of safe programs keeps its invariant and stays safe.
* `Pool.AllSafe.ended`: what a thread that has ended returned.
* `Pool.Grows.unreliable`: calls may as well fail.
-/

namespace Interaction

namespace Prog

variable {C : Type} {R : C → Type} {α β ε ε' σ : Type} [Preorder σ]

section Safe

variable (ok : σ → C → Prop) (fact : (c : C) → R c → σ → Prop)

/-- From the abstract state `x` on, whatever others add to it between the commands, `p`
    issues commands in `ok` only, as long as the replies are as `fact` says, and ends
    with a value in `Q`. -/
def Safe (Q : α → σ → Prop) : Prog C R α → σ → Prop
  | .pure a, x => ∀ y, x ≤ y → Q a y
  | .call c k, x => ∀ y, x ≤ y → ok y c ∧ ∀ r z, y ≤ z → fact c r z → (k r).Safe Q z

end Safe

variable {ok : σ → C → Prop} {fact : (c : C) → R c → σ → Prop} {Q : α → σ → Prop}
  {Q' : β → σ → Prop} {x y : σ}

/-- What a program can do it can do later as well. -/
theorem Safe.later {p : Prog C R α} (h : p.Safe ok fact Q x) (hxy : x ≤ y) :
    p.Safe ok fact Q y := by
  cases p with
  | pure a => exact fun z hyz => h z (hxy.trans hyz)
  | call c k => exact fun z hyz => h z (hxy.trans hyz)

theorem Safe.mono {p : Prog C R α} {Q' : α → σ → Prop} (h : p.Safe ok fact Q x)
    (hQ : ∀ a y, x ≤ y → Q a y → Q' a y) : p.Safe ok fact Q' x := by
  induction p generalizing x with
  | pure a => exact fun y hxy => hQ a y hxy (h y hxy)
  | call c k ih =>
    intro y hxy
    obtain ⟨hok, hnext⟩ := h y hxy
    refine ⟨hok, fun r z hyz hr => ih r (hnext r z hyz hr) fun a w hzw => ?_⟩
    exact hQ a w (hxy.trans (hyz.trans hzw))

theorem Safe.bind {p : Prog C R α} {f : α → Prog C R β} (h : p.Safe ok fact Q x)
    (hf : ∀ a y, x ≤ y → Q a y → (f a).Safe ok fact Q' y) : (p.bind f).Safe ok fact Q' x := by
  induction p generalizing x with
  | pure a => exact hf a x le_rfl (h x le_rfl)
  | call c k ih =>
    intro y hxy
    obtain ⟨hok, hnext⟩ := h y hxy
    refine ⟨hok, fun r z hyz hr => ih r (hnext r z hyz hr) fun a w hzw => ?_⟩
    exact hf a w (hxy.trans (hyz.trans hzw))

/-- What a program ends with lasts. -/
theorem Safe.lasting {p : Prog C R α} (h : p.Safe ok fact Q x) :
    p.Safe ok fact (fun a y => ∀ z, y ≤ z → Q a z) x := by
  induction p generalizing x with
  | pure a => exact fun y hxy z hyz => h z (hxy.trans hyz)
  | call c k ih =>
    intro y hxy
    obtain ⟨hok, hnext⟩ := h y hxy
    exact ⟨hok, fun r z hyz hr => ih r (hnext r z hyz hr)⟩

/-- The rule for `?`. -/
theorem Safe.andThen {p : Prog C R (Except ε α)} {f : α → Prog C R (Except ε β)}
    {Q : Except ε α → σ → Prop} {Q' : Except ε β → σ → Prop} (h : p.Safe ok fact Q x)
    (herr : ∀ e y, x ≤ y → Q (.error e) y → Q' (.error e) y)
    (hf : ∀ a y, x ≤ y → Q (.ok a) y → (f a).Safe ok fact Q' y) :
    (p.andThen f).Safe ok fact Q' x := by
  refine h.lasting.bind fun reply y hxy hreply => ?_
  cases reply with
  | ok a => exact hf a y hxy (hreply y le_rfl)
  | error e => exact fun z hyz => herr e z (hxy.trans hyz) (hreply z hyz)

theorem Safe.mapResult {p : Prog C R α} {f : α → β}
    (h : p.Safe ok fact (fun a y => Q' (f a) y) x) : (p.mapResult f).Safe ok fact Q' x := by
  induction p generalizing x with
  | pure a => exact h
  | call c k ih =>
    intro y hxy
    obtain ⟨hok, hnext⟩ := h y hxy
    exact ⟨hok, fun r z hyz hr => ih r (hnext r z hyz hr)⟩

/-- A single command. -/
theorem safe_perform {c : C} {Q : R c → σ → Prop} (hok : ∀ y, x ≤ y → ok y c)
    (hQ : ∀ r y z, x ≤ y → fact c r y → y ≤ z → Q r z) :
    (perform c : Prog C R (R c)).Safe ok fact Q x :=
  fun y hxy => ⟨hok y hxy, fun r z hyz hr w hzw => hQ r z w (hxy.trans hyz) hr hzw⟩

/-- The commands of a part, each issued as one command of the whole. -/
theorem Safe.interpret {C' : Type} {R' : C' → Type} {ok' : σ → C' → Prop}
    {fact' : (c : C') → R' c → σ → Prop} {f : (c : C) → Prog C' R' (R c)}
    (hf : ∀ c y, ok y c → (f c).Safe ok' fact' (fact c) y) {p : Prog C R α}
    (h : p.Safe ok fact Q x) : (p.interpret f).Safe ok' fact' Q x := by
  induction p generalizing x with
  | pure a => exact h
  | call c k ih =>
    obtain ⟨hok, hnext⟩ := h x le_rfl
    exact (hf c x hok).bind fun r y hxy hr => ih r (hnext r y hxy hr)

section TryJoinAll

variable {ps : List (Prog C R (Except ε α))}

theorem safe_joinSeq (h : ∀ p ∈ ps, p.Safe ok fact (fun _ _ => True) x) :
    (joinSeq ps).Safe ok fact (fun _ _ => True) x := by
  induction ps generalizing x with
  | nil => exact fun _ _ => trivial
  | cons p ps ih =>
    refine (h p List.mem_cons_self).andThen (fun _ _ _ _ => trivial) fun a y hxy _ => ?_
    refine Safe.mapResult (Safe.mono (ih fun q hq => ?_) fun _ _ _ _ => trivial)
    exact (h q (List.mem_cons_of_mem p hq)).later hxy

/-- Safe programs side by side. -/
theorem safe_tryJoinAll (schedule : List ℕ) :
    ∀ {ps : List (Prog C R (Except ε α))} {x : σ},
      (∀ p ∈ ps, p.Safe ok fact (fun _ _ => True) x) →
        (tryJoinAll schedule ps).Safe ok fact (fun _ _ => True) x := by
  induction schedule with
  | nil => exact fun h => safe_joinSeq h
  | cons i schedule ih =>
    intro ps x h
    unfold tryJoinAll
    split
    · rename_i c k hi
      intro y hxy
      obtain ⟨hok, hnext⟩ := h _ (List.mem_of_getElem? hi) y hxy
      refine ⟨hok, fun r z hyz hr => ?_⟩
      dsimp only
      split
      · exact fun _ _ => trivial
      · refine ih fun q hq => ?_
        rcases List.mem_or_eq_of_mem_set hq with hq | rfl
        · exact (h q hq).later (hxy.trans hyz)
        · exact hnext r z hyz hr
    · exact ih h

end TryJoinAll

end Prog

/-! ## Pools of safe programs -/

namespace Pool

variable {S ι C E σ : Type} {R : C → Type} {α : Type} [DecidableEq ι] [Preorder σ]
  {exec : S → (c : C) → R c × S} {envStep : S → E → S} {ok : σ → C → Prop}
  {fact : (c : C) → R c → σ → Prop} {inv : S → Prop} {view : S → σ}

variable (exec envStep ok fact inv view) in
/-- Commands in `ok` and steps of the environment keep the invariant and only increase
    what is known of the state, and replies are as `fact` says. -/
structure Grows : Prop where
  exec : ∀ s c, inv s → ok (view s) c → inv (exec s c).2 ∧ view s ≤ view (exec s c).2 ∧
    fact c (exec s c).1 (view (exec s c).2)
  env : ∀ s e, inv s → inv (envStep s e) ∧ view s ≤ view (envStep s e)

omit [DecidableEq ι] in
/-- A safe program that runs alone. -/
theorem Grows.run (hG : Grows exec envStep ok fact inv view) {Q : α → σ → Prop} {p : Prog C R α} :
    ∀ {s : S}, inv s → p.Safe ok fact Q (view s) →
      inv (p.run exec s).2 ∧ Q (p.run exec s).1 (view (p.run exec s).2) := by
  induction p with
  | pure a => exact fun hs h => ⟨hs, h _ le_rfl⟩
  | call c k ih =>
    intro s hs h
    obtain ⟨hok, hnext⟩ := h _ le_rfl
    obtain ⟨hinv, hle, hfact⟩ := hG.exec s c hs hok
    exact ih _ hinv (hnext _ _ hle hfact)

/-- The state of affairs in a pool of safe programs. -/
structure AllSafe (ok : σ → C → Prop) (fact : (c : C) → R c → σ → Prop) (inv : S → Prop)
    (view : S → σ) (Q : ι → α → σ → Prop) (p : Pool S ι C R α) : Prop where
  state : inv p.store
  threads : ∀ i, (p.threads i).Safe ok fact (Q i) (view p.store)

variable {Q : ι → α → σ → Prop} {p : Pool S ι C R α}

/-- One turn. -/
theorem AllSafe.step (hG : Grows exec envStep ok fact inv view)
    (h : p.AllSafe ok fact inv view Q) (turn : Turn ι E) :
    (p.step exec envStep turn).AllSafe ok fact inv view Q ∧
      view p.store ≤ view (p.step exec envStep turn).store := by
  cases turn with
  | env e =>
    obtain ⟨hinv, hle⟩ := hG.env p.store e h.state
    exact ⟨⟨hinv, fun i => (h.threads i).later hle⟩, hle⟩
  | thread i =>
    cases hi : p.threads i with
    | pure a =>
      rw [step_ended hi]
      exact ⟨h, le_rfl⟩
    | call c k =>
      have hthread := h.threads i
      rw [hi] at hthread
      obtain ⟨hok, hnext⟩ := hthread _ le_rfl
      obtain ⟨hinv, hle, hfact⟩ := hG.exec p.store c h.state hok
      rw [step_thread hi]
      refine ⟨⟨hinv, fun j => ?_⟩, hle⟩
      by_cases hj : j = i
      · subst hj
        simpa using hnext _ _ hle hfact
      · simpa [Function.update_of_ne hj] using (h.threads j).later hle

/-- One turn, where each thread has commands of its own: what is known after the turn is
    what its reply has told. -/
theorem safe_step {ok : ι → σ → C → Prop} {x y : σ}
    (h : ∀ i, (p.threads i).Safe (ok i) fact (Q i) x) (hxy : x ≤ y) (turn : Turn ι E)
    (hreply : ∀ i c, turn = .thread i → p.nextCommand i = some c → ok i x c →
      fact c (exec p.store c).1 y) (i : ι) :
    ((p.step exec envStep turn).threads i).Safe (ok i) fact (Q i) y := by
  cases turn with
  | env e => exact (h i).later hxy
  | thread j =>
    cases hj : p.threads j with
    | pure a =>
      rw [step_ended hj]
      exact (h i).later hxy
    | call c k =>
      rw [step_thread hj]
      by_cases hij : i = j
      · subst hij
        have hthread := h i
        rw [hj] at hthread
        obtain ⟨hok, hnext⟩ := hthread x le_rfl
        have hcommand : p.nextCommand i = some c := by simp only [nextCommand, hj]
        simpa using hnext _ y hxy (hreply i c rfl hcommand hok)
      · simpa [Function.update_of_ne hij] using (h i).later hxy

/-- A pool of safe programs keeps its invariant, and what is known stays known. -/
theorem safe_run (hG : Grows exec envStep ok fact inv view) (turns : List (Turn ι E)) :
    ∀ {p : Pool S ι C R α}, p.AllSafe ok fact inv view Q →
      (runActs (fun p turn => p.step exec envStep turn) turns p).AllSafe ok fact inv view Q ∧
        view p.store ≤
          view (runActs (fun p turn => p.step exec envStep turn) turns p).store := by
  induction turns with
  | nil => exact fun h => ⟨h, le_rfl⟩
  | cons turn turns ih =>
    intro p h
    rw [runActs_cons]
    obtain ⟨hnext, hle⟩ := h.step hG turn
    obtain ⟨hlast, hle'⟩ := ih hnext
    exact ⟨hlast, hle.trans hle'⟩

omit [DecidableEq ι] in
/-- What a thread that has ended returned. -/
theorem AllSafe.ended (h : p.AllSafe ok fact inv view Q) {i : ι} {a : α}
    (hended : p.threads i = .pure a) : Q i a (view p.store) := by
  have hthread := h.threads i
  rw [hended] at hthread
  exact hthread _ le_rfl

/-- Calls that may fail, with or without effect, as long as no more is claimed of a
    failure than is known. -/
theorem Grows.unreliable {failure : (c : C) → R c → Prop}
    (h : Grows exec envStep ok fact inv view)
    (hfail : ∀ c r x, failure c r → fact c r x) :
    Grows (S := Unreliable S failure) (Unreliable.exec exec) (Unreliable.envStep envStep) ok fact
      (fun u => inv u.store) (fun u => view u.store) where
  exec u c hinv hok := by
    obtain ⟨hinv', hle, hfact⟩ := h.exec u.store c hinv hok
    rcases Unreliable.exec_cases exec u c with ⟨hreply, hstore⟩ | ⟨hfails, hstore⟩
    · rw [hstore, hreply]
      exact ⟨hinv', hle, hfact⟩
    · refine ⟨?_, ?_, hfail _ _ _ hfails⟩ <;> rcases hstore with hstore | hstore <;> rw [hstore]
      · exact hinv
      · exact hinv'
      · exact hle
  env u e hinv := by
    cases e with
    | env e => exact h.env u.store e hinv
    | deliver delivery => exact ⟨hinv, le_rfl⟩

end Pool

end Interaction
