import CardVault.Lib.Traces
import Mathlib.Data.List.Infix

/-!
# Programs whose calls may fail

A call is answered, or it fails with one of the replies of `failure`, and a call
that fails may have taken effect all the same. `Prog.Outcome` relates a program and
a state to every value and state that it may end with.

Main results:
* `Outcome.effects`: what is left behind are the calls that took effect.
* `Outcome.bind_inv`, `Outcome.reliable`: outcomes follow the structure of the
  program; where nothing can fail, there is one.
* `Outcome.meets`: what a program promises, its outcomes keep.
* `Halts.bind`, `Halts.andThen`, `Halts.mapResult`: programs that end with their
  first failure.
* `outcome_failAt`: the outcome in which one call fails.
-/

namespace Interaction

namespace Prog

variable {S C : Type} {R : C → Type} {α β ε ε' : Type}

section Outcome

variable (exec : S → (c : C) → R c × S) (failure : (c : C) → R c → Prop)

/-- From `s`, with calls that may fail, the program may end with `a` in `s'`; `done`
    are the calls that took effect. -/
inductive Outcome : Prog C R α → S → List C → α → S → Prop
  | pure (a : α) (s : S) : Outcome (.pure a) s [] a s
  | answered {c : C} {k : R c → Prog C R α} {s : S} {done : List C} {a : α} {s' : S} :
    Outcome (k (exec s c).1) (exec s c).2 done a s' → Outcome (.call c k) s (c :: done) a s'
  | lost {c : C} {k : R c → Prog C R α} {s : S} {done : List C} {a : α} {s' : S} {r : R c} :
    failure c r → Outcome (k r) s done a s' → Outcome (.call c k) s done a s'
  | replyLost {c : C} {k : R c → Prog C R α} {s : S} {done : List C} {a : α} {s' : S} {r : R c} :
    failure c r → Outcome (k r) (exec s c).2 done a s' → Outcome (.call c k) s (c :: done) a s'

/-- The state that calls leave, one after the other. -/
def effects (s : S) (done : List C) : S := done.foldl (fun s c => (exec s c).2) s

/-- Whatever fails, the program ends as its run does, with all of `writes` done, or
    with a value in `P` after the first of them. -/
def Halts (loud : C → Bool) (P : α → Prop) (p : Prog C R α) (s : S) (writes : List C) : Prop :=
  ∀ done a s', p.Outcome exec failure s done a s' →
    (p.run exec s = (a, s') ∧ done.filter loud = writes) ∨ (P a ∧ done.filter loud <+: writes)

end Outcome

variable {exec : S → (c : C) → R c × S} {failure : (c : C) → R c → Prop} {loud : C → Bool}

/-! ## Effects -/

@[simp] theorem effects_nil (s : S) : effects exec s [] = s := rfl

@[simp] theorem effects_cons (s : S) (c : C) (done : List C) :
    effects exec s (c :: done) = effects exec (exec s c).2 done := rfl

/-- Only the loud calls have effects. -/
theorem effects_filter (hquiet : ∀ s c, loud c = false → (exec s c).2 = s) (s : S)
    (done : List C) : effects exec s (done.filter loud) = effects exec s done := by
  induction done generalizing s with
  | nil => rfl
  | cons c done ih =>
    cases hc : loud c with
    | true =>
      rw [List.filter_cons_of_pos hc]
      exact ih _
    | false =>
      rw [List.filter_cons_of_neg (by simp [hc]), effects_cons, hquiet s c hc]
      exact ih s

/-! ## Outcomes -/

/-- What is left behind are the calls that took effect. -/
theorem Outcome.effects {p : Prog C R α} {s s' : S} {done : List C} {a : α}
    (h : p.Outcome exec failure s done a s') : s' = Prog.effects exec s done := by
  induction h with
  | pure a s => rfl
  | answered _ ih => exact ih
  | lost _ _ ih => exact ih
  | replyLost _ _ ih => exact ih

theorem Outcome.mono {failure' : (c : C) → R c → Prop} (hf : ∀ c r, failure c r → failure' c r)
    {p : Prog C R α} {s s' : S} {done : List C} {a : α}
    (h : p.Outcome exec failure s done a s') : p.Outcome exec failure' s done a s' := by
  induction h with
  | pure a s => exact .pure a s
  | answered _ ih => exact .answered ih
  | lost hr _ ih => exact .lost (hf _ _ hr) ih
  | replyLost hr _ ih => exact .replyLost (hf _ _ hr) ih

/-- An outcome of one program after the other. -/
theorem Outcome.bind_inv {p : Prog C R α} {f : α → Prog C R β} {s s' : S} {done : List C} {b : β}
    (h : (p.bind f).Outcome exec failure s done b s') :
    ∃ done₁ a s₁ done₂, p.Outcome exec failure s done₁ a s₁ ∧
      (f a).Outcome exec failure s₁ done₂ b s' ∧ done = done₁ ++ done₂ := by
  induction p generalizing s done with
  | pure a => exact ⟨[], a, s, done, .pure a s, h, rfl⟩
  | call c k ih =>
    cases h with
    | answered h =>
      obtain ⟨done₁, a, s₁, done₂, hp, hf, rfl⟩ := ih _ h
      exact ⟨c :: done₁, a, s₁, done₂, .answered hp, hf, rfl⟩
    | lost hr h =>
      obtain ⟨done₁, a, s₁, done₂, hp, hf, rfl⟩ := ih _ h
      exact ⟨done₁, a, s₁, done₂, .lost hr hp, hf, rfl⟩
    | replyLost hr h =>
      obtain ⟨done₁, a, s₁, done₂, hp, hf, rfl⟩ := ih _ h
      exact ⟨c :: done₁, a, s₁, done₂, .replyLost hr hp, hf, rfl⟩

/-- Where nothing can fail, the program ends as its run does. -/
theorem Outcome.reliable {p : Prog C R α} (hp : p.Issues fun c => ∀ r, ¬ failure c r) {s s' : S}
    {done : List C} {a : α} (h : p.Outcome exec failure s done a s') :
    p.run exec s = (a, s') := by
  induction h with
  | pure a s => rfl
  | answered _ ih => exact ih (hp.2 _ trivial)
  | lost hr _ _ => exact absurd hr (hp.1 _)
  | replyLost hr _ _ => exact absurd hr (hp.1 _)

/-- The calls that took effect are calls of the program. -/
theorem Outcome.issues {ok : C → Prop} {p : Prog C R α} (hp : p.Issues ok) {s s' : S}
    {done : List C} {a : α} (h : p.Outcome exec failure s done a s') : ∀ c ∈ done, ok c := by
  induction h with
  | pure a s => exact fun c hc => nomatch hc
  | answered _ ih => exact List.forall_mem_cons.2 ⟨hp.1, ih (hp.2 _ trivial)⟩
  | lost _ _ ih => exact ih (hp.2 _ trivial)
  | replyLost _ _ ih => exact List.forall_mem_cons.2 ⟨hp.1, ih (hp.2 _ trivial)⟩

/-- What a program promises as long as the replies are as expected, its outcomes keep:
    the allowed calls keep an invariant of the state and of what took effect, and `all`
    is all that ever takes effect. -/
theorem Outcome.meets {ok : C → Prop} {fact : (c : C) → R c → Prop} {Q : α → Prop}
    {I : S → List C → Prop} {all : List C}
    (hstep : ∀ s before c, I s before → ok c → I (exec s c).2 (before ++ [c]))
    (hreply : ∀ s before c, I s before → ok c → before ++ [c] <+: all → fact c (exec s c).1)
    (hfailure : ∀ c r, failure c r → fact c r) {p : Prog C R α} (hp : p.Meets ok fact Q)
    {s s' : S} {before done : List C} {a : α} (ho : p.Outcome exec failure s done a s')
    (hs : I s before) (hall : before ++ done <+: all) : Q a ∧ I s' (before ++ done) := by
  induction ho generalizing before with
  | pure a s => exact ⟨hp, by rwa [List.append_nil]⟩
  | @answered c k s done a s' _ ih =>
    rw [List.append_cons] at hall ⊢
    have hr := hreply s before c hs hp.1 ((List.prefix_append _ _).trans hall)
    exact ih (hp.2 _ hr) (hstep s before c hs hp.1) hall
  | lost hr _ ih => exact ih (hp.2 _ (hfailure _ _ hr)) hs hall
  | @replyLost c k s done a s' r hr _ ih =>
    rw [List.append_cons] at hall ⊢
    exact ih (hp.2 _ (hfailure _ _ hr)) (hstep s before c hs hp.1) hall

/-- A run is an outcome. -/
theorem outcome_run (failure : (c : C) → R c → Prop) (p : Prog C R α) (s : S) :
    ∃ done, p.Outcome exec failure s done (p.run exec s).1 (p.run exec s).2 := by
  induction p generalizing s with
  | pure a => exact ⟨[], .pure a s⟩
  | call c k ih =>
    obtain ⟨done, h⟩ := ih (exec s c).1 (exec s c).2
    exact ⟨c :: done, .answered h⟩

/-! ## Programs that end with their first failure -/

theorem halts_pure {P : α → Prop} (a : α) (s : S) :
    (Prog.pure a : Prog C R α).Halts exec failure loud P s [] := by
  intro done b s' h
  cases h
  exact Or.inl ⟨rfl, rfl⟩

theorem halts_perform {c : C} {P : R c → Prop} (hc : loud c = true)
    (h : ∀ r, failure c r → P r) (s : S) :
    (perform c : Prog C R (R c)).Halts exec failure loud P s [c] := by
  have hfilter : [c].filter loud = [c] := by simp [hc]
  intro done a s' ho
  cases ho with
  | answered ho =>
    cases ho
    exact Or.inl ⟨rfl, hfilter⟩
  | lost hr ho =>
    cases ho
    exact Or.inr ⟨h _ hr, List.nil_prefix⟩
  | replyLost hr ho =>
    cases ho
    exact Or.inr ⟨h _ hr, by rw [hfilter]⟩

theorem Halts.mono {P P' : α → Prop} {p : Prog C R α} {s : S} {writes : List C}
    (h : p.Halts exec failure loud P s writes) (hP : ∀ a, P a → P' a) :
    p.Halts exec failure loud P' s writes := fun done a s' ho =>
  (h done a s' ho).imp_right fun hPa => ⟨hP a hPa.1, hPa.2⟩

/-- After the values in `P`, `f` ends at once with a value in `P'`. -/
theorem Halts.bind {P : α → Prop} {P' : β → Prop} {p : Prog C R α} {f : α → Prog C R β}
    {s s₁ : S} {a : α} {writes writes' : List C} (h : p.Halts exec failure loud P s writes)
    (hP : ∀ a, P a → ∃ b, f a = .pure b ∧ P' b) (hrun : p.run exec s = (a, s₁))
    (hf : (f a).Halts exec failure loud P' s₁ writes') :
    (p.bind f).Halts exec failure loud P' s (writes ++ writes') := by
  intro done b s' ho
  obtain ⟨done₁, a₁, s₂, done₂, hp, hrest, rfl⟩ := ho.bind_inv
  rw [List.filter_append]
  rcases h done₁ a₁ s₂ hp with ⟨hrun', rfl⟩ | ⟨hPa, hpre⟩
  · -- the first part went as without failures
    cases hrun.symm.trans hrun'
    refine (hf done₂ b s' hrest).imp ?_ ?_
    · rintro ⟨hrun', rfl⟩
      exact ⟨(run_bind_of hrun f).trans hrun', rfl⟩
    · rintro ⟨hPb, hpre⟩
      exact ⟨hPb, (List.prefix_append_right_inj _).2 hpre⟩
  · obtain ⟨b', hb, hPb⟩ := hP a₁ hPa
    rw [hb] at hrest
    cases hrest
    refine Or.inr ⟨hPb, ?_⟩
    rw [List.filter_nil, List.append_nil]
    exact hpre.trans (List.prefix_append _ _)

theorem Halts.mapResult {P : α → Prop} {P' : β → Prop} {p : Prog C R α} {f : α → β} {s : S}
    {writes : List C} (h : p.Halts exec failure loud P s writes) (hP : ∀ a, P a → P' (f a)) :
    (p.mapResult f).Halts exec failure loud P' s writes := by
  have hend : (Prog.pure (f (p.run exec s).1) : Prog C R β).Halts exec failure loud P'
      (p.run exec s).2 [] := halts_pure _ _
  have hbind := h.bind (f := fun a => .pure (f a)) (fun a ha => ⟨f a, rfl, hP a ha⟩) rfl hend
  rwa [List.append_nil] at hbind

/-- The rule for `?` after a part that succeeds. -/
theorem Halts.andThen {P : ε → Prop} {p : Prog C R (Except ε α)}
    {f : α → Prog C R (Except ε β)} {s s₁ : S} {a : α} {writes writes' : List C}
    (h : p.Halts exec failure loud (fun r => ∃ e, r = .error e ∧ P e) s writes)
    (hrun : p.run exec s = (.ok a, s₁))
    (hf : (f a).Halts exec failure loud (fun r => ∃ e, r = .error e ∧ P e) s₁ writes') :
    (p.andThen f).Halts exec failure loud (fun r => ∃ e, r = .error e ∧ P e) s
      (writes ++ writes') := by
  refine h.bind (fun r ⟨e, he, hPe⟩ => ?_) hrun hf
  subst he
  exact ⟨.error e, rfl, e, rfl, hPe⟩

/-- The rule for `?` after a part that ends in an error. -/
theorem Halts.andThen_error {P : ε → Prop} {p : Prog C R (Except ε α)}
    {f : α → Prog C R (Except ε β)} {s s₁ : S} {e : ε} {writes : List C}
    (h : p.Halts exec failure loud (fun r => ∃ e, r = .error e ∧ P e) s writes)
    (hrun : p.run exec s = (.error e, s₁)) :
    (p.andThen f).Halts exec failure loud (fun r => ∃ e, r = .error e ∧ P e) s writes := by
  have hend : (Prog.pure (.error e) : Prog C R (Except ε β)).Halts exec failure loud
      (fun r => ∃ e, r = .error e ∧ P e) s₁ [] := halts_pure _ _
  have hbind : (p.andThen f).Halts exec failure loud (fun r => ∃ e, r = .error e ∧ P e) s
      (writes ++ []) := h.bind (fun r hr => ?_) hrun hend
  · rwa [List.append_nil] at hbind
  · obtain ⟨e, rfl, hPe⟩ := hr
    exact ⟨.error e, rfl, e, rfl, hPe⟩

/-- A program that only reads, and that takes no failure for an answer. -/
theorem Always.halts {honest : (c : C) → R c → Prop} {P : α → Prop} {p : Prog C R α}
    {Q : α → List (Exchange C R) → Prop} (h : p.Always honest Q)
    (hreads : p.Issues fun c => loud c = false) (hexec : ∀ s c, honest c (exec s c).1)
    (hfailure : ∀ c r, failure c r → honest c r)
    (hQ : ∀ a t, Q a t → (∃ x ∈ t, failure x.1 x.2) → P a) (s : S) :
    p.Halts exec failure loud P s [] := by
  have hmain : ∀ {done : List C} {a : α} {s' : S}, p.Outcome exec failure s done a s' →
      ∃ t, Q a t ∧ (p.run exec s = (a, s') ∨ ∃ x ∈ t, failure x.1 x.2) := by
    clear hQ
    intro done a s' ho
    induction ho generalizing Q with
    | pure a s => exact ⟨[], h, Or.inl rfl⟩
    | answered _ ih =>
      obtain ⟨t, ht, hcase⟩ := ih (h _ (hexec _ _)) (hreads.2 _ trivial)
      exact ⟨_, ht, hcase.imp_right fun ⟨x, hx, hfail⟩ => ⟨x, List.mem_cons_of_mem _ hx, hfail⟩⟩
    | lost hr _ ih =>
      obtain ⟨t, ht, -⟩ := ih (h _ (hfailure _ _ hr)) (hreads.2 _ trivial)
      exact ⟨_, ht, Or.inr ⟨_, List.mem_cons_self, hr⟩⟩
    | replyLost hr _ ih =>
      obtain ⟨t, ht, -⟩ := ih (h _ (hfailure _ _ hr)) (hreads.2 _ trivial)
      exact ⟨_, ht, Or.inr ⟨_, List.mem_cons_self, hr⟩⟩
  intro done a s' ho
  obtain ⟨t, ht, hcase⟩ := hmain ho
  have hdone : done.filter loud = [] := by
    rw [List.filter_eq_nil_iff]
    exact fun c hc => by simp [ho.issues hreads c hc]
  rw [hdone]
  exact hcase.imp (fun hrun => ⟨hrun, rfl⟩) fun hx => ⟨hQ a t ht hx, List.nil_prefix⟩

/-! ## One call that fails -/

/-- The run in which call number `n` fails without effect, if it can. -/
def failAt (exec : S → (c : C) → R c × S) (fail : (c : C) → Option (R c)) :
    ℕ → Prog C R α → S → α × S
  | _, .pure a, s => (a, s)
  | n + 1, .call c k, s => (k (exec s c).1).failAt exec fail n (exec s c).2
  | 0, .call c k, s =>
    match fail c with
    | some r => (k r).run exec s
    | none => (k (exec s c).1).run exec (exec s c).2

theorem outcome_failAt {fail : (c : C) → Option (R c)}
    (hfail : ∀ c r, fail c = some r → failure c r) (n : ℕ) (p : Prog C R α) (s : S) :
    ∃ done, p.Outcome exec failure s done (p.failAt exec fail n s).1
      (p.failAt exec fail n s).2 := by
  induction p generalizing s n with
  | pure a => exact ⟨[], by cases n <;> exact .pure a s⟩
  | call c k ih =>
    cases n with
    | succ n =>
      obtain ⟨done, hdone⟩ := ih (exec s c).1 n (exec s c).2
      exact ⟨c :: done, .answered hdone⟩
    | zero =>
      unfold failAt
      cases hc : fail c with
      | some r =>
        obtain ⟨done, hdone⟩ := outcome_run failure (k r) s
        exact ⟨done, .lost (hfail c r hc) hdone⟩
      | none =>
        obtain ⟨done, hdone⟩ := outcome_run failure (k (exec s c).1) (exec s c).2
        exact ⟨c :: done, .answered hdone⟩

end Prog

end Interaction
