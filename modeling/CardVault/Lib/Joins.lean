import CardVault.Lib.Prog

/-!
# Programs side by side that own parts of the state

`try_join_all` over programs each of which changes a part of the state that no other
program changes. What each of them does alone it does in any order of polls.

Main results:
* `Parts.run`: one program, and the parts of the others.
* `Parts.run_tryJoinAll`: all of them.
-/

namespace Interaction

namespace Prog

variable {S C ε α σ : Type} {R : C → Type}

section Parts

variable (exec : S → (c : C) → R c × S) (inv : S → Prop) (rel : ℕ → S → σ → Prop)
  (ok : ℕ → σ → C → Prop) (next : ℕ → σ → (c : C) → R c → σ → Prop)

/-- The part of each program is linked to an abstract state. A command of a program keeps
    the invariant, moves its own part as `next` says and leaves the other parts alone. -/
structure Parts : Prop where
  own : ∀ i s x c, inv s → rel i s x → ok i x c →
    inv (exec s c).2 ∧ ∃ y, next i x c (exec s c).1 y ∧ rel i (exec s c).2 y
  others : ∀ i j s x z c, j ≠ i → inv s → rel i s x → ok i x c → rel j s z →
    rel j (exec s c).2 z

end Parts

/-- What programs side by side end with: the values of all of them, or an error of one. -/
def JoinEnds (Q : ℕ → Except ε α → σ → Prop) (n : ℕ) (y : ℕ → σ) : Except ε (List α) → Prop
  | .ok as => as.length = n ∧ ∀ i a, as[i]? = some a → Q i (.ok a) (y i)
  | .error e => ∃ i < n, Q i (.error e) (y i)

namespace Parts

variable {exec : S → (c : C) → R c × S} {inv : S → Prop} {rel : ℕ → S → σ → Prop}
  {ok : ℕ → σ → C → Prop} {next : ℕ → σ → (c : C) → R c → σ → Prop}

/-- A program that runs alone keeps its promise and leaves the other parts alone. -/
theorem run {β : Type} (h : Parts exec inv rel ok next) {i : ℕ} {p : Prog C R β}
    {Q : β → σ → Prop} {s : S} {x : σ} (hinv : inv s) (hrel : rel i s x)
    (hp : p.wp (ok i) (next i) Q x) :
    inv (p.run exec s).2 ∧ (∃ y, rel i (p.run exec s).2 y ∧ Q (p.run exec s).1 y) ∧
      ∀ j z, j ≠ i → rel j s z → rel j (p.run exec s).2 z := by
  induction p generalizing s x with
  | pure a => exact ⟨hinv, ⟨x, hrel, hp⟩, fun _ _ _ hz => hz⟩
  | call c k ih =>
    obtain ⟨hok, hk⟩ := hp
    obtain ⟨hinv', y, hnext, hrel'⟩ := h.own i s x c hinv hrel hok
    obtain ⟨hend, hresult, hothers⟩ := ih _ hinv' hrel' (hk _ y hnext)
    exact ⟨hend, hresult,
      fun j z hj hz => hothers j z hj (h.others i j s x z c hj hinv hrel hok hz)⟩

variable {Q : ℕ → Except ε α → σ → Prop}

/-- Programs one after the other, the first of them at the place `n`. -/
theorem run_joinSeq (h : Parts exec inv rel ok next) {ps : List (Prog C R (Except ε α))} :
    ∀ {n : ℕ} {s : S} {x : ℕ → σ}, inv s →
      (∀ i p, ps[i]? = some p → rel (n + i) s (x i) ∧
        p.wp (ok (n + i)) (next (n + i)) (Q (n + i)) (x i)) →
      inv ((joinSeq ps).run exec s).2 ∧
        (∀ j z, j < n → rel j s z → rel j ((joinSeq ps).run exec s).2 z) ∧
        ∃ y : ℕ → σ, (∀ i < ps.length, rel (n + i) ((joinSeq ps).run exec s).2 (y i)) ∧
          JoinEnds (fun i => Q (n + i)) ps.length y ((joinSeq ps).run exec s).1 := by
  induction ps with
  | nil =>
    intro n s x hinv _
    exact ⟨hinv, fun _ _ _ hz => hz, x, fun i hi => absurd hi (Nat.not_lt_zero i),
      rfl, fun i a hi => absurd hi (by simp)⟩
  | cons p ps ih =>
    intro n s x hinv hps
    have hshift : ∀ i, n + (i + 1) = n + 1 + i := fun i => by omega
    obtain ⟨hrel, hp⟩ := hps 0 p rfl
    obtain ⟨hinv', ⟨y₀, hrel₀, hQ₀⟩, hothers⟩ := h.run hinv hrel hp
    have hrest : ∀ i q, ps[i]? = some q → rel (n + 1 + i) (p.run exec s).2 (x (i + 1)) ∧
        q.wp (ok (n + 1 + i)) (next (n + 1 + i)) (Q (n + 1 + i)) (x (i + 1)) := by
      intro i q hq
      rw [← hshift]
      obtain ⟨hreli, hqi⟩ := hps (i + 1) q hq
      exact ⟨hothers _ _ (by omega) hreli, hqi⟩
    rw [joinSeq, run_andThen]
    cases hreply : (p.run exec s).1 with
    | error e =>
      rw [hreply] at hQ₀
      refine ⟨hinv', fun j z hj hz => hothers j z (by omega) hz,
        fun i => if i = 0 then y₀ else x i, fun i hi => ?_, 0, Nat.succ_pos _, hQ₀⟩
      cases i with
      | zero => exact hrel₀
      | succ i =>
        have hlt : i < ps.length := Nat.lt_of_succ_lt_succ hi
        rw [hshift]
        exact (hrest i _ (List.getElem?_eq_getElem hlt)).1
    | ok a =>
      rw [hreply] at hQ₀
      obtain ⟨hend, hbefore, y, hrels, hends⟩ := ih (n := n + 1) hinv' hrest
      dsimp only
      rw [run_mapResult]
      refine ⟨hend, fun j z hj hz => hbefore j z (by omega) (hothers j z (by omega) hz),
        fun i => if i = 0 then y₀ else y (i - 1), fun i hi => ?_, ?_⟩
      · cases i with
        | zero => exact hbefore n y₀ (by omega) hrel₀
        | succ i =>
          rw [hshift]
          exact hrels i (Nat.lt_of_succ_lt_succ hi)
      · cases hjoined : ((joinSeq ps).run exec (p.run exec s).2).1 with
        | ok as =>
          rw [hjoined] at hends
          obtain ⟨hlength, hvalues⟩ := hends
          refine ⟨congrArg Nat.succ hlength, fun i b hi => ?_⟩
          cases i with
          | zero =>
            cases hi
            exact hQ₀
          | succ i =>
            dsimp only
            rw [hshift]
            exact hvalues i b hi
        | error e =>
          rw [hjoined] at hends
          obtain ⟨i, hi, he⟩ := hends
          refine ⟨i + 1, Nat.succ_lt_succ hi, ?_⟩
          dsimp only
          rw [hshift]
          exact he

/-- Programs that run side by side keep their promises, whatever the order of polls. -/
theorem run_tryJoinAll (h : Parts exec inv rel ok next) (schedule : List ℕ) :
    ∀ (ps : List (Prog C R (Except ε α))) {s : S} {x : ℕ → σ}, inv s →
      (∀ i p, ps[i]? = some p → rel i s (x i) ∧ p.wp (ok i) (next i) (Q i) (x i)) →
      inv ((tryJoinAll schedule ps).run exec s).2 ∧
        ∃ y : ℕ → σ, (∀ i < ps.length, rel i ((tryJoinAll schedule ps).run exec s).2 (y i)) ∧
          JoinEnds Q ps.length y ((tryJoinAll schedule ps).run exec s).1 := by
  induction schedule with
  | nil =>
    intro ps s x hinv hps
    obtain ⟨hend, -, hjoined⟩ := h.run_joinSeq (n := 0) (Q := Q) hinv fun i p hp => by
      simpa only [Nat.zero_add] using hps i p hp
    simp only [Nat.zero_add] at hjoined
    exact ⟨hend, hjoined⟩
  | cons i schedule ih =>
    intro ps s x hinv hps
    rw [tryJoinAll]
    split
    · rename_i c k hi
      obtain ⟨hrel, hok, hk⟩ := hps i _ hi
      obtain ⟨hinv', y, hnext, hrel'⟩ := h.own i s (x i) c hinv hrel hok
      have hparts : ∀ j p, ps[j]? = some p → rel j (exec s c).2 (Function.update x i y j) := by
        intro j p hj
        by_cases hji : j = i
        · rw [hji, Function.update_self]
          exact hrel'
        · rw [Function.update_of_ne hji]
          exact h.others i j s (x i) (x j) c hji hinv hrel hok (hps j p hj).1
      rw [run_call]
      split
      · rename_i e he
        refine ⟨hinv', Function.update x i y, fun j hj => hparts j _ (List.getElem?_eq_getElem hj),
          i, (List.getElem?_eq_some_iff.1 hi).1, ?_⟩
        have hQ := hk _ y hnext
        rw [he] at hQ
        rw [Function.update_self]
        exact hQ
      · have hset := ih (ps.set i (k (exec s c).1)) (x := Function.update x i y) hinv'
          fun j p hj => ?_
        · rwa [List.length_set] at hset
        · by_cases hji : j = i
          · subst hji
            have hlt := (List.getElem?_eq_some_iff.1 hi).1
            rw [List.getElem?_set_self hlt] at hj
            cases hj
            refine ⟨?_, ?_⟩
            · rw [Function.update_self]
              exact hrel'
            · rw [Function.update_self]
              exact hk _ y hnext
          · rw [List.getElem?_set_ne (Ne.symm hji)] at hj
            refine ⟨hparts j p hj, ?_⟩
            rw [Function.update_of_ne hji]
            exact (hps j p hj).2
    · exact ih ps hinv hps

end Parts

end Prog

end Interaction
