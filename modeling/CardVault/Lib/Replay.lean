import Mathlib.Data.List.Basic
import Mathlib.Logic.Function.Basic

/-!
# Replaying sharded FIFO queues

A `Replay ν ε δ` has a FIFO queue of entries `ε` for each shard `ν` and a
database `δ`. Draining a shard pops the head of its queue and applies it;
`drains` drains a list of shards in any order.

Main results:

* `drain_suffix`: draining only removes entries, from the front.
* `drains_view`: what the database shows of one key, when all entries that can
  change it are in one shard, is the result of a prefix of that shard's queue.
* `drains_replicate`: every prefix of a queue can be drained on its own.
* `drains_extend`, `drains_sim`: a replay with further entries at the ends of
  its queues simulates, and is simulated by, the replay without them.
-/

namespace Stream

/-- A FIFO queue for each shard, and the database they are replayed into. -/
structure Replay (ν ε δ : Type) where
  queues : ν → List ε
  db : δ

namespace Replay

variable {ν ε δ V : Type} [DecidableEq ν] (apply : ε → δ → δ)

/-- Pop the head of the queue of shard `n` and apply it. -/
def drain (s : Replay ν ε δ) (n : ν) : Replay ν ε δ :=
  match s.queues n with
  | [] => s
  | e :: rest => ⟨Function.update s.queues n rest, apply e s.db⟩

/-- Drain the shards of `ns` one after the other. -/
def drains (ns : List ν) (s : Replay ν ε δ) : Replay ν ε δ := ns.foldl (drain apply) s

variable {apply} {s : Replay ν ε δ} {n : ν}

theorem drain_of_nil (h : s.queues n = []) : s.drain apply n = s := by
  simp only [drain, h]

theorem drain_of_cons {e : ε} {rest : List ε} (h : s.queues n = e :: rest) :
    s.drain apply n = ⟨Function.update s.queues n rest, apply e s.db⟩ := by
  simp only [drain, h]

@[simp] theorem drains_nil (s : Replay ν ε δ) : drains apply [] s = s := rfl

@[simp] theorem drains_cons (n : ν) (ns : List ν) (s : Replay ν ε δ) :
    drains apply (n :: ns) s = drains apply ns (s.drain apply n) := rfl

theorem drain_suffix (s : Replay ν ε δ) (n m : ν) :
    (s.drain apply n).queues m <:+ s.queues m := by
  cases h : s.queues n with
  | nil => exact ⟨[], by rw [drain_of_nil h, List.nil_append]⟩
  | cons e rest =>
    rw [drain_of_cons h]
    by_cases hm : m = n
    · subst hm
      simp [h]
    · simp [hm]

/-- `k` turns of shard `n` apply the first `k` entries of its queue. -/
theorem drains_replicate (k : ℕ) (s : Replay ν ε δ) (n : ν) :
    drains apply (List.replicate k n) s =
      ⟨Function.update s.queues n ((s.queues n).drop k),
        ((s.queues n).take k).foldl (fun d e => apply e d) s.db⟩ := by
  induction k generalizing s with
  | zero => simp
  | succ k ih =>
    rw [List.replicate_succ, drains_cons, ih]
    cases h : s.queues n with
    | nil => simp [drain_of_nil h, h]
    | cons e rest => simp [drain_of_cons h]

/-! ## The view of one key -/

/-- `view` is what the database shows of one key and `act` what an entry does
    to it. When the entries outside shard `m` do nothing to the view, it is the
    result of the entries drained from shard `m`. -/
theorem drains_view {view : δ → V} {act : ε → V → V} {m : ν} (ns : List ν) (s : Replay ν ε δ)
    (hview : ∀ n, ∀ e ∈ s.queues n, ∀ d, view (apply e d) = act e (view d))
    (hother : ∀ n, n ≠ m → ∀ e ∈ s.queues n, ∀ v, act e v = v) :
    ∃ done, s.queues m = done ++ (drains apply ns s).queues m ∧
      view (drains apply ns s).db = done.foldl (fun v e => act e v) (view s.db) := by
  induction ns generalizing s with
  | nil => exact ⟨[], rfl, rfl⟩
  | cons n ns ih =>
    have hsub : ∀ i, ∀ e ∈ (s.drain apply n).queues i, e ∈ s.queues i :=
      fun i e he => (drain_suffix s n i).subset he
    obtain ⟨done, hq, hv⟩ := ih (s.drain apply n) (fun i e he => hview i e (hsub i e he))
      (fun i hi e he => hother i hi e (hsub i e he))
    rw [drains_cons, hv]
    cases h : s.queues n with
    | nil =>
      rw [drain_of_nil h] at hq ⊢
      exact ⟨done, hq, rfl⟩
    | cons e rest =>
      have he : e ∈ s.queues n := by simp [h]
      rw [drain_of_cons h] at hq ⊢
      dsimp only at hq ⊢
      rw [hview n e he]
      by_cases hn : n = m
      · subst hn
        rw [Function.update_self] at hq
        exact ⟨e :: done, by rw [h, List.cons_append, ← hq], rfl⟩
      · rw [Function.update_of_ne (Ne.symm hn)] at hq
        exact ⟨done, hq, by rw [hother n hn e he]⟩

/-! ## Further entries at the ends of the queues -/

/-- `t` has the queues of `s`, each followed by the entries of `extra`. -/
def Extends (extra : ν → List ε) (s t : Replay ν ε δ) : Prop :=
  ∀ n, t.queues n = s.queues n ++ extra n

/-- Whatever drains of `s` reach, drains of a replay that extends it reach with
    the same entries applied; `D` relates the databases. -/
theorem drains_extend {D : δ → δ → Prop} (happly : ∀ e d d', D d d' → D (apply e d) (apply e d'))
    {extra : ν → List ε} (ns : List ν) {s t : Replay ν ε δ} (hext : Extends extra s t)
    (hD : D s.db t.db) :
    ∃ ms, Extends extra (drains apply ns s) (drains apply ms t) ∧
      D (drains apply ns s).db (drains apply ms t).db := by
  induction ns generalizing s t with
  | nil => exact ⟨[], hext, hD⟩
  | cons n ns ih =>
    cases h : s.queues n with
    | nil =>
      rw [drains_cons, drain_of_nil h]
      exact ih hext hD
    | cons e rest =>
      have ht : t.queues n = e :: (rest ++ extra n) := by rw [hext n, h]; rfl
      have hext' : Extends extra (s.drain apply n) (t.drain apply n) := by
        intro i
        rw [drain_of_cons h, drain_of_cons ht]
        by_cases hi : i = n
        · subst hi; simp
        · simp [hi, hext i]
      obtain ⟨ms, h1, h2⟩ := ih hext' (by
        rw [drain_of_cons h, drain_of_cons ht]; exact happly _ _ _ hD)
      exact ⟨n :: ms, h1, h2⟩

/-- Whatever drains of a replay `t` that extends `s` reach, drains of `s` reach
    too, up to the entries added: these keep the databases related by `D` in
    every state that `s` can be drained to. -/
theorem drains_sim {D : δ → δ → Prop} (happly : ∀ e d d', D d d' → D (apply e d) (apply e d'))
    (ns : List ν) {extra : ν → List ε} {s t : Replay ν ε δ} (hext : Extends extra s t)
    (hD : D s.db t.db)
    (hextra : ∀ ms n, ∀ e ∈ extra n, ∀ d, D (drains apply ms s).db d →
      D (drains apply ms s).db (apply e d)) :
    ∃ ms, D (drains apply ms s).db (drains apply ns t).db := by
  induction ns generalizing s t extra with
  | nil => exact ⟨[], hD⟩
  | cons n ns ih =>
    cases h : s.queues n with
    | cons e rest =>
      have ht : t.queues n = e :: (rest ++ extra n) := by rw [hext n, h]; rfl
      have hext' : Extends extra (s.drain apply n) (t.drain apply n) := by
        intro i
        rw [drain_of_cons h, drain_of_cons ht]
        by_cases hi : i = n
        · subst hi; simp
        · simp [hi, hext i]
      obtain ⟨ms, hms⟩ := ih hext'
        (by rw [drain_of_cons h, drain_of_cons ht]; exact happly _ _ _ hD)
        (fun ms i e' he' d hd => hextra (n :: ms) i e' he' d hd)
      exact ⟨n :: ms, hms⟩
    | nil =>
      have ht : t.queues n = extra n := by rw [hext n, h]; rfl
      cases hx : extra n with
      | nil =>
        rw [drains_cons, drain_of_nil (ht.trans hx)]
        exact ih hext hD hextra
      | cons e rest =>
        -- the entry drained is an added one: `s` stays where it is
        rw [drains_cons, drain_of_cons (ht.trans hx)]
        have hext' : Extends (Function.update extra n rest) s
            ⟨Function.update t.queues n rest, apply e t.db⟩ := by
          intro i
          by_cases hi : i = n
          · subst hi; simp [h]
          · simp [hi, hext i]
        refine ih hext' (hextra [] n e (by simp [hx]) _ hD)
          (fun ms i e' he' d hd => hextra ms i e' ?_ d hd)
        by_cases hi : i = n
        · subst hi; simp only [Function.update_self] at he'; simp [hx, he']
        · simpa [hi] using he'

end Replay

end Stream
