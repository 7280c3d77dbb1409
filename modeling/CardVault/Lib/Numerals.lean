import Mathlib.Data.List.Induction
import Mathlib.Data.Nat.Notation
import Mathlib.Tactic.Ring

/-!
# Numerals of fixed width

Numbers written with a fixed number of digits in some base, the most significant
digit first: the bytes of a machine integer, the decimal digits of a field that is
padded with zeros.

Main results:

* `value_digits`: the digits of a number denote it, if it fits.
* `digits_value`: digits are those of the number they denote.
* `drop_digits`, `value_replicate_zero_append`: leading digits.
-/

namespace Numeral

/-- The last `w` digits of `n` in base `b`. -/
def digits (b : ℕ) : ℕ → ℕ → List ℕ
  | 0, _ => []
  | w + 1, n => digits b w (n / b) ++ [n % b]

/-- The number that digits in base `b` denote. -/
def value (b : ℕ) (ds : List ℕ) : ℕ := ds.foldl (fun acc d => acc * b + d) 0

variable {b : ℕ}

@[simp] theorem length_digits (b w n : ℕ) : (digits b w n).length = w := by
  induction w generalizing n with
  | zero => rfl
  | succ w ih => rw [digits, List.length_append, ih, List.length_singleton]

theorem digits_lt (hb : 0 < b) (w n : ℕ) : ∀ d ∈ digits b w n, d < b := by
  induction w generalizing n with
  | zero => simp [digits]
  | succ w ih =>
    intro d hd
    rw [digits, List.mem_append, List.mem_singleton] at hd
    rcases hd with hd | rfl
    · exact ih _ d hd
    · exact Nat.mod_lt _ hb

theorem value_append_single (ds : List ℕ) (d : ℕ) :
    value b (ds ++ [d]) = value b ds * b + d := by
  rw [value, List.foldl_append]
  rfl

/-- The digits of a number denote it, if it fits. -/
theorem value_digits {w n : ℕ} (h : n < b ^ w) : value b (digits b w n) = n := by
  induction w generalizing n with
  | zero =>
    rw [pow_zero] at h
    have hzero : n = 0 := by omega
    rw [hzero]
    rfl
  | succ w ih =>
    have hdiv : n / b < b ^ w := Nat.div_lt_of_lt_mul (by rwa [pow_succ, mul_comm] at h)
    rw [digits, value_append_single, ih hdiv, mul_comm]
    exact Nat.div_add_mod n b

theorem value_lt {ds : List ℕ} (h : ∀ d ∈ ds, d < b) : value b ds < b ^ ds.length := by
  induction ds using List.reverseRecOn with
  | nil => simp [value]
  | append_singleton ds d ih =>
    have hd := h d (by simp)
    have hds := ih fun e he => h e (by simp [he])
    rw [value_append_single, List.length_append, List.length_singleton, pow_succ]
    calc value b ds * b + d < value b ds * b + b := by omega
      _ = (value b ds + 1) * b := by ring
      _ ≤ b ^ ds.length * b := Nat.mul_le_mul_right b hds

/-- Digits are those of the number they denote. -/
theorem digits_value {ds : List ℕ} (h : ∀ d ∈ ds, d < b) :
    digits b ds.length (value b ds) = ds := by
  induction ds using List.reverseRecOn with
  | nil => rfl
  | append_singleton ds d ih =>
    have hd := h d (by simp)
    have hds := ih fun e he => h e (by simp [he])
    have hlast : value b (ds ++ [d]) / b = value b ds ∧ value b (ds ++ [d]) % b = d := by
      have hpos : 0 < b := by omega
      rw [value_append_single, Nat.add_comm, Nat.add_mul_div_right d _ hpos,
        Nat.add_mul_mod_self_right]
      exact ⟨by rw [Nat.div_eq_of_lt hd, Nat.zero_add], Nat.mod_eq_of_lt hd⟩
    rw [List.length_append, List.length_singleton, digits, hlast.1, hlast.2, hds]

/-- Zeros in front do not count. -/
theorem value_replicate_zero_append (k : ℕ) (ds : List ℕ) :
    value b (List.replicate k 0 ++ ds) = value b ds := by
  have hzeros : (List.replicate k 0).foldl (fun acc d => acc * b + d) 0 = 0 := by
    induction k with
    | zero => rfl
    | succ k ih =>
      rw [List.replicate_succ, List.foldl_cons, zero_mul, zero_add]
      exact ih
  rw [value, List.foldl_append, hzeros]
  rfl

/-- The digits after the first `k` are those of a shorter numeral. -/
theorem drop_digits (k w n : ℕ) : (digits b (k + w) n).drop k = digits b w n := by
  induction w generalizing n with
  | zero => exact List.drop_of_length_le (by simp)
  | succ w ih =>
    rw [← Nat.add_assoc, digits, List.drop_append_of_le_length (by simp), ih]
    rfl

end Numeral
