import Mathlib.Algebra.GroupWithZero.Nat
import Mathlib.Data.List.Basic
import Mathlib.Data.List.DropRight
import Mathlib.Data.String.Basic

/-!
# Joined and encoded text

Text that is built by joining parts with a separator character, and hexadecimal
digits.

Main results:

* `intercalate_unique_iff`: joined text determines its parts, among as many
  parts, exactly when none of them contains the separator.
* `append_separator_ne_iff`: names in two namespaces are apart exactly when neither
  namespace lies in the other.
* `hexEncode_injective`: hexadecimal text determines its bytes.
-/

namespace Text

/-! ## Joined text -/

section Join

variable {α : Type} [DecidableEq α] {x : α}

theorem count_intercalate {ps : List (List α)} (h : ps ≠ []) :
    ([x].intercalate ps).count x + 1 = (ps.map fun p => p.count x).sum + ps.length := by
  induction ps with
  | nil => exact absurd rfl h
  | cons p ps ih =>
    cases ps with
    | nil => simp
    | cons q ps =>
      have := ih (by simp)
      simp only [List.intercalate_cons_cons, List.count_append, List.count_singleton_self,
        List.map_cons, List.sum_cons, List.length_cons] at this ⊢
      omega

/-- Parts without the separator are determined by the joined text. -/
theorem eq_of_intercalate_eq {ps qs : List (List α)} (hps : ∀ p ∈ ps, x ∉ p) (hne : ps ≠ [])
    (hlen : qs.length = ps.length) (h : [x].intercalate qs = [x].intercalate ps) : qs = ps := by
  have hne' : qs ≠ [] := fun hnil => hne (List.length_eq_zero_iff.1 (by rw [← hlen, hnil]; rfl))
  have hzero : (ps.map fun p => p.count x).sum = 0 :=
    List.sum_eq_zero_iff_forall_eq_nat.2 fun n hn => by
      obtain ⟨p, hp, rfl⟩ := List.mem_map.1 hn
      exact List.count_eq_zero.2 (hps p hp)
  have hcount : (qs.map fun q => q.count x).sum = 0 := by
    have hp := count_intercalate (x := x) hne
    have hq := count_intercalate (x := x) hne'
    rw [h] at hq
    omega
  have hqs : ∀ q ∈ qs, x ∉ q := fun q hq =>
    List.count_eq_zero.1 (List.sum_eq_zero_iff_forall_eq_nat.1 hcount _ (List.mem_map_of_mem hq))
  rw [← List.splitOn_intercalate x hqs hne', h, List.splitOn_intercalate x hps hne]

/-- A list has one part more than separators. -/
theorem length_splitOn (text : List α) : (text.splitOn x).length = text.count x + 1 := by
  induction text with
  | nil => rfl
  | cons y text ih =>
    rw [List.splitOn_cons_eq_if_modifyHead, List.count_cons]
    split
    · rw [List.length_cons, ih]
    · rw [List.length_modifyHead, ih, Nat.add_zero]

/-- No part of a split list contains the separator. -/
theorem not_mem_of_mem_splitOn {text part : List α} (h : part ∈ text.splitOn x) : x ∉ part := by
  have hcount := count_intercalate (x := x) (List.splitOn_ne_nil x text)
  rw [List.intercalate_splitOn, length_splitOn] at hcount
  have hzero : ((text.splitOn x).map fun p => p.count x).sum = 0 := by omega
  exact List.count_eq_zero.1
    (List.sum_eq_zero_iff_forall_eq_nat.1 hzero _ (List.mem_map_of_mem h))

/-- A part that contains the separator can be cut there, and the text joined
    from other parts. -/
theorem exists_other_parts {ps : List (List α)} (h : 2 ≤ ps.length) {p : List α} (hp : p ∈ ps)
    (hx : x ∈ p) :
    ∃ qs, qs.length = ps.length ∧ [x].intercalate qs = [x].intercalate ps ∧ qs ≠ ps := by
  induction ps with
  | nil => simp at hp
  | cons q ps ih =>
    obtain ⟨r, rest, rfl⟩ : ∃ r rest, ps = r :: rest := by
      cases ps with
      | nil => simp at h
      | cons r rest => exact ⟨r, rest, rfl⟩
    by_cases hq : x ∈ q
    · obtain ⟨a, b, rfl⟩ := List.append_of_mem hq
      refine ⟨a :: (b ++ x :: r) :: rest, rfl, ?_, by simp⟩
      cases rest <;> simp
    have hp' : p ∈ r :: rest := by
      rcases List.mem_cons.1 hp with rfl | hp
      · exact absurd hx hq
      · exact hp
    cases rest with
    | nil =>
      obtain rfl := List.mem_singleton.1 hp'
      obtain ⟨a, b, rfl⟩ := List.append_of_mem hx
      exact ⟨[q ++ x :: a, b], rfl, by simp, by simp⟩
    | cons r' rest =>
      obtain ⟨qs, hlen, heq, hne⟩ := ih (by simp) hp'
      have hqs : qs ≠ [] := fun hnil => by simp [hnil] at hlen
      refine ⟨q :: qs, by simp [hlen], ?_, by simpa using hne⟩
      rw [List.intercalate_cons_of_ne_nil hqs, heq, ← List.intercalate_cons_of_ne_nil (by simp)]

end Join

/-- Two different namespaces share no name exactly when neither lies in the other. -/
theorem append_separator_ne_iff {α : Type} {x : α} {p q : List α} (hne : p ≠ q) :
    (∀ k k', p ++ x :: k ≠ q ++ x :: k') ↔ ¬ (p ++ [x]) <+: q ∧ ¬ (q ++ [x]) <+: p := by
  constructor
  · intro h
    constructor
    · rintro ⟨rest, rfl⟩
      exact h (rest ++ [x]) [] (by simp)
    · rintro ⟨rest, rfl⟩
      exact h [] (rest ++ [x]) (by simp)
  · rintro ⟨hpq, hqp⟩ k k' heq
    rcases List.append_eq_append_iff.1 heq with ⟨rest, hq, hrest⟩ | ⟨rest, hp, hrest⟩
    · cases rest with
      | nil => exact hne (by simpa using hq.symm)
      | cons y rest =>
        obtain ⟨rfl, -⟩ := List.cons.inj hrest
        exact hpq ⟨rest, by simp [hq]⟩
    · cases rest with
      | nil => exact hne (by simpa using hp)
      | cons y rest =>
        obtain ⟨rfl, -⟩ := List.cons.inj hrest
        exact hqp ⟨rest, by simp [hp]⟩

/-- Joined text determines its parts, among as many parts, exactly when none of
    them contains the separator. -/
theorem intercalate_unique_iff {c : Char} {ps : List String} (h : 2 ≤ ps.length) :
    (∀ qs : List String, qs.length = ps.length →
        (String.singleton c).intercalate qs = (String.singleton c).intercalate ps → qs = ps) ↔
      ∀ p ∈ ps, c ∉ p.toList := by
  have hjoin : ∀ qs : List String, ((String.singleton c).intercalate qs).toList =
      [c].intercalate (qs.map String.toList) := fun qs => by simp
  constructor
  · intro hall p hp hc
    have hlen : 2 ≤ (ps.map String.toList).length := by simpa using h
    obtain ⟨qs, hlen, heq, hne⟩ := exists_other_parts hlen (List.mem_map_of_mem hp) hc
    have hmap : (qs.map String.ofList).map String.toList = qs := by simp
    refine hne ?_
    rw [← hall (qs.map String.ofList) (by simpa using hlen) ?_, hmap]
    rw [← String.toList_inj, hjoin, hjoin, hmap, heq]
  · intro hplain qs hlen heq
    have hparts : qs.map String.toList = ps.map String.toList := by
      refine eq_of_intercalate_eq (x := c) ?_ ?_ (by simpa using hlen) ?_
      · intro p hp
        obtain ⟨p', hp', rfl⟩ := List.mem_map.1 hp
        exact hplain p' hp'
      · intro hnil
        simp [List.map_eq_nil_iff.1 hnil] at h
      · rw [← hjoin, ← hjoin, heq]
    exact List.map_injective_iff.2 (fun _ _ h => String.toList_inj.1 h) hparts

/-! ## White space -/

/-- The Unicode property `White_Space`. -/
def isWhiteSpace (c : Char) : Bool :=
  c.toNat ∈ [0x9, 0xA, 0xB, 0xC, 0xD, 0x20, 0x85, 0xA0, 0x1680, 0x2028, 0x2029, 0x202F, 0x205F,
    0x3000] ∨ 0x2000 ≤ c.toNat ∧ c.toNat ≤ 0x200A

/-- `str::trim` leaves nothing. -/
def isBlank (text : String) : Bool := text.toList.all isWhiteSpace

/-- `str::trim`. -/
def trim (text : String) : String :=
  String.ofList ((text.toList.dropWhile isWhiteSpace).rdropWhile isWhiteSpace)

/-! ## Hexadecimal text -/

/-- The digit of a number below 16, in lower case. -/
def hexDigit (n : ℕ) : Char :=
  if n < 10 then Char.ofNat (48 + n) else Char.ofNat (87 + n)

/-- The two digits of a byte. -/
def hexByte (b : UInt8) : List Char := [hexDigit (b.toNat / 16), hexDigit (b.toNat % 16)]

/-- Lower-case hexadecimal text of a byte string. -/
def hexEncode (bytes : List UInt8) : String := String.ofList (bytes.flatMap hexByte)

theorem hexDigit_inj {m n : ℕ} (hm : m < 16) (hn : n < 16) (h : hexDigit m = hexDigit n) :
    m = n := by
  have key : ∀ m < 16, ∀ n < 16, hexDigit m = hexDigit n → m = n := by decide
  exact key m hm n hn h

theorem hexByte_inj {a b : UInt8} (h : hexByte a = hexByte b) : a = b := by
  simp only [hexByte, List.cons.injEq, and_true] at h
  have ha := a.toNat_lt
  have hb := b.toNat_lt
  have h1 := hexDigit_inj (by omega) (by omega) h.1
  have h2 := hexDigit_inj (by omega) (by omega) h.2
  exact UInt8.toNat_inj.1 (by omega)

theorem hexEncode_injective : Function.Injective hexEncode := by
  intro a b h
  have h' : a.flatMap hexByte = b.flatMap hexByte := by
    simpa [hexEncode] using congrArg String.toList h
  clear h
  induction a generalizing b with
  | nil =>
    cases b with
    | nil => rfl
    | cons y b => simp [hexByte] at h'
  | cons x a ih =>
    cases b with
    | nil => simp [hexByte] at h'
    | cons y b =>
      simp only [List.flatMap_cons] at h'
      obtain ⟨hxy, hab⟩ := List.append_inj h' rfl
      rw [hexByte_inj hxy, ih hab]

end Text
