import CardVault.Api.Cards
import Mathlib.Data.Nat.Digits.Defs

/-!
# Card number validation

The checks on card numbers (`src/src/validations.rs`) step by step, on `u8` whose
operations may overflow, against Luhn's algorithm as textbooks have it.

Main results:
* `sanitizeCardNumberSteps_eq`: step by step the checks do what `sanitizeCardNumber` says,
  and nothing overflows.
* `sanitizeCardNumber_exact`: which texts pass.
* `luhn_detects`: a wrong digit, and all but one kind of swapped digits, are noticed.
-/

namespace CardVault

/-! ## Step by step -/

/-- `str::split_whitespace`: the parts between white space that are not empty. -/
def splitWhitespace (text : List Char) : List (List Char) :=
  (text.splitOnP Text.isWhiteSpace).filter fun part => part ≠ []

/-- `char::to_digit(10)`. -/
def toDigit (c : Char) : Option ℕ := if c.isDigit then some (c.toNat - '0'.toNat) else none

/-- `validate_card_number_chars`, with its `try_fold`. -/
def validateCardNumberCharsFold (number : List Char) : Except ApiError (List ℕ) :=
  number.foldlM (fun data character =>
    match toDigit character with
    | none => .error (.validationError "invalid character found in card number")
    | some digit => .ok (data ++ [digit])) []

/-- A value of type `u8`; `none` is an overflow, or a cast that truncates. -/
def checkedU8 (n : ℕ) : Option ℕ := if n < 256 then some n else none

/-- The term of one digit in `luhn`, `idx` places from the right. -/
def luhnTermChecked (element idx : ℕ) : Option ℕ :=
  (checkedU8 (element * 2)).bind fun doubled =>
    (checkedU8 (doubled / 10 + doubled % 10)).bind fun added =>
      (checkedU8 idx).bind fun idxU8 =>
        (checkedU8 (added * (idxU8 % 2))).bind fun odd =>
          (checkedU8 (idx + 1)).bind fun idxU8 =>
            (checkedU8 (element * (idxU8 % 2))).bind fun even =>
              checkedU8 (odd + even)

/-- `luhn` on `u8`. -/
def luhnChecked (number : List ℕ) : Option Bool :=
  (number.reverse.zipIdx.foldlM (fun sum (element, idx) =>
    (luhnTermChecked element idx).bind fun term => checkedU8 (sum + term)) 0).map
      fun sum => sum % 10 = 0

/-- `sanitize_card_number` step by step; an overflow panics. -/
def sanitizeCardNumberSteps (cardNumber : String) : Except (Fault ApiError) Bool :=
  match validateCardNumberCharsFold (splitWhitespace cardNumber.toList).flatten with
  | .error e => .error (.error e)
  | .ok number =>
    match validateCardNumberLength number with
    | .error e => .error (.error e)
    | .ok number =>
      match luhnChecked number with
      | none => .error .panicked
      | some valid => .ok valid

theorem flatten_splitOnP (text : List Char) :
    (text.splitOnP Text.isWhiteSpace).flatten = text.filter fun c => !Text.isWhiteSpace c := by
  induction text with
  | nil => rfl
  | cons c text ih =>
    rw [List.splitOnP_cons_eq_if_modifyHead]
    by_cases hc : Text.isWhiteSpace c = true
    · rw [if_pos hc, List.flatten_cons, List.nil_append, ih,
        List.filter_cons_of_neg (by rw [hc]; decide)]
    · obtain ⟨part, parts, hsplit⟩ :=
        List.exists_cons_of_ne_nil (List.splitOnP_ne_nil Text.isWhiteSpace text)
      rw [hsplit, List.flatten_cons] at ih
      rw [if_neg hc, hsplit, List.modifyHead_cons, List.flatten_cons, List.cons_append, ih,
        List.filter_cons_of_pos (by simpa using hc)]

/-- Splitting on white space and collecting the parts drops the white space. -/
theorem flatten_splitWhitespace (text : List Char) :
    (splitWhitespace text).flatten = text.filter fun c => !Text.isWhiteSpace c := by
  rw [splitWhitespace, List.flatten_filter_ne_nil, flatten_splitOnP]

/-- The fold collects the digits, or stops at the first character that is none. -/
theorem validateCardNumberCharsFold_eq (number : List Char) :
    validateCardNumberCharsFold number = validateCardNumberChars number := by
  have hfold : ∀ (chars : List Char) (data : List ℕ),
      chars.foldlM (fun data character =>
        match toDigit character with
        | none => .error (ApiError.validationError "invalid character found in card number")
        | some digit => .ok (data ++ [digit])) data =
        (validateCardNumberChars chars).map fun digits => data ++ digits := by
    intro chars
    induction chars with
    | nil =>
      intro data
      show Except.ok data = Except.ok (data ++ [])
      rw [List.append_nil]
    | cons c chars ih =>
      intro data
      rw [List.foldlM_cons]
      by_cases hc : c.isDigit = true
      · have hdigit : toDigit c = some (c.toNat - '0'.toNat) := if_pos hc
        rw [hdigit]
        show List.foldlM _ (data ++ [c.toNat - '0'.toNat]) chars = _
        rw [ih, validateCardNumberChars, validateCardNumberChars, List.all_cons, hc, Bool.true_and]
        by_cases hrest : chars.all Char.isDigit = true
        · rw [if_pos hrest, if_pos hrest]
          exact congrArg Except.ok (List.append_assoc data [c.toNat - '0'.toNat] _)
        · rw [if_neg hrest, if_neg hrest]
          rfl
      · have hdigit : toDigit c = none := if_neg hc
        have hall : ¬ (c :: chars).all Char.isDigit = true := by simp [hc]
        rw [hdigit, validateCardNumberChars, if_neg hall]
        rfl
  rw [validateCardNumberCharsFold, hfold]
  cases validateCardNumberChars number <;> rfl

/-! ## Sums -/

/-- The term of one digit, `idx` places from the right. -/
def luhnTerm : ℕ × ℕ → ℕ := fun (element, idx) =>
  ((element * 2) / 10 + (element * 2) % 10) * (idx % 2) + element * ((idx + 1) % 2)

/-- The terms of digits that are read from the right, the first of them at `idx`. -/
def luhnTerms (idx : ℕ) (digits : List ℕ) : ℕ := ((digits.zipIdx idx).map luhnTerm).sum

theorem luhn_eq (number : List ℕ) :
    luhn number = decide (luhnTerms 0 number.reverse % 10 = 0) := rfl

@[simp] theorem luhnTerms_nil (idx : ℕ) : luhnTerms idx [] = 0 := rfl

@[simp] theorem luhnTerms_cons (idx d : ℕ) (digits : List ℕ) :
    luhnTerms idx (d :: digits) = luhnTerm (d, idx) + luhnTerms (idx + 1) digits := by
  rw [luhnTerms, List.zipIdx_cons, List.map_cons, List.sum_cons]
  rfl

theorem luhnTerms_append (idx : ℕ) (digits digits' : List ℕ) :
    luhnTerms idx (digits ++ digits') =
      luhnTerms idx digits + luhnTerms (idx + digits.length) digits' := by
  induction digits generalizing idx with
  | nil => simp
  | cons d digits ih =>
    have hnext : idx + 1 + digits.length = idx + (d :: digits).length := by
      rw [List.length_cons]
      omega
    rw [List.cons_append, luhnTerms_cons, luhnTerms_cons, ih, hnext]
    omega

theorem luhnTerm_even {idx : ℕ} (h : idx % 2 = 0) (d : ℕ) : luhnTerm (d, idx) = d := by
  have hnext : (idx + 1) % 2 = 1 := by omega
  simp [luhnTerm, h, hnext]

theorem luhnTerm_odd {idx : ℕ} (h : idx % 2 = 1) (d : ℕ) :
    luhnTerm (d, idx) = d * 2 / 10 + d * 2 % 10 := by
  have hnext : (idx + 1) % 2 = 0 := by omega
  simp [luhnTerm, h, hnext]

theorem luhnTerm_le {d : ℕ} (h : d < 10) (idx : ℕ) : luhnTerm (d, idx) ≤ 9 := by
  rcases Nat.mod_two_eq_zero_or_one idx with hidx | hidx
  · rw [luhnTerm_even hidx]
    omega
  · rw [luhnTerm_odd hidx]
    omega

/-! ## No overflow -/

theorem checkedU8_eq {n : ℕ} (h : n < 256) : checkedU8 n = some n := if_pos h

/-- The term of a digit fits, at every place that a card number has. -/
theorem luhnTermChecked_eq {d idx : ℕ} (hd : d < 10) (hidx : idx < 255) :
    luhnTermChecked d idx = some (luhnTerm (d, idx)) := by
  have hle := luhnTerm_le hd idx
  have hterm : luhnTerm (d, idx) =
    (d * 2 / 10 + d * 2 % 10) * (idx % 2) + d * ((idx + 1) % 2) := rfl
  have hsum : d * 2 / 10 + d * 2 % 10 < 256 := by omega
  rw [luhnTermChecked, checkedU8_eq (by omega), Option.bind_some, checkedU8_eq hsum,
    Option.bind_some, checkedU8_eq (by omega), Option.bind_some, checkedU8_eq (by omega),
    Option.bind_some, checkedU8_eq (by omega), Option.bind_some, checkedU8_eq (by omega),
    Option.bind_some, checkedU8_eq (by omega), hterm]

/-- After `idx` digits the sum is at most nine for each of them, so it fits. -/
theorem foldlM_luhnTermChecked {digits : List ℕ} (hdigits : ∀ d ∈ digits, d < 10) (idx sum : ℕ)
    (hsum : sum ≤ 9 * idx) (hlen : idx + digits.length ≤ maxCardNumberLength) :
    (digits.zipIdx idx).foldlM (fun sum (element, idx) =>
      (luhnTermChecked element idx).bind fun term => checkedU8 (sum + term)) sum =
        some (sum + luhnTerms idx digits) := by
  induction digits generalizing idx sum with
  | nil => rfl
  | cons d digits ih =>
    have hd : d < 10 := hdigits d List.mem_cons_self
    have hle := luhnTerm_le hd idx
    rw [List.length_cons, maxCardNumberLength] at hlen
    rw [List.zipIdx_cons, List.foldlM_cons]
    dsimp only
    rw [luhnTermChecked_eq hd (by omega), Option.bind_some, checkedU8_eq (by omega)]
    show List.foldlM _ (sum + luhnTerm (d, idx)) _ = _
    rw [ih (fun e he => hdigits e (List.mem_cons_of_mem d he)) (idx + 1) _ (by omega)
      (by rw [maxCardNumberLength]; omega), luhnTerms_cons, Nat.add_assoc]

/-- No operation of `luhn` overflows on the digits of a card number. -/
theorem luhnChecked_eq {number : List ℕ} (hdigits : ∀ d ∈ number, d < 10)
    (hlen : number.length ≤ maxCardNumberLength) : luhnChecked number = some (luhn number) := by
  have hreverse : ∀ d ∈ number.reverse, d < 10 := by
    intro d hd
    exact hdigits d (List.mem_reverse.1 hd)
  have hsum := foldlM_luhnTermChecked hreverse 0 0 (Nat.zero_le _)
    (by rwa [List.length_reverse, Nat.zero_add])
  rw [luhnChecked, hsum, Nat.zero_add, luhn_eq]
  rfl

theorem digit_lt {c : Char} (h : c.isDigit = true) : c.toNat - '0'.toNat < 10 := by
  have hc : c.toNat ≤ '9'.toNat := (Char.isDigit_iff_toNat.1 h).2
  have hnine : '9'.toNat = 57 := rfl
  have hzero : '0'.toNat = 48 := rfl
  omega

/-- Step by step the checks do what `sanitizeCardNumber` says, and nothing overflows. -/
theorem sanitizeCardNumberSteps_eq (cardNumber : String) :
    sanitizeCardNumberSteps cardNumber = (sanitizeCardNumber cardNumber).mapError .error := by
  unfold sanitizeCardNumberSteps sanitizeCardNumber
  rw [validateCardNumberCharsFold_eq, flatten_splitWhitespace, validateCardNumberChars]
  by_cases hdigits : (cardNumber.toList.filter fun c => !Text.isWhiteSpace c).all Char.isDigit
  · have hlt : ∀ d ∈ (cardNumber.toList.filter fun c => !Text.isWhiteSpace c).map
        fun c => c.toNat - '0'.toNat, d < 10 := by
      intro d hd
      obtain ⟨c, hc, rfl⟩ := List.mem_map.1 hd
      exact digit_lt (List.all_eq_true.1 hdigits c hc)
    rw [if_pos hdigits]
    generalize ((cardNumber.toList.filter fun c => !Text.isWhiteSpace c).map
        fun c => c.toNat - '0'.toNat) = number at hlt
    dsimp only
    unfold validateCardNumberLength
    by_cases hlen : minCardNumberLength ≤ number.length ∧ number.length ≤ maxCardNumberLength
    · rw [if_pos hlen]
      dsimp only
      rw [luhnChecked_eq hlt hlen.2]
      rfl
    · rw [if_neg hlen]
      rfl
  · rw [if_neg hdigits]
    rfl

/-! ## Luhn's algorithm -/

/-- Luhn's sum of digits that are read from the right: every second digit is doubled, and
    the decimal digits of the result are added. -/
def luhnSum : List ℕ → ℕ
  | [] => 0
  | [d] => d
  | d :: e :: rest => d + (Nat.digits 10 (2 * e)).sum + luhnSum rest

theorem sum_digits_double {e : ℕ} (h : e < 10) :
    (Nat.digits 10 (2 * e)).sum = e * 2 / 10 + e * 2 % 10 := by
  have hall : ∀ e < 10, (Nat.digits 10 (2 * e)).sum = e * 2 / 10 + e * 2 % 10 := by
    decide +kernel
  exact hall e h

theorem luhnTerms_eq_luhnSum {digits : List ℕ} (hdigits : ∀ d ∈ digits, d < 10) {idx : ℕ}
    (hidx : idx % 2 = 0) : luhnTerms idx digits = luhnSum digits := by
  induction digits using luhnSum.induct generalizing idx with
  | case1 => rfl
  | case2 d =>
    rw [luhnTerms_cons, luhnTerm_even hidx, luhnTerms_nil, luhnSum, Nat.add_zero]
  | case3 d e rest ih =>
    have he : e < 10 := hdigits e (by simp)
    have hrest : luhnTerms (idx + 1 + 1) rest = luhnSum rest :=
      ih (fun x hx => hdigits x (by simp [hx])) (by omega)
    rw [luhnTerms_cons, luhnTerms_cons, luhnTerm_even hidx, luhnTerm_odd (by omega), hrest,
      luhnSum, sum_digits_double he]
    omega

/-- `luhn` is Luhn's algorithm. -/
theorem luhn_eq_luhnSum {number : List ℕ} (hdigits : ∀ d ∈ number, d < 10) :
    luhn number = decide (luhnSum number.reverse % 10 = 0) := by
  have hreverse : ∀ d ∈ number.reverse, d < 10 := by
    intro d hd
    exact hdigits d (List.mem_reverse.1 hd)
  rw [luhn_eq, luhnTerms_eq_luhnSum hreverse rfl]

/-! ## Card numbers -/

/-- The text with all white space removed. -/
def withoutWhiteSpace (text : String) : List Char :=
  text.toList.filter fun c => !Text.isWhiteSpace c

/-- The digits of such a text. -/
def digitsOf (text : String) : List ℕ := (withoutWhiteSpace text).map fun c => c.toNat - '0'.toNat

/-- A text of 8 to 19 digits, between which white space may stand. -/
structure IsCardNumber (text : String) : Prop where
  digits : ∀ c ∈ withoutWhiteSpace text, '0' ≤ c ∧ c ≤ '9'
  minLength : 8 ≤ (withoutWhiteSpace text).length
  maxLength : (withoutWhiteSpace text).length ≤ 19

theorem isDigit_iff (c : Char) : c.isDigit = true ↔ '0' ≤ c ∧ c ≤ '9' := by
  simp [Char.isDigit, Char.le_def]

/-- What `sanitize_card_number` answers. -/
theorem sanitizeCardNumber_cases (cardNumber : String) :
    (IsCardNumber cardNumber ∧
        sanitizeCardNumber cardNumber = .ok (luhnSum (digitsOf cardNumber).reverse % 10 = 0)) ∨
      (¬ IsCardNumber cardNumber ∧ ∃ e, sanitizeCardNumber cardNumber = .error e) := by
  unfold sanitizeCardNumber validateCardNumberChars
  by_cases hdigits : (cardNumber.toList.filter fun c => !Text.isWhiteSpace c).all Char.isDigit
  · rw [if_pos hdigits]
    have hchars : ∀ c ∈ withoutWhiteSpace cardNumber, '0' ≤ c ∧ c ≤ '9' := by
      intro c hc
      exact (isDigit_iff c).1 (List.all_eq_true.1 hdigits c hc)
    have hlt : ∀ d ∈ digitsOf cardNumber, d < 10 := by
      intro d hd
      obtain ⟨c, hc, rfl⟩ := List.mem_map.1 hd
      exact digit_lt (List.all_eq_true.1 hdigits c hc)
    have hlength : (digitsOf cardNumber).length = (withoutWhiteSpace cardNumber).length :=
      List.length_map ..
    show (IsCardNumber cardNumber ∧
        (validateCardNumberLength (digitsOf cardNumber)).map luhn = _) ∨ _ ∧ ∃ e,
        (validateCardNumberLength (digitsOf cardNumber)).map luhn = _
    unfold validateCardNumberLength
    rw [hlength]
    split
    · rename_i hlen
      refine Or.inl ⟨⟨hchars, hlen.1, hlen.2⟩, ?_⟩
      show Except.ok (luhn _) = _
      rw [luhn_eq_luhnSum hlt]
    · rename_i hlen
      exact Or.inr ⟨fun hnumber => hlen ⟨hnumber.minLength, hnumber.maxLength⟩, _, rfl⟩
  · rw [if_neg hdigits]
    refine Or.inr ⟨fun hnumber => hdigits (List.all_eq_true.2 fun c hc => ?_), _, rfl⟩
    exact (isDigit_iff c).2 (hnumber.digits c hc)

/-- The texts that pass, and that nothing overflows on the way. -/
theorem sanitizeCardNumber_exact (cardNumber : String) :
    (sanitizeCardNumberSteps cardNumber = .ok true ↔
        IsCardNumber cardNumber ∧ luhnSum (digitsOf cardNumber).reverse % 10 = 0) ∧
      (sanitizeCardNumberSteps cardNumber = .ok false ↔
        IsCardNumber cardNumber ∧ luhnSum (digitsOf cardNumber).reverse % 10 ≠ 0) ∧
      ((∃ e, sanitizeCardNumberSteps cardNumber = .error (.error e)) ↔
        ¬ IsCardNumber cardNumber) ∧
      sanitizeCardNumberSteps cardNumber ≠ .error .panicked := by
  rw [sanitizeCardNumberSteps_eq]
  rcases sanitizeCardNumber_cases cardNumber with ⟨hnumber, hok⟩ | ⟨hnumber, e, herror⟩
  · rw [hok]
    simp [Except.mapError, hnumber]
  · rw [herror]
    simp [Except.mapError, hnumber]

/-! ## Typing errors -/

/-- The doubled digits are a permutation of the digits, modulo ten. -/
theorem luhnTerm_inj (idx : ℕ) {d e : ℕ} (hd : d < 10) (he : e < 10)
    (h : luhnTerm (d, idx) % 10 = luhnTerm (e, idx) % 10) : d = e := by
  have hall : ∀ d < 10, ∀ e < 10,
      (d * 2 / 10 + d * 2 % 10) % 10 = (e * 2 / 10 + e * 2 % 10) % 10 → d = e := by decide
  rcases Nat.mod_two_eq_zero_or_one idx with hidx | hidx
  · rw [luhnTerm_even hidx, luhnTerm_even hidx] at h
    omega
  · rw [luhnTerm_odd hidx, luhnTerm_odd hidx] at h
    exact hall d hd e he h

/-- Two neighbours have different sums in either order, unless they are 0 and 9. -/
theorem luhnTerm_swap (idx : ℕ) {d e : ℕ} (hd : d < 10) (he : e < 10) (hne : d ≠ e)
    (hpair : ¬ (d = 0 ∧ e = 9)) (hpair' : ¬ (d = 9 ∧ e = 0)) :
    (luhnTerm (d, idx) + luhnTerm (e, idx + 1)) % 10 ≠
      (luhnTerm (e, idx) + luhnTerm (d, idx + 1)) % 10 := by
  have hall : ∀ d < 10, ∀ e < 10,
      (d + (e * 2 / 10 + e * 2 % 10)) % 10 = (e + (d * 2 / 10 + d * 2 % 10)) % 10 →
        d = e ∨ d = 0 ∧ e = 9 ∨ d = 9 ∧ e = 0 := by decide
  rcases Nat.mod_two_eq_zero_or_one idx with hidx | hidx
  · rw [luhnTerm_even hidx, luhnTerm_even hidx, luhnTerm_odd (by omega), luhnTerm_odd (by omega)]
    intro h
    rcases hall d hd e he h with heq | heq | heq
    · exact hne heq
    · exact hpair heq
    · exact hpair' heq
  · rw [luhnTerm_odd hidx, luhnTerm_odd hidx, luhnTerm_even (by omega), luhnTerm_even (by omega),
      Nat.add_comm _ e, Nat.add_comm _ d]
    intro h
    rcases hall e he d hd h with heq | heq | heq
    · exact hne heq.symm
    · exact hpair' ⟨heq.2, heq.1⟩
    · exact hpair ⟨heq.2, heq.1⟩

/-- The place of a digit counts from the right, so its term depends on what follows. -/
theorem luhnTerms_reverse_cons (before after : List ℕ) (d : ℕ) :
    luhnTerms 0 (before ++ d :: after).reverse =
      luhnTerms 0 after.reverse + luhnTerm (d, after.length) +
        luhnTerms (after.length + 1) before.reverse := by
  rw [List.reverse_append, List.reverse_cons, luhnTerms_append, luhnTerms_append, luhnTerms_cons,
    luhnTerms_nil, List.length_append, List.length_reverse, List.length_singleton]
  simp only [Nat.zero_add, Nat.add_zero]

/-- In two numbers that differ in one digit at most one passes. -/
theorem luhn_change {before after : List ℕ} {d e : ℕ} (hd : d < 10) (he : e < 10) (hne : e ≠ d)
    (h : luhn (before ++ d :: after) = true) : luhn (before ++ e :: after) = false := by
  rw [luhn_eq, decide_eq_true_eq, luhnTerms_reverse_cons] at h
  rw [luhn_eq, decide_eq_false_iff_not, luhnTerms_reverse_cons]
  intro h'
  exact hne (luhnTerm_inj after.length he hd (by omega))

/-- In two numbers that differ in the order of two neighbours at most one passes, unless
    these are 0 and 9. -/
theorem luhn_swap {before after : List ℕ} {d e : ℕ} (hd : d < 10) (he : e < 10) (hne : d ≠ e)
    (hpair : ¬ (d = 0 ∧ e = 9)) (hpair' : ¬ (d = 9 ∧ e = 0))
    (h : luhn (before ++ d :: e :: after) = true) :
    luhn (before ++ e :: d :: after) = false := by
  have hsplit : ∀ x y, luhnTerms 0 (before ++ x :: y :: after).reverse =
      luhnTerms 0 after.reverse + (luhnTerm (y, after.length) + luhnTerm (x, after.length + 1)) +
        luhnTerms (after.length + 2) before.reverse := by
    intro x y
    have hy := luhnTerms_reverse_cons [] after y
    rw [List.nil_append, List.reverse_nil, luhnTerms_nil, Nat.add_zero] at hy
    have htwo : after.length + 1 + 1 = after.length + 2 := rfl
    rw [luhnTerms_reverse_cons, hy, List.length_cons, htwo]
    omega
  have hterms := luhnTerm_swap after.length he hd (Ne.symm hne)
    (fun h => hpair' ⟨h.2, h.1⟩) (fun h => hpair ⟨h.2, h.1⟩)
  rw [luhn_eq, decide_eq_true_eq, hsplit] at h
  rw [luhn_eq, decide_eq_false_iff_not, hsplit]
  intro h'
  exact hterms (by omega)

/-- A number of at most 19 digits that passes does not pass with one digit changed, nor with
    two different neighbours swapped, unless these are 0 and 9. -/
theorem luhn_detects (number : List ℕ) (hdigits : ∀ d ∈ number, d < 10)
    (hmax : number.length ≤ maxCardNumberLength)
    (hluhn : luhnChecked number = some true) :
    (∀ before d after e, number = before ++ d :: after → e < 10 → e ≠ d →
        luhnChecked (before ++ e :: after) = some false) ∧
      ∀ before d e after, number = before ++ d :: e :: after → d ≠ e →
        ({d, e} : Set ℕ) ≠ {0, 9} → luhnChecked (before ++ e :: d :: after) = some false := by
  rw [luhnChecked_eq hdigits hmax] at hluhn
  have hpasses := Option.some.inj hluhn
  constructor
  · rintro before d after e rfl he hne
    have hd : d < 10 := hdigits d (by simp)
    have hdigits' : ∀ x ∈ before ++ e :: after, x < 10 := by
      intro x hx
      rw [List.mem_append, List.mem_cons] at hx
      rcases hx with hx | rfl | hx
      · exact hdigits x (by simp [hx])
      · exact he
      · exact hdigits x (by simp [hx])
    have hmax' : (before ++ e :: after).length ≤ maxCardNumberLength := by
      simpa using hmax
    rw [luhnChecked_eq hdigits' hmax', luhn_change hd he hne hpasses]
  · rintro before d e after rfl hne hpair
    have hd : d < 10 := hdigits d (by simp)
    have he : e < 10 := hdigits e (by simp)
    have hdigits' : ∀ x ∈ before ++ e :: d :: after, x < 10 := by
      intro x hx
      refine hdigits x ?_
      simp only [List.mem_append, List.mem_cons] at hx ⊢
      tauto
    have hmax' : (before ++ e :: d :: after).length ≤ maxCardNumberLength := by
      simpa using hmax
    have hzeroNine : ¬ (d = 0 ∧ e = 9) := by
      rintro ⟨rfl, rfl⟩
      exact hpair rfl
    have hnineZero : ¬ (d = 9 ∧ e = 0) := by
      rintro ⟨rfl, rfl⟩
      exact hpair (Set.pair_comm 9 0)
    rw [luhnChecked_eq hdigits' hmax', luhn_swap hd he hne hzeroNine hnineZero hpasses]

/-- A card number with a wrong first digit, and with its first two digits swapped. -/
theorem luhn_detects_card :
    luhnChecked [5, 1, 1, 1, 1, 1, 1, 1, 1, 1, 1, 1, 1, 1, 1, 1] = some false ∧
      luhnChecked [1, 4, 1, 1, 1, 1, 1, 1, 1, 1, 1, 1, 1, 1, 1, 1] = some false := by
  have hdetects := luhn_detects [4, 1, 1, 1, 1, 1, 1, 1, 1, 1, 1, 1, 1, 1, 1, 1] (by decide)
    (by decide) (by decide)
  refine ⟨hdetects.1 [] 4 _ 5 rfl (by decide) (by decide),
    hdetects.2 [] 4 1 _ rfl (by decide) fun h => ?_⟩
  have hfour : (4 : ℕ) ∈ ({0, 9} : Set ℕ) := h ▸ Set.mem_insert 4 _
  rcases hfour with hfour | hfour <;> cases hfour

end CardVault
