import CardVault.Storage.Types

/-!
# Base64

`BASE64_ENGINE` (`src/src/crypto.rs`): the standard alphabet, with padding that
decoding insists on.

Main results:
* `base64Decode_encode`: decoding gives back what was encoded.
-/

namespace CardVault

/-- The standard alphabet. -/
def base64Alphabet : List Char :=
  "ABCDEFGHIJKLMNOPQRSTUVWXYZabcdefghijklmnopqrstuvwxyz0123456789+/".toList

/-- The character of a 6-bit value. -/
def base64Char (n : ℕ) : Char := base64Alphabet.getD n '='

/-- Three bytes become four characters; the last group is padded. -/
def base64Chars : Bytes → List Char
  | [] => []
  | [a] => [base64Char (a.toNat / 4), base64Char (a.toNat % 4 * 16), '=', '=']
  | [a, b] =>
    [base64Char (a.toNat / 4), base64Char (a.toNat % 4 * 16 + b.toNat / 16),
      base64Char (b.toNat % 16 * 4), '=']
  | a :: b :: c :: rest =>
    base64Char (a.toNat / 4) :: base64Char (a.toNat % 4 * 16 + b.toNat / 16) ::
      base64Char (b.toNat % 16 * 4 + c.toNat / 64) :: base64Char (c.toNat % 64) ::
      base64Chars rest

/-- `BASE64_ENGINE.encode`. -/
def base64Encode (data : Bytes) : String := String.ofList (base64Chars data)

example : base64Encode [77, 97, 110, 77] = "TWFuTQ==" := by decide +kernel

/-- The 6-bit value of a character. -/
def base64Value (c : Char) : Option ℕ := base64Alphabet.idxOf? c

/-- Four characters become up to three bytes. The bits that the padding cuts off
    are zero. -/
def base64DecodeChars : List Char → Option Bytes
  | [] => some []
  | a :: b :: c :: d :: rest =>
    match base64Value a, base64Value b, base64Value c, base64Value d with
    | some a, some b, some c, some d =>
      match base64DecodeChars rest with
      | some data =>
        some (UInt8.ofNat (a * 4 + b / 16) :: UInt8.ofNat (b % 16 * 16 + c / 4) ::
          UInt8.ofNat (c % 4 * 64 + d) :: data)
      | none => none
    | some a, some b, some c, none =>
      if d = '=' ∧ rest = [] ∧ c % 4 = 0 then
        some [UInt8.ofNat (a * 4 + b / 16), UInt8.ofNat (b % 16 * 16 + c / 4)]
      else none
    | some a, some b, none, none =>
      if c = '=' ∧ d = '=' ∧ rest = [] ∧ b % 16 = 0 then some [UInt8.ofNat (a * 4 + b / 16)]
      else none
    | _, _, _, _ => none
  | _ => none

/-- `BASE64_ENGINE.decode`. -/
def base64Decode (text : String) : Option Bytes := base64DecodeChars text.toList

@[simp] theorem base64Value_char {n : ℕ} (h : n < 64) : base64Value (base64Char n) = some n := by
  have hall : ∀ i : Fin 64, base64Value (base64Char i) = some i.val := by decide +kernel
  exact hall ⟨n, h⟩

@[simp] theorem base64Value_pad : base64Value '=' = none := by decide +kernel

theorem ofNat_eq {n : ℕ} {x : UInt8} (h : n = x.toNat) : UInt8.ofNat n = x := by
  rw [h, UInt8.ofNat_toNat]

theorem base64DecodeChars_base64Chars (data : Bytes) :
    base64DecodeChars (base64Chars data) = some data := by
  induction data using base64Chars.induct with
  | case1 => rfl
  | case2 a =>
    have ha := a.toNat_lt
    have hfirst : a.toNat / 4 * 4 + a.toNat % 4 * 16 / 16 = a.toNat := by omega
    have hrest : a.toNat % 4 * 16 % 16 = 0 := by omega
    rw [base64Chars, base64DecodeChars, base64Value_char (by omega), base64Value_char (by omega),
      base64Value_pad]
    simp only [hrest, and_self, if_true, ofNat_eq hfirst]
  | case3 a b =>
    have ha := a.toNat_lt
    have hb := b.toNat_lt
    have hfirst : a.toNat / 4 * 4 + (a.toNat % 4 * 16 + b.toNat / 16) / 16 = a.toNat := by omega
    have hsecond :
        (a.toNat % 4 * 16 + b.toNat / 16) % 16 * 16 + b.toNat % 16 * 4 / 4 = b.toNat := by omega
    have hrest : b.toNat % 16 * 4 % 4 = 0 := by omega
    rw [base64Chars, base64DecodeChars, base64Value_char (by omega), base64Value_char (by omega),
      base64Value_char (by omega), base64Value_pad]
    simp only [hrest, and_self, if_true, ofNat_eq hfirst, ofNat_eq hsecond]
  | case4 a b c rest ih =>
    have ha := a.toNat_lt
    have hb := b.toNat_lt
    have hc := c.toNat_lt
    have hfirst : a.toNat / 4 * 4 + (a.toNat % 4 * 16 + b.toNat / 16) / 16 = a.toNat := by omega
    have hsecond : (a.toNat % 4 * 16 + b.toNat / 16) % 16 * 16 +
        (b.toNat % 16 * 4 + c.toNat / 64) / 4 = b.toNat := by omega
    have hthird : (b.toNat % 16 * 4 + c.toNat / 64) % 4 * 64 + c.toNat % 64 = c.toNat := by omega
    rw [base64Chars, base64DecodeChars, base64Value_char (by omega), base64Value_char (by omega),
      base64Value_char (by omega), base64Value_char (by omega), ih]
    simp only [ofNat_eq hfirst, ofNat_eq hsecond, ofNat_eq hthird]

/-- Decoding gives back what was encoded. -/
theorem base64Decode_encode (data : Bytes) : base64Decode (base64Encode data) = some data := by
  unfold base64Decode base64Encode
  rw [String.toList_ofList]
  exact base64DecodeChars_base64Chars data

end CardVault
