import CardVault.Storage.Types
import CardVault.ApiError
import CardVault.Lib.Text

/-!
# AES-256-GCM and hex

`GcmAes256::decrypt` (`src/src/crypto/encryption_manager/managers/aes.rs`) over
the `ring` crate, and `hex::decode`.

Main results:
* `hexDecode_append`: the text of two byte strings after each other.
* `hexDecode_hexEncode`: what is printed in hexadecimal reads back.
-/

namespace CardVault

/-! ## Hex -/

/-- The value of one hexadecimal digit, of either case. -/
def hexValue (c : Char) : Option ℕ :=
  if '0' ≤ c ∧ c ≤ '9' then some (c.toNat - '0'.toNat)
  else if 'a' ≤ c ∧ c ≤ 'f' then some (c.toNat - 'a'.toNat + 10)
  else if 'A' ≤ c ∧ c ≤ 'F' then some (c.toNat - 'A'.toNat + 10)
  else none

/-- `hex::decode`, digit by digit. -/
def hexDecodeChars : List Char → Option Bytes
  | [] => some []
  | [_] => none
  | high :: low :: rest =>
    match hexValue high, hexValue low, hexDecodeChars rest with
    | some h, some l, some bytes => some (UInt8.ofNat (16 * h + l) :: bytes)
    | _, _, _ => none

/-- `hex::decode`. -/
def hexDecode (text : String) : Option Bytes := hexDecodeChars text.toList

theorem hexDecodeChars_append (text text' : List Char) :
    ∀ data data', hexDecodeChars text = some data → hexDecodeChars text' = some data' →
      hexDecodeChars (text ++ text') = some (data ++ data') := by
  induction text using hexDecodeChars.induct with
  | case1 =>
    intro data data' h h'
    cases h
    exact h'
  | case2 c =>
    intro data data' h
    cases h
  | case3 high low rest h l bytes hrest hlow hhigh ih =>
    intro data data' hdata hdata'
    simp only [hexDecodeChars, hhigh, hlow, hrest, Option.some.injEq] at hdata
    subst hdata
    simp only [List.cons_append, hexDecodeChars, hhigh, hlow, ih _ _ hrest hdata']
  | case4 high low rest hnone ih =>
    intro data data' hdata
    rw [hexDecodeChars] at hdata
    split at hdata
    · exact absurd hdata (by simp_all)
    · cases hdata

theorem hexDecode_append {text text' : String} {data data' : Bytes}
    (h : hexDecode text = some data) (h' : hexDecode text' = some data') :
    hexDecode (text ++ text') = some (data ++ data') := by
  have happ := hexDecodeChars_append text.toList text'.toList data data' h h'
  rwa [← String.toList_append] at happ

theorem hexValue_hexDigit {n : ℕ} (h : n < 16) : hexValue (Text.hexDigit n) = some n := by
  have hall : ∀ m < 16, hexValue (Text.hexDigit m) = some m := by decide
  exact hall n h

theorem hexDecodeChars_flatMap (bytes : Bytes) :
    hexDecodeChars (bytes.flatMap Text.hexByte) = some bytes := by
  induction bytes with
  | nil => rfl
  | cons b bytes ih =>
    have hb := b.toNat_lt
    have hhigh : hexValue (Text.hexDigit (b.toNat / 16)) = some (b.toNat / 16) :=
      hexValue_hexDigit (by omega)
    have hlow : hexValue (Text.hexDigit (b.toNat % 16)) = some (b.toNat % 16) :=
      hexValue_hexDigit (by omega)
    rw [List.flatMap_cons, Text.hexByte, List.cons_append, List.cons_append, List.nil_append,
      hexDecodeChars, hhigh, hlow, ih]
    dsimp only
    rw [Nat.div_add_mod, UInt8.ofNat_toNat]

/-- What is printed in hexadecimal reads back. -/
theorem hexDecode_hexEncode (bytes : Bytes) : hexDecode (Text.hexEncode bytes) = some bytes := by
  rw [hexDecode, Text.hexEncode, String.toList_ofList, hexDecodeChars_flatMap]

/-! ## GcmAes256 -/

/-- `ring::aead::OpeningKey::open_within` with `AES_256_GCM` and no additional
    data: key, nonce, ciphertext with its tag. -/
abbrev OpenWithin := Bytes → Bytes → Bytes → Option Bytes

/-- `ring::aead::NONCE_LEN`. -/
def nonceLen : ℕ := 12

/-- `GcmAes256`. -/
structure GcmAes256 where
  secret : Bytes
  deriving DecidableEq, Repr

/-- `GcmAes256::decrypt`. The nonce is sliced off the input, so a short input
    panics. -/
def GcmAes256.decrypt (openWithin : OpenWithin) (self : GcmAes256) (input : Bytes) :
    Except (Fault CryptoError) Bytes :=
  if self.secret.length = 32 then
    if nonceLen ≤ input.length then
      match openWithin self.secret (input.take nonceLen) (input.drop nonceLen) with
      | some output => .ok output
      | none => .error (.error .decryptionError)
    else .error .panicked
  else .error (.error .decryptionError)

/-- `ring::aead::SealingKey::seal_in_place_append_tag` with `AES_256_GCM` and no
    additional data: key, nonce, plaintext. -/
abbrev SealInPlace := Bytes → Bytes → Bytes → Option Bytes

/-- `GcmAes256::encrypt` with the nonce it draws, if the random number generator
    answers: the nonce goes in front. -/
def GcmAes256.encrypt (sealInPlace : SealInPlace) (nonce : Option Bytes) (self : GcmAes256)
    (input : Bytes) : Except CryptoError Bytes :=
  match nonce with
  | none => .error .encryptionError
  | some nonce =>
    if self.secret.length = 32 then
      match sealInPlace self.secret nonce input with
      | some output => .ok (nonce ++ output)
      | none => .error .encryptionError
    else .error .encryptionError

end CardVault
