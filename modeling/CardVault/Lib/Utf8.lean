import Mathlib.Data.List.Basic
import Mathlib.Data.Nat.Notation

/-!
# UTF-8 on lists of bytes

The UTF-8 text of a string and back, as lists of bytes.

Main results:

* `decode_eq_some_iff`: a byte string decodes to a text exactly when it is the UTF-8 of it.
* `decode_eq_none_iff`: it does not decode exactly when it is no valid UTF-8.
* `length_le_length_encode`: a character takes at least one byte.
-/

namespace Utf8

/-- The UTF-8 of a text. -/
def encode (text : String) : List UInt8 := text.toUTF8.data.toList

/-- The text of a byte string, if it is valid UTF-8. -/
def decode (bytes : List UInt8) : Option String := String.fromUTF8? ⟨bytes.toArray⟩

/-- Bytes that are the UTF-8 of some text. -/
def IsValid (bytes : List UInt8) : Prop := ByteArray.IsValidUTF8 ⟨bytes.toArray⟩

theorem encode_toArray (text : String) : (⟨(encode text).toArray⟩ : ByteArray) = text.toUTF8 := by
  rw [encode, Array.toArray_toList]

/-- The UTF-8 of a text decodes to it. -/
@[simp] theorem decode_encode (text : String) : decode (encode text) = some text := by
  rw [decode, encode_toArray, String.fromUTF8?, String.toUTF8_eq_toByteArray,
    dif_pos text.isValidUTF8]
  rfl

/-- What decodes to a text is the UTF-8 of it. -/
theorem encode_of_decode {bytes : List UInt8} {text : String} (h : decode bytes = some text) :
    encode text = bytes := by
  unfold decode String.fromUTF8? at h
  split at h
  · cases h
    rfl
  · cases h

theorem decode_eq_some_iff {bytes : List UInt8} {text : String} :
    decode bytes = some text ↔ bytes = encode text := by
  constructor
  · intro h
    exact (encode_of_decode h).symm
  · rintro rfl
    exact decode_encode text

theorem decode_eq_none_iff {bytes : List UInt8} : decode bytes = none ↔ ¬ IsValid bytes := by
  unfold decode String.fromUTF8? IsValid
  split
  · rename_i hvalid
    simp [hvalid]
  · rename_i hvalid
    simp [hvalid]

theorem encode_injective : Function.Injective encode := by
  intro s t h
  have hs := decode_encode s
  rw [h, decode_encode] at hs
  exact (Option.some.inj hs).symm

@[simp] theorem encode_ofList (text : List Char) :
    encode (String.ofList text) = text.flatMap String.utf8EncodeChar := by
  rw [encode, String.toUTF8_eq_toByteArray, String.toByteArray_ofList, List.utf8Encode,
    List.data_toByteArray]

/-- A character takes at least one byte. -/
theorem length_le_length_encode (text : String) : text.length ≤ (encode text).length := by
  have hchars : ∀ chars : List Char,
      chars.length ≤ (chars.flatMap String.utf8EncodeChar).length := by
    intro chars
    induction chars with
    | nil => exact Nat.le_refl 0
    | cons c chars ih =>
      have hpos : 0 < (String.utf8EncodeChar c).length :=
        List.length_pos_iff.2 String.utf8EncodeChar_ne_nil
      rw [List.length_cons, List.flatMap_cons, List.length_append]
      omega
  have hencode := encode_ofList text.toList
  rw [String.ofList_toList] at hencode
  rw [hencode, ← String.length_toList]
  exact hchars text.toList

end Utf8
