import CardVault.Api.FreshAdd
import CardVault.Api.Validations
import CardVault.Lib.Utf8

/-!
# Equal cards

The hash that looks for duplicates (`get_hash`, `src/src/routes/data/transformers.rs`)
against the check of a request (`src/src/routes/data/types.rs`). The check reads a card
number without its white space, the hash reads it with it; and the hash reads the text
of a card and of encrypted data alike.

Main results:
* `getHash_eq_iff`: two requests have one hash when their texts agree.
* `getHash_identity_iff`: on which requests that is the right answer.
-/

namespace CardVault

/-- The same card, by its number as the check reads it, or the same encrypted data. -/
inductive SameIdentity : Data → Data → Prop where
  | card {card card' : Card}
      (h : withoutWhiteSpace card.cardNumber = withoutWhiteSpace card'.cardNumber) :
      SameIdentity (.card card) (.card card')
  | encData (text : String) : SameIdentity (.encData text) (.encData text)

/-- One card number with the white space in different places. -/
def SpacedDifferently (data data' : Data) : Prop :=
  ∃ card card', data = .card card ∧ data' = .card card' ∧
    withoutWhiteSpace card.cardNumber = withoutWhiteSpace card'.cardNumber ∧
    card.cardNumber ≠ card'.cardNumber

/-- Encrypted data that reads as the number of a card. -/
def ReadsAsNumber (data data' : Data) : Prop :=
  ∃ card, data = .encData card.cardNumber ∧ data' = .card card

section Hash

variable {encoding : Encoding}

/-- Two requests have one hash when the texts that are hashed agree. -/
theorem getHash_eq_iff (hsha : Function.Injective encoding.sha512)
    (htext : Function.Injective encoding.textToVec) (data data' : Data) :
    getHash encoding data = getHash encoding data' ↔ data.hashed = data'.hashed := by
  constructor
  · intro h
    exact htext (hsha h)
  · intro h
    rw [getHash, h, getHash]

/-- Two requests have one hash exactly when they are of one card, or of the same encrypted
    data, unless they space a card number differently, or encrypted data reads as one. -/
theorem getHash_identity_iff (hsha : Function.Injective encoding.sha512)
    (htext : Function.Injective encoding.textToVec) (data data' : Data) :
    ((getHash encoding data = getHash encoding data') ↔ SameIdentity data data') ↔
      ¬ SpacedDifferently data data' ∧ ¬ ReadsAsNumber data data' ∧
        ¬ ReadsAsNumber data' data := by
  rw [getHash_eq_iff hsha htext]
  constructor
  · intro hidentity
    refine ⟨?_, ?_, ?_⟩
    · rintro ⟨card, card', rfl, rfl, hsame, hne⟩
      exact hne (hidentity.2 (.card hsame))
    · rintro ⟨card, rfl, rfl⟩
      have hsame := hidentity.1 rfl
      cases hsame
    · rintro ⟨card, rfl, rfl⟩
      have hsame := hidentity.1 rfl
      cases hsame
  · rintro ⟨hspaced, hreads, hreads'⟩
    constructor
    · intro hhashed
      cases data with
      | encData text =>
        cases data' with
        | encData text' =>
          cases hhashed
          exact .encData text
        | card card => exact absurd ⟨card, congrArg Data.encData hhashed, rfl⟩ hreads
      | card card =>
        cases data' with
        | encData text => exact absurd ⟨card, congrArg Data.encData hhashed.symm, rfl⟩ hreads'
        | card card' => exact .card (congrArg withoutWhiteSpace hhashed)
    · intro hsame
      cases hsame with
      | @card card card' hsame =>
        by_contra hne
        exact hspaced ⟨card, card', rfl, rfl, hsame, hne⟩
      | encData text => rfl

end Hash

/-! ## Two requests for one card -/

/-- SHA-512, on the two texts below; another text is not shortened. -/
noncomputable def cardEncoding : Encoding where
  toVec := sampleEncoding.toVec
  fromSlice := sampleEncoding.fromSlice
  textToVec := jsonText
  sha512 bytes :=
    if bytes = jsonText "4111111111111111" then
      [0, 23, 114, 150, 250, 136, 216, 217, 60, 33, 188, 34, 1, 37, 203, 213,
      75, 144, 119, 186, 79, 108, 232, 179, 210, 168, 42, 178, 216, 19, 183, 105,
      4, 144, 158, 252, 178, 180, 119, 20, 28, 157, 5, 119, 12, 17, 202, 30,
      46, 71, 228, 0, 18, 201, 231, 102, 193, 139, 250, 231, 116, 111, 229, 251]
    else if bytes = jsonText "4111 1111 1111 1111" then
      [153, 89, 222, 54, 150, 31, 86, 141, 13, 143, 38, 22, 156, 12, 251, 89,
      135, 134, 91, 47, 77, 50, 100, 183, 204, 238, 76, 175, 79, 105, 216, 67,
      192, 225, 100, 150, 183, 145, 49, 93, 43, 79, 106, 26, 187, 255, 88, 208,
      85, 82, 19, 63, 27, 100, 21, 10, 92, 94, 14, 64, 130, 126, 174, 87]
    else List.replicate 64 0 ++ 0 :: bytes

theorem cardEncoding_sha512_injective : Function.Injective cardEncoding.sha512 := by
  intro bytes bytes' h
  have hlong : ∀ (digest rest : Bytes), digest.length = 64 →
      List.replicate 64 0 ++ 0 :: rest ≠ digest := by
    rintro digest rest hdigest rfl
    rw [List.length_append, List.length_replicate, List.length_cons] at hdigest
    omega
  have hcons : ∀ rest rest' : Bytes, (List.replicate 64 0 ++ 0 :: rest : Bytes) =
      List.replicate 64 0 ++ 0 :: rest' → rest = rest' := by
    intro rest rest' heq
    exact (List.cons.inj (List.append_cancel_left heq)).2
  unfold cardEncoding at h
  dsimp only at h
  split at h
  · rename_i hbytes
    split at h
    · rename_i hbytes'
      rw [hbytes, hbytes']
    · split at h
      · exact absurd h (by decide)
      · exact absurd h.symm (hlong _ _ rfl)
  · split at h
    · rename_i hbytes
      split at h
      · exact absurd h (by decide)
      · split at h
        · rename_i hbytes'
          rw [hbytes, hbytes']
        · exact absurd h.symm (hlong _ _ rfl)
    · split at h
      · exact absurd h (hlong _ _ rfl)
      · split at h
        · exact absurd h (hlong _ _ rfl)
        · exact hcons _ _ h

theorem jsonText_injective : Function.Injective jsonText := by
  intro s t h
  have htext : "\"" ++ s ++ "\"" = "\"" ++ t ++ "\"" := Utf8.encode_injective h
  have hchars := congrArg String.toList htext
  rw [String.toList_append, String.toList_append, String.toList_append, String.toList_append]
    at hchars
  exact String.toList_inj.1 (List.append_cancel_left (List.append_cancel_right hchars))

/-- A request to store a card number. -/
def storeNumber (cardNumber : String) : StoreCardRequest where
  merchantId := "merchant"
  merchantCustomerId := "customer"
  requestorCardReference := none
  data := .card ⟨cardNumber, none, none, none, none, none, none⟩
  ttl := none

/-- A request to store encrypted data. -/
def storeEncData (text : String) : StoreCardRequest where
  merchantId := "merchant"
  merchantCustomerId := "customer"
  requestorCardReference := none
  data := .encData text
  ttl := none

/-- Two requests of one card number, without white space in it, have one hash. -/
theorem getHash_identity_plain :
    (getHash cardEncoding (storeNumber "4111111111111111").data =
        getHash cardEncoding (storeNumber "4111111111111111").data ↔
      SameIdentity (storeNumber "4111111111111111").data
        (storeNumber "4111111111111111").data) := by
  refine (getHash_identity_iff cardEncoding_sha512_injective jsonText_injective _ _).2
    ⟨?_, ?_, ?_⟩
  · rintro ⟨card, card', hcard, hcard', -, hne⟩
    cases hcard
    cases hcard'
    exact hne rfl
  · rintro ⟨card, hcard, -⟩
    cases hcard
  · rintro ⟨card, hcard, -⟩
    cases hcard

/-- A card number that is sent with and without spaces is accepted both times, and has two
    hashes; sent as encrypted data, it has the hash of the card. -/
theorem getHash_spaces :
    (storeNumber "4111 1111 1111 1111").validate ⟨0⟩ = .ok () ∧
      (storeNumber "4111111111111111").validate ⟨0⟩ = .ok () ∧
      (storeEncData "4111111111111111").validate ⟨0⟩ = .ok () ∧
      ¬ (getHash cardEncoding (storeNumber "4111 1111 1111 1111").data =
          getHash cardEncoding (storeNumber "4111111111111111").data ↔
        SameIdentity (storeNumber "4111 1111 1111 1111").data
          (storeNumber "4111111111111111").data) ∧
      ¬ (getHash cardEncoding (storeEncData "4111111111111111").data =
          getHash cardEncoding (storeNumber "4111111111111111").data ↔
        SameIdentity (storeEncData "4111111111111111").data
          (storeNumber "4111111111111111").data) := by
  refine ⟨by decide +kernel, by decide +kernel, by decide +kernel, ?_, ?_⟩
  · intro hidentity
    have hsame : SameIdentity (storeNumber "4111 1111 1111 1111").data
        (storeNumber "4111111111111111").data := .card (by decide +kernel)
    have hhash := cardEncoding_sha512_injective (hidentity.2 hsame)
    revert hhash
    decide +kernel
  · intro hidentity
    have hsame := hidentity.1 rfl
    cases hsame

end CardVault
