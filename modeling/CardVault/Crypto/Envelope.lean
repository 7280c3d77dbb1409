import CardVault.Crypto.Aes
import CardVault.Lib.Numerals

/-!
# The AES envelope

`NonceSequence` and the envelope that `GcmAes256` puts around a ciphertext
(`src/src/crypto/encryption_manager/managers/aes.rs`): the sequence number in 128 bits,
the nonce that a seal consumes, and the nonce in front of the output.

Main results:
* `encryptInSequence_eq`, `decryptInSequence_eq`: with its nonce sequence written out,
  the cipher does what `GcmAes256.encrypt` and `GcmAes256.decrypt` say.
* `GcmAes256.decrypt_total_iff`: the inputs on which decrypting does not panic.
* `GcmAes256.envelope_roundTrip`: what encrypting puts together, decrypting takes apart.
-/

namespace CardVault

/-! ## Totality -/

/-- Decrypting answers, and does not panic, if and only if the key has a wrong length,
    which is looked at first, or a nonce can be sliced off the input. -/
theorem GcmAes256.decrypt_total_iff (openWithin : OpenWithin) (self : GcmAes256) (input : Bytes) :
    ((∃ output, self.decrypt openWithin input = .ok output) ∨
        self.decrypt openWithin input = .error (.error .decryptionError)) ↔
      self.secret.length ≠ 32 ∨ nonceLen ≤ input.length := by
  unfold GcmAes256.decrypt
  by_cases hkey : self.secret.length = 32
  · rw [if_pos hkey]
    by_cases hlen : nonceLen ≤ input.length
    · rw [if_pos hlen]
      refine iff_of_true ?_ (Or.inr hlen)
      cases openWithin self.secret (input.take nonceLen) (input.drop nonceLen) with
      | none => exact Or.inr rfl
      | some output => exact Or.inl ⟨output, rfl⟩
    · rw [if_neg hlen]
      refine iff_of_false ?_ (by simp [hkey, hlen])
      rintro (⟨output, h⟩ | h) <;> cases h
  · rw [if_neg hkey]
    exact iff_of_true (Or.inr rfl) (Or.inl hkey)

/-- A stored value that was cut off after eleven bytes. -/
theorem GcmAes256.decrypt_panics :
    ¬ ((∃ output, (GcmAes256.mk (List.replicate 32 0)).decrypt (fun _ _ _ => none)
          (List.replicate 11 0) = .ok output) ∨
        (GcmAes256.mk (List.replicate 32 0)).decrypt (fun _ _ _ => none)
          (List.replicate 11 0) = .error (.error .decryptionError)) := by
  have hpanic : (GcmAes256.mk (List.replicate 32 0)).decrypt (fun _ _ _ => none)
      (List.replicate 11 0) = .error .panicked := rfl
  rw [hpanic]
  rintro (⟨output, h⟩ | h) <;> cases h

/-! ## Nonce sequences -/

/-- `[u8; NONCE_LEN]`. -/
abbrev Nonce : Type := { bytes : Bytes // bytes.length = nonceLen }

/-- `u128::from_be_bytes`. -/
def u128FromBeBytes (bytes : Bytes) : BitVec 128 :=
  BitVec.ofNat 128 (Numeral.value 256 (bytes.map UInt8.toNat))

/-- `u128::to_be_bytes`. -/
def u128ToBeBytes (n : BitVec 128) : Bytes := (Numeral.digits 256 16 n.toNat).map UInt8.ofNat

@[simp] theorem length_u128ToBeBytes (n : BitVec 128) : (u128ToBeBytes n).length = 16 := by
  rw [u128ToBeBytes, List.length_map, Numeral.length_digits]

/-- `NonceSequence`. -/
structure NonceSequence where
  sequenceNumber : BitVec 128
  deriving DecidableEq

namespace NonceSequence

/-- `SEQUENCE_NUMBER_START_INDEX`. -/
def sequenceNumberStartIndex : ℕ := 4

/-- Sixteen zero bytes with these from the start index on. -/
def placed (bytes : Nonce) : Bytes :=
  (List.replicate 16 0).take sequenceNumberStartIndex ++ bytes.1

/-- `NonceSequence::new`, with the bytes that the random number generator fills in, if it
    answers. -/
def new (random : Option Nonce) : Option NonceSequence :=
  random.map fun filled => ⟨u128FromBeBytes (placed filled)⟩

theorem length_drop_u128ToBeBytes (n : BitVec 128) :
    ((u128ToBeBytes n).drop sequenceNumberStartIndex).length = nonceLen := by
  rw [List.length_drop, length_u128ToBeBytes, sequenceNumberStartIndex, nonceLen]

/-- `NonceSequence::current`. -/
def current (self : NonceSequence) : Nonce :=
  ⟨(u128ToBeBytes self.sequenceNumber).drop sequenceNumberStartIndex,
    length_drop_u128ToBeBytes self.sequenceNumber⟩

@[simp] theorem current_val (self : NonceSequence) :
    self.current.1 = (u128ToBeBytes self.sequenceNumber).drop sequenceNumberStartIndex := by
  rw [current]

/-- `NonceSequence::from_bytes`. -/
def fromBytes (bytes : Nonce) : NonceSequence := ⟨u128FromBeBytes (placed bytes)⟩

/-- `advance`: the nonce that is handed out, and the sequence afterwards. -/
def advance (self : NonceSequence) : Nonce × NonceSequence :=
  (⟨(u128ToBeBytes self.sequenceNumber).drop sequenceNumberStartIndex,
    length_drop_u128ToBeBytes self.sequenceNumber⟩, ⟨self.sequenceNumber + 1⟩)

theorem map_ofNat_toNat (bytes : Bytes) : (bytes.map UInt8.toNat).map UInt8.ofNat = bytes := by
  have hid : UInt8.ofNat ∘ UInt8.toNat = id := by
    funext b
    exact UInt8.ofNat_toNat
  rw [List.map_map, hid, List.map_id]

theorem map_toNat_lt (bytes : Bytes) : ∀ d ∈ bytes.map UInt8.toNat, d < 256 := by
  intro d hd
  obtain ⟨b, -, rfl⟩ := List.mem_map.1 hd
  exact b.toNat_lt

/-- The sequence number is the number that the nonce denotes. -/
theorem toNat_fromBytes (nonce : Nonce) :
    (fromBytes nonce).sequenceNumber.toNat = Numeral.value 256 (nonce.1.map UInt8.toNat) := by
  have hplaced : (placed nonce).map UInt8.toNat =
      List.replicate 4 0 ++ nonce.1.map UInt8.toNat := by
    rw [placed, List.map_append, sequenceNumberStartIndex, List.take_replicate,
      List.map_replicate]
    rfl
  have hsmall : Numeral.value 256 (nonce.1.map UInt8.toNat) < 2 ^ 128 := by
    have hlt := Numeral.value_lt (map_toNat_lt nonce.1)
    rw [List.length_map, nonce.2] at hlt
    norm_num [nonceLen] at hlt ⊢
    omega
  rw [fromBytes, u128FromBeBytes, hplaced, Numeral.value_replicate_zero_append,
    BitVec.toNat_ofNat, Nat.mod_eq_of_lt hsmall]

/-- The nonce of a sequence that starts at a nonce is that nonce. -/
theorem current_fromBytes (nonce : Nonce) : (fromBytes nonce).current = nonce := by
  have hlast : Numeral.digits 256 12 (Numeral.value 256 (nonce.1.map UInt8.toNat)) =
      nonce.1.map UInt8.toNat := by
    have hdigits := Numeral.digits_value (map_toNat_lt nonce.1)
    rwa [List.length_map, nonce.2] at hdigits
  have hdrop := Numeral.drop_digits (b := 256) 4 12 (Numeral.value 256 (nonce.1.map UInt8.toNat))
  refine Subtype.ext ?_
  rw [current_val, u128ToBeBytes, toNat_fromBytes, sequenceNumberStartIndex, ← List.map_drop,
    hdrop, hlast, map_ofNat_toNat]

/-- The nonce of a sequence gives back the sequence it started. -/
theorem fromBytes_current (nonce : Nonce) :
    fromBytes (fromBytes nonce).current = fromBytes nonce := by
  rw [current_fromBytes]

/-- `advance` hands out the current nonce, and then counts on. -/
theorem advance_eq (self : NonceSequence) :
    self.advance = (self.current, ⟨self.sequenceNumber + 1⟩) := rfl

end NonceSequence

/-! ## Keys with their sequence -/

/-- `ring::aead::SealingKey<NonceSequence>`, or `OpeningKey<NonceSequence>`. -/
structure SequencedKey where
  key : Bytes
  nonceSequence : NonceSequence

namespace SequencedKey

/-- `seal_in_place_append_tag` without additional data, under the nonce that the sequence
    hands out. -/
def sealInPlaceAppendTag (sealInPlace : SealInPlace) (self : SequencedKey) (input : Bytes) :
    Option Bytes × SequencedKey :=
  (sealInPlace self.key self.nonceSequence.advance.1.1 input,
    { self with nonceSequence := self.nonceSequence.advance.2 })

/-- `open_within` without additional data, under the nonce that the sequence hands out. -/
def openWithin (openWithin : OpenWithin) (self : SequencedKey) (ciphertextAndTag : Bytes) :
    Option Bytes × SequencedKey :=
  (openWithin self.key self.nonceSequence.advance.1.1 ciphertextAndTag,
    { self with nonceSequence := self.nonceSequence.advance.2 })

end SequencedKey

namespace GcmAes256

variable (openWithin : OpenWithin) (sealInPlace : SealInPlace) (random : Option Nonce)
  (self : GcmAes256) (input : Bytes)

/-- `GcmAes256::encrypt`, with its nonce sequence. -/
def encryptInSequence : Except CryptoError Bytes :=
  match NonceSequence.new random with
  | none => .error .encryptionError
  | some nonceSequence =>
    let currentNonce := nonceSequence.current
    if self.secret.length = 32 then
      let key := SequencedKey.mk self.secret nonceSequence
      match (key.sealInPlaceAppendTag sealInPlace input).1 with
      | none => .error .encryptionError
      | some output => .ok (currentNonce.1 ++ output)
    else .error .encryptionError

/-- `GcmAes256::decrypt`, with its nonce sequence. -/
def decryptInSequence : Except (Fault CryptoError) Bytes :=
  if self.secret.length = 32 then
    if hlen : nonceLen ≤ input.length then
      let nonceSequence := NonceSequence.fromBytes ⟨input.take nonceLen, by
        rw [List.length_take, Nat.min_eq_left hlen]⟩
      match ((SequencedKey.mk self.secret nonceSequence).openWithin openWithin
        (input.drop nonceLen)).1 with
      | none => .error (.error .decryptionError)
      | some result => .ok result
    else .error .panicked
  else .error (.error .decryptionError)

/-- With its nonce sequence written out, the cipher encrypts as `encrypt` says. -/
theorem encryptInSequence_eq :
    self.encryptInSequence sealInPlace random input =
      self.encrypt sealInPlace (random.map Subtype.val) input := by
  cases random with
  | none => rfl
  | some nonce =>
    have hnonce : (NonceSequence.fromBytes nonce).current = nonce :=
      NonceSequence.current_fromBytes nonce
    have hnew : NonceSequence.new (some nonce) = some (NonceSequence.fromBytes nonce) := rfl
    unfold encryptInSequence encrypt
    rw [hnew]
    dsimp only [Option.map_some, SequencedKey.sealInPlaceAppendTag]
    rw [NonceSequence.advance_eq, hnonce]
    by_cases hkey : self.secret.length = 32
    · rw [if_pos hkey, if_pos hkey]
      cases sealInPlace self.secret nonce.1 input <;> rfl
    · rw [if_neg hkey, if_neg hkey]

/-- With its nonce sequence written out, the cipher decrypts as `decrypt` says. -/
theorem decryptInSequence_eq :
    self.decryptInSequence openWithin input = self.decrypt openWithin input := by
  unfold decryptInSequence decrypt
  by_cases hkey : self.secret.length = 32
  · rw [if_pos hkey, if_pos hkey]
    by_cases hlen : nonceLen ≤ input.length
    · rw [dif_pos hlen, if_pos hlen]
      dsimp only [SequencedKey.openWithin]
      rw [NonceSequence.advance_eq, NonceSequence.current_fromBytes]
      cases openWithin self.secret (input.take nonceLen) (input.drop nonceLen) <;> rfl
    · rw [dif_neg hlen, if_neg hlen]
  · rw [if_neg hkey, if_neg hkey]

end GcmAes256

/-! ## Round trip -/

/-- `ring::aead::MAX_TAG_LEN`. -/
def tagLen : ℕ := 16

/-- The longest input of AES-GCM: its counter has 32 bits, and two blocks are taken. -/
def maxInputLen : ℕ := (2 ^ 32 - 2) * 16

/-- What `ring` says of `AES_256_GCM`: a seal appends a tag to a ciphertext as long as the
    input, it succeeds on inputs that are not too long, and opening inverts it. -/
structure Aes256Gcm (openWithin : OpenWithin) (sealInPlace : SealInPlace) : Prop where
  length : ∀ key nonce input output, sealInPlace key nonce input = some output →
    output.length = input.length + tagLen
  seals : ∀ key nonce input, key.length = 32 → nonce.length = nonceLen →
    input.length ≤ maxInputLen → ∃ output, sealInPlace key nonce input = some output
  opens : ∀ key nonce input output, sealInPlace key nonce input = some output →
    openWithin key nonce output = some input

namespace GcmAes256

variable {openWithin : OpenWithin} {sealInPlace : SealInPlace}

/-- Under a key of the right length, encrypting puts the nonce in front of what the seal
    answers. -/
theorem encryptInSequence_some (sealInPlace : SealInPlace) (self : GcmAes256)
    (hkey : self.secret.length = 32) (nonce : Nonce) (input : Bytes) :
    self.encryptInSequence sealInPlace (some nonce) input =
      match sealInPlace self.secret nonce.1 input with
      | some output => .ok (nonce.1 ++ output)
      | none => .error .encryptionError := by
  rw [encryptInSequence_eq, Option.map_some]
  exact if_pos hkey

/-- Decrypting splits the nonce off and opens what was sealed under it. -/
theorem decrypt_sealed (hring : Aes256Gcm openWithin sealInPlace) (self : GcmAes256)
    (hkey : self.secret.length = 32) (nonce : Nonce) {input sealed : Bytes}
    (hseal : sealInPlace self.secret nonce.1 input = some sealed) :
    self.decrypt openWithin (nonce.1 ++ sealed) = .ok input := by
  have hnonce := nonce.2
  have hlen : nonceLen ≤ (nonce.1 ++ sealed).length := by
    rw [List.length_append, hnonce]
    exact Nat.le_add_right nonceLen _
  rw [decrypt, if_pos hkey, if_pos hlen, List.take_left' hnonce, List.drop_left' hnonce,
    hring.opens self.secret nonce.1 input sealed hseal]

/-- Encrypting succeeds on every input that a seal takes. It puts the nonce that the seal
    consumed in front of ciphertext and tag, and decrypting gives back the input; the
    nonce and its sequence number determine each other. -/
theorem envelope_roundTrip (hring : Aes256Gcm openWithin sealInPlace) (self : GcmAes256)
    (hkey : self.secret.length = 32) (nonce : Nonce) (input : Bytes) :
    (input.length ≤ maxInputLen →
        ∃ output, self.encryptInSequence sealInPlace (some nonce) input = .ok output) ∧
      (∀ output, self.encryptInSequence sealInPlace (some nonce) input = .ok output →
        ∃ ciphertext tag,
          sealInPlace self.secret (NonceSequence.fromBytes nonce).advance.1.1 input =
            some (ciphertext ++ tag) ∧
          ciphertext.length = input.length ∧ tag.length = tagLen ∧
          output = (NonceSequence.fromBytes nonce).advance.1.1 ++ ciphertext ++ tag ∧
          output.length = 28 + input.length ∧
          self.decryptInSequence openWithin output = .ok input) ∧
      NonceSequence.new (some nonce) = some (NonceSequence.fromBytes nonce) ∧
      (NonceSequence.fromBytes nonce).current = nonce ∧
      NonceSequence.fromBytes (NonceSequence.fromBytes nonce).current =
        NonceSequence.fromBytes nonce ∧
      ∀ sequence : NonceSequence,
        sequence.advance = (sequence.current, ⟨sequence.sequenceNumber + 1⟩) := by
  have hconsumed : (NonceSequence.fromBytes nonce).advance.1 = nonce := by
    rw [NonceSequence.advance_eq, NonceSequence.current_fromBytes]
  rw [encryptInSequence_some sealInPlace self hkey, hconsumed]
  refine ⟨fun hlen => ?_, fun output houtput => ?_, rfl, NonceSequence.current_fromBytes nonce,
    NonceSequence.fromBytes_current nonce, NonceSequence.advance_eq⟩
  · obtain ⟨output, hseal⟩ := hring.seals self.secret nonce.1 input hkey nonce.2 hlen
    exact ⟨nonce.1 ++ output, by rw [hseal]⟩
  · cases hseal : sealInPlace self.secret nonce.1 input with
    | none =>
      rw [hseal] at houtput
      cases houtput
    | some sealed =>
      rw [hseal] at houtput
      cases houtput
      have hsealed := hring.length self.secret nonce.1 input sealed hseal
      refine ⟨sealed.take input.length, sealed.drop input.length, ?_, ?_, ?_, ?_, ?_, ?_⟩
      · rw [List.take_append_drop]
      · rw [List.length_take, hsealed]
        omega
      · rw [List.length_drop, hsealed]
        omega
      · rw [List.append_assoc, List.take_append_drop]
      · rw [List.length_append, nonce.2, hsealed, nonceLen, tagLen]
        omega
      · rw [decryptInSequence_eq, decrypt_sealed hring self hkey nonce hseal]

end GcmAes256

/-! ## A cipher on one block pair -/

/-- The first two blocks of the keystream of the zero key under the zero nonce. -/
def zeroKeystream : Bytes :=
  [206, 167, 64, 61, 77, 96, 107, 110, 7, 78, 197, 211, 186, 243, 157, 24,
    114, 96, 3, 202, 55, 166, 42, 116, 209, 162, 245, 142, 117, 6, 53, 142]

/-- The tag of 32 zero bytes under the zero key and the zero nonce. -/
def zeroTag : Bytes := [209, 211, 8, 76, 153, 170, 138, 159, 218, 187, 62, 131, 235, 40, 193, 93]

/-- The keystream, put on an input. -/
def maskWithZeroKeystream (input : Bytes) : Bytes :=
  List.zipWith (· ^^^ ·) input (zeroKeystream ++ List.replicate input.length 0)

/-- A seal that agrees with `AES_256_GCM` on 32 zero bytes under the zero key and nonce. -/
def sampleSeal : SealInPlace := fun _ _ input => some (maskWithZeroKeystream input ++ zeroTag)

/-- The opening that belongs to `sampleSeal`. -/
def sampleOpen : OpenWithin := fun _ _ ciphertextAndTag =>
  if ciphertextAndTag.drop (ciphertextAndTag.length - tagLen) = zeroTag then
    some (maskWithZeroKeystream (ciphertextAndTag.take (ciphertextAndTag.length - tagLen)))
  else none

theorem length_maskWithZeroKeystream (input : Bytes) :
    (maskWithZeroKeystream input).length = input.length := by
  rw [maskWithZeroKeystream, List.length_zipWith, List.length_append, List.length_replicate]
  omega

theorem zipWith_xor_zipWith_xor (input mask : Bytes) (h : input.length ≤ mask.length) :
    List.zipWith (· ^^^ ·) (List.zipWith (· ^^^ ·) input mask) mask = input := by
  induction input generalizing mask with
  | nil => rfl
  | cons b input ih =>
    cases mask with
    | nil => simp at h
    | cons m mask =>
      have htail : input.length ≤ mask.length := by simpa using h
      rw [List.zipWith_cons_cons, List.zipWith_cons_cons, ih mask htail, UInt8.xor_assoc,
        UInt8.xor_self, UInt8.xor_zero]

/-- Masking twice changes nothing. -/
theorem maskWithZeroKeystream_mask (input : Bytes) :
    maskWithZeroKeystream (maskWithZeroKeystream input) = input := by
  have hlength := length_maskWithZeroKeystream input
  rw [maskWithZeroKeystream, hlength, maskWithZeroKeystream]
  refine zipWith_xor_zipWith_xor input _ ?_
  rw [List.length_append, List.length_replicate]
  omega

/-- The sample satisfies what is assumed of `AES_256_GCM`. -/
theorem sample_aes256Gcm : Aes256Gcm sampleOpen sampleSeal where
  length key nonce input output hseal := by
    cases hseal
    rw [List.length_append, length_maskWithZeroKeystream]
    rfl
  seals key nonce input _ _ _ := ⟨_, rfl⟩
  opens key nonce input output hseal := by
    cases hseal
    have hsplit : (maskWithZeroKeystream input ++ zeroTag).length - tagLen =
        (maskWithZeroKeystream input).length := by
      rw [List.length_append]
      exact Nat.add_sub_cancel (maskWithZeroKeystream input).length tagLen
    rw [sampleOpen, hsplit, List.drop_left, List.take_left, if_pos rfl,
      maskWithZeroKeystream_mask]

/-- 32 zero bytes, under the zero key and the zero nonce. -/
theorem GcmAes256.envelope_roundTrip_zeros :
    (GcmAes256.mk (List.replicate 32 0)).encryptInSequence sampleSeal
        (some ⟨List.replicate 12 0, rfl⟩) (List.replicate 32 0) =
      .ok (List.replicate 12 0 ++ zeroKeystream ++ zeroTag) ∧
    (GcmAes256.mk (List.replicate 32 0)).decryptInSequence sampleOpen
        (List.replicate 12 0 ++ zeroKeystream ++ zeroTag) = .ok (List.replicate 32 0) := by
  have htrip := GcmAes256.envelope_roundTrip sample_aes256Gcm
    (GcmAes256.mk (List.replicate 32 0)) (by decide) ⟨List.replicate 12 0, rfl⟩
    (List.replicate 32 0)
  have hencrypt : (GcmAes256.mk (List.replicate 32 0)).encryptInSequence sampleSeal
      (some ⟨List.replicate 12 0, rfl⟩) (List.replicate 32 0) =
        .ok (List.replicate 12 0 ++ zeroKeystream ++ zeroTag) := by
    rw [GcmAes256.encryptInSequence_eq]
    decide +kernel
  obtain ⟨_, _, _, _, _, _, _, hdecrypt⟩ := htrip.2.1 _ hencrypt
  exact ⟨hencrypt, hdecrypt⟩

end CardVault
