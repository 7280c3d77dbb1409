import CardVault.Crypto.Base64
import CardVault.Crypto.Envelope
import CardVault.Lib.Utf8

/-!
# Ciphertexts on the wire

How encrypted data goes to the external key manager and comes back
(`src/src/crypto/keymanager/external_keymanager/types.rs`): a string
`{version}:{base64}` is stored as its bytes, and a ciphertext from before the key
manager is told apart by not being UTF-8.

Main results:
* `serialize_visitStr`: a string of the key manager is sent as it came.
* `serialize_eq_v1_iff`, `serialize_versioned_iff`: a ciphertext is sent with its version
  exactly when it is not UTF-8.
-/

namespace CardVault

/-! ## Encrypted data -/

/-- `EncryptedData`. -/
structure EncryptedData where
  inner : Bytes
  deriving DecidableEq, Repr

/-- `serialize_encryption_data`: the string that is sent. -/
def serializeEncryptionData (encryptedData : EncryptedData) : String :=
  (Utf8.decode encryptedData.inner).getD ("v1:" ++ base64Encode encryptedData.inner)

/-- `EncryptedDataVisitor::visit_str`. -/
def EncryptedData.visitStr (value : String) : EncryptedData := ⟨Utf8.encode value⟩

/-- `DateEncryptionResponse`. -/
structure DateEncryptionResponse where
  data : EncryptedData
  deriving DecidableEq, Repr

/-- The ciphertext that `encrypt_data` hands to the database: the answer of the key manager
    to an encryption. -/
def DateEncryptionResponse.stored (response : DateEncryptionResponse) : Bytes :=
  response.data.inner

/-- `DataDecryptionRequest`, of an entity. -/
structure DataDecryptionRequest where
  identifier : String
  data : EncryptedData
  deriving DecidableEq, Repr

/-- `DataDecryptionRequest::create_request`, on the ciphertext that was read. -/
def DataDecryptionRequest.createRequest (keyIdentifier : String) (data : Bytes) :
    DataDecryptionRequest :=
  { identifier := keyIdentifier, data := ⟨data⟩ }

/-- The `data` of a request as it is sent. -/
def DataDecryptionRequest.sentData (request : DataDecryptionRequest) : String :=
  serializeEncryptionData request.data

/-! ## Versions -/

/-- A string of the key manager is sent as it came. -/
theorem serialize_visitStr (value : String) :
    serializeEncryptionData (EncryptedData.visitStr value) = value := by
  rw [serializeEncryptionData, EncryptedData.visitStr, Utf8.decode_encode, Option.getD_some]

theorem length_le_length_base64Chars (data : Bytes) : data.length ≤ (base64Chars data).length := by
  induction data using base64Chars.induct with
  | case1 => exact Nat.le_refl 0
  | case2 a => simp [base64Chars]
  | case3 a b => simp [base64Chars]
  | case4 a b c rest ih =>
    rw [base64Chars]
    simp only [List.length_cons]
    omega

/-- No byte string is the UTF-8 of its own versioned text, which is longer. -/
theorem encode_versioned_ne (data : Bytes) : Utf8.encode ("v1:" ++ base64Encode data) ≠ data := by
  intro h
  have hchars := Utf8.length_le_length_encode ("v1:" ++ base64Encode data)
  have hbase64 : data.length ≤ (base64Encode data).length := by
    rw [base64Encode, String.length_ofList]
    exact length_le_length_base64Chars data
  have hversion : "v1:".length = 3 := rfl
  rw [h, String.length_append, hversion] at hchars
  omega

/-- A ciphertext is sent with its version exactly when it is not UTF-8. -/
theorem serialize_eq_v1_iff (data : Bytes) :
    serializeEncryptionData ⟨data⟩ = "v1:" ++ base64Encode data ↔ ¬ Utf8.IsValid data := by
  rw [← Utf8.decode_eq_none_iff, serializeEncryptionData]
  constructor
  · intro h
    cases hdecode : Utf8.decode data with
    | none => rfl
    | some text =>
      rw [hdecode, Option.getD_some] at h
      have hdata := Utf8.encode_of_decode hdecode
      rw [h] at hdata
      exact absurd hdata (encode_versioned_ne data)
  · intro h
    rw [h, Option.getD_none]

/-- What the key manager is sent for a ciphertext, and for a string of its own. -/
theorem serialize_versioned_iff (data : Bytes) (value keyIdentifier : String) :
    ((DataDecryptionRequest.createRequest keyIdentifier data).sentData =
        "v1:" ++ base64Encode data ∧
      (DataDecryptionRequest.createRequest keyIdentifier
        (DateEncryptionResponse.mk (EncryptedData.visitStr value)).stored).sentData = value) ↔
      ¬ Utf8.IsValid data := by
  constructor
  · rintro ⟨hv1, -⟩
    exact (serialize_eq_v1_iff data).1 hv1
  · intro hvalid
    exact ⟨(serialize_eq_v1_iff data).2 hvalid, serialize_visitStr value⟩

/-! ### A ciphertext of ASCII bytes -/

/-- The key of the tests in `aes.rs`. -/
def asciiKey : Bytes :=
  [0, 1, 2, 3, 4, 5, 6, 7, 8, 9, 10, 11, 12, 13, 14, 15,
    0, 1, 2, 3, 4, 5, 6, 7, 8, 9, 10, 11, 12, 13, 14, 15]

/-- A nonce of letters. -/
def asciiNonce : Nonce := ⟨[108, 111, 99, 107, 101, 114, 105, 121, 120, 118, 112, 48], rfl⟩

/-- `\x7b"EncData":""\x7d`. -/
def asciiInput : Bytes := [123, 34, 69, 110, 99, 68, 97, 116, 97, 34, 58, 34, 34, 125]

/-- Ciphertext and tag of that input under that key and nonce. -/
def asciiOutput : Bytes :=
  [70, 34, 32, 32, 113, 82, 18, 78, 49, 54, 48, 123, 77, 23,
    85, 18, 89, 30, 41, 3, 75, 23, 37, 92, 116, 16, 68, 28, 68, 122]

/-- What sealing answers on that input. -/
def asciiSeal : SealInPlace := fun key nonce input =>
  if key = asciiKey ∧ nonce = asciiNonce.1 ∧ input = asciiInput then some asciiOutput else none

/-- This ciphertext is taken for a string of the key manager. -/
theorem serialize_versioned_ascii :
    ∃ data, (GcmAes256.mk asciiKey).encryptInSequence asciiSeal (some asciiNonce) asciiInput =
        .ok data ∧
      ¬ ((DataDecryptionRequest.createRequest "merchant" data).sentData =
          "v1:" ++ base64Encode data ∧
        (DataDecryptionRequest.createRequest "merchant"
          (DateEncryptionResponse.mk (EncryptedData.visitStr "v1:TWFu")).stored).sentData =
            "v1:TWFu") := by
  refine ⟨asciiNonce.1 ++ asciiOutput, ?_, ?_⟩
  · rw [GcmAes256.encryptInSequence_eq]
    decide +kernel
  · have htext : Utf8.encode (String.ofList ((asciiNonce.1 ++ asciiOutput).map fun b =>
        Char.ofNat b.toNat)) = asciiNonce.1 ++ asciiOutput := by decide +kernel
    rintro ⟨hv1, -⟩
    rw [DataDecryptionRequest.sentData, DataDecryptionRequest.createRequest,
      serializeEncryptionData, Utf8.decode_eq_some_iff.2 htext.symm] at hv1
    revert hv1
    decide +kernel

end CardVault
