import CardVault.Crypto.Envelope
import CardVault.Custodian

/-!
# The key ceremony

From the keys that an operator prints to the unlock of a tenant: `master_key_generator`
(`src/src/bin/utils.rs`), the master key in the configuration (`fetch_raw_secrets`,
`src/src/config.rs`), and the two custodians (`src/src/routes/key_custodian.rs`).

Main results:
* `hexDecode_halves`: two halves that pass their validation make a key together.
* `keyCeremony_roundTrip`: the printed halves open the printed master key.
-/

namespace CardVault

/-! ## Hexadecimal text -/

@[simp] theorem length_hexEncode (bytes : Bytes) :
    (Text.hexEncode bytes).length = 2 * bytes.length := by
  rw [Text.hexEncode, String.length_ofList, List.length_flatMap]
  induction bytes with
  | nil => rfl
  | cons b bytes ih =>
    rw [List.map_cons, List.sum_cons, ih, List.length_cons]
    show 2 + 2 * bytes.length = 2 * (bytes.length + 1)
    omega

/-- Two digits of the text are one byte. -/
theorem take_drop_flatMap_hexByte (n : ℕ) (bytes : Bytes) :
    (bytes.flatMap Text.hexByte).take (2 * n) = (bytes.take n).flatMap Text.hexByte ∧
      (bytes.flatMap Text.hexByte).drop (2 * n) = (bytes.drop n).flatMap Text.hexByte := by
  induction n generalizing bytes with
  | zero => exact ⟨rfl, rfl⟩
  | succ n ih =>
    cases bytes with
    | nil => simp
    | cons b bytes =>
      obtain ⟨htake, hdrop⟩ := ih bytes
      have hdouble : 2 * (n + 1) = 2 * n + 1 + 1 := by omega
      rw [hdouble, List.flatMap_cons, Text.hexByte]
      constructor
      · show _ :: _ :: (bytes.flatMap Text.hexByte).take (2 * n) = _
        rw [htake]
        rfl
      · show (bytes.flatMap Text.hexByte).drop (2 * n) = _
        rw [hdrop]
        rfl

/-! ## Printing the keys -/

/-- `generate_aes256_key` answers with `[u8; 32]`. -/
abbrev Aes256Key : Type := { bytes : Bytes // bytes.length = 32 }

/-- `str::split_at`, of text with one byte for each character. -/
def splitAt (text : String) (mid : ℕ) : String × String :=
  (String.ofList (text.toList.take mid), String.ofList (text.toList.drop mid))

/-- The lines that `master_key_generator` prints. -/
structure PrintedKeys where
  masterKey : String
  custodianKeys : Option (String × String)
  deriving DecidableEq, Repr

/-- `master_key_generator`, with the keys that it generates and the nonce that encrypting
    draws. -/
def masterKeyGenerator (sealInPlace : SealInPlace) (withoutCustodian : Bool)
    (masterKey encryptionKey : Aes256Key) (random : Option Nonce) :
    Except CryptoError PrintedKeys :=
  if withoutCustodian then
    .ok { masterKey := Text.hexEncode masterKey.1, custodianKeys := none }
  else
    let keyCustodianKey := Text.hexEncode encryptionKey.1
    let algo := GcmAes256.mk encryptionKey.1
    match algo.encryptInSequence sealInPlace random masterKey.1 with
    | .error e => .error e
    | .ok encryptedMasterKey =>
      let hexedMasterKey := Text.hexEncode encryptedMasterKey
      .ok { masterKey := hexedMasterKey
            custodianKeys := some (splitAt keyCustodianKey (keyCustodianKey.length / 2)) }

/-! ## Reading the configuration -/

/-- `ConfigurationError`, as far as a tenant's secrets fail with it. -/
inductive ConfigurationError where
  | kmsDecryptError (secret : String)
  deriving DecidableEq, Repr

/-- `TenantSecrets` as the configuration file has it: `deserialize_hex` leaves the master
    key as it is written. -/
structure ConfiguredSecrets where
  masterKey : String
  schema : String
  redisKeyPrefix : String
  deriving DecidableEq, Repr

/-- `SecretManager::get_secret`, of the manager that is configured. -/
abbrev GetSecret := String → Option String

/-- `get_secret` of `NoEncryption`. -/
def GetSecret.noEncryption : GetSecret := some

/-- `fetch_raw_secrets`, for the master key of one tenant. -/
def fetchRawSecrets (getSecret : GetSecret) (configured : ConfiguredSecrets) :
    Except (Fault ConfigurationError) TenantSecrets :=
  match getSecret configured.masterKey with
  | none => .error (.error (.kmsDecryptError "master_key"))
  | some secret =>
    match hexDecode secret with
    | none => .error .panicked
    | some masterKey =>
      .ok { masterKey, schema := configured.schema, redisKeyPrefix := configured.redisKeyPrefix }

theorem fetchRawSecrets_hexEncode {getSecret : GetSecret} {configured : ConfiguredSecrets}
    {masterKey : Bytes} (h : getSecret configured.masterKey = some (Text.hexEncode masterKey)) :
    fetchRawSecrets getSecret configured = .ok
      { masterKey, schema := configured.schema, redisKeyPrefix := configured.redisKeyPrefix } := by
  rw [fetchRawSecrets, h]
  dsimp only
  rw [hexDecode_hexEncode]

/-! ## The halves -/

theorem keyValidation_iff {key : String} :
    keyValidation key = true ↔ ∃ data, hexDecode key = some data ∧ data.length = keyLength := by
  unfold keyValidation
  cases hexDecode key with
  | none => simp
  | some data => simp

/-- Two halves that pass their validation make a key together. -/
theorem hexDecode_halves {innerKey1 innerKey2 : String} (h1 : keyValidation innerKey1 = true)
    (h2 : keyValidation innerKey2 = true) :
    ∃ custodianKey, hexDecode (innerKey1 ++ innerKey2) = some custodianKey ∧
      custodianKey.length = 32 := by
  obtain ⟨data1, hdata1, hlen1⟩ := keyValidation_iff.1 h1
  obtain ⟨data2, hdata2, hlen2⟩ := keyValidation_iff.1 h2
  refine ⟨data1 ++ data2, hexDecode_append hdata1 hdata2, ?_⟩
  rw [List.length_append, hlen1, hlen2, keyLength]

/-- The halves of a printed key are the printed halves of the key. -/
theorem splitAt_hexEncode (key : Aes256Key) :
    splitAt (Text.hexEncode key.1) ((Text.hexEncode key.1).length / 2) =
      (Text.hexEncode (key.1.take keyLength), Text.hexEncode (key.1.drop keyLength)) := by
  have hmid : (Text.hexEncode key.1).length / 2 = 2 * keyLength := by
    rw [length_hexEncode, key.2, keyLength]
  obtain ⟨htake, hdrop⟩ := take_drop_flatMap_hexByte keyLength key.1
  rw [hmid, splitAt, Text.hexEncode, String.toList_ofList, htake, hdrop]
  rfl

theorem keyValidation_hexEncode {data : Bytes} (h : data.length = keyLength) :
    keyValidation (Text.hexEncode data) = true :=
  keyValidation_iff.2 ⟨data, hexDecode_hexEncode data, h⟩

/-- The printed halves decode to the key. -/
theorem hexDecode_printed (key : Aes256Key) :
    hexDecode (Text.hexEncode (key.1.take keyLength) ++ Text.hexEncode (key.1.drop keyLength)) =
      some key.1 := by
  rw [hexDecode_append (hexDecode_hexEncode _) (hexDecode_hexEncode _), List.take_append_drop]

/-! ## Round trip -/

section Ceremony

variable {openWithin : OpenWithin} {sealInPlace : SealInPlace}

/-- What `master_key_generator` prints, if sealing succeeds. -/
theorem masterKeyGenerator_eq (masterKey encryptionKey : Aes256Key) (nonce : Nonce)
    {sealed : Bytes} (hseal : sealInPlace encryptionKey.1 nonce.1 masterKey.1 = some sealed) :
    masterKeyGenerator sealInPlace false masterKey encryptionKey (some nonce) =
      .ok { masterKey := Text.hexEncode (nonce.1 ++ sealed)
            custodianKeys := some (Text.hexEncode (encryptionKey.1.take keyLength),
              Text.hexEncode (encryptionKey.1.drop keyLength)) } := by
  have hencrypt : (GcmAes256.mk encryptionKey.1).encryptInSequence sealInPlace (some nonce)
      masterKey.1 = .ok (nonce.1 ++ sealed) := by
    rw [GcmAes256.encryptInSequence_some sealInPlace _ encryptionKey.2, hseal]
  unfold masterKeyGenerator
  rw [if_neg Bool.false_ne_true]
  dsimp only
  rw [hencrypt, splitAt_hexEncode]

/-- Halves that make the custodian key open what was sealed under it. -/
theorem aesDecryptCustodianKey_sealed (hring : Aes256Gcm openWithin sealInPlace)
    (masterKey encryptionKey : Aes256Key) (nonce : Nonce) {sealed : Bytes}
    (hseal : sealInPlace encryptionKey.1 nonce.1 masterKey.1 = some sealed)
    {innerKey1 innerKey2 : String}
    (hkey : hexDecode (innerKey1 ++ innerKey2) = some encryptionKey.1)
    {tenantConfig : TenantConfig}
    (hconfig : tenantConfig.tenantSecrets.masterKey = nonce.1 ++ sealed) :
    aesDecryptCustodianKey openWithin tenantConfig innerKey1 innerKey2 =
      .ok { tenantConfig with
        tenantSecrets := { tenantConfig.tenantSecrets with masterKey := masterKey.1 } } := by
  have hopen : (GcmAes256.mk encryptionKey.1).decrypt openWithin (nonce.1 ++ sealed) =
      .ok masterKey.1 :=
    GcmAes256.decrypt_sealed hring (GcmAes256.mk encryptionKey.1) encryptionKey.2 nonce hseal
  unfold aesDecryptCustodianKey
  rw [hkey, hconfig]
  dsimp only
  rw [hopen]

/-- Both halves sent, in the order of their handlers. -/
def GlobalAppState.submit (s : GlobalAppState) (tenantId innerKey1 innerKey2 : String) :
    GlobalAppState :=
  (s.modifyKeyState tenantId fun keyState => keyState.accept .key1 innerKey1).modifyKeyState
    tenantId fun keyState => keyState.accept .key2 innerKey2

theorem GlobalAppState.submit_keyState {s : GlobalAppState} {tenantId : String}
    {keyState : CustodianKeyState} (h : s.tenantsKeyState tenantId = some keyState)
    (innerKey1 innerKey2 : String) :
    (s.submit tenantId innerKey1 innerKey2).tenantsKeyState tenantId =
      some ⟨some innerKey1, some innerKey2⟩ := by
  rw [submit, modifyKeyState_self, modifyKeyState_self, h]
  rfl

theorem GlobalAppState.setAppState_self (s : GlobalAppState) {tenantId : String}
    {state : TenantAppState} (h : state.config.tenantId = tenantId) :
    (s.setAppState state).tenantsAppState tenantId = some state := by
  rw [← h]
  exact Function.update_self ..

/-- A reachable tenant is unlocked by halves that open its master key. -/
theorem GlobalAppState.decrypt_submit {s : GlobalAppState} {tenantId innerKey1 innerKey2 : String}
    {keyState : CustodianKeyState} {tenantConfig opened : TenantConfig}
    (hkeyState : s.tenantsKeyState tenantId = some keyState)
    (hconfig : TenantConfig.fromGlobalConfig s.globalConfig tenantId = some tenantConfig)
    (haes : aesDecryptCustodianKey openWithin tenantConfig innerKey1 innerKey2 = .ok opened)
    (hreachable : s.reachable opened = true) :
    (s.submit tenantId innerKey1 innerKey2).decrypt openWithin tenantId =
      (.ok ⟨"Decryption of Custodian key is successful"⟩,
        (s.submit tenantId innerKey1 innerKey2).setAppState ⟨opened⟩) := by
  have hconfig' : TenantConfig.fromGlobalConfig
      (s.submit tenantId innerKey1 innerKey2).globalConfig tenantId = some tenantConfig := hconfig
  have hnew : (s.submit tenantId innerKey1 innerKey2).tenantAppStateNew opened = some ⟨opened⟩ :=
    if_pos hreachable
  unfold decrypt
  rw [submit_keyState hkeyState]
  dsimp only
  rw [hconfig']
  dsimp only
  rw [haes]
  dsimp only
  rw [hnew]

/-- The halves that `master_key_generator` prints pass their validation. With the printed
    master key in the configuration they open exactly the key that was generated, and
    submitting them installs it. Any two halves that pass decode together to a key. -/
theorem keyCeremony_roundTrip (hring : Aes256Gcm openWithin sealInPlace) :
    (∀ (masterKey encryptionKey : Aes256Key) (nonce : Nonce),
      ∃ printed innerKey1 innerKey2,
        masterKeyGenerator sealInPlace false masterKey encryptionKey (some nonce) =
          .ok { masterKey := printed, custodianKeys := some (innerKey1, innerKey2) } ∧
        keyValidation innerKey1 = true ∧ keyValidation innerKey2 = true ∧
        ∀ getSecret configured, getSecret configured.masterKey = some printed →
          ∃ tenantSecrets, fetchRawSecrets getSecret configured = .ok tenantSecrets ∧
            ∀ globalConfig tenantId, globalConfig.tenantSecrets tenantId = some tenantSecrets →
              ∃ tenantConfig opened,
                TenantConfig.fromGlobalConfig globalConfig tenantId = some tenantConfig ∧
                aesDecryptCustodianKey openWithin tenantConfig innerKey1 innerKey2 = .ok opened ∧
                opened = { tenantConfig with
                  tenantSecrets :=
                    { tenantConfig.tenantSecrets with masterKey := masterKey.1 } } ∧
                ∀ (s : GlobalAppState) keyState, s.globalConfig = globalConfig →
                  s.tenantsKeyState tenantId = some keyState → s.reachable opened = true →
                  ((s.submit tenantId innerKey1 innerKey2).decrypt openWithin
                    tenantId).2.tenantsAppState tenantId = some ⟨opened⟩) ∧
    ∀ innerKey1 innerKey2, keyValidation innerKey1 = true → keyValidation innerKey2 = true →
      (∃ custodianKey, hexDecode (innerKey1 ++ innerKey2) = some custodianKey ∧
        custodianKey.length = 32) ∧
      ∀ tenantConfig, aesDecryptCustodianKey openWithin tenantConfig innerKey1 innerKey2 ≠
        .error (.error (.api (.decryptingKeysFailed "Hex dcoding failed"))) := by
  constructor
  · intro masterKey encryptionKey nonce
    have hshort : masterKey.1.length ≤ maxInputLen := by
      rw [masterKey.2]
      decide
    obtain ⟨sealed, hseal⟩ :=
      hring.seals encryptionKey.1 nonce.1 masterKey.1 encryptionKey.2 nonce.2 hshort
    have hhalves : keyValidation (Text.hexEncode (encryptionKey.1.take keyLength)) = true ∧
        keyValidation (Text.hexEncode (encryptionKey.1.drop keyLength)) = true := by
      have hlen := encryptionKey.2
      constructor
      · refine keyValidation_hexEncode ?_
        rw [List.length_take, hlen, keyLength]
        rfl
      · refine keyValidation_hexEncode ?_
        rw [List.length_drop, hlen, keyLength]
    refine ⟨_, _, _, masterKeyGenerator_eq masterKey encryptionKey nonce hseal, hhalves.1,
      hhalves.2, fun getSecret configured hsecret => ?_⟩
    refine ⟨_, fetchRawSecrets_hexEncode hsecret, fun globalConfig tenantId hsecrets => ?_⟩
    obtain ⟨tenantConfig, hconfig, hsealed⟩ : ∃ tenantConfig,
        TenantConfig.fromGlobalConfig globalConfig tenantId = some tenantConfig ∧
          tenantConfig.tenantSecrets.masterKey = nonce.1 ++ sealed := by
      rw [TenantConfig.fromGlobalConfig, hsecrets]
      exact ⟨_, rfl, rfl⟩
    have haes := aesDecryptCustodianKey_sealed hring masterKey encryptionKey nonce hseal
      (hexDecode_printed encryptionKey) hsealed
    refine ⟨_, _, hconfig, haes, rfl, fun s keyState hglobal hkeyState hreachable => ?_⟩
    subst hglobal
    rw [GlobalAppState.decrypt_submit hkeyState hconfig haes hreachable]
    have htenant : tenantConfig.tenantId = tenantId :=
      TenantConfig.tenantId_of_fromGlobalConfig hconfig
    exact GlobalAppState.setAppState_self _ htenant
  · intro innerKey1 innerKey2 h1 h2
    obtain ⟨custodianKey, hdecode, hlen⟩ := hexDecode_halves h1 h2
    refine ⟨⟨custodianKey, hdecode, hlen⟩, fun tenantConfig hfailed => ?_⟩
    unfold aesDecryptCustodianKey at hfailed
    rw [hdecode] at hfailed
    dsimp only at hfailed
    split at hfailed <;> simp at hfailed

end Ceremony

/-- The ceremony of a zero master key under a zero custodian key. -/
theorem keyCeremony_roundTrip_zeros :
    aesDecryptCustodianKey sampleOpen
        ⟨"public", ⟨List.replicate 12 0 ++ zeroKeystream ++ zeroTag, "public", ""⟩, ""⟩
        "00000000000000000000000000000000" "00000000000000000000000000000000" =
      .ok ⟨"public", ⟨List.replicate 32 0, "public", ""⟩, ""⟩ := by
  obtain ⟨printed, innerKey1, innerKey2, hprinted, -, -, hopens⟩ :=
    (keyCeremony_roundTrip sample_aes256Gcm).1 ⟨List.replicate 32 0, rfl⟩
      ⟨List.replicate 32 0, rfl⟩ ⟨List.replicate 12 0, rfl⟩
  have hkeys : masterKeyGenerator sampleSeal false ⟨List.replicate 32 0, rfl⟩
      ⟨List.replicate 32 0, rfl⟩ (some ⟨List.replicate 12 0, rfl⟩) =
        .ok { masterKey := Text.hexEncode (List.replicate 12 0 ++ zeroKeystream ++ zeroTag)
              custodianKeys := some ("00000000000000000000000000000000",
                "00000000000000000000000000000000") } := by decide +kernel
  rw [hkeys] at hprinted
  cases hprinted
  obtain ⟨tenantSecrets, hfetched, hopens⟩ := hopens GetSecret.noEncryption
    ⟨Text.hexEncode (List.replicate 12 0 ++ zeroKeystream ++ zeroTag), "public", ""⟩ rfl
  rw [fetchRawSecrets_hexEncode rfl] at hfetched
  cases hfetched
  obtain ⟨tenantConfig, opened, hconfig, haes, rfl, -⟩ := hopens
    ⟨fun _ => some ⟨List.replicate 12 0 ++ zeroKeystream ++ zeroTag, "public", ""⟩⟩ "public" rfl
  cases hconfig
  exact haes

end CardVault
