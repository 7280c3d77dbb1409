import CardVault.Unlock

/-!
# A failed unlock

`decrypt` (`src/src/routes/key_custodian.rs`) sets both key halves back to `None` when its
match ends with an error. A failure inside the match leaves the handler through `?`, and
does not reach that code.

Main results:
* `decrypt_of_failsLate`: such a failure answers with an error and changes nothing.
* `decrypt_failed`: how a `decrypt` fails.
* `decrypt_wipes_iff`: exactly the failures inside the match keep the halves.
-/

namespace CardVault

open GlobalAppState Custodian

/-- Two halves with which the match in `decrypt` is left through `?`. -/
inductive LateFailure (openWithin : OpenWithin) (reachable : TenantConfig → Bool)
    (tenantConfig : TenantConfig) (innerKey1 innerKey2 : String) : Prop where
  | hexDecoding (h : hexDecode (innerKey1 ++ innerKey2) = none)
  | keyLength (custodianKey : Bytes) (hkey : hexDecode (innerKey1 ++ innerKey2) = some custodianKey)
      (h : custodianKey.length ≠ 32)
  | aesDecryption (custodianKey : Bytes)
      (hkey : hexDecode (innerKey1 ++ innerKey2) = some custodianKey)
      (hlen : nonceLen ≤ tenantConfig.tenantSecrets.masterKey.length)
      (h : openWithin custodianKey (tenantConfig.tenantSecrets.masterKey.take nonceLen)
        (tenantConfig.tenantSecrets.masterKey.drop nonceLen) = none)
  | appState (masterKey : Bytes)
      (hopens : Opens openWithin innerKey1 innerKey2 tenantConfig.tenantSecrets.masterKey masterKey)
      (h : reachable { tenantConfig with
        tenantSecrets := { tenantConfig.tenantSecrets with masterKey } } = false)

namespace GlobalAppState

variable (openWithin : OpenWithin) (s : GlobalAppState) (tenantId : String)

/-- Both halves of a configured tenant are there, but they do not unlock it. -/
def FailsLate : Prop :=
  ∃ innerKey1 innerKey2 tenantConfig,
    s.tenantsKeyState tenantId = some ⟨some innerKey1, some innerKey2⟩ ∧
    TenantConfig.fromGlobalConfig s.globalConfig tenantId = some tenantConfig ∧
    LateFailure openWithin s.reachable tenantConfig innerKey1 innerKey2

/-- Both halves of the tenant are gone, and no app state has changed. -/
structure Wiped (s s' : GlobalAppState) (tenantId : String) : Prop where
  halves : ∀ keyState, s'.tenantsKeyState tenantId = some keyState →
    keyState.key1 = none ∧ keyState.key2 = none
  appState : s'.tenantsAppState = s.tenantsAppState

end GlobalAppState

/-! ## The failures inside the match -/

/-- Opening with two halves fails on a bad key, or on a text that does not open. -/
theorem aesDecryptCustodianKey_failed {openWithin : OpenWithin} {reachable : TenantConfig → Bool}
    {tenantConfig : TenantConfig} {innerKey1 innerKey2 : String} {e : CustodianError}
    (h : aesDecryptCustodianKey openWithin tenantConfig innerKey1 innerKey2 = .error (.error e)) :
    LateFailure openWithin reachable tenantConfig innerKey1 innerKey2 := by
  unfold aesDecryptCustodianKey at h
  cases hkey : hexDecode (innerKey1 ++ innerKey2) with
  | none => exact .hexDecoding hkey
  | some custodianKey =>
    by_cases hlength : custodianKey.length = 32
    · by_cases hlen : nonceLen ≤ tenantConfig.tenantSecrets.masterKey.length
      · cases hopen : openWithin custodianKey (tenantConfig.tenantSecrets.masterKey.take nonceLen)
            (tenantConfig.tenantSecrets.masterKey.drop nonceLen) with
        | none => exact .aesDecryption custodianKey hkey hlen hopen
        | some masterKey => simp [hkey, GcmAes256.decrypt, hlength, hlen, hopen] at h
      · simp [hkey, GcmAes256.decrypt, hlength, hlen] at h
    · exact .keyLength custodianKey hkey hlength

/-- The halves do not open the master key, or what they open reaches no database. -/
theorem LateFailure.outcome {openWithin : OpenWithin} {reachable : TenantConfig → Bool}
    {tenantConfig : TenantConfig} {innerKey1 innerKey2 : String}
    (h : LateFailure openWithin reachable tenantConfig innerKey1 innerKey2) :
    (∃ message, aesDecryptCustodianKey openWithin tenantConfig innerKey1 innerKey2 =
        .error (.error (.api (.decryptingKeysFailed message)))) ∨
      ∃ opened, aesDecryptCustodianKey openWithin tenantConfig innerKey1 innerKey2 = .ok opened ∧
        reachable opened = false := by
  unfold aesDecryptCustodianKey
  cases h with
  | hexDecoding h =>
    rw [h]
    exact Or.inl ⟨_, rfl⟩
  | keyLength custodianKey hkey h =>
    have hfails : (GcmAes256.mk custodianKey).decrypt openWithin
        tenantConfig.tenantSecrets.masterKey = .error (.error .decryptionError) := if_neg h
    rw [hkey]
    dsimp only
    rw [hfails]
    exact Or.inl ⟨_, rfl⟩
  | aesDecryption custodianKey hkey hlen h =>
    have hfails : (GcmAes256.mk custodianKey).decrypt openWithin
        tenantConfig.tenantSecrets.masterKey = .error (.error .decryptionError) := by
      unfold GcmAes256.decrypt
      rw [if_pos hlen, h]
      exact ite_self _
    rw [hkey]
    dsimp only
    rw [hfails]
    exact Or.inl ⟨_, rfl⟩
  | appState masterKey hopens h =>
    obtain ⟨custodianKey, hkey, hopen⟩ := hopens
    rw [hkey]
    dsimp only
    rw [hopen]
    exact Or.inr ⟨_, rfl, h⟩

namespace GlobalAppState

variable {openWithin : OpenWithin} {s : GlobalAppState} {tenantId : String}

/-- A failure inside the match answers with an error, and changes nothing. -/
theorem decrypt_of_failsLate (h : s.FailsLate openWithin tenantId) :
    ∃ e, s.decrypt openWithin tenantId = (.error (.error e), s) := by
  obtain ⟨innerKey1, innerKey2, tenantConfig, hkeys, hconfig, hfails⟩ := h
  unfold decrypt
  rw [hkeys]
  dsimp only
  rw [hconfig]
  dsimp only
  rcases hfails.outcome with ⟨message, haes⟩ | ⟨opened, haes, hdown⟩
  · rw [haes]
    exact ⟨_, rfl⟩
  · have hnew : s.tenantAppStateNew opened = none := by
      rw [tenantAppStateNew, hdown]
      rfl
    rw [haes]
    dsimp only
    rw [hnew]
    exact ⟨_, rfl⟩

/-- A `decrypt` fails for a tenant without halves, in the match, or with the reset. -/
theorem decrypt_failed {e : CustodianError}
    (h : (s.decrypt openWithin tenantId).1 = .error (.error e)) :
    (s.tenantsKeyState tenantId = none ∧ (s.decrypt openWithin tenantId).2 = s) ∨
    s.FailsLate openWithin tenantId ∨
    (s.decrypt openWithin tenantId).2 =
      s.modifyKeyState tenantId fun _ => { key1 := none, key2 := none } := by
  unfold decrypt at h ⊢
  split at h
  · rename_i hnone
    exact Or.inl ⟨hnone, rfl⟩
  · rename_i innerKey1 innerKey2 hkeys
    refine Or.inr (Or.inl ?_)
    split at h
    · cases h
    · rename_i tenantConfig hconfig
      refine ⟨innerKey1, innerKey2, tenantConfig, hkeys, hconfig, ?_⟩
      split at h
      · rename_i fault haes
        cases h
        exact aesDecryptCustodianKey_failed haes
      · rename_i opened haes
        obtain ⟨masterKey, hopens, rfl⟩ := aesDecryptCustodianKey_ok haes
        split at h
        · rename_i hnew
          exact .appState masterKey hopens (by simpa [tenantAppStateNew] using hnew)
        · cases h
  · exact Or.inr (Or.inr rfl)

end GlobalAppState

/-- A `decrypt` that fails leaves no half behind and no app state changed, unless both
    halves are there and the match is left through `?`. -/
theorem GlobalAppState.decrypt_wipes_iff (openWithin : OpenWithin) (s : GlobalAppState)
    (tenantId : String) :
    (∀ e, (s.decrypt openWithin tenantId).1 = .error (.error e) →
        Wiped s (s.decrypt openWithin tenantId).2 tenantId) ↔
      ¬ s.FailsLate openWithin tenantId := by
  constructor
  · intro hwipes hfails
    obtain ⟨e, he⟩ := decrypt_of_failsLate hfails
    obtain ⟨innerKey1, innerKey2, _, hkeys, _, _⟩ := hfails
    have hwiped := hwipes e (by rw [he])
    rw [he] at hwiped
    obtain ⟨hkey1, -⟩ := hwiped.halves _ hkeys
    cases hkey1
  · intro hlate e he
    rcases decrypt_failed he with ⟨hnone, hsame⟩ | hfails | hreset
    · rw [hsame]
      refine ⟨fun keyState hkeyState => ?_, rfl⟩
      rw [hnone] at hkeyState
      cases hkeyState
    · exact absurd hfails hlate
    · rw [hreset]
      refine ⟨fun keyState hkeyState => ?_, rfl⟩
      rw [modifyKeyState_self] at hkeyState
      obtain ⟨before, -, rfl⟩ := Option.map_eq_some_iff.1 hkeyState
      exact ⟨rfl, rfl⟩

/-- A tenant that was sent one half, and a second one that does not belong to it. -/
def wrongHalf : GlobalAppState :=
  ((GlobalAppState.new (oneTenant sealedMasterKey) fun _ => true).modifyKeyState "public"
    fun keyState => keyState.accept .key1 halfKey.key).modifyKeyState "public"
    fun keyState => keyState.accept .key2 "00000000000000000000000000000000"

/-- The wrong half stays, and the right one with it. -/
theorem GlobalAppState.wrongHalf_stays :
    ¬ ∀ e, (wrongHalf.decrypt openVector "public").1 = .error (.error e) →
        Wiped wrongHalf (wrongHalf.decrypt openVector "public").2 "public" := by
  intro hwipes
  have hfails : (wrongHalf.decrypt openVector "public").1 =
      .error (.error (.api (.decryptingKeysFailed "AES decryption failed"))) := by decide +kernel
  have hstate : (wrongHalf.decrypt openVector "public").2.tenantsKeyState "public" =
      some ⟨some halfKey.key, some "00000000000000000000000000000000"⟩ := by decide +kernel
  obtain ⟨hkey1, -⟩ := (hwipes _ hfails).halves _ hstate
  cases hkey1

end CardVault
