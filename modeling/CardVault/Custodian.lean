import CardVault.Crypto.Aes
import CardVault.Lib.Runs

/-!
# Custodian

The unlock of a tenant (`src/src/routes/key_custodian.rs`, `src/src/tenant.rs`,
`src/src/custom_extractors.rs`): two custodians send one key half each, and
`decrypt` opens the tenant's master key with the two. A request is a program:
its extractors read the shared state before its body runs under the write lock
of the key halves, so other requests may come in between.

Main results:
* `GlobalAppState.decrypt_cases`: what the body of `decrypt` leaves behind.
* `GlobalAppState.exec_half`: what a step does to the key halves.
* `GlobalAppState.sameTenant_exec`: a step changes nothing of another tenant.
* `CustodianRequest.keeps_handler`: the steps a request may take.
-/

namespace CardVault

open Interaction

/-! ## Configuration -/

/-- `TenantSecrets` (`src/src/config.rs`). -/
structure TenantSecrets where
  masterKey : Bytes
  schema : String
  redisKeyPrefix : String
  deriving DecidableEq, Repr

/-- `GlobalConfig`, as far as it differs between tenants. -/
structure GlobalConfig where
  tenantSecrets : String → Option TenantSecrets

/-- `TenantConfig`. -/
structure TenantConfig where
  tenantId : String
  tenantSecrets : TenantSecrets
  redisKeyPrefix : String
  deriving DecidableEq, Repr

/-- `TenantConfig::from_global_config`, whose `unwrap` fails on a tenant that is
    not configured. -/
def TenantConfig.fromGlobalConfig (globalConfig : GlobalConfig) (tenantId : String) :
    Option TenantConfig :=
  (globalConfig.tenantSecrets tenantId).map fun tenantSecrets =>
    { tenantId, tenantSecrets, redisKeyPrefix := tenantSecrets.redisKeyPrefix }

/-- `TenantAppState`: its configuration; the pools and clients built from it are
    left out. -/
structure TenantAppState where
  config : TenantConfig
  deriving DecidableEq, Repr

/-! ## Key halves -/

/-- `KEY_LENGTH`. -/
def keyLength : ℕ := 16

/-- `key_validation`: the text of 16 bytes. -/
def keyValidation (key : String) : Bool :=
  match hexDecode key with
  | some data => data.length = keyLength
  | none => false

/-- `CustodianReqPayload`: a key half that passed its validation. -/
structure CustodianReqPayload where
  key : String
  valid : keyValidation key = true

/-- `CustodianRespPayload`. -/
structure CustodianRespPayload where
  message : String
  deriving DecidableEq, Repr

/-- The two halves. -/
inductive KeyHalf where
  | key1
  | key2
  deriving DecidableEq, Repr

/-- `CustodianKeyState`. -/
structure CustodianKeyState where
  key1 : Option String
  key2 : Option String
  deriving DecidableEq, Repr

/-- `CustodianKeyState::default`. -/
def CustodianKeyState.default : CustodianKeyState := { key1 := none, key2 := none }

/-- One half. -/
def CustodianKeyState.half (keyState : CustodianKeyState) : KeyHalf → Option String
  | .key1 => keyState.key1
  | .key2 => keyState.key2

/-- `key_state_data.key1 = Some(key)`, or `key2`. -/
def CustodianKeyState.accept (keyState : CustodianKeyState) (half : KeyHalf) (key : String) :
    CustodianKeyState :=
  match half with
  | .key1 => { keyState with key1 := some key }
  | .key2 => { keyState with key2 := some key }

@[simp] theorem CustodianKeyState.half_default (half : KeyHalf) :
    CustodianKeyState.default.half half = none := by cases half <;> rfl

theorem CustodianKeyState.half_accept (keyState : CustodianKeyState) (half half' : KeyHalf)
    (key : String) :
    (keyState.accept half key).half half' =
      if half = half' then some key else keyState.half half' := by
  cases half <;> cases half' <;> rfl

/-! ## Shared state -/

/-- `GlobalAppState`. `TenantAppState::new` succeeds on the configurations in
    `reachable`, and fails on all others. -/
structure GlobalAppState where
  tenantsAppState : String → Option TenantAppState
  tenantsKeyState : String → Option CustodianKeyState
  knownTenants : String → Bool
  globalConfig : GlobalConfig
  reachable : TenantConfig → Bool

namespace GlobalAppState

/-- `GlobalAppState::new`. -/
def new (globalConfig : GlobalConfig) (reachable : TenantConfig → Bool) : GlobalAppState :=
  { tenantsAppState := fun _ => none
    tenantsKeyState := fun tenantId =>
      (globalConfig.tenantSecrets tenantId).map fun _ => CustodianKeyState.default
    knownTenants := fun tenantId => (globalConfig.tenantSecrets tenantId).isSome
    globalConfig
    reachable }

/-- `is_known_tenant`. -/
def isKnownTenant (s : GlobalAppState) (tenantId : String) : Except ApiError Unit :=
  if s.knownTenants tenantId then .ok () else .error (.tenantError "Invalid x-tenant-id")

/-- `is_custodian_unlocked`. -/
def isCustodianUnlocked (s : GlobalAppState) (tenantId : String) : Except ApiError Unit :=
  if (s.tenantsAppState tenantId).isSome then .error .custodianUnlocked else .ok ()

/-- `set_app_state`. -/
def setAppState (s : GlobalAppState) (state : TenantAppState) : GlobalAppState :=
  { s with
    tenantsAppState := Function.update s.tenantsAppState state.config.tenantId (some state) }

/-- `TenantAppState::new`. -/
def tenantAppStateNew (s : GlobalAppState) (config : TenantConfig) : Option TenantAppState :=
  if s.reachable config then some { config } else none

/-- The key halves of a tenant, changed in place if there is an entry. -/
def modifyKeyState (s : GlobalAppState) (tenantId : String)
    (f : CustodianKeyState → CustodianKeyState) : GlobalAppState :=
  { s with
    tenantsKeyState :=
      Function.update s.tenantsKeyState tenantId ((s.tenantsKeyState tenantId).map f) }

end GlobalAppState

/-! ## Handlers -/

/-- What a request ends with when it does not end with its answer. -/
inductive CustodianError where
  | api (e : ApiError)
  /-- axum's rejection of a body that does not deserialize -/
  | jsonRejection
  deriving DecidableEq, Repr

/-- The answer of a custodian request. -/
abbrev CustodianResult (α : Type) : Type := Except (Fault CustodianError) α

/-- The steps of a request on the shared state. -/
inductive CustodianCmd where
  | isKnownTenant (tenantId : String)
  | isCustodianUnlocked (tenantId : String)
  /-- the body of `key1` or `key2` -/
  | accept (half : KeyHalf) (tenantId : String) (key : String)
  /-- the body of `decrypt` -/
  | decrypt (tenantId : String)
  deriving DecidableEq, Repr

/-- What each step answers. -/
def CustodianReply : CustodianCmd → Type
  | .isKnownTenant _ => Except ApiError Unit
  | .isCustodianUnlocked _ => Except ApiError Unit
  | .accept .. => Unit
  | .decrypt _ => CustodianResult CustodianRespPayload

/-- A custodian request on its way. -/
abbrev CustodianApp (α : Type) : Type := Prog CustodianCmd CustodianReply α

/-- An `ApiError` leaves an extractor. -/
def orRejection {α : Type} : Except ApiError α → CustodianResult α
  | .ok a => .ok a
  | .error e => .error (.error (.api e))

/-- `TenantId::from_request_parts`; `header` is the text of `x-tenant-id`. -/
def TenantId.fromRequestParts (header : Option String) :
    CustodianApp (CustodianResult String) :=
  match header with
  | none => .pure (.error (.error (.api (.tenantError "x-tenant-id not found in header"))))
  | some tenantId =>
    ((Prog.perform (CustodianCmd.isKnownTenant tenantId)).mapResult orRejection).andThen fun _ =>
      ((Prog.perform (CustodianCmd.isCustodianUnlocked tenantId)).mapResult orRejection).andThen
        fun _ => .pure (.ok tenantId)

/-- `Json<CustodianReqPayload>`; `body` is the payload if it deserializes. -/
def Json.fromRequest (body : Option CustodianReqPayload) :
    CustodianApp (CustodianResult CustodianReqPayload) :=
  match body with
  | none => .pure (.error (.error .jsonRejection))
  | some payload => .pure (.ok payload)

/-- A handler that takes one key half. -/
def acceptKey (half : KeyHalf) (message : String) (header : Option String)
    (body : Option CustodianReqPayload) : CustodianApp (CustodianResult CustodianRespPayload) :=
  (TenantId.fromRequestParts header).andThen fun tenantId =>
    (Json.fromRequest body).andThen fun payload =>
      (Prog.perform (CustodianCmd.accept half tenantId payload.key)).mapResult fun _ =>
        .ok ⟨message⟩

/-- `key1`. -/
def key1 (header : Option String) (body : Option CustodianReqPayload) :
    CustodianApp (CustodianResult CustodianRespPayload) :=
  acceptKey .key1 "Received Key1" header body

/-- `key2`. -/
def key2 (header : Option String) (body : Option CustodianReqPayload) :
    CustodianApp (CustodianResult CustodianRespPayload) :=
  acceptKey .key2 "Received Key2" header body

/-- `decrypt`. -/
def decrypt (header : Option String) : CustodianApp (CustodianResult CustodianRespPayload) :=
  (TenantId.fromRequestParts header).andThen fun tenantId =>
    Prog.perform (CustodianCmd.decrypt tenantId)

/-- `aes_decrypt_custodian_key`: the configuration with its master key opened. -/
def aesDecryptCustodianKey (openWithin : OpenWithin) (tenantConfig : TenantConfig)
    (innerKey1 innerKey2 : String) : CustodianResult TenantConfig :=
  match hexDecode (innerKey1 ++ innerKey2) with
  | none => .error (.error (.api (.decryptingKeysFailed "Hex dcoding failed")))
  | some custodianKey =>
    match (GcmAes256.mk custodianKey).decrypt openWithin tenantConfig.tenantSecrets.masterKey with
    | .ok masterKey =>
      .ok { tenantConfig with
        tenantSecrets := { tenantConfig.tenantSecrets with masterKey } }
    | .error (.error _) => .error (.error (.api (.decryptingKeysFailed "AES decryption failed")))
    | .error .panicked => .error .panicked

namespace GlobalAppState

/-- The body of `decrypt`, under the write lock of the key halves. Only the
    branch without both halves reaches the reset; `?` leaves before it. -/
def decrypt (openWithin : OpenWithin) (s : GlobalAppState) (tenantId : String) :
    CustodianResult CustodianRespPayload × GlobalAppState :=
  match s.tenantsKeyState tenantId with
  | none => (.error (.error (.api (.tenantError "Tenant not found"))), s)
  | some { key1 := some innerKey1, key2 := some innerKey2 } =>
    match TenantConfig.fromGlobalConfig s.globalConfig tenantId with
    | none => (.error .panicked, s)
    | some tenantConfig =>
      match aesDecryptCustodianKey openWithin tenantConfig innerKey1 innerKey2 with
      | .error e => (.error e, s)
      | .ok tenantConfig =>
        match s.tenantAppStateNew tenantConfig with
        | none =>
          (.error (.error (.api (.tenantError "Failed while creating AppState for tenant"))), s)
        | some tenantAppState =>
          (.ok ⟨"Decryption of Custodian key is successful"⟩, s.setAppState tenantAppState)
  | some _ =>
    (.error (.error (.api (.decryptingKeysFailed
        "Both the custodain keys are not present to decrypt"))),
      s.modifyKeyState tenantId fun _ => { key1 := none, key2 := none })

/-- One step on the shared state. -/
def exec (openWithin : OpenWithin) (s : GlobalAppState) :
    (c : CustodianCmd) → CustodianReply c × GlobalAppState
  | .isKnownTenant tenantId => (s.isKnownTenant tenantId, s)
  | .isCustodianUnlocked tenantId => (s.isCustodianUnlocked tenantId, s)
  | .accept half tenantId key =>
    ((), s.modifyKeyState tenantId fun keyState => keyState.accept half key)
  | .decrypt tenantId => s.decrypt openWithin tenantId

end GlobalAppState

/-! ## Requests -/

/-- A request to the custodian endpoints: its `x-tenant-id`, and its body if it
    deserializes. -/
inductive CustodianRequest where
  | key (half : KeyHalf) (header : Option String) (body : Option CustodianReqPayload)
  | decrypt (header : Option String)

namespace CustodianRequest

/-- The tenant a request names. -/
def header : CustodianRequest → Option String
  | .key _ header _ => header
  | .decrypt header => header

/-- The handler `serve` routes a request to. -/
def handler : CustodianRequest → CustodianApp (CustodianResult CustodianRespPayload)
  | .key .key1 header body => key1 header body
  | .key .key2 header body => key2 header body
  | .decrypt header => CardVault.decrypt header

/-- The steps that a request may take. -/
def Issues (r : CustodianRequest) : CustodianCmd → Prop
  | .isKnownTenant tenantId => r.header = some tenantId
  | .isCustodianUnlocked tenantId => r.header = some tenantId
  | .accept half tenantId text =>
    ∃ payload, r = .key half (some tenantId) (some payload) ∧ payload.key = text
  | .decrypt tenantId => r = .decrypt (some tenantId)

/-- Whatever the answers, the steps of `p` are steps that `r` may take. -/
abbrev Keeps {α : Type} (r : CustodianRequest) (p : CustodianApp α) (Q : α → Prop) : Prop :=
  p.Meets r.Issues (fun _ _ => True) Q

theorem keeps_fromRequestParts (r : CustodianRequest) :
    r.Keeps (TenantId.fromRequestParts r.header)
      fun reply => ∀ tenantId, reply = .ok tenantId → r.header = some tenantId := by
  unfold TenantId.fromRequestParts
  split
  · intro tenantId h
    cases h
  · rename_i tenantId h
    have hknown : r.Issues (.isKnownTenant tenantId) := h
    have hlocked : r.Issues (.isCustodianUnlocked tenantId) := h
    refine Prog.Meets.andThen (Q := fun _ => True)
      (Prog.Meets.mapResult ⟨hknown, fun _ _ => trivial⟩) (fun e _ t ht => nomatch ht) fun _ _ => ?_
    refine Prog.Meets.andThen (Q := fun _ => True)
      (Prog.Meets.mapResult ⟨hlocked, fun _ _ => trivial⟩) (fun e _ t ht => nomatch ht)
      fun _ _ => ?_
    intro t ht
    cases ht
    exact h

/-- A request only takes steps for the tenant it names, and only its own body. -/
theorem keeps_handler (r : CustodianRequest) : r.Keeps r.handler fun _ => True := by
  cases r with
  | key half header body =>
    have hparts := keeps_fromRequestParts (.key half header body)
    have haccept : ∀ message, (CustodianRequest.key half header body).Keeps
        (acceptKey half message header body) fun _ => True := by
      intro message
      refine hparts.andThen (fun _ _ => trivial) fun tenantId htenant => ?_
      have hheader : header = some tenantId := htenant tenantId rfl
      subst hheader
      cases body with
      | none => trivial
      | some payload => exact Prog.Meets.mapResult ⟨⟨payload, rfl, rfl⟩, fun _ _ => trivial⟩
    cases half with
    | key1 => exact haccept _
    | key2 => exact haccept _
  | decrypt header =>
    refine (keeps_fromRequestParts (.decrypt header)).andThen (fun _ _ => trivial)
      fun tenantId htenant => ?_
    have hheader : header = some tenantId := htenant tenantId rfl
    subst hheader
    exact ⟨rfl, fun _ _ => trivial⟩

end CustodianRequest

/-! ## One step -/

/-- The tenant a step is for. -/
def CustodianCmd.tenantId : CustodianCmd → String
  | .isKnownTenant tenantId => tenantId
  | .isCustodianUnlocked tenantId => tenantId
  | .accept _ tenantId _ => tenantId
  | .decrypt tenantId => tenantId

theorem CustodianRequest.header_of_issues {r : CustodianRequest} {c : CustodianCmd}
    (h : r.Issues c) : r.header = some c.tenantId := by
  cases c with
  | isKnownTenant => exact h
  | isCustodianUnlocked => exact h
  | accept half tenantId text =>
    obtain ⟨payload, rfl, _⟩ := h
    rfl
  | decrypt tenantId =>
    cases h
    rfl

theorem TenantConfig.tenantId_of_fromGlobalConfig {globalConfig : GlobalConfig}
    {tenantId : String} {tenantConfig : TenantConfig}
    (h : TenantConfig.fromGlobalConfig globalConfig tenantId = some tenantConfig) :
    tenantConfig.tenantId = tenantId := by
  obtain ⟨secrets, _, rfl⟩ := Option.map_eq_some_iff.1 h
  rfl

/-- The two halves open the master key of a configuration. -/
def Opens (openWithin : OpenWithin) (innerKey1 innerKey2 : String) (sealed opened : Bytes) : Prop :=
  ∃ custodianKey, hexDecode (innerKey1 ++ innerKey2) = some custodianKey ∧
    (GcmAes256.mk custodianKey).decrypt openWithin sealed = .ok opened

theorem aesDecryptCustodianKey_ok {openWithin : OpenWithin} {tenantConfig opened : TenantConfig}
    {innerKey1 innerKey2 : String}
    (h : aesDecryptCustodianKey openWithin tenantConfig innerKey1 innerKey2 = .ok opened) :
    ∃ masterKey,
      Opens openWithin innerKey1 innerKey2 tenantConfig.tenantSecrets.masterKey masterKey ∧
      opened = { tenantConfig with
        tenantSecrets := { tenantConfig.tenantSecrets with masterKey } } := by
  unfold aesDecryptCustodianKey at h
  split at h
  · cases h
  · rename_i custodianKey hkey
    split at h
    · rename_i masterKey hopen
      cases h
      exact ⟨masterKey, ⟨custodianKey, hkey, hopen⟩, rfl⟩
    · cases h
    · cases h

namespace GlobalAppState

variable (openWithin : OpenWithin) (s : GlobalAppState)

/-- The body of `decrypt` changes nothing, resets the halves, or installs the
    master key that the halves open. -/
theorem decrypt_cases (tenantId : String) :
    (s.decrypt openWithin tenantId).2 = s ∨
    (s.decrypt openWithin tenantId).2 =
      s.modifyKeyState tenantId (fun _ => { key1 := none, key2 := none }) ∨
    ∃ innerKey1 innerKey2 tenantConfig masterKey,
      s.tenantsKeyState tenantId = some ⟨some innerKey1, some innerKey2⟩ ∧
      TenantConfig.fromGlobalConfig s.globalConfig tenantId = some tenantConfig ∧
      Opens openWithin innerKey1 innerKey2 tenantConfig.tenantSecrets.masterKey masterKey ∧
      (s.decrypt openWithin tenantId).2 = s.setAppState
        ⟨{ tenantConfig with tenantSecrets := { tenantConfig.tenantSecrets with masterKey } }⟩ := by
  unfold decrypt
  split
  · exact Or.inl rfl
  · rename_i innerKey1 innerKey2 hkeys
    split
    · exact Or.inl rfl
    · rename_i tenantConfig hconfig
      split
      · exact Or.inl rfl
      · rename_i opened haes
        obtain ⟨masterKey, hopens, rfl⟩ := aesDecryptCustodianKey_ok haes
        by_cases hup : s.reachable
            { tenantConfig with tenantSecrets := { tenantConfig.tenantSecrets with masterKey } }
        · simp only [tenantAppStateNew, if_pos hup]
          exact Or.inr (Or.inr ⟨innerKey1, innerKey2, tenantConfig, masterKey, hkeys, hconfig,
            hopens, rfl⟩)
        · simp [tenantAppStateNew, if_neg hup]
  · exact Or.inr (Or.inl rfl)

@[simp] theorem modifyKeyState_self (tenantId : String)
    (f : CustodianKeyState → CustodianKeyState) :
    (s.modifyKeyState tenantId f).tenantsKeyState tenantId = (s.tenantsKeyState tenantId).map f :=
  Function.update_self ..

@[simp] theorem modifyKeyState_tenantsAppState (tenantId : String)
    (f : CustodianKeyState → CustodianKeyState) :
    (s.modifyKeyState tenantId f).tenantsAppState = s.tenantsAppState := rfl

@[simp] theorem setAppState_tenantsKeyState (state : TenantAppState) :
    (s.setAppState state).tenantsKeyState = s.tenantsKeyState := rfl

/-- What a store keeps of one tenant. -/
structure SameTenant (s s' : GlobalAppState) (tenantId : String) : Prop where
  keyState : s'.tenantsKeyState tenantId = s.tenantsKeyState tenantId
  appState : s'.tenantsAppState tenantId = s.tenantsAppState tenantId
  config : s'.globalConfig.tenantSecrets tenantId = s.globalConfig.tenantSecrets tenantId

theorem SameTenant.refl (tenantId : String) : SameTenant s s tenantId := ⟨rfl, rfl, rfl⟩

theorem sameTenant_modifyKeyState {tenantId tenantId' : String} (hne : tenantId' ≠ tenantId)
    (f : CustodianKeyState → CustodianKeyState) :
    SameTenant s (s.modifyKeyState tenantId f) tenantId' :=
  ⟨Function.update_of_ne hne _ _, rfl, rfl⟩

/-- A step changes nothing of another tenant. -/
theorem sameTenant_exec (c : CustodianCmd) {tenantId : String} (hne : tenantId ≠ c.tenantId) :
    SameTenant s (s.exec openWithin c).2 tenantId := by
  cases c with
  | isKnownTenant => exact SameTenant.refl s tenantId
  | isCustodianUnlocked => exact SameTenant.refl s tenantId
  | accept half t text => exact sameTenant_modifyKeyState s hne _
  | decrypt t =>
    change SameTenant s (s.decrypt openWithin t).2 tenantId
    rcases decrypt_cases openWithin s t with h | h | ⟨_, _, tenantConfig, _, _, hconfig, _, h⟩
    · rw [h]
      exact SameTenant.refl s tenantId
    · rw [h]
      exact sameTenant_modifyKeyState s hne _
    · have ht := TenantConfig.tenantId_of_fromGlobalConfig hconfig
      rw [h]
      exact ⟨rfl, Function.update_of_ne (ht ▸ hne) _ _, rfl⟩

/-- The configuration is only read. -/
theorem exec_globalConfig (c : CustodianCmd) :
    (s.exec openWithin c).2.globalConfig = s.globalConfig := by
  cases c with
  | decrypt t =>
    change (s.decrypt openWithin t).2.globalConfig = s.globalConfig
    rcases decrypt_cases openWithin s t with h | h | ⟨_, _, _, _, _, _, _, h⟩ <;> rw [h] <;> rfl
  | _ => rfl

/-- A half that a step leaves behind was accepted by that step, or is as it was. -/
theorem exec_half (c : CustodianCmd) {tenantId text : String} {half : KeyHalf}
    {keyState : CustodianKeyState}
    (hstate : (s.exec openWithin c).2.tenantsKeyState tenantId = some keyState)
    (hhalf : keyState.half half = some text) :
    c = .accept half tenantId text ∨
      (∀ other, c ≠ .accept half tenantId other) ∧
        ∃ before, s.tenantsKeyState tenantId = some before ∧ before.half half = some text := by
  by_cases ht : tenantId = c.tenantId
  · subst ht
    cases c with
    | isKnownTenant => exact Or.inr ⟨fun _ => nofun, keyState, hstate, hhalf⟩
    | isCustodianUnlocked => exact Or.inr ⟨fun _ => nofun, keyState, hstate, hhalf⟩
    | accept half' t other =>
      have hmap : (s.tenantsKeyState t).map (fun ks => ks.accept half' other) = some keyState :=
        (modifyKeyState_self s t _).symm.trans hstate
      obtain ⟨before, hbefore, rfl⟩ := Option.map_eq_some_iff.1 hmap
      rw [CustodianKeyState.half_accept] at hhalf
      split_ifs at hhalf with heq
      · cases heq
        cases hhalf
        exact Or.inl rfl
      · exact Or.inr ⟨fun _ h => heq (by cases h; rfl), before, hbefore, hhalf⟩
    | decrypt t =>
      have hkept : s.tenantsKeyState t = some keyState →
          ∃ before, s.tenantsKeyState t = some before ∧ before.half half = some text :=
        fun h => ⟨keyState, h, hhalf⟩
      refine Or.inr ⟨fun _ => nofun, ?_⟩
      replace hstate : (s.decrypt openWithin t).2.tenantsKeyState t = some keyState := hstate
      rcases decrypt_cases openWithin s t with h | h | ⟨_, _, _, _, _, _, _, h⟩
      · exact hkept (h ▸ hstate)
      · -- both halves are gone
        rw [h, modifyKeyState_self] at hstate
        obtain ⟨before, _, rfl⟩ := Option.map_eq_some_iff.1 hstate
        cases half <;> cases hhalf
      · rw [h, setAppState_tenantsKeyState] at hstate
        exact hkept hstate
  · have hsame := (sameTenant_exec openWithin s c ht).keyState
    exact Or.inr ⟨fun _ h => ht (by rw [h]; rfl), keyState, hsame ▸ hstate, hhalf⟩

end GlobalAppState

end CardVault
