import Mathlib.Data.List.Induction
import CardVault.Custodian

/-!
# Custodian unlock

Requests to the custodian endpoints, for any tenants, interleaved step by step.

Main results:
* `Custodian.inv_step`, `Custodian.inv_run`: the halves in store are the ones
  that were accepted last.
* `Custodian.unlock_safe`: a tenant is unlocked by a `decrypt` of its own that
  opened its master key with the halves accepted last, and no request touches
  another tenant.
-/

namespace CardVault

open Interaction GlobalAppState

namespace Custodian

variable {ι : Type}

/-! ## Runs -/

/-- The custodian requests in flight over the shared state. -/
abbrev CustodianPool (ι : Type) : Type :=
  Pool GlobalAppState ι CustodianCmd CustodianReply (CustodianResult CustodianRespPayload)

/-- Databases come and go. -/
def setReachable (s : GlobalAppState) (reachable : TenantConfig → Bool) : GlobalAppState :=
  { s with reachable }

/-- The server has started and no request has taken a step. -/
def start (config : GlobalConfig) (reachable : TenantConfig → Bool)
    (requests : ι → CustodianRequest) : CustodianPool ι :=
  { store := GlobalAppState.new config reachable
    threads := fun i => (requests i).handler
    history := [] }

/-- One turn: a request takes its next step, or the databases change. -/
abbrev turn [DecidableEq ι] (openWithin : OpenWithin) (p : CustodianPool ι)
    (t : Turn ι (TenantConfig → Bool)) : CustodianPool ι :=
  p.step (GlobalAppState.exec openWithin) setReachable t

/-- The pool after a list of turns. -/
def run [DecidableEq ι] (openWithin : OpenWithin) (turns : List (Turn ι (TenantConfig → Bool)))
    (p : CustodianPool ι) : CustodianPool ι := runActs (turn openWithin) turns p

/-- The latest half accepted for a tenant, and the request that brought it. -/
def lastAccepted (half : KeyHalf) (tenantId : String) :
    List (ι × CustodianCmd) → Option (ι × String)
  | [] => none
  | (i, .accept half' tenantId' text) :: history =>
    if half' = half ∧ tenantId' = tenantId then some (i, text)
    else lastAccepted half tenantId history
  | _ :: history => lastAccepted half tenantId history

@[simp] theorem lastAccepted_self (half : KeyHalf) (tenantId text : String) (i : ι)
    (history : List (ι × CustodianCmd)) :
    lastAccepted half tenantId ((i, .accept half tenantId text) :: history) = some (i, text) :=
  if_pos ⟨rfl, rfl⟩

theorem lastAccepted_of_ne {half : KeyHalf} {tenantId : String} {c : CustodianCmd}
    (h : ∀ text, c ≠ .accept half tenantId text) (i : ι) (history : List (ι × CustodianCmd)) :
    lastAccepted half tenantId ((i, c) :: history) = lastAccepted half tenantId history := by
  cases c with
  | accept half' tenantId' text =>
    refine if_neg fun heq => ?_
    obtain ⟨rfl, rfl⟩ := heq
    exact h text rfl
  | _ => rfl

theorem mem_of_lastAccepted {half : KeyHalf} {tenantId text : String} {i : ι}
    {history : List (ι × CustodianCmd)} (h : lastAccepted half tenantId history = some (i, text)) :
    (i, .accept half tenantId text) ∈ history := by
  induction history with
  | nil => cases h
  | cons entry history ih =>
    obtain ⟨j, c⟩ := entry
    by_cases hc : ∃ other, c = .accept half tenantId other
    · obtain ⟨other, rfl⟩ := hc
      rw [lastAccepted_self] at h
      cases h
      exact List.mem_cons_self
    · rw [lastAccepted_of_ne fun other heq => hc ⟨other, heq⟩] at h
      exact List.mem_cons_of_mem _ (ih h)

/-! ## Invariant -/

/-- Every request takes its own steps only, and the halves in store are the ones
    accepted last. -/
structure Inv (config : GlobalConfig) (requests : ι → CustodianRequest) (p : CustodianPool ι) :
    Prop where
  keeps : ∀ i, (requests i).Keeps (p.threads i) fun _ => True
  history : ∀ i c, (i, c) ∈ p.history → (requests i).Issues c
  config : p.store.globalConfig = config
  halves : ∀ tenantId keyState half text,
    p.store.tenantsKeyState tenantId = some keyState → keyState.half half = some text →
      ∃ i, lastAccepted half tenantId p.history = some (i, text)

theorem inv_start (config : GlobalConfig) (reachable : TenantConfig → Bool)
    (requests : ι → CustodianRequest) : Inv config requests (start config reachable requests) where
  keeps i := (requests i).keeps_handler
  history i c h := by cases h
  config := rfl
  halves tenantId keyState half text hstate hhalf := by
    obtain ⟨_, _, rfl⟩ := Option.map_eq_some_iff.1 hstate
    rw [CustodianKeyState.half_default] at hhalf
    cases hhalf

variable [DecidableEq ι] {openWithin : OpenWithin} {config : GlobalConfig}
  {requests : ι → CustodianRequest} {p : CustodianPool ι}

theorem inv_step (h : Inv config requests p) (t : Turn ι (TenantConfig → Bool)) :
    Inv config requests (turn openWithin p t) := by
  have hkeeps : ∀ i, (requests i).Keeps ((turn openWithin p t).threads i) fun _ => True :=
    Pool.meets_step h.keeps t fun _ _ _ _ => trivial
  cases t with
  | env reachable => exact ⟨hkeeps, h.history, h.config, h.halves⟩
  | thread j =>
    cases hj : p.threads j with
    | pure a =>
      have hstep : turn openWithin p (.thread j) = p := Pool.step_ended hj
      rw [hstep]
      exact h
    | call c k =>
      have hstep : turn openWithin p (.thread j) = _ := Pool.step_thread hj
      have hc : (requests j).Issues c := by
        have hthread := h.keeps j
        rw [hj] at hthread
        exact hthread.1
      refine ⟨hkeeps, ?_, ?_, ?_⟩
      · rw [hstep]
        intro i c' hmem
        rcases List.mem_cons.1 hmem with heq | hmem
        · cases heq
          exact hc
        · exact h.history i c' hmem
      · rw [hstep]
        exact (exec_globalConfig openWithin p.store c).trans h.config
      · rw [hstep]
        intro tenantId keyState half text hstate hhalf
        rcases exec_half openWithin p.store c hstate hhalf with rfl | ⟨hne, before, hb, hhalf'⟩
        · exact ⟨j, lastAccepted_self half tenantId text j p.history⟩
        · obtain ⟨i, hi⟩ := h.halves tenantId before half text hb hhalf'
          exact ⟨i, (lastAccepted_of_ne hne j p.history).trans hi⟩

theorem inv_run (h : Inv config requests p) (turns : List (Turn ι (TenantConfig → Bool))) :
    Inv config requests (run openWithin turns p) :=
  run_invariant (I := Inv config requests) (fun _ t hp _ => inv_step hp t)
    turns p h (good_true turns p)

/-! ## What unlocks a tenant -/

/-- Request `i` is about to install `state` for the tenant: it is a `decrypt` of
    that tenant, the halves accepted last for the tenant are both there, and they
    open its configured master key. -/
structure Unlocks (openWithin : OpenWithin) (config : GlobalConfig)
    (requests : ι → CustodianRequest) (p : CustodianPool ι) (i : ι) (tenantId : String)
    (state : TenantAppState) : Prop where
  request : requests i = .decrypt (some tenantId)
  runs : p.nextCommand i = some (.decrypt tenantId)
  opens : ∃ j₁ j₂ half₁ half₂ tenantConfig masterKey,
    requests j₁ = .key .key1 (some tenantId) (some half₁) ∧
    requests j₂ = .key .key2 (some tenantId) (some half₂) ∧
    lastAccepted .key1 tenantId p.history = some (j₁, half₁.key) ∧
    lastAccepted .key2 tenantId p.history = some (j₂, half₂.key) ∧
    p.store.tenantsKeyState tenantId = some ⟨some half₁.key, some half₂.key⟩ ∧
    TenantConfig.fromGlobalConfig config tenantId = some tenantConfig ∧
    Opens openWithin half₁.key half₂.key tenantConfig.tenantSecrets.masterKey masterKey ∧
    state.config = { tenantConfig with
      tenantSecrets := { tenantConfig.tenantSecrets with masterKey } }

omit [DecidableEq ι] in
theorem Inv.accepted (h : Inv config requests p) (half : KeyHalf) {tenantId text : String}
    {keyState : CustodianKeyState} (hstate : p.store.tenantsKeyState tenantId = some keyState)
    (hhalf : keyState.half half = some text) :
    ∃ i payload, requests i = .key half (some tenantId) (some payload) ∧ payload.key = text ∧
      lastAccepted half tenantId p.history = some (i, payload.key) := by
  obtain ⟨i, hi⟩ := h.halves tenantId keyState half text hstate hhalf
  obtain ⟨payload, hreq, rfl⟩ := h.history i _ (mem_of_lastAccepted hi)
  exact ⟨i, payload, hreq, rfl, hi⟩

/-- A turn that changes the app state of a tenant unlocks it. -/
theorem appState_step (h : Inv config requests p) (t : Turn ι (TenantConfig → Bool))
    {tenantId : String} {state : TenantAppState}
    (hstate : (turn openWithin p t).store.tenantsAppState tenantId = some state) :
    p.store.tenantsAppState tenantId = some state ∨
      ∃ i, t = .thread i ∧ Unlocks openWithin config requests p i tenantId state := by
  cases t with
  | env reachable => exact Or.inl hstate
  | thread i =>
    cases hi : p.threads i with
    | pure a =>
      have hstep : turn openWithin p (.thread i) = p := Pool.step_ended hi
      rw [hstep] at hstate
      exact Or.inl hstate
    | call c k =>
      have hstep : turn openWithin p (.thread i) = _ := Pool.step_thread hi
      have hnext : p.nextCommand i = some c := by simp only [Pool.nextCommand, hi]
      have hissued := Pool.meets_nextCommand (h.keeps i) hnext
      rw [hstep] at hstate
      cases c with
      | isKnownTenant => exact Or.inl hstate
      | isCustodianUnlocked => exact Or.inl hstate
      | accept => exact Or.inl hstate
      | decrypt tenantId' =>
        replace hstate :
          (p.store.decrypt openWithin tenantId').2.tenantsAppState tenantId = some state := hstate
        rcases decrypt_cases openWithin p.store tenantId' with
          hd | hd | ⟨innerKey1, innerKey2, tenantConfig, masterKey, hkeys, hconfig, hopens, hd⟩
        · rw [hd] at hstate
          exact Or.inl hstate
        · rw [hd, modifyKeyState_tenantsAppState] at hstate
          exact Or.inl hstate
        · have htenant := TenantConfig.tenantId_of_fromGlobalConfig hconfig
          rw [hd] at hstate
          by_cases heq : tenantId = tenantId'
          · subst heq htenant
            have hself := (Function.update_self ..).symm.trans hstate
            cases hself
            obtain ⟨j₁, half₁, hreq₁, rfl, hlast₁⟩ := h.accepted .key1 hkeys rfl
            obtain ⟨j₂, half₂, hreq₂, rfl, hlast₂⟩ := h.accepted .key2 hkeys rfl
            exact Or.inr ⟨i, rfl, hissued, hnext, j₁, j₂, half₁, half₂, tenantConfig, masterKey,
              hreq₁, hreq₂, hlast₁, hlast₂, hkeys, h.config ▸ hconfig, hopens, rfl⟩
          · exact Or.inl ((Function.update_of_ne (htenant ▸ heq) ..).symm.trans hstate)

/-- Whatever requests for whatever tenants come in between: a tenant with an app
    state was unlocked by a `decrypt` of its own, from the halves accepted last
    for it, and a request leaves alone every tenant it does not name. -/
theorem unlock_safe (openWithin : OpenWithin) (config : GlobalConfig)
    (reachable : TenantConfig → Bool) (requests : ι → CustodianRequest)
    (turns : List (Turn ι (TenantConfig → Bool))) :
    (∀ tenantId state,
      (run openWithin turns (start config reachable requests)).store.tenantsAppState tenantId =
        some state →
      ∃ before i after, turns = before ++ .thread i :: after ∧
        Unlocks openWithin config requests
          (run openWithin before (start config reachable requests)) i tenantId state) ∧
    ∀ i tenantId, (requests i).header ≠ some tenantId →
      SameTenant (run openWithin turns (start config reachable requests)).store
        (turn openWithin (run openWithin turns (start config reachable requests))
          (.thread i)).store tenantId := by
  have hinv : ∀ turns,
      Inv config requests (run openWithin turns (start config reachable requests)) :=
    inv_run (inv_start config reachable requests)
  constructor
  · intro tenantId state
    -- the last turn that changed the app state
    induction turns using List.reverseRecOn with
    | nil =>
      intro h
      cases h
    | append_singleton turns t ih =>
      intro h
      rw [run, runActs_append] at h
      rcases appState_step (hinv turns) t h with h | ⟨i, rfl, hunlocks⟩
      · obtain ⟨before, i, after, rfl, hunlocks⟩ := ih h
        exact ⟨before, i, after ++ [t], by simp, hunlocks⟩
      · exact ⟨turns, i, [], rfl, hunlocks⟩
  · intro i tenantId hne
    generalize hp : run openWithin turns (start config reachable requests) = p
    have hp' := hp ▸ hinv turns
    cases hi : p.threads i with
    | pure a =>
      have hstep : turn openWithin p (.thread i) = p := Pool.step_ended hi
      rw [hstep]
      exact SameTenant.refl p.store tenantId
    | call c k =>
      have hstep : turn openWithin p (.thread i) = _ := Pool.step_thread hi
      have hnext : p.nextCommand i = some c := by simp only [Pool.nextCommand, hi]
      have hheader := CustodianRequest.header_of_issues
        (Pool.meets_nextCommand (hp'.keeps i) hnext)
      rw [hstep]
      exact sameTenant_exec openWithin p.store c fun heq => hne (heq ▸ hheader)

/-! ### One unlock -/

/-- A custodian's half of the key. -/
def halfKey : CustodianReqPayload :=
  { key := "feffe9928665731c6d6a8f9467308308", valid := by decide +kernel }

/-- The bytes of a hexadecimal text. -/
def bytesOf (text : String) : Bytes := (hexDecode text).getD []

/-- The test vector of `aes.rs`: nonce, ciphertext and tag. -/
def sealedMasterKey : Bytes :=
  bytesOf "cafebabefacedbaddecaf888" ++
  bytesOf "522dc1f099567d07f47f37a32a84427d643a8cdcbfe5c0c97598a2bd2555d1aa" ++
  bytesOf "8cb08e48590dbb3da7b08b1056828838c5f61e6393ba7a0abcc9f662898015ad" ++
  bytesOf "b094dac5d93471bdec1a502270e3cc6c"

/-- Its plaintext. -/
def openedMasterKey : Bytes :=
  bytesOf "d9313225f88406e5a55909c5aff5269a86a7a9531534f7da2e4c303d8a318a72" ++
  bytesOf "1c3c0c95956809532fcf0e2449a6b525b16aedf5aa0de657ba637b391aafd255"

/-- What opening answers on the test vector. -/
def openVector : OpenWithin := fun key nonce input =>
  if key = bytesOf (halfKey.key ++ halfKey.key) ∧ nonce ++ input = sealedMasterKey then
    some openedMasterKey
  else none

/-- One configured tenant. -/
def oneTenant (masterKey : Bytes) : GlobalConfig :=
  { tenantSecrets := fun tenantId =>
      if tenantId = "public" then some { masterKey, schema := "public", redisKeyPrefix := "" }
      else none }

/-- Both halves and a `decrypt`. -/
def ceremony : Fin 3 → CustodianRequest
  | 0 => .key .key1 (some "public") (some halfKey)
  | 1 => .key .key2 (some "public") (some halfKey)
  | 2 => .decrypt (some "public")

/-- The requests side by side: first all checks, then all bodies. -/
def ceremonyTurns : List (Turn (Fin 3) (TenantConfig → Bool)) :=
  [.thread 2, .thread 1, .thread 0, .thread 0, .thread 1, .thread 2, .thread 0, .thread 1,
    .thread 2]

/-- The ceremony unlocks its tenant. -/
theorem unlock_safe_ceremony :
    ∃ before i after, ceremonyTurns = before ++ .thread i :: after ∧
      Unlocks openVector (oneTenant sealedMasterKey) ceremony
        (run openVector before (start (oneTenant sealedMasterKey) (fun _ => true) ceremony)) i
        "public" ⟨⟨"public", ⟨openedMasterKey, "public", ""⟩, ""⟩⟩ :=
  (unlock_safe openVector (oneTenant sealedMasterKey) (fun _ => true) ceremony ceremonyTurns).1
    "public" ⟨⟨"public", ⟨openedMasterKey, "public", ""⟩, ""⟩⟩ (by decide +kernel)

end Custodian

end CardVault
