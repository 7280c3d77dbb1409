import CardVault.Unlock

/-!
# After the unlock

`TenantId::from_request_parts` refuses the custodian endpoints of an unlocked
tenant, but it looks before the body of the handler takes the lock of the key
halves. A request that has looked before the unlock still runs its body after it.

Main results:
* `CustodianRequest.Phase`, `phase_turn`: how far a request has come.
* `sealed_run`: no request succeeds after the unlock when none was past its check.
* `sealed_iff`: exactly then.
-/

namespace CardVault

open Interaction GlobalAppState

/-! ## How far a request has come -/

/-- The body of a handler, on the key halves of the tenant. -/
def CustodianCmd.IsBody (tenantId : String) : CustodianCmd → Prop
  | .accept _ tenantId' _ => tenantId' = tenantId
  | .decrypt tenantId' => tenantId' = tenantId
  | _ => False

/-- The message that acknowledges a half. -/
def KeyHalf.received : KeyHalf → String
  | .key1 => "Received Key1"
  | .key2 => "Received Key2"

namespace CustodianRequest

/-- What follows the tenant id. -/
def afterTenantId (r : CustodianRequest) (tenantId : String) :
    CustodianApp (CustodianResult CustodianRespPayload) :=
  match r with
  | .key half _ body =>
    (Json.fromRequest body).andThen fun payload =>
      (Prog.perform (CustodianCmd.accept half tenantId payload.key)).mapResult fun _ =>
        .ok ⟨half.received⟩
  | .decrypt _ => Prog.perform (CustodianCmd.decrypt tenantId)

theorem handler_eq (r : CustodianRequest) :
    r.handler = (TenantId.fromRequestParts r.header).andThen r.afterTenantId := by
  cases r with
  | key half header body => cases half <;> rfl
  | decrypt header => rfl

/-- What follows the check that the tenant is known: the check that it is locked. -/
def afterKnown (r : CustodianRequest) (tenantId : String) :
    CustodianApp (CustodianResult CustodianRespPayload) :=
  ((Prog.perform (CustodianCmd.isCustodianUnlocked tenantId)).mapResult orRejection).andThen
    fun _ => r.afterTenantId tenantId

/-- A check that fails ends the request. -/
def orRefused (next : CustodianApp (CustodianResult CustodianRespPayload)) :
    Except ApiError Unit → CustodianApp (CustodianResult CustodianRespPayload)
  | .ok _ => next
  | .error e => .pure (.error (.error (.api e)))

/-- How far a request for `tenantId` has come: `p` is what is left of it. -/
inductive Phase (r : CustodianRequest) (tenantId : String) :
    CustodianApp (CustodianResult CustodianRespPayload) → Prop
  | handler : Phase r tenantId r.handler
  | afterKnown : Phase r tenantId (r.afterKnown tenantId)
  | afterTenantId : Phase r tenantId (r.afterTenantId tenantId)
  | ended (a : CustodianResult CustodianRespPayload) : Phase r tenantId (.pure a)

variable {r : CustodianRequest} {tenantId : String}
  {p : CustodianApp (CustodianResult CustodianRespPayload)}

theorem handler_of_header (h : r.header = some tenantId) :
    r.handler = .call (.isKnownTenant tenantId) (orRefused (r.afterKnown tenantId)) := by
  rw [handler_eq, h]
  refine congrArg (Prog.call _) (funext fun reply => ?_)
  cases (reply : Except ApiError Unit) with
  | error e => rfl
  | ok _ =>
    refine congrArg (Prog.call _) (funext fun reply => ?_)
    cases (reply : Except ApiError Unit) <;> rfl

theorem afterKnown_eq (r : CustodianRequest) (tenantId : String) :
    r.afterKnown tenantId =
      .call (.isCustodianUnlocked tenantId) (orRefused (r.afterTenantId tenantId)) := by
  refine congrArg (Prog.call _) (funext fun reply => ?_)
  cases (reply : Except ApiError Unit) <;> rfl

/-- What follows the tenant id ends at once, or with the body of the handler. -/
theorem afterTenantId_cases (r : CustodianRequest) (tenantId : String) :
    (∃ e, r.afterTenantId tenantId = .pure (.error e)) ∨
      (∃ half text, r.afterTenantId tenantId =
        .call (.accept half tenantId text) fun _ => .pure (.ok ⟨half.received⟩)) ∨
      r.afterTenantId tenantId = .call (.decrypt tenantId) .pure := by
  cases r with
  | key half header body =>
    cases body with
    | none => exact Or.inl ⟨_, rfl⟩
    | some payload => exact Or.inr (Or.inl ⟨half, payload.key, rfl⟩)
  | decrypt header => exact Or.inr (Or.inr rfl)

/-- A step takes a request on to its next phase. -/
theorem Phase.next {c : CustodianCmd}
    {k : CustodianReply c → CustodianApp (CustodianResult CustodianRespPayload)}
    (hr : r.header = some tenantId) (h : Phase r tenantId (.call c k)) (reply : CustodianReply c) :
    Phase r tenantId (k reply) := by
  generalize hprog : Prog.call c k = p at h
  cases h with
  | handler =>
    rw [handler_of_header hr] at hprog
    cases hprog
    cases (reply : Except ApiError Unit) with
    | ok _ => exact .afterKnown
    | error e => exact .ended _
  | afterKnown =>
    rw [afterKnown_eq] at hprog
    cases hprog
    cases (reply : Except ApiError Unit) with
    | ok _ => exact .afterTenantId
    | error e => exact .ended _
  | afterTenantId =>
    rcases r.afterTenantId_cases tenantId with ⟨e, he⟩ | ⟨half, text, he⟩ | he <;>
      rw [he] at hprog <;> cases hprog <;> exact .ended _
  | ended a => cases hprog

/-- A request that is not past its check, or was refused. -/
def BeforeCheck (r : CustodianRequest) (tenantId : String)
    (p : CustodianApp (CustodianResult CustodianRespPayload)) : Prop :=
  p = r.handler ∨ p = r.afterKnown tenantId ∨ ∃ e, p = .pure (.error e)

/-- A request has ended, or is not past its check, or its body is next. -/
theorem Phase.cases (h : Phase r tenantId p) :
    (∃ a, p = .pure a) ∨ BeforeCheck r tenantId p ∨
      (∃ half text, p = .call (.accept half tenantId text) fun _ => .pure (.ok ⟨half.received⟩)) ∨
      p = .call (.decrypt tenantId) .pure := by
  cases h with
  | handler => exact Or.inr (Or.inl (Or.inl rfl))
  | afterKnown => exact Or.inr (Or.inl (Or.inr (Or.inl rfl)))
  | afterTenantId =>
    rcases r.afterTenantId_cases tenantId with ⟨e, he⟩ | ⟨half, text, he⟩ | he
    · exact Or.inl ⟨_, he⟩
    · exact Or.inr (Or.inr (Or.inl ⟨half, text, he⟩))
    · exact Or.inr (Or.inr (Or.inr he))
  | ended a => exact Or.inl ⟨a, rfl⟩

/-- In an unlocked state, a request that is not past its check only looks, and does
    not get past it. -/
theorem BeforeCheck.next (openWithin : OpenWithin) {s : GlobalAppState} {c : CustodianCmd}
    {k : CustodianReply c → CustodianApp (CustodianResult CustodianRespPayload)}
    (hr : r.header = some tenantId) (hs : (s.tenantsAppState tenantId).isSome)
    (h : BeforeCheck r tenantId (.call c k)) :
    (s.exec openWithin c).2 = s ∧ BeforeCheck r tenantId (k (s.exec openWithin c).1) := by
  rcases h with h | h | ⟨e, h⟩
  · rw [handler_of_header hr] at h
    cases h
    refine ⟨rfl, ?_⟩
    change BeforeCheck r tenantId (orRefused (r.afterKnown tenantId) (s.isKnownTenant tenantId))
    cases s.isKnownTenant tenantId with
    | ok _ => exact Or.inr (Or.inl rfl)
    | error e => exact Or.inr (Or.inr ⟨_, rfl⟩)
  · rw [afterKnown_eq] at h
    cases h
    have hreply : s.isCustodianUnlocked tenantId = .error .custodianUnlocked := if_pos hs
    refine ⟨rfl, ?_⟩
    change BeforeCheck r tenantId
      (orRefused (r.afterTenantId tenantId) (s.isCustodianUnlocked tenantId))
    rw [hreply]
    exact Or.inr (Or.inr ⟨_, rfl⟩)
  · cases h

end CustodianRequest

namespace GlobalAppState

variable {openWithin : OpenWithin} {s s' : GlobalAppState} {tenantId : String}

/-- What the body of `decrypt` answers hangs on the halves, the configuration and
    the databases only. -/
theorem decrypt_congr (hkeys : s'.tenantsKeyState tenantId = s.tenantsKeyState tenantId)
    (hconfig : s'.globalConfig = s.globalConfig) (hup : s'.reachable = s.reachable) :
    (s'.decrypt openWithin tenantId).1 = (s.decrypt openWithin tenantId).1 := by
  have hnew : ∀ config, s'.tenantAppStateNew config = s.tenantAppStateNew config := by
    intro config
    simp only [tenantAppStateNew, hup]
  unfold decrypt
  rw [hkeys, hconfig]
  cases hk : s.tenantsKeyState tenantId with
  | none => rfl
  | some keyState =>
    obtain ⟨k₁, k₂⟩ := keyState
    cases k₁ with
    | none => rfl
    | some innerKey1 =>
      cases k₂ with
      | none => rfl
      | some innerKey2 =>
        dsimp only
        cases TenantConfig.fromGlobalConfig s.globalConfig tenantId with
        | none => rfl
        | some tenantConfig =>
          dsimp only
          cases aesDecryptCustodianKey openWithin tenantConfig innerKey1 innerKey2 with
          | error e => rfl
          | ok tenantConfig =>
            dsimp only
            rw [hnew]
            cases s.tenantAppStateNew tenantConfig <;> rfl

/-- A step that installs an app state is a `decrypt` that succeeds, and leaves all
    that its answer hangs on. -/
theorem decrypt_of_installs {c : CustodianCmd} (hlocked : s.tenantsAppState tenantId = none)
    (h : ((s.exec openWithin c).2.tenantsAppState tenantId).isSome) :
    c = .decrypt tenantId ∧ (∃ message, (s.decrypt openWithin tenantId).1 = .ok message) ∧
      (s.exec openWithin c).2.tenantsKeyState tenantId = s.tenantsKeyState tenantId ∧
      (s.exec openWithin c).2.globalConfig = s.globalConfig ∧
      (s.exec openWithin c).2.reachable = s.reachable := by
  have hfalse : ∀ {P : Prop}, (s.tenantsAppState tenantId).isSome → P := fun h => by
    rw [hlocked] at h
    cases h
  cases c with
  | isKnownTenant => exact hfalse h
  | isCustodianUnlocked => exact hfalse h
  | accept => exact hfalse h
  | decrypt t =>
    by_cases ht : tenantId = t
    · subst ht
      change ((s.decrypt openWithin tenantId).2.tenantsAppState tenantId).isSome at h
      change _ ∧ _ ∧ (s.decrypt openWithin tenantId).2.tenantsKeyState tenantId = _ ∧
        (s.decrypt openWithin tenantId).2.globalConfig = _ ∧
        (s.decrypt openWithin tenantId).2.reachable = _
      refine ⟨rfl, ?_⟩
      unfold decrypt at h ⊢
      split at h
      · exact hfalse h
      · split at h
        · exact hfalse h
        · split at h
          · exact hfalse h
          · split at h
            · exact hfalse h
            · exact ⟨⟨_, rfl⟩, rfl, rfl, rfl⟩
      · exact hfalse h
    · exact hfalse ((sameTenant_exec openWithin s (.decrypt t) ht).appState ▸ h)

end GlobalAppState

namespace Custodian

variable {ι : Type} [DecidableEq ι] {openWithin : OpenWithin} {config : GlobalConfig}
  {requests : ι → CustodianRequest} {p : CustodianPool ι} {tenantId : String}

/-- A run takes the requests of a tenant from phase to phase. -/
theorem phase_run (config : GlobalConfig) (reachable : TenantConfig → Bool)
    (turns : List (Turn ι (TenantConfig → Bool))) (i : ι)
    (hi : (requests i).header = some tenantId) :
    (requests i).Phase tenantId
      ((run openWithin turns (start config reachable requests)).threads i) := by
  refine run_invariant
    (I := fun p : CustodianPool ι => (requests i).Phase tenantId (p.threads i))
    (fun p t hp _ => ?_) turns _ .handler (good_true turns _)
  exact Pool.threads_step (P := fun j prog => j = i → (requests i).Phase tenantId prog) t
    (fun j c k _ _ h hj => (h hj).next hi _) i (fun _ => hp) rfl

/-! ## After the unlock -/

/-- From `p` to `q`: the tenant keeps its app state and its key halves, and no
    request for it that was on its way succeeds. -/
structure Sealed (requests : ι → CustodianRequest) (tenantId : String)
    (p q : CustodianPool ι) : Prop where
  appState : q.store.tenantsAppState tenantId = p.store.tenantsAppState tenantId
  keyState : q.store.tenantsKeyState tenantId = p.store.tenantsKeyState tenantId
  refused : ∀ i, (requests i).header = some tenantId → (p.threads i).result = none →
    ∀ a, (q.threads i).result ≠ some (.ok a)

/-- Every request for the tenant has ended or is not past its check. -/
def NoneInside (requests : ι → CustodianRequest) (tenantId : String) (p : CustodianPool ι) :
    Prop :=
  ∀ i, (requests i).header = some tenantId →
    (∃ a, p.threads i = .pure a) ∨ (requests i).BeforeCheck tenantId (p.threads i)

/-- After the unlock, with no request past its check: a turn keeps the tenant as it
    is, and no request gets past its check. -/
theorem noneInside_turn (openWithin : OpenWithin) (hinv : Inv config requests p)
    (hs : (p.store.tenantsAppState tenantId).isSome) (h : NoneInside requests tenantId p)
    (t : Turn ι (TenantConfig → Bool)) :
    NoneInside requests tenantId (turn openWithin p t) ∧
      (turn openWithin p t).store.tenantsAppState tenantId = p.store.tenantsAppState tenantId ∧
      (turn openWithin p t).store.tenantsKeyState tenantId = p.store.tenantsKeyState tenantId := by
  constructor
  · intro i hi
    refine Pool.threads_step (P := fun j prog => j = i → (∃ a, prog = .pure a) ∨
      (requests i).BeforeCheck tenantId prog) t (fun j c k _ _ hcall hj => ?_) i (fun _ => h i hi)
      rfl
    rcases hcall hj with ⟨a, ha⟩ | hbefore
    · cases ha
    · exact Or.inr (hbefore.next _ hi hs).2
  · cases t with
    | env reachable => exact ⟨rfl, rfl⟩
    | thread j =>
      cases hj : p.threads j with
      | pure a =>
        have hstep : turn openWithin p (.thread j) = p := Pool.step_ended hj
        rw [hstep]
        exact ⟨rfl, rfl⟩
      | call c k =>
        have hstep : turn openWithin p (.thread j) = _ := Pool.step_thread hj
        rw [hstep]
        by_cases hheader : (requests j).header = some tenantId
        · rcases h j hheader with ⟨a, ha⟩ | hbefore
          · cases hj.symm.trans ha
          · rw [hj] at hbefore
            rw [(hbefore.next openWithin hheader hs).1]
            exact ⟨rfl, rfl⟩
        · have hnext : p.nextCommand j = some c := by simp only [Pool.nextCommand, hj]
          have hissued := CustodianRequest.header_of_issues
            (Pool.meets_nextCommand (hinv.keeps j) hnext)
          have hsame := sameTenant_exec openWithin p.store c
            fun heq => hheader (hissued.trans (congrArg some heq.symm))
          exact ⟨hsame.appState, hsame.keyState⟩

/-- What a turn leaves of a request that has ended or is not past its check. -/
theorem refused_turn {i : ι} (hi : (requests i).header = some tenantId)
    (hs : (p.store.tenantsAppState tenantId).isSome)
    (h : (requests i).BeforeCheck tenantId (p.threads i)) (t : Turn ι (TenantConfig → Bool)) :
    (requests i).BeforeCheck tenantId ((turn openWithin p t).threads i) :=
  Pool.threads_step (P := fun j prog => j = i → (requests i).BeforeCheck tenantId prog) t
    (fun _ _ _ _ _ hcall hj => ((hcall hj).next _ hi hs).2) i (fun _ => h) rfl

/-- With no request past its check when the tenant is unlocked, none succeeds any
    more. -/
theorem sealed_run (hinv : Inv config requests p)
    (hs : (p.store.tenantsAppState tenantId).isSome) (h : NoneInside requests tenantId p)
    (after : List (Turn ι (TenantConfig → Bool))) :
    Sealed requests tenantId p (run openWithin after p) := by
  have hrun := @run_invariant _ _ (turn openWithin) (fun _ _ => True)
    (fun q : CustodianPool ι => Inv config requests q ∧ NoneInside requests tenantId q ∧
      q.store.tenantsAppState tenantId = p.store.tenantsAppState tenantId ∧
      q.store.tenantsKeyState tenantId = p.store.tenantsKeyState tenantId ∧
      ∀ i, (requests i).header = some tenantId → (p.threads i).result = none →
        (requests i).BeforeCheck tenantId (q.threads i))
    (fun q t hq _ => ?_) after p ⟨hinv, h, rfl, rfl, fun i hi hnone => ?_⟩ (good_true after p)
  · obtain ⟨-, -, happ, hkey, hbefore⟩ := hrun
    refine ⟨happ, hkey, fun i hi hnone a ha => ?_⟩
    have hend := Prog.eq_pure_of_result ha
    rcases hbefore i hi hnone with hb | hb | ⟨e, hb⟩
    · rw [CustodianRequest.handler_of_header hi] at hb
      cases hend.symm.trans hb
    · rw [CustodianRequest.afterKnown_eq] at hb
      cases hend.symm.trans hb
    · cases hend.symm.trans hb
  · obtain ⟨hqinv, hqnone, happ, hkey, hbefore⟩ := hq
    have hqs : (q.store.tenantsAppState tenantId).isSome := by rwa [happ]
    obtain ⟨hnone', happ', hkey'⟩ := noneInside_turn openWithin hqinv hqs hqnone t
    exact ⟨inv_step hqinv t, hnone', happ'.trans happ, hkey'.trans hkey,
      fun i hi hres => refused_turn hi hqs (hbefore i hi hres) t⟩
  · rcases h i hi with ⟨a, ha⟩ | hb
    · rw [ha] at hnone
      cases hnone
    · exact hb

/-- A request whose body is still to run when the tenant is unlocked succeeds after
    the unlock. -/
theorem not_sealed_of_body (hphase : ∀ i, (requests i).header = some tenantId →
      (requests i).Phase tenantId (p.threads i)) (hinv : Inv config requests p) {i j : ι}
    (hij : j ≠ i) (hlocked : p.store.tenantsAppState tenantId = none)
    (hunlocked : ((turn openWithin p (.thread i)).store.tenantsAppState tenantId).isSome)
    {c : CustodianCmd} (hnext : p.nextCommand j = some c) (hbody : c.IsBody tenantId) :
    ¬ Sealed requests tenantId (turn openWithin p (.thread i))
      (run openWithin [.thread j] (turn openWithin p (.thread i))) := by
  intro hsealed
  have hheader : (requests j).header = some tenantId := by
    have htenant : c.tenantId = tenantId := by
      cases c with
      | accept => exact hbody
      | decrypt => exact hbody
      | _ => exact hbody.elim
    exact htenant ▸ CustodianRequest.header_of_issues (Pool.meets_nextCommand (hinv.keeps j) hnext)
  obtain ⟨kj, hj⟩ := Pool.nextCommand_eq_some hnext
  cases hi : p.threads i with
  | pure a =>
    have hstep : turn openWithin p (.thread i) = p := Pool.step_ended hi
    rw [hstep, hlocked] at hunlocked
    cases hunlocked
  | call ci ki =>
    have hstep : turn openWithin p (.thread i) = _ := Pool.step_thread hi
    have hthread : (turn openWithin p (.thread i)).threads j = p.threads j :=
      Pool.step_threads_of_ne hij p
    have hstore : (turn openWithin p (.thread i)).store =
        (GlobalAppState.exec openWithin p.store ci).2 := by rw [hstep]
    rw [hstore] at hunlocked
    obtain ⟨-, ⟨message, hok⟩, hkeys, hconfig, hup⟩ := decrypt_of_installs hlocked hunlocked
    rw [← hstore] at hkeys hconfig hup
    generalize turn openWithin p (.thread i) = q at hsealed hthread hkeys hconfig hup
    have hq : q.threads j = .call c kj := hthread.trans hj
    have hafter : turn openWithin q (.thread j) = _ := Pool.step_thread hq
    have hnone : (q.threads j).result = none := by rw [hq]; rfl
    -- the body that is next answers `Ok`
    have hanswer : ∃ message, kj (GlobalAppState.exec openWithin q.store c).1 =
        .pure (.ok message) := by
      rcases (hj ▸ hphase j hheader).cases with ⟨a, ha⟩ | hbefore | ⟨half, text, hp⟩ | hp
      · cases ha
      · rcases hbefore with h | h | ⟨e, h⟩
        · rw [CustodianRequest.handler_of_header hheader] at h
          cases h
          exact hbody.elim
        · rw [CustodianRequest.afterKnown_eq] at h
          cases h
          exact hbody.elim
        · cases h
      · cases hp
        exact ⟨_, rfl⟩
      · cases hp
        exact ⟨message, congrArg Prog.pure ((decrypt_congr hkeys hconfig hup).trans hok)⟩
    obtain ⟨message', hanswer⟩ := hanswer
    refine hsealed.refused j hheader hnone message' ?_
    change ((turn openWithin q (.thread j)).threads j).result = _
    rw [hafter]
    change (Function.update q.threads j _ j).result = _
    rw [Function.update_self, hanswer]
    rfl

/-- Nothing succeeds after the unlock of a tenant, whatever comes, exactly when no
    other request for it was past its check and about to run its body. -/
theorem sealed_iff (openWithin : OpenWithin) (config : GlobalConfig)
    (reachable : TenantConfig → Bool) (requests : ι → CustodianRequest)
    (turns : List (Turn ι (TenantConfig → Bool))) (i : ι) (tenantId : String)
    (hlocked : (run openWithin turns
      (start config reachable requests)).store.tenantsAppState tenantId = none)
    (hunlocked : ((turn openWithin (run openWithin turns (start config reachable requests))
      (.thread i)).store.tenantsAppState tenantId).isSome) :
    (∀ after, Sealed requests tenantId
        (turn openWithin (run openWithin turns (start config reachable requests)) (.thread i))
        (run openWithin after
          (turn openWithin (run openWithin turns (start config reachable requests))
            (.thread i)))) ↔
      ∀ j, j ≠ i → ∀ c,
        (run openWithin turns (start config reachable requests)).nextCommand j = some c →
          ¬ c.IsBody tenantId := by
  have hinv : Inv config requests (run openWithin turns (start config reachable requests)) :=
    inv_run (inv_start config reachable requests) turns
  have hphase : ∀ j, (requests j).header = some tenantId → (requests j).Phase tenantId
      ((run openWithin turns (start config reachable requests)).threads j) :=
    phase_run config reachable turns
  generalize run openWithin turns (start config reachable requests) = p at *
  constructor
  · intro h j hij c hnext hbody
    exact not_sealed_of_body hphase hinv hij hlocked hunlocked hnext hbody (h [.thread j])
  · intro h after
    refine sealed_run (inv_step hinv _) hunlocked (fun j hj => ?_) after
    by_cases hij : j = i
    · -- the request that unlocked the tenant has ended
      subst hij
      cases hj' : p.threads j with
      | pure a =>
        have hstep : turn openWithin p (.thread j) = p := Pool.step_ended hj'
        rw [hstep]
        exact Or.inl ⟨a, hj'⟩
      | call c k =>
        have hstep : turn openWithin p (.thread j) = _ := Pool.step_thread hj'
        rw [hstep] at hunlocked ⊢
        obtain ⟨rfl, -⟩ := decrypt_of_installs hlocked hunlocked
        rcases (hj' ▸ hphase j hj).cases with ⟨a, ha⟩ | hbefore | ⟨half, text, hp⟩ | hp
        · cases ha
        · rcases hbefore with h | h | ⟨e, h⟩
          · rw [CustodianRequest.handler_of_header hj] at h
            cases h
          · rw [CustodianRequest.afterKnown_eq] at h
            cases h
          · cases h
        · cases hp
        · cases hp
          exact Or.inl ⟨_, Function.update_self ..⟩
    · have hthread : (turn openWithin p (.thread i)).threads j = p.threads j :=
        Pool.step_threads_of_ne hij p
      rw [hthread]
      rcases (hphase j hj).cases with ha | hbefore | ⟨half, text, hp⟩ | hp
      · exact Or.inl ha
      · exact Or.inr hbefore
      · exact absurd rfl (h j hij (.accept half tenantId text)
          (by simp only [Pool.nextCommand, hp]))
      · exact absurd rfl (h j hij (.decrypt tenantId) (by simp only [Pool.nextCommand, hp]))

/-- The ceremony up to its last turn. -/
def beforeUnlock : CustodianPool (Fin 3) :=
  run openVector ceremonyTurns.dropLast
    (start (oneTenant sealedMasterKey) (fun _ => true) ceremony)

theorem sealed_iff_ceremony :
    (∀ after, Sealed ceremony "public" (turn openVector beforeUnlock (.thread 2))
        (run openVector after (turn openVector beforeUnlock (.thread 2)))) ↔
      ∀ j, j ≠ 2 → ∀ c, beforeUnlock.nextCommand j = some c → ¬ c.IsBody "public" :=
  sealed_iff openVector (oneTenant sealedMasterKey) (fun _ => true) ceremony
    ceremonyTurns.dropLast 2 "public" (by decide +kernel) (by decide +kernel)

/-- The ceremony, and a first half that comes late. -/
def lateHalf : Fin 4 → CustodianRequest
  | 3 => .key .key1 (some "public") (some halfKey)
  | 0 => .key .key1 (some "public") (some halfKey)
  | 1 => .key .key2 (some "public") (some halfKey)
  | 2 => .decrypt (some "public")

/-- All checks, then the bodies of the ceremony. -/
def lateTurns : List (Turn (Fin 4) (TenantConfig → Bool)) :=
  [.thread 0, .thread 0, .thread 1, .thread 1, .thread 2, .thread 2, .thread 3, .thread 3,
    .thread 0, .thread 1, .thread 2]

/-- Not every unlocked tenant is sealed: the late half is accepted after the
    unlock. -/
theorem late_half_accepted :
    ¬ ∀ (openWithin : OpenWithin) (config : GlobalConfig) (reachable : TenantConfig → Bool)
      (requests : Fin 4 → CustodianRequest) (before after : List (Turn (Fin 4)
        (TenantConfig → Bool))) (tenantId : String),
      ((run openWithin before (start config reachable requests)).store.tenantsAppState
        tenantId).isSome →
      Sealed requests tenantId (run openWithin before (start config reachable requests))
        (run openWithin after (run openWithin before (start config reachable requests))) := by
  intro h
  have hsealed := h openVector (oneTenant sealedMasterKey) (fun _ => true) lateHalf lateTurns
    [.thread 3] "public" (by decide +kernel)
  exact hsealed.refused 3 rfl (by decide +kernel) ⟨"Received Key1"⟩ (by decide +kernel)

end Custodian

end CardVault
