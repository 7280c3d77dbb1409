import CardVault.Crypto.Jw
import CardVault.Server.Tenants
import CardVault.Unlock
import Mathlib.Order.CompletePartialOrder

/-!
# From the header to the handler

What a request goes through before its handler (`src/src/app.rs`, `src/src/middleware.rs`,
`src/src/custom_extractors.rs`, `src/src/tenant.rs`): the tenant of its `x-tenant-id` is
looked up among the unlocked tenants, the body is opened with the keys of that tenant, and
what the handler answers is sealed for it. The custodians' requests run beside these, and
decide which tenants are unlocked.

Main results:
* `custodians_turn`: the custodians' requests, seen alone.
* `front_served_unlocked`: no call on the storage and keys of a tenant before its unlock.
-/

namespace CardVault

open Interaction

/-! ## Bodies and routes -/

/-- `serde_json` on the bodies of requests and answers, and what axum answers when a body
    does not deserialize. -/
structure Bodies (V : Type) where
  storeCardRequest : Bytes → Option StoreCardRequest
  retrieveCardRequest : Bytes → Option RetrieveCardRequest
  deleteCardRequest : Bytes → Option DeleteCardRequest
  storeDataRequest : Bytes → Option (StoreDataRequest V)
  retrieveDataRequest : Bytes → Option RetrieveDataRequest
  deleteDataRequest : Bytes → Option DeleteDataRequest
  createEntityRequest : Bytes → Option CreateEntityRequest
  fingerprintRequest : Bytes → Option FingerprintRequest
  /-- `IntoResponse` of an answer -/
  answer : ApiAnswer V → Bytes
  /-- `IntoResponse` of an error -/
  apiError : ApiError → Bytes
  /-- `JsonRejection` -/
  rejection : Bytes → Bytes

/-- The routes behind the middleware, with what the handler makes up and takes from the URL
    and the headers. -/
inductive Route where
  | addCard (drawn : Drawn)
  | retrieveCard
  | deleteCard
  | addData (drawn : Drawn) (mode : Option WriteMode)
  | retrieveData
  | deleteData
  | createEntity (drawn : Drawn)
  | fingerprint (drawn : Drawn) (fingerprintId : Option String)

variable {τ V σ ι : Type}

/-- `Json<T>` of a handler. -/
def Route.request (bodies : Bodies V) (body : Bytes) : Route → Option (ApiRequest V)
  | .addCard drawn => (bodies.storeCardRequest body).map (ApiRequest.addCard drawn)
  | .retrieveCard => (bodies.retrieveCardRequest body).map ApiRequest.retrieveCard
  | .deleteCard => (bodies.deleteCardRequest body).map ApiRequest.deleteCard
  | .addData drawn mode =>
    (bodies.storeDataRequest body).map fun request => ApiRequest.addData drawn request mode
  | .retrieveData => (bodies.retrieveDataRequest body).map ApiRequest.retrieveData
  | .deleteData => (bodies.deleteDataRequest body).map ApiRequest.deleteData
  | .createEntity drawn => (bodies.createEntityRequest body).map (ApiRequest.createEntity drawn)
  | .fingerprint drawn fingerprintId =>
    (bodies.fingerprintRequest body).map (ApiRequest.fingerprint drawn fingerprintId)

/-- The handler has panicked. -/
def panics {ε α : Type} : Except (Fault ε) α → Bool
  | .error .panicked => true
  | _ => false

/-- The handler has panicked. -/
def ApiAnswer.panics : ApiAnswer V → Bool
  | .addCard reply => CardVault.panics reply
  | .retrieveCard reply => CardVault.panics reply
  | .deleteCard reply => CardVault.panics reply
  | .addData reply => CardVault.panics reply
  | .retrieveData reply => CardVault.panics reply
  | .deleteData reply => CardVault.panics reply
  | .createEntity reply => CardVault.panics reply
  | .fingerprint reply => CardVault.panics reply
  | .transferKeys reply => CardVault.panics reply
  | .ttlDeletion => false

/-! ## The server -/

/-- The server, all but the tenants' app states. -/
structure FrontConfig (τ V σ : Type) where
  names : ServerConfig τ
  /-- the tenant of an id; any one for an id that is not configured -/
  index : String → τ
  tenant : τ → ApiTenant V
  service : τ → KeyService σ
  dataService : τ → DataService σ
  josekit : Josekit
  /-- opens the sealed master keys -/
  openWithin : OpenWithin
  /-- `locker_secrets.locker_private_key` -/
  lockerPrivateKey : String → String
  /-- `tenant_secrets.public_key` -/
  tenantPublicKey : String → String
  bodies : Bodies V

/-- The tenant of an app state. -/
def FrontConfig.tenantOf (config : FrontConfig τ V σ) (state : TenantAppState) : ApiTenant V :=
  let tenant := config.tenant (config.index state.config.tenantId)
  { tenant with state := { tenant.state with masterKey := state.config.tenantSecrets.masterKey } }

/-- The keys that `middleware` puts together. -/
def FrontConfig.keys (config : FrontConfig τ V σ) (tenantId : String) : JWEncryption :=
  lockerKeys (config.lockerPrivateKey tenantId) (config.tenantPublicKey tenantId)

/-- `get_app_state_of_tenant`. -/
def GlobalAppState.getAppStateOfTenant (s : GlobalAppState) (tenantId : String) :
    Except ApiError TenantAppState :=
  match s.tenantsAppState tenantId with
  | some state => .ok state
  | none => .error .custodianLocked

theorem GlobalAppState.getAppStateOfTenant_eq_ok {s : GlobalAppState} {tenantId : String}
    {state : TenantAppState} :
    s.getAppStateOfTenant tenantId = .ok state ↔ s.tenantsAppState tenantId = some state := by
  unfold GlobalAppState.getAppStateOfTenant
  cases s.tenantsAppState tenantId <;> simp

/-- The steps of a request: on the shared state, or with the app state of a tenant on its
    storage and keys. -/
inductive FrontCmd where
  | custodian (c : CustodianCmd)
  | isKnownTenant (tenantId : String)
  | getAppStateOfTenant (tenantId : String)
  /-- the app state that the `n`-th resolver of the tenant has handed to its handler, as a task
      of the handler has captured it -/
  | capturedAppState (tenantId : String) (n : ℕ)
  | api (state : TenantAppState) (c : ApiCmd)

/-- What each step answers. -/
def FrontReply : FrontCmd → Type
  | .custodian c => CustodianReply c
  | .isKnownTenant _ => Except ApiError Unit
  | .getAppStateOfTenant _ => Except ApiError TenantAppState
  | .capturedAppState .. => Option TenantAppState
  | .api _ c => ApiReply c

/-- A request on its way. -/
abbrev FrontApp (α : Type) : Type := Prog FrontCmd FrontReply α

/-- The shared state, and what lies behind the tenants. -/
structure FrontState (τ σ : Type) where
  app : GlobalAppState
  /-- the app states that resolvers have handed out for a tenant, in their order -/
  resolved : String → List TenantAppState
  server : ServerStore τ σ

/-- One step. -/
def FrontState.exec [DecidableEq τ] (config : FrontConfig τ V σ) (s : FrontState τ σ) :
    (c : FrontCmd) → FrontReply c × FrontState τ σ
  | .custodian c =>
    ((s.app.exec config.openWithin c).1, { s with app := (s.app.exec config.openWithin c).2 })
  | .isKnownTenant tenantId => (s.app.isKnownTenant tenantId, s)
  | .getAppStateOfTenant tenantId =>
    let reply := s.app.getAppStateOfTenant tenantId
    (reply, { s with
      resolved := Function.update s.resolved tenantId
        (s.resolved tenantId ++ reply.toOption.toList) })
  | .capturedAppState tenantId n => ((s.resolved tenantId)[n]?, s)
  | .api state c =>
    let reply := Unreliable.exec
      (fun s c => Server.exec config.names config.service config.dataService s c) s.server
      (config.index state.config.tenantId, c)
    (reply.1, { s with server := reply.2 })

/-- Databases come and go, and what happens around the calls. -/
inductive FrontEnv (τ : Type) where
  | reachable (reachable : TenantConfig → Bool)
  | server (weather : ServerWeather τ)

/-- One step of the surroundings. -/
def FrontState.envStep [DecidableEq τ] (config : FrontConfig τ V σ) (s : FrontState τ σ) :
    FrontEnv τ → FrontState τ σ
  | .reachable reachable => { s with app := Custodian.setReachable s.app reachable }
  | .server weather =>
    let around := fun s e => Server.envStep config.names (fun t => (config.tenant t).state.db) s e
    { s with server := Unreliable.envStep around s.server weather }

/-! ## Requests -/

/-- `TenantStateResolver::from_request_parts`; `header` is the text of `x-tenant-id`. -/
def TenantStateResolver.fromRequestParts (header : Option String) :
    FrontApp (CustodianResult TenantAppState) :=
  match header with
  | none => .pure (.error (.error (.api (.tenantError "x-tenant-id not found in headers"))))
  | some tenantId =>
    ((Prog.perform (FrontCmd.isKnownTenant tenantId)).mapResult orRejection).andThen fun _ =>
      (Prog.perform (FrontCmd.getAppStateOfTenant tenantId)).mapResult orRejection

/-- The program of a custodian's request, in the server. -/
def onCustodian {α : Type} (p : CustodianApp α) : FrontApp α :=
  p.interpret fun c => Prog.perform (FrontCmd.custodian c)

/-- The program of a handler, on the storage and keys of a tenant. -/
def onTenant {α : Type} (state : TenantAppState) (p : ApiApp α) : FrontApp α :=
  p.interpret fun c => Prog.perform (FrontCmd.api state c)

section Handlers

variable (config : FrontConfig τ V σ)

/-- `next.run`: the body of the answer of the handler with its extractors, unless it has
    panicked. -/
def nextRun (header : Option String) (route : Route) (body : Bytes) :
    FrontApp (CustodianResult Bytes) :=
  (TenantStateResolver.fromRequestParts header).bind fun
    | .error (.error (.api e)) => .pure (.ok (config.bodies.apiError e))
    | .error e => .pure (.error e)
    | .ok state =>
      match route.request config.bodies body with
      | none => .pure (.ok (config.bodies.rejection body))
      | some request =>
        (onTenant state (request.program (config.tenantOf state))).mapResult fun answer =>
          if answer.panics then .error .panicked else .ok (config.bodies.answer answer)

/-- `middleware` in front of a route; `jweBody` is the body if it deserializes. -/
def middlewareRoute (header : Option String) (jweBody : Option JweBody) (route : Route)
    (random : Bytes) : FrontApp (CustodianResult JweBody) :=
  (TenantStateResolver.fromRequestParts header).andThen fun state =>
    match jweBody with
    | none => .pure (.error (.error .jsonRejection))
    | some jweBody =>
      match (config.keys state.config.tenantId).decrypt config.josekit jweBody with
      | .error e => .pure (.error (.error (.api e.toApiError)))
      | .ok jweDecrypted =>
        (nextRun config header route jweDecrypted).andThen fun responseBody =>
          match (config.keys state.config.tenantId).encrypt config.josekit random responseBody with
          | .error e => .pure (.error (.error (.api e.toApiError)))
          | .ok jwePayload => .pure (.ok jwePayload)

/-- `transfer_keys`, which has no middleware in front; `limit` is the body if it
    deserializes. -/
def transferKeysRoute (header : Option String) (limit : Option ℤ) (nanoIds : ℕ → String)
    (schedule : List ℕ) : FrontApp (CustodianResult (ApiAnswer V)) :=
  (TenantStateResolver.fromRequestParts header).andThen fun state =>
    match limit with
    | none => .pure (.error (.error .jsonRejection))
    | some limit =>
      (onTenant state ((ApiRequest.transferKeys limit nanoIds schedule).program
        (config.tenantOf state))).mapResult .ok

/-- A task that a handler of the tenant has spawned, on the app state that the handler was
    handed; there is no task of a handler that was handed none yet. -/
def spawnedTask (tenantId : String) (n : ℕ) (task : TtlDeletion) :
    FrontApp (Option (ApiAnswer V)) :=
  (Prog.perform (FrontCmd.capturedAppState tenantId n)).bind fun
    | none => .pure none
    | some state => (onTenant state ((ApiRequest.ttlDeletion task).program
        (config.tenantOf state))).mapResult some

end Handlers

/-- A request to the server, or a task that one has spawned. -/
inductive FrontRequest where
  | custodian (r : CustodianRequest)
  | api (header : Option String) (jweBody : Option JweBody) (route : Route) (random : Bytes)
  | transferKeys (header : Option String) (limit : Option ℤ) (nanoIds : ℕ → String)
      (schedule : List ℕ)
  | ttlDeletion (tenantId : String) (n : ℕ) (task : TtlDeletion)

/-- What a request ends with. -/
inductive FrontResult (V : Type) where
  | custodian (reply : CustodianResult CustodianRespPayload)
  | api (reply : CustodianResult JweBody)
  | transferKeys (reply : CustodianResult (ApiAnswer V))
  | ttlDeletion (reply : Option (ApiAnswer V))
  deriving DecidableEq

namespace FrontRequest

/-- The program of a request. -/
def program (config : FrontConfig τ V σ) : FrontRequest → FrontApp (FrontResult V)
  | .custodian r => (onCustodian r.handler).mapResult .custodian
  | .api header jweBody route random =>
    (middlewareRoute config header jweBody route random).mapResult .api
  | .transferKeys header limit nanoIds schedule =>
    (transferKeysRoute config header limit nanoIds schedule).mapResult .transferKeys
  | .ttlDeletion tenantId n task => (spawnedTask config tenantId n task).mapResult .ttlDeletion

/-- The handler that a request can reach, and the tenant it is for. The body of an API request
    is opened by the keys of the tenant; a migration has no envelope, and a task is for the
    tenant of its handler. -/
def served (config : FrontConfig τ V σ) : FrontRequest → Option (String × ApiRequest V)
  | .custodian _ => none
  | .api header jweBody route _ =>
    header.bind fun tenantId => jweBody.bind fun jweBody =>
      match (config.keys tenantId).decrypt config.josekit jweBody with
      | .error _ => none
      | .ok jweDecrypted =>
        (route.request config.bodies jweDecrypted).map fun request => (tenantId, request)
  | .transferKeys header limit nanoIds schedule =>
    header.bind fun tenantId => limit.map fun limit =>
      (tenantId, .transferKeys limit nanoIds schedule)
  | .ttlDeletion tenantId _ task => some (tenantId, .ttlDeletion task)

/-- The custodian's request that a request is; one without a header ends at once. -/
def asCustodian : FrontRequest → CustodianRequest
  | .custodian r => r
  | _ => .decrypt none

end FrontRequest

/-- Requests to the server. -/
abbrev FrontPool (τ σ ι V : Type) : Type :=
  Pool (FrontState τ σ) ι FrontCmd FrontReply (FrontResult V)

/-- The server has started and no request has taken a step. -/
def FrontPool.start (config : FrontConfig τ V σ) (globalConfig : GlobalConfig)
    (reachable : TenantConfig → Bool) (requests : ι → FrontRequest)
    (server : ServerStore τ σ) : FrontPool τ σ ι V :=
  { store := ⟨GlobalAppState.new globalConfig reachable, fun _ => [], server⟩
    threads := fun i => (requests i).program config
    history := [] }

/-- One turn: a request takes its next step, or the surroundings do. -/
abbrev FrontPool.turn [DecidableEq τ] [DecidableEq ι] (config : FrontConfig τ V σ)
    (p : FrontPool τ σ ι V) (t : Turn ι (FrontEnv τ)) : FrontPool τ σ ι V :=
  p.step (FrontState.exec config) (FrontState.envStep config) t

/-- The pool after some turns. -/
def FrontPool.run [DecidableEq τ] [DecidableEq ι] (config : FrontConfig τ V σ)
    (turns : List (Turn ι (FrontEnv τ))) (p : FrontPool τ σ ι V) : FrontPool τ σ ι V :=
  runActs (FrontPool.turn config) turns p

/-! ## The custodians' requests, seen alone -/

namespace FrontCmd

/-- A step of a custodian's request. -/
def IsCustodian : FrontCmd → Prop
  | .custodian _ => True
  | _ => False

/-- The step, if it is one of a custodian's request. -/
def toCustodian : FrontCmd → Option CustodianCmd
  | .custodian c => some c
  | _ => none

end FrontCmd

/-- The answer of a custodian's request. -/
def FrontResult.IsCustodian : FrontResult V → Prop
  | .custodian _ => True
  | _ => False

/-- The custodian's request that a program is the rest of. -/
def custodianPart : FrontApp (FrontResult V) → CustodianApp (CustodianResult CustodianRespPayload)
  | .pure (.custodian reply) => .pure reply
  | .pure _ => (CustodianRequest.decrypt none).handler
  | .call (.custodian c) k => .call c fun r => custodianPart (k r)
  | .call _ _ => (CustodianRequest.decrypt none).handler

/-- The custodians' requests of a pool. -/
def FrontPool.custodians (p : FrontPool τ σ ι V) : Custodian.CustodianPool ι where
  store := p.store.app
  threads i := custodianPart (p.threads i)
  history := p.history.filterMap fun entry => entry.2.toCustodian.map fun c => (entry.1, c)

/-- Custodians' requests take custodians' steps, and others take others. -/
def FrontRequest.Kind (r : FrontRequest) (p : FrontApp (FrontResult V)) : Prop :=
  match r with
  | .custodian _ => p.Meets FrontCmd.IsCustodian (fun _ _ => True) FrontResult.IsCustodian
  | _ => p.Meets (fun c => ¬ c.IsCustodian) (fun _ _ => True) fun r => ¬ r.IsCustodian

theorem custodianPart_onCustodian (p : CustodianApp (CustodianResult CustodianRespPayload)) :
    custodianPart ((onCustodian p).mapResult (FrontResult.custodian (V := V))) = p := by
  induction p with
  | pure a => rfl
  | call c k ih =>
    change Prog.call c _ = Prog.call c k
    congr 1
    funext r
    exact ih r

theorem custodianPart_of_kind {p : FrontApp (FrontResult V)}
    (h : p.Meets (fun c => ¬ c.IsCustodian) (fun _ _ => True) fun r => ¬ r.IsCustodian) :
    custodianPart p = (CustodianRequest.decrypt none).handler := by
  cases p with
  | pure a =>
    cases a with
    | custodian reply => exact absurd trivial h
    | _ => rfl
  | call c k =>
    cases c with
    | custodian c => exact absurd trivial h.1
    | _ => rfl

section Kinds

variable (config : FrontConfig τ V σ)

theorem others_fromRequestParts (header : Option String) :
    (TenantStateResolver.fromRequestParts header).Issues fun c => ¬ c.IsCustodian := by
  cases header with
  | none => trivial
  | some tenantId =>
    refine Prog.Issues.andThen (Prog.Issues.mapResult ?_) fun _ => Prog.Issues.mapResult ?_
    · exact Prog.issues_perform id
    · exact Prog.issues_perform id

theorem others_onTenant {α : Type} (state : TenantAppState) (p : ApiApp α) :
    (onTenant state p).Issues fun c => ¬ c.IsCustodian := by
  induction p with
  | pure a => trivial
  | call c k ih => exact ⟨id, fun r _ => ih r⟩

theorem others_nextRun (header : Option String) (route : Route) (body : Bytes) :
    (nextRun config header route body).Issues fun c => ¬ c.IsCustodian := by
  refine Prog.Issues.bind (others_fromRequestParts header) fun reply => ?_
  split
  · trivial
  · trivial
  · split
    · trivial
    · exact Prog.Issues.mapResult (others_onTenant _ _)

theorem others_middlewareRoute (header : Option String) (jweBody : Option JweBody)
    (route : Route) (random : Bytes) :
    (middlewareRoute config header jweBody route random).Issues fun c => ¬ c.IsCustodian := by
  refine Prog.Issues.andThen (others_fromRequestParts header) fun state => ?_
  split
  · trivial
  · split
    · trivial
    · refine Prog.Issues.andThen (others_nextRun config header route _) fun responseBody => ?_
      split <;> trivial

theorem others_transferKeysRoute (header : Option String) (limit : Option ℤ)
    (nanoIds : ℕ → String) (schedule : List ℕ) :
    (transferKeysRoute config header limit nanoIds schedule).Issues fun c => ¬ c.IsCustodian := by
  refine Prog.Issues.andThen (others_fromRequestParts header) fun state => ?_
  split
  · trivial
  · exact Prog.Issues.mapResult (others_onTenant _ _)

theorem others_spawnedTask (tenantId : String) (n : ℕ) (task : TtlDeletion) :
    (spawnedTask config tenantId n task).Issues fun c => ¬ c.IsCustodian := by
  refine Prog.Issues.bind (Prog.issues_perform id) fun found => ?_
  split
  · trivial
  · exact Prog.Issues.mapResult (others_onTenant _ _)

theorem kind_program (r : FrontRequest) : r.Kind (r.program config) := by
  cases r with
  | custodian r =>
    have hsteps : ∀ p : CustodianApp (CustodianResult CustodianRespPayload),
        ((onCustodian p).mapResult (FrontResult.custodian (V := V))).Meets FrontCmd.IsCustodian
          (fun _ _ => True) FrontResult.IsCustodian := by
      intro p
      induction p with
      | pure a => trivial
      | call c k ih => exact ⟨trivial, fun r _ => ih r⟩
    exact hsteps r.handler
  | api header jweBody route random =>
    exact Prog.Meets.bind (others_middlewareRoute config header jweBody route random)
      fun _ _ => id
  | transferKeys header limit nanoIds schedule =>
    exact Prog.Meets.bind (others_transferKeysRoute config header limit nanoIds schedule)
      fun _ _ => id
  | ttlDeletion tenantId n task =>
    exact Prog.Meets.bind (others_spawnedTask config tenantId n task) fun _ _ => id

end Kinds

theorem custodianPart_program (config : FrontConfig τ V σ) (r : FrontRequest) :
    custodianPart (r.program config) = r.asCustodian.handler := by
  have hkind := kind_program config r
  cases r with
  | custodian r => exact custodianPart_onCustodian r.handler
  | api header jweBody route random => exact custodianPart_of_kind hkind
  | transferKeys header limit nanoIds schedule => exact custodianPart_of_kind hkind
  | ttlDeletion tenantId n task => exact custodianPart_of_kind hkind

section Custodians

variable [DecidableEq τ] [DecidableEq ι] {config : FrontConfig τ V σ}
  {requests : ι → FrontRequest} {p : FrontPool τ σ ι V}

theorem kind_turn (h : ∀ i, (requests i).Kind (p.threads i)) (t : Turn ι (FrontEnv τ)) (i : ι) :
    (requests i).Kind ((FrontPool.turn config p t).threads i) := by
  refine Pool.threads_step (P := fun i q => (requests i).Kind q) t
    (fun j c k _ _ hcall => ?_) i (h i)
  unfold FrontRequest.Kind at hcall ⊢
  split at hcall
  · exact hcall.2 _ trivial
  · exact hcall.2 _ trivial

/-- A step of a custodian's request. -/
theorem custodians_custodian {i : ι} {c : CustodianCmd}
    {k : FrontReply (.custodian c) → FrontApp (FrontResult V)}
    (hi : p.threads i = .call (.custodian c) k) :
    FrontPool.custodians (FrontPool.turn config p (.thread i)) =
      Custodian.turn config.openWithin (FrontPool.custodians p) (.thread i) := by
  have hpart : (FrontPool.custodians p).threads i = .call c fun r => custodianPart (k r) := by
    change custodianPart (p.threads i) = _
    rw [hi]
    rfl
  refine (congrArg FrontPool.custodians (Pool.step_thread hi)).trans
    (Eq.trans ?_ (Pool.step_thread (p := (FrontPool.custodians p)) hpart).symm)
  unfold FrontPool.custodians
  congr 1
  funext j
  by_cases hj : j = i
  · subst hj
    simp only [Function.update_self]
    rfl
  · simp only [Function.update_of_ne hj]

/-- A step of another request is nothing to the custodians' requests. -/
theorem custodians_other {i : ι} {c : FrontCmd} {k : FrontReply c → FrontApp (FrontResult V)}
    (hi : p.threads i = .call c k)
    (hother : (Prog.call c k).Meets (fun c => ¬ c.IsCustodian) (fun _ _ => True)
      fun r => ¬ r.IsCustodian) :
    FrontPool.custodians (FrontPool.turn config p (.thread i)) =
      Custodian.turn config.openWithin (FrontPool.custodians p) (.thread i) := by
  have hended : (FrontPool.custodians p).threads i =
      (CustodianRequest.decrypt none).handler := by
    change custodianPart (p.threads i) = _
    rw [hi]
    exact custodianPart_of_kind hother
  refine (congrArg FrontPool.custodians (Pool.step_thread hi)).trans
    (Eq.trans ?_ (Pool.step_ended (p := (FrontPool.custodians p)) hended).symm)
  have happ : (p.store.exec config c).2.app = p.store.app := by
    cases c with
    | custodian => exact absurd trivial hother.1
    | _ => rfl
  have hnone : c.toCustodian = none := by
    cases c with
    | custodian => exact absurd trivial hother.1
    | _ => rfl
  unfold FrontPool.custodians
  congr 1
  · funext j
    by_cases hj : j = i
    · subst hj
      simp only [Function.update_self]
      rw [custodianPart_of_kind (hother.2 _ trivial), hi, custodianPart_of_kind hother]
    · simp only [Function.update_of_ne hj]
  · simp only [List.filterMap_cons, hnone, Option.map_none]

/-- A turn of the custodians' requests, or nothing to them. -/
theorem custodians_turn (h : ∀ i, (requests i).Kind (p.threads i)) (t : Turn ι (FrontEnv τ)) :
    FrontPool.custodians (FrontPool.turn config p t) =
      match t with
      | .thread i => Custodian.turn config.openWithin (FrontPool.custodians p) (.thread i)
      | .env (.reachable reachable) =>
        Custodian.turn config.openWithin (FrontPool.custodians p) (.env reachable)
      | .env (.server _) => FrontPool.custodians p := by
  cases t with
  | env e => cases e <;> rfl
  | thread i =>
    cases hi : p.threads i with
    | pure a =>
      have hpart : ∃ reply, (FrontPool.custodians p).threads i = .pure reply := by
        change ∃ reply, custodianPart (p.threads i) = .pure reply
        rw [hi]
        cases a <;> exact ⟨_, rfl⟩
      obtain ⟨reply, hpart⟩ := hpart
      exact (congrArg FrontPool.custodians (Pool.step_ended hi)).trans
        (Pool.step_ended (p := (FrontPool.custodians p)) hpart).symm
    | call c k =>
      have hkind := h i
      rw [hi] at hkind
      unfold FrontRequest.Kind at hkind
      split at hkind
      · cases c with
        | custodian c => exact custodians_custodian hi
        | _ => exact hkind.1.elim
      · exact custodians_other hi hkind

end Custodians

/-! ## No call before the unlock -/

section Unlocked

variable {config : FrontConfig τ V σ} {r : FrontRequest} {x : Set TenantAppState}

/-- With the app states in `x` unlocked: a custodian's request takes its own steps, and any
    other calls on the storage and keys of the tenant it is for, which is unlocked. -/
def FrontRequest.Ok (config : FrontConfig τ V σ) (r : FrontRequest) (x : Set TenantAppState) :
    FrontCmd → Prop
  | .custodian c => r.asCustodian.Issues c
  | .isKnownTenant _ => True
  | .getAppStateOfTenant _ => True
  | .capturedAppState .. => True
  | .api state _ => state ∈ x ∧ ∃ request, r.served config = some (state.config.tenantId, request)

/-- App states are those of unlocked tenants. -/
def FrontCmd.Fact : (c : FrontCmd) → FrontReply c → Set TenantAppState → Prop
  | .getAppStateOfTenant tenantId, reply, x =>
    ∀ state, reply = Except.ok state → state ∈ x ∧ state.config.tenantId = tenantId
  | .capturedAppState tenantId _, reply, x =>
    ∀ state, reply = some state → state ∈ x ∧ state.config.tenantId = tenantId
  | _, _, _ => True

/-- Keeps to what is unlocked. -/
abbrev FrontRequest.Keeps {α : Type} (config : FrontConfig τ V σ) (r : FrontRequest)
    (p : FrontApp α) (Q : α → Set TenantAppState → Prop) (x : Set TenantAppState) : Prop :=
  p.Safe (r.Ok config) FrontCmd.Fact Q x

theorem keeps_getAppState (tenantId : String) :
    r.Keeps config ((Prog.perform (FrontCmd.getAppStateOfTenant tenantId)).mapResult orRejection)
      (fun reply x => ∀ state, reply = .ok state → state ∈ x ∧ state.config.tenantId = tenantId)
      x := by
  refine Prog.Safe.mapResult (Prog.safe_perform (c := FrontCmd.getAppStateOfTenant tenantId)
    (fun _ _ => trivial) ?_)
  intro reply z w _ hfact hzw state h
  cases reply with
  | error e => cases h
  | ok state' =>
    cases h
    exact ⟨hzw (hfact state rfl).1, (hfact state rfl).2⟩

theorem keeps_capturedAppState (tenantId : String) (n : ℕ) :
    r.Keeps config (Prog.perform (FrontCmd.capturedAppState tenantId n))
      (fun found x => ∀ state, found = some state →
        state ∈ x ∧ state.config.tenantId = tenantId) x :=
  Prog.safe_perform (fun _ _ => trivial) fun _ _ _ _ hfact hzw state h =>
    ⟨hzw (hfact state h).1, (hfact state h).2⟩

theorem keeps_fromRequestParts (header : Option String) :
    r.Keeps config (TenantStateResolver.fromRequestParts header)
      (fun reply x => ∀ state, reply = .ok state →
        state ∈ x ∧ header = some state.config.tenantId) x := by
  cases header with
  | none =>
    intro y _ state h
    cases h
  | some tenantId =>
    refine Prog.Safe.andThen (Q := fun _ _ => True) ?_ (fun e y _ _ state h => by cases h)
      fun _ y _ _ => ?_
    · exact Prog.Safe.mapResult (Prog.safe_perform (c := FrontCmd.isKnownTenant tenantId)
        (fun _ _ => trivial) fun _ _ _ _ _ _ => trivial)
    · refine (keeps_getAppState tenantId).mono fun reply z _ hreply state h => ?_
      exact ⟨(hreply state h).1, congrArg some (hreply state h).2.symm⟩

theorem keeps_onTenant {α : Type} {state : TenantAppState} {request : ApiRequest V}
    (hstate : state ∈ x) (hserved : r.served config = some (state.config.tenantId, request))
    (p : ApiApp α) : r.Keeps config (onTenant state p) (fun _ _ => True) x := by
  induction p generalizing x with
  | pure a => exact fun _ _ => trivial
  | call c k ih => exact fun y hxy => ⟨⟨hxy hstate, request, hserved⟩,
      fun reply z hyz _ => ih reply (hyz (hxy hstate))⟩

theorem served_api {tenantId : String} {jweBody : JweBody} {route : Route} {payload : Bytes}
    {request : ApiRequest V} (random : Bytes)
    (hopened : (config.keys tenantId).decrypt config.josekit jweBody = .ok payload)
    (hrequest : route.request config.bodies payload = some request) :
    (FrontRequest.api (some tenantId) (some jweBody) route random).served config =
      some (tenantId, request) := by
  simp only [FrontRequest.served, Option.bind_some, hopened, hrequest, Option.map_some]

theorem keeps_program (r : FrontRequest) (x : Set TenantAppState) :
    r.Keeps config (r.program config) (fun _ _ => True) x := by
  cases r with
  | custodian r =>
    have hkeeps := r.keeps_handler
    suffices h : ∀ (p : CustodianApp (CustodianResult CustodianRespPayload))
        (x : Set TenantAppState), r.Keeps p (fun _ => True) →
          (FrontRequest.custodian r).Keeps config (onCustodian p) (fun _ _ => True) x from
      Prog.Safe.mapResult (h _ x hkeeps)
    intro p
    induction p with
    | pure a => exact fun _ _ _ _ => trivial
    | call c k ih => exact fun x h y _ => ⟨h.1, fun reply z _ _ => ih reply z (h.2 reply trivial)⟩
  | api header jweBody route random =>
    refine Prog.Safe.mapResult (Prog.Safe.andThen (keeps_fromRequestParts header)
      (fun _ _ _ _ => trivial) fun state y _ hresolved => ?_)
    obtain ⟨hstate, rfl⟩ := hresolved state rfl
    split
    · exact fun _ _ => trivial
    · rename_i jweBody
      split
      · exact fun _ _ => trivial
      · rename_i payload hopened
        refine Prog.Safe.andThen (Q := fun _ _ => True) ?_ (fun _ _ _ _ => trivial)
          fun responseBody z _ _ => ?_
        · refine Prog.Safe.bind (keeps_fromRequestParts _) fun reply z hyz hreply => ?_
          split
          · exact fun _ _ => trivial
          · exact fun _ _ => trivial
          · rename_i state'
            obtain ⟨hstate', htenant⟩ := hreply state' rfl
            split
            · exact fun _ _ => trivial
            · rename_i request hrequest
              have hserved := served_api random hopened hrequest
              rw [Option.some.inj htenant] at hserved ⊢
              exact Prog.Safe.mapResult (keeps_onTenant hstate' hserved _)
        · split <;> exact fun _ _ => trivial
  | transferKeys header limit nanoIds schedule =>
    refine Prog.Safe.mapResult (Prog.Safe.andThen (keeps_fromRequestParts header)
      (fun _ _ _ _ => trivial) fun state y _ hresolved => ?_)
    obtain ⟨hstate, rfl⟩ := hresolved state rfl
    split
    · exact fun _ _ => trivial
    · exact Prog.Safe.mapResult (keeps_onTenant hstate rfl _)
  | ttlDeletion tenantId n task =>
    refine Prog.Safe.mapResult (Prog.Safe.bind (keeps_capturedAppState tenantId n)
      fun found y _ hcaptured => ?_)
    cases found with
    | none => exact fun _ _ => trivial
    | some state =>
      obtain ⟨hstate, rfl⟩ := hcaptured state rfl
      exact Prog.Safe.mapResult (keeps_onTenant hstate rfl _)

end Unlocked

section Runs

variable [DecidableEq τ] [DecidableEq ι] (config : FrontConfig τ V σ) (globalConfig : GlobalConfig)
  (reachable : TenantConfig → Bool) (requests : ι → FrontRequest) (server : ServerStore τ σ)

/-- The app states that a `decrypt` has installed in these turns, each from the halves
    accepted last for its tenant. -/
def unlockedIn (turns : List (Turn ι (FrontEnv τ))) : Set TenantAppState :=
  { state | ∃ before j after, turns = before ++ .thread j :: after ∧
    Custodian.Unlocks config.openWithin globalConfig (fun i => (requests i).asCustodian)
      (FrontPool.custodians ((FrontPool.start config globalConfig reachable requests server).run
        config before)) j state.config.tenantId state }

/-- The custodians' requests keep their invariant, the app states are unlocked ones, and every
    request keeps to these. -/
structure FrontPool.Inv (x : Set TenantAppState) (p : FrontPool τ σ ι V) : Prop where
  custodians : Custodian.Inv globalConfig (fun i => (requests i).asCustodian)
    (FrontPool.custodians p)
  kinds : ∀ i, (requests i).Kind (p.threads i)
  states : ∀ tenantId state, p.store.app.tenantsAppState tenantId = some state →
    state ∈ x ∧ state.config.tenantId = tenantId
  resolved : ∀ tenantId, ∀ state ∈ p.store.resolved tenantId,
    state ∈ x ∧ state.config.tenantId = tenantId
  threads : ∀ i, (requests i).Keeps config (p.threads i) (fun _ _ => True) x

variable {config globalConfig reachable requests server}

omit [DecidableEq τ] [DecidableEq ι] in
theorem custodians_start :
    FrontPool.custodians (FrontPool.start config globalConfig reachable requests server) =
      Custodian.start globalConfig reachable fun i => (requests i).asCustodian := by
  unfold FrontPool.custodians FrontPool.start Custodian.start
  congr 1
  funext i
  exact custodianPart_program config (requests i)

variable (config globalConfig reachable requests server) in
theorem inv_front_start : FrontPool.Inv config globalConfig requests
    (unlockedIn config globalConfig reachable requests server [])
    (FrontPool.start config globalConfig reachable requests server) where
  custodians := by
    rw [custodians_start]
    exact Custodian.inv_start globalConfig reachable _
  kinds i := kind_program config (requests i)
  states tenantId state h := by cases h
  resolved tenantId state h := by cases h
  threads i := keeps_program (requests i) _

theorem unlockedIn_append {turns : List (Turn ι (FrontEnv τ))} {t : Turn ι (FrontEnv τ)} :
    unlockedIn config globalConfig reachable requests server turns ⊆
      unlockedIn config globalConfig reachable requests server (turns ++ [t]) := by
  rintro state ⟨before, j, after, rfl, hunlocks⟩
  exact ⟨before, j, after ++ [t], by simp, hunlocks⟩

omit [DecidableEq τ] [DecidableEq ι] in
theorem tenantId_of_unlocks {p : Custodian.CustodianPool ι} {requests : ι → CustodianRequest}
    {i : ι} {tenantId : String} {state : TenantAppState}
    (h : Custodian.Unlocks config.openWithin globalConfig requests p i tenantId state) :
    state.config.tenantId = tenantId := by
  obtain ⟨-, -, -, -, tenantConfig, masterKey, -, -, -, -, -, hconfig, -, hstate⟩ := h.opens
  have htenant := TenantConfig.tenantId_of_fromGlobalConfig hconfig
  rw [hstate]
  exact htenant

/-- The app states after one more turn. -/
theorem states_front_turn {turns : List (Turn ι (FrontEnv τ))}
    (h : FrontPool.Inv config globalConfig requests
      (unlockedIn config globalConfig reachable requests server turns)
      ((FrontPool.start config globalConfig reachable requests server).run config turns))
    (t : Turn ι (FrontEnv τ)) {tenantId : String} {state : TenantAppState}
    (hstate : (FrontPool.turn config ((FrontPool.start config globalConfig reachable requests
      server).run config turns) t).store.app.tenantsAppState tenantId = some state) :
    state ∈ unlockedIn config globalConfig reachable requests server (turns ++ [t]) ∧
      state.config.tenantId = tenantId := by
  generalize hp : (FrontPool.start config globalConfig reachable requests server).run config
    turns = p at h hstate
  have hold : p.store.app.tenantsAppState tenantId = some state →
      state ∈ unlockedIn config globalConfig reachable requests server (turns ++ [t]) ∧
        state.config.tenantId = tenantId := fun hbefore =>
    ⟨unlockedIn_append (h.states tenantId state hbefore).1, (h.states tenantId state hbefore).2⟩
  change (FrontPool.custodians (FrontPool.turn config p t)).store.tenantsAppState tenantId = _
    at hstate
  rw [custodians_turn h.kinds t] at hstate
  cases t with
  | env e =>
    cases e with
    | reachable reachable' => exact hold hstate
    | server weather => exact hold hstate
  | thread i =>
    rcases Custodian.appState_step h.custodians (.thread i) hstate with
      hbefore | ⟨j, hj, hunlocks⟩
    · exact hold hbefore
    · cases hj
      have htenant := tenantId_of_unlocks hunlocks
      subst htenant
      exact ⟨⟨turns, i, [], rfl, hp ▸ hunlocks⟩, rfl⟩

omit [DecidableEq ι] in
/-- The app state that a resolver hands out is the one of the tenant. -/
theorem resolved_exec {s : FrontState τ σ} {c : FrontCmd} {tenantId : String}
    {state : TenantAppState} (h : state ∈ (s.exec config c).2.resolved tenantId) :
    state ∈ s.resolved tenantId ∨ s.app.tenantsAppState tenantId = some state := by
  cases c with
  | getAppStateOfTenant tenantId' =>
    change state ∈ Function.update s.resolved tenantId' _ tenantId at h
    by_cases htenant : tenantId = tenantId'
    · subst htenant
      rw [Function.update_self] at h
      refine (List.mem_append.1 h).imp_right fun hnew => ?_
      cases hreply : s.app.getAppStateOfTenant tenantId with
      | error e =>
        rw [hreply] at hnew
        cases hnew
      | ok state' =>
        rw [hreply] at hnew
        obtain rfl := List.mem_singleton.1 hnew
        exact GlobalAppState.getAppStateOfTenant_eq_ok.1 hreply
    · rw [Function.update_of_ne htenant] at h
      exact Or.inl h
  | _ => exact Or.inl h

theorem resolved_turn {p : FrontPool τ σ ι V} {t : Turn ι (FrontEnv τ)} {tenantId : String}
    {state : TenantAppState}
    (h : state ∈ (FrontPool.turn config p t).store.resolved tenantId) :
    state ∈ p.store.resolved tenantId ∨ p.store.app.tenantsAppState tenantId = some state := by
  cases t with
  | env e => cases e <;> exact Or.inl h
  | thread i =>
    cases hi : p.threads i with
    | pure a =>
      rw [FrontPool.turn, Pool.step_ended hi] at h
      exact Or.inl h
    | call c k =>
      rw [FrontPool.turn, Pool.step_thread hi] at h
      exact resolved_exec h

theorem inv_front_turn {turns : List (Turn ι (FrontEnv τ))}
    (h : FrontPool.Inv config globalConfig requests
      (unlockedIn config globalConfig reachable requests server turns)
      ((FrontPool.start config globalConfig reachable requests server).run config turns))
    (t : Turn ι (FrontEnv τ)) :
    FrontPool.Inv config globalConfig requests
      (unlockedIn config globalConfig reachable requests server (turns ++ [t]))
      (FrontPool.turn config
        ((FrontPool.start config globalConfig reachable requests server).run config turns) t) := by
  have hmono : unlockedIn config globalConfig reachable requests server turns ⊆
      unlockedIn config globalConfig reachable requests server (turns ++ [t]) :=
    unlockedIn_append
  refine ⟨?_, kind_turn h.kinds t, fun _ _ => states_front_turn h t,
    fun tenantId state hstate => ?_, ?_⟩
  · rw [custodians_turn h.kinds t]
    cases t with
    | thread i => exact Custodian.inv_step h.custodians (.thread i)
    | env e =>
      cases e with
      | reachable reachable' => exact Custodian.inv_step h.custodians (.env reachable')
      | server weather => exact h.custodians
  · have hold : state ∈ unlockedIn config globalConfig reachable requests server turns ∧
        state.config.tenantId = tenantId :=
      (resolved_turn hstate).elim (h.resolved tenantId state) (h.states tenantId state)
    exact ⟨hmono hold.1, hold.2⟩
  · refine Pool.safe_step h.threads hmono t fun i c _ _ _ => ?_
    cases c with
    | getAppStateOfTenant tenantId =>
      intro state hstate
      have happ := h.states tenantId state (GlobalAppState.getAppStateOfTenant_eq_ok.1 hstate)
      exact ⟨hmono happ.1, happ.2⟩
    | capturedAppState tenantId n =>
      intro state hstate
      have hold := h.resolved tenantId state (List.mem_of_getElem? hstate)
      exact ⟨hmono hold.1, hold.2⟩
    | _ => trivial

variable (config globalConfig reachable requests server) in
theorem inv_front_run (turns : List (Turn ι (FrontEnv τ))) :
    FrontPool.Inv config globalConfig requests
      (unlockedIn config globalConfig reachable requests server turns)
      ((FrontPool.start config globalConfig reachable requests server).run config turns) := by
  induction turns using List.reverseRecOn with
  | nil => exact inv_front_start config globalConfig reachable requests server
  | append_singleton turns t ih =>
    have hrun : (FrontPool.start config globalConfig reachable requests server).run config
        (turns ++ [t]) = FrontPool.turn config
          ((FrontPool.start config globalConfig reachable requests server).run config turns) t :=
      runActs_append ..
    rw [hrun]
    exact inv_front_turn ih t

/-- Whatever requests for whatever tenants come in between: a request is about to call on the
    storage or the keys of a tenant only if this is the tenant it is for (`served`), and after
    a `decrypt` of the tenant has opened, with the halves accepted last for it, the master key
    that the request uses. -/
theorem front_served_unlocked (turns : List (Turn ι (FrontEnv τ))) {i : ι} {state : TenantAppState}
    {c : ApiCmd}
    (h : ((FrontPool.start config globalConfig reachable requests server).run config
      turns).nextCommand i = some (.api state c)) :
    (∃ request, (requests i).served config = some (state.config.tenantId, request)) ∧
      ∃ before j after, turns = before ++ .thread j :: after ∧
        Custodian.Unlocks config.openWithin globalConfig (fun i => (requests i).asCustodian)
          (FrontPool.custodians ((FrontPool.start config globalConfig reachable requests
            server).run config before)) j state.config.tenantId state := by
  have hinv := inv_front_run config globalConfig reachable requests server turns
  obtain ⟨k, hthread⟩ := Pool.nextCommand_eq_some h
  have hkeeps := hinv.threads i
  rw [hthread] at hkeeps
  obtain ⟨⟨hstate, hserved⟩, -⟩ := hkeeps _ le_rfl
  exact ⟨hserved, hstate⟩

end Runs

/-! ## A ceremony and a request -/

section Ceremony

/-- Bodies that no request and no answer has. -/
def emptyBodies : Bodies Bool where
  storeCardRequest _ := none
  retrieveCardRequest _ := none
  deleteCardRequest _ := none
  storeDataRequest _ := none
  retrieveDataRequest _ := none
  deleteDataRequest _ := none
  createEntityRequest _ := none
  fingerprintRequest _ := none
  answer _ := []
  apiError _ := []
  rejection _ := []

/-- One tenant, whose master key is that of the ceremony. -/
noncomputable def frontConfig (bodies : Bodies Bool) : FrontConfig Unit Bool Unit where
  names := ⟨fun _ => addPrefix "", sampleSerde⟩
  index _ := ()
  tenant _ := { boolTenant with
    state := { sampleTenant with masterKey := Custodian.openedMasterKey } }
  service _ := sampleKeyService
  dataService _ := sampleDataService
  josekit := sampleJosekit
  openWithin := Custodian.openVector
  lockerPrivateKey _ := samplePrivateKey
  tenantPublicKey _ := samplePublicKey
  bodies := bodies

/-- Nothing is stored yet. -/
def frontStore : ServerStore Unit Unit where
  store :=
    { redis := fun _ _ => none
      streams := fun _ => []
      tenants := fun _ => enabledStore.store }
  delivery _ := .answered

/-- The custodians' requests, and the migration of the tenant. -/
def frontRequests : Fin 4 → FrontRequest
  | 0 => .custodian (Custodian.ceremony 0)
  | 1 => .custodian (Custodian.ceremony 1)
  | 2 => .custodian (Custodian.ceremony 2)
  | 3 => .transferKeys (some "public") (some 10) (fun _ => "nano") []

/-- The migration begins when the ceremony is over. -/
def frontTurns : List (Turn (Fin 4) (FrontEnv Unit)) :=
  [.thread 2, .thread 1, .thread 0, .thread 0, .thread 1, .thread 2, .thread 0, .thread 1,
    .thread 2, .thread 3, .thread 3]

/-- The server after these turns. -/
noncomputable def frontRun (turns : List (Turn (Fin 4) (FrontEnv Unit))) :
    FrontPool Unit Unit (Fin 4) Bool :=
  (FrontPool.start (frontConfig emptyBodies) (Custodian.oneTenant Custodian.sealedMasterKey)
    (fun _ => true) frontRequests frontStore).run (frontConfig emptyBodies) turns

/-- The app state a call is made with. -/
def FrontCmd.appState : FrontCmd → Option TenantAppState
  | .api state _ => some state
  | _ => none

theorem FrontCmd.eq_api_of_appState {c : Option FrontCmd} {state : TenantAppState}
    (h : c.bind FrontCmd.appState = some state) : ∃ c', c = some (.api state c') := by
  obtain ⟨c, rfl, hc⟩ := Option.bind_eq_some_iff.1 h
  cases c with
  | api state' c' =>
    cases hc
    exact ⟨c', rfl⟩
  | _ => cases hc

/-- The migration begins with the master key that the custodians have unlocked. -/
theorem frontRun_begins_unlocked :
    (∃ request, (frontRequests 3).served (frontConfig emptyBodies) = some ("public", request)) ∧
      ∃ before j after, frontTurns = before ++ .thread j :: after ∧
        Custodian.Unlocks Custodian.openVector (Custodian.oneTenant Custodian.sealedMasterKey)
          (fun i => (frontRequests i).asCustodian) (FrontPool.custodians (frontRun before)) j
          "public" ⟨⟨"public", ⟨Custodian.openedMasterKey, "public", ""⟩, ""⟩⟩ := by
  obtain ⟨c, hc⟩ : ∃ c, (frontRun frontTurns).nextCommand 3 =
      some (.api ⟨⟨"public", ⟨Custodian.openedMasterKey, "public", ""⟩, ""⟩⟩ c) :=
    FrontCmd.eq_api_of_appState (by decide +kernel)
  exact front_served_unlocked frontTurns hc

end Ceremony

end CardVault
