import CardVault.Contents.Answers
import CardVault.Server.Shared
import CardVault.TenantKeys

/-!
# Tenants side by side

Requests of several tenants over one Redis, interleaved call by call, with calls that fail.
What a tenant sees of a run is a run of its own requests over a Redis of rows of its own.

Main results:
* `separates_of_validate`: which configurations keep the tenants' keys apart.
* `server_refines_tenant`: the refinement.
* `server_retrieveCard_answers_sent`, `server_retrieveData_answers_sent`: a retrieve answers
  what a request of the same tenant sent.
-/

namespace CardVault

open Interaction

/-! ## Keys of the tenants -/

section Config

variable {τ : Type} {addPrefix : String → String → String} (shared : RedisStore)
  (tenants : τ → TenantConfig)

/-- The key that is sent to Redis for a tenant. -/
def tenantKey (addPrefix : String → String → String) (t : τ) (key : String) : String :=
  (tenantRedis (tenants t) shared).namespacedKey addPrefix key

/-- In an accepted configuration with several tenants, none of whose prefixes starts with
    another one and a colon, different keys have different names. -/
theorem separates_of_validate (hpool : PutsInFront addPrefix) {isIpAddr : String → Bool}
    {config : GlobalConfigValues} (hvalid : config.validate isIpAddr = .ok ())
    (hredis : config.redis = true) [Nontrivial τ] {ids : τ → String}
    (hids : Function.Injective ids)
    (htenants : ∀ t, TenantConfig.fromGlobalConfig config.toGlobalConfig (ids t) =
      some (tenants t))
    (hnested : ∀ t t', t ≠ t' → ¬ Nested (tenants t) (tenants t')) (serde : Serde) :
    ServerConfig.Separates ⟨tenantKey shared tenants addPrefix, serde⟩ := by
  have hprefixes : ∀ t t', t ≠ t' → Text.trim (tenants t).redisKeyPrefix ≠ "" ∧
      Text.trim (tenants t').redisKeyPrefix ≠ "" ∧
        Text.trim (tenants t).redisKeyPrefix ≠ Text.trim (tenants t').redisKeyPrefix :=
    fun t t' hne => GlobalConfigValues.validateKvTenantPrefixes_ok
      (GlobalConfigValues.prefixes_of_validate hvalid) hredis (hids.ne hne) (htenants t)
        (htenants t')
  have hkey : ∀ t key, (tenantKey shared tenants addPrefix t key).toList =
      (Text.trim (tenants t).redisKeyPrefix).toList ++ ':' :: key.toList := by
    intro t key
    obtain ⟨t', hne⟩ := exists_ne t
    exact toList_namespacedKey shared hpool (hprefixes t t' hne.symm).1 key
  intro t t' key key' heq
  have hlist := congrArg String.toList heq
  change (tenantKey shared tenants addPrefix t key).toList =
    (tenantKey shared tenants addPrefix t' key').toList at hlist
  rw [hkey, hkey] at hlist
  by_cases ht : t = t'
  · subst ht
    have htail := List.append_cancel_left hlist
    exact ⟨rfl, String.toList_inj.1 (List.cons.inj htail).2⟩
  · have hne : (Text.trim (tenants t).redisKeyPrefix).toList ≠
        (Text.trim (tenants t').redisKeyPrefix).toList :=
      fun hlists => (hprefixes t t' ht).2.2 (String.toList_inj.1 hlists)
    exact absurd hlist ((Text.append_separator_ne_iff hne).2
      ⟨hnested t t' ht, hnested t' t (Ne.symm ht)⟩ key.toList key'.toList)

end Config

/-! ## The system -/

section System

variable {V σ τ ι : Type}

/-- The server, with what becomes of the next call. -/
abbrev ServerStore (τ σ : Type) : Type :=
  Unreliable (Server τ σ) (C := τ × ApiCmd) (R := fun c => ApiReply c.2)
    fun c reply => ApiFailure c.2 reply

/-- A change of the surroundings, or of what becomes of the next call. -/
abbrev ServerWeather (τ : Type) : Type :=
  Weather (τ × ApiEnv) (C := τ × ApiCmd) (R := fun c => ApiReply c.2)
    fun c reply => ApiFailure c.2 reply

/-- Requests of all tenants. -/
abbrev ServerPool (τ σ ι V : Type) : Type :=
  Pool (ServerStore τ σ) ι (τ × ApiCmd) (fun c => ApiReply c.2) (ApiAnswer V)

/-- The pool before anything has happened; `party` says whose request it is. -/
def ServerPool.start (tenant : τ → ApiTenant V) (party : ι → τ) (requests : ι → ApiRequest V)
    (s : ServerStore τ σ) : ServerPool τ σ ι V :=
  { store := s
    threads := fun i => ((requests i).program (tenant (party i))).tag (party i)
    history := [] }

variable [DecidableEq τ] [DecidableEq ι]

/-- The pool after some turns. -/
def ServerPool.run (config : ServerConfig τ) (tenant : τ → ApiTenant V)
    (service : τ → KeyService σ) (dataService : τ → DataService σ)
    (turns : List (Turn ι (ServerWeather τ))) (p : ServerPool τ σ ι V) : ServerPool τ σ ι V :=
  runActs (fun p turn => p.step
    (Unreliable.exec fun s c => s.exec config service dataService c)
    (Unreliable.envStep fun s e => s.envStep config (fun t => (tenant t).state.db) e) turn) turns p

end System

/-! ## The beginning -/

section Fresh

variable {V σ τ ι : Type} {config : ServerConfig τ} {tenant : τ → ApiTenant V}
  {dataService : τ → DataService σ} {party : ι → τ} {requests : ι → ApiRequest V}
  {s : ServerStore τ σ}

variable (tenant dataService) in
/-- Nothing is stored yet, and the keys are in order. -/
structure ServerStore.Fresh (s : ServerStore τ σ) : Prop where
  redis : ∀ key field, s.store.redis key field = none
  streams : ∀ stream, s.store.streams stream = []
  kv : ∀ t, ∃ config hasReplica, (s.store.tenants t).kv = Store.fresh config hasReplica Pg.empty
  keys : ∀ t, (s.store.tenants t).keys.Coherent (tenant t).state (dataService t)

/-- The tenant's own state, whose calls are answered for now. -/
def ServerStore.own (s : ServerStore τ σ) (t : τ) : ApiStore σ where
  store := s.store.tenants t
  delivery _ := .answered

theorem shows_fresh (hs : s.Fresh tenant dataService) (t : τ) :
    s.store.Shows config t (s.own t).store where
  redis key field := by
    obtain ⟨values, hasReplica, hkv⟩ := hs.kv t
    have hempty : (s.own t).store.kv.redis key field = none := by
      change (s.store.tenants t).kv.redis key field = none
      rw [hkv]
      rfl
    rw [hempty, hs.redis]
    rfl
  streams stream := by
    obtain ⟨values, hasReplica, hkv⟩ := hs.kv t
    change (s.store.tenants t).kv.streams stream = _
    rw [hkv, hs.streams]
    rfl
  rest := rfl

theorem tagged_start : (ServerPool.start tenant party requests s).Tagged party :=
  fun _ => ⟨_, rfl⟩

end Fresh

/-! ## What a tenant sees of a run -/

section Refinement

variable {V σ τ ι : Type} [DecidableEq τ] {config : ServerConfig τ} {tenant : τ → ApiTenant V}
  {service : τ → KeyService σ} {dataService : τ → DataService σ} {t : τ}

/-- Whatever happens to the server happens to the tenant's own state, or is nothing that the
    tenant sees. -/
theorem matches_tenant (hsep : config.Separates) (hserde : config.serde.Exact) (t : τ) :
    Pool.Matches (S := ServerStore τ σ) (A := ApiStore σ)
      (Unreliable.exec fun s c => Server.exec config service dataService s c)
      (Unreliable.envStep fun s e => s.envStep config (fun t => (tenant t).state.db) e)
      (Unreliable.exec (ApiState.exec (service t) (dataService t)))
      (Unreliable.envStep (ApiState.envStep (tenant t).state.db))
      (fun a => a.store.kv.WellFormed (tenant t).state.db)
      (fun s a => s.store.Shows config t a.store) t where
  own s a c hwell hshows := by
    obtain ⟨delivery, hreply, hafter⟩ := Unreliable.exists_delivery s a c hshows
      (hshows.exec service dataService hsep hserde hwell c)
    exact ⟨[.deliver delivery], hreply, hafter⟩
  others s a t' c hne hwell hshows := by
    refine ⟨[], ?_⟩
    rcases Unreliable.exec_store (fun s c => Server.exec config service dataService s c) s (t', c)
      with hstore | hstore
    · rw [runActs_nil, hstore]
      exact hshows
    · rw [runActs_nil, hstore]
      exact hshows.exec_other hsep hne c
  env s a e hwell hshows := by
    cases e with
    | deliver delivery => exact ⟨[], hshows⟩
    | env e =>
      obtain ⟨t', e⟩ := e
      by_cases ht : t' = t
      · subst ht
        exact ⟨[.env e], hshows.envStep hsep e⟩
      · exact ⟨[], hshows.envStep_other hsep ht e⟩

variable [DecidableEq ι] {party : ι → τ} {requests : ι → ApiRequest V} {s : ServerStore τ σ}

/-- What a tenant sees of any run is a run of its own requests over its own state. -/
theorem sees_run (hsep : config.Separates) (hserde : config.serde.Exact)
    (hcrypto : Cryptography (tenant t).state (service t) (dataService t))
    (hsend : Sendable (tenant t) fun i : Pool.Of party t => requests i)
    (hs : s.Fresh tenant dataService) (turns : List (Turn ι (ServerWeather τ))) :
    ∃ turns', ((ServerPool.start tenant party requests s).run config tenant service dataService
      turns).Sees party (fun s a => s.store.Shows config t a.store) t
        ((ApiPool.start (tenant t) (fun i : Pool.Of party t => requests i) (s.own t)).run
          (tenant t) (service t) (dataService t) turns') := by
  obtain ⟨values, hasReplica, hkv⟩ := hs.kv t
  have hsound : (s.own t).store.Sound (tenant t) (dataService t)
      (sentContents (tenant t) fun i : Pool.Of party t => requests i) :=
    sound_fresh values hasReplica hkv (hs.keys t)
  refine Pool.Sees.run (matches_tenant hsep hserde t) (fun turns' => ?_) turns
    ⟨shows_fresh hs t, fun i => ?_⟩ tagged_start
  · exact (ApiPool.sound_run hcrypto hsend hsound turns').wellFormed
  · obtain ⟨i, rfl⟩ := i
    rfl

/-- For any run of the server there is a run of the tenant alone, over a Redis of rows of its
    own, in which its requests have come as far and been told the same, and which ends in the
    state that the tenant sees. -/
theorem server_refines_tenant (hsep : config.Separates) (hserde : config.serde.Exact)
    (hcrypto : Cryptography (tenant t).state (service t) (dataService t))
    (hsend : Sendable (tenant t) fun i : Pool.Of party t => requests i)
    (hs : s.Fresh tenant dataService) (turns : List (Turn ι (ServerWeather τ))) :
    ∃ turns' : List (Turn (Pool.Of party t) ApiWeather),
      let server := (ServerPool.start tenant party requests s).run config tenant service
        dataService turns
      let own := (ApiPool.start (tenant t) (fun i : Pool.Of party t => requests i) (s.own t)).run
        (tenant t) (service t) (dataService t) turns'
      (∀ i : Pool.Of party t, server.threads i = (own.threads i).tag t) ∧
        server.store.store.Shows config t own.store.store := by
  obtain ⟨turns', hsees⟩ := sees_run hsep hserde hcrypto hsend hs turns
  exact ⟨turns', hsees.threads, hsees.store⟩

/-- A request of a tenant that has ended was answered as in a run of the tenant alone. -/
theorem server_answered (hsep : config.Separates) (hserde : config.serde.Exact)
    (hcrypto : Cryptography (tenant t).state (service t) (dataService t))
    (hsend : Sendable (tenant t) fun i : Pool.Of party t => requests i)
    (hs : s.Fresh tenant dataService) (turns : List (Turn ι (ServerWeather τ))) {i : ι}
    (hi : party i = t) {answer : ApiAnswer V}
    (hended : ((ServerPool.start tenant party requests s).run config tenant service dataService
      turns).threads i = .pure answer) :
    ∃ x, (requests i).Answered (tenant t) (fun i : Pool.Of party t => requests i) x answer := by
  obtain ⟨values, hasReplica, hkv⟩ := hs.kv t
  have hsound : (s.own t).store.Sound (tenant t) (dataService t)
      (sentContents (tenant t) fun i : Pool.Of party t => requests i) :=
    sound_fresh values hasReplica hkv (hs.keys t)
  obtain ⟨turns', hsees⟩ := sees_run hsep hserde hcrypto hsend hs turns
  have hthread := hsees.threads ⟨i, hi⟩
  rw [hended] at hthread
  exact ApiPool.answered_run (i := ⟨i, hi⟩) hcrypto hsend hsound turns'
    (Prog.eq_pure_of_tag hthread.symm)

/-- A retrieve answers a card that a request of the same tenant sent under the reference, or
    a clean error, whatever other tenants do. -/
theorem server_retrieveCard_answers_sent (hsep : config.Separates)
    (hserde : config.serde.Exact)
    (hcrypto : Cryptography (tenant t).state (service t) (dataService t))
    (hsend : Sendable (tenant t) fun i : Pool.Of party t => requests i)
    (hs : s.Fresh tenant dataService) (turns : List (Turn ι (ServerWeather τ))) {i : ι}
    {request : RetrieveCardRequest} {reply : Except (Fault ApiError) RetrieveCardRespPayload}
    (hi : party i = t) (hrequest : requests i = .retrieveCard request)
    (hplain : (⟨request.cardReference, request.merchantId, request.merchantCustomerId⟩ :
      LockerPrimaryKeyType).IsPlain)
    (hended : ((ServerPool.start tenant party requests s).run config tenant service dataService
      turns).threads i = .pure (.retrieveCard reply)) :
    IsCleanly (SentCard (fun i : Pool.Of party t => requests i) request) reply := by
  obtain ⟨x, hanswered⟩ := server_answered hsep hserde hcrypto hsend hs turns hi hended
  rw [hrequest] at hanswered
  exact isCleanly_of_cleanly (hanswered hplain)

/-- The same of `retrieve_data`. -/
theorem server_retrieveData_answers_sent (hsep : config.Separates)
    (hserde : config.serde.Exact)
    (hcrypto : Cryptography (tenant t).state (service t) (dataService t))
    (hsend : Sendable (tenant t) fun i : Pool.Of party t => requests i)
    (hs : s.Fresh tenant dataService) (turns : List (Turn ι (ServerWeather τ))) {i : ι}
    {request : RetrieveDataRequest} {reply : Except (Fault ApiError) (RetrieveDataResponse V)}
    (hi : party i = t) (hrequest : requests i = .retrieveData request)
    (hplain : (⟨request.entityId, request.vaultId⟩ : VaultPrimaryKey).IsPlain)
    (hended : ((ServerPool.start tenant party requests s).run config tenant service dataService
      turns).threads i = .pure (.retrieveData reply)) :
    IsCleanly (SentData (tenant t) (fun i : Pool.Of party t => requests i) request) reply := by
  obtain ⟨x, hanswered⟩ := server_answered hsep hserde hcrypto hsend hs turns hi hended
  rw [hrequest] at hanswered
  exact isCleanly_of_cleanly (hanswered hplain)

end Refinement

/-! ## Two tenants -/

section TwoTenants

/-- The shop is `false`, its branch is `true`. -/
def shopConfig (t : Bool) : TenantConfig :=
  if t then tenantOf "branch" "branch:" else tenantOf "shop" " shop "

/-- The keys of the two in one Redis of JSON texts. -/
def shopServer : ServerConfig Bool := ⟨tenantKey ⟨""⟩ shopConfig addPrefix, sampleSerde⟩

theorem separates_shopServer : shopServer.Separates := by
  have hvalid : (twoTenants " shop " "branch:").validate isLocalHost = .ok () := by decide +kernel
  have hids : Function.Injective fun t : Bool => if t then "branch" else "shop" := by
    decide
  refine separates_of_validate ⟨""⟩ shopConfig putsInFront_addPrefix hvalid rfl hids (fun t => ?_)
    (by decide +kernel) sampleSerde
  cases t <;> rfl

/-- Both tenants add a card and a value under the same ids. -/
def shopRequests : Fin 6 → ApiRequest Bool
  | 0 => .addCard (sampleDrawn "first") (sampleAdd "old")
  | 1 => .addCard (sampleDrawn "second") (sampleAdd "new")
  | 2 => .retrieveCard ⟨"merchant", "customer", "card"⟩
  | 3 => .addData (sampleDrawn "third") ⟨"entity", "value", true, none⟩ (some .upsert)
  | 4 => .addData (sampleDrawn "fourth") ⟨"entity", "value", false, none⟩ none
  | 5 => .retrieveData ⟨"entity", "value"⟩

/-- Whose request it is. -/
def shopParty : Fin 6 → Bool
  | 0 | 3 | 5 => false
  | 1 | 2 | 4 => true

/-- Nothing is stored yet. -/
def shopStore : ServerStore Bool Unit where
  store :=
    { redis := fun _ _ => none
      streams := fun _ => []
      tenants := fun _ => enabledStore.store }
  delivery _ := .answered

theorem fresh_shopStore :
    shopStore.Fresh (fun _ => boolTenant) fun _ => sampleDataService where
  redis _ _ := rfl
  streams _ := rfl
  kv _ := ⟨_, _, rfl⟩
  keys _ := coherent_enabledStore

theorem sendable_shopRequests (t : Bool) :
    Sendable boolTenant fun i : Pool.Of shopParty t => shopRequests i where
  ring _ _ _ _ h := by cases h
  sized i := match i with
    | ⟨0, _⟩ | ⟨1, _⟩ | ⟨3, _⟩ | ⟨4, _⟩ => ⟨fun _ h => (by cases h), fun _ h => (by cases h)⟩
    | ⟨2, _⟩ | ⟨5, _⟩ => trivial
  roundTrips := sampleEncoding_roundTrips
  reads value := ⟨value, by cases value <;> decide +kernel⟩

/-- Calls of the requests of some tenants, one request after the other. -/
def shopTurns (calls : List (Fin 6 × Nat)) : List (Turn (Fin 6) (ServerWeather Bool)) :=
  calls.flatMap fun call => List.replicate call.2 (.thread call.1)

/-- The requests make some calls, of the first ones first. -/
noncomputable def shopRun (calls : List (Fin 6 × Nat)) : ServerPool Bool Unit (Fin 6) Bool :=
  (ServerPool.start (fun _ => boolTenant) shopParty shopRequests shopStore).run shopServer
    (fun _ => boolTenant) (fun _ => sampleKeyService) (fun _ => sampleDataService) (shopTurns calls)

/-- The shop adds its card while the branch adds another under the same ids. -/
theorem shop_refined_while_branch_adds :
    ∃ turns' : List (Turn (Pool.Of shopParty false) ApiWeather),
      let own := (ApiPool.start boolTenant (fun i : Pool.Of shopParty false => shopRequests i)
        (shopStore.own false)).run boolTenant sampleKeyService sampleDataService turns'
      (∀ i : Pool.Of shopParty false,
        (shopRun [(0, 20), (1, 34), (0, 14)]).threads i = (own.threads i).tag false) ∧
        (shopRun [(0, 20), (1, 34), (0, 14)]).store.store.Shows shopServer false
          own.store.store :=
  server_refines_tenant separates_shopServer sampleSerde_exact
    cryptography_sampleTenant (sendable_shopRequests false) fresh_shopStore _

/-- The branch gets its own card, not that of the shop under the same ids. -/
theorem branch_retrieves_own_card :
    IsCleanly (SentCard (fun i : Pool.Of shopParty true => shopRequests i)
      ⟨"merchant", "customer", "card"⟩)
      (.ok (sampleAdd "new").data.toStored.toPayload) := by
  have hended : (shopRun [(0, 34), (1, 34), (2, 5)]).threads 2 =
      .pure (.retrieveCard (.ok (sampleAdd "new").data.toStored.toPayload)) :=
    Prog.eq_pure_of_result (by decide +kernel)
  rw [shopRun] at hended
  refine server_retrieveCard_answers_sent (t := true) separates_shopServer sampleSerde_exact ?_
    (sendable_shopRequests true) fresh_shopStore _ rfl rfl (by decide) hended
  exact cryptography_sampleTenant

/-- The shop gets its own value, not that of the branch. -/
theorem shop_retrieves_own_value :
    IsCleanly (SentData boolTenant (fun i : Pool.Of shopParty false => shopRequests i)
      ⟨"entity", "value"⟩) (.ok ⟨true⟩) := by
  have hended : (shopRun [(3, 15), (4, 15), (5, 5)]).threads 5 =
      .pure (.retrieveData (.ok ⟨true⟩)) :=
    Prog.eq_pure_of_result (by decide +kernel)
  rw [shopRun] at hended
  refine server_retrieveData_answers_sent (t := false) separates_shopServer sampleSerde_exact ?_
    (sendable_shopRequests false) fresh_shopStore _ rfl rfl (by decide) hended
  exact cryptography_sampleTenant

end TwoTenants

end CardVault
