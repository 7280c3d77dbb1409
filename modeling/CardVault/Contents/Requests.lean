import CardVault.Contents.Handlers
import CardVault.Failed.Calls
import CardVault.KeyManager.Legacy

/-!
# Requests side by side

Any number of requests to the card, data, fingerprint and entity routes, key migrations and
spawned deletions, interleaved call by call, with calls that fail, a KV mode that changes,
a drainer, expiring Redis keys, caches that drop entries and a merchant replica that lags.

Main results:
* `ApiState.Sound.exec`, `ApiState.Sound.envStep`: the invariant of the whole state.
* `ApiPool.sound_run`, `ApiPool.answered_run`: it holds after any run, and every answer is as
  `ApiRequest.Answered` says.
-/

namespace CardVault

open Interaction Relational

/-! ## The system -/

/-- A request, with what it makes up. -/
inductive ApiRequest (V : Type) where
  | addCard (drawn : Drawn) (request : StoreCardRequest)
  | retrieveCard (request : RetrieveCardRequest)
  | deleteCard (request : DeleteCardRequest)
  | addData (drawn : Drawn) (request : StoreDataRequest V) (mode : Option WriteMode)
  | retrieveData (request : RetrieveDataRequest)
  | deleteData (request : DeleteDataRequest)
  | createEntity (drawn : Drawn) (request : CreateEntityRequest)
  | fingerprint (drawn : Drawn) (header : Option String) (request : FingerprintRequest)
  | transferKeys (limit : ℤ) (nanoIds : ℕ → String) (schedule : List ℕ)
  | ttlDeletion (task : TtlDeletion)

/-- An answer. -/
inductive ApiAnswer (V : Type) where
  | addCard (reply : Except (Fault ApiError) StoreCardRespPayload)
  | retrieveCard (reply : Except (Fault ApiError) RetrieveCardRespPayload)
  | deleteCard (reply : Except (Fault ApiError) Unit)
  | addData (reply : Except (Fault ApiError) StoreDataResponse)
  | retrieveData (reply : Except (Fault ApiError) (RetrieveDataResponse V))
  | deleteData (reply : Except (Fault ApiError) DeleteDataResponse)
  | createEntity (reply : Except (Fault ApiError) CreatedEntity)
  | fingerprint (reply : Except (Fault ApiError) FingerprintResponse)
  | transferKeys (reply : Except (Fault ApiError) ℕ)
  | ttlDeletion
  deriving DecidableEq

/-- A tenant with the encodings of its requests. -/
structure ApiTenant (V : Type) where
  state : TenantState
  encoding : Encoding
  values : ValueEncoding V
  sign : Bytes → Bytes → Bytes

variable {V σ ι : Type}

/-- The handler of a request. -/
def ApiRequest.program (tenant : ApiTenant V) : ApiRequest V → ApiApp (ApiAnswer V)
  | .addCard drawn request =>
    (CardVault.addCard tenant.state drawn tenant.encoding request).mapResult .addCard
  | .retrieveCard request =>
    (CardVault.retrieveCard tenant.state tenant.encoding request).mapResult .retrieveCard
  | .deleteCard request => (CardVault.deleteCard tenant.state request).mapResult .deleteCard
  | .addData drawn request mode =>
    (CardVault.addData tenant.state drawn tenant.values request mode).mapResult .addData
  | .retrieveData request =>
    (CardVault.retrieveData tenant.state tenant.values request).mapResult .retrieveData
  | .deleteData request => (CardVault.deleteData tenant.state request).mapResult .deleteData
  | .createEntity drawn request =>
    (createEntityHandler tenant.state drawn request).mapResult .createEntity
  | .fingerprint drawn header request =>
    (getOrInsertFingerprintRoute tenant.state drawn tenant.sign header request).mapResult
      .fingerprint
  | .transferKeys limit nanoIds schedule =>
    (liftKey (CardVault.transferKeys (tenant.state.aead none) tenant.state.masterKey limit nanoIds
      schedule)).mapResult .transferKeys
  | .ttlDeletion task => (CardVault.ttlDeletion tenant.state task).mapResult fun _ => .ttlDeletion

/-- How a call fails. The clock, the caches and `tokio::spawn` do not. -/
def ApiFailure : (c : ApiCmd) → ApiReply c → Prop
  | .kv c, reply => StorageFailure c reply
  | .key c, reply => Legacy.KeyFailure c reply
  | .encryptData .., reply => ∃ e : KeyManagerError, reply = Except.error e
  | .decryptData .., reply => ∃ e : KeyManagerError, reply = Except.error e
  | .now, _ => False
  | .spawn _, _ => False

/-- What happens around the calls. -/
inductive ApiEnv where
  | kv (e : EnvStep)
  | keys (e : KeyStore.EnvStep)
  | runtimeConfig (config : Option RuntimeConfigValues)
  | evictFingerprint (fingerprintHash : Bytes)
  | evictHashTable (dataHash : Bytes)
  | tick (now : PrimitiveDateTime)

/-- One step of the surroundings. -/
def ApiState.envStep (ctx : KvStoreContext) (s : ApiState σ) : ApiEnv → ApiState σ
  | .kv e => { s with kv := s.kv.envStep ctx e }
  | .keys e => { s with keys := s.keys.envStep e }
  | .runtimeConfig config =>
    { s with
      kv := { s.kv with runtimeConfig := config }
      keys := { s.keys with runtimeConfig := config } }
  | .evictFingerprint fingerprintHash =>
    { s with kv := { s.kv with
      fingerprintCache := Function.update s.kv.fingerprintCache fingerprintHash none } }
  | .evictHashTable dataHash =>
    { s with kv := { s.kv with
      hashTableCache := Function.update s.kv.hashTableCache dataHash none } }
  | .tick now => { s with now }

/-- Everything behind the calls, with what becomes of the next one. -/
abbrev ApiStore (σ : Type) : Type := Unreliable (ApiState σ) ApiFailure

/-- A change of the surroundings, or of what becomes of the next call. -/
abbrev ApiWeather : Type := Weather ApiEnv ApiFailure

/-- Requests over one store. -/
abbrev ApiPool (σ ι V : Type) : Type := Pool (ApiStore σ) ι ApiCmd ApiReply (ApiAnswer V)

/-- The pool before anything has happened. -/
def ApiPool.start (tenant : ApiTenant V) (requests : ι → ApiRequest V) (s : ApiStore σ) :
    ApiPool σ ι V :=
  { store := s, threads := fun i => (requests i).program tenant, history := [] }

/-- The pool after some turns. -/
def ApiPool.run [DecidableEq ι] (tenant : ApiTenant V) (service : KeyService σ)
    (dataService : DataService σ) (turns : List (Turn ι ApiWeather)) (p : ApiPool σ ι V) :
    ApiPool σ ι V :=
  runActs (fun p turn => p.step (Unreliable.exec (ApiState.exec service dataService))
    (Unreliable.envStep (ApiState.envStep tenant.state.db)) turn) turns p

/-! ## What requests store -/

section Sent

variable (tenant : ApiTenant V)

/-- What a request stores: under which key, for which key holder, and the plaintext. -/
def ApiRequest.sent : ApiRequest V → Option (PartitionKey × String × Bytes)
  | .addCard drawn request =>
    some (.locker request.merchantId request.merchantCustomerId
      (request.requestorCardReference.getD drawn.uuid), request.merchantId,
        tenant.encoding.toVec request.data.toStored)
  | .addData _ request _ =>
    some (.vault request.entityId request.vaultId, request.entityId,
      tenant.values.toVec request.data)
  | _ => none

/-- The id that a request gives its fingerprint hash, if it gives one. -/
def ApiRequest.identified : ApiRequest V → Option (Bytes × String)
  | .fingerprint drawn header request =>
    match optionalFingerprintId header with
    | .ok given =>
      some (request.hash tenant.sign, (given.map FingerprintId.val).getD drawn.nanoId)
    | .error _ => none
  | _ => none

/-- Rows hold what requests have sent, encrypted for the key holder of the request. -/
def sentContents (requests : ι → ApiRequest V) : Contents KeyHolders where
  data x key encrypted := ∃ i pk entityId plain,
    (requests i).sent tenant = some (pk, entityId, plain) ∧ pk.display = key ∧
      OpensFor tenant.state x entityId encrypted plain
  fingerprint _ fingerprintHash id := ∃ i,
    (requests i).identified tenant = some (fingerprintHash, id)
  data_mono x y key encrypted hxy h := by
    obtain ⟨i, pk, entityId, plain, hsent, hkey, hopens⟩ := h
    exact ⟨i, pk, entityId, plain, hsent, hkey, hopens.mono hxy⟩
  fingerprint_mono x y fingerprintHash id hxy h := h

/-- The nonces that a request draws have `NONCE_LEN` bytes. -/
def ApiRequest.Sized : ApiRequest V → Prop
  | .addCard drawn _ | .addData drawn _ _ | .createEntity drawn _ => drawn.Sized
  | _ => True

end Sent

/-! ## The invariant -/

section Invariant

variable (tenant : ApiTenant V) (dataService : DataService σ)

/-- What a state says of keys. -/
def ApiState.holders (s : ApiState σ) : KeyHolders :=
  s.keys.holders tenant.state dataService

/-- Rows lie where they belong and hold what was sent, and the keys are in order. -/
structure ApiState.Sound (K : Contents KeyHolders) (s : ApiState σ) : Prop where
  wellFormed : s.kv.WellFormed tenant.state.db
  holds : s.kv.Holds (K.Of (s.holders tenant dataService))
  coherent : s.keys.Coherent tenant.state dataService

end Invariant

section Steps

variable {tenant : ApiTenant V} {service : KeyService σ} {dataService : DataService σ}
  {K : Contents KeyHolders} {s : ApiState σ}

theorem ApiState.Sound.exec (h : s.Sound tenant dataService K)
    (hcrypto : Cryptography tenant.state service dataService) {c : ApiCmd}
    (hc : c.Stores tenant.state K (s.holders tenant dataService)) :
    (s.exec service dataService c).2.Sound tenant dataService K ∧
      s.holders tenant dataService ≤ (s.exec service dataService c).2.holders tenant dataService ∧
      ApiReply.Tells tenant.state K ((s.exec service dataService c).2.holders tenant dataService) c
        (s.exec service dataService c).1 := by
  cases c with
  | kv c =>
    obtain ⟨hok, hwellFormed⟩ := Store.exec_wellFormed h.wellFormed hc.1
    obtain ⟨htells, hholds⟩ := h.holds.exec hc.2
    exact ⟨⟨hwellFormed, hholds, h.coherent⟩, le_rfl, hok, htells⟩
  | key c =>
    obtain ⟨hcoherent, htells⟩ := h.coherent.exec hcrypto hc
    have hle := holders_exec (s := s.keys) hcrypto c
    exact ⟨⟨h.wellFormed, h.holds.mono fun _ => K.of_mono hle, hcoherent⟩, hle, htells⟩
  | now => exact ⟨h, le_rfl, trivial⟩
  | spawn task => exact ⟨⟨h.wellFormed, h.holds, h.coherent⟩, le_rfl, trivial⟩
  | encryptData identifier data =>
    exact ⟨h, le_rfl, fun encrypted hencrypted =>
      (mem_opened_iff tenant.state).2 (hcrypto.opened _ _ _ _ hencrypted)⟩
  | decryptData identifier data =>
    exact ⟨h, le_rfl, fun plain hplain => (mem_opened_iff tenant.state).2 hplain⟩

theorem ApiState.Sound.envStep (h : s.Sound tenant dataService K) (e : ApiEnv) :
    (s.envStep tenant.state.db e).Sound tenant dataService K ∧
      s.holders tenant dataService ≤
        (s.envStep tenant.state.db e).holders tenant dataService := by
  cases e with
  | kv e =>
    exact ⟨⟨Store.envStep_wellFormed h.wellFormed e, h.holds.envStep tenant.state.db e,
      h.coherent⟩, le_rfl⟩
  | keys e =>
    have heq : (s.envStep tenant.state.db (.keys e)).holders tenant dataService =
        s.holders tenant dataService := holders_envStep e
    refine ⟨⟨h.wellFormed, ?_, h.coherent.envStep e⟩, heq.ge⟩
    rw [heq]
    exact h.holds
  | runtimeConfig config =>
    exact ⟨⟨h.wellFormed.setRuntimeConfig config, ⟨h.holds.redis, h.holds.streams, h.holds.pg,
      h.holds.fingerprintCache, h.holds.hashTableCache⟩, ⟨h.coherent.opens, h.coherent.replica,
      h.coherent.merchantCache, h.coherent.entityCache⟩⟩, le_rfl⟩
  | evictFingerprint fingerprintHash =>
    refine ⟨⟨⟨h.wellFormed.redis, h.wellFormed.streams⟩,
      { h.holds with fingerprintCache := fun key value hvalue => ?_ }, h.coherent⟩, le_rfl⟩
    change Function.update s.kv.fingerprintCache fingerprintHash none key = some value at hvalue
    by_cases hkey : key = fingerprintHash
    · rw [hkey, Function.update_self] at hvalue
      cases hvalue
    · rw [Function.update_of_ne hkey] at hvalue
      exact h.holds.fingerprintCache key value hvalue
  | evictHashTable dataHash =>
    refine ⟨⟨⟨h.wellFormed.redis, h.wellFormed.streams⟩,
      { h.holds with hashTableCache := fun key value hvalue => ?_ }, h.coherent⟩, le_rfl⟩
    change Function.update s.kv.hashTableCache dataHash none key = some value at hvalue
    by_cases hkey : key = dataHash
    · rw [hkey, Function.update_self] at hvalue
      cases hvalue
    · rw [Function.update_of_ne hkey] at hvalue
      exact h.holds.hashTableCache key value hvalue
  | tick now => exact ⟨⟨h.wellFormed, h.holds, h.coherent⟩, le_rfl⟩

theorem tells_of_storageFailure {R : Row → Prop} {c : Cmd} {reply : Reply c}
    (h : StorageFailure c reply) : Reply.Ok c reply ∧ Reply.Tells R c reply := by
  cases c with
  | query pool q =>
    obtain ⟨e, rfl, -⟩ := h
    exact ⟨fun _ hrow => (by cases hrow), fun _ hout => (by cases hout)⟩
  | getHashField key field =>
    obtain ⟨e, rfl, -⟩ := h
    exact ⟨fun _ hrow => (by cases hrow), fun _ hrow => (by cases hrow)⟩
  | lookupFingerprint => cases h
  | lookupHashTable => cases h
  | _ => exact ⟨trivial, trivial⟩

theorem tells_of_keyFailure {state : TenantState} {x : KeyHolders} {c : KeyCmd}
    {reply : KeyReply c} (h : Legacy.KeyFailure c reply) : KeyReply.Tells state x c reply := by
  cases c with
  | selectMerchant pool merchantId =>
    obtain ⟨e, rfl⟩ := h
    exact fun _ hrow => by cases hrow
  | insertMerchant new =>
    obtain ⟨e, rfl⟩ := h
    exact fun _ hrow => by cases hrow
  | selectMerchantsExcludingEntities pool limit =>
    obtain ⟨e, rfl⟩ := h
    exact fun _ hrows => by cases hrows
  | selectEntity pool entityId =>
    obtain ⟨e, rfl⟩ := h
    exact fun _ hrow => by cases hrow
  | insertEntity new =>
    obtain ⟨e, rfl⟩ := h
    exact fun _ hrow => by cases hrow
  | lookupMerchant => cases h
  | lookupEntity => cases h
  | _ => trivial

/-- A failed call tells of nothing. -/
theorem tells_of_failure (c : ApiCmd) (reply : ApiReply c) (x : KeyHolders)
    (h : ApiFailure c reply) : ApiReply.Tells tenant.state K x c reply := by
  cases c with
  | kv c => exact tells_of_storageFailure h
  | key c => exact tells_of_keyFailure h
  | encryptData identifier data =>
    obtain ⟨e, rfl⟩ := h
    exact fun _ hencrypted => by cases hencrypted
  | decryptData identifier data =>
    obtain ⟨e, rfl⟩ := h
    exact fun _ hplain => by cases hplain
  | now => trivial
  | spawn task => trivial

/-- Calls and surroundings keep the state sound, and what is known of keys is known for
    good. -/
theorem sound_grows (hcrypto : Cryptography tenant.state service dataService) :
    Pool.Grows (S := ApiStore σ) (Unreliable.exec (ApiState.exec service dataService))
      (Unreliable.envStep (ApiState.envStep tenant.state.db))
      (fun x c => c.Stores tenant.state K x)
      (fun c reply x => ApiReply.Tells tenant.state K x c reply)
      (fun u => u.store.Sound tenant dataService K)
      (fun u => u.store.holders tenant dataService) :=
  Pool.Grows.unreliable ⟨fun _ _ h hc => h.exec hcrypto hc, fun _ e h => h.envStep e⟩
    tells_of_failure

end Steps

/-! ## Answers -/

section Answers

variable (tenant : ApiTenant V) (requests : ι → ApiRequest V)

/-- A card that was sent under the reference. -/
def SentCard (request : RetrieveCardRequest) (payload : RetrieveCardRespPayload) : Prop :=
  ∃ i drawn add, requests i = .addCard drawn add ∧ add.merchantId = request.merchantId ∧
    add.merchantCustomerId = request.merchantCustomerId ∧
    add.requestorCardReference.getD drawn.uuid = request.cardReference ∧
    payload = add.data.toStored.toPayload

/-- A value that was sent under the id. -/
def SentData (request : RetrieveDataRequest) (response : RetrieveDataResponse V) : Prop :=
  ∃ i drawn add mode, requests i = .addData drawn add mode ∧ add.entityId = request.entityId ∧
    add.vaultId = request.vaultId ∧
    tenant.values.fromSlice (tenant.values.toVec add.data) = some response.data

/-- What a request is answered. -/
def ApiRequest.Answered (x : KeyHolders) : ApiRequest V → ApiAnswer V → Prop
  | .retrieveCard request, .retrieveCard reply =>
    (⟨request.cardReference, request.merchantId, request.merchantCustomerId⟩ :
      LockerPrimaryKeyType).IsPlain →
      Cleanly (fun payload _ => SentCard requests request payload) reply x
  | .retrieveData request, .retrieveData reply =>
    (⟨request.entityId, request.vaultId⟩ : VaultPrimaryKey).IsPlain →
      Cleanly (fun response _ => SentData tenant requests request response) reply x
  | .fingerprint _ _ request, .fingerprint reply =>
    ∀ response, reply = .ok response → ∃ i, (requests i).identified tenant =
      some (request.hash tenant.sign, response.fingerprintId)
  | _, _ => True

variable {tenant requests}

/-- What lies under the key of a card was sent under its reference. -/
theorem sentCard_of_data {request : RetrieveCardRequest} {x : KeyHolders} {encrypted : Bytes}
    (hplain : (⟨request.cardReference, request.merchantId, request.merchantCustomerId⟩ :
      LockerPrimaryKeyType).IsPlain)
    (h : (sentContents tenant requests).data x (PartitionKey.locker request.merchantId
      request.merchantCustomerId request.cardReference).display encrypted) :
    ∃ plain, OpensFor tenant.state x request.merchantId encrypted plain ∧
      ∃ i drawn add, requests i = .addCard drawn add ∧ add.merchantId = request.merchantId ∧
        add.merchantCustomerId = request.merchantCustomerId ∧
        add.requestorCardReference.getD drawn.uuid = request.cardReference ∧
        plain = tenant.encoding.toVec add.data.toStored := by
  obtain ⟨i, pk, entityId, plain, hsent, hkey, hopens⟩ := h
  cases hi : requests i with
  | addCard drawn add =>
    rw [hi] at hsent
    cases hsent
    have heq := LockerPrimaryKeyType.display_unique_iff.2 hplain
      ⟨add.requestorCardReference.getD drawn.uuid, add.merchantId, add.merchantCustomerId⟩ hkey
    obtain ⟨hreference, hmerchant, hcustomer⟩ := LockerPrimaryKeyType.ext_iff.1 heq
    change add.merchantId = request.merchantId at hmerchant
    rw [hmerchant] at hopens
    exact ⟨_, hopens, i, drawn, add, hi, hmerchant, hcustomer, hreference, rfl⟩
  | addData drawn add mode =>
    rw [hi] at hsent
    cases hsent
    cases PartitionKey.resource_eq_of_display rfl rfl hkey
  | _ =>
    rw [hi] at hsent
    cases hsent

/-- What lies under the key of a vault row was sent under its id. -/
theorem sentData_of_data {request : RetrieveDataRequest} {x : KeyHolders} {encrypted : Bytes}
    (hplain : (⟨request.entityId, request.vaultId⟩ : VaultPrimaryKey).IsPlain)
    (h : (sentContents tenant requests).data x
      (PartitionKey.vault request.entityId request.vaultId).display encrypted) :
    ∃ plain, OpensFor tenant.state x request.entityId encrypted plain ∧
      ∃ i drawn add mode, requests i = .addData drawn add mode ∧
        add.entityId = request.entityId ∧ add.vaultId = request.vaultId ∧
        plain = tenant.values.toVec add.data := by
  obtain ⟨i, pk, entityId, plain, hsent, hkey, hopens⟩ := h
  cases hi : requests i with
  | addCard drawn add =>
    rw [hi] at hsent
    cases hsent
    cases PartitionKey.resource_eq_of_display rfl rfl hkey
  | addData drawn add mode =>
    rw [hi] at hsent
    cases hsent
    have heq := VaultPrimaryKey.display_unique_iff.2 hplain ⟨add.entityId, add.vaultId⟩ hkey
    obtain ⟨hentity, hvault⟩ := VaultPrimaryKey.ext_iff.1 heq
    change add.entityId = request.entityId at hentity
    rw [hentity] at hopens
    exact ⟨_, hopens, i, drawn, add, mode, hi, hentity, hvault, rfl⟩
  | _ =>
    rw [hi] at hsent
    cases hsent

variable (tenant requests) in
/-- What a request needs of the tenant and of what it makes up. -/
structure Sendable : Prop where
  ring : OpensSealed tenant.state.openWithin tenant.state.sealInPlace
  sized : ∀ i, (requests i).Sized
  roundTrips : tenant.encoding.RoundTrips
  reads : ∀ value, ∃ value', tenant.values.fromSlice (tenant.values.toVec value) = some value'

/-- A request stores what it sends and answers what was sent, whatever the other requests
    do. -/
theorem safe_program (h : Sendable tenant requests) (i : ι) (x : KeyHolders) :
    KeepsApi tenant.state (sentContents tenant requests) ((requests i).program tenant)
      (fun answer y => (requests i).Answered tenant requests y answer) x := by
  have hsized := h.sized i
  have hidentified : ∀ {drawn header request}, requests i = .fingerprint drawn header request →
      ∀ given, optionalFingerprintId header = .ok given →
        (sentContents tenant requests).fingerprint x (request.hash tenant.sign)
          ((given.map FingerprintId.val).getD drawn.nanoId) := by
    intro drawn header request hi given hgiven
    refine ⟨i, ?_⟩
    rw [hi, ApiRequest.identified, hgiven]
  have hsent : ∀ pk entityId plain, (requests i).sent tenant = some (pk, entityId, plain) →
      ∀ y encrypted, x ≤ y → OpensFor tenant.state y entityId encrypted plain →
        (sentContents tenant requests).data y pk.display encrypted :=
    fun pk entityId plain hsent y encrypted _ hopens =>
      ⟨i, pk, entityId, plain, hsent, rfl, hopens⟩
  cases hi : requests i with
  | addCard drawn request =>
    rw [hi] at hsized hsent
    exact Prog.Safe.mapResult ((keepsApi_addCard h.ring hsized (hsent _ _ _ rfl)).mono
      fun _ _ _ _ => trivial)
  | retrieveCard request =>
    by_cases hplain : (⟨request.cardReference, request.merchantId,
        request.merchantCustomerId⟩ : LockerPrimaryKeyType).IsPlain
    · refine Prog.Safe.mapResult ((keepsApi_retrieveCard
        (fun y encrypted _ hdata => sentCard_of_data hplain hdata) ?_).mono
          fun reply y _ hreply _ => ?_)
      · rintro plain ⟨j, drawn, add, -, -, -, -, rfl⟩
        exact ⟨_, h.roundTrips _⟩
      · cases reply with
        | error e => exact hreply
        | ok payload =>
          obtain ⟨-, stored, ⟨j, drawn, add, hj, hmerchant, hcustomer, hreference, rfl⟩, hstored,
            rfl⟩ := hreply
          rw [h.roundTrips] at hstored
          cases hstored
          exact ⟨j, drawn, add, hj, hmerchant, hcustomer, hreference, rfl⟩
    · exact Prog.Safe.mapResult ((keepsApi_retrieveCard_any request).mono
        fun _ _ _ _ h => absurd h hplain)
  | deleteCard request =>
    exact Prog.Safe.mapResult ((keepsApi_deleteCard request).mono fun _ _ _ _ => trivial)
  | addData drawn request mode =>
    rw [hi] at hsized hsent
    exact Prog.Safe.mapResult ((keepsApi_addData h.ring hsized mode (hsent _ _ _ rfl)).mono
      fun _ _ _ _ => trivial)
  | retrieveData request =>
    by_cases hplain : (⟨request.entityId, request.vaultId⟩ : VaultPrimaryKey).IsPlain
    · refine Prog.Safe.mapResult ((keepsApi_retrieveData
        (fun y encrypted _ hdata => sentData_of_data hplain hdata) ?_).mono
          fun reply y _ hreply _ => ?_)
      · rintro plain ⟨j, drawn, add, mode, -, -, -, rfl⟩
        exact h.reads add.data
      · cases reply with
        | error e => exact hreply
        | ok response =>
          obtain ⟨-, ⟨j, drawn, add, mode, hj, hentity, hvault, rfl⟩, hvalue⟩ := hreply
          exact ⟨j, drawn, add, mode, hj, hentity, hvault, hvalue⟩
    · exact Prog.Safe.mapResult ((keepsApi_retrieveData_any request).mono
        fun _ _ _ _ h => absurd h hplain)
  | deleteData request =>
    exact Prog.Safe.mapResult ((keepsApi_deleteData request).mono fun _ _ _ _ => trivial)
  | createEntity drawn request =>
    rw [hi] at hsized
    exact Prog.Safe.mapResult ((keepsApi_createEntityHandler h.ring hsized request).mono
      fun _ _ _ _ => trivial)
  | fingerprint drawn header request =>
    exact Prog.Safe.mapResult ((keepsApi_fingerprint (hidentified hi)).mono
      fun _ _ _ hreply response hresponse => hreply response hresponse)
  | transferKeys limit nanoIds schedule =>
    exact Prog.Safe.mapResult ((keepsApi_liftKey (keepsKeys_transferKeys _ _ limit nanoIds
      schedule)).mono fun _ _ _ _ => trivial)
  | ttlDeletion task =>
    exact Prog.Safe.mapResult ((keepsApi_ttlDeletion task).mono fun _ _ _ _ => trivial)

end Answers

/-! ## Runs -/

section Runs

variable {tenant : ApiTenant V} {service : KeyService σ} {dataService : DataService σ}
  {requests : ι → ApiRequest V} {s : ApiStore σ}

theorem sound_fresh {K : Contents KeyHolders} (config : Option RuntimeConfigValues)
    (hasReplica : Bool) (hkv : s.store.kv = Store.fresh config hasReplica Pg.empty)
    (hkeys : s.store.keys.Coherent tenant.state dataService) :
    s.store.Sound tenant dataService K where
  wellFormed := by rw [hkv]; exact Store.fresh_wellFormed config hasReplica Pg.empty
  holds := by rw [hkv]; exact Store.holds_fresh config hasReplica
  coherent := hkeys

/-- Requests of which none has started yet. -/
theorem allSafe_start (h : Sendable tenant requests)
    (hs : s.store.Sound tenant dataService (sentContents tenant requests)) :
    (ApiPool.start tenant requests s).AllSafe
      (fun x c => c.Stores tenant.state (sentContents tenant requests) x)
      (fun c reply x => ApiReply.Tells tenant.state (sentContents tenant requests) x c reply)
      (fun u => u.store.Sound tenant dataService (sentContents tenant requests))
      (fun u => u.store.holders tenant dataService)
      (fun i answer x => (requests i).Answered tenant requests x answer) :=
  ⟨hs, fun i => safe_program h i _⟩

variable [DecidableEq ι]

/-- After any run the state is sound. -/
theorem ApiPool.sound_run (hcrypto : Cryptography tenant.state service dataService)
    (h : Sendable tenant requests)
    (hs : s.store.Sound tenant dataService (sentContents tenant requests))
    (turns : List (Turn ι ApiWeather)) :
    ((ApiPool.start tenant requests s).run tenant service dataService turns).store.store.Sound
      tenant dataService (sentContents tenant requests) :=
  (Pool.safe_run (sound_grows hcrypto) turns (allSafe_start h hs)).1.state

/-- A request that has ended was answered as it should be. -/
theorem ApiPool.answered_run (hcrypto : Cryptography tenant.state service dataService)
    (h : Sendable tenant requests)
    (hs : s.store.Sound tenant dataService (sentContents tenant requests))
    (turns : List (Turn ι ApiWeather)) {i : ι} {answer : ApiAnswer V}
    (hended : ((ApiPool.start tenant requests s).run tenant service dataService turns).threads i =
      .pure answer) :
    ∃ x, (requests i).Answered tenant requests x answer :=
  ⟨_, (Pool.safe_run (sound_grows hcrypto) turns (allSafe_start h hs)).1.ended hended⟩

/-- What is known of keys after some turns is known after more. -/
theorem ApiPool.holders_le_run (hcrypto : Cryptography tenant.state service dataService)
    (h : Sendable tenant requests)
    (hs : s.store.Sound tenant dataService (sentContents tenant requests))
    (turns turns' : List (Turn ι ApiWeather)) :
    ((ApiPool.start tenant requests s).run tenant service dataService turns).store.store.holders
        tenant dataService ≤
      ((ApiPool.start tenant requests s).run tenant service dataService
        (turns ++ turns')).store.store.holders tenant dataService := by
  have hrun := Pool.safe_run (sound_grows hcrypto) turns (allSafe_start h hs)
  unfold run
  rw [runActs_append]
  exact (Pool.safe_run (sound_grows hcrypto) turns' hrun.1).2

end Runs

end CardVault
