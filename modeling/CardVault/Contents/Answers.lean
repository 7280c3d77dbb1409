import CardVault.Api.Values
import CardVault.Contents.Requests

/-!
# What requests are answered, and what lies at rest

From empty tables and an empty Redis, with keys in order, and any requests side by side.

Main results:
* `retrieveCard_answers_sent`, `retrieveData_answers_sent`: a retrieve answers what was sent
  under its reference, or an error that is clean (`Fault.IsClean`).
* `fingerprint_answers_known`: a fingerprint id is one that a request of the same hash was
  given or made up.
* `sealedRow_opens`: what lies in Redis and Postgres decrypts to what was sent, for good.
-/

namespace CardVault

open Interaction Relational

/-! ## Data at rest -/

/-- The Redis key of a row with encrypted data, and the data. -/
def Row.sealedData : Row → Option (PartitionKey × Bytes)
  | .locker row => some (row.primaryKey.getPartitionKey, row.encData)
  | .vault row => some (row.primaryKey.getPartitionKey, row.encryptedData)
  | .fingerprint _ | .hashTable _ | .reverseLookup _ => none

/-- The row is in Redis or in Postgres. -/
def Store.Rests (s : Store) (row : Row) : Prop :=
  (∃ key field, s.redis key field = some row) ∨ ∃ key, s.pg.rowAt key = some row

/-- An answer with the property, or a clean error. -/
def IsCleanly {α : Type} (P : α → Prop) : Except (Fault ApiError) α → Prop
  | .ok a => P a
  | .error e => e.IsClean

/-- Decryption for a key holder, as in `retrieve_card` and `retrieve_data`. -/
def decryptFor (state : TenantState) (entityId : String) (data : Bytes) :
    ApiApp (Except (Fault ApiError) Bytes) :=
  (findKeyHolder state entityId).andThen fun manager => manager.decryptData state data

/-! ### Key holders that are known -/

section Known

variable {σ : Type} {state : TenantState} (service : KeyService σ) {dataService : DataService σ}
  {s : KeyStore σ}

/-- What the tables have is shown, unless the reads go to a replica. -/
theorem replica_of_hidden {ρ : Type} (find : KeyTables → Option ρ)
    (hfound : find s.tables ≠ none) (hhidden : find (s.shown s.routedPool) = none) :
    s.routedPool = .replica := by
  cases hpool : s.routedPool with
  | replica => rfl
  | primary =>
    rw [hpool] at hhidden
    exact absurd hhidden hfound

/-- The DEK of a merchant that is known is found, unless the reads go to a replica that does
    not show the merchant yet. -/
theorem findByMerchantId_of_known (h : s.Coherent state dataService) {merchantId : String}
    {key : Bytes} (hkey : key ∈ (s.holders state dataService).dek merchantId) :
    (∃ merchant s', (Caching.findByMerchantId (state.aead none) merchantId
        ⟨state.masterKey⟩).run (KeyStore.exec service) s = (.ok merchant, s')) ∨
      s.routedPool = .replica ∧ (Caching.findByMerchantId (state.aead none) merchantId
        ⟨state.masterKey⟩).run (KeyStore.exec service) s = (.error (.error .notFoundError), s) := by
  have hlookup : (lookupMerchant merchantId).run (KeyStore.exec service) s =
      (s.merchantCache merchantId, s) := rfl
  cases hcache : s.merchantCache merchantId with
  | some merchant => exact Or.inl ⟨merchant, s, run_cachedMerchant hcache⟩
  | none =>
    have hrun : (Caching.findByMerchantId (state.aead none) merchantId ⟨state.masterKey⟩).run
        (KeyStore.exec service) s =
          ((findByMerchantId (state.aead none) merchantId ⟨state.masterKey⟩).andThen fun merchant =>
            (cacheMerchant merchantId merchant).mapResult fun _ => .ok merchant).run
              (KeyStore.exec service) s := by
      refine (Prog.run_bind_of hlookup _).trans ?_
      rw [hcache]
    cases hrow : (s.shown s.routedPool).merchantRow merchantId with
    | some row =>
      obtain ⟨merchant, hmerchant, -⟩ := merchant_shown h (Table.mem_of_get hrow)
      have hselect : (findByMerchantId (state.aead none) merchantId ⟨state.masterKey⟩).run
          (KeyStore.exec service) s = (.ok merchant, s) := by
        refine (Prog.run_andThen_ok (a := s.routedPool) rfl _).trans
          ((Prog.run_andThen_ok (a := row) ?_ _).trans (congrArg (·, s) hmerchant))
        exact congrArg (fun found => ((oneRow found).mapError _, s)) hrow
      exact Or.inl ⟨merchant, _, hrun.trans (Prog.run_andThen_ok hselect _)⟩
    | none =>
      have hfound : s.tables.merchantRow merchantId ≠ none := by
        intro hnone
        change key ∈ Part.ofOption _ at hkey
        rw [Part.mem_ofOption, hnone] at hkey
        cases hkey
      have hselect : (findByMerchantId (state.aead none) merchantId ⟨state.masterKey⟩).run
          (KeyStore.exec service) s = (.error (.error .notFoundError), s) := by
        refine (Prog.run_andThen_ok (a := s.routedPool) rfl _).trans
          (Prog.run_andThen_error ?_ _)
        exact congrArg (fun found => ((oneRow found).mapError _, s)) hrow
      exact Or.inr ⟨replica_of_hidden (·.merchantRow merchantId) hfound hrow,
        hrun.trans (Prog.run_andThen_error hselect _)⟩

/-- The same of the key identifier of an entity. -/
theorem findByEntityId_of_known {entityId : String} {identifier : String}
    (hid : identifier ∈ (s.holders state dataService).identifier entityId) :
    (∃ entity s', (Caching.findByEntityId entityId).run (KeyStore.exec service) s =
        (.ok entity, s')) ∨
      s.routedPool = .replica ∧ (Caching.findByEntityId entityId).run (KeyStore.exec service) s =
        (.error .notFoundError, s) := by
  have hlookup : (lookupEntity entityId).run (KeyStore.exec service) s =
      (s.entityCache entityId, s) := rfl
  cases hcache : s.entityCache entityId with
  | some entity => exact Or.inl ⟨entity, s, run_cachedEntity hcache⟩
  | none =>
    have hrun : (Caching.findByEntityId entityId).run (KeyStore.exec service) s =
        ((findByEntityId entityId).andThen fun output =>
          (cacheEntity output.entityId output).mapResult fun _ => .ok output).run
            (KeyStore.exec service) s := by
      refine (Prog.run_bind_of hlookup _).trans ?_
      rw [hcache]
    have hselect : ∀ found, (s.shown s.routedPool).entityRow entityId = found →
        (findByEntityId entityId).run (KeyStore.exec service) s =
          ((oneRow found).mapError DieselError.toEntityDBError, s) := fun found hrow =>
      (Prog.run_andThen_ok (a := s.routedPool) rfl _).trans
        (congrArg (fun found => ((oneRow found).mapError _, s)) hrow)
    cases hrow : (s.shown s.routedPool).entityRow entityId with
    | some row =>
      exact Or.inl ⟨row, _, hrun.trans (Prog.run_andThen_ok (hselect _ hrow) _)⟩
    | none =>
      have hfound : s.tables.entityRow entityId ≠ none := by
        intro hnone
        change identifier ∈ Part.ofOption _ at hid
        rw [Part.mem_ofOption, hnone] at hid
        cases hid
      exact Or.inr ⟨replica_of_hidden (·.entityRow entityId) hfound hrow,
        hrun.trans (Prog.run_andThen_error (hselect _ hrow) _)⟩

variable {t : ApiState σ}

/-- A key holder that is known is handed out, unless the reads go to a replica that does not
    show it yet. -/
theorem findKeyHolder_of_known (h : t.keys.Coherent state dataService) {entityId : String}
    {manager : CryptoOperationsManager}
    (hmanager : manager.Of state (t.keys.holders state dataService) entityId) :
    (∃ manager t', (findKeyHolder state entityId).run (ApiState.exec service dataService) t =
        (.ok manager, t')) ∨
      t.keys.routedPool = .replica ∧
        (findKeyHolder state entityId).run (ApiState.exec service dataService) t =
          (.error (.error .notFoundError), t) := by
  unfold findKeyHolder
  cases manager with
  | internal dek =>
    obtain ⟨hmode, hkey⟩ := hmanager
    rw [hmode, if_neg Bool.false_ne_true]
    unfold internalFindByEntityId
    rcases findByMerchantId_of_known service h hkey with ⟨merchant, s', hrun⟩ | ⟨hpool, hrun⟩
    · refine Or.inl ⟨internalManager merchant, { t with keys := s' },
        Prog.run_andThen_ok (run_orApiFault_ok ?_) _⟩
      rw [run_liftKey, hrun]
    · refine Or.inr ⟨hpool, Prog.run_andThen_error (run_orApiFault_error
        (e := MerchantDBError.notFoundError) ?_) _⟩
      rw [run_liftKey, hrun]
  | external entity =>
    obtain ⟨hmode, hid⟩ := hmanager
    rw [hmode, if_pos rfl]
    unfold externalFindByEntityId
    rcases findByEntityId_of_known service hid with ⟨entity, s', hrun⟩ | ⟨hpool, hrun⟩
    · refine Or.inl ⟨.external entity, { t with keys := s' },
        Prog.run_andThen_ok (run_orApiError_ok ?_) _⟩
      rw [run_liftKey, hrun]
    · refine Or.inr ⟨hpool, Prog.run_andThen_error (run_orApiError_error
        (e := EntityDBError.notFoundError) ?_) _⟩
      rw [run_liftKey, hrun]

end Known

section Opens

variable {V σ : Type}

/-- Decrypting the data for the key holder answers the plaintext, when no call fails; a replica
    that does not show the key holder yet answers that it is not found. -/
def ApiState.Decrypts (tenant : ApiTenant V) (service : KeyService σ)
    (dataService : DataService σ) (s : ApiState σ) (entityId : String) (data plain : Bytes) :
    Prop :=
  let reply :=
    ((decryptFor tenant.state entityId data).run (ApiState.exec service dataService) s).1
  reply = .ok plain ∨ s.keys.routedPool = .replica ∧ reply = .error (.error .notFoundError)

variable {tenant : ApiTenant V} {service : KeyService σ} {dataService : DataService σ}
  {K : Contents KeyHolders} {s : ApiState σ} {entityId : String} {data plain : Bytes}

theorem isCleanly_of_cleanly {α : Type} {P : α → Prop} {reply : Except (Fault ApiError) α}
    {x : KeyHolders} (h : Cleanly (fun a _ => P a) reply x) : IsCleanly P reply := by
  cases reply with
  | ok a => exact h
  | error e => exact h

/-- Data that opens is decrypted. -/
theorem run_decryptData_of_opens {manager : CryptoOperationsManager}
    (h : manager.Opens tenant.state (s.holders tenant dataService) data plain) :
    (manager.decryptData tenant.state data).run (ApiState.exec service dataService) s =
      (.ok plain, s) := by
  cases manager with
  | internal dek =>
    have hopens : dek.decrypt tenant.state.openWithin data = .ok plain := h
    exact run_orApiFault_ok (congrArg (·, s) hopens)
  | external entity =>
    have hopens := (mem_opened_iff tenant.state).1 h
    exact run_orApiError_ok (congrArg (·, s) hopens)

theorem ApiState.Sound.decrypts (h : s.Sound tenant dataService K)
    (hcrypto : Cryptography tenant.state service dataService)
    (hdata : OpensFor tenant.state (s.holders tenant dataService) entityId data plain) :
    s.Decrypts tenant service dataService entityId data plain := by
  have hgrows : Pool.Grows (ApiState.exec service dataService)
      (ApiState.envStep tenant.state.db) (fun x c => c.Stores tenant.state K x)
      (fun c reply x => ApiReply.Tells tenant.state K x c reply)
      (fun u => u.Sound tenant dataService K) (fun u => u.holders tenant dataService) :=
    ⟨fun _ _ h hc => h.exec hcrypto hc, fun _ e h => h.envStep e⟩
  have hknown := hdata
  obtain ⟨known, hknown, -⟩ := hknown
  rcases findKeyHolder_of_known service h.coherent hknown with
    ⟨manager, t, hfound⟩ | ⟨hpool, hfound⟩
  · -- the key holder that is found is the one that the data was encrypted for
    have hsafe : KeepsApi tenant.state K ((findKeyHolder tenant.state entityId).bind Prog.pure)
        (fun reply y => Cleanly (fun manager y => manager.Of tenant.state y entityId) reply y ∧
          OpensFor tenant.state y entityId data plain) (s.holders tenant dataService) :=
      Prog.Safe.bind keepsApi_findKeyHolder.lasting fun reply y hxy hreply z hyz =>
        ⟨hreply z hyz, hdata.mono (hxy.trans hyz)⟩
    rw [Prog.bind_pure] at hsafe
    have hmanager := (hgrows.run h hsafe).2
    rw [hfound] at hmanager
    obtain ⟨hof, hopens⟩ := hmanager
    refine Or.inl (congrArg Prod.fst ((Prog.run_andThen_ok hfound _).trans
      (run_decryptData_of_opens (hopens.opens hof))))
  · exact Or.inr ⟨hpool, congrArg Prod.fst (Prog.run_andThen_error hfound _)⟩

/-- What lies in a sound store is allowed. -/
theorem ApiState.Sound.data_of_rests (h : s.Sound tenant dataService K) {row : Row}
    {pk : PartitionKey} (hrow : s.kv.Rests row) (hsealed : row.sealedData = some (pk, data)) :
    K.data (s.holders tenant dataService) pk.display data := by
  have hof : K.Of (s.holders tenant dataService) row := by
    rcases hrow with ⟨key, field, hredis⟩ | ⟨key, hpg⟩
    · exact h.holds.redis key field row hredis
    · exact h.holds.pg key row hpg
  cases row with
  | locker row =>
    cases hsealed
    exact hof
  | vault row =>
    cases hsealed
    exact hof
  | _ => cases hsealed

end Opens

/-! ## Runs -/

section Runs

variable {V σ ι : Type} [DecidableEq ι] {tenant : ApiTenant V} {service : KeyService σ}
  {dataService : DataService σ} {requests : ι → ApiRequest V} {s : ApiStore σ}
  {config : Option RuntimeConfigValues} {hasReplica : Bool}

/-- A retrieve that has ended answered a card that was sent under its reference, or a clean
    error, whatever ran beside it and whatever failed. The ids of the retrieve have no `_`. -/
theorem retrieveCard_answers_sent (hcrypto : Cryptography tenant.state service dataService)
    (h : Sendable tenant requests) (hkv : s.store.kv = Store.fresh config hasReplica Pg.empty)
    (hkeys : s.store.keys.Coherent tenant.state dataService)
    (turns : List (Turn ι ApiWeather)) {i : ι} {request : RetrieveCardRequest}
    {reply : Except (Fault ApiError) RetrieveCardRespPayload}
    (hrequest : requests i = .retrieveCard request)
    (hplain : (⟨request.cardReference, request.merchantId, request.merchantCustomerId⟩ :
      LockerPrimaryKeyType).IsPlain)
    (hended : ((ApiPool.start tenant requests s).run tenant service dataService turns).threads i =
      .pure (.retrieveCard reply)) :
    IsCleanly (SentCard requests request) reply := by
  obtain ⟨x, hanswered⟩ := ApiPool.answered_run hcrypto h (sound_fresh config hasReplica hkv hkeys)
    turns hended
  rw [hrequest] at hanswered
  exact isCleanly_of_cleanly (hanswered hplain)

/-- The same of `retrieve_data`. -/
theorem retrieveData_answers_sent (hcrypto : Cryptography tenant.state service dataService)
    (h : Sendable tenant requests) (hkv : s.store.kv = Store.fresh config hasReplica Pg.empty)
    (hkeys : s.store.keys.Coherent tenant.state dataService)
    (turns : List (Turn ι ApiWeather)) {i : ι} {request : RetrieveDataRequest}
    {reply : Except (Fault ApiError) (RetrieveDataResponse V)}
    (hrequest : requests i = .retrieveData request)
    (hplain : (⟨request.entityId, request.vaultId⟩ : VaultPrimaryKey).IsPlain)
    (hended : ((ApiPool.start tenant requests s).run tenant service dataService turns).threads i =
      .pure (.retrieveData reply)) :
    IsCleanly (SentData tenant requests request) reply := by
  obtain ⟨x, hanswered⟩ := ApiPool.answered_run hcrypto h (sound_fresh config hasReplica hkv hkeys)
    turns hended
  rw [hrequest] at hanswered
  exact isCleanly_of_cleanly (hanswered hplain)

/-- A fingerprint request answers an id that a request of the same hash was given or made
    up. -/
theorem fingerprint_answers_known (hcrypto : Cryptography tenant.state service dataService)
    (h : Sendable tenant requests) (hkv : s.store.kv = Store.fresh config hasReplica Pg.empty)
    (hkeys : s.store.keys.Coherent tenant.state dataService)
    (turns : List (Turn ι ApiWeather)) {i : ι} {drawn : Drawn} {header : Option String}
    {request : FingerprintRequest} {response : FingerprintResponse}
    (hrequest : requests i = .fingerprint drawn header request)
    (hended : ((ApiPool.start tenant requests s).run tenant service dataService turns).threads i =
      .pure (.fingerprint (.ok response))) :
    ∃ j drawn' header' request' given, requests j = .fingerprint drawn' header' request' ∧
      request'.hash tenant.sign = request.hash tenant.sign ∧
      optionalFingerprintId header' = .ok given ∧
      response.fingerprintId = (given.map FingerprintId.val).getD drawn'.nanoId := by
  obtain ⟨x, hanswered⟩ := ApiPool.answered_run hcrypto h (sound_fresh config hasReplica hkv hkeys)
    turns hended
  rw [hrequest] at hanswered
  obtain ⟨j, hj⟩ := hanswered response rfl
  cases hrequest' : requests j with
  | fingerprint drawn' header' request' =>
    rw [hrequest'] at hj
    dsimp only [ApiRequest.identified] at hj
    cases hgiven : optionalFingerprintId header' with
    | error e =>
      rw [hgiven] at hj
      cases hj
    | ok given =>
      rw [hgiven] at hj
      obtain ⟨hhash, hid⟩ := Prod.ext_iff.1 (Option.some.inj hj)
      exact ⟨j, drawn', header', request', given, hrequest', hhash, hgiven, hid.symm⟩
  | _ =>
    rw [hrequest'] at hj
    cases hj

/-- What lies in Redis and Postgres in a reachable state was sent by a request under that
    key, and decrypts to what it sent, then and in every later state. -/
theorem sealedRow_opens (hcrypto : Cryptography tenant.state service dataService)
    (h : Sendable tenant requests) (hkv : s.store.kv = Store.fresh config hasReplica Pg.empty)
    (hkeys : s.store.keys.Coherent tenant.state dataService)
    (turns turns' : List (Turn ι ApiWeather)) {row : Row} {pk : PartitionKey} {data : Bytes}
    (hrow : ((ApiPool.start tenant requests s).run tenant service dataService
      turns).store.store.kv.Rests row)
    (hsealed : row.sealedData = some (pk, data)) :
    ∃ i pk' entityId plain, (requests i).sent tenant = some (pk', entityId, plain) ∧
      pk'.display = pk.display ∧
      ((ApiPool.start tenant requests s).run tenant service dataService
        (turns ++ turns')).store.store.Decrypts tenant service dataService entityId data plain := by
  have hfresh := sound_fresh (K := sentContents tenant requests) config hasReplica hkv hkeys
  obtain ⟨i, pk', entityId, plain, hsent, hkey, hopens⟩ :=
    (ApiPool.sound_run hcrypto h hfresh turns).data_of_rests hrow hsealed
  refine ⟨i, pk', entityId, plain, hsent, hkey,
    (ApiPool.sound_run hcrypto h hfresh (turns ++ turns')).decrypts hcrypto ?_⟩
  exact hopens.mono (ApiPool.holders_le_run hcrypto h hfresh turns turns')

end Runs

/-! ## A run -/

section Run

/-- `ring::hmac::sign` of one message, and of its signature. -/
def sampleSign (key message : Bytes) : Bytes :=
  let once := (hexDecode (
    "bcb802a72b881de212196a1f98ab40aca28ad773ddc3d19f0c05e671f05e2bbec4a1127b16a76f349474c962" ++
    "ac4877367e1960a82ad5a5335ac15e5c38675e61")).getD []
  let twice := (hexDecode (
    "429a5b0bf63b58f93ed0383ce59a5ee354b813b242ffcdd6196529aa3d816a9b35a4ec6dcf8a003246d6fc0c" ++
    "492c0cb7affb65cb1b6ea01e39e6cbb6ec193661")).getD []
  if key = "key".toUTF8.data.toList then
    if message = "card number".toUTF8.data.toList then once
    else if message = once then twice
    else message
  else message

/-- A tenant with the external key manager, whose values are booleans. -/
noncomputable def boolTenant : ApiTenant Bool where
  state := sampleTenant
  encoding := sampleEncoding
  values := boolEncoding
  sign := sampleSign

/-- A card, a value and a fingerprint. -/
def sampleRequests : Fin 5 → ApiRequest Bool
  | 0 => .addCard (sampleDrawn "first") (sampleAdd "old")
  | 1 => .retrieveCard ⟨"merchant", "customer", "card"⟩
  | 2 => .addData (sampleDrawn "second") ⟨"entity", "value", true, none⟩ (some .upsert)
  | 3 => .retrieveData ⟨"entity", "value"⟩
  | 4 => .fingerprint (sampleDrawn "third") none ⟨"card number", "key"⟩

/-- Nothing is stored yet, and the KV mode is on. -/
def enabledStore : ApiStore Unit where
  store := { noCardAdded with kv := Store.fresh (some ⟨.enabled, false⟩) false Pg.empty }
  delivery _ := .answered

theorem cryptography_sampleTenant :
    Cryptography boolTenant.state sampleKeyService sampleDataService where
  ring _ _ _ _ h := by cases h
  opened _ _ _ _ h := decrypt_of_encrypt_sample h
  create _ h := h
  transfer _ h := h

theorem sendable_sampleRequests : Sendable boolTenant sampleRequests where
  ring _ _ _ _ h := by cases h
  sized i := match i with
    | 0 | 2 => ⟨fun _ h => (by cases h), fun _ h => (by cases h)⟩
    | 1 | 3 | 4 => trivial
  roundTrips := sampleEncoding_roundTrips
  reads value := ⟨value, by cases value <;> decide +kernel⟩

theorem coherent_enabledStore :
    enabledStore.store.keys.Coherent boolTenant.state sampleDataService where
  opens _ h := by cases h
  replica := ⟨fun _ h => h, fun _ h => h⟩
  merchantCache _ _ h := by cases h
  entityCache _ _ h := by cases h

/-- The requests one after the other. -/
def sampleTurns : List (Turn (Fin 5) ApiWeather) :=
  List.replicate 60 (.thread 0) ++ List.replicate 40 (.thread 2) ++ List.replicate 40 (.thread 4) ++
    List.replicate 60 (.thread 1) ++ List.replicate 60 (.thread 3)

theorem sampleRun_retrieves_card :
    IsCleanly (SentCard sampleRequests ⟨"merchant", "customer", "card"⟩)
      (.ok (sampleAdd "old").data.toStored.toPayload) :=
  retrieveCard_answers_sent cryptography_sampleTenant sendable_sampleRequests rfl
    coherent_enabledStore sampleTurns (i := 1) rfl (by decide +kernel)
    (Prog.eq_pure_of_result (by decide +kernel))

theorem sampleRun_retrieves_value :
    IsCleanly (SentData boolTenant sampleRequests ⟨"entity", "value"⟩) (.ok ⟨true⟩) :=
  retrieveData_answers_sent cryptography_sampleTenant sendable_sampleRequests rfl
    coherent_enabledStore sampleTurns (i := 3) rfl (by decide +kernel)
    (Prog.eq_pure_of_result (by decide +kernel))

theorem sampleRun_answers_fingerprint :
    ∃ j drawn header request given, sampleRequests j = .fingerprint drawn header request ∧
      request.hash boolTenant.sign =
        (⟨"card number", "key"⟩ : FingerprintRequest).hash boolTenant.sign ∧
      optionalFingerprintId header = .ok given ∧
      "third" = (given.map FingerprintId.val).getD drawn.nanoId :=
  fingerprint_answers_known cryptography_sampleTenant sendable_sampleRequests rfl
    coherent_enabledStore sampleTurns (i := 4) rfl
    (Prog.eq_pure_of_result (a := ApiAnswer.fingerprint (.ok ⟨"third"⟩)) (by decide +kernel))

/-- The row of the value in Redis. -/
def valueRow : VaultInner where
  id := 0
  entityId := "entity"
  vaultId := "value"
  encryptedData := "key second".toUTF8.data.toList ++ boolEncoding.toVec true
  createdAt := ⟨0⟩
  updatedBy := some .redisKv
  expiresAt := none

theorem sampleRun_opens_value :
    ∃ i pk entityId plain, (sampleRequests i).sent boolTenant = some (pk, entityId, plain) ∧
      pk.display = valueRow.primaryKey.getPartitionKey.display ∧
      ((ApiPool.start boolTenant sampleRequests enabledStore).run boolTenant sampleKeyService
        sampleDataService (sampleTurns ++ sampleTurns)).store.store.Decrypts boolTenant
          sampleKeyService sampleDataService entityId valueRow.encryptedData plain :=
  sealedRow_opens cryptography_sampleTenant sendable_sampleRequests rfl coherent_enabledStore
    sampleTurns sampleTurns (show Store.Rests _ (.vault valueRow) from
      .inl ⟨"vault_entity_value", "vault_entity_value", by decide +kernel⟩) rfl

end Run

end CardVault
