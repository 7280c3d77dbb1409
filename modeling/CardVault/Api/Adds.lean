import CardVault.Api.KeyHolders
import CardVault.Api.Lockers

/-!
# What add and retrieve do

`add_card` and `retrieve_card`, each run with nothing in between, step by step: an add
that answers without a duplication check has gone through `get_or_insert`, and a
retrieve answers the data of the row that is visible.

Main results:
* `addCard_inserted`: an add without a duplication check.
* `retrieveCard_ok_iff`: when a retrieve answers given data.
-/

namespace CardVault

open Interaction

variable {σ : Type} {service : KeyService σ} {dataService : DataService σ}
  {s s' : ApiState σ} {state : TenantState} {drawn : Drawn} {encoding : Encoding}

/-! ## Storage calls of a handler -/

theorem run_liftKv_eq {α : Type} {p : App α} {a : α}
    (h : (liftKv p).run (ApiState.exec service dataService) s = (a, s')) :
    p.run Store.exec s.kv = (a, s'.kv) ∧ s' = { s with kv := s'.kv } := by
  rw [run_liftKv] at h
  cases h
  exact ⟨rfl, rfl⟩

/-! ## Key calls and the storage -/

/-- A program that makes key calls only. -/
abbrev KeyCalls {α : Type} (p : ApiApp α) : Prop := p.Issues fun c => ∃ key, c = ApiCmd.key key

theorem keyCalls_liftKey {α : Type} (p : KeyApp α) : KeyCalls (liftKey p) := by
  induction p with
  | pure a => trivial
  | call c k ih => exact ⟨⟨c, rfl⟩, fun r _ => ih r⟩

theorem keyCalls_findOrCreateKeyHolder (state : TenantState) (drawn : Drawn)
    (entityId : String) : KeyCalls (findOrCreateKeyHolder state drawn entityId) := by
  unfold findOrCreateKeyHolder
  split_ifs
  · exact Prog.Issues.andThen (Prog.Issues.mapResult (keyCalls_liftKey _)) fun _ => trivial
  · refine Prog.Issues.bind (keyCalls_liftKey _) fun reply => ?_
    cases reply with
    | ok merchant => trivial
    | error err =>
      dsimp only
      split_ifs
      · exact Prog.Issues.andThen (Prog.Issues.mapResult (keyCalls_liftKey _)) fun _ => trivial
      · trivial

/-- Key calls do not see the storage. -/
theorem run_keyCalls {α : Type} {p : ApiApp α} (h : KeyCalls p) (s : ApiState σ) (kv : Store) :
    p.run (ApiState.exec service dataService) { s with kv } =
      ((p.run (ApiState.exec service dataService) s).1,
        { (p.run (ApiState.exec service dataService) s).2 with kv }) := by
  refine Prog.Meets.run_lift (f := fun t : ApiState σ => { t with kv }) ?_ h s
  rintro t c ⟨key, rfl⟩
  rfl

/-! ## Crypto operations -/

/-- What is encrypted is decrypted to what it was: by the cryptography, which draws
    nonces of `NONCE_LEN` bytes, and by the external key manager. -/
structure Decrypts (state : TenantState) (drawn : Drawn) (dataService : DataService σ) :
    Prop where
  openWithin : ∀ key nonce data output, state.sealInPlace key nonce data = some output →
    state.openWithin key nonce output = some data
  nonce : ∀ nonce, drawn.dataNonce = some nonce → nonce.length = nonceLen
  service : ∀ x identifier data encrypted, dataService.encrypt x identifier data = .ok encrypted →
    dataService.decrypt x identifier encrypted = .ok data

variable {manager : CryptoOperationsManager}

/-- Decrypting changes nothing, and what it answers depends on the key holders only. -/
theorem run_decryptData (t u : ApiState σ) (h : t.keys = u.keys) (data : Bytes) :
    (manager.decryptData state data).run (ApiState.exec service dataService) t =
      (((manager.decryptData state data).run (ApiState.exec service dataService) u).1, t) := by
  cases manager with
  | internal dek => rfl
  | external entity =>
    have hanswer : (ApiState.exec service dataService t (.decryptData entity.encKeyId data)).1 =
        (ApiState.exec service dataService u (.decryptData entity.encKeyId data)).1 :=
      congrArg (fun keys : KeyStore σ => dataService.decrypt keys.service entity.encKeyId data) h
    refine Prod.ext ?_ rfl
    exact congrArg (Except.mapError fun e => Fault.error (KeyManagerError.toApiError e)) hanswer

/-- What a key encrypts it decrypts. -/
theorem GcmAes256.decrypt_encrypt {dek : GcmAes256} {data encrypted : Bytes}
    (hdecrypts : Decrypts state drawn dataService)
    (h : dek.encrypt state.sealInPlace drawn.dataNonce data = .ok encrypted) :
    dek.decrypt state.openWithin encrypted = .ok data := by
  unfold GcmAes256.encrypt at h
  cases hnonce : drawn.dataNonce with
  | none =>
    rw [hnonce] at h
    cases h
  | some nonce =>
    rw [hnonce] at h
    dsimp only at h
    split_ifs at h with hkey
    cases hseal : state.sealInPlace dek.secret nonce data with
    | none =>
      rw [hseal] at h
      cases h
    | some output =>
      rw [hseal] at h
      cases h
      have hlen : nonce.length = nonceLen := hdecrypts.nonce nonce hnonce
      have hopen := hdecrypts.openWithin _ _ _ _ hseal
      have htake : (nonce ++ output).take nonceLen = nonce := by
        rw [← hlen, List.take_left]
      have hdrop : (nonce ++ output).drop nonceLen = output := by
        rw [← hlen, List.drop_left]
      have hlong : nonceLen ≤ (nonce ++ output).length := by
        rw [List.length_append]
        omega
      unfold GcmAes256.decrypt
      rw [if_pos hkey, if_pos hlong, htake, hdrop, hopen]

/-- What a key holder encrypts it decrypts, as long as the key holders stay as they are. -/
theorem encryptData_ok {data encrypted : Bytes} (hdecrypts : Decrypts state drawn dataService)
    (h : (manager.encryptData state drawn data).run (ApiState.exec service dataService) s =
      (.ok encrypted, s')) :
    s' = s ∧ ((manager.decryptData state encrypted).run
      (ApiState.exec service dataService) s).1 = .ok data := by
  cases manager with
  | internal dek =>
    have hencrypt : dek.encrypt state.sealInPlace drawn.dataNonce data = .ok encrypted := by
      have hanswer := congrArg Prod.fst h
      cases he : dek.encrypt state.sealInPlace drawn.dataNonce data with
      | ok output =>
        change (Except.mapError _ (dek.encrypt _ _ _)) = _ at hanswer
        rw [he] at hanswer
        exact congrArg Except.ok (Except.ok.inj hanswer)
      | error e =>
        change (Except.mapError _ (dek.encrypt _ _ _)) = _ at hanswer
        rw [he] at hanswer
        cases hanswer
    have hdecrypt := GcmAes256.decrypt_encrypt hdecrypts hencrypt
    refine ⟨(congrArg Prod.snd h).symm, ?_⟩
    have hrun : (Prog.pure (dek.decrypt state.openWithin encrypted) :
        ApiApp (Except (Fault CryptoError) Bytes)).run (ApiState.exec service dataService) s =
          (.ok data, s) := congrArg (·, s) hdecrypt
    exact congrArg Prod.fst (run_orApiFault_ok hrun)
  | external entity =>
    have hrun := run_orApiError_eq_ok h
    have hencrypt : dataService.encrypt s.keys.service entity.encKeyId data = .ok encrypted :=
      congrArg Prod.fst hrun
    refine ⟨(congrArg Prod.snd hrun).symm, ?_⟩
    have hdecrypt := hdecrypts.service _ _ _ _ hencrypt
    exact congrArg (Except.mapError fun e => Fault.error (KeyManagerError.toApiError e)) hdecrypt

/-! ## Adding a card -/

variable {request : StoreCardRequest} {response : StoreCardRespPayload}

/-- The data is encrypted, and `get_or_insert` answers a locker. -/
theorem addCardInserted_ok {hashId : String} (hdecrypts : Decrypts state drawn dataService)
    (h : (addCardInserted state drawn encoding manager request hashId).run
      (ApiState.exec service dataService) s = (.ok response, s')) :
    ∃ encrypted locker,
      ((manager.decryptData state encrypted).run (ApiState.exec service dataService) s).1 =
        .ok (encoding.toVec request.data.toStored) ∧
      (getOrInsertLocker state.db (newLocker drawn s.now request hashId encrypted)).run
        Store.exec s.kv = (.ok locker, s'.kv) ∧
      response = storeCardResponse none locker ∧ s' = { s with kv := s'.kv } := by
  obtain ⟨locker, t, hinsert, hpure⟩ := Prog.run_andThen_eq_ok h
  obtain ⟨encrypted, u, hencrypt, hnow⟩ := Prog.run_andThen_eq_ok hinsert
  obtain ⟨rfl, hdecrypt⟩ := encryptData_ok hdecrypts hencrypt
  have hread : (dateTimeNow : ApiApp _).run (ApiState.exec service dataService) u = (u.now, u) :=
    rfl
  rw [Prog.run_bind_of hread] at hnow
  obtain ⟨hrun, hframe⟩ := run_liftKv_eq (run_orApiError_eq_ok hnow)
  cases hpure
  exact ⟨encrypted, locker, hdecrypt, hrun, rfl, hframe⟩

/-- A locker found by the hash of the data is reported as a duplicate. -/
theorem addCardFound_ok {locker : Locker}
    (h : (addCardFound state encoding manager request locker).run
      (ApiState.exec service dataService) s = (.ok response, s')) :
    response.duplicationCheck ≠ none := by
  obtain ⟨decrypted, t, -, h⟩ := Prog.run_andThen_eq_ok h
  obtain ⟨check, u, -, h⟩ := Prog.run_andThen_eq_ok h
  cases h
  exact Option.some_ne_none check

/-- An add without a duplication check comes to the insert, with a key holder at hand
    and the lockers it started with. -/
theorem addCard_unduplicated
    (h : (addCard state drawn encoding request).run (ApiState.exec service dataService) s =
      (.ok response, s')) (hnone : response.duplicationCheck = none) :
    ∃ manager t hashId kv, (findOrCreateKeyHolder state drawn request.merchantId).run
        (ApiState.exec service dataService) s = (.ok manager, t) ∧ SameLockers s.kv kv ∧
      (addCardInserted state drawn encoding manager request hashId).run
        (ApiState.exec service dataService) { t with kv } = (.ok response, s') := by
  obtain ⟨_, s₀, hvalid, h⟩ := Prog.run_andThen_eq_ok h
  obtain rfl : s = s₀ := congrArg Prod.snd hvalid
  obtain ⟨found, s₁, hfind, h⟩ := Prog.run_andThen_eq_ok h
  obtain ⟨hfind, hs₁⟩ := run_liftKv_eq (run_orApiError_eq_ok hfind)
  have hsame₁ : SameLockers s.kv s₁.kv := by
    have hspared := SparesLockers.findOptionalByDataHash state.db
      (getHash encoding request.data) s.kv
    rwa [hfind] at hspared
  obtain ⟨manager, s₂, hkey, h⟩ := Prog.run_andThen_eq_ok h
  rw [hs₁, run_keyCalls (keyCalls_findOrCreateKeyHolder ..)] at hkey
  generalize hholder : (findOrCreateKeyHolder state drawn request.merchantId).run
    (ApiState.exec service dataService) s = holder at hkey
  obtain ⟨answer, t⟩ := holder
  cases hkey
  cases found with
  | some hashTable =>
    obtain ⟨stored, s₃, hfind', h⟩ := Prog.run_andThen_eq_ok h
    obtain ⟨hfind', hs₃⟩ := run_liftKv_eq (run_orApiError_eq_ok hfind')
    have hread : s₃.kv = s₁.kv := by
      have hstore := run_reads (reads_findOptionalByHash state.db hashTable.hashId
        request.merchantId request.merchantCustomerId) s₁.kv
      rwa [hfind'] at hstore
    cases stored with
    | some locker => exact absurd hnone (addCardFound_ok h)
    | none =>
      rw [hs₃, hread] at h
      exact ⟨manager, t, hashTable.hashId, s₁.kv, rfl, hsame₁, h⟩
  | none =>
    obtain ⟨hashTable, s₃, hhash, h⟩ := Prog.run_andThen_eq_ok h
    obtain ⟨hhash, hs₃⟩ := run_liftKv_eq (run_orApiError_eq_ok hhash)
    have hsame₃ : SameLockers s₁.kv s₃.kv := by
      have hspared := SparesLockers.insertOrGetHash state.db drawn.hashUuid t.now
        (getHash encoding request.data) s₁.kv
      have hstore : s₃.kv = ((CardVault.insertOrGetHash state.db drawn.hashUuid t.now
        (getHash encoding request.data)).run Store.exec s₁.kv).2 := (congrArg Prod.snd hhash).symm
      rwa [← hstore] at hspared
    rw [hs₃] at h
    exact ⟨manager, t, hashTable.hashId, s₃.kv, rfl, hsame₁.trans hsame₃, h⟩

/-- Such an add has encrypted the data, and `get_or_insert` has answered a locker. -/
theorem addCard_inserted (hdecrypts : Decrypts state drawn dataService)
    (h : (addCard state drawn encoding request).run (ApiState.exec service dataService) s =
      (.ok response, s')) (hnone : response.duplicationCheck = none) :
    ∃ manager t hashId encrypted locker kv,
      (findOrCreateKeyHolder state drawn request.merchantId).run
        (ApiState.exec service dataService) s = (.ok manager, t) ∧
      s'.keys = t.keys ∧ s'.now = s.now ∧
      ((manager.decryptData state encrypted).run (ApiState.exec service dataService) t).1 =
        .ok (encoding.toVec request.data.toStored) ∧ SameLockers s.kv kv ∧
      (getOrInsertLocker state.db (newLocker drawn s.now request hashId encrypted)).run
        Store.exec kv = (.ok locker, s'.kv) ∧ response.cardReference = locker.lockerId := by
  obtain ⟨manager, t, hashId, kv, hkey, hsame, hrun⟩ := addCard_unduplicated h hnone
  obtain ⟨encrypted, locker, hdecrypt, hget, hresponse, hafter⟩ := addCardInserted_ok hdecrypts hrun
  have hframe := (findKeyHolder_of_findOrCreate hkey).1
  have hopened : (manager.decryptData state encrypted).run (ApiState.exec service dataService)
      { t with kv } = (((manager.decryptData state encrypted).run
        (ApiState.exec service dataService) t).1, { t with kv }) :=
    run_decryptData { t with kv } t rfl encrypted
  have htime : ({ t with kv } : ApiState σ).now = s.now := by rw [hframe]
  have hanswered : response.cardReference = locker.lockerId := by
    rw [hresponse]
    rfl
  rw [hopened] at hdecrypt
  rw [htime] at hget
  exact ⟨manager, t, hashId, encrypted, locker, kv, hkey, by rw [hafter], by rw [hafter, hframe],
    hdecrypt, hsame, hget, hanswered⟩

/-! ## Retrieving a card -/

/-- The expiry has not passed. -/
def Unexpired (expiry : Option PrimitiveDateTime) (now : PrimitiveDateTime) : Prop :=
  ∀ time, expiry = some time → now.nanos ≤ time.nanos

variable {ttl : Option PrimitiveDateTime} {task : TtlDeletion}

theorem run_checkTtl_ok (h : Unexpired ttl s.now) :
    (checkTtl ttl task).run (ApiState.exec service dataService) s = (.ok (), s) := by
  cases ttl with
  | none => rfl
  | some time =>
    have hlive : ¬ time.nanos < s.now.nanos := by
      have hle := h time rfl
      omega
    have hread : (dateTimeNow : ApiApp _).run (ApiState.exec service dataService) s = (s.now, s) :=
      rfl
    unfold checkTtl
    rw [Prog.run_bind_of hread, if_neg hlive]
    rfl

theorem checkTtl_ok (h : (checkTtl ttl task).run (ApiState.exec service dataService) s =
    (.ok (), s')) : Unexpired ttl s.now := by
  rintro time rfl
  have hread : (dateTimeNow : ApiApp _).run (ApiState.exec service dataService) s = (s.now, s) :=
    rfl
  unfold checkTtl at h
  rw [Prog.run_bind_of hread] at h
  by_contra hlt
  rw [if_pos (by omega)] at h
  cases congrArg Prod.fst h

/-- The data of a row can be read by a key holder, and its `ttl` has not passed. -/
structure Retrieves (service : KeyService σ) (dataService : DataService σ)
    (state : TenantState) (encoding : Encoding) (manager : CryptoOperationsManager)
    (s : ApiState σ) (row : LockerInner) (stored : StoredData) : Prop where
  opens : ∃ data, ((manager.decryptData state row.encData).run
    (ApiState.exec service dataService) s).1 = .ok data ∧ encoding.fromSlice data = some stored
  live : Unexpired row.ttl s.now

theorem StoredData.toPayload_injective : Function.Injective StoredData.toPayload := by
  intro stored stored' h
  cases stored with
  | encData data =>
    cases stored' with
    | encData data' =>
      have hdata := congrArg RetrieveCardRespPayload.encCardData h
      cases hdata
      rfl
    | cardData card => cases congrArg RetrieveCardRespPayload.card h
  | cardData card =>
    cases stored' with
    | encData data => cases congrArg RetrieveCardRespPayload.card h
    | cardData card' =>
      have hcard := congrArg RetrieveCardRespPayload.card h
      cases hcard
      rfl

/-- What a retrieve answers is the data of the row that is visible. -/
theorem retrieveCard_ok_iff (pk : LockerPrimaryKeyType) (stored : StoredData)
    (hkey : (findKeyHolder state pk.merchantId).run (ApiState.exec service dataService) s =
      (.ok manager, s)) :
    ((retrieveCard state encoding ⟨pk.merchantId, pk.customerId, pk.lockerId⟩).run
      (ApiState.exec service dataService) s).1 = .ok stored.toPayload ↔
        ∃ row, s.kv.visible pk.getPartitionKey = some (.locker row) ∧
          Retrieves service dataService state encoding manager s row stored := by
  unfold retrieveCard
  rw [Prog.run_andThen_ok hkey]
  constructor
  · intro h
    obtain ⟨locker, s₁, hfind, h⟩ := Prog.run_andThen_eq_ok (Prod.ext h rfl)
    obtain ⟨hfind, hs₁⟩ := run_liftKv_eq (run_orApiError_eq_ok hfind)
    obtain ⟨hkv, row, hvisible, rfl⟩ := run_findLocker_ok state.db pk hfind
    obtain rfl : s₁ = s := by rw [hs₁, hkv]
    obtain ⟨decrypted, s₂, hdecrypt, h⟩ := Prog.run_andThen_eq_ok h
    obtain ⟨data, s₃, hopen, hpure⟩ := Prog.run_andThen_eq_ok hdecrypt
    have hopened : s₃ = s₁ := by
      have hrun := hopen.symm.trans (run_decryptData s₁ s₁ rfl row.encData)
      exact congrArg Prod.snd hrun
    subst hopened
    cases hpure
    obtain ⟨⟨⟩, s₄, hlive, h⟩ := Prog.run_andThen_eq_ok h
    refine ⟨row, hvisible, ⟨data, congrArg Prod.fst hopen, ?_⟩, checkTtl_ok hlive⟩
    have hanswer := congrArg Prod.fst h
    cases hread : encoding.fromSlice data with
    | none =>
      simp only [Prog.run_pure, storedData, hread] at hanswer
      cases hanswer
    | some found =>
      simp only [Prog.run_pure, storedData, hread] at hanswer
      exact congrArg some (StoredData.toPayload_injective (Except.ok.inj hanswer))
  · rintro ⟨row, hvisible, ⟨data, hopen, hread⟩, hlive⟩
    have hfind : (findByLockerIdMerchantIdCustomerId state.db pk.lockerId pk.merchantId
        pk.customerId).run Store.exec s.kv = (.ok row.toLocker, s.kv) := by
      rw [run_findByLockerIdMerchantIdCustomerId, hvisible]
      rfl
    have hopened : (manager.decryptData state row.encData).run
        (ApiState.exec service dataService) s = (.ok data, s) := by
      rw [run_decryptData s s rfl, hopen]
    have hdecrypt : (decryptLocker state manager row.toLocker).run
        (ApiState.exec service dataService) s =
          (.ok { row.toLocker with data := .decrypted data }, s) := Prog.run_andThen_ok hopened _
    have hlifted : (liftKv (findByLockerIdMerchantIdCustomerId state.db pk.lockerId pk.merchantId
        pk.customerId)).run (ApiState.exec service dataService) s = (.ok row.toLocker, s) := by
      rw [run_liftKv, hfind]
    have hchecked : (checkTtl row.toLocker.ttl (.locker pk.lockerId pk.merchantId
        pk.customerId)).run (ApiState.exec service dataService) s = (.ok (), s) :=
      run_checkTtl_ok hlive
    rw [Prog.run_andThen_ok (run_orApiError_ok hlifted), Prog.run_andThen_ok hdecrypt]
    refine (congrArg Prod.fst (Prog.run_andThen_ok hchecked _)).trans ?_
    simp only [Prog.run_pure, storedData, hread]
    rfl

end CardVault
