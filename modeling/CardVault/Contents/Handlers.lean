import CardVault.Api.Data
import CardVault.Contents.Interfaces
import CardVault.Contents.KeyCalls

/-!
# Handlers that keep what rows hold

What a handler stores under a Redis key was encrypted for the key holder that the request
names, and what a handler answers was decrypted with the key of that key holder.

Main results:
* `keepsApi_findKeyHolder`, `keepsApi_findOrCreateKeyHolder`: a key provider hands out the
  one crypto manager of a key holder.
* `keepsApi_encryptData`, `keepsApi_decryptData`: what it encrypts it decrypts, whatever
  happens in between.
* `keepsApi_addCard`, `keepsApi_retrieveCard`, `keepsApi_addData`, `keepsApi_retrieveData`,
  `keepsApi_fingerprint` and their like: the handlers.
-/

namespace CardVault

open Interaction Relational

/-! ## Calls -/

section Calls

variable (state : TenantState) (K : Contents KeyHolders)

/-- The call stores allowed data. -/
def ApiCmd.Stores (x : KeyHolders) : ApiCmd → Prop
  | .kv c => c.Ok state.db ∧ c.Stores (K.Of x)
  | .key c => c.Stores state x
  | _ => True

/-- What an answer tells is known. -/
def ApiReply.Tells (x : KeyHolders) : (c : ApiCmd) → ApiReply c → Prop
  | .kv c, reply => Reply.Ok c reply ∧ Reply.Tells (K.Of x) c reply
  | .key c, reply => KeyReply.Tells state x c reply
  | .encryptData identifier data, reply => ∀ encrypted, reply = Except.ok encrypted →
    data ∈ x.opened identifier encrypted
  | .decryptData identifier data, reply => ∀ plain, reply = Except.ok plain →
    plain ∈ x.opened identifier data
  | _, _ => True

/-- The program stores allowed data, as long as it is told of nothing else. -/
abbrev KeepsApi {α : Type} (p : ApiApp α) (Q : α → KeyHolders → Prop) (x : KeyHolders) : Prop :=
  p.Safe (fun y c => c.Stores state K y) (fun c reply y => ApiReply.Tells state K y c reply) Q x

end Calls

section Programs

variable {state : TenantState} {K : Contents KeyHolders} {x : KeyHolders} {α : Type}

theorem keepsApi_liftKv {p : App α} {Q : α → KeyHolders → Prop}
    (h : KeepsContents state.db K p Q x) : KeepsApi state K (liftKv p) Q x := by
  refine h.interpret fun c y hc => ?_
  exact Prog.safe_perform (c := ApiCmd.kv c)
    (fun z hyz => ⟨hc.1, Cmd.Stores.mono (fun _ => K.of_mono hyz) hc.2⟩)
    fun reply z w _ hreply hzw => ⟨hreply.1, Reply.Tells.mono (fun _ => K.of_mono hzw) hreply.2⟩

theorem keepsApi_liftKey {p : KeyApp α} {Q : α → KeyHolders → Prop}
    (h : KeepsKeyHolders state p Q x) : KeepsApi state K (liftKey p) Q x := by
  refine h.interpret fun c y hc => ?_
  exact Prog.safe_perform (c := ApiCmd.key c) (fun z hyz => KeyCmd.Stores.mono hc hyz)
    fun reply z w _ hreply hzw => KeyReply.Tells.mono hreply hzw

/-- The call keeps the contents, whatever it ends with. -/
theorem KeepsApi.any {p : ApiApp α} {Q : α → KeyHolders → Prop} (h : KeepsApi state K p Q x) :
    KeepsApi state K p (fun _ _ => True) x := h.mono fun _ _ _ _ => trivial

theorem keepsApi_pure (a : α) : KeepsApi state K (Prog.pure a) (fun _ _ => True) x :=
  fun _ _ => trivial

/-- `?` after a call that may answer anything. -/
theorem keepsApi_andThen {β ε : Type} {p : ApiApp (Except ε α)} {f : α → ApiApp (Except ε β)}
    {Q : Except ε α → KeyHolders → Prop} (h : KeepsApi state K p Q x)
    (hf : ∀ a y, x ≤ y → KeepsApi state K (f a) (fun _ _ => True) y) :
    KeepsApi state K (p.andThen f) (fun _ _ => True) x :=
  Prog.Safe.andThen h.any (fun _ _ _ _ => trivial) fun a y hxy _ => hf a y hxy

theorem keepsApi_mapResult {β : Type} {p : ApiApp α} {Q : α → KeyHolders → Prop}
    (h : KeepsApi state K p Q x) (f : α → β) :
    KeepsApi state K (p.mapResult f) (fun _ _ => True) x := Prog.Safe.mapResult h.any

theorem keepsApi_dateTimeNow : KeepsApi state K dateTimeNow (fun _ _ => True) x :=
  Prog.safe_perform (c := ApiCmd.now) (fun _ _ => trivial) fun _ _ _ _ _ _ => trivial

theorem keepsApi_spawn (task : TtlDeletion) :
    KeepsApi state K (spawn task) (fun _ _ => True) x :=
  Prog.safe_perform (c := ApiCmd.spawn task) (fun _ _ => trivial) fun _ _ _ _ _ _ => trivial

end Programs

/-! ## Errors -/

/-- Neither a panic, nor stored data that does not deserialize, nor a decryption of the vault's
    own that fails. An error of the database or of the key manager, whose calls may fail, is
    clean; what its message says of keys is not looked at. -/
def Fault.IsClean : Fault ApiError → Prop
  | .panicked | .error .decodingError | .error (.requestMiddlewareError _) => False
  | .error _ => True

/-- An answer that meets `P`, or an error of that kind. -/
def Cleanly {α : Type} (P : α → KeyHolders → Prop) (reply : Except (Fault ApiError) α)
    (y : KeyHolders) : Prop :=
  match reply with
  | .ok a => P a y
  | .error e => e.IsClean

theorem isClean_vaultDBError (e : VaultDBError) : Fault.IsClean (.error e.toApiError) := by
  cases e <;> trivial

theorem isClean_merchantDBError (e : MerchantDBError) : Fault.IsClean (.error e.toApiError) := by
  cases e <;> trivial

theorem isClean_entityDBError (e : EntityDBError) : Fault.IsClean (.error e.toApiError) := by
  cases e <;> trivial

theorem isClean_keyManagerError (e : KeyManagerError) :
    Fault.IsClean (.error e.toApiError) := by cases e <;> trivial

section Errors

variable {state : TenantState} {K : Contents KeyHolders} {x : KeyHolders} {α β E : Type}

/-- `?` on the error of a storage call. -/
theorem keepsApi_orApiError {f : E → ApiError} (hf : ∀ e, Fault.IsClean (.error (f e)))
    {p : ApiApp (Except E α)} {P : α → KeyHolders → Prop}
    (h : KeepsApi state K p (fun reply y => ∀ a, reply = .ok a → P a y) x) :
    KeepsApi state K (orApiError f p) (Cleanly P) x := by
  refine Prog.Safe.mapResult (h.mono fun reply y _ hreply => ?_)
  cases reply with
  | ok a => exact hreply a rfl
  | error e => exact hf e

/-- The rule for `?` after which errors stay of that kind. -/
theorem keepsApi_cleanly {p : ApiApp (Except (Fault ApiError) α)}
    {f : α → ApiApp (Except (Fault ApiError) β)} {P : α → KeyHolders → Prop}
    {P' : β → KeyHolders → Prop} (h : KeepsApi state K p (Cleanly P) x)
    (hf : ∀ a y, x ≤ y → P a y → KeepsApi state K (f a) (Cleanly P') y) :
    KeepsApi state K (p.andThen f) (Cleanly P') x :=
  Prog.Safe.andThen h (fun _ _ _ he => he) hf

end Errors

/-! ## Key holders -/

section Holders

variable (state : TenantState)

/-- The crypto manager of the key holder. -/
def CryptoOperationsManager.Of (x : KeyHolders) (entityId : String) :
    CryptoOperationsManager → Prop
  | .internal dek => state.externalKeyManager = false ∧ dek.secret ∈ x.dek entityId
  | .external entity => state.externalKeyManager = true ∧ entity.encKeyId ∈ x.identifier entityId

/-- The crypto manager decrypts the data to the plaintext. -/
def CryptoOperationsManager.Opens (x : KeyHolders) (data plain : Bytes) :
    CryptoOperationsManager → Prop
  | .internal dek => dek.decrypt state.openWithin data = .ok plain
  | .external entity => plain ∈ x.opened entity.encKeyId data

/-- The data decrypts to the plaintext under the key of the key holder. -/
def OpensFor (x : KeyHolders) (entityId : String) (data plain : Bytes) : Prop :=
  ∃ manager : CryptoOperationsManager, manager.Of state x entityId ∧
    manager.Opens state x data plain

end Holders

section Holders

variable {state : TenantState} {K : Contents KeyHolders} {x y : KeyHolders} {entityId : String}
  {manager : CryptoOperationsManager} {data plain : Bytes}

theorem CryptoOperationsManager.Of.mono (h : manager.Of state x entityId) (hxy : x ≤ y) :
    manager.Of state y entityId := by
  cases manager with
  | internal dek => exact h.imp_right (KeyHolders.dek_mono hxy)
  | external entity => exact h.imp_right (KeyHolders.identifier_mono hxy)

theorem OpensFor.mono (h : OpensFor state x entityId data plain) (hxy : x ≤ y) :
    OpensFor state y entityId data plain := by
  obtain ⟨manager, hof, hopens⟩ := h
  refine ⟨manager, hof.mono hxy, ?_⟩
  cases manager with
  | internal dek => exact hopens
  | external entity => exact KeyHolders.opened_mono hxy hopens

/-- Any crypto manager of the key holder decrypts what one of them decrypts. -/
theorem OpensFor.opens (h : OpensFor state x entityId data plain)
    (hmanager : manager.Of state x entityId) : manager.Opens state x data plain := by
  obtain ⟨manager', hof, hopens⟩ := h
  cases manager with
  | internal dek =>
    cases manager' with
    | internal dek' =>
      have hkey : dek = dek' := congrArg GcmAes256.mk (Part.mem_unique hmanager.2 hof.2)
      rw [hkey]
      exact hopens
    | external entity' => cases hof.1.symm.trans hmanager.1
  | external entity =>
    cases manager' with
    | internal dek' => cases hof.1.symm.trans hmanager.1
    | external entity' =>
      have hkey : entity.encKeyId = entity'.encKeyId := Part.mem_unique hmanager.2 hof.2
      change plain ∈ x.opened entity.encKeyId data
      rw [hkey]
      exact hopens

/-- The plaintext is one. -/
theorem OpensFor.unique {plain' : Bytes} (h : OpensFor state x entityId data plain)
    (h' : OpensFor state x entityId data plain') : plain = plain' := by
  obtain ⟨manager, hof, hopens⟩ := h'
  have hopens' := h.opens hof
  cases manager with
  | internal dek => exact Except.ok.inj (hopens'.symm.trans hopens)
  | external entity => exact Part.mem_unique hopens' hopens

/-! ### Key providers -/

theorem keepsApi_merchant {p : KeyApp (Except (Fault MerchantDBError) Merchant)}
    (hmode : state.externalKeyManager = false)
    (h : KeepsKeyHolders state p (AnswersDek entityId) x) :
    KeepsApi state K ((orApiFault MerchantDBError.toApiError (liftKey p)).andThen
      fun merchant => .pure (.ok (internalManager merchant)))
      (Cleanly fun manager y => manager.Of state y entityId) x := by
  refine keepsApi_cleanly (P := fun merchant y => merchant.encKey ∈ y.dek entityId)
    (Prog.Safe.mapResult ((keepsApi_liftKey h).mono fun reply y _ hreply => ?_))
    fun merchant y _ hkey z hyz => ⟨hmode, KeyHolders.dek_mono hyz hkey⟩
  cases reply with
  | ok merchant => exact hreply
  | error e =>
    cases e with
    | error e => exact isClean_merchantDBError e
    | panicked => exact hreply

theorem keepsApi_findKeyHolder :
    KeepsApi state K (findKeyHolder state entityId)
      (Cleanly fun manager y => manager.Of state y entityId) x := by
  unfold findKeyHolder
  cases hmode : state.externalKeyManager with
  | false => exact keepsApi_merchant hmode (keepsKeys_cachedFindByMerchantId rfl)
  | true =>
    exact keepsApi_cleanly (keepsApi_orApiError isClean_entityDBError
      (keepsApi_liftKey keepsKeys_cachedFindByEntityId)) fun entity y _ hid z hyz =>
        ⟨hmode, KeyHolders.identifier_mono hyz hid⟩

/-- What a call that may create a key holder answers. -/
def AnswersManager {ε : Type} (state : TenantState) (entityId : String)
    (reply : Except ε CryptoOperationsManager) (y : KeyHolders) : Prop :=
  ∀ manager, reply = .ok manager → manager.Of state y entityId

theorem keepsApi_findOrCreateKeyHolder {drawn : Drawn}
    (hring : OpensSealed state.openWithin state.sealInPlace) (hdrawn : drawn.Sized) :
    KeepsApi state K (findOrCreateKeyHolder state drawn entityId) (AnswersManager state entityId)
      x := by
  unfold findOrCreateKeyHolder
  cases hmode : state.externalKeyManager with
  | true =>
    refine Prog.Safe.andThen (Q := fun reply y => AnswersIdentifier entityId reply y)
      (Prog.Safe.mapResult ((keepsApi_liftKey (keepsKeys_findOrCreateEntity _)).mono
        fun reply y _ hreply entity h => ?_)) (fun _ _ _ _ _ h => by cases h)
      fun entity y _ hid z hyz manager h => ?_
    · cases reply with
      | error e => cases h
      | ok entity' =>
        cases h
        exact hreply _ rfl
    · cases h
      exact ⟨hmode, KeyHolders.identifier_mono hyz (hid entity rfl)⟩
  | false =>
    have hanswer : ∀ {reply : Except (Fault ApiError) CryptoOperationsManager} {y : KeyHolders},
        Cleanly (fun manager y => manager.Of state y entityId) reply y →
          AnswersManager state entityId reply y := by
      intro reply y h manager hmanager
      subst hmanager
      exact h
    refine (keepsApi_liftKey (keepsKeys_cachedFindByMerchantId rfl)).bind
      fun found y _ hfound => ?_
    cases found with
    | ok merchant =>
      intro z hyz manager h
      cases h
      exact ⟨hmode, KeyHolders.dek_mono hyz hfound⟩
    | error err =>
      dsimp only
      split_ifs
      · exact (keepsApi_merchant hmode (keepsKeys_findOrCreateMerchant rfl hring rfl hdrawn.dek
          drawn.dek)).mono fun _ _ _ h => hanswer h
      · exact fun _ _ _ h => by cases h

/-! ### Data -/

/-- What a crypto manager encrypts decrypts to what it was. -/
theorem keepsApi_encryptData {drawn : Drawn}
    (hring : OpensSealed state.openWithin state.sealInPlace) (hdrawn : drawn.Sized)
    (hmanager : manager.Of state x entityId) :
    KeepsApi state K (manager.encryptData state drawn data)
      (fun reply y => ∀ encrypted, reply = .ok encrypted →
        OpensFor state y entityId encrypted data) x := by
  cases manager with
  | internal dek =>
    intro y hxy encrypted h
    cases hencrypt : dek.encrypt state.sealInPlace drawn.dataNonce data with
    | error e =>
      rw [hencrypt] at h
      cases h
    | ok output =>
      rw [hencrypt] at h
      cases h
      exact ⟨.internal dek, hmanager.mono hxy, GcmAes256.decrypt_of_encrypt hring hdrawn.data
        hencrypt⟩
  | external entity =>
    refine Prog.Safe.mapResult (Prog.safe_perform (c := ApiCmd.encryptData entity.encKeyId data)
      (fun _ _ => trivial) fun reply y z hxy hreply hyz encrypted h => ?_)
    change ∀ encrypted, reply = Except.ok encrypted → _ at hreply
    cases (reply : Except KeyManagerError Bytes) with
    | error e => cases h
    | ok output =>
      cases h
      exact ⟨.external entity, hmanager.mono (hxy.trans hyz), KeyHolders.opened_mono hyz
        (hreply _ rfl)⟩

/-- Data that decrypts is decrypted, by any crypto manager of the key holder. -/
theorem keepsApi_decryptData (hmanager : manager.Of state x entityId)
    (hdata : OpensFor state x entityId data plain) :
    KeepsApi state K (manager.decryptData state data) (Cleanly fun out _ => out = plain) x := by
  cases manager with
  | internal dek =>
    have hopens : dek.decrypt state.openWithin data = .ok plain := hdata.opens hmanager
    intro y hxy
    rw [hopens]
    rfl
  | external entity =>
    refine keepsApi_orApiError isClean_keyManagerError (Prog.safe_perform
      (c := ApiCmd.decryptData entity.encKeyId data) (fun _ _ => trivial)
      fun reply y z hxy hreply hyz out h => ?_)
    have hopens : plain ∈ y.opened entity.encKeyId data := (hdata.mono hxy).opens
      (hmanager.mono hxy)
    exact Part.mem_unique (hreply out h) hopens

/-- Data of which nothing is known. -/
theorem keepsApi_decryptAny :
    KeepsApi state K (manager.decryptData state data) (fun _ _ => True) x := by
  cases manager with
  | internal dek => exact fun _ _ => trivial
  | external entity =>
    exact keepsApi_mapResult (Prog.safe_perform (c := ApiCmd.decryptData entity.encKeyId data)
      (fun _ _ => trivial) fun _ _ _ _ hreply hyz => fun plain h =>
        KeyHolders.opened_mono hyz (hreply plain h)) _

end Holders

/-! ## Handlers -/

section Handlers

variable {state : TenantState} {K : Contents KeyHolders} {x : KeyHolders} {drawn : Drawn}

theorem keepsApi_checkTtl (ttl : Option PrimitiveDateTime) (task : TtlDeletion) :
    KeepsApi state K (checkTtl ttl task) (Cleanly fun _ _ => True) x := by
  cases ttl with
  | none => exact fun _ _ => trivial
  | some ttl =>
    refine keepsApi_dateTimeNow.bind fun now y _ _ => ?_
    split_ifs
    · exact (keepsApi_spawn task).bind fun _ _ _ _ _ _ => trivial
    · exact fun _ _ => trivial

/-! ### Cards -/

section Cards

variable {encoding : Encoding}

theorem keepsApi_decryptLocker {manager : CryptoOperationsManager} (locker : Locker) :
    KeepsApi state K (decryptLocker state manager locker) (fun _ _ => True) x := by
  unfold decryptLocker
  cases locker.data with
  | encrypted data => exact keepsApi_andThen keepsApi_decryptAny fun _ _ _ => keepsApi_pure _
  | decrypted data => exact keepsApi_pure _

theorem keepsApi_addCardFound {manager : CryptoOperationsManager} (request : StoreCardRequest)
    (locker : Locker) :
    KeepsApi state K (addCardFound state encoding manager request locker) (fun _ _ => True) x :=
  keepsApi_andThen (keepsApi_decryptLocker locker) fun _ _ _ =>
    keepsApi_andThen (keepsApi_pure _) fun _ _ _ => keepsApi_pure _

theorem keepsApi_addCardInserted (hring : OpensSealed state.openWithin state.sealInPlace)
    (hdrawn : drawn.Sized) {manager : CryptoOperationsManager} {request : StoreCardRequest}
    {hashId : String} (hmanager : manager.Of state x request.merchantId)
    (hallowed : ∀ y encrypted, x ≤ y → OpensFor state y request.merchantId encrypted
      (encoding.toVec request.data.toStored) →
        K.data y (PartitionKey.locker request.merchantId request.merchantCustomerId
          (request.requestorCardReference.getD drawn.uuid)).display encrypted) :
    KeepsApi state K (addCardInserted state drawn encoding manager request hashId)
      (fun _ _ => True) x := by
  refine keepsApi_andThen (Q := fun _ _ => True) ?_ fun _ _ _ => keepsApi_pure _
  refine Prog.Safe.andThen (keepsApi_encryptData hring hdrawn hmanager) (fun _ _ _ _ => trivial)
    fun encrypted y hxy hencrypted => keepsApi_dateTimeNow.bind fun now z hyz _ => ?_
  exact keepsApi_mapResult (keepsApi_liftKv (keeps_getOrInsertLocker
    (newLocker drawn now request hashId encrypted) (hallowed z encrypted (hxy.trans hyz)
      ((hencrypted encrypted rfl).mono hyz)))) _

theorem keepsApi_addCard (hring : OpensSealed state.openWithin state.sealInPlace)
    (hdrawn : drawn.Sized) {request : StoreCardRequest}
    (hallowed : ∀ y encrypted, x ≤ y → OpensFor state y request.merchantId encrypted
      (encoding.toVec request.data.toStored) →
        K.data y (PartitionKey.locker request.merchantId request.merchantCustomerId
          (request.requestorCardReference.getD drawn.uuid)).display encrypted) :
    KeepsApi state K (addCard state drawn encoding request) (fun _ _ => True) x := by
  refine keepsApi_andThen (keepsApi_mapResult keepsApi_dateTimeNow _) fun _ y hxy => ?_
  refine keepsApi_andThen (keepsApi_mapResult (keepsApi_liftKv keeps_findOptionalByDataHash) _)
    fun found z hyz => ?_
  refine Prog.Safe.andThen (keepsApi_findOrCreateKeyHolder hring hdrawn)
    (fun _ _ _ _ => trivial) fun manager w hzw hmanager => ?_
  have hxw : x ≤ w := hxy.trans (hyz.trans hzw)
  have hof := hmanager manager rfl
  have hinserted : ∀ v hashId, w ≤ v → KeepsApi state K
      (addCardInserted state drawn encoding manager request hashId) (fun _ _ => True) v :=
    fun v hashId hwv => keepsApi_addCardInserted hring hdrawn (hof.mono hwv)
      fun u encrypted hvu => hallowed u encrypted (hxw.trans (hwv.trans hvu))
  cases found with
  | some hashTable =>
    refine keepsApi_andThen (keepsApi_mapResult (keepsApi_liftKv
      (keeps_findOptionalByHashIdMerchantIdCustomerId
        ⟨hashTable.hashId, request.merchantId, request.merchantCustomerId⟩)) _)
      fun locker v hwv => ?_
    cases locker with
    | some locker => exact keepsApi_addCardFound request locker
    | none => exact hinserted v _ hwv
  | none =>
    refine keepsApi_dateTimeNow.bind fun now v hwv _ => ?_
    exact keepsApi_andThen (keepsApi_mapResult (keepsApi_liftKv
      (keeps_insertOrGetHash drawn.hashUuid now)) _) fun hashTable u hvu =>
        hinserted u _ (hwv.trans hvu)

theorem keepsApi_deleteCard (request : DeleteCardRequest) :
    KeepsApi state K (deleteCard state request) (fun _ _ => True) x :=
  keepsApi_andThen keepsApi_findKeyHolder fun _ _ _ => keepsApi_andThen (keepsApi_mapResult
    (keepsApi_liftKv (keeps_deleteLocker
      ⟨request.cardReference, request.merchantId, request.merchantCustomerId⟩)) _)
      fun _ _ _ => keepsApi_pure _

theorem keepsApi_retrieveCard_any (request : RetrieveCardRequest) :
    KeepsApi state K (retrieveCard state encoding request) (fun _ _ => True) x :=
  keepsApi_andThen keepsApi_findKeyHolder fun _ _ _ => keepsApi_andThen (keepsApi_mapResult
    (keepsApi_liftKv (keeps_findByLockerIdMerchantIdCustomerId
      ⟨request.cardReference, request.merchantId, request.merchantCustomerId⟩)) _)
      fun locker _ _ => keepsApi_andThen (keepsApi_decryptLocker locker) fun _ _ _ =>
        keepsApi_andThen (keepsApi_checkTtl _ _) fun _ _ _ => keepsApi_pure _

/-- A retrieve answers what the data under its key decrypts to. -/
theorem keepsApi_retrieveCard {request : RetrieveCardRequest} {P : Bytes → Prop}
    (hread : ∀ y encrypted, x ≤ y → K.data y (PartitionKey.locker request.merchantId
      request.merchantCustomerId request.cardReference).display encrypted →
        ∃ plain, OpensFor state y request.merchantId encrypted plain ∧ P plain)
    (hdecodes : ∀ plain, P plain → ∃ stored, encoding.fromSlice plain = some stored) :
    KeepsApi state K (retrieveCard state encoding request)
      (Cleanly fun payload _ => ∃ plain stored, P plain ∧
        encoding.fromSlice plain = some stored ∧ payload = stored.toPayload) x := by
  refine keepsApi_cleanly keepsApi_findKeyHolder fun manager y hxy hmanager => ?_
  refine keepsApi_cleanly (keepsApi_orApiError isClean_vaultDBError (keepsApi_liftKv
    (keeps_findByLockerIdMerchantIdCustomerId
      ⟨request.cardReference, request.merchantId, request.merchantCustomerId⟩)))
    fun locker z hyz hlocker => ?_
  obtain ⟨encrypted, hdata, hallowed⟩ := hlocker
  obtain ⟨plain, hopens, hplain⟩ := hread z encrypted (hxy.trans hyz) hallowed
  obtain ⟨stored, hstored⟩ := hdecodes plain hplain
  refine keepsApi_cleanly (P := fun decrypted _ => decrypted.data = .decrypted plain) ?_
    fun decrypted w _ hdecrypted => keepsApi_cleanly (keepsApi_checkTtl _ _) fun _ v _ _ u _ => ?_
  · unfold decryptLocker
    rw [hdata]
    exact keepsApi_cleanly (keepsApi_decryptData (hmanager.mono hyz) hopens)
      fun out w _ hout v _ => by subst hout; rfl
  · unfold storedData
    rw [hdecrypted]
    dsimp only
    rw [hstored]
    exact ⟨plain, stored, hplain, hstored, rfl⟩

end Cards

/-! ### Data -/

section Data

variable {V : Type} {encoding : ValueEncoding V}

theorem keepsApi_addData (hring : OpensSealed state.openWithin state.sealInPlace)
    (hdrawn : drawn.Sized) {request : StoreDataRequest V} (mode : Option WriteMode)
    (hallowed : ∀ y encrypted, x ≤ y → OpensFor state y request.entityId encrypted
      (encoding.toVec request.data) →
        K.data y (PartitionKey.vault request.entityId request.vaultId).display encrypted) :
    KeepsApi state K (addData state drawn encoding request mode) (fun _ _ => True) x := by
  refine keepsApi_andThen (keepsApi_mapResult keepsApi_dateTimeNow _) fun _ y hxy => ?_
  refine Prog.Safe.andThen (keepsApi_findOrCreateKeyHolder hring hdrawn)
    (fun _ _ _ _ => trivial) fun manager z hyz hmanager => ?_
  refine keepsApi_andThen (Q := fun _ _ => True) ?_ fun _ _ _ => keepsApi_pure _
  refine Prog.Safe.andThen (keepsApi_encryptData hring hdrawn (hmanager manager rfl))
    (fun _ _ _ _ => trivial) fun encrypted w hzw hencrypted =>
      keepsApi_dateTimeNow.bind fun now v hwv _ => ?_
  have hnew := hallowed v encrypted (hxy.trans (hyz.trans (hzw.trans hwv)))
    ((hencrypted encrypted rfl).mono hwv)
  refine keepsApi_mapResult (keepsApi_liftKv (Q := fun _ _ => True) ?_) _
  cases mode with
  | none => exact keeps_getOrInsertVault (newVault now request encrypted) hnew
  | some mode =>
    cases mode with
    | insert => exact keeps_getOrInsertVault (newVault now request encrypted) hnew
    | upsert => exact keeps_upsertVault (newVault now request encrypted) hnew

theorem keepsApi_deleteData (request : DeleteDataRequest) :
    KeepsApi state K (deleteData state request) (fun _ _ => True) x :=
  keepsApi_andThen keepsApi_findKeyHolder fun _ _ _ => keepsApi_andThen (keepsApi_mapResult
    (keepsApi_liftKv (keeps_deleteFromVault ⟨request.entityId, request.vaultId⟩)) _)
      fun _ _ _ => keepsApi_pure _

theorem keepsApi_retrieveData_any (request : RetrieveDataRequest) :
    KeepsApi state K (retrieveData state encoding request) (fun _ _ => True) x := by
  refine keepsApi_andThen keepsApi_findKeyHolder fun manager _ _ => keepsApi_andThen
    (keepsApi_mapResult (keepsApi_liftKv (keeps_findByVaultIdEntityId
      ⟨request.entityId, request.vaultId⟩)) _) fun vault y _ => ?_
  refine keepsApi_andThen (Q := fun _ _ => True) ?_ fun _ _ _ =>
    keepsApi_andThen (keepsApi_checkTtl _ _) fun _ _ _ => keepsApi_pure _
  unfold decryptVault
  cases vault.data with
  | encrypted data => exact keepsApi_andThen keepsApi_decryptAny fun _ _ _ => keepsApi_pure _
  | decrypted data => exact keepsApi_pure _

/-- A retrieve answers what the data under its key decrypts to. -/
theorem keepsApi_retrieveData {request : RetrieveDataRequest} {P : Bytes → Prop}
    (hread : ∀ y encrypted, x ≤ y →
      K.data y (PartitionKey.vault request.entityId request.vaultId).display encrypted →
        ∃ plain, OpensFor state y request.entityId encrypted plain ∧ P plain)
    (hdecodes : ∀ plain, P plain → ∃ value, encoding.fromSlice plain = some value) :
    KeepsApi state K (retrieveData state encoding request)
      (Cleanly fun response _ => ∃ plain, P plain ∧
        encoding.fromSlice plain = some response.data) x := by
  refine keepsApi_cleanly keepsApi_findKeyHolder fun manager y hxy hmanager => ?_
  refine keepsApi_cleanly (keepsApi_orApiError isClean_vaultDBError (keepsApi_liftKv
    (keeps_findByVaultIdEntityId ⟨request.entityId, request.vaultId⟩)))
    fun vault z hyz hvault => ?_
  obtain ⟨encrypted, hdata, hallowed⟩ := hvault
  obtain ⟨plain, hopens, hplain⟩ := hread z encrypted (hxy.trans hyz) hallowed
  obtain ⟨value, hvalue⟩ := hdecodes plain hplain
  refine keepsApi_cleanly (P := fun decrypted _ => decrypted.data = .decrypted plain) ?_
    fun decrypted w _ hdecrypted => keepsApi_cleanly (keepsApi_checkTtl _ _) fun _ v _ _ u _ => ?_
  · unfold decryptVault
    rw [hdata]
    exact keepsApi_cleanly (keepsApi_decryptData (hmanager.mono hyz) hopens)
      fun out w _ hout v _ => by subst hout; rfl
  · unfold vaultValue
    rw [hdecrypted]
    dsimp only
    rw [hvalue]
    exact ⟨plain, hplain, hvalue⟩

end Data

/-! ### Key holders, deletions and fingerprints -/

theorem keepsApi_createEntityHandler (hring : OpensSealed state.openWithin state.sealInPlace)
    (hdrawn : drawn.Sized) (request : CreateEntityRequest) :
    KeepsApi state K (createEntityHandler state drawn request) (fun _ _ => True) x := by
  refine keepsApi_andThen (keepsApi_pure _) fun _ y _ => ?_
  unfold createKeyHolder
  split_ifs
  · have hcreate : KeepsKeyHolders state (createEntity drawn.nanoId request.entityId)
        (fun _ _ => True) y :=
      Prog.Safe.andThen (keepsKeys_findOrCreateEntity drawn.nanoId) (fun _ _ _ _ => trivial)
        fun _ _ _ _ _ _ => trivial
    exact keepsApi_mapResult (keepsApi_liftKey hcreate) _
  · exact keepsApi_andThen (keepsApi_mapResult (keepsApi_liftKey
      (keepsKeys_findOrCreateMerchant rfl hring rfl hdrawn.dek drawn.dek)) _)
      fun _ _ _ => keepsApi_pure _

theorem keepsApi_ttlDeletion (task : TtlDeletion) :
    KeepsApi state K (ttlDeletion state task) (fun _ _ => True) x := by
  cases task with
  | locker lockerId merchantId customerId =>
    exact keepsApi_mapResult (keepsApi_liftKv
      (keeps_deleteLocker ⟨lockerId, merchantId, customerId⟩)) _
  | vault vaultId entityId =>
    exact keepsApi_mapResult (keepsApi_liftKv (keeps_deleteFromVault ⟨entityId, vaultId⟩)) _

/-- The fingerprint hash of a request. -/
def FingerprintRequest.hash (sign : Bytes → Bytes → Bytes) (request : FingerprintRequest) :
    Bytes :=
  hmacSha512Encode sign request.key.toUTF8.data.toList request.data.toUTF8.data.toList

/-- A fingerprint request answers an allowed id of its hash. -/
theorem keepsApi_fingerprint {sign : Bytes → Bytes → Bytes} {header : Option String}
    {request : FingerprintRequest}
    (hallowed : ∀ given, optionalFingerprintId header = .ok given → K.fingerprint x
      (request.hash sign) ((given.map FingerprintId.val).getD drawn.nanoId)) :
    KeepsApi state K (getOrInsertFingerprintRoute state drawn sign header request)
      (fun reply y => ∀ response, reply = .ok response →
        K.fingerprint y (request.hash sign) response.fingerprintId) x := by
  unfold getOrInsertFingerprintRoute
  cases hgiven : optionalFingerprintId header with
  | error e => exact fun _ _ _ h => by cases h
  | ok given =>
    refine Prog.Safe.andThen (Q := fun reply y => ∀ fingerprint, reply = .ok fingerprint →
      K.Identifies (request.hash sign) fingerprint y) (Prog.Safe.mapResult ((keepsApi_liftKv
        (keeps_getOrInsertFingerprint (hallowed given hgiven))).mono
          fun reply y _ hreply fingerprint h => ?_))
      (fun _ _ _ _ _ h => by cases h) fun fingerprint y _ hid z hyz response h => ?_
    · cases reply with
      | error e => cases h
      | ok found =>
        cases h
        exact hreply _ rfl
    · cases h
      exact K.fingerprint_mono _ _ _ _ hyz (hid fingerprint rfl).2

end Handlers

end CardVault
