import CardVault.Contents.KeyHolders

/-!
# Calls that keep what is known of keys

The merchant and entity interfaces with their caches, the two `find_or_create`s of
`src/src/domain/merchant.rs` and `src/src/crypto/keymanager/external_keymanager.rs`, and
the migration of `src/src/routes/key_migration.rs`, interleaved with anything else that
keeps what is known.

Main results:
* `keepsKeys_findOrCreateMerchant`: a call about a merchant answers the one DEK of the
  merchant, or an error other than `DEKDecryptionError`.
* `keepsKeys_findOrCreateEntity`: a call about an entity answers its one key identifier.
* `keepsKeys_transferKeys`: the migration of DEKs.
-/

namespace CardVault

open Interaction Relational

/-! ## Envelopes -/

section Envelopes

variable {openWithin : OpenWithin} {sealInPlace : SealInPlace} {self : GcmAes256}
  {nonce : Option Bytes} {input output : Bytes}

/-- What a key encrypts under a nonce of the right length, it decrypts. -/
theorem GcmAes256.decrypt_of_encrypt (hring : OpensSealed openWithin sealInPlace)
    (hnonce : ∀ bytes, nonce = some bytes → bytes.length = nonceLen)
    (h : self.encrypt sealInPlace nonce input = .ok output) :
    self.decrypt openWithin output = .ok input := by
  unfold GcmAes256.encrypt at h
  cases nonce with
  | none => cases h
  | some bytes =>
    dsimp only at h
    split_ifs at h with hkey
    cases hseal : sealInPlace self.secret bytes input with
    | none =>
      rw [hseal] at h
      cases h
    | some sealed =>
      rw [hseal] at h
      cases h
      have hlen : bytes.length = nonceLen := hnonce bytes rfl
      have hlong : nonceLen ≤ (bytes ++ sealed).length := by
        rw [List.length_append, hlen]
        exact Nat.le_add_right nonceLen _
      rw [decrypt, if_pos hkey, if_pos hlong, List.take_left' hlen, List.drop_left' hlen,
        hring _ _ _ _ hseal]

theorem GcmAes256.encrypt_error {e : CryptoError}
    (h : self.encrypt sealInPlace nonce input = .error e) : e = .encryptionError := by
  unfold GcmAes256.encrypt at h
  cases nonce with
  | none =>
    cases h
    rfl
  | some bytes =>
    dsimp only at h
    split_ifs at h
    · cases hseal : sealInPlace self.secret bytes input with
      | none =>
        rw [hseal] at h
        cases h
        rfl
      | some sealed =>
        rw [hseal] at h
        cases h
    · cases h
      rfl

end Envelopes

/-! ## Programs -/

section Programs

variable {state : TenantState} {x : KeyHolders} {α : Type}

/-- The program stores what is known, as long as it is told of nothing else. -/
abbrev KeepsKeyHolders (state : TenantState) {α : Type} (p : KeyApp α)
    (Q : α → KeyHolders → Prop) (x : KeyHolders) : Prop :=
  p.Safe (fun y c => c.Stores state y) (fun c reply y => KeyReply.Tells state y c reply) Q x

theorem KeyCmd.Stores.mono {c : KeyCmd} {y : KeyHolders} (h : c.Stores state x) (hxy : x ≤ y) :
    c.Stores state y := by
  cases c with
  | insertMerchant => exact h
  | cacheMerchant => exact KeyHolders.dek_mono hxy h
  | cacheEntity => exact KeyHolders.identifier_mono hxy h
  | _ => trivial

theorem MerchantInner.Known.mono {merchantId : String} {row : MerchantInner} {y : KeyHolders}
    (h : row.Known state merchantId x) (hxy : x ≤ y) : row.Known state merchantId y := by
  obtain ⟨merchant, hmerchant, hkey⟩ := h
  exact ⟨merchant, hmerchant, KeyHolders.dek_mono hxy hkey⟩

theorem KeyReply.Tells.mono {c : KeyCmd} {reply : KeyReply c} {y : KeyHolders}
    (h : KeyReply.Tells state x c reply) (hxy : x ≤ y) : KeyReply.Tells state y c reply := by
  cases c with
  | selectMerchant => exact fun row hrow => (h row hrow).mono hxy
  | insertMerchant => exact fun row hrow => (h row hrow).mono hxy
  | selectMerchantsExcludingEntities =>
    exact fun rows hrows row hrow => (h rows hrows row hrow).mono hxy
  | selectEntity =>
    exact fun row hrow => (h row hrow).imp_right (KeyHolders.identifier_mono hxy)
  | insertEntity => exact fun row hrow => KeyHolders.identifier_mono hxy (h row hrow)
  | lookupMerchant => exact fun value hvalue => KeyHolders.dek_mono hxy (h value hvalue)
  | lookupEntity => exact fun value hvalue => KeyHolders.identifier_mono hxy (h value hvalue)
  | _ => trivial

/-- A call, with what its reply tells. -/
theorem keepsKeys_perform (c : KeyCmd) (hc : c.Stores state x) :
    KeepsKeyHolders state (Prog.perform c) (fun reply y => KeyReply.Tells state y c reply) x :=
  Prog.safe_perform (fun _ hxy => hc.mono hxy) fun _ _ _ _ hreply hyz => hreply.mono hyz

/-- The errors of a key provider that leave its keys readable. -/
def Fault.OfStorage : Fault MerchantDBError → Prop
  | .error e => e ≠ .dekDecryptionError
  | .panicked => False

/-- `?` on the error of the storage. -/
theorem ofStorage_of_storageError (e : StorageError) :
    Fault.OfStorage (.error e.toMerchantDBError) := by cases e <;> exact fun h => by cases h

theorem ofStorage_of_dieselError (e : DieselError) :
    Fault.OfStorage (.error e.toMerchantDBError) := by cases e <;> exact fun h => by cases h

/-- What a call about a merchant answers: the DEK of the merchant, or an error of the
    storage. -/
def AnswersDek (merchantId : String) (reply : Except (Fault MerchantDBError) Merchant)
    (y : KeyHolders) : Prop :=
  match reply with
  | .ok merchant => merchant.encKey ∈ y.dek merchantId
  | .error e => e.OfStorage

theorem AnswersDek.mono {merchantId : String} {reply : Except (Fault MerchantDBError) Merchant}
    {y : KeyHolders} (h : AnswersDek merchantId reply x) (hxy : x ≤ y) :
    AnswersDek merchantId reply y := by
  cases reply with
  | ok merchant => exact KeyHolders.dek_mono hxy h
  | error e => exact h

/-- A call whose error `?` turns into one of the merchant interface. -/
theorem keepsKeys_changeError {ε : Type} {f : ε → Fault MerchantDBError}
    (hf : ∀ e, (f e).OfStorage) {p : KeyApp (Except ε α)} {Q : Except ε α → KeyHolders → Prop}
    (h : KeepsKeyHolders state p Q x) :
    KeepsKeyHolders state (changeError f p) (fun reply y => match reply with
      | .ok a => Q (.ok a) y
      | .error e => e.OfStorage) x := by
  refine Prog.Safe.mapResult (h.mono fun reply y _ hreply => ?_)
  cases reply with
  | ok a => exact hreply
  | error e => exact hf e

section Merchants

variable {aead : Aead} {merchantId : String} (haead : aead.openWithin = state.openWithin)
include haead

/-- A row that is known opens. -/
theorem answersDek_of_known {row : MerchantInner} {y : KeyHolders}
    (h : row.Known state merchantId y) :
    AnswersDek merchantId (row.decrypt aead.openWithin ⟨state.masterKey⟩) y := by
  obtain ⟨merchant, hmerchant, hkey⟩ := h
  have hdecrypt : row.decrypt aead.openWithin ⟨state.masterKey⟩ = .ok merchant := by
    rw [haead]
    exact hmerchant
  rw [hdecrypt]
  exact hkey

theorem keepsKeys_findByMerchantId :
    KeepsKeyHolders state (findByMerchantId aead merchantId ⟨state.masterKey⟩)
      (AnswersDek merchantId) x := by
  refine Prog.Safe.andThen (keepsKeys_changeError ofStorage_of_storageError
    (keepsKeys_perform .routeConn trivial)) (fun _ _ _ h => h) fun pool y _ _ => ?_
  refine Prog.Safe.andThen (keepsKeys_changeError ofStorage_of_dieselError
    (keepsKeys_perform (.selectMerchant pool merchantId) trivial)) (fun _ _ _ h => h)
    fun inner z _ hinner w hzw => ?_
  exact answersDek_of_known haead ((hinner inner rfl).mono hzw)

theorem keepsKeys_cachedFindByMerchantId :
    KeepsKeyHolders state (Caching.findByMerchantId aead merchantId ⟨state.masterKey⟩)
      (AnswersDek merchantId) x := by
  refine (keepsKeys_perform (.lookupMerchant merchantId) trivial).bind fun found y _ hfound => ?_
  cases (found : Option Merchant) with
  | some value => exact fun z hyz => KeyHolders.dek_mono hyz (hfound value rfl)
  | none =>
    refine Prog.Safe.andThen (keepsKeys_findByMerchantId haead) (fun _ _ _ h => h)
      fun merchant z _ hmerchant => Prog.Safe.mapResult ((keepsKeys_perform
        (.cacheMerchant merchantId merchant) hmerchant).mono fun _ w hzw _ => ?_)
    exact KeyHolders.dek_mono hzw hmerchant

/-- An insert stores a DEK that opens under the master key. -/
theorem keepsKeys_insertMerchant (hring : OpensSealed state.openWithin state.sealInPlace)
    (hseal : aead.sealInPlace = state.sealInPlace)
    (hnonce : ∀ nonce, aead.nonce = some nonce → nonce.length = nonceLen) (encKey : Bytes) :
    KeepsKeyHolders state (insertMerchant aead { merchantId, encKey } ⟨state.masterKey⟩)
      (AnswersDek merchantId) x := by
  refine Prog.Safe.andThen (keepsKeys_changeError ofStorage_of_storageError
    (keepsKeys_perform .getConn trivial)) (fun _ _ _ h => h) fun _ y _ _ => ?_
  unfold MerchantNew.encrypt
  cases hencrypt : (⟨state.masterKey⟩ : GcmAes256).encrypt aead.sealInPlace aead.nonce encKey with
  | error e =>
    cases GcmAes256.encrypt_error hencrypt
    exact fun _ _ h => by cases h
  | ok sealed =>
    rw [hseal] at hencrypt
    have hopens := GcmAes256.decrypt_of_encrypt hring hnonce hencrypt
    refine Prog.Safe.andThen (keepsKeys_changeError ofStorage_of_dieselError
      (keepsKeys_perform (.insertMerchant ⟨merchantId, sealed⟩) ⟨encKey, hopens⟩))
      (fun _ _ _ h => h) fun inner z _ hinner w hzw => ?_
    exact answersDek_of_known haead ((hinner inner rfl).mono hzw)

theorem keepsKeys_cachedInsertMerchant (hring : OpensSealed state.openWithin state.sealInPlace)
    (hseal : aead.sealInPlace = state.sealInPlace)
    (hnonce : ∀ nonce, aead.nonce = some nonce → nonce.length = nonceLen) (encKey : Bytes) :
    KeepsKeyHolders state (Caching.insertMerchant aead { merchantId, encKey } ⟨state.masterKey⟩)
      (AnswersDek merchantId) x := by
  refine Prog.Safe.andThen (keepsKeys_insertMerchant haead hring hseal hnonce encKey)
    (fun _ _ _ h => h) fun merchant z _ hmerchant => Prog.Safe.mapResult ((keepsKeys_perform
      (.cacheMerchant merchantId merchant) hmerchant).mono fun _ w hzw _ => ?_)
  exact KeyHolders.dek_mono hzw hmerchant

theorem keepsKeys_findOrCreateMerchant (hring : OpensSealed state.openWithin state.sealInPlace)
    (hseal : aead.sealInPlace = state.sealInPlace)
    (hnonce : ∀ nonce, aead.nonce = some nonce → nonce.length = nonceLen) (generatedKey : Bytes) :
    KeepsKeyHolders state
      (findOrCreateMerchant aead generatedKey merchantId ⟨state.masterKey⟩)
      (AnswersDek merchantId) x := by
  refine (keepsKeys_cachedFindByMerchantId haead).bind fun found y _ hfound => ?_
  cases found with
  | ok merchant => exact fun z hyz => hfound.mono hyz
  | error err =>
    dsimp only
    split_ifs
    · refine (keepsKeys_cachedInsertMerchant haead hring hseal hnonce generatedKey).bind
        fun inserted z _ hinserted => ?_
      cases inserted with
      | ok merchant => exact fun w hzw => hinserted.mono hzw
      | error err =>
        dsimp only
        split_ifs
        · exact keepsKeys_cachedFindByMerchantId haead
        · exact fun w hzw => hinserted.mono hzw
    · exact fun z hyz => hfound.mono hyz

end Merchants

/-! ### Entities -/

section Entities

variable {entityId : String}

/-- What a call about an entity answers: the key identifier of the entity. -/
def AnswersIdentifier {ε : Type} (entityId : String) (reply : Except ε Entity) (y : KeyHolders) :
    Prop :=
  ∀ entity, reply = .ok entity → entity.encKeyId ∈ y.identifier entityId

theorem AnswersIdentifier.mono {ε : Type} {reply : Except ε Entity} {y : KeyHolders}
    (h : AnswersIdentifier entityId reply x) (hxy : x ≤ y) : AnswersIdentifier entityId reply y :=
  fun entity hentity => KeyHolders.identifier_mono hxy (h entity hentity)

/-- A call of whose answer nothing is asked. -/
theorem keepsKeys_mapResult {β : Type} {p : KeyApp α} {Q : α → KeyHolders → Prop}
    (h : KeepsKeyHolders state p Q x) (f : α → β) :
    KeepsKeyHolders state (p.mapResult f) (fun _ _ => True) x :=
  Prog.Safe.mapResult (h.mono fun _ _ _ _ => trivial)

theorem keepsKeys_findByEntityId :
    KeepsKeyHolders state (findByEntityId entityId) (fun reply y => ∀ entity,
      reply = .ok entity → entity.entityId = entityId ∧ entity.encKeyId ∈ y.identifier entityId)
      x := by
  refine Prog.Safe.andThen (keepsKeys_mapResult (keepsKeys_perform .routeConn trivial) _)
    (fun _ _ _ _ _ h => by cases h) fun pool y _ _ => ?_
  refine Prog.Safe.mapResult ((keepsKeys_perform (.selectEntity pool entityId) trivial).mono
    fun reply z _ hreply entity h => ?_)
  cases (reply : Except DieselError Entity) with
  | error e => cases h
  | ok row =>
    cases h
    exact hreply _ rfl

theorem keepsKeys_cachedFindByEntityId :
    KeepsKeyHolders state (Caching.findByEntityId entityId) (AnswersIdentifier entityId) x := by
  refine (keepsKeys_perform (.lookupEntity entityId) trivial).bind fun found y _ hfound => ?_
  cases (found : Option Entity) with
  | some value =>
    intro z hyz entity h
    cases h
    exact KeyHolders.identifier_mono hyz (hfound _ rfl)
  | none =>
    refine Prog.Safe.andThen keepsKeys_findByEntityId (fun _ _ _ _ _ h => by cases h)
      fun output z _ houtput => ?_
    obtain ⟨hkey, hid⟩ := houtput output rfl
    refine Prog.Safe.mapResult ((keepsKeys_perform (.cacheEntity output.entityId output)
      (by rw [hkey]; exact hid)).mono fun _ w hzw _ entity h => ?_)
    cases h
    exact KeyHolders.identifier_mono hzw hid

theorem keepsKeys_insertEntity (identifier : String) :
    KeepsKeyHolders state (insertEntity entityId identifier) (AnswersIdentifier entityId) x := by
  refine Prog.Safe.andThen (keepsKeys_mapResult (keepsKeys_perform .getConn trivial) _)
    (fun _ _ _ _ _ h => by cases h) fun pool y _ _ => ?_
  refine Prog.Safe.mapResult ((keepsKeys_perform (.insertEntity ⟨entityId, identifier⟩)
    trivial).mono fun reply z _ hreply entity h => ?_)
  cases (reply : Except DieselError Entity) with
  | error e => cases h
  | ok row =>
    cases h
    exact hreply _ rfl

theorem keepsKeys_cachedInsertEntity (identifier : String) :
    KeepsKeyHolders state (Caching.insertEntity entityId identifier)
      (AnswersIdentifier entityId) x := by
  refine Prog.Safe.andThen (keepsKeys_insertEntity identifier) (fun _ _ _ _ _ h => by cases h)
    fun output z _ houtput => Prog.Safe.mapResult ((keepsKeys_perform
      (.cacheEntity entityId output) (houtput output rfl)).mono fun _ w hzw _ entity h => ?_)
  cases h
  exact KeyHolders.identifier_mono hzw (houtput _ rfl)

theorem keepsKeys_findOrCreateEntity (nanoId : String) :
    KeepsKeyHolders state (findOrCreateEntity nanoId entityId) (AnswersIdentifier entityId) x := by
  refine keepsKeys_cachedFindByEntityId.bind fun found y _ hfound => ?_
  cases found with
  | ok entity =>
    intro z hyz entity' h
    cases h
    exact KeyHolders.identifier_mono hyz (hfound _ rfl)
  | error innerErr =>
    dsimp only
    split_ifs
    · refine Prog.Safe.andThen (keepsKeys_mapResult (keepsKeys_perform (.createKey nanoId) trivial)
        _) (fun _ _ _ _ _ h => by cases h) fun identifier z _ _ => ?_
      refine Prog.Safe.mapResult ((keepsKeys_cachedInsertEntity identifier).mono
        fun reply w _ hreply entity h => ?_)
      cases reply with
      | error e => cases h
      | ok row =>
        cases h
        exact hreply _ rfl
    · exact fun _ _ _ h => by cases h

end Entities

/-! ### Migration -/

/-- A migration inserts entity rows only, whatever order its parts take. -/
theorem keepsKeys_transferKeys (aead : Aead) (masterKey : Bytes) (limit : ℤ)
    (nanoIds : ℕ → String) (schedule : List ℕ) :
    KeepsKeyHolders state (transferKeys aead masterKey limit nanoIds schedule)
      (fun _ _ => True) x := by
  have hfind : KeepsKeyHolders state (findAllKeysExcludingEntityKeys aead ⟨masterKey⟩ limit)
      (fun _ _ => True) x := by
    refine Prog.Safe.andThen (keepsKeys_mapResult (keepsKeys_perform .routeConn trivial) _)
      (fun _ _ _ _ => trivial) fun pool y _ _ => ?_
    exact Prog.Safe.andThen (keepsKeys_mapResult (keepsKeys_perform
      (.selectMerchantsExcludingEntities pool limit) trivial) _) (fun _ _ _ _ => trivial)
      fun _ _ _ _ _ _ => trivial
  refine hfind.bind fun found y _ _ => ?_
  obtain (e | _) | merchantKeys := found
  · exact fun _ _ => trivial
  · exact fun _ _ => trivial
  · refine keepsKeys_mapResult (keepsKeys_mapResult (Prog.safe_tryJoinAll schedule
      fun p hp => ?_) _) _
    obtain ⟨⟨merchant, i⟩, -, rfl⟩ := List.mem_map.1 hp
    refine Prog.Safe.andThen (Q := fun _ _ => True) ?_ (fun _ _ _ _ => trivial)
      fun identifier z _ _ => keepsKeys_mapResult (keepsKeys_cachedInsertEntity identifier) _
    exact (keepsKeys_perform (.transferKey (nanoIds i) (base64Encode merchant.encKey))
      trivial).mono fun _ _ _ _ => trivial

end Programs

end CardVault
