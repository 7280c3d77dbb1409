import CardVault.Api.Adds
import Mathlib.Data.Countable.Basic
import Mathlib.Logic.Equiv.List
import Mathlib.Logic.Function.Basic

/-!
# An add that reports nothing

`add_card` answers without a duplication check when it has inserted the data, and also
when `get_or_insert` ran into a locker with the same reference and answered that one.

Main results:
* `addCard_stores_iff`: when a retrieve after such an add answers what was sent.
* `addCard_hides_data`: a reused `requestor_card_reference`.
-/

namespace CardVault

open Interaction

/-- The key of the locker that an add inserts. -/
def lockerKey (drawn : Drawn) (request : StoreCardRequest) : LockerPrimaryKeyType :=
  ⟨request.requestorCardReference.getD drawn.uuid, request.merchantId, request.merchantCustomerId⟩

section Claim

variable {σ : Type} {service : KeyService σ} {dataService : DataService σ}
  {s s' t : ApiState σ} {state : TenantState} {drawn : Drawn} {encoding : Encoding}
  {request : StoreCardRequest} {manager : CryptoOperationsManager}

theorem Retrieves.congr {row : LockerInner} {stored : StoredData} (hkeys : s.keys = t.keys)
    (hnow : s.now = t.now) (h : Retrieves service dataService state encoding manager t row stored) :
    Retrieves service dataService state encoding manager s row stored := by
  obtain ⟨⟨data, hopen, hread⟩, hlive⟩ := h
  refine ⟨⟨data, ?_, hread⟩, by rwa [hnow]⟩
  rw [run_decryptData s t hkeys]
  exact hopen

/-- Before an add: no locker is in the way, and the `ttl` is not shortened into the past
    on its way into Postgres; or the locker that is found under the answered reference
    has the data of the request already. -/
def StoresSent (service : KeyService σ) (dataService : DataService σ) (state : TenantState)
    (drawn : Drawn) (encoding : Encoding) (request : StoreCardRequest) (s : ApiState σ)
    (cardReference : String) : Prop :=
  match s.kv.inTheWay (lockerKey drawn request) with
  | none => Unexpired (s.kv.storedTtl request.ttl) s.now
  | some _ => ∃ manager t row,
      (findOrCreateKeyHolder state drawn request.merchantId).run
        (ApiState.exec service dataService) s = (.ok manager, t) ∧
      s.kv.visible (LockerPrimaryKeyType.getPartitionKey
        ⟨cardReference, request.merchantId, request.merchantCustomerId⟩) = some (.locker row) ∧
      Retrieves service dataService state encoding manager t row request.data.toStored

/-- After an add that answers without a duplication check, a retrieve answers the data of
    the request if and only if no other data was in the way. -/
theorem addCard_stores_iff {cardReference : String} (hround : encoding.RoundTrips)
    (hdecrypts : Decrypts state drawn dataService)
    (hadd : (addCard state drawn encoding request).run (ApiState.exec service dataService) s =
      (.ok ⟨cardReference, none⟩, s')) :
    ((retrieveCard state encoding
        ⟨request.merchantId, request.merchantCustomerId, cardReference⟩).run
      (ApiState.exec service dataService) s').1 = .ok request.data.toStored.toPayload ↔
        StoresSent service dataService state drawn encoding request s cardReference := by
  obtain ⟨manager, t, hashId, encrypted, locker, kv, hkey, hkeys, hnow, hdecrypt, hsame, hget,
    hreference⟩ := addCard_inserted hdecrypts hadd rfl
  obtain ⟨hframe, hfound⟩ := findKeyHolder_of_findOrCreate hkey
  have htime : t.now = s.now := by rw [hframe]
  have hinsert := getOrInsertLocker_ok state.db hget
  rw [hsame.inTheWay] at hinsert
  rw [retrieveCard_ok_iff ⟨cardReference, request.merchantId, request.merchantCustomerId⟩
    request.data.toStored (hfound s' hkeys)]
  unfold StoresSent
  cases hway : s.kv.inTheWay (lockerKey drawn request) with
  | none =>
    have hnew : s.kv.inTheWay (newLocker drawn s.now request hashId encrypted).primaryKey = none :=
      hway
    rw [hnew] at hinsert
    obtain ⟨hlocker, row, hvisible, hdata, httl⟩ := hinsert
    have hkeyed : cardReference = request.requestorCardReference.getD drawn.uuid :=
      hreference.trans hlocker
    rw [hkeyed]
    rw [hsame.storedTtl] at httl
    change row.ttl = s.kv.storedTtl request.ttl at httl
    constructor
    · rintro ⟨found, hfound, hopens⟩
      obtain rfl := Row.locker.inj (Option.some.inj (hvisible.symm.trans hfound))
      rw [← httl, ← hnow]
      exact hopens.live
    · intro hlive
      refine ⟨row, hvisible, ⟨_, ?_, hround _⟩, ?_⟩
      · rw [hdata, run_decryptData s' t hkeys]
        exact hdecrypt
      · rwa [httl, hnow]
  | some row =>
    have hheld : s.kv.inTheWay (newLocker drawn s.now request hashId encrypted).primaryKey =
        some row := hway
    rw [hheld] at hinsert
    have hvisible := (hinsert ⟨cardReference, request.merchantId, request.merchantCustomerId⟩).trans
      (hsame.visible _)
    rw [hvisible]
    constructor
    · rintro ⟨found, hfound, hopens⟩
      exact ⟨manager, t, found, hkey, hfound, hopens.congr hkeys.symm (htime.trans hnow.symm)⟩
    · rintro ⟨manager', t', found, hkey', hfound, hopens⟩
      cases hkey.symm.trans hkey'
      exact ⟨found, hfound, hopens.congr hkeys (hnow.trans htime.symm)⟩

end Claim

/-! ## A reused reference -/

section Reused

/-- Text as it stands in JSON, where nothing in it is escaped. -/
def jsonText (text : String) : Bytes := ("\"" ++ text ++ "\"").toUTF8.data.toList

/-- `serde_json::to_vec` of `StoredData::EncData`, where nothing in it is escaped. -/
def jsonEncData (text : String) : Bytes :=
  ("\x7b\"EncData\":\"" ++ text ++ "\"\x7d").toUTF8.data.toList

/-- The texts of stored data. -/
def StoredData.texts : StoredData → List (Option (List Char))
  | .encData data => [some data.toList]
  | .cardData card => [some card.cardNumber.toList, card.nameOnCard.map String.toList,
      card.cardExpMonth.map String.toList, card.cardExpYear.map String.toList,
      card.cardBrand.map String.toList, card.cardIsin.map String.toList,
      card.nickName.map String.toList]

instance countableChar : Countable Char :=
  Function.Injective.countable (f := Char.toNat) fun _ _ => Char.toNat_inj.1

theorem StoredData.texts_injective : Function.Injective StoredData.texts := by
  have htext : Function.Injective String.toList := fun _ _ => String.toList_inj.1
  have hopt : Function.Injective (Option.map String.toList) := Option.map_injective htext
  intro stored stored' h
  cases stored with
  | encData data =>
    cases stored' with
    | encData data' =>
      simp only [StoredData.texts, List.cons.injEq, Option.some.injEq, and_true] at h
      rw [htext h]
    | cardData card => simp only [StoredData.texts, List.cons.injEq, reduceCtorEq, and_false] at h
  | cardData card =>
    cases stored' with
    | encData data => simp only [StoredData.texts, List.cons.injEq, reduceCtorEq, and_false] at h
    | cardData card' =>
      obtain ⟨n, name, month, year, brand, isin, nick⟩ := card
      obtain ⟨n', name', month', year', brand', isin', nick'⟩ := card'
      simp only [StoredData.texts, List.cons.injEq, Option.some.injEq, and_true] at h
      obtain ⟨h₁, h₂, h₃, h₄, h₅, h₆, h₇⟩ := h
      rw [htext h₁, hopt h₂, hopt h₃, hopt h₄, hopt h₅, hopt h₆, hopt h₇]

theorem exists_index : ∃ index : StoredData → ℕ, Function.Injective index := by
  obtain ⟨f, hf⟩ := Countable.exists_injective_nat (List (Option (List Char)))
  exact ⟨f ∘ StoredData.texts, hf.comp StoredData.texts_injective⟩

/-- A number for each stored data. -/
noncomputable def StoredData.index : StoredData → ℕ := Classical.choose exists_index

/-- An encoding that is JSON and SHA-512 on the two texts below. -/
noncomputable def sampleEncoding : Encoding where
  toVec data :=
    if data = .encData "new" then jsonEncData "new"
    else if data = .encData "old" then jsonEncData "old"
    else List.replicate data.index 0
  fromSlice bytes :=
    if bytes = jsonEncData "new" then some (.encData "new")
    else if bytes = jsonEncData "old" then some (.encData "old")
    else Function.partialInv StoredData.index bytes.length
  textToVec := jsonText
  sha512 bytes :=
    if bytes = jsonText "new" then
      [40, 117, 232, 81, 73, 200, 199, 224, 66, 214, 156, 95, 97, 254, 231, 173,
      237, 120, 206, 22, 240, 23, 80, 115, 60, 242, 115, 208, 158, 78, 18, 54,
      75, 238, 118, 203, 18, 178, 47, 226, 43, 206, 206, 22, 19, 37, 144, 39,
      125, 163, 92, 185, 214, 55, 50, 143, 69, 141, 14, 96, 46, 232, 219, 29]
    else
      [20, 163, 217, 245, 228, 9, 131, 8, 210, 85, 0, 220, 243, 255, 152, 80,
      215, 146, 223, 29, 100, 11, 62, 227, 94, 144, 44, 197, 210, 113, 175, 88,
      180, 72, 99, 39, 161, 55, 33, 88, 119, 92, 51, 84, 22, 196, 169, 20,
      230, 187, 237, 204, 209, 251, 109, 29, 24, 85, 231, 178, 189, 192, 234, 195]

theorem sampleEncoding_roundTrips : sampleEncoding.RoundTrips := by
  have hindex : Function.Injective StoredData.index := Classical.choose_spec exists_index
  have hjson : ∀ {bytes : Bytes} (n : ℕ), bytes.head? = some 123 →
      List.replicate n 0 ≠ bytes := by
    rintro bytes n hhead rfl
    cases n with
    | zero => cases hhead
    | succ n => cases hhead
  have hnewHead : (jsonEncData "new").head? = some 123 := by decide +kernel
  have holdHead : (jsonEncData "old").head? = some 123 := by decide +kernel
  have hne : jsonEncData "old" ≠ jsonEncData "new" := by decide +kernel
  intro data
  unfold sampleEncoding
  dsimp only
  by_cases hnew : data = .encData "new"
  · rw [if_pos hnew, if_pos rfl, hnew]
  · rw [if_neg hnew]
    by_cases hold : data = .encData "old"
    · rw [if_pos hold, if_neg hne, if_pos rfl, hold]
    · rw [if_neg hold, if_neg (hjson _ hnewHead), if_neg (hjson _ holdHead),
        List.length_replicate]
      exact Function.partialInv_left hindex data

/-- An external key manager whose ciphertexts begin with the key they are sealed under. It
    opens none of another key. -/
def sampleDataService : DataService Unit where
  encrypt _ identifier data := .ok (identifier.toUTF8.data.toList ++ data)
  decrypt _ identifier data :=
    let key := identifier.toUTF8.data.toList
    if data.take key.length = key then .ok (data.drop key.length) else .error .decryptionFailed

theorem decrypt_of_encrypt_sample {x : Unit} {identifier : String} {data encrypted : Bytes}
    (h : sampleDataService.encrypt x identifier data = .ok encrypted) :
    sampleDataService.decrypt x identifier encrypted = .ok data := by
  cases h
  simp [sampleDataService]

/-- A key service that names a key after the identifier it is asked for. -/
def sampleKeyService : KeyService Unit where
  create _ identifier := some ("key " ++ identifier, ())
  transfer _ identifier _ := some ("key " ++ identifier, ())
  key _ _ := none

/-- A tenant with the external key manager. -/
def sampleTenant : TenantState where
  db := KvStoreContext.default
  masterKey := []
  externalKeyManager := true
  openWithin _ _ _ := none
  sealInPlace _ _ _ := none

def sampleDrawn (id : String) : Drawn where
  uuid := "uuid"
  hashUuid := id
  nanoId := id
  dek := []
  dekNonce := none
  dataNonce := none

theorem decrypts_sampleTenant (hashUuid : String) :
    Decrypts sampleTenant (sampleDrawn hashUuid) sampleDataService where
  openWithin _ _ _ _ h := nomatch h
  nonce _ h := nomatch h
  service _ _ _ _ h := decrypt_of_encrypt_sample h

/-- No card yet, in the mode without Redis. -/
def noCardAdded : ApiState Unit where
  kv := Store.fresh none false Pg.empty
  keys := KeyStore.emptyKeyStore ()
  now := ⟨0⟩
  spawned := []

def sampleAdd (text : String) : StoreCardRequest where
  merchantId := "merchant"
  merchantCustomerId := "customer"
  requestorCardReference := some "card"
  data := .encData text
  ttl := none

/-- A card was added before. -/
noncomputable def oneCardAdded : ApiState Unit :=
  ((addCard sampleTenant (sampleDrawn "first") sampleEncoding (sampleAdd "old")).run
    (ApiState.exec sampleKeyService sampleDataService) noCardAdded).2

theorem run_firstAdd :
    (addCard sampleTenant (sampleDrawn "first") sampleEncoding (sampleAdd "old")).run
      (ApiState.exec sampleKeyService sampleDataService) noCardAdded =
        (.ok ⟨"card", none⟩, oneCardAdded) :=
  Prod.ext (by decide +kernel) rfl

/-- The first card is retrieved as it was sent. -/
theorem addCard_stores_first :
    ((retrieveCard sampleTenant sampleEncoding ⟨"merchant", "customer", "card"⟩).run
      (ApiState.exec sampleKeyService sampleDataService) oneCardAdded).1 =
        .ok (sampleAdd "old").data.toStored.toPayload :=
  (addCard_stores_iff sampleEncoding_roundTrips (decrypts_sampleTenant "first") run_firstAdd).2
    fun _ h => nomatch h

/-- Another card was added under the same reference. -/
noncomputable def twoCardsAdded : ApiState Unit :=
  ((addCard sampleTenant (sampleDrawn "second") sampleEncoding (sampleAdd "new")).run
    (ApiState.exec sampleKeyService sampleDataService) oneCardAdded).2

theorem run_secondAdd :
    (addCard sampleTenant (sampleDrawn "second") sampleEncoding (sampleAdd "new")).run
      (ApiState.exec sampleKeyService sampleDataService) oneCardAdded =
        (.ok ⟨"card", none⟩, twoCardsAdded) := by
  have hanswer : ((addCard sampleTenant (sampleDrawn "second") sampleEncoding
      (sampleAdd "new")).run (ApiState.exec sampleKeyService sampleDataService) oneCardAdded).1 =
        .ok ⟨"card", none⟩ := by decide +kernel
  unfold twoCardsAdded
  rw [← hanswer]

/-- Another card under the same reference is answered without a duplication check, and
    the first one is retrieved. -/
theorem addCard_hides_data :
    sampleEncoding.RoundTrips ∧
      Decrypts sampleTenant (sampleDrawn "second") sampleDataService ∧
      (addCard sampleTenant (sampleDrawn "second") sampleEncoding (sampleAdd "new")).run
        (ApiState.exec sampleKeyService sampleDataService) oneCardAdded =
          (.ok ⟨"card", none⟩, twoCardsAdded) ∧
      ((retrieveCard sampleTenant sampleEncoding ⟨"merchant", "customer", "card"⟩).run
        (ApiState.exec sampleKeyService sampleDataService) twoCardsAdded).1 =
          .ok (sampleAdd "old").data.toStored.toPayload ∧
      (sampleAdd "old").data.toStored.toPayload ≠ (sampleAdd "new").data.toStored.toPayload :=
  ⟨sampleEncoding_roundTrips, decrypts_sampleTenant "second", run_secondAdd, by decide +kernel,
    by decide⟩

end Reused

end CardVault
