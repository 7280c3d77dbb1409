import CardVault.Api.App
import CardVault.Lib.Text

/-!
# Card routes

`POST /data/add`, `/data/retrieve` and `/data/delete` (`src/src/routes/data.rs`) with
their requests and answers, the checks of a request (`src/src/routes/data/types.rs`,
`src/src/validations.rs`) and the crypto operations on stored data
(`src/src/routes/data/crypto_operation.rs`).

`serde_json` and SHA-512 are parameters.
-/

namespace CardVault

open Interaction

/-! ## Card numbers -/

/-- `MIN_CARD_NUMBER_LENGTH`. -/
def minCardNumberLength : ℕ := 8

/-- `MAX_CARD_NUMBER_LENGTH`. -/
def maxCardNumberLength : ℕ := 19

/-- `validate_card_number_chars`. -/
def validateCardNumberChars (number : List Char) : Except ApiError (List ℕ) :=
  if number.all Char.isDigit then .ok (number.map fun c => c.toNat - '0'.toNat)
  else .error (.validationError "invalid character found in card number")

/-- `validate_card_number_length`. -/
def validateCardNumberLength (number : List ℕ) : Except ApiError (List ℕ) :=
  if minCardNumberLength ≤ number.length ∧ number.length ≤ maxCardNumberLength then .ok number
  else .error (.validationError "invalid card number length")

/-- `luhn`: from the right, every second digit is doubled and its digits added. -/
def luhn (number : List ℕ) : Bool :=
  ((number.reverse.zipIdx.map fun (element, idx) =>
    ((element * 2) / 10 + (element * 2) % 10) * (idx % 2) + element * ((idx + 1) % 2)).sum) % 10 = 0

/-- `sanitize_card_number`. -/
def sanitizeCardNumber (cardNumber : String) : Except ApiError Bool :=
  match validateCardNumberChars (cardNumber.toList.filter fun c => !Text.isWhiteSpace c) with
  | .error e => .error e
  | .ok number => (validateCardNumberLength number).map luhn

/-- `CardNumber::validate`. -/
def validateCardNumber (cardNumber : String) : Except ApiError Unit :=
  match sanitizeCardNumber cardNumber with
  | .error e => .error e
  | .ok true => .ok ()
  | .ok false => .error (.validationError "card number invalid")

/-! ## Requests and answers -/

/-- `Card`. -/
structure Card where
  cardNumber : String
  nameOnCard : Option String
  cardExpMonth : Option String
  cardExpYear : Option String
  cardBrand : Option String
  cardIsin : Option String
  nickName : Option String
  deriving DecidableEq, Repr

/-- `Data`. -/
inductive Data where
  | encData (encCardData : String)
  | card (card : Card)
  deriving DecidableEq, Repr

/-- `StoredData`. -/
inductive StoredData where
  | encData (encCardData : String)
  | cardData (card : Card)
  deriving DecidableEq, Repr

/-- `StoreCardRequest`. -/
structure StoreCardRequest where
  merchantId : String
  merchantCustomerId : String
  requestorCardReference : Option String
  data : Data
  ttl : Option PrimitiveDateTime
  deriving DecidableEq, Repr

/-- `DataDuplicationCheck`. -/
inductive DataDuplicationCheck where
  | duplicated
  | metaDataChanged
  deriving DecidableEq, Repr

/-- `StoreCardRespPayload`, the payload of a `StoreCardResponse`; the status is always
    `Ok`, and `dedup` is always `None`. -/
structure StoreCardRespPayload where
  cardReference : String
  duplicationCheck : Option DataDuplicationCheck
  deriving DecidableEq, Repr

/-- `RetrieveCardRequest`. -/
structure RetrieveCardRequest where
  merchantId : String
  merchantCustomerId : String
  cardReference : String
  deriving DecidableEq, Repr

/-- `RetrieveCardRespPayload`, the payload of a `RetrieveCardResponse`. -/
structure RetrieveCardRespPayload where
  card : Option Card
  encCardData : Option String
  deriving DecidableEq, Repr

/-- `DeleteCardRequest`. -/
structure DeleteCardRequest where
  merchantId : String
  merchantCustomerId : String
  cardReference : String
  deriving DecidableEq, Repr

/-- `Ttl::validate`. -/
def validateTtl (now : PrimitiveDateTime) : Option PrimitiveDateTime → Except ApiError Unit
  | some ttl => if ttl.nanos ≤ now.nanos then .error .invalidTtl else .ok ()
  | none => .ok ()

/-- `StoreCardRequest::validate`. -/
def StoreCardRequest.validate (now : PrimitiveDateTime) (self : StoreCardRequest) :
    Except ApiError Unit :=
  match validateTtl now self.ttl with
  | .error e => .error e
  | .ok () =>
    match self.data with
    | .encData _ => .ok ()
    | .card card => validateCardNumber card.cardNumber

/-- What is stored of the data of a request. -/
def Data.toStored : Data → StoredData
  | .card requestCard => .cardData requestCard
  | .encData encCardData => .encData encCardData

/-- The fields of an answer that carry stored data. -/
def StoredData.toPayload : StoredData → RetrieveCardRespPayload
  | .encData data => { card := none, encCardData := some data }
  | .cardData card => { card := some card, encCardData := none }

/-- `impl PartialEq<Data> for StoredData`. -/
def StoredData.eqData : StoredData → Data → Bool
  | .encData requestEncCardData, .encData encCardData => requestEncCardData = encCardData
  | .cardData requestCard, .card card => requestCard = card
  | _, _ => false

/-- The part of the data that is hashed. -/
def Data.hashed : Data → String
  | .encData encCardData => encCardData
  | .card requestCard => requestCard.cardNumber

/-- `serde_json` on stored data and on text, and SHA-512. -/
structure Encoding where
  /-- `serde_json::to_vec` of a `StoredData` -/
  toVec : StoredData → Bytes
  /-- `serde_json::from_slice::<StoredData>` -/
  fromSlice : Bytes → Option StoredData
  /-- `serde_json::to_vec` of a `String` -/
  textToVec : String → Bytes
  /-- SHA-512 -/
  sha512 : Bytes → Bytes

/-- What is stored is read back as it was. -/
def Encoding.RoundTrips (encoding : Encoding) : Prop :=
  ∀ data, encoding.fromSlice (encoding.toVec data) = some data

/-- `get_hash`. -/
def getHash (encoding : Encoding) (request : Data) : Bytes :=
  encoding.sha512 (encoding.textToVec request.hashed)

/-! ## Crypto operations -/

section CryptoOperations

variable (state : TenantState) (drawn : Drawn) (encoding : Encoding)

/-- `LockerNew::new`. -/
def newLocker (now : PrimitiveDateTime) (request : StoreCardRequest) (hashId : String)
    (encData : Bytes) : LockerNew :=
  { lockerId := request.requestorCardReference.getD drawn.uuid
    merchantId := request.merchantId
    customerId := request.merchantCustomerId
    encData
    createdAt := now
    hashId
    ttl := request.ttl
    updatedBy := some .postgresOnly }

/-- `encrypt_data_and_insert_into_db`. -/
def encryptDataAndInsertIntoDb (cryptoOperator : CryptoOperationsManager)
    (request : StoreCardRequest) (hashId : String) :
    ApiApp (Except (Fault ApiError) Locker) :=
  let dataToBeEncrypted := encoding.toVec request.data.toStored
  (cryptoOperator.encryptData state drawn dataToBeEncrypted).andThen fun encryptedData =>
    dateTimeNow.bind fun now =>
      orApiError VaultDBError.toApiError
        (liftKv (getOrInsertLocker state.db (newLocker drawn now request hashId encryptedData)))

/-- `decrypt_data` of a locker. -/
def decryptLocker (cryptoOperator : CryptoOperationsManager) (data : Locker) :
    ApiApp (Except (Fault ApiError) Locker) :=
  match data.data with
  | .encrypted encryptedData =>
    (cryptoOperator.decryptData state encryptedData).andThen fun decryptedData =>
      .pure (.ok { data with data := .decrypted decryptedData })
  | .decrypted _ => .pure (.ok data)

/-- The stored data of a decrypted locker. -/
def storedData (locker : Locker) : Except (Fault ApiError) StoredData :=
  match locker.data with
  | .encrypted _ => .error (.error .decodingError)
  | .decrypted data =>
    match encoding.fromSlice data with
    | some stored => .ok stored
    | none => .error (.error .decodingError)

/-- `get_data_duplication_status`. -/
def getDataDuplicationStatus (storedPayload : Locker) (requestData : Data) :
    Except (Fault ApiError) DataDuplicationCheck :=
  (storedData encoding storedPayload).map fun stored =>
    if stored.eqData requestData then .duplicated else .metaDataChanged

end CryptoOperations

/-! ## Handlers -/

section Handlers

variable (state : TenantState) (drawn : Drawn) (encoding : Encoding)

/-- `StoreCardResponse::from`. -/
def storeCardResponse (duplicationCheck : Option DataDuplicationCheck) (value : Locker) :
    StoreCardRespPayload :=
  { cardReference := value.lockerId, duplicationCheck }

/-- `add_card`: a locker found by the hash of the data is compared with the request. -/
def addCardFound (cryptoManager : CryptoOperationsManager) (request : StoreCardRequest)
    (locker : Locker) : ApiApp (Except (Fault ApiError) StoreCardRespPayload) :=
  (decryptLocker state cryptoManager locker).andThen fun decryptedLockerData =>
    (Prog.pure (getDataDuplicationStatus encoding decryptedLockerData request.data)).andThen
      fun duplicationCheck =>
        .pure (.ok (storeCardResponse (some duplicationCheck) decryptedLockerData))

/-- `add_card`: the data is encrypted and inserted. -/
def addCardInserted (cryptoManager : CryptoOperationsManager) (request : StoreCardRequest)
    (hashId : String) : ApiApp (Except (Fault ApiError) StoreCardRespPayload) :=
  (encryptDataAndInsertIntoDb state drawn encoding cryptoManager request hashId).andThen
    fun encryptedLockerData => .pure (.ok (storeCardResponse none encryptedLockerData))

/-- `add_card`. -/
def addCard (request : StoreCardRequest) :
    ApiApp (Except (Fault ApiError) StoreCardRespPayload) :=
  (dateTimeNow.mapResult fun now => (request.validate now).mapError .error).andThen fun _ =>
    let hashData := getHash encoding request.data
    (orApiError HashDBError.toApiError
      (liftKv (Caching.findOptionalByDataHash state.db hashData))).andThen fun optionalHashTable =>
        (findOrCreateKeyHolder state drawn request.merchantId).andThen fun cryptoManager =>
          match optionalHashTable with
          | some hashTable =>
            (orApiError VaultDBError.toApiError (liftKv
              (findOptionalByHashIdMerchantIdCustomerId state.db hashTable.hashId
                request.merchantId request.merchantCustomerId))).andThen fun
              | some locker => addCardFound state encoding cryptoManager request locker
              | none =>
                addCardInserted state drawn encoding cryptoManager request hashTable.hashId
          | none =>
            dateTimeNow.bind fun now =>
              (orApiError HashDBError.toApiError
                (liftKv (insertOrGetHash state.db drawn.hashUuid now hashData))).andThen
                  fun hashTable =>
                    addCardInserted state drawn encoding cryptoManager request hashTable.hashId

/-- `delete_card`; the answer has no data. -/
def deleteCard (request : DeleteCardRequest) : ApiApp (Except (Fault ApiError) Unit) :=
  (findKeyHolder state request.merchantId).andThen fun _ =>
    (orApiError VaultDBError.toApiError (liftKv
      (deleteLocker state.db request.cardReference request.merchantId
        request.merchantCustomerId))).andThen fun _ => .pure (.ok ())

/-- The check of `ttl` in `retrieve_card` and `retrieve_data`: an expired row is
    deleted behind the caller's back. -/
def checkTtl (ttl : Option PrimitiveDateTime) (task : TtlDeletion) :
    ApiApp (Except (Fault ApiError) Unit) :=
  match ttl with
  | none => .pure (.ok ())
  | some ttl =>
    dateTimeNow.bind fun now =>
      if ttl.nanos < now.nanos then
        (spawn task).bind fun _ => .pure (.error (.error .notFoundError))
      else .pure (.ok ())

/-- `retrieve_card`. -/
def retrieveCard (request : RetrieveCardRequest) :
    ApiApp (Except (Fault ApiError) RetrieveCardRespPayload) :=
  (findKeyHolder state request.merchantId).andThen fun cryptoManager =>
    (orApiError VaultDBError.toApiError (liftKv
      (findByLockerIdMerchantIdCustomerId state.db request.cardReference request.merchantId
        request.merchantCustomerId))).andThen fun locker =>
          (decryptLocker state cryptoManager locker).andThen fun decryptedLockerData =>
            (checkTtl decryptedLockerData.ttl (.locker request.cardReference request.merchantId
              request.merchantCustomerId)).andThen fun _ =>
                .pure ((storedData encoding decryptedLockerData).map StoredData.toPayload)

end Handlers

end CardVault
