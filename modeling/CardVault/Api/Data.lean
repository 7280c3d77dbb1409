import CardVault.Api.Cards
import CardVault.Dedup.Call

/-!
# Data, fingerprint and entity routes

`POST /api/v2/vault/add`, `/api/v2/vault/retrieve` and `/api/v2/vault/delete`
(`src/src/routes/routes_v2/data.rs`) with their requests and answers
(`src/src/routes/routes_v2/data/types.rs`), `POST /data/fingerprint`
(`src/src/routes/data.rs`) and `POST /entity` (`src/src/routes/entity.rs`).

`serde_json` on values is a parameter.
-/

namespace CardVault

open Interaction

/-! ## Requests and answers -/

section Types

variable (V : Type)

/-- `StoreDataRequest`; `V` is `serde_json::Value`. -/
structure StoreDataRequest where
  entityId : String
  vaultId : String
  data : V
  ttl : Option PrimitiveDateTime
  deriving DecidableEq, Repr

/-- `RetrieveDataResponse`. -/
structure RetrieveDataResponse where
  data : V
  deriving DecidableEq, Repr

/-- `serde_json` on values. -/
structure ValueEncoding where
  /-- `serde_json::to_vec` -/
  toVec : V → Bytes
  /-- `serde_json::from_slice` -/
  fromSlice : Bytes → Option V

end Types

/-- `WriteMode`, the query parameter `mode` of `add_data`. -/
inductive WriteMode where
  | insert
  | upsert
  deriving DecidableEq, Repr

/-- `StoreDataResponse`. -/
structure StoreDataResponse where
  entityId : String
  vaultId : String
  deriving DecidableEq, Repr

/-- `RetrieveDataRequest`. -/
structure RetrieveDataRequest where
  entityId : String
  vaultId : String
  deriving DecidableEq, Repr

/-- `DeleteDataRequest`. -/
structure DeleteDataRequest where
  entityId : String
  vaultId : String
  deriving DecidableEq, Repr

/-- `DeleteDataResponse`. -/
structure DeleteDataResponse where
  entityId : String
  vaultId : String
  deriving DecidableEq, Repr

/-- `FingerprintRequest`. -/
structure FingerprintRequest where
  data : String
  key : String
  deriving DecidableEq, Repr

/-- `FingerprintResponse`. -/
structure FingerprintResponse where
  fingerprintId : String
  deriving DecidableEq, Repr

variable {V : Type}

/-- `StoreDataRequest::validate`. -/
def StoreDataRequest.validate (now : PrimitiveDateTime) (self : StoreDataRequest V) :
    Except ApiError Unit := validateTtl now self.ttl

/-! ## Crypto operations -/

section CryptoOperations

variable (state : TenantState) (drawn : Drawn) (encoding : ValueEncoding V)

/-- `VaultNew::new`. -/
def newVault (now : PrimitiveDateTime) (request : StoreDataRequest V) (encryptedData : Bytes) :
    VaultNew :=
  { vaultId := request.vaultId
    entityId := request.entityId
    encryptedData
    createdAt := now
    expiresAt := request.ttl
    updatedBy := .postgresOnly }

/-- `encrypt_data_and_upsert_into_db_v2`. -/
def encryptDataAndUpsertIntoDbV2 (cryptoOperator : CryptoOperationsManager)
    (request : StoreDataRequest V) (mode : Option WriteMode) :
    ApiApp (Except (Fault ApiError) Vault) :=
  let dataToBeEncrypted := encoding.toVec request.data
  (cryptoOperator.encryptData state drawn dataToBeEncrypted).andThen fun encryptedData =>
    dateTimeNow.bind fun now =>
      let vaultNew := newVault now request encryptedData
      orApiError VaultDBError.toApiError (liftKv (match mode with
        | some .upsert => upsertVault state.db vaultNew
        | none | some .insert => getOrInsertVault state.db vaultNew))

/-- `decrypt_data` of a vault row. -/
def decryptVault (cryptoOperator : CryptoOperationsManager) (data : Vault) :
    ApiApp (Except (Fault ApiError) Vault) :=
  match data.data with
  | .encrypted encryptedData =>
    (cryptoOperator.decryptData state encryptedData).andThen fun decryptedData =>
      .pure (.ok { data with data := .decrypted decryptedData })
  | .decrypted _ => .pure (.ok data)

/-- The value of a decrypted vault row. -/
def vaultValue (vault : Vault) : Except (Fault ApiError) V :=
  match vault.data with
  | .encrypted _ => .error (.error .unknownError)
  | .decrypted data =>
    match encoding.fromSlice data with
    | some value => .ok value
    | none => .error (.error .decodingError)

end CryptoOperations

/-! ## Handlers -/

section Handlers

variable (state : TenantState) (drawn : Drawn) (encoding : ValueEncoding V)

/-- `add_data`. -/
def addData (request : StoreDataRequest V) (mode : Option WriteMode) :
    ApiApp (Except (Fault ApiError) StoreDataResponse) :=
  (dateTimeNow.mapResult fun now => (request.validate now).mapError .error).andThen fun _ =>
    (findOrCreateKeyHolder state drawn request.entityId).andThen fun cryptoManager =>
      (encryptDataAndUpsertIntoDbV2 state drawn encoding cryptoManager request mode).andThen
        fun insertData =>
          .pure (.ok { entityId := insertData.entityId, vaultId := insertData.vaultId })

/-- `retrieve_data`. -/
def retrieveData (request : RetrieveDataRequest) :
    ApiApp (Except (Fault ApiError) (RetrieveDataResponse V)) :=
  (findKeyHolder state request.entityId).andThen fun cryptoManager =>
    (orApiError VaultDBError.toApiError (liftKv
      (findByVaultIdEntityId state.db request.vaultId request.entityId))).andThen fun vaultData =>
        (decryptVault state cryptoManager vaultData).andThen fun decryptedData =>
          (checkTtl decryptedData.expiresAt
            (.vault request.vaultId request.entityId)).andThen fun _ =>
              .pure ((vaultValue encoding decryptedData).map fun data => { data })

/-- `delete_data`. -/
def deleteData (request : DeleteDataRequest) :
    ApiApp (Except (Fault ApiError) DeleteDataResponse) :=
  (findKeyHolder state request.entityId).andThen fun _ =>
    (orApiError VaultDBError.toApiError (liftKv
      (deleteFromVault state.db request.vaultId request.entityId))).andThen fun _ =>
        .pure (.ok { entityId := request.entityId, vaultId := request.vaultId })

/-- The task that a retrieve spawned: an expired row is deleted. -/
def ttlDeletion : TtlDeletion → ApiApp Unit
  | .locker lockerId merchantId customerId =>
    (liftKv (deleteLocker state.db lockerId merchantId customerId)).mapResult fun _ => ()
  | .vault vaultId entityId =>
    (liftKv (deleteFromVault state.db vaultId entityId)).mapResult fun _ => ()

/-- `InternalKeyManager::create_entity`. -/
def internalCreateEntity (entityId : String) : ApiApp (Except (Fault ApiError) CreatedEntity) :=
  (orApiFault MerchantDBError.toApiError (liftKey (findOrCreateMerchant
    (state.aead drawn.dekNonce) drawn.dek entityId ⟨state.masterKey⟩))).andThen fun merchant =>
      .pure (.ok { entityId := merchant.merchantId, createdAt := merchant.createdAt })

/-- `get_dek_manager(…).create_entity(…)`. -/
def createKeyHolder (entityId : String) : ApiApp (Except (Fault ApiError) CreatedEntity) :=
  if state.externalKeyManager then
    orApiError id (liftKey (CardVault.createEntity drawn.nanoId entityId))
  else internalCreateEntity state drawn entityId

/-- `create_entity`; the response has the fields of `CreatedEntity`. -/
def createEntityHandler (request : CreateEntityRequest) :
    ApiApp (Except (Fault ApiError) CreatedEntity) :=
  (Prog.pure (request.validate.mapError .error)).andThen fun _ =>
    createKeyHolder state drawn request.entityId

/-- `get_or_insert_fingerprint`, with the header `x-fingerprint-id`. -/
def getOrInsertFingerprintRoute (sign : Bytes → Bytes → Bytes) (header : Option String)
    (request : FingerprintRequest) : ApiApp (Except (Fault ApiError) FingerprintResponse) :=
  (Prog.pure ((optionalFingerprintId header).mapError .error)).andThen fun fingerprintId =>
    (orApiError FingerprintDBError.toApiError (liftKv (getOrInsertFingerprint state.db sign
      drawn.nanoId request.data request.key (fingerprintId.map FingerprintId.val)))).andThen
        fun fingerprint => .pure (.ok { fingerprintId := fingerprint.fingerprintId })

end Handlers

end CardVault
