import CardVault.Lib.Text
import CardVault.Crypto.Base64
import CardVault.KeyManager.Store

/-!
# Key managers

The merchant and entity interfaces with their caches (`src/src/storage/db.rs`,
`src/src/storage/caching`), `domain::merchant::find_or_create`, the external key
manager (`src/src/crypto/keymanager/external_keymanager.rs`), the route that
provisions an entity (`src/src/routes/entity.rs`) and the migration of legacy
keys (`src/src/routes/key_migration.rs`).
-/

namespace CardVault

open Interaction

/-! ## Calls -/

/-- An error as `?` turns it into another. -/
def changeError {ε ε' α : Type} (f : ε → ε') (p : KeyApp (Except ε α)) : KeyApp (Except ε' α) :=
  p.mapResult (Except.mapError f)

section Calls

variable (pool : DbPool)

/-- `Storage::route_conn`. -/
def keyRouteConn : KeyApp (Except StorageError DbPool) := Prog.perform KeyCmd.routeConn

/-- `Storage::get_conn`. -/
def keyGetConn : KeyApp (Except StorageError DbPool) := Prog.perform KeyCmd.getConn

/-- `SELECT … FROM merchant` by key. -/
def selectMerchant (merchantId : String) : KeyApp (Except DieselError MerchantInner) :=
  Prog.perform (KeyCmd.selectMerchant pool merchantId)

/-- `INSERT INTO merchant`. -/
def runInsertMerchant (new : MerchantNewInner) : KeyApp (Except DieselError MerchantInner) :=
  Prog.perform (KeyCmd.insertMerchant new)

/-- `SELECT … FROM merchant WHERE merchant_id != ALL (…) LIMIT …`. -/
def selectMerchantsExcludingEntities (limit : ℤ) :
    KeyApp (Except DieselError (List MerchantInner)) :=
  Prog.perform (KeyCmd.selectMerchantsExcludingEntities pool limit)

/-- `SELECT … FROM entity` by key. -/
def selectEntity (entityId : String) : KeyApp (Except DieselError Entity) :=
  Prog.perform (KeyCmd.selectEntity pool entityId)

/-- `INSERT INTO entity`. -/
def runInsertEntity (new : EntityTableNew) : KeyApp (Except DieselError Entity) :=
  Prog.perform (KeyCmd.insertEntity new)

/-- `create_key_in_key_manager`: the identifier in the response. -/
def createKeyInKeyManager (identifier : String) : KeyApp (Except KeyManagerError String) :=
  Prog.perform (KeyCmd.createKey identifier)

/-- `transfer_key_to_key_manager`: the identifier in the response. -/
def transferKeyToKeyManager (identifier key : String) : KeyApp (Except KeyManagerError String) :=
  Prog.perform (KeyCmd.transferKey identifier key)

/-- `Caching::lookup::<Merchant>`. -/
def lookupMerchant (merchantId : String) : KeyApp (Option Merchant) :=
  Prog.perform (KeyCmd.lookupMerchant merchantId)

/-- `Caching::cache_data::<Merchant>`. -/
def cacheMerchant (merchantId : String) (value : Merchant) : KeyApp Unit :=
  Prog.perform (KeyCmd.cacheMerchant merchantId value)

/-- `Caching::lookup::<Entity>`. -/
def lookupEntity (entityId : String) : KeyApp (Option Entity) :=
  Prog.perform (KeyCmd.lookupEntity entityId)

/-- `Caching::cache_data::<Entity>`. -/
def cacheEntity (entityId : String) (value : Entity) : KeyApp Unit :=
  Prog.perform (KeyCmd.cacheEntity entityId value)

end Calls

/-! ## Interfaces -/

/-- `MerchantInner::decrypt`. -/
def MerchantInner.decrypt (openWithin : OpenWithin) (algo : GcmAes256) (self : MerchantInner) :
    Except (Fault MerchantDBError) Merchant :=
  match algo.decrypt openWithin self.encKey with
  | .ok encKey => .ok { merchantId := self.merchantId, encKey, createdAt := self.createdAt }
  | .error (.error e) => .error (.error e.toMerchantDBError)
  | .error .panicked => .error .panicked

/-- `MerchantNew::encrypt`. -/
def MerchantNew.encrypt (sealInPlace : SealInPlace) (nonce : Option Bytes) (algo : GcmAes256)
    (self : MerchantNew) : Except MerchantDBError MerchantNewInner :=
  match algo.encrypt sealInPlace nonce self.encKey with
  | .ok encKey => .ok { merchantId := self.merchantId, encKey }
  | .error e => .error e.toMerchantDBError

/-- The cryptography that the merchant interface rests on: opening, sealing and
    the nonce that sealing draws. -/
structure Aead where
  openWithin : OpenWithin
  sealInPlace : SealInPlace
  nonce : Option Bytes

/-- `MerchantInterface::find_by_merchant_id`. -/
def findByMerchantId (aead : Aead) (merchantId : String) (key : GcmAes256) :
    KeyApp (Except (Fault MerchantDBError) Merchant) :=
  (changeError (fun e => .error e.toMerchantDBError) keyRouteConn).andThen fun pool =>
    (changeError (fun e => .error e.toMerchantDBError) (selectMerchant pool merchantId)).andThen
      fun inner => .pure (inner.decrypt aead.openWithin key)

/-- `MerchantInterface::insert_merchant`. -/
def insertMerchant (aead : Aead) (new : MerchantNew) (key : GcmAes256) :
    KeyApp (Except (Fault MerchantDBError) Merchant) :=
  (changeError (fun e => .error e.toMerchantDBError) keyGetConn).andThen fun _ =>
    match new.encrypt aead.sealInPlace aead.nonce key with
    | .error e => .pure (.error (.error e))
    | .ok new =>
      (changeError (fun e => .error e.toMerchantDBError) (runInsertMerchant new)).andThen
        fun inner => .pure (inner.decrypt aead.openWithin key)

/-- Decrypt row after row, up to the first error. -/
def decryptAll (openWithin : OpenWithin) (key : GcmAes256) :
    List MerchantInner → Except (Fault MerchantDBError) (List Merchant)
  | [] => .ok []
  | inner :: rest =>
    match inner.decrypt openWithin key with
    | .error (.error _) => .error (.error .dekDecryptionError)
    | .error .panicked => .error .panicked
    | .ok merchant =>
      match decryptAll openWithin key rest with
      | .ok merchants => .ok (merchant :: merchants)
      | .error e => .error e

/-- `MerchantInterface::find_all_keys_excluding_entity_keys`. -/
def findAllKeysExcludingEntityKeys (aead : Aead) (key : GcmAes256) (limit : ℤ) :
    KeyApp (Except (Fault MerchantDBError) (List Merchant)) :=
  (changeError (fun e => .error e.toMerchantDBError) keyRouteConn).andThen fun pool =>
    (changeError (fun _ => .error StorageError.findError.toMerchantDBError)
      (selectMerchantsExcludingEntities pool limit)).andThen
        fun inners => .pure (decryptAll aead.openWithin key inners)

/-- `EntityInterface::find_by_entity_id`. -/
def findByEntityId (entityId : String) : KeyApp (Except EntityDBError Entity) :=
  (changeError StorageError.toEntityDBError keyRouteConn).andThen fun pool =>
    changeError DieselError.toEntityDBError (selectEntity pool entityId)

/-- `EntityInterface::insert_entity`. -/
def insertEntity (entityId identifier : String) : KeyApp (Except EntityDBError Entity) :=
  (changeError StorageError.toEntityDBError keyGetConn).andThen fun _ =>
    changeError DieselError.toEntityDBError
      (runInsertEntity { entityId, encKeyId := identifier })

namespace Caching

/-- `MerchantInterface::find_by_merchant_id` through the cache. -/
def findByMerchantId (aead : Aead) (merchantId : String) (key : GcmAes256) :
    KeyApp (Except (Fault MerchantDBError) Merchant) :=
  (lookupMerchant merchantId).bind fun
    | some value => .pure (.ok value)
    | none =>
      (CardVault.findByMerchantId aead merchantId key).andThen fun merchant =>
        (cacheMerchant merchantId merchant).mapResult fun _ => .ok merchant

/-- `MerchantInterface::insert_merchant` through the cache. -/
def insertMerchant (aead : Aead) (new : MerchantNew) (key : GcmAes256) :
    KeyApp (Except (Fault MerchantDBError) Merchant) :=
  (CardVault.insertMerchant aead new key).andThen fun output =>
    (cacheMerchant new.merchantId output).mapResult fun _ => .ok output

/-- `EntityInterface::find_by_entity_id` through the cache. -/
def findByEntityId (entityId : String) : KeyApp (Except EntityDBError Entity) :=
  (lookupEntity entityId).bind fun
    | some value => .pure (.ok value)
    | none =>
      (CardVault.findByEntityId entityId).andThen fun output =>
        (cacheEntity output.entityId output).mapResult fun _ => .ok output

/-- `EntityInterface::insert_entity` through the cache. -/
def insertEntity (entityId identifier : String) : KeyApp (Except EntityDBError Entity) :=
  (CardVault.insertEntity entityId identifier).andThen fun output =>
    (cacheEntity entityId output).mapResult fun _ => .ok output

end Caching

/-! ## Merchants -/

/-- `domain::merchant::find_or_create`, with the DEK it generates. -/
def findOrCreateMerchant (aead : Aead) (generatedKey : Bytes) (merchantId : String)
    (key : GcmAes256) : KeyApp (Except (Fault MerchantDBError) Merchant) :=
  (Caching.findByMerchantId aead merchantId key).bind fun
    | .ok merchant => .pure (.ok merchant)
    | .error err =>
      if err = .error .notFoundError then
        (Caching.insertMerchant aead { merchantId, encKey := generatedKey } key).bind fun
          | .ok merchant => .pure (.ok merchant)
          | .error err =>
            if err = .error .duplicate then Caching.findByMerchantId aead merchantId key
            else .pure (.error err)
      else .pure (.error err)

/-! ## The external key manager -/

/-- `ExternalKeyManager::find_or_create_entity`, with the nano id of the request
    body; the answer is the row behind the `ExternalCryptoManager`. -/
def findOrCreateEntity (nanoId entityId : String) : KeyApp (Except ApiError Entity) :=
  (Caching.findByEntityId entityId).bind fun
    | .ok entity => .pure (.ok entity)
    | .error innerErr =>
      if innerErr = .notFoundError then
        (changeError KeyManagerError.toApiError (createKeyInKeyManager nanoId)).andThen
          fun identifier =>
            changeError EntityDBError.toApiError (Caching.insertEntity entityId identifier)
      else .pure (.error innerErr.toApiError)

/-- `CreatedEntity`. -/
structure CreatedEntity where
  entityId : String
  createdAt : PrimitiveDateTime
  deriving DecidableEq, Repr

/-- `ExternalKeyManager::create_entity`. Its body up to the answer is that of
    `find_or_create_entity`. -/
def createEntity (nanoId entityId : String) : KeyApp (Except ApiError CreatedEntity) :=
  (findOrCreateEntity nanoId entityId).andThen fun entity =>
    .pure (.ok { entityId := entity.entityId, createdAt := entity.createdAt })

/-- `CreateEntityRequest` (`src/src/routes/entity.rs`). -/
structure CreateEntityRequest where
  entityId : String
  deriving DecidableEq, Repr

/-- `CreateEntityRequest::validate`. -/
def CreateEntityRequest.validate (self : CreateEntityRequest) : Except ApiError Unit :=
  if Text.isBlank self.entityId then .error (.validationError "entity_id must not be empty")
  else .ok ()

/-- `POST /entity`; the response has the fields of `CreatedEntity`. -/
def createEntityRoute (nanoId : String) (request : CreateEntityRequest) :
    KeyApp (Except ApiError CreatedEntity) :=
  (Prog.pure request.validate).andThen fun _ => createEntity nanoId request.entityId

/-! ## Migration -/

/-- `DataKeyTransferRequest`. -/
structure DataKeyTransferRequest where
  identifier : String
  key : String
  deriving DecidableEq, Repr

/-- `migrate_key_to_key_manager`. -/
def migrateKeyToKeyManager (entityId : String) (requestBody : DataKeyTransferRequest) :
    KeyApp (Except KeyManagerError Entity) :=
  (transferKeyToKeyManager requestBody.identifier requestBody.key).andThen fun identifier =>
    changeError EntityDBError.toKeyManagerError (Caching.insertEntity entityId identifier)

/-- The migrations of `send_request_to_key_service_for_merchant`, with one nano id
    each. -/
def keyMigrations (nanoIds : ℕ → String) (keys : List Merchant) :
    List (KeyApp (Except KeyManagerError Entity)) :=
  keys.zipIdx.map fun (key, i) =>
    migrateKeyToKeyManager key.merchantId
      { identifier := nanoIds i, key := base64Encode key.encKey }

/-- `send_request_to_key_service_for_merchant`: `schedule` is the order in which
    `try_join_all` polls the migrations. -/
def sendRequestToKeyServiceForMerchant (nanoIds : ℕ → String) (schedule : List ℕ)
    (keys : List Merchant) : KeyApp (Except ApiError ℕ) :=
  (Prog.tryJoinAll schedule (keyMigrations nanoIds keys)).mapResult fun
    | .ok entities => .ok entities.length
    | .error _ => .error (.keyManagerError "Failed while migrating keys")

/-- `transfer_keys`, under the tenant's master key. -/
def transferKeys (aead : Aead) (masterKey : Bytes) (limit : ℤ) (nanoIds : ℕ → String)
    (schedule : List ℕ) : KeyApp (Except (Fault ApiError) ℕ) :=
  (findAllKeysExcludingEntityKeys aead ⟨masterKey⟩ limit).bind fun
    | .error .panicked => .pure (.error .panicked)
    | .error (.error e) => .pure (.error (.error e.toApiError))
    | .ok merchantKeys =>
      (sendRequestToKeyServiceForMerchant nanoIds schedule merchantKeys).mapResult
        (Except.mapError .error)

end CardVault
