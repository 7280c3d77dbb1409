import CardVault.Lib.Interpret
import CardVault.Domain
import CardVault.KeyManager.Provider

/-!
# Handlers

What the HTTP handlers work with (`src/src/app.rs`, `src/src/crypto/keymanager.rs`):
the storage calls, the calls of the key managers, the clock, the data calls of the
external key manager and spawned tasks, as one set of commands over one state; and
the key providers with the crypto managers they hand out.

Main results:
* `run_liftKv`, `run_liftKey`: a storage or key call of a handler runs on its part.
-/

namespace CardVault

open Interaction

/-! ## Commands -/

/-- A spawned deletion of an expired row. -/
inductive TtlDeletion where
  | locker (lockerId merchantId customerId : String)
  | vault (vaultId entityId : String)
  deriving DecidableEq, Repr

/-- The calls of the handlers. -/
inductive ApiCmd where
  | kv (c : Cmd)
  | key (c : KeyCmd)
  /-- `utils::date_time::now` -/
  | now
  /-- `POST {url}/data/encrypt` -/
  | encryptData (identifier : String) (data : Bytes)
  /-- `POST {url}/data/decrypt` -/
  | decryptData (identifier : String) (data : Bytes)
  /-- `tokio::spawn` -/
  | spawn (task : TtlDeletion)

/-- What each call answers. -/
def ApiReply : ApiCmd → Type
  | .kv c => Reply c
  | .key c => KeyReply c
  | .now => PrimitiveDateTime
  | .encryptData .. => Except KeyManagerError Bytes
  | .decryptData .. => Except KeyManagerError Bytes
  | .spawn _ => Unit

/-- An `async fn` of a handler. -/
abbrev ApiApp (α : Type) : Type := Prog ApiCmd ApiReply α

/-- The data calls of the external key manager, under the key an identifier names. -/
structure DataService (σ : Type) where
  encrypt : σ → String → Bytes → Except KeyManagerError Bytes
  decrypt : σ → String → Bytes → Except KeyManagerError Bytes

/-- Everything behind the calls of the handlers. -/
structure ApiState (σ : Type) where
  kv : Store
  keys : KeyStore σ
  now : PrimitiveDateTime
  spawned : List TtlDeletion

namespace ApiState

variable {σ : Type} (service : KeyService σ) (dataService : DataService σ)

/-- Answer one call. -/
def exec (s : ApiState σ) : (c : ApiCmd) → ApiReply c × ApiState σ
  | .kv c => ((s.kv.exec c).1, { s with kv := (s.kv.exec c).2 })
  | .key c => ((s.keys.exec service c).1, { s with keys := (s.keys.exec service c).2 })
  | .now => (s.now, s)
  | .encryptData identifier data => (dataService.encrypt s.keys.service identifier data, s)
  | .decryptData identifier data => (dataService.decrypt s.keys.service identifier data, s)
  | .spawn task => ((), { s with spawned := s.spawned ++ [task] })

/-- The storage calls work on their part of the state. -/
def kvPart : Component Store (ApiState σ) where
  get s := s.kv
  put kv s := { s with kv }
  get_put _ _ := rfl
  put_put _ _ _ := rfl
  put_get _ := rfl

/-- The key calls work on their part of the state. -/
def keyPart : Component (KeyStore σ) (ApiState σ) where
  get s := s.keys
  put keys s := { s with keys }
  get_put _ _ := rfl
  put_put _ _ _ := rfl
  put_get _ := rfl

end ApiState

/-- A storage call of a handler. -/
def liftKv {α : Type} (p : App α) : ApiApp α := p.interpret fun c => Prog.perform (ApiCmd.kv c)

/-- A key call of a handler. -/
def liftKey {α : Type} (p : KeyApp α) : ApiApp α :=
  p.interpret fun c => Prog.perform (ApiCmd.key c)

section Run

variable {σ α : Type} {service : KeyService σ} {dataService : DataService σ}

theorem run_liftKv (p : App α) (s : ApiState σ) :
    (liftKv p).run (ApiState.exec service dataService) s =
      ((p.run Store.exec s.kv).1, { s with kv := (p.run Store.exec s.kv).2 }) :=
  ApiState.kvPart.run_interpret (fun _ _ => rfl) p s

theorem run_liftKey (p : KeyApp α) (s : ApiState σ) :
    (liftKey p).run (ApiState.exec service dataService) s =
      ((p.run (KeyStore.exec service) s.keys).1,
        { s with keys := (p.run (KeyStore.exec service) s.keys).2 }) :=
  ApiState.keyPart.run_interpret (fun _ _ => rfl) p s

end Run

/-- `utils::date_time::now`. -/
def dateTimeNow : ApiApp PrimitiveDateTime := Prog.perform ApiCmd.now

/-- `tokio::spawn` of a TTL deletion. -/
def spawn (task : TtlDeletion) : ApiApp Unit := Prog.perform (ApiCmd.spawn task)

/-- `?` on the error of a storage call. -/
def orApiError {E α : Type} (f : E → ApiError) (p : ApiApp (Except E α)) :
    ApiApp (Except (Fault ApiError) α) :=
  p.mapResult (Except.mapError fun e => .error (f e))

/-- `?` on the error of a call that may panic. -/
def orApiFault {E α : Type} (f : E → ApiError) (p : ApiApp (Except (Fault E) α)) :
    ApiApp (Except (Fault ApiError) α) :=
  p.mapResult (Except.mapError fun
    | .error e => .error (f e)
    | .panicked => .panicked)

section Errors

variable {S E α : Type} {exec : S → (c : ApiCmd) → ApiReply c × S} {s s' : S} {f : E → ApiError}
  {a : α}

theorem run_orApiError_ok {p : ApiApp (Except E α)} (h : p.run exec s = (.ok a, s')) :
    (orApiError f p).run exec s = (.ok a, s') := Prog.run_mapResult_of h _

theorem run_orApiFault_ok {p : ApiApp (Except (Fault E) α)} (h : p.run exec s = (.ok a, s')) :
    (orApiFault f p).run exec s = (.ok a, s') := Prog.run_mapResult_of h _

theorem run_orApiError_error {p : ApiApp (Except E α)} {e : E}
    (h : p.run exec s = (.error e, s')) :
    (orApiError f p).run exec s = (.error (.error (f e)), s') := Prog.run_mapResult_of h _

theorem run_orApiFault_error {p : ApiApp (Except (Fault E) α)} {e : E}
    (h : p.run exec s = (.error (.error e), s')) :
    (orApiFault f p).run exec s = (.error (.error (f e)), s') := Prog.run_mapResult_of h _

theorem run_orApiError_eq_ok {p : ApiApp (Except E α)}
    (h : (orApiError f p).run exec s = (.ok a, s')) : p.run exec s = (.ok a, s') :=
  Prog.run_mapError_eq_ok h

theorem run_orApiFault_eq_ok {p : ApiApp (Except (Fault E) α)}
    (h : (orApiFault f p).run exec s = (.ok a, s')) : p.run exec s = (.ok a, s') :=
  Prog.run_mapError_eq_ok h

end Errors

/-! ## Key providers -/

/-- The parts of `TenantAppState` that the handlers use, with the cryptography behind
    them. -/
structure TenantState where
  db : KvStoreContext
  masterKey : Bytes
  /-- `ExternalKeyManagerConfig` is not `Disabled`. -/
  externalKeyManager : Bool
  openWithin : OpenWithin
  sealInPlace : SealInPlace

/-- What a request makes up: identifiers, keys and nonces. -/
structure Drawn where
  uuid : String
  hashUuid : String
  nanoId : String
  dek : Bytes
  dekNonce : Option Bytes
  dataNonce : Option Bytes

/-- `CryptoOperationsManager`: the DEK of a merchant, or an entity whose key the
    external key manager holds. -/
inductive CryptoOperationsManager where
  | internal (dek : GcmAes256)
  | external (entity : Entity)
  deriving DecidableEq, Repr

section Providers

variable (state : TenantState) (drawn : Drawn) (entityId : String)

/-- The cryptography of the merchant interface, with the nonce it draws to seal a key. -/
def TenantState.aead (nonce : Option Bytes) : Aead :=
  { openWithin := state.openWithin, sealInPlace := state.sealInPlace, nonce }

/-- `InternalCryptoManager::from_secret_key`. -/
def internalManager (merchant : Merchant) : CryptoOperationsManager := .internal ⟨merchant.encKey⟩

/-- `InternalKeyManager::find_by_entity_id`. -/
def internalFindByEntityId : ApiApp (Except (Fault ApiError) CryptoOperationsManager) :=
  (orApiFault MerchantDBError.toApiError (liftKey (Caching.findByMerchantId (state.aead none)
    entityId ⟨state.masterKey⟩))).andThen fun merchant => .pure (.ok (internalManager merchant))

/-- `InternalKeyManager::find_or_create_entity`. -/
def internalFindOrCreateEntity : ApiApp (Except (Fault ApiError) CryptoOperationsManager) :=
  (liftKey (Caching.findByMerchantId (state.aead none) entityId ⟨state.masterKey⟩)).bind fun
    | .ok merchant => .pure (.ok (internalManager merchant))
    | .error err =>
      if err = .error .notFoundError then
        (orApiFault MerchantDBError.toApiError (liftKey (findOrCreateMerchant
          (state.aead drawn.dekNonce) drawn.dek entityId ⟨state.masterKey⟩))).andThen
            fun merchant => .pure (.ok (internalManager merchant))
      else orApiFault MerchantDBError.toApiError (.pure (.error err))

/-- `ExternalKeyManager::find_by_entity_id`. -/
def externalFindByEntityId : ApiApp (Except (Fault ApiError) CryptoOperationsManager) :=
  (orApiError EntityDBError.toApiError (liftKey (Caching.findByEntityId entityId))).andThen
    fun entity => .pure (.ok (.external entity))

/-- `ExternalKeyManager::find_or_create_entity`. -/
def externalFindOrCreateEntity : ApiApp (Except (Fault ApiError) CryptoOperationsManager) :=
  (orApiError id (liftKey (findOrCreateEntity drawn.nanoId entityId))).andThen
    fun entity => .pure (.ok (.external entity))

/-- `get_dek_manager(…).find_by_entity_id(…)`. -/
def findKeyHolder : ApiApp (Except (Fault ApiError) CryptoOperationsManager) :=
  if state.externalKeyManager then externalFindByEntityId entityId
  else internalFindByEntityId state entityId

/-- `get_dek_manager(…).find_or_create_entity(…)`. -/
def findOrCreateKeyHolder : ApiApp (Except (Fault ApiError) CryptoOperationsManager) :=
  if state.externalKeyManager then externalFindOrCreateEntity drawn entityId
  else internalFindOrCreateEntity state drawn entityId

/-- `CryptoOperationsManager::encrypt_data`. -/
def CryptoOperationsManager.encryptData (data : Bytes) :
    CryptoOperationsManager → ApiApp (Except (Fault ApiError) Bytes)
  | .internal dek => .pure
      ((dek.encrypt state.sealInPlace drawn.dataNonce data).mapError fun e => .error e.toApiError)
  | .external entity =>
    orApiError KeyManagerError.toApiError (Prog.perform (ApiCmd.encryptData entity.encKeyId data))

/-- `CryptoOperationsManager::decrypt_data`. -/
def CryptoOperationsManager.decryptData (data : Bytes) :
    CryptoOperationsManager → ApiApp (Except (Fault ApiError) Bytes)
  | .internal dek => orApiFault CryptoError.toApiError (.pure (dek.decrypt state.openWithin data))
  | .external entity =>
    orApiError KeyManagerError.toApiError (Prog.perform (ApiCmd.decryptData entity.encKeyId data))

end Providers

end CardVault
