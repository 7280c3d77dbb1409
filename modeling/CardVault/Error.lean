import CardVault.Storage.Types

/-!
# Errors of the Redis, Postgres and storage layers

The error types of `src/src/error.rs`, `src/src/error/kv.rs` and
`src/src/error/custom_error.rs` with the conversions that carry an error from
the layer it arises in to the storage error a caller sees. A `Report` or
`ContainerError` is modelled by its current context; attached printables go to
the logs only.

Main result:
* `LawfulStorageError`: the KV and Diesel errors that a table's error type takes
  as not-found and as duplicate.
-/

namespace CardVault

/-! ## Redis errors -/

/-- `hyperswitch_redis_interface::errors::RedisError`, the variants that
    `redis_error_from_ref` (`src/src/storage/kv/wrapper.rs`) lists. -/
inductive RedisError where
  | invalidConfiguration (message : String)
  | setFailed
  | setNxFailed
  | setExFailed
  | setExpiryFailed
  | getFailed
  | deleteFailed
  | streamAppendFailed
  | streamReadFailed
  | getLengthFailed
  | streamDeleteFailed
  | streamTrimFailed
  | streamAcknowledgeFailed
  | streamEmptyOrNotAvailable
  | consumerGroupCreateFailed
  | consumerGroupDestroyFailed
  | consumerGroupRemoveConsumerFailed
  | consumerGroupSetIdFailed
  | consumerGroupClaimFailed
  | jsonSerializationFailed
  | jsonDeserializationFailed
  | setHashFailed
  | setHashFieldFailed
  | setAddMembersFailed
  | deleteHashFieldFailed
  | getHashFieldFailed
  | invalidRedisEntryId
  | redisConnectionError
  | subscribeError
  | publishError
  | onMessageError
  | unknownResult
  | appendElementsToListFailed
  | getListElementsFailed
  | getListLengthFailed
  | popListElementsFailed
  | incrementHashFieldFailed
  | scriptExecutionFailed
  | notFound
  deriving DecidableEq, Repr

/-- `redis_error_from_ref`: what is left of a Redis error behind the bridge
    between the two versions of `error_stack`. -/
def redisErrorFromRef : RedisError → RedisError
  | .notFound => .notFound
  | .setNxFailed => .setNxFailed
  | .setAddMembersFailed => .setAddMembersFailed
  | _ => .unknownResult

/-- `BridgeRedis::bridge`. -/
def bridge {α : Type} : Except RedisError α → Except RedisError α
  | .ok a => .ok a
  | .error e => .error (redisErrorFromRef e)

/-- `HsetnxReply`. -/
inductive HsetnxReply where
  | keySet
  | keyNotSet
  deriving DecidableEq, Repr

/-! ## KV errors -/

/-- `KvError` (`src/src/error/kv.rs`). -/
inductive KvError where
  | duplicateValue (key : String)
  | backend
  | valueNotFound (message : String)
  | serializationFailed
  deriving DecidableEq, Repr

/-- `RedisErrorExt::to_redis_failed_response`. -/
def RedisError.toRedisFailedResponse (key : String) : RedisError → KvError
  | .notFound => .valueNotFound ("Data does not exist for key " ++ key)
  | .setNxFailed | .setAddMembersFailed => .duplicateValue key
  | .jsonSerializationFailed | .jsonDeserializationFailed => .serializationFailed
  | _ => .backend

/-! ## Storage errors -/

/-- `StorageError` (`src/src/error.rs`). -/
inductive StorageError where
  | dbPoolError
  | poolClientFailure
  | findError
  | insertError
  | deleteError
  | decryptionError
  | encryptionError
  | notFoundError
  | updateError
  | replicaPoolNotConfigured
  deriving DecidableEq, Repr

/-- `diesel::result::Error`, as the classifiers of the storage layer tell its
    values apart. -/
inductive DieselError where
  | notFound
  | uniqueViolation
  | other
  deriving DecidableEq, Repr

/-- The conversions into a table's error type: `StorageErrorExt`, and the three
    `From` impls the storage layer goes through. -/
class StorageErrorExt (E : Type) where
  isDuplicate : E → Bool
  isNotFound : E → Bool
  fromKvError : KvError → E
  fromDieselError : DieselError → E
  fromStorageError : StorageError → E

/-- The `From<diesel::result::Error>` impl of `impl_storage_error!`. -/
def classifyDieselError {E : Type} (duplicate notFound other : E) : DieselError → E
  | .notFound => notFound
  | .uniqueViolation => duplicate
  | .other => other

/-- The `From<&KvError>` impls of `src/src/storage/kv/impls.rs` and
    `src/src/storage/kv/impls/fingerprint.rs`. -/
def classifyKvError {E : Type} (duplicate notFound unknown : E) : KvError → E
  | .duplicateValue _ => duplicate
  | .valueNotFound _ => notFound
  | .backend | .serializationFailed => unknown

/-- `VaultDBError`. -/
inductive VaultDBError where
  | dataEncryptionError
  | dataDecryptionError
  | dbError
  | dbFilterError
  | dbInsertError
  | dbDeleteError
  | notFoundError
  | duplicate
  | unknownError
  deriving DecidableEq, Repr

instance : StorageErrorExt VaultDBError where
  isDuplicate e := e = .duplicate
  isNotFound e := e = .notFoundError
  fromKvError := classifyKvError .duplicate .notFoundError .unknownError
  fromDieselError := classifyDieselError .duplicate .notFoundError .dbError
  fromStorageError
    | .dbPoolError | .poolClientFailure | .replicaPoolNotConfigured => .dbError
    | .findError => .dbFilterError
    | .decryptionError | .encryptionError => .unknownError
    | .insertError | .updateError => .dbInsertError
    | .deleteError => .dbDeleteError
    | .notFoundError => .notFoundError

/-- `FingerprintDBError`. -/
inductive FingerprintDBError where
  | dbError
  | dbFilterError
  | dbInsertError
  | duplicate
  | unknownError
  | encodingError
  deriving DecidableEq, Repr

instance : StorageErrorExt FingerprintDBError where
  isDuplicate e := e = .duplicate
  isNotFound e := e = .dbFilterError
  fromKvError := classifyKvError .duplicate .dbFilterError .unknownError
  fromDieselError := classifyDieselError .duplicate .dbFilterError .dbError
  fromStorageError
    | .dbPoolError | .poolClientFailure | .replicaPoolNotConfigured => .dbError
    | .findError | .notFoundError => .dbFilterError
    | .decryptionError | .encryptionError | .deleteError => .unknownError
    | .insertError | .updateError => .dbInsertError

/-- `HashDBError`. -/
inductive HashDBError where
  | dbError
  | dbFilterError
  | dbInsertError
  | duplicate
  | unknownError
  deriving DecidableEq, Repr

instance : StorageErrorExt HashDBError where
  isDuplicate e := e = .duplicate
  isNotFound e := e = .dbFilterError
  fromKvError := classifyKvError .duplicate .dbFilterError .unknownError
  fromDieselError := classifyDieselError .duplicate .dbFilterError .dbError
  fromStorageError
    | .dbPoolError | .poolClientFailure | .replicaPoolNotConfigured => .dbError
    | .findError => .dbFilterError
    | .decryptionError | .encryptionError | .deleteError => .unknownError
    | .insertError | .updateError => .dbInsertError
    | .notFoundError => .dbFilterError

/-- `ReverseLookupDBError`. -/
inductive ReverseLookupDBError where
  | dbError
  | dbFilterError
  | dbInsertError
  | notFoundError
  | duplicate
  | unknownError
  deriving DecidableEq, Repr

instance : StorageErrorExt ReverseLookupDBError where
  isDuplicate e := e = .duplicate
  isNotFound e := e = .notFoundError
  fromKvError := classifyKvError .duplicate .notFoundError .unknownError
  fromDieselError := classifyDieselError .duplicate .notFoundError .dbError
  fromStorageError
    | .dbPoolError | .poolClientFailure | .replicaPoolNotConfigured => .dbError
    | .findError => .dbFilterError
    | .notFoundError => .notFoundError
    | .decryptionError | .encryptionError | .deleteError => .unknownError
    | .insertError | .updateError => .dbInsertError

/-- What the KV layer relies on: of the KV and Diesel errors, exactly the named
    ones are seen as duplicate and as not-found. -/
class LawfulStorageError (E : Type) [StorageErrorExt E] : Prop where
  isDuplicate_fromKvError : ∀ e : KvError,
    StorageErrorExt.isDuplicate (StorageErrorExt.fromKvError e : E) = true ↔
      ∃ key, e = .duplicateValue key
  isNotFound_fromKvError : ∀ e : KvError,
    StorageErrorExt.isNotFound (StorageErrorExt.fromKvError e : E) = true ↔
      ∃ message, e = .valueNotFound message
  isDuplicate_fromDieselError : ∀ e : DieselError,
    StorageErrorExt.isDuplicate (StorageErrorExt.fromDieselError e : E) = true ↔
      e = .uniqueViolation
  isNotFound_fromDieselError : ∀ e : DieselError,
    StorageErrorExt.isNotFound (StorageErrorExt.fromDieselError e : E) = true ↔ e = .notFound

instance : LawfulStorageError VaultDBError where
  isDuplicate_fromKvError e := by
    cases e <;> simp [StorageErrorExt.isDuplicate, StorageErrorExt.fromKvError, classifyKvError]
  isNotFound_fromKvError e := by
    cases e <;> simp [StorageErrorExt.isNotFound, StorageErrorExt.fromKvError, classifyKvError]
  isDuplicate_fromDieselError e := by cases e <;> decide
  isNotFound_fromDieselError e := by cases e <;> decide

instance : LawfulStorageError FingerprintDBError where
  isDuplicate_fromKvError e := by
    cases e <;> simp [StorageErrorExt.isDuplicate, StorageErrorExt.fromKvError, classifyKvError]
  isNotFound_fromKvError e := by
    cases e <;> simp [StorageErrorExt.isNotFound, StorageErrorExt.fromKvError, classifyKvError]
  isDuplicate_fromDieselError e := by cases e <;> decide
  isNotFound_fromDieselError e := by cases e <;> decide

instance : LawfulStorageError HashDBError where
  isDuplicate_fromKvError e := by
    cases e <;> simp [StorageErrorExt.isDuplicate, StorageErrorExt.fromKvError, classifyKvError]
  isNotFound_fromKvError e := by
    cases e <;> simp [StorageErrorExt.isNotFound, StorageErrorExt.fromKvError, classifyKvError]
  isDuplicate_fromDieselError e := by cases e <;> decide
  isNotFound_fromDieselError e := by cases e <;> decide

instance : LawfulStorageError ReverseLookupDBError where
  isDuplicate_fromKvError e := by
    cases e <;> simp [StorageErrorExt.isDuplicate, StorageErrorExt.fromKvError, classifyKvError]
  isNotFound_fromKvError e := by
    cases e <;> simp [StorageErrorExt.isNotFound, StorageErrorExt.fromKvError, classifyKvError]
  isDuplicate_fromDieselError e := by cases e <;> decide
  isNotFound_fromDieselError e := by cases e <;> decide

end CardVault
