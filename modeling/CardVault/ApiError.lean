import CardVault.Error

/-!
# Errors of the handlers

The errors above the storage layer (`src/src/error.rs`,
`src/src/error/custom_error.rs`) and the `From` impls of
`src/src/error/transforms.rs` that `?` goes through on the way to an answer.
-/

namespace CardVault

/-- How a call that may panic fails. -/
inductive Fault (ε : Type) where
  | error (e : ε)
  | panicked
  deriving DecidableEq, Repr

/-- `ApiError`. -/
inductive ApiError where
  | retrieveDataFailed (table : String)
  | decryptingKeysFailed (message : String)
  | requestMiddlewareError (message : String)
  | responseMiddlewareError (message : String)
  | encodingError
  | decodingError
  | databaseInsertFailed (table : String)
  | databaseDeleteFailed (table : String)
  | merchantError
  | unknownError
  | merchantKeyError
  | databaseError
  | validationError (message : String)
  | notFoundError
  | invalidTtl
  | custodianLocked
  | custodianUnlocked
  | tenantError (message : String)
  | keyManagerError (message : String)
  deriving DecidableEq, Repr

/-- `CryptoError`. -/
inductive CryptoError where
  | serdeJsonError
  | jwError
  | invalidData (message : String)
  | encodingError
  | encryptionError
  | decryptionError
  | notImplemented
  deriving DecidableEq, Repr

/-- `MerchantDBError`. -/
inductive MerchantDBError where
  | dekEncryptionError
  | dekDecryptionError
  | dbError
  | dbFilterError
  | dbInsertError
  | notFoundError
  | duplicate
  | unknownError
  deriving DecidableEq, Repr

/-- `EntityDBError`. -/
inductive EntityDBError where
  | dbError
  | dbFilterError
  | dbInsertError
  | unknownError
  | notFoundError
  | duplicate
  deriving DecidableEq, Repr

/-- `KeyManagerError`. -/
inductive KeyManagerError where
  | keyAddFailed
  | keyTransferFailed
  | encryptionFailed
  | decryptionFailed
  | dbError
  | responseDecodingFailed
  | unauthorized
  | missingConfigurationError (message : String)
  deriving DecidableEq, Repr

/-! ## Conversions -/

/-- `impl From<&StorageError> for MerchantDBError`. -/
def StorageError.toMerchantDBError : StorageError → MerchantDBError
  | .dbPoolError | .poolClientFailure | .replicaPoolNotConfigured => .dbError
  | .findError => .dbFilterError
  | .decryptionError | .encryptionError | .deleteError => .unknownError
  | .insertError | .updateError => .dbInsertError
  | .notFoundError => .notFoundError

/-- `impl From<&StorageError> for EntityDBError`. -/
def StorageError.toEntityDBError : StorageError → EntityDBError
  | .dbPoolError | .poolClientFailure | .replicaPoolNotConfigured => .dbError
  | .findError => .dbFilterError
  | .notFoundError => .notFoundError
  | .decryptionError | .encryptionError | .deleteError => .unknownError
  | .insertError | .updateError => .dbInsertError

/-- The `From<diesel::result::Error>` impl of `MerchantDBError`. -/
def DieselError.toMerchantDBError : DieselError → MerchantDBError :=
  classifyDieselError .duplicate .notFoundError .dbError

/-- The `From<diesel::result::Error>` impl of `EntityDBError`. -/
def DieselError.toEntityDBError : DieselError → EntityDBError :=
  classifyDieselError .duplicate .notFoundError .dbError

/-- `impl From<&CryptoError> for MerchantDBError`. -/
def CryptoError.toMerchantDBError : CryptoError → MerchantDBError
  | .serdeJsonError | .jwError | .invalidData _ | .encodingError | .notImplemented => .unknownError
  | .encryptionError => .dekEncryptionError
  | .decryptionError => .dekDecryptionError

/-- `impl From<&EntityDBError> for KeyManagerError`. -/
def EntityDBError.toKeyManagerError : EntityDBError → KeyManagerError
  | .dbError | .dbFilterError | .dbInsertError | .duplicate | .unknownError | .notFoundError =>
    .dbError

/-- `impl From<&MerchantDBError> for ApiError`. -/
def MerchantDBError.toApiError : MerchantDBError → ApiError
  | .dekEncryptionError | .dekDecryptionError | .dbError | .dbFilterError | .duplicate
  | .dbInsertError => .merchantError
  | .notFoundError => .notFoundError
  | .unknownError => .unknownError

/-- `impl From<&VaultDBError> for ApiError`. -/
def VaultDBError.toApiError : VaultDBError → ApiError
  | .dataEncryptionError | .dataDecryptionError => .merchantKeyError
  | .dbError => .databaseError
  | .dbFilterError => .retrieveDataFailed "locker"
  | .dbInsertError => .databaseInsertFailed "locker"
  | .dbDeleteError => .databaseDeleteFailed "locker"
  | .unknownError => .unknownError
  | .notFoundError => .notFoundError
  | .duplicate => .databaseInsertFailed "locker"

/-- `impl From<&HashDBError> for ApiError`. -/
def HashDBError.toApiError : HashDBError → ApiError
  | .dbError => .databaseError
  | .dbFilterError => .retrieveDataFailed "hash table"
  | .dbInsertError => .databaseInsertFailed "hash table"
  | .duplicate => .databaseInsertFailed "hash table"
  | .unknownError => .unknownError

/-- `impl From<&FingerprintDBError> for ApiError`. -/
def FingerprintDBError.toApiError : FingerprintDBError → ApiError
  | .encodingError => .encodingError
  | .dbError => .databaseError
  | .dbFilterError => .retrieveDataFailed "fingerprint"
  | .dbInsertError => .databaseInsertFailed "fingerprint"
  | .duplicate => .databaseInsertFailed "fingerprint"
  | .unknownError => .unknownError

/-- `impl From<&CryptoError> for ApiError`. -/
def CryptoError.toApiError : CryptoError → ApiError
  | .serdeJsonError | .invalidData _ => .decodingError
  | .decryptionError | .jwError =>
    .requestMiddlewareError "Failed while encrypting/decrypting"
  | .encodingError => .encodingError
  | .encryptionError => .responseMiddlewareError "Failed while encrypting response"
  | .notImplemented => .unknownError

/-- `impl From<&EntityDBError> for ApiError`. -/
def EntityDBError.toApiError : EntityDBError → ApiError
  | .dbError => .databaseError
  | .dbFilterError => .retrieveDataFailed "entity"
  | .dbInsertError => .databaseInsertFailed "entity"
  | .duplicate => .databaseInsertFailed "entity"
  | .unknownError => .unknownError
  | .notFoundError => .notFoundError

/-- `impl From<&KeyManagerError> for ApiError`. -/
def KeyManagerError.toApiError : KeyManagerError → ApiError
  | .keyAddFailed => .keyManagerError "Failed to add key to the Key manager"
  | .keyTransferFailed => .keyManagerError "Failed to transfer the key to the Key manager"
  | .encryptionFailed => .keyManagerError "Failed to encrypt the data in the Key manager"
  | .decryptionFailed => .keyManagerError "Failed to decrypt the data in the Key manager"
  | .dbError => .keyManagerError "Database error"
  | .responseDecodingFailed => .keyManagerError "Failed to deserialize from bytes"
  | .unauthorized => .tenantError "Invalid master key"
  | .missingConfigurationError _ => .tenantError "Missing configuration"

end CardVault
