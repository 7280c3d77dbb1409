import Mathlib.Data.Int.Notation
import Mathlib.Data.List.Basic

/-!
# Rows and records of the storage layer

The tables that take part in the KV layer (`src/src/storage/types.rs`,
`src/src/storage/storage_v2/types.rs`), each with the record an INSERT takes
(`…New`), the row that Diesel reads back and Redis stores (`…Inner` where it has
a name of its own) and the model handed to callers, and the conversions between
them. `Secret<T>` only masks `T` in logs and is modelled by `T`.
-/

namespace CardVault

/-- `Vec<u8>`. -/
abbrev Bytes := List UInt8

/-! ## Modes and timestamps -/

/-- `KvState` (`src/src/storage/kv/scheme.rs`). -/
inductive KvState where
  | disabled
  | enabled
  | softKill
  deriving DecidableEq, Repr

/-- `StorageScheme` (`src/src/storage/scheme.rs`): which backend wrote a row. -/
inductive StorageScheme where
  | postgresOnly
  | redisKv
  deriving DecidableEq, Repr

/-- `strum::Display` with `serialize_all = "snake_case"`. -/
def StorageScheme.display : StorageScheme → String
  | .postgresOnly => "postgres_only"
  | .redisKv => "redis_kv"

/-- `RuntimeConfigValues` (`src/src/storage.rs`). -/
structure RuntimeConfigValues where
  enableKv : KvState
  useReplica : Bool
  deriving DecidableEq, Repr

/-- `time::PrimitiveDateTime`, in nanoseconds since the Postgres epoch. -/
structure PrimitiveDateTime where
  nanos : ℤ
  deriving DecidableEq, Repr

/-- The value of a Postgres `TIMESTAMP` column after a write: whole
    microseconds, cut towards the epoch. -/
def PrimitiveDateTime.toTimestamp (t : PrimitiveDateTime) : PrimitiveDateTime :=
  ⟨t.nanos.tdiv 1000 * 1000⟩

@[simp] theorem PrimitiveDateTime.toTimestamp_toTimestamp (t : PrimitiveDateTime) :
    t.toTimestamp.toTimestamp = t.toTimestamp := by
  simp [toTimestamp]

/-! ## Fingerprint -/

/-- `FingerprintTableNew`. -/
structure FingerprintTableNew where
  fingerprintHash : Bytes
  fingerprintId : String
  updatedBy : Option StorageScheme
  deriving DecidableEq, Repr

/-- `Fingerprint`. -/
structure Fingerprint where
  id : ℕ
  fingerprintHash : Bytes
  fingerprintId : String
  updatedBy : Option StorageScheme
  deriving DecidableEq, Repr

/-- `impl From<FingerprintTableNew> for Fingerprint`. -/
def FingerprintTableNew.toFingerprint (value : FingerprintTableNew) : Fingerprint :=
  { id := 0
    fingerprintHash := value.fingerprintHash
    fingerprintId := value.fingerprintId
    updatedBy := value.updatedBy }

/-! ## Hash table -/

/-- `HashTableNew`. -/
structure HashTableNew where
  hashId : String
  dataHash : Bytes
  createdAt : PrimitiveDateTime
  updatedBy : Option StorageScheme
  deriving DecidableEq, Repr

/-- `HashTable`. -/
structure HashTable where
  id : ℕ
  hashId : String
  dataHash : Bytes
  createdAt : PrimitiveDateTime
  updatedBy : Option StorageScheme
  deriving DecidableEq, Repr

/-- `impl From<HashTableNew> for HashTable`. -/
def HashTableNew.toHashTable (value : HashTableNew) : HashTable :=
  { id := 0
    hashId := value.hashId
    dataHash := value.dataHash
    createdAt := value.createdAt
    updatedBy := value.updatedBy }

/-! ## Locker -/

/-- `Encryptable`. -/
inductive Encryptable where
  | encrypted (data : Bytes)
  | decrypted (data : Bytes)
  deriving DecidableEq, Repr

/-- `LockerNew`. -/
structure LockerNew where
  lockerId : String
  merchantId : String
  customerId : String
  encData : Bytes
  createdAt : PrimitiveDateTime
  hashId : String
  ttl : Option PrimitiveDateTime
  updatedBy : Option StorageScheme
  deriving DecidableEq, Repr

/-- `LockerInner`, the row of the `locker` table. -/
structure LockerInner where
  id : ℕ
  lockerId : String
  merchantId : String
  customerId : String
  encData : Bytes
  createdAt : PrimitiveDateTime
  hashId : String
  ttl : Option PrimitiveDateTime
  updatedBy : Option StorageScheme
  deriving DecidableEq, Repr

/-- `Locker`. -/
structure Locker where
  lockerId : String
  merchantId : String
  customerId : String
  data : Encryptable
  createdAt : PrimitiveDateTime
  hashId : String
  ttl : Option PrimitiveDateTime
  updatedBy : Option StorageScheme
  deriving DecidableEq, Repr

/-- `impl From<LockerNew> for LockerInner`. -/
def LockerNew.toLockerInner (value : LockerNew) : LockerInner :=
  { id := 0
    lockerId := value.lockerId
    merchantId := value.merchantId
    customerId := value.customerId
    encData := value.encData
    createdAt := value.createdAt
    hashId := value.hashId
    ttl := value.ttl
    updatedBy := value.updatedBy }

/-- `impl From<LockerInner> for Locker`. -/
def LockerInner.toLocker (value : LockerInner) : Locker :=
  { lockerId := value.lockerId
    merchantId := value.merchantId
    customerId := value.customerId
    data := .encrypted value.encData
    createdAt := value.createdAt
    hashId := value.hashId
    ttl := value.ttl
    updatedBy := value.updatedBy }

/-- `LockerPrimaryKeyType` (`src/src/storage/kv/impls/locker.rs`). -/
@[ext] structure LockerPrimaryKeyType where
  lockerId : String
  merchantId : String
  customerId : String
  deriving DecidableEq, Repr

/-- `LockerHashLookupKey` (`src/src/storage/kv/impls/locker.rs`). -/
@[ext] structure LockerHashLookupKey where
  hashId : String
  merchantId : String
  customerId : String
  deriving DecidableEq, Repr

/-- The primary key of a row of the `locker` table. -/
def LockerInner.primaryKey (r : LockerInner) : LockerPrimaryKeyType :=
  { lockerId := r.lockerId, merchantId := r.merchantId, customerId := r.customerId }

/-- The primary key of a new locker. -/
def LockerNew.primaryKey (new : LockerNew) : LockerPrimaryKeyType :=
  { lockerId := new.lockerId, merchantId := new.merchantId, customerId := new.customerId }

/-- The columns of a new locker that its lookup record is made of. -/
def LockerNew.hashKey (new : LockerNew) : LockerHashLookupKey :=
  { hashId := new.hashId, merchantId := new.merchantId, customerId := new.customerId }

/-- The columns of `locker_hash_id_merchant_id_customer_id_idx`. -/
def LockerInner.hashKey (r : LockerInner) : LockerHashLookupKey :=
  { hashId := r.hashId, merchantId := r.merchantId, customerId := r.customerId }

/-! ## Reverse lookup -/

/-- `ReverseLookupNew`. -/
structure ReverseLookupNew where
  lookupId : String
  secondaryKey : String
  partitionKey : String
  source : String
  updatedBy : String
  deriving DecidableEq, Repr

/-- `ReverseLookup`. -/
structure ReverseLookup where
  lookupId : String
  secondaryKey : String
  partitionKey : String
  source : String
  updatedBy : String
  deriving DecidableEq, Repr

/-- `impl From<ReverseLookupNew> for ReverseLookup`. -/
def ReverseLookupNew.toReverseLookup (value : ReverseLookupNew) : ReverseLookup :=
  { lookupId := value.lookupId
    secondaryKey := value.secondaryKey
    partitionKey := value.partitionKey
    source := value.source
    updatedBy := value.updatedBy }

/-! ## Vault -/

/-- `VaultNew`. -/
structure VaultNew where
  vaultId : String
  entityId : String
  encryptedData : Bytes
  createdAt : PrimitiveDateTime
  expiresAt : Option PrimitiveDateTime
  updatedBy : StorageScheme
  deriving DecidableEq, Repr

/-- `VaultNewInner`. -/
structure VaultNewInner where
  vaultId : String
  entityId : String
  encryptedData : Bytes
  createdAt : PrimitiveDateTime
  expiresAt : Option PrimitiveDateTime
  updatedBy : Option StorageScheme
  deriving DecidableEq, Repr

/-- `VaultUpdate`. -/
structure VaultUpdate where
  encryptedData : Bytes
  expiresAt : Option PrimitiveDateTime
  updatedBy : StorageScheme
  deriving DecidableEq, Repr

/-- `VaultInner`, the row of the `vault` table. -/
structure VaultInner where
  id : ℕ
  entityId : String
  vaultId : String
  encryptedData : Bytes
  createdAt : PrimitiveDateTime
  expiresAt : Option PrimitiveDateTime
  updatedBy : Option StorageScheme
  deriving DecidableEq, Repr

/-- `Vault`. -/
structure Vault where
  vaultId : String
  entityId : String
  data : Encryptable
  createdAt : PrimitiveDateTime
  expiresAt : Option PrimitiveDateTime
  updatedBy : Option StorageScheme
  deriving DecidableEq, Repr

/-- `impl From<VaultNew> for VaultNewInner`. -/
def VaultNew.toVaultNewInner (value : VaultNew) : VaultNewInner :=
  { entityId := value.entityId
    vaultId := value.vaultId
    encryptedData := value.encryptedData
    createdAt := value.createdAt
    expiresAt := value.expiresAt
    updatedBy := some value.updatedBy }

/-- `impl From<VaultNew> for VaultUpdate`. -/
def VaultNew.toVaultUpdate (value : VaultNew) : VaultUpdate :=
  { encryptedData := value.encryptedData
    expiresAt := value.expiresAt
    updatedBy := value.updatedBy }

/-- `impl From<VaultNewInner> for VaultInner`. -/
def VaultNewInner.toVaultInner (value : VaultNewInner) : VaultInner :=
  { id := 0
    entityId := value.entityId
    vaultId := value.vaultId
    encryptedData := value.encryptedData
    createdAt := value.createdAt
    expiresAt := value.expiresAt
    updatedBy := value.updatedBy }

/-- `impl From<VaultInner> for Vault`. -/
def VaultInner.toVault (value : VaultInner) : Vault :=
  { vaultId := value.vaultId
    entityId := value.entityId
    data := .encrypted value.encryptedData
    createdAt := value.createdAt
    expiresAt := value.expiresAt
    updatedBy := value.updatedBy }

/-- `VaultInner::from_update`: the merge that the KV layer writes to Redis. -/
def VaultInner.fromUpdate (new : VaultUpdate) (current : VaultInner) : VaultInner :=
  { id := 0
    entityId := current.entityId
    vaultId := current.vaultId
    encryptedData := new.encryptedData
    createdAt := current.createdAt
    expiresAt := new.expiresAt
    updatedBy := some new.updatedBy }

/-- `VaultPrimaryKey` (`src/src/storage/kv/impls/vault.rs`). -/
@[ext] structure VaultPrimaryKey where
  entityId : String
  vaultId : String
  deriving DecidableEq, Repr

/-- The primary key of a new vault row. -/
def VaultNew.primaryKey (new : VaultNew) : VaultPrimaryKey :=
  { entityId := new.entityId, vaultId := new.vaultId }

/-- The primary key of a row of the `vault` table. -/
def VaultInner.primaryKey (r : VaultInner) : VaultPrimaryKey :=
  { entityId := r.entityId, vaultId := r.vaultId }

end CardVault
