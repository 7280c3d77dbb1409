import CardVault.Lib.Text
import CardVault.Storage.Types

/-!
# Partition keys, lookup ids and drainer streams

`PartitionKey` names a row across the tables; its text is the Redis key of the
row and selects the drainer stream the row's statements are queued in
(`src/src/storage/kv/partition_key.rs`, `src/src/config.rs`).

Main results:
* `display_fingerprint_inj`, `display_hashTable_inj`, `display_reverseLookup_inj`:
  these keys determine their bytes or id.
* `resource_eq_of_display`: keys of different tables never share a text.
* `stream_eq_of_display`: rows with one Redis key share one stream.
* `LockerPrimaryKeyType.display_unique_iff` and its like: which joined keys
  determine their components.
-/

namespace CardVault

/-- The tables that take part in the KV layer. -/
inductive Resource where
  | fingerprint
  | hashTable
  | locker
  | reverseLookup
  | vault
  deriving DecidableEq, Repr

/-- `EntityType::ENTITY_TYPE` of a table's records. -/
def Resource.entityType : Resource → String
  | .fingerprint => "fingerprint"
  | .hashTable => "hash_table"
  | .locker => "locker"
  | .reverseLookup => "reverse_lookup"
  | .vault => "vault"

/-- `PartitionKey`. -/
inductive PartitionKey where
  | combinationKey (combination : String)
  | fingerprint (fingerprintHash : Bytes)
  | hashTable (dataHash : Bytes)
  | locker (merchantId customerId lockerId : String)
  | reverseLookup (lookupId : String)
  | vault (entityId vaultId : String)
  deriving DecidableEq, Repr

/-- `impl Display for PartitionKey` (lines 29–51). -/
def PartitionKey.display : PartitionKey → String
  | .combinationKey combination => combination
  | .fingerprint fingerprintHash => "fingerprint_" ++ Text.hexEncode fingerprintHash
  | .vault entityId vaultId => "vault_" ++ entityId ++ "_" ++ vaultId
  | .hashTable dataHash => "hash_table_" ++ Text.hexEncode dataHash
  | .locker merchantId customerId lockerId =>
    "locker_" ++ merchantId ++ "_" ++ customerId ++ "_" ++ lockerId
  | .reverseLookup lookupId => "reverse_lookup_" ++ lookupId

/-- `LockerPrimaryKeyType::get_partition_key`. -/
def LockerPrimaryKeyType.getPartitionKey (pk : LockerPrimaryKeyType) : PartitionKey :=
  .locker pk.merchantId pk.customerId pk.lockerId

/-- `VaultPrimaryKey::get_partition_key`. -/
def VaultPrimaryKey.getPartitionKey (pk : VaultPrimaryKey) : PartitionKey :=
  .vault pk.entityId pk.vaultId

/-- `ReverseLookupKey` (`src/src/storage/kv/resource.rs`). -/
structure ReverseLookupKey where
  lookupId : String
  deriving DecidableEq, Repr

/-- `LockerHashLookupKey::get_lookup_key`. -/
def LockerHashLookupKey.getLookupKey (key : LockerHashLookupKey) : ReverseLookupKey :=
  ⟨"locker_" ++ key.merchantId ++ "_" ++ key.customerId ++ "_" ++ key.hashId⟩

/-- `ReverseLookup::get_partition_key`. -/
def ReverseLookup.getPartitionKey (lookup : ReverseLookup) : PartitionKey :=
  .combinationKey lookup.partitionKey

/-! ## Drainer streams -/

/-- `KvConfig`; `KvConfig::validate` refuses a shard count of 0. -/
structure KvConfig where
  drainerStreamSuffix : String
  drainerNumPartitions : ℕ
  ttlForKv : ℕ
  validate : 0 < drainerNumPartitions

/-- `KvConfig::drainer_stream_name`. -/
def KvConfig.drainerStreamName (config : KvConfig) (shardKey : String) : String :=
  "\x7b" ++ shardKey ++ "\x7d_" ++ config.drainerStreamSuffix

/-- What the KV layer reads off its `&Storage` handle: the KV configuration, and
    `crc32fast::hash`, a third-party function. -/
structure KvStoreContext where
  kvConfig : KvConfig
  crc32fastHash : Bytes → UInt32

/-- `KvConfig::default`. -/
def KvConfig.default : KvConfig :=
  { drainerStreamSuffix := "DRAINER_STREAM"
    drainerNumPartitions := 16
    ttlForKv := 900
    validate := by decide }

/-- One bit of a CRC-32 register. -/
def crc32Bit (crc : ℕ) : ℕ := if crc % 2 = 1 then (crc / 2) ^^^ 0xEDB88320 else crc / 2

/-- One byte of a CRC-32 register. -/
def crc32Byte (crc : ℕ) (byte : UInt8) : ℕ := crc32Bit^[8] (crc ^^^ byte.toNat)

/-- CRC-32 with the IEEE polynomial, the checksum `crc32fast::hash` computes. -/
def crc32 (bytes : Bytes) : UInt32 := UInt32.ofNat (bytes.foldl crc32Byte 0xFFFFFFFF ^^^ 0xFFFFFFFF)

/-- The check value of CRC-32. -/
example : crc32 "123456789".toUTF8.data.toList = 0xCBF43926 := by decide +kernel

/-- The default configuration with the real checksum. -/
def KvStoreContext.default : KvStoreContext := ⟨KvConfig.default, crc32⟩

/-- `KvStorePartition::partition_number`. -/
def partitionNumber (store : KvStoreContext) (key : PartitionKey) : ℕ :=
  (store.crc32fastHash key.display.toUTF8.data.toList).toNat % store.kvConfig.drainerNumPartitions

/-- `KvStorePartition::shard_key`. -/
def shardKey (store : KvStoreContext) (key : PartitionKey) : String :=
  "shard_" ++ toString (partitionNumber store key)

/-- The stream the statements about `key` are appended to. -/
def KvStoreContext.stream (store : KvStoreContext) (key : PartitionKey) : String :=
  store.kvConfig.drainerStreamName (shardKey store key)

theorem partitionNumber_lt (store : KvStoreContext) (key : PartitionKey) :
    partitionNumber store key < store.kvConfig.drainerNumPartitions :=
  Nat.mod_lt _ store.kvConfig.validate

/-- Rows with one Redis key share one stream. -/
theorem stream_eq_of_display (store : KvStoreContext) {key key' : PartitionKey}
    (h : key.display = key'.display) : store.stream key = store.stream key' := by
  simp only [KvStoreContext.stream, shardKey, partitionNumber, h]

/-! ## The text of a key -/

namespace PartitionKey

/-- The table a key belongs to; a combination key belongs to none. -/
def resource : PartitionKey → Option Resource
  | .combinationKey _ => none
  | .fingerprint _ => some .fingerprint
  | .hashTable _ => some .hashTable
  | .locker .. => some .locker
  | .reverseLookup _ => some .reverseLookup
  | .vault .. => some .vault

/-- The first letter of a key's text tells its table. -/
def initial : PartitionKey → Option Char
  | .combinationKey combination => combination.toList.head?
  | .fingerprint _ => some 'f'
  | .hashTable _ => some 'h'
  | .locker .. => some 'l'
  | .reverseLookup _ => some 'r'
  | .vault .. => some 'v'

theorem head_display (key : PartitionKey) : key.display.toList.head? = key.initial := by
  cases key <;> simp [display, initial]

/-- Keys of different tables never share a text. -/
theorem resource_eq_of_display {key key' : PartitionKey} {t t' : Resource}
    (ht : key.resource = some t) (ht' : key'.resource = some t') (h : key.display = key'.display) :
    t = t' := by
  have hi : key.initial = key'.initial := by rw [← head_display, ← head_display, h]
  cases key <;> cases key' <;> simp_all [resource, initial]

theorem display_fingerprint_inj {h h' : Bytes} :
    (fingerprint h).display = (fingerprint h').display ↔ h = h' := by
  simp [display, Text.hexEncode_injective.eq_iff]

theorem display_hashTable_inj {h h' : Bytes} :
    (hashTable h).display = (hashTable h').display ↔ h = h' := by
  simp [display, Text.hexEncode_injective.eq_iff]

theorem display_reverseLookup_inj {i i' : String} :
    (reverseLookup i).display = (reverseLookup i').display ↔ i = i' := by
  simp [display]

end PartitionKey

/-! ## Joined keys -/

/-- Text without the separator that keys are joined with. -/
def Plain (text : String) : Prop := '_' ∉ text.toList

instance (text : String) : Decidable (Plain text) := inferInstanceAs (Decidable (¬ _))

/-- Three texts joined after a prefix: what the Redis keys of lockers and their
    lookup ids look like. -/
theorem join_three_unique_iff {p a b c : String} :
    (∀ a' b' c' : String, p ++ a' ++ "_" ++ b' ++ "_" ++ c' = p ++ a ++ "_" ++ b ++ "_" ++ c →
        a' = a ∧ b' = b ∧ c' = c) ↔ Plain a ∧ Plain b ∧ Plain c := by
  have hjoin : ∀ a b c : String, p ++ a ++ "_" ++ b ++ "_" ++ c =
      p ++ (String.singleton '_').intercalate [a, b, c] := fun a b c => by
    rw [show String.singleton '_' = "_" from rfl]
    simp [String.append_assoc]
  have h := @Text.intercalate_unique_iff '_' [a, b, c] (by simp)
  simp only [List.mem_cons, List.not_mem_nil, or_false, forall_eq_or_imp, forall_eq] at h
  refine Iff.trans ⟨fun hall qs hlen heq => ?_, fun hall a' b' c' heq => ?_⟩ h
  · obtain ⟨a', b', c', rfl⟩ := List.length_eq_three.1 hlen
    obtain ⟨rfl, rfl, rfl⟩ := hall a' b' c' (by rw [hjoin, hjoin, heq])
    rfl
  · rw [hjoin, hjoin] at heq
    simpa using hall [a', b', c'] rfl (by simpa using heq)

/-- Two texts joined after a prefix: what the Redis keys of vault rows look like. -/
theorem join_two_unique_iff {p a b : String} :
    (∀ a' b' : String, p ++ a' ++ "_" ++ b' = p ++ a ++ "_" ++ b → a' = a ∧ b' = b) ↔
      Plain a ∧ Plain b := by
  have hjoin : ∀ a b : String, p ++ a ++ "_" ++ b =
      p ++ (String.singleton '_').intercalate [a, b] := fun a b => by
    rw [show String.singleton '_' = "_" from rfl]
    simp [String.append_assoc]
  have h := @Text.intercalate_unique_iff '_' [a, b] (by simp)
  simp only [List.mem_cons, List.not_mem_nil, or_false, forall_eq_or_imp, forall_eq] at h
  refine Iff.trans ⟨fun hall qs hlen heq => ?_, fun hall a' b' heq => ?_⟩ h
  · obtain ⟨a', b', rfl⟩ := List.length_eq_two.1 hlen
    obtain ⟨rfl, rfl⟩ := hall a' b' (by rw [hjoin, hjoin, heq])
    rfl
  · rw [hjoin, hjoin] at heq
    simpa using hall [a', b'] rfl (by simpa using heq)

/-- No component contains the separator. -/
def LockerPrimaryKeyType.IsPlain (pk : LockerPrimaryKeyType) : Prop :=
  Plain pk.merchantId ∧ Plain pk.customerId ∧ Plain pk.lockerId

/-- No component contains the separator. -/
def LockerHashLookupKey.IsPlain (key : LockerHashLookupKey) : Prop :=
  Plain key.merchantId ∧ Plain key.customerId ∧ Plain key.hashId

/-- No component contains the separator. -/
def VaultPrimaryKey.IsPlain (pk : VaultPrimaryKey) : Prop :=
  Plain pk.entityId ∧ Plain pk.vaultId

instance (pk : LockerPrimaryKeyType) : Decidable pk.IsPlain := inferInstanceAs (Decidable (_ ∧ _))

instance (key : LockerHashLookupKey) : Decidable key.IsPlain := inferInstanceAs (Decidable (_ ∧ _))

instance (pk : VaultPrimaryKey) : Decidable pk.IsPlain := inferInstanceAs (Decidable (_ ∧ _))

/-- The Redis key of a locker is its own exactly when no component contains the
    separator. -/
theorem LockerPrimaryKeyType.display_unique_iff {pk : LockerPrimaryKeyType} :
    (∀ pk' : LockerPrimaryKeyType,
        pk'.getPartitionKey.display = pk.getPartitionKey.display → pk' = pk) ↔ pk.IsPlain := by
  refine Iff.trans ⟨fun h a b c heq => ?_, fun h pk' heq => ?_⟩
    (join_three_unique_iff (p := "locker_"))
  · cases h ⟨c, a, b⟩ heq
    exact ⟨rfl, rfl, rfl⟩
  · obtain ⟨hm, hc, hl⟩ := h _ _ _ heq
    exact LockerPrimaryKeyType.ext hl hm hc

/-- The lookup id of a locker is its own exactly when no component contains the
    separator. -/
theorem LockerHashLookupKey.getLookupKey_unique_iff {key : LockerHashLookupKey} :
    (∀ key' : LockerHashLookupKey, key'.getLookupKey = key.getLookupKey → key' = key) ↔
      key.IsPlain := by
  refine Iff.trans ⟨fun h a b c heq => ?_, fun h key' heq => ?_⟩
    (join_three_unique_iff (p := "locker_"))
  · cases h ⟨c, a, b⟩ (congrArg ReverseLookupKey.mk heq)
    exact ⟨rfl, rfl, rfl⟩
  · obtain ⟨hm, hc, hh⟩ := h _ _ _ (congrArg ReverseLookupKey.lookupId heq)
    exact LockerHashLookupKey.ext hh hm hc

/-- The Redis key of a vault row is its own exactly when no component contains
    the separator. -/
theorem VaultPrimaryKey.display_unique_iff {pk : VaultPrimaryKey} :
    (∀ pk' : VaultPrimaryKey,
        pk'.getPartitionKey.display = pk.getPartitionKey.display → pk' = pk) ↔ pk.IsPlain := by
  refine Iff.trans ⟨fun h a b heq => ?_, fun h pk' heq => ?_⟩ (join_two_unique_iff (p := "vault_"))
  · cases h ⟨a, b⟩ heq
    exact ⟨rfl, rfl⟩
  · obtain ⟨he, hv⟩ := h _ _ heq
    exact VaultPrimaryKey.ext he hv

end CardVault
