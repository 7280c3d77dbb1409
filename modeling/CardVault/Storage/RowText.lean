import CardVault.Storage.Pg
import CardVault.Storage.Serialized

/-!
# Every row as JSON

What `serde_json` writes to Redis for a row of each of the five tables, and reads back
(`src/src/storage/types.rs`, `src/src/storage/storage_v2/types.rs`). Lockers write their
timestamps with the helpers of `src/src/utils.rs`; hash table and vault rows write theirs
as the `time` crate does by itself.

The `time` crate is a parameter.

Main results:
* `Row.toStr_isSome_iff`: which rows have a text.
* `Row.ofStr_toStr`, `redisRow_roundTrip`: a row reads back from its text.
-/

namespace CardVault

open Calendar

/-! ## Parts of rows -/

/-- The number of a row as an `i32`, where it is one. -/
def i32OfNat (id : ℕ) : Option Int32 := if id < 2 ^ 31 then some (Int32.ofNat id) else none

/-- The number of a row. -/
def natOfI32 (id : Int32) : ℕ := id.toInt.toNat

theorem natOfI32_of_i32OfNat {id : ℕ} {n : Int32} (h : i32OfNat id = some n) :
    natOfI32 n = id := by
  unfold i32OfNat at h
  split_ifs at h with hid
  cases h
  unfold natOfI32
  rw [Int32.toInt_ofNat_of_lt hid, Int.toNat_natCast]

/-- `Serialize` for `Secret<Vec<u8>>`: the bytes one by one. -/
def serializeBytes (data : Bytes) : Json := .array (data.map fun byte => Json.ofInt byte.toNat)

/-- `u8::deserialize`. -/
def deserializeU8 (json : Json) : Option UInt8 :=
  json.toInt.bind fun z => if 0 ≤ z ∧ z < 2 ^ 8 then some (UInt8.ofNat z.toNat) else none

/-- `Deserialize` for `Secret<Vec<u8>>`. -/
def deserializeBytes : Json → Option Bytes := Json.toVec deserializeU8

theorem deserialize_serializeBytes (data : Bytes) :
    deserializeBytes (serializeBytes data) = some data := by
  refine Json.toVec_map (fun byte => ?_) data
  have hlt := byte.toNat_lt
  rw [deserializeU8, Json.toInt_ofInt, Option.bind_some, if_pos ⟨by omega, by omega⟩,
    Int.toNat_natCast, UInt8.ofNat_toNat]

theorem wellFormed_serializeBytes (data : Bytes) : (serializeBytes data).WellFormed :=
  Json.wellFormedElements_map (fun _ => Json.wellFormed_ofInt _) data

theorem wellFormed_serializeScheme (scheme : Option StorageScheme) :
    (serializeScheme scheme).WellFormed := by
  cases scheme <;> trivial

/-- `PrimitiveDateTime::serialize` and `PrimitiveDateTime::deserialize` of the `time` crate. -/
structure DateTimeSerde where
  serialize : PrimitiveDateTime → Json
  deserialize : Json → Option PrimitiveDateTime

/-- What the crate says of them: a timestamp reads back, and is never written as `null`. -/
structure DateTimeSerde.RoundTrips (dateTime : DateTimeSerde) : Prop where
  wellFormed : ∀ t, (dateTime.serialize t).WellFormed
  notNull : ∀ t, dateTime.serialize t ≠ .null
  deserialize : ∀ t, dateTime.deserialize (dateTime.serialize t) = some t

/-- The crates that write and read timestamps. -/
structure Serde where
  time : TimeCrate
  dateTime : DateTimeSerde

/-- The crates do what they say, and years that have no four digits are refused. -/
structure Serde.Exact (serde : Serde) : Prop where
  iso8601 : serde.time.Iso8601
  refuses : ∀ dateTime : DateTime, 9999 < dateTime.date.year →
    serde.time.format dateTime = none
  dateTime : serde.dateTime.RoundTrips

/-- A timestamp after year 9999 has a date after year 9999. -/
theorem PrimitiveDateTime.upper_of_year {t : PrimitiveDateTime} (hlower : 0 ≤ t.nanos + epochNanos)
    (hyear : (DateTime.ofNanos (t.nanos + epochNanos).toNat).date.year ≤ 9999) :
    t.nanos + epochNanos < daysBeforeYear 10000 * dayNanos := by
  by_contra hle
  have hdays : daysBeforeYear 10000 ≤ (t.nanos + epochNanos).toNat / dayNanos := by
    rw [Nat.le_div_iff_mul_le (by decide)]
    omega
  have hyears : 10000 ≤ yearOf ((t.nanos + epochNanos).toNat / dayNanos) := by
    refine Nat.le_findGreatest ?_ hdays
    rw [Nat.le_div_iff_mul_le (by decide), Nat.mul_comm]
    exact (le_daysBeforeYear 10000).trans hdays
  have : yearOf ((t.nanos + epochNanos).toNat / dayNanos) ≤ 9999 := hyear
  omega

namespace Iso8601

variable {serde : Serde}

/-- A timestamp that is written has a year of four digits. -/
theorem fourDigits_of_format (h : serde.Exact) {t : PrimitiveDateTime} {text : String}
    (ht : t.assumeUtc.bind serde.time.format = some text) : t.FourDigits := by
  obtain ⟨dateTime, hutc, hformat⟩ := Option.bind_eq_some_iff.1 ht
  unfold PrimitiveDateTime.assumeUtc at hutc
  split_ifs at hutc with hlower
  cases hutc
  refine ⟨hlower, PrimitiveDateTime.upper_of_year hlower ?_⟩
  by_contra hyear
  rw [h.refuses _ (by omega)] at hformat
  cases hformat

theorem fourDigits_of_serialize (h : serde.Exact) {t : PrimitiveDateTime} {json : Json}
    (ht : serialize serde.time t = some json) : t.FourDigits := by
  obtain ⟨text, htext, -⟩ := Option.map_eq_some_iff.1 ht
  exact fourDigits_of_format h htext

theorem fourDigits_of_serializeOption (h : serde.Exact) {t : Option PrimitiveDateTime}
    {json : Json} (ht : serializeOption serde.time t = some json) :
    ∀ dateTime, t = some dateTime → dateTime.FourDigits := by
  rintro dateTime rfl
  obtain ⟨text, htext, -⟩ := Option.map_eq_some_iff.1 ht
  exact fourDigits_of_format h htext

end Iso8601

/-! ## Tables -/

/-- A row that is written is read back: the document and what it is read as. -/
structure ReadsBack {ρ : Type} (json : Option Json) (ofJson : Json → Option ρ) (row : ρ) :
    Prop where
  wellFormed : ∀ document, json = some document → document.WellFormed
  ofJson : ∀ document, json = some document → ofJson document = some row

namespace Fingerprint

/-- `Serialize` for `Fingerprint`. -/
def toJson (self : Fingerprint) : Option Json := (i32OfNat self.id).map fun id =>
  .object [("id", Json.ofInt id.toInt),
    ("fingerprint_hash", serializeBytes self.fingerprintHash),
    ("fingerprint_id", .string self.fingerprintId),
    ("updated_by", serializeScheme self.updatedBy)]

/-- `Deserialize` for `Fingerprint`: an object, or its values one after the other. Only
    `updated_by` may be missing from an object. -/
def ofJson : Json → Option Fingerprint
  | .object members => do
    return {
      id := natOfI32 (← Json.field deserializeI32 none "id" members)
      fingerprintHash := ← Json.field deserializeBytes none "fingerprint_hash" members
      fingerprintId := ← Json.field Json.toText none "fingerprint_id" members
      updatedBy := ← Json.field (Json.toOption StorageScheme.deserialize) (some none)
        "updated_by" members }
  | .array [id, fingerprintHash, fingerprintId, updatedBy] => do
    return {
      id := natOfI32 (← deserializeI32 id)
      fingerprintHash := ← deserializeBytes fingerprintHash
      fingerprintId := ← fingerprintId.toText
      updatedBy := ← updatedBy.toOption StorageScheme.deserialize }
  | _ => none

theorem readsBack (self : Fingerprint) : ReadsBack self.toJson ofJson self := by
  constructor <;> intro document h <;> obtain ⟨id, hid, rfl⟩ := Option.map_eq_some_iff.1 h
  · exact ⟨Json.wellFormed_ofInt _, wellFormed_serializeBytes _, trivial,
      wellFormed_serializeScheme _, trivial⟩
  · simp [ofJson, Json.field, deserializeI32_ofInt, Json.toText, deserialize_serializeBytes,
      deserialize_serializeScheme, natOfI32_of_i32OfNat hid]

end Fingerprint

namespace HashTable

variable (dateTime : DateTimeSerde)

/-- `Serialize` for `HashTable`. -/
def toJson (self : HashTable) : Option Json := (i32OfNat self.id).map fun id =>
  .object [("id", Json.ofInt id.toInt),
    ("hash_id", .string self.hashId),
    ("data_hash", serializeBytes self.dataHash),
    ("created_at", dateTime.serialize self.createdAt),
    ("updated_by", serializeScheme self.updatedBy)]

/-- `Deserialize` for `HashTable`. -/
def ofJson : Json → Option HashTable
  | .object members => do
    return {
      id := natOfI32 (← Json.field deserializeI32 none "id" members)
      hashId := ← Json.field Json.toText none "hash_id" members
      dataHash := ← Json.field deserializeBytes none "data_hash" members
      createdAt := ← Json.field dateTime.deserialize none "created_at" members
      updatedBy := ← Json.field (Json.toOption StorageScheme.deserialize) (some none)
        "updated_by" members }
  | .array [id, hashId, dataHash, createdAt, updatedBy] => do
    return {
      id := natOfI32 (← deserializeI32 id)
      hashId := ← hashId.toText
      dataHash := ← deserializeBytes dataHash
      createdAt := ← dateTime.deserialize createdAt
      updatedBy := ← updatedBy.toOption StorageScheme.deserialize }
  | _ => none

variable {dateTime}

theorem readsBack (hdateTime : dateTime.RoundTrips) (self : HashTable) :
    ReadsBack (self.toJson dateTime) (ofJson dateTime) self := by
  constructor <;> intro document h <;> obtain ⟨id, hid, rfl⟩ := Option.map_eq_some_iff.1 h
  · exact ⟨Json.wellFormed_ofInt _, trivial, wellFormed_serializeBytes _,
      hdateTime.wellFormed _, wellFormed_serializeScheme _, trivial⟩
  · simp [ofJson, Json.field, deserializeI32_ofInt, Json.toText, deserialize_serializeBytes,
      hdateTime.deserialize, deserialize_serializeScheme, natOfI32_of_i32OfNat hid]

end HashTable

namespace ReverseLookup

/-- `Serialize` for `ReverseLookup`. -/
def toJson (self : ReverseLookup) : Json :=
  .object [("lookup_id", .string self.lookupId),
    ("secondary_key", .string self.secondaryKey),
    ("partition_key", .string self.partitionKey),
    ("source", .string self.source),
    ("updated_by", .string self.updatedBy)]

/-- `Deserialize` for `ReverseLookup`. -/
def ofJson : Json → Option ReverseLookup
  | .object members => do
    return {
      lookupId := ← Json.field Json.toText none "lookup_id" members
      secondaryKey := ← Json.field Json.toText none "secondary_key" members
      partitionKey := ← Json.field Json.toText none "partition_key" members
      source := ← Json.field Json.toText none "source" members
      updatedBy := ← Json.field Json.toText none "updated_by" members }
  | .array [lookupId, secondaryKey, partitionKey, source, updatedBy] => do
    return {
      lookupId := ← lookupId.toText
      secondaryKey := ← secondaryKey.toText
      partitionKey := ← partitionKey.toText
      source := ← source.toText
      updatedBy := ← updatedBy.toText }
  | _ => none

theorem readsBack (self : ReverseLookup) : ReadsBack (some self.toJson) ofJson self := by
  constructor <;> rintro document ⟨⟩
  · exact ⟨trivial, trivial, trivial, trivial, trivial, trivial⟩
  · simp [toJson, ofJson, Json.field, Json.toText]

end ReverseLookup

namespace VaultInner

variable (dateTime : DateTimeSerde)

/-- `Serialize` for `VaultInner`. -/
def toJson (self : VaultInner) : Option Json := (i32OfNat self.id).map fun id =>
  .object [("id", Json.ofInt id.toInt),
    ("entity_id", .string self.entityId),
    ("vault_id", .string self.vaultId),
    ("encrypted_data", serializeEncrypted self.encryptedData),
    ("created_at", dateTime.serialize self.createdAt),
    ("expires_at", Json.ofOption dateTime.serialize self.expiresAt),
    ("updated_by", serializeScheme self.updatedBy)]

/-- `Deserialize` for `VaultInner`. `expires_at` may be missing from an object as well. -/
def ofJson : Json → Option VaultInner
  | .object members => do
    return {
      id := natOfI32 (← Json.field deserializeI32 none "id" members)
      entityId := ← Json.field Json.toText none "entity_id" members
      vaultId := ← Json.field Json.toText none "vault_id" members
      encryptedData := ← Json.field deserializeEncrypted none "encrypted_data" members
      createdAt := ← Json.field dateTime.deserialize none "created_at" members
      expiresAt := ← Json.field (Json.toOption dateTime.deserialize) (some none) "expires_at"
        members
      updatedBy := ← Json.field (Json.toOption StorageScheme.deserialize) (some none)
        "updated_by" members }
  | .array [id, entityId, vaultId, encryptedData, createdAt, expiresAt, updatedBy] => do
    return {
      id := natOfI32 (← deserializeI32 id)
      entityId := ← entityId.toText
      vaultId := ← vaultId.toText
      encryptedData := ← deserializeEncrypted encryptedData
      createdAt := ← dateTime.deserialize createdAt
      expiresAt := ← expiresAt.toOption dateTime.deserialize
      updatedBy := ← updatedBy.toOption StorageScheme.deserialize }
  | _ => none

variable {dateTime}

theorem readsBack (hdateTime : dateTime.RoundTrips) (self : VaultInner) :
    ReadsBack (self.toJson dateTime) (ofJson dateTime) self := by
  have hexpires := Json.toOption_ofOption hdateTime.notNull hdateTime.deserialize self.expiresAt
  constructor <;> intro document h <;> obtain ⟨id, hid, rfl⟩ := Option.map_eq_some_iff.1 h
  · refine ⟨Json.wellFormed_ofInt _, trivial, trivial, trivial, hdateTime.wellFormed _, ?_,
      wellFormed_serializeScheme _, trivial⟩
    cases self.expiresAt with
    | none => trivial
    | some expiresAt => exact hdateTime.wellFormed expiresAt
  · simp [ofJson, Json.field, deserializeI32_ofInt, Json.toText,
      deserialize_serializeEncrypted, hdateTime.deserialize, hexpires,
      deserialize_serializeScheme, natOfI32_of_i32OfNat hid]

end VaultInner

namespace LockerInner

/-- The locker that was read. -/
def ofSerde (locker : SerdeLocker) : LockerInner :=
  { id := natOfI32 locker.id
    lockerId := locker.lockerId
    merchantId := locker.merchantId
    customerId := locker.customerId
    encData := locker.encData
    createdAt := locker.createdAt
    hashId := locker.hashId
    ttl := locker.ttl
    updatedBy := locker.updatedBy }

variable (serde : Serde)

/-- `Serialize` for `LockerInner`. -/
def toJson (self : LockerInner) : Option Json :=
  (i32OfNat self.id).bind fun _ => self.toSerde.toJson serde.time

/-- `Deserialize` for `LockerInner`. -/
def ofJson (json : Json) : Option LockerInner := (SerdeLocker.ofJson serde.time json).map ofSerde

variable {serde}

/-- The timestamps of a locker that is written have four digits. -/
theorem fourDigits_of_toJson (hserde : serde.Exact) {locker : SerdeLocker} {document : Json}
    (h : locker.toJson serde.time = some document) : locker.FourDigits := by
  obtain ⟨createdAt, hcreated, hrest⟩ := Option.bind_eq_some_iff.1 h
  obtain ⟨ttl, httl, -⟩ := Option.bind_eq_some_iff.1 hrest
  exact ⟨Iso8601.fourDigits_of_serialize hserde hcreated,
    Iso8601.fourDigits_of_serializeOption hserde httl⟩

theorem readsBack (hserde : serde.Exact) (self : LockerInner) :
    ReadsBack (self.toJson serde) (ofJson serde) self := by
  have hread : ∀ document, self.toJson serde = some document →
      document.WellFormed ∧ ofJson serde document = some self := by
    intro document h
    obtain ⟨id, hid, hjson⟩ := Option.bind_eq_some_iff.1 h
    obtain ⟨json, hjson', hwell, hof⟩ :=
      SerdeLocker.ofJson_toJson hserde.iso8601 (fourDigits_of_toJson hserde hjson)
    cases hjson.symm.trans hjson'
    have hnumber : natOfI32 self.toSerde.id = self.id := by
      unfold i32OfNat at hid
      split_ifs at hid with hlt
      exact natOfI32_of_i32OfNat (if_pos hlt)
    refine ⟨hwell, ?_⟩
    rw [ofJson, hof, Option.map_some, ofSerde, hnumber]
    rfl
  exact ⟨fun document h => (hread document h).1, fun document h => (hread document h).2⟩

end LockerInner

/-! ## Rows -/

namespace Row

/-- The table of a row. -/
def resource : Row → Resource
  | .fingerprint _ => .fingerprint
  | .hashTable _ => .hashTable
  | .locker _ => .locker
  | .reverseLookup _ => .reverseLookup
  | .vault _ => .vault

variable (serde : Serde)

/-- `Serialize` for the row of each table. -/
def toJson : Row → Option Json
  | .fingerprint row => row.toJson
  | .hashTable row => row.toJson serde.dateTime
  | .locker row => row.toJson serde
  | .reverseLookup row => some row.toJson
  | .vault row => row.toJson serde.dateTime

/-- `Deserialize` for the row of each table. -/
def ofJson (json : Json) : Resource → Option Row
  | .fingerprint => (Fingerprint.ofJson json).map .fingerprint
  | .hashTable => (HashTable.ofJson serde.dateTime json).map .hashTable
  | .locker => (LockerInner.ofJson serde json).map .locker
  | .reverseLookup => (ReverseLookup.ofJson json).map .reverseLookup
  | .vault => (VaultInner.ofJson serde.dateTime json).map .vault

/-- `serde_json::to_string`. -/
def toStr (self : Row) : Option String := (self.toJson serde).map Json.print

/-- `serde_json::from_str`, for a row of the table. -/
def ofStr (text : String) (resource : Resource) : Option Row :=
  (Json.parse text).bind fun json => ofJson serde json resource

variable {serde}

theorem readsBack (hserde : serde.Exact) (self : Row) :
    ReadsBack (self.toJson serde) (fun json => ofJson serde json self.resource) self := by
  have hmap : ∀ {ρ : Type} {json : Option Json} {ofJson : Json → Option ρ} {row : ρ}
      (toRow : ρ → Row), ReadsBack json ofJson row →
        ReadsBack json (fun json => (ofJson json).map toRow) (toRow row) := by
    intro ρ json ofJson row toRow h
    refine ⟨h.wellFormed, fun document hdocument => ?_⟩
    rw [h.ofJson document hdocument, Option.map_some]
  cases self with
  | fingerprint row => exact hmap .fingerprint row.readsBack
  | hashTable row => exact hmap .hashTable (row.readsBack hserde.dateTime)
  | locker row => exact hmap .locker (row.readsBack hserde)
  | reverseLookup row => exact hmap .reverseLookup row.readsBack
  | vault row => exact hmap .vault (row.readsBack hserde.dateTime)

/-- A row reads back from its text. -/
theorem ofStr_toStr (hserde : serde.Exact) {self : Row} {text : String}
    (h : self.toStr serde = some text) : ofStr serde text self.resource = some self := by
  obtain ⟨json, hjson, rfl⟩ := Option.map_eq_some_iff.1 h
  have hread := self.readsBack hserde
  rw [ofStr, Json.parse_print (hread.wellFormed json hjson), Option.bind_some]
  exact hread.ofJson json hjson

/-- The number of the row is an `i32`, and a locker's timestamps are of the years 0 to
    9999. -/
def Writable : Row → Prop
  | .fingerprint row => row.id < 2 ^ 31
  | .hashTable row => row.id < 2 ^ 31
  | .locker row => row.id < 2 ^ 31 ∧ row.createdAt.FourDigits ∧
    ∀ ttl, row.ttl = some ttl → ttl.FourDigits
  | .reverseLookup _ => True
  | .vault row => row.id < 2 ^ 31

theorem i32OfNat_isSome_iff {id : ℕ} : (i32OfNat id).isSome = true ↔ id < 2 ^ 31 := by
  unfold i32OfNat
  split_ifs with h
  · exact ⟨fun _ => h, fun _ => rfl⟩
  · exact ⟨fun hsome => (by cases hsome), fun hlt => absurd hlt h⟩

/-- Which rows have a text. -/
theorem toStr_isSome_iff (hserde : serde.Exact) {self : Row} :
    (self.toStr serde).isSome = true ↔ self.Writable := by
  have hnumber : ∀ {id : ℕ} {document : Int32 → Json},
      ((i32OfNat id).map document).isSome = true ↔ id < 2 ^ 31 := fun {id document} => by
    rw [Option.isSome_map]
    exact i32OfNat_isSome_iff
  rw [toStr, Option.isSome_map]
  cases self with
  | fingerprint row => exact hnumber
  | hashTable row => exact hnumber
  | reverseLookup row => exact ⟨fun _ => trivial, fun _ => rfl⟩
  | vault row => exact hnumber
  | locker row =>
    constructor
    · intro h
      obtain ⟨document, hdocument⟩ := Option.isSome_iff_exists.1 h
      obtain ⟨id, hid, hjson⟩ := Option.bind_eq_some_iff.1 hdocument
      have hdigits := LockerInner.fourDigits_of_toJson hserde hjson
      exact ⟨i32OfNat_isSome_iff.1 (by rw [hid]; rfl), hdigits.createdAt, hdigits.ttl⟩
    · rintro ⟨hid, hcreated, httl⟩
      obtain ⟨id, hid⟩ := Option.isSome_iff_exists.1 (i32OfNat_isSome_iff.2 hid)
      obtain ⟨json, hjson, -⟩ := SerdeLocker.ofJson_toJson hserde.iso8601
        (show row.toSerde.FourDigits from ⟨hcreated, httl⟩)
      refine Option.isSome_iff_exists.2 ⟨json, ?_⟩
      change (i32OfNat row.id).bind _ = some json
      rw [hid, Option.bind_some]
      exact hjson

end Row

/-- A row has a text exactly when its number and its timestamps allow it, and then it reads
    back from its text unchanged. -/
theorem redisRow_roundTrip {serde : Serde} (hserde : serde.Exact) (row : Row) :
    ((∃ text, row.toStr serde = some text) ↔ row.Writable) ∧
      ∀ text, row.toStr serde = some text → Row.ofStr serde text row.resource = some row :=
  ⟨Option.isSome_iff_exists.symm.trans (Row.toStr_isSome_iff hserde),
    fun _ h => Row.ofStr_toStr hserde h⟩

/-! ## A row that expires -/

/-- The year of a date and time, the day of the year, and the time of the day. -/
def tupleOf (dateTime : DateTime) : List ℕ :=
  [dateTime.date.year, dateTime.date.toDays - daysBeforeYear dateTime.date.year + 1,
    dateTime.time.hour, dateTime.time.minute, dateTime.time.second, dateTime.time.nanosecond]

/-- The timestamp that a tuple is written for. -/
def ofTuple : List ℤ → Option PrimitiveDateTime
  | [year, ordinal, hour, minute, second, nanosecond] =>
    let days : ℤ := daysBeforeYear year.toNat + (ordinal - 1)
    some ⟨days * dayNanos + (((hour * 60 + minute) * 60 + second) * 1000000000 + nanosecond) -
      epochNanos⟩
  | _ => none

theorem ofTuple_tupleOf (dateTime : DateTime) :
    ofTuple ((tupleOf dateTime).map Int.ofNat) = some (.new dateTime) := by
  have hyear : daysBeforeYear dateTime.date.year ≤ dateTime.date.toDays := by
    unfold Date.toDays
    omega
  have hdays : ((daysBeforeYear dateTime.date.year : ℤ) +
      ((dateTime.date.toDays - daysBeforeYear dateTime.date.year + 1 : ℕ) - 1 : ℤ)) =
        dateTime.date.toDays := by omega
  simp only [tupleOf, List.map_cons, List.map_nil, ofTuple, Int.ofNat_eq_natCast, Int.toNat_natCast,
    PrimitiveDateTime.new, DateTime.toNanos, Time.toNanos, hdays]
  push_cast
  rfl

/-- A crate that writes timestamps as tuples from year 0 on. -/
def sampleDateTime : DateTimeSerde where
  serialize t :=
    match t.assumeUtc with
    | some dateTime => .array ((tupleOf dateTime).map fun n => Json.ofInt n)
    | none => Json.ofInt t.nanos
  deserialize json :=
    match json.toVec Json.toInt with
    | some tuple => ofTuple tuple
    | none => json.toInt.map PrimitiveDateTime.mk

theorem sampleDateTime_roundTrips : sampleDateTime.RoundTrips where
  wellFormed t := by
    unfold sampleDateTime
    dsimp only
    split
    · exact Json.wellFormedElements_map (fun _ => Json.wellFormed_ofInt _) _
    · exact Json.wellFormed_ofInt _
  notNull t := by
    unfold sampleDateTime
    dsimp only
    split
    · exact Json.noConfusion
    · exact Json.noConfusion
  deserialize t := by
    unfold sampleDateTime
    dsimp only
    cases hutc : t.assumeUtc with
    | none =>
      have hvec : (Json.ofInt t.nanos).toVec Json.toInt = none := rfl
      simp only [hvec, Json.toInt_ofInt, Option.map_some]
    | some dateTime =>
      have hvec : (Json.array ((tupleOf dateTime).map fun n => Json.ofInt n)).toVec Json.toInt =
          some ((tupleOf dateTime).map Int.ofNat) := by
        have hmap : ((tupleOf dateTime).map fun n => Json.ofInt n) =
            ((tupleOf dateTime).map Int.ofNat).map Json.ofInt := by rw [List.map_map]; rfl
        rw [hmap]
        exact Json.toVec_map Json.toInt_ofInt _
      simp only [hvec, ofTuple_tupleOf]
      unfold PrimitiveDateTime.assumeUtc at hutc
      split_ifs at hutc with hlower
      cases hutc
      rw [PrimitiveDateTime.new, DateTime.toNanos_ofNanos, Int.toNat_of_nonneg hlower,
        add_sub_cancel_right]

/-- The two crates. -/
def sampleSerde : Serde := ⟨sampleTime, sampleDateTime⟩

theorem sampleSerde_exact : sampleSerde.Exact where
  iso8601 := sampleTime_iso8601
  refuses dateTime h := if_neg (by omega)
  dateTime := sampleDateTime_roundTrips

/-- A vault row that expires at the end of the year 9999. -/
def farVault : VaultInner where
  id := 7
  entityId := "entity"
  vaultId := "vault"
  encryptedData := [0, 255, 1]
  createdAt := ⟨0⟩
  expiresAt := some ⟨253402300799999999999⟩
  updatedBy := some .redisKv

theorem redisRow_roundTrip_far :
    ∃ text, (Row.vault farVault).toStr sampleSerde = some text ∧
      Row.ofStr sampleSerde text .vault = some (.vault farVault) := by
  have hrow := redisRow_roundTrip sampleSerde_exact (.vault farVault)
  obtain ⟨text, htext⟩ := hrow.1.2 (show farVault.id < 2 ^ 31 by decide)
  exact ⟨text, htext, hrow.2 text htext⟩

end CardVault
