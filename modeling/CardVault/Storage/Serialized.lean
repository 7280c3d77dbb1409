import CardVault.Crypto.Base64
import CardVault.Lib.Calendar
import CardVault.Lib.Json
import CardVault.Lib.Numerals
import CardVault.Storage.Types

/-!
# Rows as JSON

What `serde_json` writes to Redis for a row of the `locker` table and reads back
(`src/src/storage/types.rs`): timestamps in ISO 8601 (`src/src/utils.rs`), ciphertexts in
base64, the storage scheme by its name.

The `time` crate is a parameter.

Main results:
* `Iso8601.deserialize_serialize`: a timestamp reads back to the nanosecond.
* `SerdeLocker.fromStr_toStr`: a row reads back.
* `lockerInner_roundTrip`: both, with the optional fields.
-/

namespace CardVault

open Calendar

/-! ## Timestamps -/

/-- The nanoseconds from the start of year 0 to the Postgres epoch. -/
def epochNanos : ℕ := daysBeforeYear 2000 * dayNanos

/-- `PrimitiveDateTime::assume_utc`, from year 0 on. -/
def PrimitiveDateTime.assumeUtc (t : PrimitiveDateTime) : Option DateTime :=
  if 0 ≤ t.nanos + epochNanos then some (DateTime.ofNanos (t.nanos + epochNanos).toNat) else none

/-- `PrimitiveDateTime::new`. -/
def PrimitiveDateTime.new (dateTime : DateTime) : PrimitiveDateTime :=
  ⟨dateTime.toNanos - epochNanos⟩

/-- The timestamps of the years 0 to 9999. -/
structure PrimitiveDateTime.FourDigits (t : PrimitiveDateTime) : Prop where
  lower : 0 ≤ t.nanos + epochNanos
  upper : t.nanos + epochNanos < daysBeforeYear 10000 * dayNanos

/-- The date and time of a timestamp give it back. -/
theorem PrimitiveDateTime.new_assumeUtc {t : PrimitiveDateTime} (h : t.FourDigits) :
    ∃ dateTime, t.assumeUtc = some dateTime ∧ dateTime.date.year ≤ 9999 ∧
      PrimitiveDateTime.new dateTime = t := by
  refine ⟨_, if_pos h.lower, ?_, ?_⟩
  · have hlower := h.lower
    have hupper := h.upper
    have hnanos : (t.nanos + epochNanos).toNat < daysBeforeYear 10000 * dayNanos := by omega
    have hdays : (t.nanos + epochNanos).toNat / dayNanos < daysBeforeYear 10000 :=
      Nat.div_lt_of_lt_mul (by rwa [Nat.mul_comm])
    have hyear : (DateTime.ofNanos (t.nanos + epochNanos).toNat).date.year < 10000 :=
      Date.year_ofDays_lt hdays
    omega
  · have hnanos : ((t.nanos + epochNanos).toNat : ℤ) = t.nanos + epochNanos :=
      Int.toNat_of_nonneg h.lower
    rw [PrimitiveDateTime.new, DateTime.toNanos_ofNanos, hnanos, add_sub_cancel_right]

/-! ## ISO 8601 -/

/-- The digits of a timestamp with nanoseconds. -/
structure Iso8601Digits where
  year : List ℕ
  month : List ℕ
  day : List ℕ
  hour : List ℕ
  minute : List ℕ
  second : List ℕ
  subsecond : List ℕ

namespace Iso8601Digits

/-- Every number has its digits. -/
structure WellFormed (digits : Iso8601Digits) : Prop where
  year : digits.year.length = 4 ∧ ∀ d ∈ digits.year, d < 10
  month : digits.month.length = 2 ∧ ∀ d ∈ digits.month, d < 10
  day : digits.day.length = 2 ∧ ∀ d ∈ digits.day, d < 10
  hour : digits.hour.length = 2 ∧ ∀ d ∈ digits.hour, d < 10
  minute : digits.minute.length = 2 ∧ ∀ d ∈ digits.minute, d < 10
  second : digits.second.length = 2 ∧ ∀ d ∈ digits.second, d < 10
  subsecond : digits.subsecond.length = 9 ∧ ∀ d ∈ digits.subsecond, d < 10

/-- The digits are those of a date and time. -/
structure Denotes (digits : Iso8601Digits) (dateTime : DateTime) : Prop where
  year : Numeral.value 10 digits.year = dateTime.date.year
  month : Numeral.value 10 digits.month = dateTime.date.month
  day : Numeral.value 10 digits.day = dateTime.date.day
  hour : Numeral.value 10 digits.hour = dateTime.time.hour
  minute : Numeral.value 10 digits.minute = dateTime.time.minute
  second : Numeral.value 10 digits.second = dateTime.time.second
  subsecond : Numeral.value 10 digits.subsecond = dateTime.time.nanosecond

/-- `YYYY-MM-DDThh:mm:ss.nnnnnnnnnZ`. -/
def text (digits : Iso8601Digits) : String := String.ofList
  (digits.year.map Nat.digitChar ++ '-' :: (digits.month.map Nat.digitChar ++
    '-' :: (digits.day.map Nat.digitChar ++ 'T' :: (digits.hour.map Nat.digitChar ++
    ':' :: (digits.minute.map Nat.digitChar ++ ':' :: (digits.second.map Nat.digitChar ++
    '.' :: (digits.subsecond.map Nat.digitChar ++ ['Z'])))))))

/-- The numbers of a date and time, padded with zeros. -/
def ofDateTime (dateTime : DateTime) : Iso8601Digits where
  year := Numeral.digits 10 4 dateTime.date.year
  month := Numeral.digits 10 2 dateTime.date.month
  day := Numeral.digits 10 2 dateTime.date.day
  hour := Numeral.digits 10 2 dateTime.time.hour
  minute := Numeral.digits 10 2 dateTime.time.minute
  second := Numeral.digits 10 2 dateTime.time.second
  subsecond := Numeral.digits 10 9 dateTime.time.nanosecond

theorem wellFormed_ofDateTime (dateTime : DateTime) : (ofDateTime dateTime).WellFormed := by
  have hdigits : ∀ w n, (Numeral.digits 10 w n).length = w ∧ ∀ d ∈ Numeral.digits 10 w n, d < 10 :=
    fun w n => ⟨Numeral.length_digits 10 w n, Numeral.digits_lt (by decide) w n⟩
  exact ⟨hdigits _ _, hdigits _ _, hdigits _ _, hdigits _ _, hdigits _ _, hdigits _ _,
    hdigits _ _⟩

/-- No number of a date and time up to year 9999 is cut off. -/
theorem denotes_ofDateTime {dateTime : DateTime} (h : dateTime.date.year ≤ 9999) :
    (ofDateTime dateTime).Denotes dateTime := by
  have hmonth := dateTime.date.month_le
  have hday : dateTime.date.day ≤ 31 := by
    refine le_trans dateTime.date.day_le ?_
    unfold monthLength
    split
    · split <;> decide
    · split <;> decide
  have hhour := dateTime.time.hour_lt
  have hminute := dateTime.time.minute_lt
  have hsecond := dateTime.time.second_lt
  have hnanosecond := dateTime.time.nanosecond_lt
  exact ⟨Numeral.value_digits (by omega), Numeral.value_digits (by omega),
    Numeral.value_digits (by omega), Numeral.value_digits (by omega),
    Numeral.value_digits (by omega), Numeral.value_digits (by omega),
    Numeral.value_digits (by omega)⟩

end Iso8601Digits

/-- The `time` crate with `FORMAT_CONFIG`: ISO 8601 with nine digits of the second. -/
structure TimeCrate where
  /-- `OffsetDateTime::format`, of a date and time in UTC -/
  format : DateTime → Option String
  /-- `OffsetDateTime::parse`, converted to UTC -/
  parse : String → Option DateTime

/-- What the crate says of this format: the numbers are written with all their digits, and
    they are read back from these. -/
structure TimeCrate.Iso8601 (time : TimeCrate) : Prop where
  format : ∀ dateTime : DateTime, dateTime.date.year ≤ 9999 →
    time.format dateTime = some (Iso8601Digits.ofDateTime dateTime).text
  parse : ∀ (digits : Iso8601Digits) (dateTime : DateTime), digits.WellFormed →
    digits.Denotes dateTime → time.parse digits.text = some dateTime

namespace Iso8601

variable (time : TimeCrate)

/-- `iso8601::serialize`. -/
def serialize (dateTime : PrimitiveDateTime) : Option Json :=
  (dateTime.assumeUtc.bind time.format).map .string

/-- `iso8601::deserialize`. -/
def deserialize (json : Json) : Option PrimitiveDateTime :=
  (json.toText.bind time.parse).map .new

/-- `iso8601::option::serialize`. -/
def serializeOption : Option PrimitiveDateTime → Option Json
  | none => some .null
  | some dateTime => (dateTime.assumeUtc.bind time.format).map .string

/-- `iso8601::option::deserialize`. -/
def deserializeOption (json : Json) : Option (Option PrimitiveDateTime) :=
  match json.toOption Json.toText with
  | none => none
  | some none => some none
  | some (some text) => (time.parse text).map fun dateTime => some (.new dateTime)

variable {time}

/-- A timestamp is written as its digits, which read back to the nanosecond. -/
theorem deserialize_serialize (htime : time.Iso8601) {t : PrimitiveDateTime}
    (h : t.FourDigits) :
    ∃ dateTime, t.assumeUtc = some dateTime ∧
      serialize time t = some (.string (Iso8601Digits.ofDateTime dateTime).text) ∧
      deserialize time (.string (Iso8601Digits.ofDateTime dateTime).text) = some t := by
  obtain ⟨dateTime, hutc, hyear, hnew⟩ := PrimitiveDateTime.new_assumeUtc h
  have hparse : time.parse (Iso8601Digits.ofDateTime dateTime).text = some dateTime :=
    htime.parse _ dateTime (Iso8601Digits.wellFormed_ofDateTime dateTime)
      (Iso8601Digits.denotes_ofDateTime hyear)
  refine ⟨dateTime, hutc, ?_, ?_⟩
  · rw [serialize, hutc, Option.bind_some, htime.format dateTime hyear]
    rfl
  · rw [deserialize, Json.toText, Option.bind_some, hparse, Option.map_some, hnew]

/-- So does a timestamp that may be missing. -/
theorem deserializeOption_serializeOption (htime : time.Iso8601) {t : Option PrimitiveDateTime}
    (h : ∀ dateTime, t = some dateTime → dateTime.FourDigits) :
    ∃ json, serializeOption time t = some json ∧ json.WellFormed ∧
      deserializeOption time json = some t := by
  cases t with
  | none => exact ⟨.null, rfl, trivial, rfl⟩
  | some t =>
    obtain ⟨dateTime, -, hserialize, hdeserialize⟩ := deserialize_serialize htime (h t rfl)
    refine ⟨_, hserialize, trivial, ?_⟩
    rw [deserialize, Json.toText, Option.bind_some] at hdeserialize
    obtain ⟨parsed, hparsed, hnew⟩ := Option.map_eq_some_iff.1 hdeserialize
    show (time.parse _).map (fun dateTime => some (PrimitiveDateTime.new dateTime)) = _
    rw [hparsed, Option.map_some, hnew]

end Iso8601

/-! ## Ciphertexts and schemes -/

/-- `Serialize` for `Encrypted`. -/
def serializeEncrypted (data : Bytes) : Json := .string (base64Encode data)

/-- `Deserialize` for `Encrypted`. -/
def deserializeEncrypted (json : Json) : Option Bytes := json.toText.bind base64Decode

theorem deserialize_serializeEncrypted (data : Bytes) :
    deserializeEncrypted (serializeEncrypted data) = some data := by
  rw [deserializeEncrypted, serializeEncrypted, Json.toText, Option.bind_some,
    base64Decode_encode]

/-- `Serialize` for `StorageScheme`, in snake case. -/
def StorageScheme.serialize (scheme : StorageScheme) : Json := .string scheme.display

/-- The variants of `StorageScheme` in snake case. -/
def StorageScheme.ofVariant : String → Option StorageScheme
  | "postgres_only" => some .postgresOnly
  | "redis_kv" => some .redisKv
  | _ => none

/-- `Deserialize` for `StorageScheme`: the name of a variant, or an object with that name
    and `null`. -/
def StorageScheme.deserialize : Json → Option StorageScheme
  | .string name => ofVariant name
  | .object [(name, .null)] => ofVariant name
  | _ => none

/-- `Option::<StorageScheme>::serialize`. -/
def serializeScheme : Option StorageScheme → Json
  | none => .null
  | some scheme => scheme.serialize

theorem deserialize_serializeScheme (scheme : Option StorageScheme) :
    (serializeScheme scheme).toOption StorageScheme.deserialize = some scheme := by
  cases scheme with
  | none => rfl
  | some scheme => cases scheme <;> decide

/-! ## Rows -/

/-- `i32::deserialize`: an integer in range. -/
def deserializeI32 (json : Json) : Option Int32 :=
  json.toInt.bind fun z => if -2 ^ 31 ≤ z ∧ z < 2 ^ 31 then some (Int32.ofInt z) else none

theorem deserializeI32_ofInt (id : Int32) : deserializeI32 (Json.ofInt id.toInt) = some id := by
  have hlower := id.le_toInt
  have hupper := id.toInt_lt
  rw [deserializeI32, Json.toInt_ofInt, Option.bind_some, if_pos ⟨hlower, hupper⟩,
    Int32.ofInt_toInt]

/-- `LockerInner`, with the `i32` that its id is. -/
structure SerdeLocker where
  id : Int32
  lockerId : String
  merchantId : String
  customerId : String
  encData : Bytes
  createdAt : PrimitiveDateTime
  hashId : String
  ttl : Option PrimitiveDateTime
  updatedBy : Option StorageScheme
  deriving DecidableEq

namespace SerdeLocker

/-- All timestamps are of the years 0 to 9999. -/
structure FourDigits (locker : SerdeLocker) : Prop where
  createdAt : locker.createdAt.FourDigits
  ttl : ∀ ttl, locker.ttl = some ttl → ttl.FourDigits

/-- The members of the object that a row is, with its two timestamps as they are written. -/
def members (self : SerdeLocker) (createdAt ttl : Json) : List (String × Json) :=
  [("id", Json.ofInt self.id.toInt),
    ("locker_id", .string self.lockerId),
    ("merchant_id", .string self.merchantId),
    ("customer_id", .string self.customerId),
    ("enc_data", serializeEncrypted self.encData),
    ("created_at", createdAt),
    ("hash_id", .string self.hashId),
    ("ttl", ttl),
    ("updated_by", serializeScheme self.updatedBy)]

variable (time : TimeCrate)

/-- `Serialize` for `LockerInner`. -/
def toJson (self : SerdeLocker) : Option Json := do
  let createdAt ← Iso8601.serialize time self.createdAt
  let ttl ← Iso8601.serializeOption time self.ttl
  return .object (self.members createdAt ttl)

/-- `Deserialize` for `LockerInner`: an object, or its values one after the other. Only
    `updated_by` may be missing from an object. -/
def ofJson : Json → Option SerdeLocker
  | .object members => do
    return {
      id := ← Json.field deserializeI32 none "id" members
      lockerId := ← Json.field Json.toText none "locker_id" members
      merchantId := ← Json.field Json.toText none "merchant_id" members
      customerId := ← Json.field Json.toText none "customer_id" members
      encData := ← Json.field deserializeEncrypted none "enc_data" members
      createdAt := ← Json.field (Iso8601.deserialize time) none "created_at" members
      hashId := ← Json.field Json.toText none "hash_id" members
      ttl := ← Json.field (Iso8601.deserializeOption time) none "ttl" members
      updatedBy := ← Json.field (Json.toOption StorageScheme.deserialize) (some none)
        "updated_by" members }
  | .array [id, lockerId, merchantId, customerId, encData, createdAt, hashId, ttl, updatedBy] => do
    return {
      id := ← deserializeI32 id
      lockerId := ← lockerId.toText
      merchantId := ← merchantId.toText
      customerId := ← customerId.toText
      encData := ← deserializeEncrypted encData
      createdAt := ← Iso8601.deserialize time createdAt
      hashId := ← hashId.toText
      ttl := ← Iso8601.deserializeOption time ttl
      updatedBy := ← updatedBy.toOption StorageScheme.deserialize }
  | _ => none

/-- `serde_json::to_string`. -/
def toStr (self : SerdeLocker) : Option String := (self.toJson time).map Json.print

/-- `serde_json::from_str`. -/
def fromStr (text : String) : Option SerdeLocker := (Json.parse text).bind (ofJson time)

variable {time}

/-- The fields of a row are read from the object that they are written to. -/
theorem ofJson_toJson (htime : time.Iso8601) {self : SerdeLocker} (h : self.FourDigits) :
    ∃ json, self.toJson time = some json ∧ json.WellFormed ∧ ofJson time json = some self := by
  obtain ⟨dateTime, -, hcreated, hcreated'⟩ := Iso8601.deserialize_serialize htime h.createdAt
  obtain ⟨ttl, httl, hwell, httl'⟩ := Iso8601.deserializeOption_serializeOption htime h.ttl
  have hscheme : (serializeScheme self.updatedBy).WellFormed := by
    cases self.updatedBy <;> trivial
  refine ⟨.object (self.members (.string (Iso8601Digits.ofDateTime dateTime).text) ttl), ?_, ?_,
    ?_⟩
  · rw [toJson, hcreated, httl]
    rfl
  · exact ⟨Json.wellFormed_ofInt _, trivial, trivial, trivial, trivial, trivial, trivial, hwell,
      hscheme, trivial⟩
  · simp [ofJson, members, Json.field, deserializeI32_ofInt, Json.toText,
      deserialize_serializeEncrypted, hcreated', httl', deserialize_serializeScheme]

/-- A row reads back from its JSON text. -/
theorem fromStr_toStr (htime : time.Iso8601) {self : SerdeLocker} (h : self.FourDigits) :
    ∃ text, self.toStr time = some text ∧ fromStr time text = some self := by
  obtain ⟨json, hjson, hwell, hread⟩ := ofJson_toJson htime h
  refine ⟨json.print, by rw [toStr, hjson, Option.map_some], ?_⟩
  rw [fromStr, Json.parse_print hwell, Option.bind_some, hread]

end SerdeLocker

/-- What Redis stores of a row comes back unchanged, and so do its timestamps, written with
    all their digits, a missing one, and its ciphertext. -/
theorem lockerInner_roundTrip {time : TimeCrate} (htime : time.Iso8601) :
    (∀ locker : SerdeLocker, locker.FourDigits →
        ∃ text, locker.toStr time = some text ∧ SerdeLocker.fromStr time text = some locker) ∧
      (∀ t : PrimitiveDateTime, t.FourDigits →
        ∃ dateTime, t.assumeUtc = some dateTime ∧
          Iso8601.serialize time t = some (.string (Iso8601Digits.ofDateTime dateTime).text) ∧
          Iso8601.deserialize time (.string (Iso8601Digits.ofDateTime dateTime).text) = some t) ∧
      (∀ t : Option PrimitiveDateTime, (∀ dateTime, t = some dateTime → dateTime.FourDigits) →
        ∃ json, Iso8601.serializeOption time t = some json ∧
          Iso8601.deserializeOption time json = some t ∧ (t = none → json = .null)) ∧
      ∀ data, serializeEncrypted data = .string (base64Encode data) ∧
        deserializeEncrypted (serializeEncrypted data) = some data := by
  refine ⟨fun locker h => SerdeLocker.fromStr_toStr htime h,
    fun t h => Iso8601.deserialize_serialize htime h, fun t h => ?_,
    fun data => ⟨rfl, deserialize_serializeEncrypted data⟩⟩
  obtain ⟨json, hserialize, -, hdeserialize⟩ :=
    Iso8601.deserializeOption_serializeOption htime h
  refine ⟨json, hserialize, hdeserialize, ?_⟩
  rintro rfl
  exact (Option.some.inj hserialize).symm

/-- Rows of the model whose ids are `i32`, as `serde` sees them. -/
def LockerInner.toSerde (inner : LockerInner) : SerdeLocker where
  id := Int32.ofNat inner.id
  lockerId := inner.lockerId
  merchantId := inner.merchantId
  customerId := inner.customerId
  encData := inner.encData
  createdAt := inner.createdAt
  hashId := inner.hashId
  ttl := inner.ttl
  updatedBy := inner.updatedBy

/-! ### A reader of timestamps -/

/-- Some digits, and what follows them and the character after them. -/
def readField (n : ℕ) (chars : List Char) : List ℕ × List Char :=
  ((chars.take n).map fun c => c.toNat - '0'.toNat, chars.drop (n + 1))

theorem readField_append {n : ℕ} {digits : List ℕ}
    (h : digits.length = n ∧ ∀ d ∈ digits, d < 10) (separator : Char) (rest : List Char) :
    readField n (digits.map Nat.digitChar ++ separator :: rest) = (digits, rest) := by
  have hdigit : ∀ d < 10, (Nat.digitChar d).toNat - '0'.toNat = d := by decide
  have hlen : (digits.map Nat.digitChar).length = n := by rw [List.length_map, h.1]
  have hread : (digits.map Nat.digitChar).map (fun c => c.toNat - '0'.toNat) = digits := by
    rw [List.map_map]
    exact (List.map_congr_left fun d hd => hdigit d (h.2 d hd)).trans (List.map_id digits)
  rw [readField, List.take_left' hlen, hread, List.drop_append, hlen]
  simp [hlen]

/-- The digits of a text in ISO 8601. -/
def readText (text : String) : Iso8601Digits :=
  let (year, rest) := readField 4 text.toList
  let (month, rest) := readField 2 rest
  let (day, rest) := readField 2 rest
  let (hour, rest) := readField 2 rest
  let (minute, rest) := readField 2 rest
  let (second, rest) := readField 2 rest
  { year, month, day, hour, minute, second, subsecond := (readField 9 rest).1 }

theorem readText_text {digits : Iso8601Digits} (h : digits.WellFormed) :
    readText digits.text = digits := by
  simp only [readText, Iso8601Digits.text, String.toList_ofList, readField_append h.year,
    readField_append h.month, readField_append h.day, readField_append h.hour,
    readField_append h.minute, readField_append h.second, readField_append h.subsecond]

/-- The date and time that digits denote, if there is one. -/
def dateTimeOf (digits : Iso8601Digits) : Option DateTime :=
  if hdate : 1 ≤ Numeral.value 10 digits.month ∧ Numeral.value 10 digits.month ≤ 12 ∧
      1 ≤ Numeral.value 10 digits.day ∧ Numeral.value 10 digits.day ≤
        monthLength (Numeral.value 10 digits.year) (Numeral.value 10 digits.month) then
    if htime : Numeral.value 10 digits.hour < 24 ∧ Numeral.value 10 digits.minute < 60 ∧
        Numeral.value 10 digits.second < 60 ∧
        Numeral.value 10 digits.subsecond < 1000000000 then
      some ⟨⟨_, _, _, hdate.1, hdate.2.1, hdate.2.2.1, hdate.2.2.2⟩,
        ⟨_, _, _, _, htime.1, htime.2.1, htime.2.2.1, htime.2.2.2⟩⟩
    else none
  else none

theorem dateTimeOf_denotes {digits : Iso8601Digits} {dateTime : DateTime}
    (h : digits.Denotes dateTime) : dateTimeOf digits = some dateTime := by
  obtain ⟨⟨year, month, day, hmonth, hmonth', hday, hday'⟩,
    ⟨hour, minute, second, nanosecond, hhour, hminute, hsecond, hnanosecond⟩⟩ := dateTime
  obtain ⟨rfl, rfl, rfl, rfl, rfl, rfl, rfl⟩ := h
  unfold dateTimeOf
  rw [dif_pos ⟨hmonth, hmonth', hday, hday'⟩, dif_pos ⟨hhour, hminute, hsecond, hnanosecond⟩]

/-- The date and time that a text is written for, if there is one. -/
def dateTimeOfText (text : String) : Option DateTime :=
  if (readText text).text = text then dateTimeOf (readText text) else none

theorem dateTimeOfText_text {digits : Iso8601Digits} {dateTime : DateTime}
    (hwell : digits.WellFormed) (hdenotes : digits.Denotes dateTime) :
    dateTimeOfText digits.text = some dateTime := by
  rw [dateTimeOfText, readText_text hwell, if_pos rfl, dateTimeOf_denotes hdenotes]

/-- The text of a date and time, whose year has four digits. -/
def textOfDateTime (dateTime : DateTime) : Option String :=
  if dateTime.date.year ≤ 9999 then some (Iso8601Digits.ofDateTime dateTime).text else none

/-- A crate that writes and reads exactly these texts. -/
def sampleTime : TimeCrate where
  format := textOfDateTime
  parse := dateTimeOfText

theorem sampleTime_iso8601 : sampleTime.Iso8601 where
  format dateTime h := by
    simp only [sampleTime]
    rw [textOfDateTime, if_pos h]
  parse digits dateTime hwell hdenotes := by
    simp only [sampleTime]
    exact dateTimeOfText_text hwell hdenotes

/-- A row that was created in the last nanosecond of a leap day. -/
def leapDayLocker : SerdeLocker where
  id := -1
  lockerId := "locker"
  merchantId := "merchant \"quoted\""
  customerId := "customer"
  encData := [0, 255, 1, 2]
  createdAt := ⟨762566399999999999⟩
  hashId := "hash"
  ttl := some ⟨252455615999000000000⟩
  updatedBy := some .redisKv

/-- It comes back unchanged. -/
theorem lockerInner_roundTrip_leapDay :
    ∃ text, leapDayLocker.toStr sampleTime = some text ∧
      SerdeLocker.fromStr sampleTime text = some leapDayLocker := by
  refine (lockerInner_roundTrip sampleTime_iso8601).1 leapDayLocker
    ⟨⟨by decide, by decide⟩, fun ttl httl => ?_⟩
  cases httl
  exact ⟨by decide, by decide⟩

end CardVault
