import CardVault.Crypto.Base64
import CardVault.Lib.Json
import CardVault.Storage.Backend

/-!
# Drainer queries as JSON

What a drainer entry carries (`src/src/storage/kv/serializable_query.rs`): the SQL text of a
statement, its binds in base64 with `null` for NULL, and the type of each bind as a pair of
OIDs, written by `serde_json` and read back by the drainer.

`diesel` is a parameter.

Main results:
* `BindParams.deserialize_serialize`: binds, NULL apart from the empty byte string.
* `SerdeQuery.fromStr_toStr`: a query reads back, up to the types that were not resolved.
* `drainerQuery_roundTrip`: a query that `from_query` builds reads back.
* `fieldValuePairs_query`: so does the query of an entry of a stream.
-/

namespace CardVault

/-! ## Binds -/

namespace BindParams

/-- `bind_params::serialize`. -/
def serialize (binds : List (Option Bytes)) : Json :=
  let encoded := binds.map fun bind => bind.map base64Encode
  .array (encoded.map (Json.ofOption Json.string))

/-- One bind, which is decoded if it is there. -/
def decodeBind : Option String → Option (Option Bytes)
  | none => some none
  | some text => (base64Decode text).map some

/-- `bind_params::deserialize`. -/
def deserialize (json : Json) : Option (List (Option Bytes)) :=
  (json.toVec (Json.toOption Json.toText)).bind fun encoded => encoded.mapM decodeBind

theorem decodeBind_encode (bind : Option Bytes) :
    decodeBind (bind.map base64Encode) = some bind := by
  cases bind with
  | none => rfl
  | some data => rw [Option.map_some, decodeBind, base64Decode_encode, Option.map_some]

/-- The binds come back in their order. -/
theorem deserialize_serialize (binds : List (Option Bytes)) :
    deserialize (serialize binds) = some binds := by
  have htext : ∀ text, (Json.ofOption Json.string text).toOption Json.toText = some text :=
    Json.toOption_ofOption (fun _ => Json.noConfusion) fun _ => rfl
  have hencoded : (serialize binds).toVec (Json.toOption Json.toText) =
      some (binds.map fun bind => bind.map base64Encode) := Json.toVec_map htext _
  rw [deserialize, hencoded, Option.bind_some]
  exact Json.mapM_map decodeBind_encode binds

theorem wellFormed_serialize (binds : List (Option Bytes)) : (serialize binds).WellFormed := by
  refine Json.wellFormedElements_map (fun text => ?_) _
  cases text <;> trivial

end BindParams

/-! ## Types of binds -/

/-- `FailedToLookupTypeError` of diesel. -/
structure FailedToLookupTypeError where
  schema : Option String
  typeName : String
  deriving DecidableEq, Repr

/-- `diesel::pg::PgTypeMetadata`: the OIDs of a type and of its arrays, if they are known. -/
structure PgTypeMetadata where
  fromResult ::
  result : Except FailedToLookupTypeError (UInt32 × UInt32)

namespace PgTypeMetadata

/-- `PgTypeMetadata::oid`. -/
def oid (self : PgTypeMetadata) : Except FailedToLookupTypeError UInt32 :=
  self.result.map Prod.fst

/-- `PgTypeMetadata::array_oid`. -/
def arrayOid (self : PgTypeMetadata) : Except FailedToLookupTypeError UInt32 :=
  self.result.map Prod.snd

/-- The OIDs of the type are known. -/
def Resolved (self : PgTypeMetadata) : Prop := ∃ oids, self.result = .ok oids

/-- `pg_type_metadata::serialize` of one type. -/
def toPair (self : PgTypeMetadata) : UInt32 × UInt32 :=
  (self.oid.toOption.getD 0, self.arrayOid.toOption.getD 0)

/-- What is read back for a type. -/
def orFake (self : PgTypeMetadata) : PgTypeMetadata := fromResult (.ok self.toPair)

/-- A type that was not resolved reads back with the OIDs 0. -/
theorem orFake_eq_self_iff (self : PgTypeMetadata) : self.orFake = self ↔ self.Resolved := by
  unfold orFake toPair oid arrayOid Resolved
  obtain ⟨result⟩ := self
  cases result with
  | error e =>
    constructor
    · intro h
      cases (PgTypeMetadata.fromResult.inj h)
    · rintro ⟨oids, h⟩
      cases h
  | ok oids => exact ⟨fun _ => ⟨oids, rfl⟩, fun _ => rfl⟩

/-- `u32::deserialize`: an integer in range. -/
def deserializeU32 (json : Json) : Option UInt32 :=
  json.toInt.bind fun z => if 0 ≤ z ∧ z < 0x100000000 then some (UInt32.ofNat z.toNat) else none

theorem deserializeU32_ofInt (oid : UInt32) :
    deserializeU32 (Json.ofInt oid.toNat) = some oid := by
  have hupper := oid.toNat_lt
  have hrange : 0 ≤ (oid.toNat : ℤ) ∧ (oid.toNat : ℤ) < 0x100000000 := by omega
  rw [deserializeU32, Json.toInt_ofInt, Option.bind_some, if_pos hrange, Int.toNat_natCast,
    UInt32.ofNat_toNat]

/-- `<(u32, u32)>::serialize`. -/
def serializePair (oids : UInt32 × UInt32) : Json :=
  .array [Json.ofInt oids.1.toNat, Json.ofInt oids.2.toNat]

/-- `pg_type_metadata::serialize`. -/
def serialize (metadata : List PgTypeMetadata) : Json :=
  .array ((metadata.map toPair).map serializePair)

/-- `pg_type_metadata::deserialize`. -/
def deserialize (json : Json) : Option (List PgTypeMetadata) :=
  (json.toVec (Json.toPair deserializeU32 deserializeU32)).map fun pairs =>
    pairs.map fun oids => fromResult (.ok oids)

theorem deserialize_serialize (metadata : List PgTypeMetadata) :
    deserialize (serialize metadata) = some (metadata.map orFake) := by
  have hpairs : (serialize metadata).toVec (Json.toPair deserializeU32 deserializeU32) =
      some (metadata.map toPair) := by
    refine Json.toVec_map (fun oids => ?_) _
    rw [serializePair, Json.toPair, deserializeU32_ofInt, deserializeU32_ofInt]
    rfl
  rw [deserialize, hpairs, Option.map_some, List.map_map]
  rfl

theorem wellFormed_serialize (metadata : List PgTypeMetadata) :
    (serialize metadata).WellFormed := by
  have hpair : ∀ oids, (serializePair oids).WellFormed := fun _ =>
    ⟨Json.wellFormed_ofInt _, Json.wellFormed_ofInt _, trivial⟩
  exact Json.wellFormedElements_map hpair _

end PgTypeMetadata

/-! ## Operations -/

/-- `Display` for `DatabaseOperation`, in snake case. -/
def DatabaseOperation.display : DatabaseOperation → String
  | .insert => "insert"
  | .update => "update"
  | .delete => "delete"

/-- `Serialize` for `DatabaseOperation`, in snake case. -/
def DatabaseOperation.serialize (operation : DatabaseOperation) : Json :=
  .string operation.display

/-- The variants of `DatabaseOperation` in snake case. -/
def DatabaseOperation.ofVariant : String → Option DatabaseOperation
  | "insert" => some .insert
  | "update" => some .update
  | "delete" => some .delete
  | _ => none

/-- `Deserialize` for `DatabaseOperation`: the name of a variant, or an object with that
    name and `null`. -/
def DatabaseOperation.deserialize : Json → Option DatabaseOperation
  | .string name => ofVariant name
  | .object [(name, .null)] => ofVariant name
  | _ => none

theorem DatabaseOperation.deserialize_serialize (operation : DatabaseOperation) :
    deserialize operation.serialize = some operation := by
  cases operation <;> decide

/-! ## Queries -/

/-- `SerializableQuery`, with the SQL text and the binds of its statement. -/
structure SerdeQuery where
  sql : String
  binds : List (Option Bytes)
  metadata : List PgTypeMetadata
  safeToCachePrepared : Bool
  entityType : String
  operation : DatabaseOperation

namespace SerdeQuery

/-- `Serialize` for `SerializableQuery`. -/
def toJson (self : SerdeQuery) : Json :=
  .object [("sql", .string self.sql),
    ("binds", BindParams.serialize self.binds),
    ("metadata", PgTypeMetadata.serialize self.metadata),
    ("safe_to_cache_prepared", .bool self.safeToCachePrepared),
    ("entity_type", .string self.entityType),
    ("operation", self.operation.serialize)]

/-- `Deserialize` for `SerializableQuery`: an object, or its values one after the other. -/
def ofJson : Json → Option SerdeQuery
  | .object members => do
    return {
      sql := ← Json.field Json.toText none "sql" members
      binds := ← Json.field BindParams.deserialize none "binds" members
      metadata := ← Json.field PgTypeMetadata.deserialize none "metadata" members
      safeToCachePrepared := ← Json.field Json.toBool none "safe_to_cache_prepared" members
      entityType := ← Json.field Json.toText none "entity_type" members
      operation := ← Json.field DatabaseOperation.deserialize none "operation" members }
  | .array [sql, binds, metadata, safeToCachePrepared, entityType, operation] => do
    return {
      sql := ← sql.toText
      binds := ← BindParams.deserialize binds
      metadata := ← PgTypeMetadata.deserialize metadata
      safeToCachePrepared := ← safeToCachePrepared.toBool
      entityType := ← entityType.toText
      operation := ← DatabaseOperation.deserialize operation }
  | _ => none

/-- `serde_json::to_string`. -/
def toStr (self : SerdeQuery) : String := self.toJson.print

/-- `serde_json::from_str`. -/
def fromStr (text : String) : Option SerdeQuery := (Json.parse text).bind ofJson

theorem ofJson_toJson (self : SerdeQuery) :
    ofJson self.toJson =
      some { self with metadata := self.metadata.map PgTypeMetadata.orFake } := by
  simp [ofJson, toJson, Json.field, Json.toText, Json.toBool, BindParams.deserialize_serialize,
    PgTypeMetadata.deserialize_serialize, DatabaseOperation.deserialize_serialize]

theorem wellFormed_toJson (self : SerdeQuery) : self.toJson.WellFormed :=
  ⟨trivial, BindParams.wellFormed_serialize _, PgTypeMetadata.wellFormed_serialize _, trivial,
    trivial, trivial, trivial⟩

/-- A query reads back, up to the types that were not resolved. -/
theorem fromStr_toStr (self : SerdeQuery) :
    fromStr self.toStr =
      some { self with metadata := self.metadata.map PgTypeMetadata.orFake } := by
  rw [fromStr, toStr, Json.parse_print self.wellFormed_toJson, Option.bind_some]
  exact ofJson_toJson self

/-- It reads back unchanged exactly when all types were resolved. -/
theorem fromStr_toStr_iff (self : SerdeQuery) :
    fromStr self.toStr = some self ↔ ∀ m ∈ self.metadata, m.Resolved := by
  have hmap : self.metadata.map PgTypeMetadata.orFake = self.metadata.map id ↔
      ∀ m ∈ self.metadata, m.orFake = m := List.map_inj_left
  rw [List.map_id] at hmap
  rw [fromStr_toStr, Option.some_inj]
  constructor
  · intro h m hm
    exact m.orFake_eq_self_iff.1 (hmap.1 (congrArg SerdeQuery.metadata h) m hm)
  · intro h
    rw [hmap.2 fun m hm => m.orFake_eq_self_iff.2 (h m hm)]

/-- `to_field_value_pairs`, at the Unix time `pushedAt`. -/
def toFieldValuePairs (self : SerdeQuery) (requestId globalId : String) (pushedAt : ℤ) :
    List (String × String) :=
  [("query", self.toStr), ("global_id", globalId), ("request_id", requestId),
    ("pushed_at", toString pushedAt)]

end SerdeQuery

/-! ## Building a query -/

/-- `diesel::pg::PgMetadataLookup`, by the name of a type and its schema. -/
abbrev PgMetadataLookup := String → Option String → PgTypeMetadata

/-- A `QueryFragment<Pg>` of diesel: the SQL text and the binds it comes to. -/
structure QueryFragment where
  /-- `to_sql`, with a `PgQueryBuilder` -/
  toSql : Except DieselError String
  isSafeToCachePrepared : Except DieselError Bool
  /-- `collect_binds`, with a `RawBytesBindCollector` -/
  collectBinds : PgMetadataLookup → Except DieselError (List (Option Bytes) × List PgTypeMetadata)

/-- What diesel says of the types it collects: those it does not know itself it looks up. -/
def QueryFragment.Resolves (query : QueryFragment) : Prop :=
  ∀ lookup : PgMetadataLookup, (∀ typeName schema, (lookup typeName schema).Resolved) →
    ∀ binds metadata, query.collectBinds lookup = .ok (binds, metadata) →
      ∀ m ∈ metadata, m.Resolved

/-- `FAKE_OID`. -/
def fakeOid : UInt32 := 0

/-- `KvPgMetadataLookup`, which answers every type. -/
def kvPgMetadataLookup : PgMetadataLookup := fun _ _ => .fromResult (.ok (fakeOid, fakeOid))

theorem resolved_kvPgMetadataLookup (typeName : String) (schema : Option String) :
    (kvPgMetadataLookup typeName schema).Resolved := ⟨_, rfl⟩

/-- `change_context(KvError::SerializationFailed)`. -/
def orSerializationFailed {α : Type} : Except DieselError α → Except KvError α
  | .ok a => .ok a
  | .error _ => .error .serializationFailed

/-- `SerializableQuery::from_query`. -/
def fromQuery (query : QueryFragment) (entityType : String) (operation : DatabaseOperation) :
    Except KvError SerdeQuery := do
  let sql ← orSerializationFailed query.toSql
  let safeToCachePrepared ← orSerializationFailed query.isSafeToCachePrepared
  let (binds, metadata) ← orSerializationFailed (query.collectBinds kvPgMetadataLookup)
  return { sql, binds, metadata, safeToCachePrepared, entityType, operation }

/-- A query is built from what diesel gives, and fails with it. -/
theorem fromQuery_eq_ok_iff {query : QueryFragment} {entityType : String}
    {operation : DatabaseOperation} {q : SerdeQuery} :
    fromQuery query entityType operation = .ok q ↔
      query.toSql = .ok q.sql ∧ query.isSafeToCachePrepared = .ok q.safeToCachePrepared ∧
        query.collectBinds kvPgMetadataLookup = .ok (q.binds, q.metadata) ∧
        q.entityType = entityType ∧ q.operation = operation := by
  obtain ⟨sql, binds, metadata, safeToCachePrepared, qEntityType, qOperation⟩ := q
  unfold fromQuery
  cases query.toSql with
  | error e => simp [orSerializationFailed, bind, Except.bind]
  | ok sql =>
    cases query.isSafeToCachePrepared with
    | error e => simp [orSerializationFailed, bind, Except.bind]
    | ok safe =>
      cases query.collectBinds kvPgMetadataLookup with
      | error e => simp [orSerializationFailed, bind, Except.bind]
      | ok collected =>
        obtain ⟨collectedBinds, collectedMetadata⟩ := collected
        constructor
        · intro h
          cases h
          exact ⟨rfl, rfl, rfl, rfl, rfl⟩
        · rintro ⟨hsql, hsafe, hbinds, hentity, hoperation⟩
          cases hsql
          cases hsafe
          cases hbinds
          cases hentity
          cases hoperation
          rfl

/-- Every type of a query that is built is resolved. -/
theorem resolved_of_fromQuery {query : QueryFragment} (hquery : query.Resolves)
    {entityType : String} {operation : DatabaseOperation} {q : SerdeQuery}
    (h : fromQuery query entityType operation = .ok q) : ∀ m ∈ q.metadata, m.Resolved := by
  obtain ⟨-, -, hbinds, -, -⟩ := fromQuery_eq_ok_iff.1 h
  exact hquery kvPgMetadataLookup resolved_kvPgMetadataLookup q.binds q.metadata hbinds

/-- A query that `from_query` builds reads back from its JSON text unchanged: the SQL, the
    binds in their order, the OIDs of their types, the flag and the labels. -/
theorem drainerQuery_roundTrip (query : QueryFragment) (entityType : String)
    (operation : DatabaseOperation) {q : SerdeQuery}
    (hq : fromQuery query entityType operation = .ok q)
    (hresolved : ∀ m ∈ q.metadata, m.Resolved) :
    SerdeQuery.fromStr q.toStr = some q ∧ query.toSql = .ok q.sql ∧
      query.isSafeToCachePrepared = .ok q.safeToCachePrepared ∧
      query.collectBinds kvPgMetadataLookup = .ok (q.binds, q.metadata) ∧
      q.entityType = entityType ∧ q.operation = operation :=
  ⟨q.fromStr_toStr_iff.2 hresolved, fromQuery_eq_ok_iff.1 hq⟩

/-- An UPDATE with a missing bind, an empty one and one with bytes. -/
def sampleFragment : QueryFragment where
  toSql := .ok "UPDATE \"vault\" SET \"expires_at\" = $1, \"data\" = $2 WHERE \"id\" = $3"
  isSafeToCachePrepared := .ok true
  collectBinds lookup := .ok
    ([none, some [], some [0, 255, 10]], [.fromResult (.ok (17, 1001)), lookup "Id" none,
      .fromResult (.ok (25, 1009))])

/-- It is built, and reads back with these binds. -/
theorem drainerQuery_roundTrip_mixed :
    ∃ q, fromQuery sampleFragment "vault" .update = .ok q ∧
      q.binds = [none, some [], some [0, 255, 10]] ∧ SerdeQuery.fromStr q.toStr = some q := by
  refine ⟨_, rfl, rfl, (drainerQuery_roundTrip sampleFragment "vault" .update rfl ?_).1⟩
  intro m hm
  simp only [List.mem_cons, List.not_mem_nil, or_false] at hm
  rcases hm with rfl | rfl | rfl
  · exact ⟨_, rfl⟩
  · exact resolved_kvPgMetadataLookup _ _
  · exact ⟨_, rfl⟩

/-! ## Entries -/

/-- The SQL that diesel makes of the statements of the storage layer. -/
abbrev Diesel := Statement → QueryFragment

/-- The query of an entry with its SQL. -/
def SerializableQuery.serde (diesel : Diesel) (query : SerializableQuery) :
    Except KvError SerdeQuery :=
  fromQuery (diesel query.statement) query.entityType query.operation

/-- The fields of an entry, as they are appended to a stream. -/
def DrainerEntry.fieldValuePairs (diesel : Diesel) (requestId : String) (pushedAt : ℤ)
    (entry : DrainerEntry) : Except KvError (List (String × String)) := do
  let query ← entry.query.serde diesel
  return query.toFieldValuePairs requestId entry.globalId pushedAt

/-- The drainer reads off an entry the SQL, the binds and the labels of its statement. -/
theorem fieldValuePairs_query {diesel : Diesel} (hdiesel : ∀ stmt, (diesel stmt).Resolves)
    {requestId : String} {pushedAt : ℤ} {entry : DrainerEntry} {pairs : List (String × String)}
    (h : entry.fieldValuePairs diesel requestId pushedAt = .ok pairs) :
    ∃ q, entry.query.serde diesel = .ok q ∧
      (pairs.lookup "query").bind SerdeQuery.fromStr = some q ∧
      pairs.lookup "global_id" = some entry.globalId ∧
      q.entityType = entry.query.entityType ∧ q.operation = entry.query.operation := by
  unfold DrainerEntry.fieldValuePairs at h
  cases hq : entry.query.serde diesel with
  | error e =>
    rw [hq] at h
    cases h
  | ok q =>
    rw [hq] at h
    cases h
    have hresolved := resolved_of_fromQuery (hdiesel entry.query.statement) hq
    obtain ⟨-, -, -, hentity, hoperation⟩ := fromQuery_eq_ok_iff.1 hq
    refine ⟨q, rfl, ?_, rfl, hentity, hoperation⟩
    have hquery : (q.toFieldValuePairs requestId entry.globalId pushedAt).lookup "query" =
        some q.toStr := rfl
    rw [hquery, Option.bind_some]
    exact q.fromStr_toStr_iff.2 hresolved

end CardVault
