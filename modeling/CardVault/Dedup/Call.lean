import CardVault.ApiError
import CardVault.Domain

/-!
# Calls that give a hash its id

`fingerprint::get_or_insert` gives a fingerprint hash its `fingerprint_id`, and
`add_card` gives a data hash its `hash_id`: each reads first, inserts when there
is nothing, and reads again when the insert meets a row. `Phase` is what such a
call knows on its way, whatever other calls do in between.

Main results:
* `Call.does_app`: a call only issues the commands its phase allows, and ends with a
  row whose id it knows.
* `Call.within_app`: a call ends after at most 30 commands.
-/

namespace CardVault

open Interaction

/-! ## Ids -/

/-- `consts::ID_LENGTH`. -/
def idLength : ℕ := 20

/-- `ID_LENGTH` letters and digits: what `generate_nano_id` makes of
    `consts::ALPHABETS`, and what callers may supply. -/
structure FingerprintId where
  val : String
  length : val.length = idLength
  alphanumeric : val.toList.all Char.isAlphanum = true
  deriving DecidableEq

/-- `OptionalFingerprintId::from_request_parts`, on the header as `to_str` reads
    it: only ASCII, a byte for each character. -/
def optionalFingerprintId : Option String → Except ApiError (Option FingerprintId)
  | none => .ok none
  | some s =>
    if h : s.length = idLength ∧ s.toList.all Char.isAlphanum = true then
      .ok (some ⟨s, h.1, h.2⟩)
    else .error (.validationError "x-fingerprint-id must be exactly 20 alphanumeric characters")

/-- A text of `generate_uuid`: 32 hexadecimal digits and 4 hyphens. -/
structure Uuid where
  val : String
  length : val.length = 36
  deriving DecidableEq

/-- The id that a row gives the hash it is stored under. -/
def Row.assignedId : Row → String
  | .fingerprint row => row.fingerprintId
  | .hashTable row => row.hashId
  | .locker row => row.lockerId
  | .reverseLookup row => row.lookupId
  | .vault row => row.vaultId

namespace Dedup

/-! ## Calls -/

/-- A call, with the values it makes up itself. -/
inductive Call where
  | fingerprint (data key : String) (fingerprintId : Option FingerprintId) (nanoId : FingerprintId)
  | hash (dataHash : Bytes) (uuid : Uuid) (now : PrimitiveDateTime)
  deriving DecidableEq

/-- The error of a call. -/
inductive Error where
  | fingerprint (e : FingerprintDBError)
  | hash (e : HashDBError)
  deriving DecidableEq, Repr

/-- How `add_card` gets the hash row of a card: `find_optional_by_data_hash`, and
    `hash::insert_or_get` when there is none. -/
def hashOfCard (store : KvStoreContext) (uuid : String) (now : PrimitiveDateTime)
    (dataHash : Bytes) : App (Except HashDBError HashTable) :=
  (Caching.findOptionalByDataHash store dataHash).andThen fun
    | some hashTable => .pure (.ok hashTable)
    | none => insertOrGetHash store uuid now dataHash

namespace Call

variable (ctx : KvStoreContext) (sign : Bytes → Bytes → Bytes)

/-- The program of a call. -/
def app : Call → App (Except Error Row)
  | .fingerprint data key fingerprintId nanoId =>
    (getOrInsertFingerprint ctx sign nanoId.val data key
      (fingerprintId.map FingerprintId.val)).mapResult fun
        | .ok row => .ok (.fingerprint row)
        | .error e => .error (.fingerprint e)
  | .hash dataHash uuid now =>
    (hashOfCard ctx uuid.val now dataHash).mapResult fun
      | .ok row => .ok (.hashTable row)
      | .error e => .error (.hash e)

/-- The key of the row that a call is about. -/
def key : Call → PartitionKey
  | .fingerprint data key _ _ =>
    .fingerprint (hmacSha512Encode sign key.toUTF8.data.toList data.toUTF8.data.toList)
  | .hash dataHash _ _ => .hashTable dataHash

/-- The id that a call inserts when there is no row. -/
def ownId : Call → String
  | .fingerprint _ _ fingerprintId nanoId => (fingerprintId.map FingerprintId.val).getD nanoId.val
  | .hash _ uuid _ => uuid.val

/-- The read of a call. -/
def findQuery : Call → Query
  | .fingerprint data key _ _ =>
    .findFingerprint (hmacSha512Encode sign key.toUTF8.data.toList data.toUTF8.data.toList)
  | .hash dataHash _ _ => .findHashTable dataHash

/-- The INSERT of a call. -/
def statement (scheme : StorageScheme) : Call → Statement
  | .fingerprint data key fingerprintId nanoId =>
    .insertFingerprint
      ⟨hmacSha512Encode sign key.toUTF8.data.toList data.toUTF8.data.toList,
        (fingerprintId.map FingerprintId.val).getD nanoId.val, some scheme⟩
  | .hash dataHash uuid now => .insertHashTable ⟨uuid.val, dataHash, now, some scheme⟩

/-- The row that a call writes to Redis. -/
def row : Call → Row
  | .fingerprint data key fingerprintId nanoId =>
    .fingerprint (FingerprintTableNew.toFingerprint
      ⟨hmacSha512Encode sign key.toUTF8.data.toList data.toUTF8.data.toList,
        (fingerprintId.map FingerprintId.val).getD nanoId.val, some .redisKv⟩)
  | .hash dataHash uuid now =>
    .hashTable (HashTableNew.toHashTable ⟨uuid.val, dataHash, now, some .redisKv⟩)

/-- The table of a call. -/
def resource : Call → Resource
  | .fingerprint .. => .fingerprint
  | .hash .. => .hashTable

/-- The entry that a call owes the drainer for the row it has written to Redis. -/
def entry (call : Call) : DrainerEntry :=
  ⟨⟨call.statement sign .redisKv, call.resource.entityType, .insert⟩, (call.key sign).display⟩

variable {sign} (call : Call)

@[simp] theorem statement_partitionKey (scheme : StorageScheme) :
    (call.statement sign scheme).partitionKey = call.key sign := by cases call <;> rfl

@[simp] theorem row_partitionKey : (call.row sign).partitionKey = call.key sign := by
  cases call <;> rfl

@[simp] theorem row_assignedId : (call.row sign).assignedId = call.ownId := by cases call <;> rfl

theorem key_resource : (call.key sign).resource = some call.resource := by cases call <;> rfl

/-- Keys of calls have texts of their own. -/
theorem display_inj {call call' : Call}
    (h : (call.key sign).display = (call'.key sign).display) : call.key sign = call'.key sign := by
  have hres := PartitionKey.resource_eq_of_display call.key_resource call'.key_resource h
  cases call with
  | fingerprint data key fingerprintId nanoId =>
    cases call' with
    | fingerprint =>
      exact congrArg PartitionKey.fingerprint (PartitionKey.display_fingerprint_inj.1 h)
    | hash => cases hres
  | hash dataHash uuid now =>
    cases call' with
    | fingerprint => cases hres
    | hash => exact congrArg PartitionKey.hashTable (PartitionKey.display_hashTable_inj.1 h)

variable (sign) in
/-- An id of a call fits its column. -/
theorem statement_fits (scheme : StorageScheme) : (call.statement sign scheme).fits = true := by
  cases call with
  | fingerprint data key fingerprintId nanoId =>
    have hlen : ((fingerprintId.map FingerprintId.val).getD nanoId.val).length = idLength := by
      cases fingerprintId with
      | none => exact nanoId.length
      | some id => exact id.length
    simp only [statement, Statement.fits, fitsVarchar, hlen]
    decide
  | hash dataHash uuid now =>
    simp only [statement, Statement.fits, fitsVarchar, uuid.length]
    decide

variable (sign) in
/-- The INSERT of a call stores a row with the call's id. -/
theorem statement_effect (scheme : StorageScheme) :
    ∃ mk, (call.statement sign scheme).effect = .insert mk ∧
      ∀ n, (mk n).assignedId = call.ownId := by
  cases call with
  | fingerprint => exact ⟨_, rfl, fun _ => rfl⟩
  | hash => exact ⟨_, rfl, fun _ => rfl⟩

end Call

/-! ## Phases -/

/-- What a call knows of the id of its hash. -/
inductive Phase where
  /-- Nothing yet. -/
  | fresh
  /-- Redis had no row at some time since the call began. -/
  | missed
  /-- Neither Redis nor, after that, Postgres had a row. -/
  | absent
  /-- The call has written the Redis field and owes its entry. -/
  | setting
  /-- The insert has met a row. -/
  | held
  /-- The hash has the id `id`. -/
  | known (id : String)
  deriving DecidableEq, Repr

/-- A call that knows something, but not the id. -/
def Phase.midway : Phase → Bool
  | .fresh | .known _ => false
  | .missed | .absent | .setting | .held => true

/-- The phase after a read of Postgres that finds nothing. -/
def Phase.afterMiss : Phase → Phase
  | .missed => .absent
  | phase => phase

/-- A phase in which Postgres may be read. -/
def Phase.Reads (mode : KvState) (phase : Phase) : Prop :=
  mode = .disabled ∧ (phase = .fresh ∨ phase = .held) ∨ mode = .enabled ∧ phase = .missed

/-- The phase after the first read of a call, when it finds nothing. -/
def Phase.empty : KvState → Phase
  | .disabled => .fresh
  | .enabled | .softKill => .absent

/-- What does not change while calls run. -/
structure Setup where
  ctx : KvStoreContext
  sign : Bytes → Bytes → Bytes
  config : Option RuntimeConfigValues
  hasReplica : Bool

/-- The KV mode that every call reads. -/
def Setup.mode (S : Setup) : KvState :=
  match S.config with
  | some runtimeConfigValues => runtimeConfigValues.enableKv
  | none => .disabled

section Protocol

variable (S : Setup) (call : Call)

/-- The commands a call issues in a phase. -/
def Allowed (phase : Phase) : Cmd → Prop
  | .runtimeConfig => True
  | .hasReplica => True
  | .getConn _ => True
  | .query _ (.execute stmt) =>
    S.mode = .disabled ∧ phase = .fresh ∧ stmt = call.statement S.sign .postgresOnly
  | .query _ q => q = call.findQuery S.sign ∧ phase.Reads S.mode
  | .getRedisConn => True
  | .setHashFields .. => False
  | .setHashFieldIfNotExist key field value _ =>
    S.mode = .enabled ∧ phase = .absent ∧ key = (call.key S.sign).display ∧
      field = (call.key S.sign).display ∧ value = call.row S.sign
  | .getHashField key field =>
    S.mode = .enabled ∧ (phase = .fresh ∨ phase = .held) ∧ key = (call.key S.sign).display ∧
      field = (call.key S.sign).display
  | .deleteHashFields .. => False
  | .streamAppendEntry stream entry =>
    phase = .setting ∧ stream = S.ctx.stream (call.key S.sign) ∧ entry = call.entry S.sign
  | .lookupFingerprint fingerprintHash =>
    call.key S.sign = .fingerprint fingerprintHash ∧ phase ≠ .setting
  | .cacheFingerprint fingerprintHash value =>
    call.key S.sign = .fingerprint fingerprintHash ∧ phase = .known value.fingerprintId
  | .lookupHashTable dataHash => call.key S.sign = .hashTable dataHash ∧ phase ≠ .setting
  | .cacheHashTable dataHash value =>
    call.key S.sign = .hashTable dataHash ∧ phase = .known value.hashId

/-- What a call knows once a command is answered. -/
def Next (phase : Phase) : (c : Cmd) → Reply c → Phase → Prop
  | .runtimeConfig, reply, phase' => reply = S.config ∧ phase' = phase
  | .hasReplica, reply, phase' => reply = S.hasReplica ∧ phase' = phase
  | .getConn _, reply, phase' => reply = Except.ok () ∧ phase' = phase
  | .query _ (.execute stmt), reply, phase' =>
    (∃ out row, reply = Except.ok out ∧ stmt.outputRow out = some row ∧
        row.partitionKey = call.key S.sign ∧ phase' = .known row.assignedId) ∨
      reply = Except.error .uniqueViolation ∧ phase' = .held
  | .query _ q, reply, phase' =>
    (∃ out row, reply = Except.ok out ∧ q.outputRow out = some row ∧
        phase' = .known row.assignedId) ∨
      reply = Except.error .notFound ∧ phase ≠ .held ∧ phase' = phase.afterMiss
  | .getRedisConn, reply, phase' => reply = Except.ok () ∧ phase' = phase
  | .setHashFields .., _, _ => True
  | .setHashFieldIfNotExist .., reply, phase' =>
    reply = Except.ok .keySet ∧ phase' = .setting ∨
      reply = Except.ok .keyNotSet ∧ phase' = .held
  | .getHashField .., reply, phase' =>
    (∃ row, reply = Except.ok row ∧ row.partitionKey = call.key S.sign ∧
        phase' = .known row.assignedId) ∨
      reply = Except.error .notFound ∧ phase = .fresh ∧ phase' = .missed
  | .deleteHashFields .., _, _ => True
  | .streamAppendEntry .., reply, phase' => reply = Except.ok () ∧ phase' = .known call.ownId
  | .lookupFingerprint _, reply, phase' =>
    (∃ value, reply = some value ∧ phase' = .known value.fingerprintId) ∨
      reply = none ∧ phase' = phase
  | .cacheFingerprint .., _, phase' => phase' = phase
  | .lookupHashTable _, reply, phase' =>
    (∃ value, reply = some value ∧ phase' = .known value.hashId) ∨ reply = none ∧ phase' = phase
  | .cacheHashTable .., _, phase' => phase' = phase

/-- From `phase` on, `p` issues allowed commands only, and ends in `Q`. -/
abbrev Does {α : Type} (p : App α) (Q : α → Phase → Prop) (phase : Phase) : Prop :=
  p.wp (Allowed S call) (Next S call) Q phase

end Protocol

/-! ## The storage layer, phase by phase -/

section Does

variable {S : Setup} {call : Call} {phase : Phase} {α E : Type} [StorageErrorExt E]

theorem does_runtimeConfig {Q : Option RuntimeConfigValues → Phase → Prop}
    (h : Q S.config phase) : Does S call getRuntimeConfig Q phase := by
  refine ⟨trivial, fun reply phase' hnext => ?_⟩
  obtain ⟨rfl, rfl⟩ := (hnext : reply = S.config ∧ phase' = phase)
  exact h

theorem does_hasReplica {Q : Bool → Phase → Prop} (h : Q S.hasReplica phase) :
    Does S call hasReplica Q phase := by
  refine ⟨trivial, fun reply phase' hnext => ?_⟩
  obtain ⟨rfl, rfl⟩ := (hnext : reply = S.hasReplica ∧ phase' = phase)
  exact h

theorem does_poolGet (pool : DbPool) {Q : Except Unit Unit → Phase → Prop}
    (h : Q (.ok ()) phase) : Does S call (poolGet pool) Q phase := by
  refine ⟨trivial, fun reply phase' hnext => ?_⟩
  obtain ⟨rfl, rfl⟩ := (hnext : reply = Except.ok () ∧ phase' = phase)
  exact h

theorem does_getRedisConn {Q : Except RedisError Unit → Phase → Prop} (h : Q (.ok ()) phase) :
    Does S call getRedisConn Q phase := by
  refine ⟨trivial, fun reply phase' hnext => ?_⟩
  obtain ⟨rfl, rfl⟩ := (hnext : reply = Except.ok () ∧ phase' = phase)
  exact h

/-- An `HGET` of the call's key. -/
theorem does_getHashField (hmode : S.mode = .enabled) (hphase : phase = .fresh ∨ phase = .held)
    {Q : Except RedisError Row → Phase → Prop}
    (hfound : ∀ row : Row, row.partitionKey = call.key S.sign →
      Q (.ok row) (.known row.assignedId))
    (hnone : phase = .fresh → Q (.error .notFound) .missed) :
    Does S call (Prog.perform (Cmd.getHashField (call.key S.sign).display
      (call.key S.sign).display)) Q phase := by
  refine ⟨⟨hmode, hphase, rfl, rfl⟩, fun reply phase' hnext => ?_⟩
  rcases (hnext : (∃ row, reply = Except.ok row ∧ row.partitionKey = call.key S.sign ∧
      phase' = .known row.assignedId) ∨
        reply = Except.error .notFound ∧ phase = .fresh ∧ phase' = .missed)
    with ⟨row, rfl, hkey, rfl⟩ | ⟨rfl, hfresh, rfl⟩
  · exact hfound row hkey
  · exact hnone hfresh

/-- An `HSETNX` of the call's row. -/
theorem does_setHashFieldIfNotExist (hmode : S.mode = .enabled) (ttl : ℕ)
    {Q : Except RedisError HsetnxReply → Phase → Prop} (hset : Q (.ok .keySet) .setting)
    (hnotSet : Q (.ok .keyNotSet) .held) :
    Does S call (setHashFieldIfNotExist (call.key S.sign).display (call.key S.sign).display
      (call.row S.sign) ttl) Q .absent := by
  refine ⟨⟨hmode, rfl, rfl, rfl, rfl⟩, fun reply phase' hnext => ?_⟩
  rcases (hnext : reply = Except.ok .keySet ∧ phase' = .setting ∨
      reply = Except.ok .keyNotSet ∧ phase' = .held) with ⟨rfl, rfl⟩ | ⟨rfl, rfl⟩
  · exact hset
  · exact hnotSet

/-- The append of the entry that a call owes. -/
theorem does_streamAppendEntry {Q : Except RedisError Unit → Phase → Prop}
    (h : Q (.ok ()) (.known call.ownId)) :
    Does S call (streamAppendEntry (S.ctx.stream (call.key S.sign)) (call.entry S.sign)) Q
      .setting := by
  refine ⟨⟨rfl, rfl, rfl⟩, fun reply phase' hnext => ?_⟩
  obtain ⟨rfl, rfl⟩ := (hnext : reply = Except.ok () ∧ phase' = .known call.ownId)
  exact h

theorem does_pushToDrainerStream {Q : Except RedisError Unit → Phase → Prop}
    (h : Q (.ok ()) (.known call.ownId)) :
    Does S call (pushToDrainerStream S.ctx (call.entry S.sign).query (call.key S.sign)) Q
      .setting := by
  rw [Does, pushToDrainerStream, Prog.wp_andThen]
  refine does_getRedisConn ?_
  dsimp only
  rw [Prog.wp_mapResult]
  exact does_streamAppendEntry h

theorem does_kvSettings {Q : KvState → Phase → Prop} (h : Q S.mode phase) :
    Does S call kvSettings Q phase := by
  rw [Does, kvSettings, Prog.wp_mapResult]
  refine does_runtimeConfig ?_
  unfold Setup.mode at h
  cases hc : S.config <;> simpa [hc] using h

theorem does_getConn {Q : Except E DbPool → Phase → Prop} (h : Q (.ok .primary) phase) :
    Does S call getConn Q phase := by
  rw [Does, getConn, Prog.wp_mapResult]
  exact does_poolGet .primary h

theorem does_getReplicaConn {Q : Except E DbPool → Phase → Prop} (hrep : S.hasReplica = true)
    (h : Q (.ok .replica) phase) : Does S call getReplicaConn Q phase := by
  rw [Does, getReplicaConn, Prog.wp_bind]
  refine does_hasReplica ?_
  simp only [hrep, Prog.wp_mapResult]
  exact does_poolGet .replica h

theorem does_shouldUseReplica {Q : Bool → Phase → Prop}
    (h : ∀ use, (use = true → S.hasReplica = true) → Q use phase) :
    Does S call shouldUseReplica Q phase := by
  rw [Does, shouldUseReplica, Prog.wp_bind]
  refine does_hasReplica ?_
  cases hrep : S.hasReplica with
  | false => exact h false fun hfalse => absurd hfalse Bool.false_ne_true
  | true =>
    simp only [Prog.wp_mapResult]
    exact does_runtimeConfig (h _ fun _ => hrep)

/-- Whichever pool reads are routed to. -/
theorem does_routeConn {Q : Except E DbPool → Phase → Prop} (h : ∀ pool, Q (.ok pool) phase) :
    Does S call routeConn Q phase := by
  rw [Does, routeConn, Prog.wp_bind]
  refine does_shouldUseReplica fun use hrep => ?_
  cases use with
  | true => exact does_getReplicaConn (hrep rfl) (h .replica)
  | false => exact does_getConn (h .primary)

/-- A read of Postgres. -/
theorem does_findOnRouted {q : Query} (hq : ∀ stmt, q ≠ .execute stmt)
    (hfind : q = call.findQuery S.sign) (hphase : phase.Reads S.mode)
    {Q : Except E q.Output → Phase → Prop}
    (hfound : ∀ out row, q.outputRow out = some row → Q (.ok out) (.known row.assignedId))
    (hnone : phase ≠ .held →
      Q (.error (StorageErrorExt.fromDieselError .notFound)) phase.afterMiss) :
    Does S call (findOnRouted E q) Q phase := by
  rw [Does, findOnRouted, Prog.wp_andThen]
  refine does_routeConn fun pool => ?_
  have hallowed : Allowed S call phase (.query pool q) := by
    cases q <;> first | exact ⟨hfind, hphase⟩ | exact absurd rfl (hq _)
  refine ⟨hallowed, fun reply phase' hnext => ?_⟩
  have hnext' : (∃ out row, reply = Except.ok out ∧ q.outputRow out = some row ∧
      phase' = .known row.assignedId) ∨
        reply = Except.error .notFound ∧ phase ≠ .held ∧ phase' = phase.afterMiss := by
    cases q <;> first | exact hnext | exact absurd rfl (hq _)
  rcases hnext' with ⟨out, row, rfl, hrow, rfl⟩ | ⟨rfl, hne, rfl⟩
  · exact hfound out row hrow
  · exact hnone hne

/-- The INSERT of a call. -/
theorem does_executeOnPrimary (hmode : S.mode = .disabled) {stmt : Statement}
    (hstmt : stmt = call.statement S.sign .postgresOnly)
    {Q : Except E stmt.Output → Phase → Prop}
    (hok : ∀ out row, stmt.outputRow out = some row → row.partitionKey = call.key S.sign →
      Q (.ok out) (.known row.assignedId))
    (hdup : Q (.error (StorageErrorExt.fromDieselError .uniqueViolation)) .held) :
    Does S call (executeOnPrimary E stmt) Q .fresh := by
  rw [Does, executeOnPrimary, Prog.wp_andThen]
  refine does_getConn ?_
  refine ⟨⟨hmode, rfl, hstmt⟩, fun reply phase' hnext => ?_⟩
  rcases (hnext : (∃ out row, reply = Except.ok out ∧ stmt.outputRow out = some row ∧
      row.partitionKey = call.key S.sign ∧ phase' = .known row.assignedId) ∨
        reply = Except.error .uniqueViolation ∧ phase' = .held)
    with ⟨out, row, rfl, hrow, hkey, rfl⟩ | ⟨rfl, rfl⟩
  · exact hok out row hrow hkey
  · exact hdup

end Does

/-! ## The table of a call -/

/-- What a call relies on of the table its row is in. -/
structure Table (S : Setup) (call : Call) (M : KvResource) where
  spec : M.Spec
  pk : M.PrimaryKeyType
  new : M.DieselNew
  getPartitionKey_pk : M.getPartitionKey pk = call.key S.sign
  resource_eq : M.resource = call.resource
  serialize_new : M.serialize (M.intoEntity (M.setStorageScheme new .redisKv)) = call.row S.sign
  insertStatement_new : spec.insertStatement (M.setStorageScheme new .redisKv) =
    call.statement S.sign .redisKv
  does_storageFind : ∀ {phase : Phase} {Q : Except M.Error M.DieselEntity → Phase → Prop},
    phase.Reads S.mode → (∀ e, Q (.ok e) (.known (M.serialize e).assignedId)) →
      (phase ≠ .held → Q (.error (StorageErrorExt.fromDieselError .notFound)) phase.afterMiss) →
        Does S call (M.storageFind pk) Q phase
  does_storageInsert : ∀ {Q : Except M.Error M.DieselEntity → Phase → Prop},
    S.mode = .disabled → (∀ e, (M.serialize e).partitionKey = call.key S.sign →
      Q (.ok e) (.known (M.serialize e).assignedId)) →
      Q (.error (StorageErrorExt.fromDieselError .uniqueViolation)) .held →
        Does S call (M.storageInsert (M.setStorageScheme new .postgresOnly)) Q .fresh

/-- The `fingerprint` table. -/
def fingerprintTable (S : Setup) (data key : String) (fingerprintId : Option FingerprintId)
    (nanoId : FingerprintId) :
    Table S (.fingerprint data key fingerprintId nanoId) Fingerprint.kvResource where
  spec := Fingerprint.spec
  pk := hmacSha512Encode S.sign key.toUTF8.data.toList data.toUTF8.data.toList
  new := ⟨hmacSha512Encode S.sign key.toUTF8.data.toList data.toUTF8.data.toList,
    (fingerprintId.map FingerprintId.val).getD nanoId.val, some .postgresOnly⟩
  getPartitionKey_pk := rfl
  resource_eq := rfl
  serialize_new := rfl
  insertStatement_new := rfl
  does_storageFind hphase hfound hnone :=
    does_findOnRouted (fun _ h => by cases h) rfl hphase
      (fun out row hrow => by cases hrow; exact hfound out) hnone
  does_storageInsert hmode hok hdup :=
    does_executeOnPrimary hmode rfl (fun out row hrow hkey => by cases hrow; exact hok out hkey)
      hdup

/-- The `hash_table` table. -/
def hashTable (S : Setup) (dataHash : Bytes) (uuid : Uuid) (now : PrimitiveDateTime) :
    Table S (.hash dataHash uuid now) HashTable.kvResource where
  spec := HashTable.spec
  pk := dataHash
  new := ⟨uuid.val, dataHash, now, some .postgresOnly⟩
  getPartitionKey_pk := rfl
  resource_eq := rfl
  serialize_new := rfl
  insertStatement_new := rfl
  does_storageFind hphase hfound hnone :=
    does_findOnRouted (fun _ h => by cases h) rfl hphase
      (fun out row hrow => by cases hrow; exact hfound out) hnone
  does_storageInsert hmode hok hdup :=
    does_executeOnPrimary hmode rfl (fun out row hrow hkey => by cases hrow; exact hok out hkey)
      hdup

section Table

variable {S : Setup} {call : Call} {phase : Phase} {M : KvResource} (t : Table S call M)
include t

/-- An `HGET` of the call's key. -/
theorem does_hGet (hmode : S.mode = .enabled) (hphase : phase = .fresh ∨ phase = .held)
    {Q : Except M.Error (Option M.DieselEntity) → Phase → Prop}
    (hfound : ∀ e, Q (.ok (some e)) (.known (M.serialize e).assignedId))
    (hnone : phase = .fresh → Q (.ok none) .missed) :
    Does S call ((kvWrapper S.ctx M.deserialize (.hGet (call.key S.sign).display)
      (call.key S.sign)).mapResult (hGetResult (call.key S.sign).display)) Q phase := by
  rw [Does, Prog.wp_mapResult, kvWrapper, Prog.wp_andThen]
  refine does_getRedisConn ?_
  dsimp only
  rw [Prog.wp_andThen, Prog.wp_mapResult, getHashFieldAndDeserialize, Prog.wp_mapResult]
  refine does_getHashField hmode hphase (fun row hkey => ?_) fun hfresh => hnone hfresh
  have hres : (M.deserialize row).isSome = true := by
    rw [t.spec.deserialize_isSome, hkey, call.key_resource, t.resource_eq]
  obtain ⟨e, he⟩ := Option.isSome_iff_exists.1 hres
  have hrow := t.spec.serialize_of_deserialize row e he
  have hQ := hfound e
  rw [hrow] at hQ
  simpa [he, bridge, hGetResult] using hQ

/-- A read of the call's row. -/
theorem does_findResourceByIdInner (hmode : S.mode = .disabled ∨ S.mode = .enabled)
    (hphase : phase = .fresh ∨ phase = .held)
    {Q : Except M.Error M.DieselEntity → Phase → Prop}
    (hfound : ∀ e, Q (.ok e) (.known (M.serialize e).assignedId))
    (hnone : phase = .fresh →
      Q (.error (StorageErrorExt.fromDieselError .notFound)) (Phase.empty S.mode)) :
    Does S call (findResourceByIdInner S.ctx M t.pk) Q phase := by
  rw [Does, findResourceByIdInner, Prog.wp_bind, decideStorageSchemeForFindOperation,
    Prog.wp_mapResult]
  refine does_kvSettings ?_
  rcases hmode with hmode | hmode <;> simp only [hmode]
  · refine t.does_storageFind (Or.inl ⟨hmode, hphase⟩) hfound fun hne => ?_
    obtain rfl := hphase.resolve_right hne
    have hQ := hnone rfl
    rwa [hmode] at hQ
  · rw [t.getPartitionKey_pk, Prog.wp_andThen]
    refine does_hGet t hmode hphase hfound fun hfresh => ?_
    refine t.does_storageFind (Or.inr ⟨hmode, rfl⟩) hfound fun _ => ?_
    have hQ := hnone hfresh
    rwa [hmode] at hQ

theorem does_findOptionalResourceById (hmode : S.mode = .disabled ∨ S.mode = .enabled)
    (hphase : phase = .fresh ∨ phase = .held)
    {Q : Except M.Error (Option M.Model) → Phase → Prop}
    (hfound : ∀ e, Q (.ok (some (M.intoModel e))) (.known (M.serialize e).assignedId))
    (hnone : phase = .fresh → Q (.ok none) (Phase.empty S.mode)) :
    Does S call (findOptionalResourceById S.ctx M t.pk) Q phase := by
  rw [Does, findOptionalResourceById, Prog.wp_mapResult, findResourceById, Prog.wp_mapResult]
  refine does_findResourceByIdInner t hmode hphase hfound fun hfresh => ?_
  have hlawful := t.spec.lawfulError
  have hnotFound : StorageErrorExt.isNotFound
      (StorageErrorExt.fromDieselError .notFound : M.Error) = true :=
    (LawfulStorageError.isNotFound_fromDieselError _).2 rfl
  simpa [Except.map, optionalResult, hnotFound] using hnone hfresh

/-- The insert of a call, after a read that found nothing. -/
theorem does_insertResource (hmode : S.mode = .disabled ∨ S.mode = .enabled)
    {Q : Except M.Error M.Model → Phase → Prop}
    (hok : ∀ e, (M.serialize e).partitionKey = call.key S.sign →
      Q (.ok (M.intoModel e)) (.known (M.serialize e).assignedId))
    (hdup : ∀ err, StorageErrorExt.isDuplicate err = true → Q (.error err) .held) :
    Does S call (insertResource S.ctx M t.new (call.key S.sign)) Q (Phase.empty S.mode) := by
  have hlawful := t.spec.lawfulError
  rw [Does, insertResource, Prog.wp_mapResult, insertResourceInner, Prog.wp_bind,
    decideStorageSchemeForInsertOperation, Prog.wp_mapResult]
  refine does_kvSettings ?_
  rcases hmode with hmode | hmode <;> simp only [hmode]
  · exact t.does_storageInsert hmode hok
      (hdup _ ((LawfulStorageError.isDuplicate_fromDieselError _).2 rfl))
  · have hquery : (⟨t.spec.insertStatement (M.setStorageScheme t.new .redisKv),
        M.resource.entityType, .insert⟩ : SerializableQuery) = (call.entry S.sign).query := by
      rw [t.insertStatement_new, t.resource_eq]
      rfl
    simp only [t.spec.generateInsertDrainerQuery_eq, mapKvError, Prog.pure_ok_andThen, hquery,
      t.serialize_new]
    rw [Prog.wp_andThen, Prog.wp_mapResult, kvWrapper, Prog.wp_andThen]
    refine does_getRedisConn ?_
    dsimp only
    rw [Prog.wp_andThen, Prog.wp_mapResult]
    refine does_setHashFieldIfNotExist hmode _ ?_ ?_
    · simp only [bridge]
      rw [Prog.wp_andThen]
      refine does_pushToDrainerStream ?_
      have hQ := hok (M.intoEntity (M.setStorageScheme t.new .redisKv))
      rw [t.serialize_new, Call.row_assignedId] at hQ
      exact hQ call.row_partitionKey
    · exact hdup _ ((LawfulStorageError.isDuplicate_fromKvError _).2 ⟨_, rfl⟩)

end Table

/-! ## Whole calls -/

section Whole

variable {S : Setup} {call : Call} {phase : Phase} {α E : Type} [StorageErrorExt E]

theorem does_onDuplicate {insert recover : App (Except E α)} {Q : Except E α → Phase → Prop}
    (hinsert : Does S call insert (fun reply phase' =>
      match reply with
      | .ok a => Q (.ok a) phase'
      | .error err => StorageErrorExt.isDuplicate err = true ∧ phase' = .held) phase)
    (hrecover : Does S call recover Q .held) :
    Does S call (onDuplicate insert recover) Q phase := by
  rw [Does, onDuplicate, Prog.wp_bind]
  refine Prog.wp_mono hinsert fun reply phase' hreply => ?_
  cases reply with
  | ok a => exact hreply
  | error err =>
    obtain ⟨hdup, rfl⟩ := (hreply : _ ∧ _)
    simpa [hdup] using hrecover

omit [StorageErrorExt E] in
theorem ne_setting (hphase : phase = .fresh ∨ phase = .held) : phase ≠ .setting := by
  rintro rfl
  rcases hphase with hp | hp <;> cases hp

/-- The cache is asked for the call's hash. -/
theorem does_lookupFingerprint {fingerprintHash : Bytes}
    (hkey : call.key S.sign = .fingerprint fingerprintHash) (hphase : phase ≠ .setting)
    {Q : Option Fingerprint → Phase → Prop}
    (hfound : ∀ row : Fingerprint, Q (some row) (.known row.fingerprintId)) (hnone : Q none phase) :
    Does S call (Caching.lookupFingerprint fingerprintHash) Q phase := by
  refine ⟨⟨hkey, hphase⟩, fun reply phase' hnext => ?_⟩
  rcases (hnext : (∃ value, reply = some value ∧ phase' = .known value.fingerprintId) ∨
      reply = none ∧ phase' = phase) with ⟨row, rfl, rfl⟩ | ⟨rfl, rfl⟩
  · exact hfound row
  · exact hnone

theorem does_lookupHashTable {dataHash : Bytes} (hkey : call.key S.sign = .hashTable dataHash)
    (hphase : phase ≠ .setting) {Q : Option HashTable → Phase → Prop}
    (hfound : ∀ row : HashTable, Q (some row) (.known row.hashId)) (hnone : Q none phase) :
    Does S call (Caching.lookupHashTable dataHash) Q phase := by
  refine ⟨⟨hkey, hphase⟩, fun reply phase' hnext => ?_⟩
  rcases (hnext : (∃ value, reply = some value ∧ phase' = .known value.hashId) ∨
      reply = none ∧ phase' = phase) with ⟨row, rfl, rfl⟩ | ⟨rfl, rfl⟩
  · exact hfound row
  · exact hnone

theorem does_cacheFingerprint {fingerprintHash : Bytes} {row : Fingerprint}
    (hkey : call.key S.sign = .fingerprint fingerprintHash) {Q : Unit → Phase → Prop}
    (h : Q () (.known row.fingerprintId)) :
    Does S call (Caching.cacheFingerprint fingerprintHash row) Q (.known row.fingerprintId) := by
  refine ⟨⟨hkey, rfl⟩, fun reply phase' hnext => ?_⟩
  obtain rfl := (hnext : phase' = .known row.fingerprintId)
  exact h

theorem does_cacheHashTable {dataHash : Bytes} {row : HashTable}
    (hkey : call.key S.sign = .hashTable dataHash) {Q : Unit → Phase → Prop}
    (h : Q () (.known row.hashId)) :
    Does S call (Caching.cacheHashTable dataHash row) Q (.known row.hashId) := by
  refine ⟨⟨hkey, rfl⟩, fun reply phase' hnext => ?_⟩
  obtain rfl := (hnext : phase' = .known row.hashId)
  exact h

section Fingerprint

variable (data key : String) (fingerprintId : Option FingerprintId) (nanoId : FingerprintId)

theorem does_findOptionalByFingerprintHash
    (hmode : S.mode = .disabled ∨ S.mode = .enabled) (hphase : phase = .fresh ∨ phase = .held)
    {Q : Except FingerprintDBError (Option Fingerprint) → Phase → Prop}
    (hfound : ∀ row : Fingerprint, Q (.ok (some row)) (.known row.fingerprintId))
    (hnone : phase = .fresh → Q (.ok none) (Phase.empty S.mode)) :
    Does S (.fingerprint data key fingerprintId nanoId)
      (Caching.findOptionalByFingerprintHash S.ctx
        (hmacSha512Encode S.sign key.toUTF8.data.toList data.toUTF8.data.toList)) Q phase := by
  rw [Does, Caching.findOptionalByFingerprintHash, Prog.wp_bind]
  refine does_lookupFingerprint rfl (ne_setting hphase) hfound ?_
  dsimp only
  rw [Prog.wp_andThen]
  refine does_findOptionalResourceById (fingerprintTable S data key fingerprintId nanoId) hmode
    hphase (fun row => ?_) hnone
  dsimp only
  rw [Prog.wp_mapResult]
  exact does_cacheFingerprint rfl (hfound row)

theorem does_insertFingerprint (hmode : S.mode = .disabled ∨ S.mode = .enabled)
    {Q : Except FingerprintDBError Fingerprint → Phase → Prop}
    (hok : ∀ row : Fingerprint, Q (.ok row) (.known row.fingerprintId))
    (hdup : ∀ err, StorageErrorExt.isDuplicate err = true → Q (.error err) .held) :
    Does S (.fingerprint data key fingerprintId nanoId)
      (Caching.insertFingerprint S.ctx
        (hmacSha512Encode S.sign key.toUTF8.data.toList data.toUTF8.data.toList)
        ((fingerprintId.map FingerprintId.val).getD nanoId.val)) Q (Phase.empty S.mode) := by
  rw [Does, Caching.insertFingerprint, Prog.wp_andThen]
  refine does_insertResource (fingerprintTable S data key fingerprintId nanoId) hmode
    (fun row hrow => ?_) hdup
  dsimp only
  rw [Prog.wp_mapResult]
  exact does_cacheFingerprint hrow.symm (hok row)

/-- A `fingerprint::get_or_insert` ends with the id of its hash. -/
theorem does_getOrInsertFingerprint (hmode : S.mode = .disabled ∨ S.mode = .enabled) :
    Does S (.fingerprint data key fingerprintId nanoId)
      (getOrInsertFingerprint S.ctx S.sign nanoId.val data key
        (fingerprintId.map FingerprintId.val))
      (fun reply phase => ∃ row, reply = .ok row ∧ phase = .known row.fingerprintId) .fresh := by
  have hreread : Does S (.fingerprint data key fingerprintId nanoId)
      ((Caching.findOptionalByFingerprintHash S.ctx
        (hmacSha512Encode S.sign key.toUTF8.data.toList data.toUTF8.data.toList)).mapResult
          (orInsertError .dbInsertError))
      (fun reply phase => ∃ row, reply = .ok row ∧ phase = .known row.fingerprintId) .held := by
    rw [Does, Prog.wp_mapResult]
    exact does_findOptionalByFingerprintHash data key fingerprintId nanoId hmode (Or.inr rfl)
      (fun row => ⟨row, rfl, rfl⟩) (fun h => nomatch h)
  rw [Does, getOrInsertFingerprint, Prog.wp_andThen]
  refine does_findOptionalByFingerprintHash data key fingerprintId nanoId hmode (Or.inl rfl)
    (fun row => ⟨row, rfl, rfl⟩) fun _ => ?_
  refine does_onDuplicate ?_ hreread
  exact does_insertFingerprint data key fingerprintId nanoId hmode (fun row => ⟨row, rfl, rfl⟩)
    fun err hdup => ⟨hdup, rfl⟩

end Fingerprint

section Hash

variable (dataHash : Bytes) (uuid : Uuid) (now : PrimitiveDateTime)

theorem does_findOptionalByDataHash
    (hmode : S.mode = .disabled ∨ S.mode = .enabled) (hphase : phase = .fresh ∨ phase = .held)
    {Q : Except HashDBError (Option HashTable) → Phase → Prop}
    (hfound : ∀ row : HashTable, Q (.ok (some row)) (.known row.hashId))
    (hnone : phase = .fresh → Q (.ok none) (Phase.empty S.mode)) :
    Does S (.hash dataHash uuid now) (Caching.findOptionalByDataHash S.ctx dataHash) Q phase := by
  rw [Does, Caching.findOptionalByDataHash, Prog.wp_bind]
  refine does_lookupHashTable rfl (ne_setting hphase) hfound ?_
  dsimp only
  rw [Prog.wp_andThen]
  refine does_findOptionalResourceById (hashTable S dataHash uuid now) hmode hphase
    (fun row => ?_) hnone
  dsimp only
  rw [Prog.wp_mapResult]
  exact does_cacheHashTable rfl (hfound row)

theorem does_insertHash (hmode : S.mode = .disabled ∨ S.mode = .enabled)
    {Q : Except HashDBError HashTable → Phase → Prop}
    (hok : ∀ row : HashTable, Q (.ok row) (.known row.hashId))
    (hdup : ∀ err, StorageErrorExt.isDuplicate err = true → Q (.error err) .held) :
    Does S (.hash dataHash uuid now) (Caching.insertHash S.ctx uuid.val now dataHash) Q
      (Phase.empty S.mode) := by
  rw [Does, Caching.insertHash, Prog.wp_andThen]
  refine does_insertResource (hashTable S dataHash uuid now) hmode (fun row _ => ?_) hdup
  dsimp only
  rw [Prog.wp_mapResult]
  exact does_cacheHashTable rfl (hok row)

/-- A call of `add_card` for the hash row of its card ends with the id of its
    hash. -/
theorem does_hashOfCard (hmode : S.mode = .disabled ∨ S.mode = .enabled) :
    Does S (.hash dataHash uuid now) (hashOfCard S.ctx uuid.val now dataHash)
      (fun reply phase => ∃ row, reply = .ok row ∧ phase = .known row.hashId) .fresh := by
  have hreread : Does S (.hash dataHash uuid now)
      ((Caching.findOptionalByDataHash S.ctx dataHash).mapResult (orInsertError .dbInsertError))
      (fun reply phase => ∃ row, reply = .ok row ∧ phase = .known row.hashId) .held := by
    rw [Does, Prog.wp_mapResult]
    exact does_findOptionalByDataHash dataHash uuid now hmode (Or.inr rfl)
      (fun row => ⟨row, rfl, rfl⟩) (fun h => nomatch h)
  rw [Does, hashOfCard, Prog.wp_andThen]
  refine does_findOptionalByDataHash dataHash uuid now hmode (Or.inl rfl)
    (fun row => ⟨row, rfl, rfl⟩) fun _ => ?_
  refine does_onDuplicate ?_ hreread
  exact does_insertHash dataHash uuid now hmode (fun row => ⟨row, rfl, rfl⟩)
    fun err hdup => ⟨hdup, rfl⟩

end Hash

/-- Whatever other calls do in between, a call ends with a row whose id it knows
    to be the hash's. -/
theorem Call.does_app (call : Call) (hmode : S.mode = .disabled ∨ S.mode = .enabled) :
    Does S call (call.app S.ctx S.sign)
      (fun reply phase => ∃ row, reply = .ok row ∧ phase = .known row.assignedId) .fresh := by
  cases call with
  | fingerprint data key fingerprintId nanoId =>
    rw [Does, app, Prog.wp_mapResult]
    refine Prog.wp_mono (does_getOrInsertFingerprint data key fingerprintId nanoId hmode) ?_
    rintro reply phase ⟨row, rfl, rfl⟩
    exact ⟨.fingerprint row, rfl, rfl⟩
  | hash dataHash uuid now =>
    rw [Does, app, Prog.wp_mapResult]
    refine Prog.wp_mono (does_hashOfCard dataHash uuid now hmode) ?_
    rintro reply phase ⟨row, rfl, rfl⟩
    exact ⟨.hashTable row, rfl, rfl⟩

end Whole

/-! ## The length of a call -/

section Within

variable {α E : Type} [StorageErrorExt E]

theorem within_kvSettings : kvSettings.Within 1 := (Prog.within_perform _).mapResult _

theorem within_getConn : (getConn : App (Except E DbPool)).Within 1 :=
  (Prog.within_perform (Cmd.getConn .primary)).mapResult _

theorem within_routeConn : (routeConn : App (Except E DbPool)).Within 4 := by
  have huse : shouldUseReplica.Within 2 := by
    refine Prog.Within.bind (m := 1) (n := 1) (Prog.within_perform Cmd.hasReplica) fun has => ?_
    cases has with
    | false => exact Prog.within_pure 1 _
    | true => exact (Prog.within_perform Cmd.runtimeConfig).mapResult _
  refine huse.bind (n := 2) fun use => ?_
  cases use with
  | false => exact within_getConn.mono (by omega)
  | true =>
    refine Prog.Within.bind (m := 1) (n := 1) (Prog.within_perform Cmd.hasReplica) fun has => ?_
    cases has with
    | false => exact Prog.within_pure 1 _
    | true => exact (Prog.within_perform (Cmd.getConn .replica)).mapResult _

theorem within_runQuery (pool : DbPool) (q : Query) :
    (runQuery pool q : App (Except E q.Output)).Within 1 :=
  fun _ => Prog.within_pure 0 _

theorem within_findOnRouted (q : Query) : (findOnRouted E q).Within 5 :=
  within_routeConn.andThen fun pool => within_runQuery pool q

theorem within_executeOnPrimary (stmt : Statement) : (executeOnPrimary E stmt).Within 2 :=
  within_getConn.andThen fun pool => within_runQuery pool (.execute stmt)

theorem within_pushToDrainerStream (ctx : KvStoreContext) (query : SerializableQuery)
    (key : PartitionKey) : (pushToDrainerStream ctx query key).Within 2 :=
  Prog.Within.andThen (m := 1) (n := 1) (Prog.within_perform Cmd.getRedisConn) fun _ =>
    (Prog.within_perform (Cmd.streamAppendEntry _ _)).mapResult _

/-- An operation on Redis: a connection, the operation, and its entry. -/
theorem within_kvWrapper {T : Type} (ctx : KvStoreContext) (deserialize : Row → Option T)
    (op : KvOperation) (key : PartitionKey) : (kvWrapper ctx deserialize op key).Within 4 := by
  refine Prog.Within.andThen (m := 1) (n := 3) (Prog.within_perform Cmd.getRedisConn) fun _ => ?_
  have hpush : ∀ (query : SerializableQuery) (result : KvResult T),
      ((pushToDrainerStream ctx query key).andThen fun _ =>
        (Prog.pure (.ok result) : App (Except RedisError (KvResult T)))).Within 2 :=
    fun query result => (within_pushToDrainerStream ctx query key).andThen fun _ =>
      Prog.within_pure 0 _
  cases op with
  | hset field value query =>
    exact Prog.Within.andThen (m := 1) (n := 2)
      ((Prog.within_perform (Cmd.setHashFields _ _ _ _)).mapResult _) fun _ => hpush query .hset
  | hSetNx field value query =>
    refine Prog.Within.andThen (m := 1) (n := 2)
      ((Prog.within_perform (Cmd.setHashFieldIfNotExist _ _ _ _)).mapResult _) fun reply => ?_
    cases reply with
    | keySet => exact hpush query _
    | keyNotSet => exact Prog.within_pure 2 _
  | hGet field =>
    exact Prog.Within.andThen (m := 1) (n := 2)
      (((Prog.within_perform (Cmd.getHashField _ _)).mapResult _).mapResult _)
        fun _ => Prog.within_pure 2 _
  | hDel field query =>
    exact Prog.Within.andThen (m := 1) (n := 2)
      ((Prog.within_perform (Cmd.deleteHashFields _ _)).mapResult _) fun _ => hpush query _

theorem within_findOptionalResourceById (ctx : KvStoreContext) {M : KvResource}
    (hfind : ∀ pk, (M.storageFind pk).Within 5) (pk : M.PrimaryKeyType) :
    (findOptionalResourceById ctx M pk).Within 10 := by
  refine Prog.Within.mapResult (Prog.Within.mapResult
    (Prog.Within.bind (m := 1) (n := 9) (within_kvSettings.mapResult _) fun scheme => ?_) _) _
  cases scheme with
  | postgresOnly => exact (hfind pk).mono (by omega)
  | redisKv =>
    refine Prog.Within.andThen (m := 4) (n := 5) ((within_kvWrapper ctx _ _ _).mapResult _)
      fun found => ?_
    cases found with
    | some v => exact Prog.within_pure 5 _
    | none => exact hfind pk

theorem within_insertResource (ctx : KvStoreContext) {M : KvResource} (hM : M.Spec)
    (hinsert : ∀ new, (M.storageInsert new).Within 2) (new : M.DieselNew) (key : PartitionKey) :
    (insertResource ctx M new key).Within 5 := by
  refine Prog.Within.mapResult
    (Prog.Within.bind (m := 1) (n := 4) (within_kvSettings.mapResult _) fun scheme => ?_) _
  cases scheme with
  | postgresOnly => exact (hinsert _).mono (by omega)
  | redisKv =>
    simp only [hM.generateInsertDrainerQuery_eq, mapKvError, Prog.pure_ok_andThen]
    refine Prog.Within.andThen (m := 4) (n := 0) ((within_kvWrapper ctx _ _ _).mapResult _)
      fun reply => ?_
    cases reply with
    | hSetNx v => cases v <;> exact Prog.within_pure 0 _
    | _ => exact Prog.within_pure 0 _

theorem within_onDuplicate {insert recover : App (Except E α)} {m n : ℕ} (hinsert : insert.Within m)
    (hrecover : recover.Within n) : (onDuplicate insert recover).Within (m + n) := by
  refine hinsert.bind fun reply => ?_
  cases reply with
  | ok a => exact Prog.within_pure n _
  | error err =>
    dsimp only
    split_ifs
    · exact hrecover
    · exact Prog.within_pure n _

theorem within_findOptionalByFingerprintHash (ctx : KvStoreContext) (fingerprintHash : Bytes) :
    (Caching.findOptionalByFingerprintHash ctx fingerprintHash).Within 12 := by
  refine Prog.Within.bind (m := 1) (n := 11)
    (Prog.within_perform (Cmd.lookupFingerprint fingerprintHash)) fun found => ?_
  cases found with
  | some data => exact Prog.within_pure 11 _
  | none =>
    refine Prog.Within.andThen (m := 10) (n := 1) (within_findOptionalResourceById ctx
      (M := Fingerprint.kvResource) (fun _ => within_findOnRouted _) fingerprintHash)
      fun found => ?_
    cases found with
    | none => exact Prog.within_pure 1 _
    | some row =>
      exact (Prog.within_perform (Cmd.cacheFingerprint fingerprintHash row)).mapResult _

theorem within_findOptionalByDataHash (ctx : KvStoreContext) (dataHash : Bytes) :
    (Caching.findOptionalByDataHash ctx dataHash).Within 12 := by
  refine Prog.Within.bind (m := 1) (n := 11)
    (Prog.within_perform (Cmd.lookupHashTable dataHash)) fun found => ?_
  cases found with
  | some data => exact Prog.within_pure 11 _
  | none =>
    refine Prog.Within.andThen (m := 10) (n := 1) (within_findOptionalResourceById ctx
      (M := HashTable.kvResource) (fun _ => within_findOnRouted _) dataHash)
      fun found => ?_
    cases found with
    | none => exact Prog.within_pure 1 _
    | some row => exact (Prog.within_perform (Cmd.cacheHashTable dataHash row)).mapResult _

/-- A call ends after at most 30 commands. -/
theorem Call.within_app (ctx : KvStoreContext) (sign : Bytes → Bytes → Bytes) (call : Call) :
    (call.app ctx sign).Within 30 := by
  cases call with
  | fingerprint data key fingerprintId nanoId =>
    have hfind := within_findOptionalByFingerprintHash ctx
      (hmacSha512Encode sign key.toUTF8.data.toList data.toUTF8.data.toList)
    refine Prog.Within.mapResult (Prog.Within.andThen (m := 12) (n := 18) hfind fun found => ?_) _
    cases found with
    | some row => exact Prog.within_pure 18 _
    | none =>
      refine within_onDuplicate (m := 6) (n := 12) ?_ (hfind.mapResult _)
      exact Prog.Within.andThen (m := 5) (n := 1)
        (within_insertResource ctx Fingerprint.spec (fun _ => within_executeOnPrimary _) _ _)
        fun row => (Prog.within_perform (Cmd.cacheFingerprint _ _)).mapResult _
  | hash dataHash uuid now =>
    have hfind := within_findOptionalByDataHash ctx dataHash
    refine Prog.Within.mapResult (Prog.Within.andThen (m := 12) (n := 18) hfind fun found => ?_) _
    cases found with
    | some row => exact Prog.within_pure 18 _
    | none =>
      refine within_onDuplicate (m := 6) (n := 12) ?_ (hfind.mapResult _)
      exact Prog.Within.andThen (m := 5) (n := 1)
        (within_insertResource ctx HashTable.spec (fun _ => within_executeOnPrimary _) _ _)
        fun row => (Prog.within_perform (Cmd.cacheHashTable _ _)).mapResult _

end Within

end Dedup

end CardVault
