import CardVault.Lib.Prog
import CardVault.Lib.Replay
import CardVault.Storage.Pg

/-!
# Backends

The calls the storage layer makes on what is outside it (the runtime
configuration, the two Postgres pools, Redis, the drainer streams and the
in-process caches) as the commands of an interaction program, and the state
behind these calls with its answers.

`Store.exec` answers every call and loses none; a read replica is up to date.
The drainer (`Store.drain`) and the expiry of Redis keys (`Store.expire`) are
steps of the environment: the drainer replays each stream from its front and
drops a statement that fails, and a key expires only when none of its entries is
pending.

Main results:
* `redis_setField`, `redis_deleteField`: reads of Redis after a write.
* `drain_redis`, `expire_pg` and the like: what the environment leaves alone.
-/

namespace CardVault

open Interaction Stream

/-! ## Drainer entries -/

/-- `DatabaseOperation` (`src/src/storage/kv/serializable_query.rs`). -/
inductive DatabaseOperation where
  | insert
  | update
  | delete
  deriving DecidableEq, Repr

/-- `SerializableQuery`: the statement (its SQL text and binds) with the labels
    of the drainer metrics. -/
structure SerializableQuery where
  statement : Statement
  entityType : String
  operation : DatabaseOperation
  deriving DecidableEq, Repr

/-- An entry of a drainer stream (`to_field_value_pairs`). -/
structure DrainerEntry where
  query : SerializableQuery
  globalId : String
  deriving DecidableEq, Repr

/-- `generate_insert_query`. -/
def generateInsertQuery (resource : Resource) (statement : Statement) :
    Except KvError SerializableQuery :=
  .ok { statement, entityType := resource.entityType, operation := .insert }

/-- `generate_update_query`. -/
def generateUpdateQuery (resource : Resource) (statement : Statement) :
    Except KvError SerializableQuery :=
  .ok { statement, entityType := resource.entityType, operation := .update }

/-- `generate_delete_query`. -/
def generateDeleteQuery (resource : Resource) (statement : Statement) :
    Except KvError SerializableQuery :=
  .ok { statement, entityType := resource.entityType, operation := .delete }

/-! ## Queries -/

/-- The queries of the storage layer: the statements, and the reads of one row. -/
inductive Query where
  | execute (stmt : Statement)
  | findFingerprint (fingerprintHash : Bytes)
  | findHashTable (dataHash : Bytes)
  | findLocker (pk : LockerPrimaryKeyType)
  | findLockerByHash (key : LockerHashLookupKey)
  | findReverseLookup (lookupId : String)
  | findVault (pk : VaultPrimaryKey)
  deriving DecidableEq

/-- What a query answers. -/
def Query.Output : Query → Type
  | .execute stmt => stmt.Output
  | .findFingerprint _ => Fingerprint
  | .findHashTable _ => HashTable
  | .findLocker _ => LockerInner
  | .findLockerByHash _ => LockerInner
  | .findReverseLookup _ => ReverseLookup
  | .findVault _ => VaultInner

/-- The row that a query answers, if it answers one. -/
def Query.outputRow : (q : Query) → q.Output → Option Row
  | .execute stmt, out => stmt.outputRow out
  | .findFingerprint _, row => some (.fingerprint row)
  | .findHashTable _, row => some (.hashTable row)
  | .findLocker _, row => some (.locker row)
  | .findLockerByHash _, row => some (.locker row)
  | .findReverseLookup _, row => some (.reverseLookup row)
  | .findVault _, row => some (.vault row)

/-- Run one query. -/
def Pg.query (pg : Pg) : (q : Query) → Except DieselError q.Output × Pg
  | .execute stmt => pg.execute stmt
  | .findFingerprint fingerprintHash =>
    (oneRow (pg.fingerprint.get Fingerprint.fingerprintHash fingerprintHash), pg)
  | .findHashTable dataHash => (oneRow (pg.hashTable.get HashTable.dataHash dataHash), pg)
  | .findLocker pk => (oneRow (pg.locker.get LockerInner.primaryKey pk), pg)
  | .findLockerByHash key => (oneRow (pg.lockerRowByHash key), pg)
  | .findReverseLookup lookupId =>
    (oneRow (pg.reverseLookup.get ReverseLookup.lookupId lookupId), pg)
  | .findVault pk => (oneRow (pg.vault.get VaultInner.primaryKey pk), pg)

/-! ## Commands -/

/-- `DbPool` (`src/src/storage.rs`). -/
inductive DbPool where
  | primary
  | replica
  deriving DecidableEq, Repr

/-- The calls of the storage layer on its surroundings. A Redis hash is named by
    its key; the KV layer stores each row in the field of the same name. -/
inductive Cmd where
  /-- `runtime_config_manager.get::<RuntimeConfigValues>()` -/
  | runtimeConfig
  /-- `replica_pg_pool.is_some()` -/
  | hasReplica
  /-- `Pool::get` -/
  | getConn (pool : DbPool)
  | query (pool : DbPool) (q : Query)
  /-- `KvStoreContext::get_redis_conn` -/
  | getRedisConn
  /-- `set_hash_fields` of one field -/
  | setHashFields (key field : String) (value : Row) (ttl : ℕ)
  /-- `serialize_and_set_hash_field_if_not_exist` -/
  | setHashFieldIfNotExist (key field : String) (value : Row) (ttl : ℕ)
  /-- `get_hash_field_and_deserialize`, before the value is deserialized -/
  | getHashField (key field : String)
  /-- `delete_hash_fields` of one field -/
  | deleteHashFields (key field : String)
  /-- `stream_append_entry` -/
  | streamAppendEntry (stream : String) (entry : DrainerEntry)
  /-- `Caching::lookup::<Fingerprint>` -/
  | lookupFingerprint (fingerprintHash : Bytes)
  /-- `Caching::cache_data::<Fingerprint>` -/
  | cacheFingerprint (fingerprintHash : Bytes) (value : Fingerprint)
  /-- `Caching::lookup::<HashTable>` -/
  | lookupHashTable (dataHash : Bytes)
  /-- `Caching::cache_data::<HashTable>` -/
  | cacheHashTable (dataHash : Bytes) (value : HashTable)
  deriving DecidableEq

/-- What each call answers. -/
def Reply : Cmd → Type
  | .runtimeConfig => Option RuntimeConfigValues
  | .hasReplica => Bool
  | .getConn _ => Except Unit Unit
  | .query _ q => Except DieselError q.Output
  | .getRedisConn => Except RedisError Unit
  | .setHashFields .. => Except RedisError Unit
  | .setHashFieldIfNotExist .. => Except RedisError HsetnxReply
  | .getHashField .. => Except RedisError Row
  | .deleteHashFields .. => Except RedisError ℕ
  | .streamAppendEntry .. => Except RedisError Unit
  | .lookupFingerprint _ => Option Fingerprint
  | .cacheFingerprint .. => Unit
  | .lookupHashTable _ => Option HashTable
  | .cacheHashTable .. => Unit

/-- An `async fn` of the storage layer. -/
abbrev App (α : Type) : Type := Prog Cmd Reply α

/-- `get_redis_conn`. -/
def getRedisConn : App (Except RedisError Unit) := Prog.perform Cmd.getRedisConn

/-- `set_hash_fields` of one field. -/
def setHashFields (key field : String) (value : Row) (ttl : ℕ) : App (Except RedisError Unit) :=
  Prog.perform (Cmd.setHashFields key field value ttl)

/-- `serialize_and_set_hash_field_if_not_exist`. -/
def setHashFieldIfNotExist (key field : String) (value : Row) (ttl : ℕ) :
    App (Except RedisError HsetnxReply) :=
  Prog.perform (Cmd.setHashFieldIfNotExist key field value ttl)

/-- `get_hash_field_and_deserialize`; `deserialize` reads the JSON text. -/
def getHashFieldAndDeserialize {T : Type} (deserialize : Row → Option T) (key field : String) :
    App (Except RedisError T) :=
  (Prog.perform (Cmd.getHashField key field)).mapResult fun
    | .error e => .error e
    | .ok value =>
      match deserialize value with
      | some v => .ok v
      | none => .error .jsonDeserializationFailed

/-- `delete_hash_fields` of one field. -/
def deleteHashFields (key field : String) : App (Except RedisError ℕ) :=
  Prog.perform (Cmd.deleteHashFields key field)

/-- `stream_append_entry`. -/
def streamAppendEntry (stream : String) (entry : DrainerEntry) : App (Except RedisError Unit) :=
  Prog.perform (Cmd.streamAppendEntry stream entry)

/-- `runtime_config_manager.get::<RuntimeConfigValues>()`. -/
def getRuntimeConfig : App (Option RuntimeConfigValues) := Prog.perform Cmd.runtimeConfig

/-- `Storage::has_replica`. -/
def hasReplica : App Bool := Prog.perform Cmd.hasReplica

/-! ## Connections -/

section Conn

variable {E : Type} [StorageErrorExt E]

/-- `Pool::get`. -/
def poolGet (pool : DbPool) : App (Except Unit Unit) := Prog.perform (Cmd.getConn pool)

/-- `Storage::get_conn`, as `?` turns its error into the table's. -/
def getConn : App (Except E DbPool) :=
  (poolGet .primary).mapResult fun
    | .ok _ => .ok .primary
    | .error _ => .error (StorageErrorExt.fromStorageError .poolClientFailure)

/-- `Storage::get_replica_conn`. -/
def getReplicaConn : App (Except E DbPool) :=
  hasReplica.bind fun
    | true =>
      (poolGet .replica).mapResult fun
        | .ok _ => .ok .replica
        | .error _ => .error (StorageErrorExt.fromStorageError .poolClientFailure)
    | false => .pure (.error (StorageErrorExt.fromStorageError .replicaPoolNotConfigured))

/-- `Storage::should_use_replica`. -/
def shouldUseReplica : App Bool :=
  hasReplica.bind fun
    | false => .pure false
    | true =>
      getRuntimeConfig.mapResult fun
        | some conf => conf.useReplica
        | none => false

/-- `Storage::route_conn`. -/
def routeConn : App (Except E DbPool) :=
  shouldUseReplica.bind fun
    | true => getReplicaConn
    | false => getConn

/-- A query on a connection, as `?` turns its error into the table's. -/
def runQuery (pool : DbPool) (q : Query) : App (Except E q.Output) :=
  (Prog.perform (Cmd.query pool q)).mapResult fun reply : Except DieselError q.Output =>
    match reply with
    | .ok row => .ok row
    | .error e => .error (StorageErrorExt.fromDieselError e)

/-- A statement on a connection. -/
def runStatement (pool : DbPool) (stmt : Statement) : App (Except E stmt.Output) :=
  runQuery pool (.execute stmt)

end Conn

/-! ## The state behind the calls -/

/-- The hashes of Redis: key, field, value. -/
abbrev Redis : Type := String → String → Option Row

namespace Redis

/-- No key at all. -/
def empty : Redis := fun _ _ => none

/-- `HSET`. -/
def setField (redis : Redis) (key field : String) (value : Row) : Redis :=
  fun k f => if k = key ∧ f = field then some value else redis k f

/-- `HDEL`. -/
def deleteField (redis : Redis) (key field : String) : Redis :=
  fun k f => if k = key ∧ f = field then none else redis k f

/-- The number of fields an `HDEL` of one field deletes. -/
def countField (redis : Redis) (key field : String) : ℕ :=
  if (redis key field).isSome then 1 else 0

/-- The key and all its fields are gone. -/
def expire (redis : Redis) (key : String) : Redis :=
  fun k f => if k = key then none else redis k f

theorem setField_apply (redis : Redis) (key field : String) (value : Row) (k f : String) :
    redis.setField key field value k f =
      if k = key ∧ f = field then some value else redis k f := rfl

theorem deleteField_apply (redis : Redis) (key field k f : String) :
    redis.deleteField key field k f = if k = key ∧ f = field then none else redis k f := rfl

theorem expire_apply (redis : Redis) (key k f : String) :
    redis.expire key k f = if k = key then none else redis k f := rfl

@[simp] theorem setField_self (redis : Redis) (key field : String) (value : Row) :
    redis.setField key field value key field = some value := by simp [setField]

@[simp] theorem deleteField_self (redis : Redis) (key field : String) :
    redis.deleteField key field key field = none := by simp [deleteField]

@[simp] theorem expire_self (redis : Redis) (key f : String) : redis.expire key key f = none := by
  simp [expire]

end Redis

/-- Everything behind the calls, for one tenant. -/
structure Store where
  runtimeConfig : Option RuntimeConfigValues
  hasReplica : Bool
  redis : Redis
  streams : String → List DrainerEntry
  pg : Pg
  fingerprintCache : Bytes → Option Fingerprint
  hashTableCache : Bytes → Option HashTable

namespace Store

/-- Redis, the streams and the caches are empty. -/
def fresh (runtimeConfig : Option RuntimeConfigValues) (hasReplica : Bool) (pg : Pg) : Store :=
  { runtimeConfig, hasReplica, redis := Redis.empty, streams := fun _ => [], pg
    fingerprintCache := fun _ => none, hashTableCache := fun _ => none }

/-- Answer one call. -/
def exec (s : Store) : (c : Cmd) → Reply c × Store
  | .runtimeConfig => (s.runtimeConfig, s)
  | .hasReplica => (s.hasReplica, s)
  | .getConn _ => (.ok (), s)
  | .query _ q => ((s.pg.query q).1, { s with pg := (s.pg.query q).2 })
  | .getRedisConn => (.ok (), s)
  | .setHashFields key field value _ =>
    (.ok (), { s with redis := s.redis.setField key field value })
  | .setHashFieldIfNotExist key field value _ =>
    match s.redis key field with
    | some _ => (.ok .keyNotSet, s)
    | none => (.ok .keySet, { s with redis := s.redis.setField key field value })
  | .getHashField key field =>
    match s.redis key field with
    | some value => (.ok value, s)
    | none => (.error .notFound, s)
  | .deleteHashFields key field =>
    (.ok (s.redis.countField key field), { s with redis := s.redis.deleteField key field })
  | .streamAppendEntry stream entry =>
    (.ok (), { s with
      streams := Function.update s.streams stream (s.streams stream ++ [entry]) })
  | .lookupFingerprint fingerprintHash => (s.fingerprintCache fingerprintHash, s)
  | .cacheFingerprint fingerprintHash value =>
    ((), { s with
      fingerprintCache := Function.update s.fingerprintCache fingerprintHash (some value) })
  | .lookupHashTable dataHash => (s.hashTableCache dataHash, s)
  | .cacheHashTable dataHash value =>
    ((), { s with hashTableCache := Function.update s.hashTableCache dataHash (some value) })

section Run

variable (s : Store) (key field stream : String) (value : Row) (ttl : ℕ) (entry : DrainerEntry)

@[simp] theorem run_getRedisConn : getRedisConn.run exec s = (.ok (), s) := rfl

@[simp] theorem run_getRuntimeConfig : getRuntimeConfig.run exec s = (s.runtimeConfig, s) := rfl

@[simp] theorem run_hasReplica : CardVault.hasReplica.run exec s = (s.hasReplica, s) := rfl

@[simp] theorem run_setHashFields :
    (setHashFields key field value ttl).run exec s =
      (.ok (), { s with redis := s.redis.setField key field value }) := rfl

@[simp] theorem run_setHashFieldIfNotExist :
    (setHashFieldIfNotExist key field value ttl).run exec s =
      match s.redis key field with
      | some _ => (.ok .keyNotSet, s)
      | none => (.ok .keySet, { s with redis := s.redis.setField key field value }) := by
  change exec s (.setHashFieldIfNotExist key field value ttl) = _
  cases h : s.redis key field with
  | none => simp only [exec, h]; rfl
  | some v => simp only [exec, h]; rfl

@[simp] theorem run_getHashFieldAndDeserialize {T : Type} (deserialize : Row → Option T) :
    (getHashFieldAndDeserialize deserialize key field).run exec s =
      (match s.redis key field with
        | some v =>
          match deserialize v with
          | some t => .ok t
          | none => .error .jsonDeserializationFailed
        | none => .error .notFound, s) := by
  cases h : s.redis key field <;> simp [getHashFieldAndDeserialize, Prog.mapResult, exec, h]

@[simp] theorem run_deleteHashFields :
    (deleteHashFields key field).run exec s =
      (.ok (s.redis.countField key field),
        { s with redis := s.redis.deleteField key field }) := rfl

@[simp] theorem run_streamAppendEntry :
    (streamAppendEntry stream entry).run exec s =
      (.ok (), { s with
        streams := Function.update s.streams stream (s.streams stream ++ [entry]) }) := rfl

variable {E : Type} [StorageErrorExt E]

@[simp] theorem run_poolGet (pool : DbPool) : (poolGet pool).run exec s = (.ok (), s) := rfl

@[simp] theorem run_getConn : (getConn : App (Except E DbPool)).run exec s = (.ok .primary, s) :=
  rfl

/-- Both pools answer, and with the same rows. -/
theorem run_routeConn :
    ∃ pool, (routeConn : App (Except E DbPool)).run exec s = (.ok pool, s) := by
  simp only [routeConn, shouldUseReplica, Prog.run_bind, run_hasReplica]
  cases h : s.hasReplica with
  | false => exact ⟨.primary, rfl⟩
  | true =>
    simp only [Prog.run_mapResult, run_getRuntimeConfig]
    split
    · exact ⟨.replica, by simp [getReplicaConn, Prog.run_bind, Prog.run_mapResult, h]⟩
    · exact ⟨.primary, rfl⟩

theorem run_runQuery (pool : DbPool) (q : Query) :
    (runQuery pool q : App (Except E q.Output)).run exec s =
      ((s.pg.query q).1.mapError StorageErrorExt.fromDieselError,
        { s with pg := (s.pg.query q).2 }) := by
  change (_, _) = _
  cases h : (s.pg.query q).1 <;> simp [exec, h, Except.mapError]

theorem run_runStatement (pool : DbPool) (stmt : Statement) :
    (runStatement pool stmt : App (Except E stmt.Output)).run exec s =
      ((s.pg.execute stmt).1.mapError StorageErrorExt.fromDieselError,
        { s with pg := s.pg.apply stmt }) := run_runQuery s pool (.execute stmt)

end Run

/-! ## Steps of the environment -/

/-- The effect of replaying one entry. -/
def replayEntry (entry : DrainerEntry) (pg : Pg) : Pg := pg.apply entry.query.statement

/-- The streams and the database they are replayed into. -/
def replay (s : Store) : Replay String DrainerEntry Pg := ⟨s.streams, s.pg⟩

/-- The drainer replays the front entry of a stream. -/
def drain (s : Store) (stream : String) : Store :=
  { s with
    streams := (s.replay.drain replayEntry stream).queues
    pg := (s.replay.drain replayEntry stream).db }

/-- The entries of a Redis key that no drainer has replayed yet. -/
def pending (ctx : KvStoreContext) (s : Store) (key : String) : List DrainerEntry :=
  (s.streams (ctx.stream (.combinationKey key))).filter fun entry => entry.globalId = key

/-- A Redis key reaches its TTL. The TTL exceeds the replay lag: nothing happens
    while an entry of the key is pending. -/
def expire (ctx : KvStoreContext) (s : Store) (key : String) : Store :=
  if s.pending ctx key = [] then { s with redis := s.redis.expire key } else s

section Frame

variable (s : Store) (ctx : KvStoreContext) (stream key : String)

@[simp] theorem drain_replay : (s.drain stream).replay = s.replay.drain replayEntry stream := rfl

@[simp] theorem drain_redis : (s.drain stream).redis = s.redis := rfl

@[simp] theorem drain_runtimeConfig : (s.drain stream).runtimeConfig = s.runtimeConfig := rfl

@[simp] theorem drain_fingerprintCache :
    (s.drain stream).fingerprintCache = s.fingerprintCache := rfl

@[simp] theorem drain_hashTableCache : (s.drain stream).hashTableCache = s.hashTableCache := rfl

@[simp] theorem expire_streams : (s.expire ctx key).streams = s.streams := by
  unfold expire; split_ifs <;> rfl

@[simp] theorem expire_pg : (s.expire ctx key).pg = s.pg := by
  unfold expire; split_ifs <;> rfl

@[simp] theorem expire_replay : (s.expire ctx key).replay = s.replay := by
  unfold expire; split_ifs <;> rfl

@[simp] theorem expire_runtimeConfig : (s.expire ctx key).runtimeConfig = s.runtimeConfig := by
  unfold expire; split_ifs <;> rfl

@[simp] theorem expire_fingerprintCache :
    (s.expire ctx key).fingerprintCache = s.fingerprintCache := by
  unfold expire; split_ifs <;> rfl

@[simp] theorem expire_hashTableCache :
    (s.expire ctx key).hashTableCache = s.hashTableCache := by
  unfold expire; split_ifs <;> rfl

end Frame

end Store

end CardVault
