import CardVault.Storage.Protocol

/-!
# The KV wrapper

One Redis operation together with the drainer entry it owes
(`src/src/storage/kv/wrapper.rs`). The operations on Redis and the append to the
stream are separate calls: another client, the drainer or a failure can come in
between.

Main results:
* `run_pushToDrainerStream`, `run_kvWrapper_hset`, `run_kvWrapper_hSetNx`,
  `run_kvWrapper_hGet`, `run_kvWrapper_hDel`: what an operation does when nothing
  comes in between.
-/

namespace CardVault

open Interaction

/-- `KvOperation`; the values are given in their serialized form. -/
inductive KvOperation where
  | hset (field : String) (value : Row) (query : SerializableQuery)
  | hSetNx (field : String) (value : Row) (query : SerializableQuery)
  | hGet (field : String)
  | hDel (field : String) (query : SerializableQuery)

/-- `KvResult`. -/
inductive KvResult (T : Type) where
  | hGet (value : T)
  | hset
  | hSetNx (reply : HsetnxReply)
  | hDel (count : ℕ)

/-- `KvResult::try_into_hset`. -/
def KvResult.tryIntoHset {T : Type} : KvResult T → Except RedisError Unit
  | .hset => .ok ()
  | _ => .error .unknownResult

/-- `KvResult::try_into_hsetnx`. -/
def KvResult.tryIntoHsetnx {T : Type} : KvResult T → Except RedisError HsetnxReply
  | .hSetNx v => .ok v
  | _ => .error .unknownResult

/-- `KvResult::try_into_hdel`. -/
def KvResult.tryIntoHdel {T : Type} : KvResult T → Except RedisError ℕ
  | .hDel v => .ok v
  | _ => .error .unknownResult

/-- `push_to_drainer_stream` (lines 250–302). -/
def pushToDrainerStream (store : KvStoreContext) (serializableQuery : SerializableQuery)
    (partitionKey : PartitionKey) : App (Except RedisError Unit) :=
  let globalId := partitionKey.display
  let streamName := store.kvConfig.drainerStreamName (shardKey store partitionKey)
  getRedisConn.andThen fun _ =>
    (streamAppendEntry streamName ⟨serializableQuery, globalId⟩).mapResult fun reply =>
      match bridge reply with
      | .ok _ => .ok ()
      | .error _ => .error .streamAppendFailed

/-- `kv_wrapper` (lines 138–248). `deserialize` reads a value of type `T`. -/
def kvWrapper {T : Type} (store : KvStoreContext) (deserialize : Row → Option T)
    (op : KvOperation) (partitionKey : PartitionKey) : App (Except RedisError (KvResult T)) :=
  getRedisConn.andThen fun _ =>
    let key := partitionKey.display
    let ttl := store.kvConfig.ttlForKv
    match op with
    | .hset field value query =>
      ((setHashFields key field value ttl).mapResult bridge).andThen fun _ =>
        (pushToDrainerStream store query partitionKey).andThen fun _ => .pure (.ok .hset)
    | .hSetNx field value query =>
      ((setHashFieldIfNotExist key field value ttl).mapResult bridge).andThen fun
        | .keySet =>
          -- when the append fails, the Redis key remains without an entry
          (pushToDrainerStream store query partitionKey).andThen fun _ =>
            .pure (.ok (.hSetNx .keySet))
        | .keyNotSet => .pure (.ok (.hSetNx .keyNotSet))
    | .hGet field =>
      ((getHashFieldAndDeserialize deserialize key field).mapResult bridge).andThen fun result =>
        .pure (.ok (.hGet result))
    | .hDel field query =>
      ((deleteHashFields key field).mapResult bridge).andThen fun result =>
        (pushToDrainerStream store query partitionKey).andThen fun _ => .pure (.ok (.hDel result))

/-! ## Runs with nothing in between -/

/-- The store after an entry has been queued for `key`. -/
def Store.push (store : KvStoreContext) (s : Store) (key : PartitionKey)
    (query : SerializableQuery) : Store :=
  { s with
    streams := Function.update s.streams (store.stream key)
      (s.streams (store.stream key) ++ [⟨query, key.display⟩]) }

section Run

variable {T : Type} (store : KvStoreContext) (deserialize : Row → Option T) (s : Store)
  (partitionKey : PartitionKey) (query : SerializableQuery) (field : String) (value : Row)

theorem run_pushToDrainerStream :
    (pushToDrainerStream store query partitionKey).run Store.exec s =
      (.ok (), s.push store partitionKey query) := by
  simp [pushToDrainerStream, Prog.run_andThen, Prog.run_mapResult, bridge, Store.push,
    KvStoreContext.stream]

theorem run_kvWrapper_hset :
    (kvWrapper store deserialize (.hset field value query) partitionKey).run Store.exec s =
      (.ok .hset, Store.push store
        { s with redis := s.redis.setField partitionKey.display field value } partitionKey
        query) := by
  simp [kvWrapper, Prog.run_andThen, Prog.run_mapResult, bridge, run_pushToDrainerStream]

theorem run_kvWrapper_hSetNx :
    (kvWrapper store deserialize (.hSetNx field value query) partitionKey).run Store.exec s =
      match s.redis partitionKey.display field with
      | some _ => (.ok (.hSetNx .keyNotSet), s)
      | none =>
        (.ok (.hSetNx .keySet), Store.push store
          { s with redis := s.redis.setField partitionKey.display field value } partitionKey
          query) := by
  cases h : s.redis partitionKey.display field <;>
    simp [kvWrapper, Prog.run_andThen, Prog.run_mapResult, h, bridge, run_pushToDrainerStream]

theorem run_kvWrapper_hGet :
    (kvWrapper store deserialize (.hGet field) partitionKey).run Store.exec s =
      (match s.redis partitionKey.display field with
        | some v =>
          match deserialize v with
          | some t => .ok (.hGet t)
          | none => .error .unknownResult
        | none => .error .notFound, s) := by
  cases h : s.redis partitionKey.display field with
  | none =>
    simp [kvWrapper, Prog.run_andThen, Prog.run_mapResult, h, bridge, redisErrorFromRef]
  | some v =>
    cases h' : deserialize v <;>
      simp [kvWrapper, Prog.run_andThen, Prog.run_mapResult, h, h', bridge, redisErrorFromRef]

theorem run_kvWrapper_hDel :
    (kvWrapper store deserialize (.hDel field query) partitionKey).run Store.exec s =
      (.ok (.hDel (s.redis.countField partitionKey.display field)),
        Store.push store { s with redis := s.redis.deleteField partitionKey.display field }
          partitionKey query) := by
  simp [kvWrapper, Prog.run_andThen, Prog.run_mapResult, bridge, run_pushToDrainerStream]

end Run

/-! ## Commands issued -/

section Obeys

variable {T : Type} {ctx : KvStoreContext} {deserialize : Row → Option T}
  {partitionKey : PartitionKey} {query : SerializableQuery} {value : Row}

theorem obeys_getRedisConn : Obeys ctx getRedisConn fun _ => True :=
  ⟨trivial, fun _ _ _ => trivial⟩

theorem obeys_pushToDrainerStream (h : query.Ok partitionKey) :
    Obeys ctx (pushToDrainerStream ctx query partitionKey) fun _ => True := by
  refine Obeys.andThen (obeys_getRedisConn.mono fun _ _ _ _ => trivial) (fun _ => trivial)
    fun _ _ => Obeys.mapResult ⟨?_, fun _ _ _ => trivial⟩
  exact ⟨by rw [h.partitionKey], by rw [h.partitionKey]; rfl, by rw [h.partitionKey]; exact h⟩

theorem obeys_kvWrapper_hset (hvalue : value.partitionKey.display = partitionKey.display)
    (hquery : query.Ok partitionKey) :
    Obeys ctx (kvWrapper ctx deserialize (.hset partitionKey.display value query) partitionKey)
      fun _ => True := by
  refine Obeys.andThen (obeys_getRedisConn.mono fun _ _ _ _ => trivial) (fun _ => trivial)
    fun _ _ => Obeys.andThen (Q := fun _ => True)
      (Obeys.mapResult ⟨⟨rfl, hvalue⟩, fun _ _ _ _ _ => trivial⟩) (fun _ => trivial) fun _ _ => ?_
  exact Obeys.andThen ((obeys_pushToDrainerStream hquery).mono fun _ _ _ _ => trivial)
    (fun _ => trivial) fun _ _ => trivial

theorem obeys_kvWrapper_hSetNx (hvalue : value.partitionKey.display = partitionKey.display)
    (hquery : query.Ok partitionKey) :
    Obeys ctx (kvWrapper ctx deserialize (.hSetNx partitionKey.display value query) partitionKey)
      fun _ => True := by
  refine Obeys.andThen (obeys_getRedisConn.mono fun _ _ _ _ => trivial) (fun _ => trivial)
    fun _ _ => Obeys.andThen (Q := fun _ => True)
      (Obeys.mapResult ⟨⟨rfl, hvalue⟩, fun _ _ _ _ _ => trivial⟩) (fun _ => trivial)
      fun reply _ => ?_
  cases reply with
  | keySet =>
    exact Obeys.andThen ((obeys_pushToDrainerStream hquery).mono fun _ _ _ _ => trivial)
      (fun _ => trivial) fun _ _ => trivial
  | keyNotSet => trivial

/-- A value read has the key it was read at. -/
theorem obeys_kvWrapper_hGet :
    Obeys ctx (kvWrapper ctx deserialize (.hGet partitionKey.display) partitionKey)
      fun reply => ∀ v, reply = .ok (.hGet v) →
        ∃ row, deserialize row = some v ∧ row.partitionKey.display = partitionKey.display := by
  refine Obeys.andThen (obeys_getRedisConn.mono fun _ _ _ _ => trivial)
    (fun _ _ h => nomatch h) fun _ _ => Obeys.andThen (Q := fun v => ∃ row,
      deserialize row = some v ∧ row.partitionKey.display = partitionKey.display)
      (Obeys.mapResult (Obeys.mapResult ⟨trivial, fun reply _ hreply v hv => ?_⟩))
      (fun _ _ h => nomatch h) fun v hv v' h => by cases h; exact hv
  change (∀ row, reply = Except.ok row → row.partitionKey.display = partitionKey.display) at hreply
  cases reply with
  | error e => cases hv
  | ok row =>
    cases hd : deserialize row with
    | none => simp [hd, bridge] at hv
    | some t =>
      simp only [hd, bridge, Except.ok.injEq] at hv
      exact ⟨row, by rw [hd, hv], hreply row rfl⟩

theorem obeys_kvWrapper_hDel (hquery : query.Ok partitionKey) :
    Obeys ctx (kvWrapper ctx deserialize (.hDel partitionKey.display query) partitionKey)
      fun _ => True := by
  refine Obeys.andThen (obeys_getRedisConn.mono fun _ _ _ _ => trivial) (fun _ => trivial)
    fun _ _ => Obeys.andThen (Q := fun _ => True)
      (Obeys.mapResult ⟨trivial, fun _ _ _ _ _ => trivial⟩) (fun _ => trivial) fun _ _ => ?_
  exact Obeys.andThen ((obeys_pushToDrainerStream hquery).mono fun _ _ _ _ => trivial)
    (fun _ => trivial) fun _ _ => trivial

end Obeys

end CardVault
