import CardVault.Kv.Wrapper

/-!
# KV resources and their CRUD helpers

The resource traits and the generic helpers of `src/src/storage/kv/resource.rs`
that need no reverse lookup. A trait with its associated types and functions is a
structure; an impl of it is a value.

Main results, for a helper that runs with nothing in between:
* `run_findResourceByIdInner`: a find answers the row `Store.visible` shows.
* `run_insertResource_enabled`, `run_insertResource_postgresOnly`: an insert.
* `run_updateResourceById_redisKv`, `run_deleteResourceByIdInner_redisKv` and
  their `_postgresOnly` forms: an update and a delete, by the scheme decided.
-/

namespace CardVault

open Interaction PartitionKey

/-! ## The traits -/

/-- `KvResource`, with the types it is about: `Model` is `Self`. -/
structure KvResource where
  resource : Resource
  Error : Type
  errorExt : StorageErrorExt Error
  DieselNew : Type
  DieselEntity : Type
  PrimaryKeyType : Type
  Model : Type
  /-- `DieselNew: Into<DieselEntity>` -/
  intoEntity : DieselNew → DieselEntity
  /-- `DieselEntity: Into<Self>` -/
  intoModel : DieselEntity → Model
  /-- `DieselEntity: Serialize` -/
  serialize : DieselEntity → Row
  /-- `DieselEntity: DeserializeOwned` -/
  deserialize : Row → Option DieselEntity
  /-- `PrimaryKeyType: GetPartitionKey` -/
  getPartitionKey : PrimaryKeyType → PartitionKey
  setStorageScheme : DieselNew → StorageScheme → DieselNew
  generateInsertDrainerQuery : DieselNew → Except KvError SerializableQuery
  storageInsert : DieselNew → App (Except Error DieselEntity)
  storageFind : PrimaryKeyType → App (Except Error DieselEntity)

/-- `KvDeletableResource`. -/
structure KvDeletableResource extends KvResource where
  generateDeleteDrainerQuery : PrimaryKeyType → Except KvError SerializableQuery
  storageDelete : PrimaryKeyType → App (Except Error ℕ)

/-- `KvUpdatableResource`. -/
structure KvUpdatableResource extends KvResource where
  DieselUpdate : Type
  setUpdateStorageScheme : DieselUpdate → StorageScheme → DieselUpdate
  generateUpdateDrainerQuery : DieselUpdate → PrimaryKeyType → Except KvError SerializableQuery
  applyUpdate : DieselUpdate → DieselEntity → DieselEntity
  storageUpdate : DieselUpdate → PrimaryKeyType → App (Except Error Model)

attribute [instance] KvResource.errorExt

/-! ## Errors -/

section Errors

variable {E : Type} [StorageErrorExt E]

/-- `kv_backend_error`. -/
def kvBackendError (e : KvError) : E := StorageErrorExt.fromKvError e

/-- `kv_duplicate_error`. -/
def kvDuplicateError (key : String) : E := kvBackendError (.duplicateValue key)

/-- `.map_err(|e| kv_backend_error(e.to_redis_failed_response(key)))`. -/
def mapRedisError {α : Type} (key : String) : Except RedisError α → Except E α
  | .ok a => .ok a
  | .error e => .error (kvBackendError (e.toRedisFailedResponse key))

/-- `.map_err(kv_backend_error)`. -/
def mapKvError {α : Type} : Except KvError α → Except E α
  | .ok a => .ok a
  | .error e => .error (kvBackendError e)

/-- `.map_err(|e| kv_backend_error(Report::new(e).change_context(KvError::Backend)))`. -/
def mapUnexpected {α : Type} : Except RedisError α → Except E α
  | .ok a => .ok a
  | .error _ => .error (kvBackendError .backend)

/-- The `match` on the result of an `HGet`: a value, a miss (`none`), or an
    error. -/
def hGetResult {T : Type} (key : String) : Except RedisError (KvResult T) → Except E (Option T)
  | .ok (.hGet v) => .ok (some v)
  | .error .notFound => .ok none
  | .error e => .error (kvBackendError (e.toRedisFailedResponse key))
  | .ok (.hSetNx _) => .error (kvBackendError .backend)
  | .ok .hset => .error (kvBackendError .backend)
  | .ok (.hDel _) => .error (kvBackendError .backend)

end Errors

/-! ## The storage scheme of an operation -/

/-- `Storage::kv_settings`. -/
def kvSettings : App KvState :=
  getRuntimeConfig.mapResult fun
    | some runtimeConfigValues => runtimeConfigValues.enableKv
    | none => .disabled

/-- `decide_storage_scheme_for_find_operation`. -/
def decideStorageSchemeForFindOperation : App StorageScheme :=
  kvSettings.mapResult fun
    | .disabled => .postgresOnly
    | .enabled | .softKill => .redisKv

/-- `decide_storage_scheme_for_insert_operation`. -/
def decideStorageSchemeForInsertOperation : App StorageScheme :=
  kvSettings.mapResult fun
    | .disabled | .softKill => .postgresOnly
    | .enabled => .redisKv

/-- `decide_storage_scheme_for_mutate_operation` (lines 256–302). -/
def decideStorageSchemeForMutateOperation (store : KvStoreContext) (M : KvResource)
    (partitionKey : PartitionKey) : App (Except M.Error (StorageScheme × Option M.DieselEntity)) :=
  kvSettings.bind fun
    | .disabled => .pure (.ok (.postgresOnly, none))
    | .enabled => .pure (.ok (.redisKv, none))
    | .softKill =>
      let partitionKeyStr := partitionKey.display
      ((kvWrapper store M.deserialize (.hGet partitionKeyStr) partitionKey).mapResult
        (hGetResult partitionKeyStr)).andThen fun
        -- the row found is what an update is applied to
        | some v => .pure (.ok (.redisKv, some v))
        | none => .pure (.ok (.postgresOnly, none))

/-! ## The helpers -/

section Helpers

variable (store : KvStoreContext)

/-- `insert_resource_inner` (lines 304–365). `insertLookup` is the block that
    inserts the reverse lookup record when there is one. -/
def insertResourceInner (M : KvResource) (dieselNew : M.DieselNew) (partitionKey : PartitionKey)
    (insertLookup : M.DieselNew → StorageScheme → App (Except M.Error Unit)) :
    App (Except M.Error M.DieselEntity) :=
  decideStorageSchemeForInsertOperation.bind fun scheme =>
    let dieselNew := M.setStorageScheme dieselNew scheme
    match scheme with
    | .postgresOnly => M.storageInsert dieselNew
    | .redisKv =>
      (Prog.pure (mapKvError (M.generateInsertDrainerQuery dieselNew))).andThen fun drainerQuery =>
      let partitionKeyStr := partitionKey.display
      (insertLookup dieselNew scheme).andThen fun _ =>
      let dieselEntity := M.intoEntity dieselNew
      ((kvWrapper store (fun _ => (none : Option Unit))
        (.hSetNx partitionKeyStr (M.serialize dieselEntity) drainerQuery) partitionKey).mapResult
        (mapRedisError partitionKeyStr)).andThen fun reply =>
      (Prog.pure (mapUnexpected reply.tryIntoHsetnx)).andThen fun
        | .keySet => .pure (.ok dieselEntity)
        | .keyNotSet => .pure (.error (kvDuplicateError partitionKeyStr))

/-- `insert_resource`: no reverse lookup. -/
def insertResource (M : KvResource) (dieselNew : M.DieselNew) (partitionKey : PartitionKey) :
    App (Except M.Error M.Model) :=
  (insertResourceInner store M dieselNew partitionKey fun _ _ => .pure (.ok ())).mapResult
    (Except.map M.intoModel)

/-- `find_resource_by_id_inner` (lines 408–456). -/
def findResourceByIdInner (M : KvResource) (primaryKey : M.PrimaryKeyType) :
    App (Except M.Error M.DieselEntity) :=
  let key := M.getPartitionKey primaryKey
  decideStorageSchemeForFindOperation.bind fun
    | .postgresOnly => M.storageFind primaryKey
    | .redisKv =>
      let keyStr := key.display
      ((kvWrapper store M.deserialize (.hGet keyStr) key).mapResult (hGetResult keyStr)).andThen fun
        | some v => .pure (.ok v)
        -- Redis miss: fall back to Postgres
        | none => M.storageFind primaryKey

/-- `find_resource_by_id`. -/
def findResourceById (M : KvResource) (primaryKey : M.PrimaryKeyType) :
    App (Except M.Error M.Model) :=
  (findResourceByIdInner store M primaryKey).mapResult (Except.map M.intoModel)

/-- The `match` of the two `find_optional_…` functions. -/
def optionalResult {E α : Type} [StorageErrorExt E] : Except E α → Except E (Option α)
  | .ok resource => .ok (some resource)
  | .error err => if StorageErrorExt.isNotFound err then .ok none else .error err

/-- `find_optional_resource_by_id`. -/
def findOptionalResourceById (M : KvResource) (primaryKey : M.PrimaryKeyType) :
    App (Except M.Error (Option M.Model)) :=
  (findResourceById store M primaryKey).mapResult optionalResult

/-- The row an update is applied to: the one read with the mode decision, or the
    one found now. -/
def currentEntity (M : KvResource) (primaryKey : M.PrimaryKeyType) :
    Option M.DieselEntity → App (Except M.Error M.DieselEntity)
  | some resource => .pure (.ok resource)
  | none => findResourceByIdInner store M primaryKey

/-- `update_resource_by_id` (lines 560–605). -/
def updateResourceById (M : KvUpdatableResource) (update : M.DieselUpdate)
    (primaryKey : M.PrimaryKeyType) : App (Except M.Error M.Model) :=
  let key := M.getPartitionKey primaryKey
  (decideStorageSchemeForMutateOperation store M.toKvResource key).andThen fun (scheme, cached) =>
    let update := M.setUpdateStorageScheme update scheme
    match scheme with
    | .postgresOnly => M.storageUpdate update primaryKey
    | .redisKv =>
      (currentEntity store M.toKvResource primaryKey cached).andThen fun current =>
      (Prog.pure (mapKvError (M.generateUpdateDrainerQuery update primaryKey))).andThen
        fun updateQuery =>
      let updatedModel := M.applyUpdate update current
      let updatedResource := M.intoModel updatedModel
      let keyStr := key.display
      ((kvWrapper store (fun _ => (none : Option Unit))
        (.hset keyStr (M.serialize updatedModel) updateQuery) key).mapResult
        (mapRedisError keyStr)).andThen fun reply =>
      (Prog.pure (mapUnexpected reply.tryIntoHset)).andThen fun _ =>
      .pure (.ok updatedResource)

/-- `delete_resource_by_id_inner` (lines 608–641). -/
def deleteResourceByIdInner (M : KvDeletableResource) (primaryKey : M.PrimaryKeyType) :
    App (Except M.Error ℕ) :=
  let key := M.getPartitionKey primaryKey
  (decideStorageSchemeForMutateOperation store M.toKvResource key).andThen fun (scheme, _) =>
    match scheme with
    | .postgresOnly => M.storageDelete primaryKey
    | .redisKv =>
      (Prog.pure (mapKvError (M.generateDeleteDrainerQuery primaryKey))).andThen fun deleteQuery =>
      let keyStr := key.display
      ((kvWrapper store (fun _ => (none : Option Unit)) (.hDel keyStr deleteQuery) key).mapResult
        (mapRedisError keyStr)).andThen fun reply =>
      .pure (mapUnexpected reply.tryIntoHdel)

/-- `delete_resource_by_id`. -/
def deleteResourceById (M : KvDeletableResource) (primaryKey : M.PrimaryKeyType) :
    App (Except M.Error ℕ) := deleteResourceByIdInner store M primaryKey

end Helpers

/-! ## What an impl promises -/

/-- What the helpers rely on of an impl: its rows are the rows of one table, and
    its queries are the statements and reads of that table. -/
structure KvResource.Spec (M : KvResource) where
  lawfulError : LawfulStorageError M.Error
  deserialize_serialize : ∀ e, M.deserialize (M.serialize e) = some e
  serialize_of_deserialize : ∀ row e, M.deserialize row = some e → M.serialize e = row
  deserialize_isSome : ∀ row, (M.deserialize row).isSome = true ↔
    row.partitionKey.resource = some M.resource
  getPartitionKey_resource : ∀ pk, (M.getPartitionKey pk).resource = some M.resource
  /-- The INSERT of a new record. -/
  insertStatement : M.DieselNew → Statement
  generateInsertDrainerQuery_eq : ∀ new, M.generateInsertDrainerQuery new =
    .ok ⟨insertStatement new, M.resource.entityType, .insert⟩
  insertStatement_partitionKey : ∀ new,
    (insertStatement new).partitionKey = (M.serialize (M.intoEntity new)).partitionKey
  insertStatement_setStorageScheme : ∀ new scheme,
    (insertStatement (M.setStorageScheme new scheme)).partitionKey =
      (insertStatement new).partitionKey
  insertStatement_effect : ∀ new, ∃ mk, (insertStatement new).effect = .insert mk ∧
    ∀ id, (mk id).clearId = (M.serialize (M.intoEntity new)).stored
  run_storageInsert : ∀ new s, ∃ reply : Except DieselError M.DieselEntity,
    (M.storageInsert new).run Store.exec s =
        (reply.mapError StorageErrorExt.fromDieselError,
          { s with pg := s.pg.apply (insertStatement new) }) ∧
      (∀ e, reply = .ok e →
        (insertStatement new).fits = true ∧
          s.pg.rowAt (insertStatement new).partitionKey = none ∧
          (s.pg.apply (insertStatement new)).rowAt (insertStatement new).partitionKey =
            some (M.serialize e)) ∧
      ∀ err, reply = .error err → s.pg.apply (insertStatement new) = s.pg ∧
        (err = .other ∨ err = .uniqueViolation)
  run_storageFind : ∀ pk s, (M.storageFind pk).run Store.exec s =
    ((oneRow ((s.pg.rowAt (M.getPartitionKey pk)).bind M.deserialize)).mapError
      StorageErrorExt.fromDieselError, s)
  obeys_storageInsert : ∀ ctx new, Obeys ctx (M.storageInsert new) fun _ => True
  obeys_storageFind : ∀ ctx pk, Obeys ctx (M.storageFind pk) fun reply =>
    ∀ e, reply = .ok e → (M.serialize e).partitionKey = M.getPartitionKey pk

/-- What the helpers rely on of an impl with deletion. -/
structure KvDeletableResource.Spec (M : KvDeletableResource) extends
    KvResource.Spec M.toKvResource where
  deleteStatement : M.PrimaryKeyType → Statement
  generateDeleteDrainerQuery_eq : ∀ pk, M.generateDeleteDrainerQuery pk =
    .ok ⟨deleteStatement pk, M.resource.entityType, .delete⟩
  deleteStatement_partitionKey : ∀ pk, (deleteStatement pk).partitionKey = M.getPartitionKey pk
  deleteStatement_effect : ∀ pk, (deleteStatement pk).effect = .delete
  run_storageDelete : ∀ pk s, ∃ count, (M.storageDelete pk).run Store.exec s =
    (.ok count, { s with pg := s.pg.apply (deleteStatement pk) })
  obeys_storageDelete : ∀ ctx pk, Obeys ctx (M.storageDelete pk) fun _ => True

/-- What the helpers rely on of an impl with updates. -/
structure KvUpdatableResource.Spec (M : KvUpdatableResource) extends
    KvResource.Spec M.toKvResource where
  updateStatement : M.DieselUpdate → M.PrimaryKeyType → Statement
  generateUpdateDrainerQuery_eq : ∀ update pk, M.generateUpdateDrainerQuery update pk =
    .ok ⟨updateStatement update pk, M.resource.entityType, .update⟩
  updateStatement_partitionKey : ∀ update pk,
    (updateStatement update pk).partitionKey = M.getPartitionKey pk
  updateStatement_updatedBy : ∀ update pk vaultPk vaultUpdate,
    updateStatement (M.setUpdateStorageScheme update .redisKv) pk =
      .updateVault vaultPk vaultUpdate → vaultUpdate.updatedBy = .redisKv
  serialize_applyUpdate : ∀ update e,
    (M.serialize (M.applyUpdate update e)).partitionKey = (M.serialize e).partitionKey
  obeys_storageUpdate : ∀ ctx update pk, Obeys ctx (M.storageUpdate update pk) fun _ => True

/-! ## Runs with nothing in between -/

namespace Store

/-- The KV mode a call reads. -/
def mode (s : Store) : KvState :=
  match s.runtimeConfig with
  | some runtimeConfigValues => runtimeConfigValues.enableKv
  | none => .disabled

/-- What Redis holds for a row: the field under its own key. -/
def cached (s : Store) (key : PartitionKey) : Option Row := s.redis key.display key.display

/-- The row a find of `key` is about to answer. -/
def visible (s : Store) (key : PartitionKey) : Option Row :=
  match s.mode with
  | .disabled => s.pg.rowAt key
  | .enabled | .softKill =>
    match s.cached key with
    | some row => some row
    | none => s.pg.rowAt key

/-- A row written to Redis, and its statement queued. -/
def write (ctx : KvStoreContext) (s : Store) (key : PartitionKey) (row : Row)
    (query : SerializableQuery) : Store :=
  Store.push ctx { s with redis := s.redis.setField key.display key.display row } key query

/-- A row deleted from Redis, and its statement queued. -/
def erase (ctx : KvStoreContext) (s : Store) (key : PartitionKey) (query : SerializableQuery) :
    Store :=
  Store.push ctx { s with redis := s.redis.deleteField key.display key.display } key query

/-- An update or a delete of `key` goes through Redis. -/
def ThroughRedis (s : Store) (key : PartitionKey) : Prop :=
  s.mode = .enabled ∨ s.mode = .softKill ∧ (s.cached key).isSome

instance (s : Store) (key : PartitionKey) : Decidable (s.ThroughRedis key) :=
  inferInstanceAs (Decidable (_ ∨ _ ∧ _))

/-- What a delete does: erase the row from Redis, or run the statement. -/
def remove (ctx : KvStoreContext) (s : Store) (key : PartitionKey) (query : SerializableQuery) :
    Store :=
  if s.ThroughRedis key then s.erase ctx key query
  else { s with pg := s.pg.apply query.statement }

section Frame

variable (ctx : KvStoreContext) (s : Store) (key key' : PartitionKey) (row : Row)
  (query : SerializableQuery)

@[simp] theorem write_pg : (s.write ctx key row query).pg = s.pg := rfl

@[simp] theorem erase_pg : (s.erase ctx key query).pg = s.pg := rfl

@[simp] theorem write_mode : (s.write ctx key row query).mode = s.mode := rfl

@[simp] theorem erase_mode : (s.erase ctx key query).mode = s.mode := rfl

theorem write_streams (stream : String) :
    (s.write ctx key row query).streams stream =
      s.streams stream ++ if stream = ctx.stream key then [⟨query, key.display⟩] else [] := by
  by_cases h : stream = ctx.stream key
  · subst h; simp [write, push]
  · simp [write, push, h]

theorem erase_streams (stream : String) :
    (s.erase ctx key query).streams stream =
      s.streams stream ++ if stream = ctx.stream key then [⟨query, key.display⟩] else [] := by
  by_cases h : stream = ctx.stream key
  · subst h; simp [erase, push]
  · simp [erase, push, h]

theorem write_cached :
    (s.write ctx key row query).cached key' =
      if key'.display = key.display then some row else s.cached key' := by
  simp [write, push, cached, Redis.setField_apply]

theorem erase_cached :
    (s.erase ctx key query).cached key' =
      if key'.display = key.display then none else s.cached key' := by
  simp [erase, push, cached, Redis.deleteField_apply]

@[simp] theorem write_cached_self : (s.write ctx key row query).cached key = some row := by
  simp [write_cached]

@[simp] theorem erase_cached_self : (s.erase ctx key query).cached key = none := by
  simp [erase_cached]

variable {s key row}

theorem exec_getHashField_some (h : s.cached key = some row) :
    s.exec (.getHashField key.display key.display) = (.ok row, s) := by
  unfold cached at h
  simp only [exec, h]

theorem exec_getHashField_none (h : s.cached key = none) :
    s.exec (.getHashField key.display key.display) = (.error .notFound, s) := by
  unfold cached at h
  simp only [exec, h]

theorem exec_setHashFieldIfNotExist_some (h : s.cached key = some row) (value : Row) (ttl : ℕ) :
    s.exec (.setHashFieldIfNotExist key.display key.display value ttl) = (.ok .keyNotSet, s) := by
  unfold cached at h
  simp only [exec, h]

theorem exec_setHashFieldIfNotExist_none (h : s.cached key = none) (value : Row) (ttl : ℕ) :
    s.exec (.setHashFieldIfNotExist key.display key.display value ttl) =
      (.ok .keySet, { s with redis := s.redis.setField key.display key.display value }) := by
  unfold cached at h
  simp only [exec, h]

theorem mode_congr {s s' : Store} (h : s.runtimeConfig = s'.runtimeConfig) : s.mode = s'.mode := by
  rw [mode, mode, h]

end Frame

end Store

section Run

variable (ctx : KvStoreContext) (s : Store)

@[simp] theorem run_kvSettings : kvSettings.run Store.exec s = (s.mode, s) := by
  rw [kvSettings, Prog.run_mapResult, Store.run_getRuntimeConfig]
  rfl

theorem run_decideStorageSchemeForFindOperation :
    decideStorageSchemeForFindOperation.run Store.exec s =
      (if s.mode = .disabled then .postgresOnly else .redisKv, s) := by
  rw [decideStorageSchemeForFindOperation, Prog.run_mapResult, run_kvSettings]
  cases s.mode <;> rfl

theorem run_decideStorageSchemeForInsertOperation :
    decideStorageSchemeForInsertOperation.run Store.exec s =
      (if s.mode = .enabled then .redisKv else .postgresOnly, s) := by
  rw [decideStorageSchemeForInsertOperation, Prog.run_mapResult, run_kvSettings]
  cases s.mode <;> rfl

/-- An answer for the row found. -/
def KvResource.answer (M : KvResource) : Option Row → Except M.Error M.DieselEntity
  | none => .error (StorageErrorExt.fromDieselError .notFound)
  | some row =>
    match M.deserialize row with
    | some e => .ok e
    | none => .error (kvBackendError .backend)

variable {M : KvResource} (hM : M.Spec)
include hM

theorem KvResource.Spec.oneRow_answer {key : PartitionKey}
    (hkey : key.resource = some M.resource) (pg : Pg) :
    (oneRow ((pg.rowAt key).bind M.deserialize)).mapError StorageErrorExt.fromDieselError =
      M.answer (pg.rowAt key) := by
  cases h : pg.rowAt key with
  | none => rfl
  | some row =>
    have hres : (M.deserialize row).isSome = true := by
      rw [hM.deserialize_isSome, Pg.partitionKey_of_rowAt h, hkey]
    obtain ⟨e, he⟩ := Option.isSome_iff_exists.1 hres
    simp [KvResource.answer, he, oneRow, Except.mapError]

omit hM in
/-- Where Redis does not hold the key, Postgres is read in every mode. -/
theorem Store.visible_of_cached_none {s : Store} {key : PartitionKey} (hc : s.cached key = none) :
    s.visible key = s.pg.rowAt key := by
  unfold Store.visible
  rw [hc]
  cases s.mode <;> rfl

omit hM in
/-- In a well-formed store the row visible at a key has the key's text. -/
theorem display_of_visible {s : Store} (hs : s.WellFormed ctx) {key : PartitionKey} {row : Row}
    (hrow : s.visible key = some row) : row.partitionKey.display = key.display := by
  unfold Store.visible at hrow
  split at hrow
  · rw [Pg.partitionKey_of_rowAt hrow]
  all_goals
    split at hrow
    · rename_i hc
      cases hrow
      exact (hs.redis _ _ _ hc).2
    · rw [Pg.partitionKey_of_rowAt hrow]

/-- A row with the text of a key is one of the key's table. -/
theorem KvResource.Spec.exists_of_display {key : PartitionKey}
    (hkey : key.resource = some M.resource) {row : Row}
    (hrow : row.partitionKey.display = key.display) :
    ∃ e, row = M.serialize e ∧ M.deserialize row = some e := by
  have hres : (M.deserialize row).isSome = true := by
    obtain ⟨t, ht⟩ : ∃ t, row.partitionKey.resource = some t := by cases row <;> exact ⟨_, rfl⟩
    rw [hM.deserialize_isSome, ht, resource_eq_of_display ht hkey hrow]
  obtain ⟨e, he⟩ := Option.isSome_iff_exists.1 hres
  exact ⟨e, (hM.serialize_of_deserialize row e he).symm, he⟩

/-- In a well-formed store what Redis holds for a key of a table can be read. -/
theorem KvResource.Spec.exists_cached {s : Store} (hs : s.WellFormed ctx) {key : PartitionKey}
    (hkey : key.resource = some M.resource) {row : Row} (hrow : s.cached key = some row) :
    ∃ e, row = M.serialize e ∧ M.deserialize row = some e :=
  hM.exists_of_display hkey (hs.redis _ _ _ hrow).2

/-- In a well-formed store the row visible at a key of its table can be read. -/
theorem KvResource.Spec.exists_visible (hs : s.WellFormed ctx) {key : PartitionKey}
    (hkey : key.resource = some M.resource) {row : Row} (hrow : s.visible key = some row) :
    ∃ e, row = M.serialize e ∧ M.deserialize row = some e :=
  hM.exists_of_display hkey (display_of_visible ctx hs hrow)

/-- A find answers the visible row and changes nothing. -/
theorem run_findResourceByIdInner (pk : M.PrimaryKeyType) :
    (findResourceByIdInner ctx M pk).run Store.exec s =
      (M.answer (s.visible (M.getPartitionKey pk)), s) := by
  have hkey := hM.getPartitionKey_resource pk
  have hfind := hM.run_storageFind pk s
  rw [hM.oneRow_answer hkey] at hfind
  simp only [findResourceByIdInner, Prog.run_bind, run_decideStorageSchemeForFindOperation]
  cases hmode : s.mode with
  | disabled => simp [hmode, hfind, Store.visible]
  | _ =>
    simp only [hmode, reduceCtorEq, if_false, Prog.run_andThen, Prog.run_mapResult,
      run_kvWrapper_hGet, Store.visible, Store.cached]
    cases hc : s.redis (M.getPartitionKey pk).display (M.getPartitionKey pk).display with
    | none => simpa [hGetResult] using hfind
    | some row => cases hd : M.deserialize row <;> simp [hGetResult, KvResource.answer, hd,
        RedisError.toRedisFailedResponse]

theorem run_findOptionalResourceById (pk : M.PrimaryKeyType) :
    (findOptionalResourceById ctx M pk).run Store.exec s =
      (optionalResult ((M.answer (s.visible (M.getPartitionKey pk))).map M.intoModel), s) := by
  simp [findOptionalResourceById, findResourceById, Prog.run_mapResult,
    run_findResourceByIdInner ctx s hM]

/-- An insert in the mode that writes to Redis: the reverse lookup first, then
    the row, unless Redis holds its key. -/
theorem run_insertResourceInner_enabled (hmode : s.mode = .enabled) (new : M.DieselNew)
    (key : PartitionKey) (insertLookup : M.DieselNew → StorageScheme → App (Except M.Error Unit)) :
    (insertResourceInner ctx M new key insertLookup).run Store.exec s =
      match (insertLookup (M.setStorageScheme new .redisKv) .redisKv).run Store.exec s with
      | (.error e, s') => (.error e, s')
      | (.ok _, s') =>
        match s'.cached key with
        | some _ => (.error (kvDuplicateError key.display), s')
        | none =>
          (.ok (M.intoEntity (M.setStorageScheme new .redisKv)),
            s'.write ctx key (M.serialize (M.intoEntity (M.setStorageScheme new .redisKv)))
              ⟨hM.insertStatement (M.setStorageScheme new .redisKv), M.resource.entityType,
                .insert⟩) := by
  simp only [insertResourceInner, Prog.run_bind, run_decideStorageSchemeForInsertOperation, hmode,
    if_true, hM.generateInsertDrainerQuery_eq, mapKvError, Prog.run_andThen, Prog.run_pure]
  cases hl : (insertLookup (M.setStorageScheme new .redisKv) .redisKv).run Store.exec s with
  | mk reply s' =>
    cases reply with
    | error e => rfl
    | ok _ =>
      simp only [Prog.run_mapResult, run_kvWrapper_hSetNx, Store.cached]
      cases hc : s'.redis key.display key.display <;>
        simp [mapRedisError, mapUnexpected, KvResult.tryIntoHsetnx, Store.write]

omit hM in
/-- An insert in the other modes goes to Postgres. -/
theorem run_insertResourceInner_postgresOnly (hmode : s.mode ≠ .enabled) (new : M.DieselNew)
    (key : PartitionKey) (insertLookup : M.DieselNew → StorageScheme → App (Except M.Error Unit)) :
    (insertResourceInner ctx M new key insertLookup).run Store.exec s =
      (M.storageInsert (M.setStorageScheme new .postgresOnly)).run Store.exec s := by
  simp [insertResourceInner, Prog.run_bind, run_decideStorageSchemeForInsertOperation, hmode]

/-- `insert_resource` in the mode that writes to Redis. -/
theorem run_insertResource_enabled (hmode : s.mode = .enabled) (new : M.DieselNew)
    (key : PartitionKey) :
    (insertResource ctx M new key).run Store.exec s =
      match s.cached key with
      | some _ => (.error (kvDuplicateError key.display), s)
      | none =>
        (.ok (M.intoModel (M.intoEntity (M.setStorageScheme new .redisKv))),
          s.write ctx key (M.serialize (M.intoEntity (M.setStorageScheme new .redisKv)))
            ⟨hM.insertStatement (M.setStorageScheme new .redisKv), M.resource.entityType,
              .insert⟩) := by
  rw [insertResource, Prog.run_mapResult, run_insertResourceInner_enabled ctx s hM hmode]
  simp only [Prog.run_pure]
  cases s.cached key <;> rfl

omit hM in
theorem run_insertResource_postgresOnly (hmode : s.mode ≠ .enabled) (new : M.DieselNew)
    (key : PartitionKey) :
    (insertResource ctx M new key).run Store.exec s =
      (((M.storageInsert (M.setStorageScheme new .postgresOnly)).run Store.exec s).1.map
          M.intoModel,
        ((M.storageInsert (M.setStorageScheme new .postgresOnly)).run Store.exec s).2) := by
  rw [insertResource, Prog.run_mapResult, run_insertResourceInner_postgresOnly ctx s hmode]

omit hM in
/-- The scheme of an update or a delete, with the row read on the way. -/
theorem run_decideStorageSchemeForMutateOperation (key : PartitionKey) :
    (decideStorageSchemeForMutateOperation ctx M key).run Store.exec s =
      (match s.mode with
        | .disabled => .ok (.postgresOnly, none)
        | .enabled => .ok (.redisKv, none)
        | .softKill =>
          match s.cached key with
          | none => .ok (.postgresOnly, none)
          | some row =>
            match M.deserialize row with
            | some e => .ok (.redisKv, some e)
            | none => .error (kvBackendError .backend), s) := by
  simp only [decideStorageSchemeForMutateOperation, Prog.run_bind, run_kvSettings]
  cases hmode : s.mode with
  | disabled => rfl
  | enabled => rfl
  | softKill =>
    simp only [Prog.run_andThen, Prog.run_mapResult, run_kvWrapper_hGet, Store.cached]
    cases hc : s.redis key.display key.display with
    | none => rfl
    | some row => cases hd : M.deserialize row <;> simp [hGetResult, hd,
        RedisError.toRedisFailedResponse]

end Run

/-! ### Deletes -/

section Delete

variable (ctx : KvStoreContext) (s : Store) {M : KvDeletableResource}

/-- A delete that goes through Redis. -/
theorem run_deleteResourceByIdInner_redisKv (hM : M.Spec) (pk : M.PrimaryKeyType)
    (h : s.mode = .enabled ∨ s.mode = .softKill ∧
      ∃ row e, s.cached (M.getPartitionKey pk) = some row ∧ M.deserialize row = some e) :
    (deleteResourceByIdInner ctx M pk).run Store.exec s =
      (.ok (s.redis.countField (M.getPartitionKey pk).display (M.getPartitionKey pk).display),
        s.erase ctx (M.getPartitionKey pk)
          ⟨hM.deleteStatement pk, M.resource.entityType, .delete⟩) := by
  have hdecide : ∃ cached, (decideStorageSchemeForMutateOperation ctx M.toKvResource
      (M.getPartitionKey pk)).run Store.exec s = (.ok (.redisKv, cached), s) := by
    rw [run_decideStorageSchemeForMutateOperation]
    rcases h with h | ⟨h, row, e, hrow, he⟩
    · exact ⟨none, by rw [h]⟩
    · exact ⟨some e, by simp [h, hrow, he]⟩
  obtain ⟨cached, hdecide⟩ := hdecide
  simp [deleteResourceByIdInner, Prog.run_andThen, hdecide, hM.generateDeleteDrainerQuery_eq,
    mapKvError, Prog.run_mapResult, run_kvWrapper_hDel, mapRedisError, mapUnexpected,
    KvResult.tryIntoHdel, Store.erase]

/-- A delete that goes to Postgres. -/
theorem run_deleteResourceByIdInner_postgresOnly (pk : M.PrimaryKeyType)
    (h : s.mode = .disabled ∨ s.mode = .softKill ∧ s.cached (M.getPartitionKey pk) = none) :
    (deleteResourceByIdInner ctx M pk).run Store.exec s =
      (M.storageDelete pk).run Store.exec s := by
  have hdecide : (decideStorageSchemeForMutateOperation ctx M.toKvResource
      (M.getPartitionKey pk)).run Store.exec s = (.ok (.postgresOnly, none), s) := by
    rw [run_decideStorageSchemeForMutateOperation]
    rcases h with h | ⟨h, hnone⟩
    · rw [h]
    · simp [h, hnone]
  simp [deleteResourceByIdInner, Prog.run_andThen, hdecide]

/-- A delete answers a count, whichever way it goes. -/
theorem run_deleteResourceByIdInner (hM : M.Spec) (hs : s.WellFormed ctx) (pk : M.PrimaryKeyType) :
    ∃ count, (deleteResourceByIdInner ctx M pk).run Store.exec s =
      (.ok count, s.remove ctx (M.getPartitionKey pk)
        ⟨hM.deleteStatement pk, M.resource.entityType, .delete⟩) := by
  unfold Store.remove
  split_ifs with h
  · refine ⟨_, run_deleteResourceByIdInner_redisKv ctx s hM pk (h.imp_right fun h => ⟨h.1, ?_⟩)⟩
    obtain ⟨row, hrow⟩ := Option.isSome_iff_exists.1 h.2
    obtain ⟨e, _, he⟩ := hM.toSpec.exists_cached ctx hs (hM.getPartitionKey_resource pk) hrow
    exact ⟨row, e, hrow, he⟩
  · obtain ⟨count, hrun⟩ := hM.run_storageDelete pk s
    refine ⟨count, (run_deleteResourceByIdInner_postgresOnly ctx s pk ?_).trans hrun⟩
    simp only [Store.ThroughRedis, not_or, not_and, Option.not_isSome_iff_eq_none] at h
    cases hmode : s.mode with
    | disabled => exact Or.inl rfl
    | enabled => exact absurd hmode h.1
    | softKill => exact Or.inr ⟨rfl, h.2 hmode⟩

end Delete

/-! ### Updates -/

section Update

variable (ctx : KvStoreContext) (s : Store) {M : KvUpdatableResource}

/-- An update that goes through Redis: the visible row, changed, is written back
    whatever Redis holds by then. -/
theorem run_updateResourceById_redisKv (hM : M.Spec) (update : M.DieselUpdate)
    (pk : M.PrimaryKeyType)
    (h : s.mode = .enabled ∨ s.mode = .softKill ∧
      ∃ row e, s.cached (M.getPartitionKey pk) = some row ∧ M.deserialize row = some e) :
    (updateResourceById ctx M update pk).run Store.exec s =
      match M.answer (s.visible (M.getPartitionKey pk)) with
      | .error e => (.error e, s)
      | .ok current =>
        (.ok (M.intoModel (M.applyUpdate (M.setUpdateStorageScheme update .redisKv) current)),
          s.write ctx (M.getPartitionKey pk)
            (M.serialize (M.applyUpdate (M.setUpdateStorageScheme update .redisKv) current))
            ⟨hM.updateStatement (M.setUpdateStorageScheme update .redisKv) pk,
              M.resource.entityType, .update⟩) := by
  have hdecide : ∃ cached, (decideStorageSchemeForMutateOperation ctx M.toKvResource
      (M.getPartitionKey pk)).run Store.exec s = (.ok (.redisKv, cached), s) ∧
      (currentEntity ctx M.toKvResource pk cached).run Store.exec s =
        (M.answer (s.visible (M.getPartitionKey pk)), s) := by
    rw [run_decideStorageSchemeForMutateOperation]
    rcases h with h | ⟨h, row, e, hrow, he⟩
    · exact ⟨none, by rw [h], run_findResourceByIdInner ctx s hM.toSpec pk⟩
    · refine ⟨some e, by simp [h, hrow, he], ?_⟩
      simp [currentEntity, Store.visible, h, hrow, KvResource.answer, he]
  obtain ⟨cached, hdecide, hcurrent⟩ := hdecide
  simp only [updateResourceById, Prog.run_andThen, hdecide, hcurrent]
  cases M.answer (s.visible (M.getPartitionKey pk)) with
  | error e => rfl
  | ok current =>
    simp [hM.generateUpdateDrainerQuery_eq, mapKvError, Prog.run_mapResult, run_kvWrapper_hset,
      mapRedisError, mapUnexpected, KvResult.tryIntoHset, Store.write]

/-- An update that goes to Postgres. -/
theorem run_updateResourceById_postgresOnly (update : M.DieselUpdate) (pk : M.PrimaryKeyType)
    (h : s.mode = .disabled ∨ s.mode = .softKill ∧ s.cached (M.getPartitionKey pk) = none) :
    (updateResourceById ctx M update pk).run Store.exec s =
      (M.storageUpdate (M.setUpdateStorageScheme update .postgresOnly) pk).run Store.exec s := by
  have hdecide : (decideStorageSchemeForMutateOperation ctx M.toKvResource
      (M.getPartitionKey pk)).run Store.exec s = (.ok (.postgresOnly, none), s) := by
    rw [run_decideStorageSchemeForMutateOperation]
    rcases h with h | ⟨h, hnone⟩
    · rw [h]
    · simp [h, hnone]
  simp [updateResourceById, Prog.run_andThen, hdecide]

end Update

/-! ## Commands issued -/

section Obeys

variable (ctx : KvStoreContext)

theorem obeys_kvSettings : Obeys ctx kvSettings fun _ => True :=
  Obeys.mapResult ⟨trivial, fun _ _ _ => trivial⟩

/-- The rows a find or a mode decision reads at a key have the key's text. -/
def KvResource.At (M : KvResource) (key : PartitionKey) (e : M.DieselEntity) : Prop :=
  (M.serialize e).partitionKey.display = key.display

theorem obeys_hGet {M : KvResource} (hM : M.Spec) (key : PartitionKey) :
    Obeys ctx ((kvWrapper ctx M.deserialize (.hGet key.display) key).mapResult
      (hGetResult (E := M.Error) key.display))
      fun reply => ∀ found, reply = .ok found → ∀ e, found = some e → M.At key e := by
  refine Obeys.mapResult (obeys_kvWrapper_hGet.mono fun reply hreply found hfound e he => ?_)
  subst he
  cases reply with
  | error err => cases err <;> cases hfound
  | ok result =>
    cases result with
    | hGet v =>
      cases hfound
      obtain ⟨row, hrow, hkey⟩ := hreply _ rfl
      rw [KvResource.At, hM.serialize_of_deserialize row _ hrow, hkey]
    | hset => cases hfound
    | hSetNx => cases hfound
    | hDel => cases hfound

theorem obeys_decideStorageSchemeForMutateOperation {M : KvResource} (hM : M.Spec)
    (key : PartitionKey) :
    Obeys ctx (decideStorageSchemeForMutateOperation ctx M key)
      fun reply => ∀ decision, reply = .ok decision → ∀ e, decision.2 = some e → M.At key e := by
  refine Obeys.bind (obeys_kvSettings ctx) fun state _ => ?_
  cases state with
  | disabled => exact fun _ h e he => by cases h; cases he
  | enabled => exact fun _ h e he => by cases h; cases he
  | softKill =>
    refine Obeys.andThen (obeys_hGet ctx hM key) (fun _ _ h => nomatch h) fun found hfound => ?_
    cases found with
    | none => exact fun _ h e he => by cases h; cases he
    | some v => exact fun _ h e he => by cases h; exact hfound e he

theorem obeys_findResourceByIdInner {M : KvResource} (hM : M.Spec) (pk : M.PrimaryKeyType) :
    Obeys ctx (findResourceByIdInner ctx M pk)
      fun reply => ∀ e, reply = .ok e → M.At (M.getPartitionKey pk) e := by
  have hfind : Obeys ctx (M.storageFind pk)
      fun reply => ∀ e, reply = .ok e → M.At (M.getPartitionKey pk) e :=
    (hM.obeys_storageFind ctx pk).mono fun reply hreply e he => congrArg _ (hreply e he)
  refine Obeys.bind (Q := fun _ => True) (Obeys.mapResult (obeys_kvSettings ctx)) fun scheme _ => ?_
  cases scheme with
  | postgresOnly => exact hfind
  | redisKv =>
    refine Obeys.andThen (obeys_hGet ctx hM _) (fun _ _ h => nomatch h) fun found hfound => ?_
    cases found with
    | none => exact hfind
    | some v => exact fun e he => by cases he; exact hfound _ rfl

theorem obeys_findResourceById {M : KvResource} (hM : M.Spec) (pk : M.PrimaryKeyType) :
    Obeys ctx (findResourceById ctx M pk) fun _ => True :=
  Obeys.mapResult ((obeys_findResourceByIdInner ctx hM pk).mono fun _ _ => trivial)

theorem obeys_findOptionalResourceById {M : KvResource} (hM : M.Spec) (pk : M.PrimaryKeyType) :
    Obeys ctx (findOptionalResourceById ctx M pk) fun _ => True :=
  Obeys.mapResult (obeys_findResourceById ctx hM pk)

/-- The query of an INSERT is about the key of its record. -/
theorem KvResource.Spec.insertQuery_ok {M : KvResource} (hM : M.Spec) (new : M.DieselNew)
    (entityType : String) (operation : DatabaseOperation) :
    SerializableQuery.Ok ⟨hM.insertStatement new, entityType, operation⟩
      (hM.insertStatement new).partitionKey where
  partitionKey := rfl
  updatedBy pk update h := by
    obtain ⟨mk, hmk, _⟩ := hM.insertStatement_effect new
    simp only at h
    rw [h] at hmk
    cases hmk

theorem obeys_insertResourceInner {M : KvResource} (hM : M.Spec) (new : M.DieselNew)
    {key : PartitionKey} (hkey : (hM.insertStatement new).partitionKey = key)
    {insertLookup : M.DieselNew → StorageScheme → App (Except M.Error Unit)}
    (hlookup : Obeys ctx (insertLookup (M.setStorageScheme new .redisKv) .redisKv) fun _ => True) :
    Obeys ctx (insertResourceInner ctx M new key insertLookup) fun _ => True := by
  refine Obeys.bind (Q := fun _ => True) (Obeys.mapResult (obeys_kvSettings ctx)) fun scheme _ => ?_
  cases scheme with
  | postgresOnly => exact hM.obeys_storageInsert ctx _
  | redisKv =>
    have hkey' : (hM.insertStatement (M.setStorageScheme new .redisKv)).partitionKey = key :=
      (hM.insertStatement_setStorageScheme new .redisKv).trans hkey
    have hvalue : (M.serialize (M.intoEntity (M.setStorageScheme new .redisKv))).partitionKey =
        key := (hM.insertStatement_partitionKey _).symm.trans hkey'
    simp only [hM.generateInsertDrainerQuery_eq, mapKvError, Prog.pure_ok_andThen]
    refine Obeys.andThen (hlookup.mono fun _ _ _ _ => trivial) (fun _ => trivial) fun _ _ => ?_
    refine Obeys.andThen (Q := fun _ => True) (Obeys.mapResult
      ((obeys_kvWrapper_hSetNx (by rw [hvalue]) ?_).mono fun _ _ _ _ => trivial))
      (fun _ => trivial) fun reply _ => ?_
    · have hquery := hM.insertQuery_ok (M.setStorageScheme new .redisKv) M.resource.entityType
        .insert
      rwa [hkey'] at hquery
    · refine Obeys.andThen (Q := fun _ => True) (Obeys.pure fun _ _ => trivial) (fun _ => trivial)
        fun reply _ => ?_
      cases reply <;> trivial

theorem obeys_insertResource {M : KvResource} (hM : M.Spec) (new : M.DieselNew)
    {key : PartitionKey} (hkey : (hM.insertStatement new).partitionKey = key) :
    Obeys ctx (insertResource ctx M new key) fun _ => True :=
  Obeys.mapResult (obeys_insertResourceInner ctx hM new hkey (Obeys.pure trivial))

theorem obeys_updateResourceById {M : KvUpdatableResource} (hM : M.Spec)
    (update : M.DieselUpdate) (pk : M.PrimaryKeyType) :
    Obeys ctx (updateResourceById ctx M update pk) fun _ => True := by
  refine Obeys.andThen (obeys_decideStorageSchemeForMutateOperation ctx hM.toSpec _)
    (fun _ => trivial) fun decision hdecision => ?_
  obtain ⟨scheme, cached⟩ := decision
  cases scheme with
  | postgresOnly => exact hM.obeys_storageUpdate ctx _ pk
  | redisKv =>
    have hcurrent : Obeys ctx (currentEntity ctx M.toKvResource pk cached)
        fun reply => ∀ e, reply = .ok e → M.At (M.getPartitionKey pk) e := by
      cases cached with
      | none => exact obeys_findResourceByIdInner ctx hM.toSpec pk
      | some v => exact fun e he => by cases he; exact hdecision v rfl
    refine Obeys.andThen hcurrent (fun _ => trivial) fun current hat => ?_
    simp only [hM.generateUpdateDrainerQuery_eq, mapKvError, Prog.pure_ok_andThen]
    refine Obeys.andThen (Q := fun _ => True) (Obeys.mapResult
      ((obeys_kvWrapper_hset ?_ ?_).mono fun _ _ _ _ => trivial)) (fun _ => trivial)
      fun reply _ => ?_
    · rw [hM.serialize_applyUpdate]
      exact hat
    · exact ⟨hM.updateStatement_partitionKey _ pk, hM.updateStatement_updatedBy update pk⟩
    · exact Obeys.andThen (Q := fun _ => True) (Obeys.pure fun _ _ => trivial) (fun _ => trivial)
        fun _ _ => trivial

theorem obeys_deleteResourceByIdInner {M : KvDeletableResource} (hM : M.Spec)
    (pk : M.PrimaryKeyType) : Obeys ctx (deleteResourceByIdInner ctx M pk) fun _ => True := by
  refine Obeys.andThen (obeys_decideStorageSchemeForMutateOperation ctx hM.toSpec _)
    (fun _ => trivial) fun decision _ => ?_
  obtain ⟨scheme, cached⟩ := decision
  cases scheme with
  | postgresOnly => exact hM.obeys_storageDelete ctx pk
  | redisKv =>
    simp only [hM.generateDeleteDrainerQuery_eq, mapKvError, Prog.pure_ok_andThen]
    refine Obeys.andThen (Q := fun _ => True) (Obeys.mapResult
      ((obeys_kvWrapper_hDel ?_).mono fun _ _ _ _ => trivial)) (fun _ => trivial)
      fun _ _ => Obeys.pure trivial
    refine ⟨hM.deleteStatement_partitionKey pk, fun vaultPk update h => ?_⟩
    have heffect := hM.deleteStatement_effect pk
    simp only at h
    rw [h] at heffect
    cases heffect

end Obeys

end CardVault
