import CardVault.Lib.Plans
import CardVault.Settle
import CardVault.Storage.Db

/-!
# What calls write

Between the reads of a call lie the few commands that change the store. For the
operations of the KV layer and the helpers built on them, this module says which
commands these are and in which order they come, whatever happens in between.

Main results:

* `exec_quiet`: a quiet command leaves the store as it is.
* `writes_kvWrapper_hset`, `writes_kvWrapper_hDel`: Redis first, then the entry
  for the drainer.
* `writes_updateResourceById`, `writes_deleteResourceByIdInner`: an update and a
  delete, in any mode.
-/

namespace CardVault

open Interaction

/-! ## Reads and writes -/

/-- A command that changes nothing, as its reply tells: a read, or an `HSETNX`
    of a field that is set. -/
def Cmd.quiet : (c : Cmd) → Reply c → Bool
  | .runtimeConfig, _ | .hasReplica, _ | .getConn _, _ | .getRedisConn, _ => true
  | .query _ (.execute _), _ => false
  | .query .., _ => true
  | .setHashFields .., _ => false
  | .setHashFieldIfNotExist .., reply =>
    match (reply : Except RedisError HsetnxReply) with
    | .ok .keySet => false
    | _ => true
  | .getHashField .., _ => true
  | .deleteHashFields .., _ | .streamAppendEntry .., _ => false
  | .lookupFingerprint _, _ | .lookupHashTable _, _ => true
  | .cacheFingerprint .., _ | .cacheHashTable .., _ => false

/-- `HSET`. -/
def Cmd.isHset : Cmd → Bool
  | .setHashFields .. => true
  | _ => false

/-- An append to a stream. -/
def Cmd.isAppend : Cmd → Bool
  | .streamAppendEntry .. => true
  | _ => false

/-- What replies tell where the KV mode stays `mode`. -/
def Cmd.Answers (mode : KvState) : (c : Cmd) → Reply c → Prop
  | .runtimeConfig, reply => ∀ s : Store, s.runtimeConfig = reply → s.mode = mode
  | _, _ => True

/-- A program that writes nothing. -/
abbrev Reads {α : Type} (p : App α) : Prop := p.Issues fun c => ∀ reply, c.quiet reply = true

/-- A program that, with `done` behind it, writes what `plan` says. -/
abbrev Writes {α : Type} (mode : KvState) (plan : List Cmd → Prop) (p : App α)
    (Q : α → List Cmd → Prop) (done : List Cmd) : Prop :=
  p.Follows Cmd.quiet (Cmd.Answers mode) plan Q done

/-- A call that succeeds has written a whole list of its plan. -/
def Completes {ε α : Type} (plan : List Cmd → Prop) (reply : Except ε α) (done : List Cmd) :
    Prop := ∀ a, reply = .ok a → plan done

/-- A quiet command leaves the store as it is. -/
theorem exec_quiet {s : Store} {c : Cmd} (h : c.quiet (s.exec c).1 = true) :
    (s.exec c).2 = s := by
  cases c with
  | query pool q =>
    cases q with
    | execute stmt => exact absurd h Bool.false_ne_true
    | _ => rfl
  | setHashFieldIfNotExist key field value ttl =>
    simp only [Store.exec] at h ⊢
    split at h
    · rfl
    · exact absurd h Bool.false_ne_true
  | getHashField key field =>
    simp only [Store.exec]
    split <;> rfl
  | runtimeConfig => rfl
  | hasReplica => rfl
  | getConn => rfl
  | getRedisConn => rfl
  | lookupFingerprint => rfl
  | lookupHashTable => rfl
  | _ => exact absurd h Bool.false_ne_true

/-- What Redis holds for a key stays, unless it is overwritten or taken away. -/
theorem cached_exec {s : Store} {key : PartitionKey} {row : Row} (h : s.cached key = some row)
    {c : Cmd} (hloud : c.quiet (s.exec c).1 = false) (hset : c.isHset = false)
    (hdel : ∀ field, c ≠ .deleteHashFields key.display field) :
    (s.exec c).2.cached key = some row := by
  cases c with
  | setHashFields => cases hset
  | setHashFieldIfNotExist k f value ttl =>
    cases hkf : s.redis k f with
    | some row' =>
      -- a field that is set stays as it is
      simp only [Store.exec, hkf] at hloud
      cases hloud
    | none =>
      simp only [Store.exec, hkf]
      refine (if_neg fun hk => ?_ : _).trans h
      obtain ⟨rfl, rfl⟩ := hk
      cases hkf.symm.trans h
  | deleteHashFields k f =>
    refine (if_neg fun hk => ?_ : _).trans h
    exact hdel f (by rw [hk.1])
  | getHashField k f =>
    simp only [Store.exec]
    split <;> exact h
  | _ => exact h

/-- An `HSETNX` that is not quiet sets the field. -/
theorem cached_exec_setNx {s : Store} {key : PartitionKey} {row : Row} {ttl : ℕ}
    (hloud : (Cmd.setHashFieldIfNotExist key.display key.display row ttl).quiet
      (s.exec (.setHashFieldIfNotExist key.display key.display row ttl)).1 = false) :
    (s.exec (.setHashFieldIfNotExist key.display key.display row ttl)).2.cached key =
      some row := by
  cases h : s.cached key with
  | some row' =>
    rw [Store.exec_setHashFieldIfNotExist_some h] at hloud
    cases hloud
  | none =>
    rw [Store.exec_setHashFieldIfNotExist_none h]
    exact Redis.setField_self ..

/-- The store answers with its mode. -/
theorem exec_answers (s : Store) (c : Cmd) : c.Answers s.mode (s.exec c).1 := by
  cases c with
  | runtimeConfig => exact fun s' h => Store.mode_congr h
  | _ => trivial

/-! ## Programs that write nothing -/

section Reads

variable {E : Type} [StorageErrorExt E] (ctx : KvStoreContext)

theorem reads_perform {c : Cmd} (h : ∀ reply, c.quiet reply = true) :
    Reads (Prog.perform c : App (Reply c)) := Prog.issues_perform h

theorem reads_getRedisConn : Reads getRedisConn := reads_perform fun _ => rfl

theorem reads_kvSettings : Reads kvSettings := Prog.Issues.mapResult (reads_perform fun _ => rfl)

theorem reads_getConn : Reads (getConn : App (Except E DbPool)) :=
  Prog.Issues.mapResult (reads_perform fun _ => rfl)

/-- Choosing a pool writes nothing. -/
theorem reads_routeConn : Reads (routeConn : App (Except E DbPool)) := by
  have hreplica : Reads (getReplicaConn : App (Except E DbPool)) := by
    refine Prog.Issues.bind (reads_perform fun _ => rfl) fun hasReplica => ?_
    cases hasReplica with
    | true => exact Prog.Issues.mapResult (reads_perform fun _ => rfl)
    | false => trivial
  have hchoose : Reads shouldUseReplica := by
    refine Prog.Issues.bind (reads_perform fun _ => rfl) fun hasReplica => ?_
    cases hasReplica with
    | true => exact Prog.Issues.mapResult (reads_perform fun _ => rfl)
    | false => trivial
  refine Prog.Issues.bind hchoose fun use => ?_
  cases use with
  | true => exact hreplica
  | false => exact reads_getConn

theorem reads_runQuery (pool : DbPool) {q : Query} (hq : ∀ stmt, q ≠ .execute stmt) :
    Reads (runQuery pool q : App (Except E q.Output)) := by
  refine Prog.Issues.mapResult (reads_perform fun reply => ?_)
  cases q with
  | execute stmt => exact absurd rfl (hq stmt)
  | _ => rfl

theorem reads_findOnRouted {q : Query} (hq : ∀ stmt, q ≠ .execute stmt) :
    Reads (findOnRouted E q) :=
  Prog.Issues.andThen reads_routeConn fun pool => reads_runQuery pool hq

theorem reads_findOnPrimary {q : Query} (hq : ∀ stmt, q ≠ .execute stmt) :
    Reads (findOnPrimary E q) :=
  Prog.Issues.andThen reads_getConn fun pool => reads_runQuery pool hq

theorem reads_kvWrapper_hGet {T : Type} (deserialize : Row → Option T) (field : String)
    (partitionKey : PartitionKey) :
    Reads (kvWrapper ctx deserialize (.hGet field) partitionKey) :=
  Prog.Issues.andThen reads_getRedisConn fun _ =>
    Prog.Issues.andThen (Prog.Issues.mapResult (Prog.Issues.mapResult
      (reads_perform fun _ => rfl))) fun _ => trivial

variable {M : KvResource}

/-- Deciding between Redis and Postgres writes nothing. -/
theorem reads_decideStorageSchemeForMutateOperation (key : PartitionKey) :
    Reads (decideStorageSchemeForMutateOperation ctx M key) := by
  refine Prog.Issues.bind reads_kvSettings fun mode => ?_
  cases mode with
  | softKill =>
    refine Prog.Issues.andThen (Prog.Issues.mapResult (reads_kvWrapper_hGet ctx _ _ _))
      fun found => ?_
    cases found <;> trivial
  | disabled | enabled => trivial

theorem reads_findResourceByIdInner (hfind : ∀ pk, Reads (M.storageFind pk))
    (pk : M.PrimaryKeyType) : Reads (findResourceByIdInner ctx M pk) := by
  refine Prog.Issues.bind (Prog.Issues.mapResult reads_kvSettings) fun scheme => ?_
  cases scheme with
  | postgresOnly => exact hfind pk
  | redisKv =>
    refine Prog.Issues.andThen (Prog.Issues.mapResult (reads_kvWrapper_hGet ctx _ _ _))
      fun found => ?_
    cases found with
    | some v => trivial
    | none => exact hfind pk

theorem reads_findResourceById (hfind : ∀ pk, Reads (M.storageFind pk))
    (pk : M.PrimaryKeyType) : Reads (findResourceById ctx M pk) :=
  Prog.Issues.mapResult (reads_findResourceByIdInner ctx hfind pk)

theorem reads_findVault (pk : Vault.kvResource.PrimaryKeyType) :
    Reads (Vault.kvResource.storageFind pk) := reads_findOnRouted fun _ => Query.noConfusion

theorem reads_findLocker (pk : Locker.kvResource.PrimaryKeyType) :
    Reads (Locker.kvResource.storageFind pk) := reads_findOnRouted fun _ => Query.noConfusion

theorem reads_findReverseLookup (pk : ReverseLookup.kvResource.PrimaryKeyType) :
    Reads (ReverseLookup.kvResource.storageFind pk) :=
  reads_findOnPrimary fun _ => Query.noConfusion

end Reads

/-! ## The operations of the KV layer -/

/-- The entry that an operation on `key` queues. -/
def entryOf (key : PartitionKey) (query : SerializableQuery) : DrainerEntry :=
  ⟨query, key.display⟩

section Pairs

variable (ctx : KvStoreContext) (key : PartitionKey) (value : Row) (query : SerializableQuery)

/-- The entry goes to the stream of the key. -/
def queueEntry : Cmd := .streamAppendEntry (ctx.stream key) (entryOf key query)

/-- The two writes of an `HSET`. -/
def setAndQueue : List Cmd :=
  [.setHashFields key.display key.display value ctx.kvConfig.ttlForKv, queueEntry ctx key query]

/-- The two writes of an `HSETNX` that sets the field. -/
def setNxAndQueue : List Cmd :=
  [.setHashFieldIfNotExist key.display key.display value ctx.kvConfig.ttlForKv,
    queueEntry ctx key query]

/-- The two writes of an `HDEL`. -/
def deleteAndQueue : List Cmd :=
  [.deleteHashFields key.display key.display, queueEntry ctx key query]

end Pairs

section Inserts

variable (ctx : KvStoreContext) (new : LockerNew)

/-- The locker that an insert writes. -/
def LockerNew.redisRow (new : LockerNew) : LockerInner :=
  { new with updatedBy := some .redisKv }.toLockerInner

/-- The query of the lookup record. -/
def LockerNew.lookupQuery (new : LockerNew) : SerializableQuery :=
  ⟨.insertReverseLookup new.lookup, Resource.reverseLookup.entityType, .insert⟩

/-- The query of the row. -/
def LockerNew.lockerQuery (new : LockerNew) : SerializableQuery :=
  ⟨.insertLocker { new with updatedBy := some .redisKv }, Resource.locker.entityType, .insert⟩

/-- The `HSETNX` of the lookup record. -/
def hsetnxLookup : Cmd :=
  .setHashFieldIfNotExist new.lookupKey.display new.lookupKey.display
    (.reverseLookup new.lookup.toReverseLookup) ctx.kvConfig.ttlForKv

/-- The `HSETNX` of the row. -/
def hsetnxLocker : Cmd :=
  .setHashFieldIfNotExist new.primaryKey.getPartitionKey.display
    new.primaryKey.getPartitionKey.display (.locker new.redisRow) ctx.kvConfig.ttlForKv

end Inserts

section Writes

variable {ctx : KvStoreContext} {mode : KvState} {plan : List Cmd → Prop} {done : List Cmd}

theorem writes_kvSettings {Q : KvState → List Cmd → Prop} (h : Q mode done) :
    Writes mode plan kvSettings Q done := by
  refine Prog.Follows.mapResult ⟨Or.inl fun _ => rfl, fun reply done' hnext => ?_⟩
  obtain ⟨hmode, rfl⟩ := hnext
  have hreply : ({ Store.fresh reply false Pg.empty with } : Store).mode = mode := hmode _ rfl
  cases (reply : Option RuntimeConfigValues) with
  | none => cases hreply; exact h
  | some values => cases hreply; exact h

/-- The entry comes after what Redis holds. -/
theorem writes_pushToDrainerStream {query : SerializableQuery} {key : PartitionKey}
    {rest : List Cmd} (hplan : plan (done ++ queueEntry ctx key query :: rest))
    {Q : Except RedisError Unit → List Cmd → Prop} (herr : ∀ e done', Q (.error e) done')
    (hok : Q (.ok ()) (done ++ [queueEntry ctx key query])) :
    Writes mode plan (pushToDrainerStream ctx query key) Q done := by
  refine Prog.Follows.andThen (Prog.Issues.quietly reads_getRedisConn fun conn => ?_)
  cases conn with
  | error e => exact herr e _
  | ok _ =>
    refine Prog.Follows.mapResult (Prog.follows_loud (fun _ => rfl) hplan fun reply => ?_)
    cases (reply : Except RedisError Unit) with
    | error e => exact herr _ _
    | ok _ => exact hok

section KvWrapper

variable {T : Type} {deserialize : Row → Option T} {key : PartitionKey} {value : Row}
  {query : SerializableQuery} {rest : List Cmd}
  {Q : Except RedisError (KvResult T) → List Cmd → Prop}

theorem writes_kvWrapper_hset (hplan : plan (done ++ (setAndQueue ctx key value query ++ rest)))
    (herr : ∀ e done', Q (.error e) done')
    (hok : Q (.ok .hset) (done ++ setAndQueue ctx key value query)) :
    Writes mode plan (kvWrapper ctx deserialize (.hset key.display value query) key) Q done := by
  refine Prog.Follows.andThen (Prog.Issues.quietly reads_getRedisConn fun conn => ?_)
  cases conn with
  | error e => exact herr e _
  | ok _ =>
    refine Prog.Follows.andThen (Prog.Follows.mapResult
      (Prog.follows_loud (fun _ => rfl) hplan fun reply => ?_))
    cases (reply : Except RedisError Unit) with
    | error e => exact herr _ _
    | ok _ =>
      rw [setAndQueue, List.append_cons] at hok
      rw [setAndQueue, List.cons_append, List.append_cons] at hplan
      refine Prog.Follows.andThen (writes_pushToDrainerStream hplan (fun e _ => herr e _) hok)

theorem writes_kvWrapper_hDel (hplan : plan (done ++ (deleteAndQueue ctx key query ++ rest)))
    (herr : ∀ e done', Q (.error e) done')
    (hok : ∀ count, Q (.ok (.hDel count)) (done ++ deleteAndQueue ctx key query)) :
    Writes mode plan (kvWrapper ctx deserialize (.hDel key.display query) key) Q done := by
  refine Prog.Follows.andThen (Prog.Issues.quietly reads_getRedisConn fun conn => ?_)
  cases conn with
  | error e => exact herr e _
  | ok _ =>
    refine Prog.Follows.andThen (Prog.Follows.mapResult
      (Prog.follows_loud (fun _ => rfl) hplan fun reply => ?_))
    cases (reply : Except RedisError ℕ) with
    | error e => exact herr _ _
    | ok count =>
      have hok := hok count
      rw [deleteAndQueue, List.append_cons] at hok
      rw [deleteAndQueue, List.cons_append, List.append_cons] at hplan
      refine Prog.Follows.andThen (writes_pushToDrainerStream hplan (fun e _ => herr e _) hok)

/-- An `HSETNX` that finds the field set writes nothing. -/
theorem writes_kvWrapper_hSetNx
    (hplan : plan (done ++ (setNxAndQueue ctx key value query ++ rest)))
    (herr : ∀ e done', Q (.error e) done') (hnotSet : Q (.ok (.hSetNx .keyNotSet)) done)
    (hset : Q (.ok (.hSetNx .keySet)) (done ++ setNxAndQueue ctx key value query)) :
    Writes mode plan (kvWrapper ctx deserialize (.hSetNx key.display value query) key) Q done := by
  refine Prog.Follows.andThen (Prog.Issues.quietly reads_getRedisConn fun conn => ?_)
  cases conn with
  | error e => exact herr e _
  | ok _ =>
    refine Prog.Follows.andThen (Prog.Follows.mapResult
      (Prog.follows_perform hplan fun reply _ => ?_))
    cases (reply : Except RedisError HsetnxReply) with
    | error e => exact herr _ _
    | ok setnx =>
      cases setnx with
      | keyNotSet => exact hnotSet
      | keySet =>
        rw [setNxAndQueue, List.append_cons] at hset
        rw [setNxAndQueue, List.cons_append, List.append_cons] at hplan
        refine Prog.Follows.andThen (writes_pushToDrainerStream hplan (fun e _ => herr e _) hset)

end KvWrapper

/-- A statement that runs at once. -/
theorem writes_executeOnPrimary {E : Type} [StorageErrorExt E] {stmt : Statement}
    {rest : List Cmd} (hplan : plan (done ++ .query .primary (.execute stmt) :: rest))
    {Q : Except E stmt.Output → List Cmd → Prop} (herr : ∀ e done', Q (.error e) done')
    (hok : ∀ out, Q (.ok out) (done ++ [.query .primary (.execute stmt)])) :
    Writes mode plan (executeOnPrimary E stmt) Q done := by
  refine Prog.Follows.andThen (Prog.Follows.mapResult
    (Prog.Issues.quietly (reads_perform fun _ => rfl) fun conn => ?_))
  cases (conn : Except Unit Unit) with
  | error e => exact herr _ _
  | ok _ =>
    refine Prog.Follows.mapResult (Prog.follows_loud (fun _ => rfl) hplan fun reply => ?_)
    cases (reply : Except DieselError stmt.Output) with
    | error e => exact herr _ _
    | ok out => exact hok out

/-! ## Inserts, updates and deletes -/

/-- An insert sets the row's field and queues the INSERT, after its lookup record;
    or it leaves the insert to Postgres. -/
theorem writes_insertResourceInner {M : KvResource} (hM : M.Spec) {new : M.DieselNew}
    {key : PartitionKey} {insertLookup : M.DieselNew → StorageScheme → App (Except M.Error Unit)}
    {Q : Except M.Error M.DieselEntity → List Cmd → Prop} (herr : ∀ e done', Q (.error e) done')
    (hkv : mode = .enabled →
      let new' := M.setStorageScheme new .redisKv
      Writes mode plan (insertLookup new' .redisKv) (fun reply done' =>
        let writes := setNxAndQueue ctx key (M.serialize (M.intoEntity new'))
          ⟨hM.insertStatement new', M.resource.entityType, .insert⟩
        reply = .ok () → ∃ rest, plan (done' ++ (writes ++ rest)) ∧
          Q (.ok (M.intoEntity new')) (done' ++ writes)) done)
    (hpg : mode ≠ .enabled →
      Writes mode plan (M.storageInsert (M.setStorageScheme new .postgresOnly)) Q done) :
    Writes mode plan (insertResourceInner ctx M new key insertLookup) Q done := by
  refine Prog.Follows.bind (Prog.Follows.mapResult (writes_kvSettings ?_))
  cases mode with
  | disabled => exact hpg fun h => nomatch h
  | softKill => exact hpg fun h => nomatch h
  | enabled =>
    dsimp only
    rw [hM.generateInsertDrainerQuery_eq, mapKvError, Prog.pure_ok_andThen]
    refine Prog.Follows.andThen ((hkv rfl).mono fun reply done' h => ?_)
    cases reply with
    | error e => exact herr e _
    | ok _ =>
      obtain ⟨rest, hplan, hok⟩ := h rfl
      refine Prog.Follows.andThen (Prog.Follows.mapResult
        (writes_kvWrapper_hSetNx hplan (fun e _ => herr _ _) (herr _ _) ?_))
      exact hok


theorem writes_decideStorageSchemeForMutateOperation {M : KvResource} {key : PartitionKey}
    {Q : Except M.Error (StorageScheme × Option M.DieselEntity) → List Cmd → Prop}
    (herr : ∀ e done', Q (.error e) done')
    (hpg : mode ≠ .enabled → Q (.ok (.postgresOnly, none)) done)
    (hkv : mode ≠ .disabled → ∀ cached, Q (.ok (.redisKv, cached)) done) :
    Writes mode plan (decideStorageSchemeForMutateOperation ctx M key) Q done := by
  refine Prog.Follows.bind (writes_kvSettings ?_)
  cases mode with
  | disabled => exact hpg fun h => nomatch h
  | enabled => exact hkv (fun h => nomatch h) none
  | softKill =>
    refine Prog.Follows.andThen (Prog.Follows.mapResult
      (Prog.Issues.quietly (reads_kvWrapper_hGet ctx _ _ _) fun reply => ?_))
    cases (hGetResult key.display reply : Except M.Error (Option M.DieselEntity)) with
    | error e => exact herr e _
    | ok found =>
      cases found with
      | some v => exact hkv (fun h => nomatch h) (some v)
      | none => exact hpg fun h => nomatch h

/-- An update writes the row it has read, changed, and queues the UPDATE; or it
    leaves the update to Postgres. -/
theorem writes_updateResourceById {M : KvUpdatableResource} (hM : M.Spec)
    (hfind : ∀ pk, Reads (M.storageFind pk)) {update : M.DieselUpdate} {pk : M.PrimaryKeyType}
    {Q : Except M.Error M.Model → List Cmd → Prop} (herr : ∀ e done', Q (.error e) done')
    (hkv : mode ≠ .disabled → ∀ current,
      let writes := setAndQueue ctx (M.getPartitionKey pk)
        (M.serialize (M.applyUpdate (M.setUpdateStorageScheme update .redisKv) current))
        ⟨hM.updateStatement (M.setUpdateStorageScheme update .redisKv) pk, M.resource.entityType,
          .update⟩
      plan (done ++ writes) ∧ ∀ model, Q (.ok model) (done ++ writes))
    (hpg : mode ≠ .enabled →
      Writes mode plan (M.storageUpdate (M.setUpdateStorageScheme update .postgresOnly) pk) Q
        done) :
    Writes mode plan (updateResourceById ctx M update pk) Q done := by
  refine Prog.Follows.andThen (writes_decideStorageSchemeForMutateOperation herr hpg ?_)
  intro hmode cached
  have hcurrent : Reads (currentEntity ctx M.toKvResource pk cached) := by
    cases cached with
    | some resource => trivial
    | none => exact reads_findResourceByIdInner ctx hfind pk
  refine Prog.Follows.andThen (Prog.Issues.quietly hcurrent fun current => ?_)
  cases current with
  | error e => exact herr e _
  | ok current =>
    obtain ⟨hplan, hok⟩ := hkv hmode current
    rw [← List.append_nil (setAndQueue ..)] at hplan
    simp only [hM.generateUpdateDrainerQuery_eq, mapKvError, Prog.pure_ok_andThen]
    refine Prog.Follows.andThen (Prog.Follows.mapResult
      (writes_kvWrapper_hset hplan (fun e _ => herr _ _) ?_))
    exact hok _

/-- A delete takes the row from Redis and queues the DELETE, or leaves the delete
    to Postgres. -/
theorem writes_deleteResourceByIdInner {M : KvDeletableResource} (hM : M.Spec)
    (rest : List Cmd) {pk : M.PrimaryKeyType} {Q : Except M.Error ℕ → List Cmd → Prop}
    (herr : ∀ e done', Q (.error e) done')
    (hkv : mode ≠ .disabled →
      let writes := deleteAndQueue ctx (M.getPartitionKey pk)
        ⟨hM.deleteStatement pk, M.resource.entityType, .delete⟩
      plan (done ++ (writes ++ rest)) ∧ ∀ count, Q (.ok count) (done ++ writes))
    (hpg : mode ≠ .enabled → Writes mode plan (M.storageDelete pk) Q done) :
    Writes mode plan (deleteResourceByIdInner ctx M pk) Q done := by
  refine Prog.Follows.andThen (writes_decideStorageSchemeForMutateOperation herr hpg ?_)
  intro hmode cached
  obtain ⟨hplan, hok⟩ := hkv hmode
  simp only [hM.generateDeleteDrainerQuery_eq, mapKvError, Prog.pure_ok_andThen]
  refine Prog.Follows.andThen (Prog.Follows.mapResult
    (writes_kvWrapper_hDel hplan (fun e _ => herr _ _) fun count => ?_))
  exact hok count

end Writes

/-! ## Pools of calls -/

section Running

variable {ι α : Type} [DecidableEq ι] {ctx : KvStoreContext} {mode : KvState}
  {plan : ι → List Cmd → Prop} {Q : ι → α → List Cmd → Prop} {p : Pool Store ι Cmd Reply α}
  {done : ι → List Cmd}

/-- Calls in the middle of their runs, over a well-formed store. -/
structure Running (ctx : KvStoreContext) (mode : KvState) (plan : ι → List Cmd → Prop)
    (Q : ι → α → List Cmd → Prop) (p : Pool Store ι Cmd Reply α) (done : ι → List Cmd) :
    Prop where
  wellFormed : p.store.WellFormed ctx
  mode_eq : p.store.mode = mode
  obeys : ∀ i, Obeys ctx (p.threads i) fun _ => True
  follows : p.Follows Cmd.quiet (Cmd.Answers mode) plan Q done

theorem exec_runtimeConfig (s : Store) (c : Cmd) :
    (s.exec c).2.runtimeConfig = s.runtimeConfig := by
  cases c <;> simp only [Store.exec] <;> split <;> rfl

/-- What a turn does: the environment takes a step, nothing is written, or a call
    issues the next write of its plan. -/
theorem Running.step (h : Running ctx mode plan Q p done) (turn : Turn ι EnvStep) :
    (∃ e, turn = .env e ∧
        (p.step Store.exec (Store.envStep ctx) turn).store = p.store.envStep ctx e ∧
        (p.step Store.exec (Store.envStep ctx) turn).history = p.history ∧
        Running ctx mode plan Q (p.step Store.exec (Store.envStep ctx) turn) done) ∨
      ((p.step Store.exec (Store.envStep ctx) turn).store = p.store ∧
        ((p.step Store.exec (Store.envStep ctx) turn).history = p.history ∨
          ∃ i c, (p.step Store.exec (Store.envStep ctx) turn).history = (i, c) :: p.history ∧
            c.quiet (p.store.exec c).1 = true) ∧
        Running ctx mode plan Q (p.step Store.exec (Store.envStep ctx) turn) done) ∨
      ∃ i c rest, turn = .thread i ∧ p.nextCommand i = some c ∧
        c.quiet (p.store.exec c).1 = false ∧ plan i (done i ++ c :: rest) ∧
        (p.step Store.exec (Store.envStep ctx) turn).store = (p.store.exec c).2 ∧
        (p.step Store.exec (Store.envStep ctx) turn).history = (i, c) :: p.history ∧
        Running ctx mode plan Q (p.step Store.exec (Store.envStep ctx) turn)
          (Function.update done i (done i ++ [c])) := by
  cases turn with
  | env e =>
    refine Or.inl ⟨e, rfl, rfl, rfl, Store.envStep_wellFormed h.wellFormed e, ?_, h.obeys, ?_⟩
    · exact (Store.mode_congr (Store.envStep_runtimeConfig _ _)).trans h.mode_eq
    · exact ⟨h.follows.threads, h.follows.issued, h.follows.noted⟩
  | thread i =>
    refine Or.inr ?_
    cases hi : p.threads i with
    | pure a =>
      rw [Pool.step_ended hi]
      exact Or.inl ⟨rfl, Or.inl rfl, h⟩
    | call c k =>
      obtain ⟨hc, hk⟩ := Pool.wp_step (p := p) hi (h.obeys i)
      obtain ⟨hreply, hwellFormed⟩ := Store.exec_wellFormed h.wellFormed hc
      have hanswers : c.Answers mode (p.store.exec c).1 := h.mode_eq ▸ exec_answers p.store c
      obtain ⟨hallowed, hfollows⟩ := h.follows.step (Store.envStep ctx) hi hanswers
      have hrunning : Running ctx mode plan Q
          (p.step Store.exec (Store.envStep ctx) (.thread i : Turn ι EnvStep))
          (Function.update done i (Prog.note Cmd.quiet (done i) c (p.store.exec c).1)) := by
        refine ⟨?_, ?_, fun j => ?_, hfollows⟩
        · rwa [Pool.step_thread hi]
        · rw [Pool.step_thread hi]
          exact (Store.mode_congr (exec_runtimeConfig _ _)).trans h.mode_eq
        · rw [Pool.step_thread hi]
          by_cases hj : j = i
          · subst hj
            simp only [Function.update_self]
            exact hk () hreply
          · simp only [Function.update_of_ne hj]
            exact h.obeys j
      cases hquiet : c.quiet (p.store.exec c).1 with
      | true =>
        rw [Prog.note, if_pos hquiet, Function.update_eq_self] at hrunning
        refine Or.inl ⟨?_, Or.inr ⟨i, c, ?_, hquiet⟩, hrunning⟩
        · rw [Pool.step_thread hi]
          exact exec_quiet hquiet
        · rw [Pool.step_thread hi]
      | false =>
        rw [Prog.note, if_neg (by rw [hquiet]; exact Bool.false_ne_true)] at hrunning
        rcases hallowed with hall | ⟨rest, hrest⟩
        · rw [hall] at hquiet
          cases hquiet
        · refine Or.inr ⟨i, c, rest, rfl, ?_, hquiet, hrest, ?_, ?_, hrunning⟩
          · simp only [Pool.nextCommand, hi]
          · rw [Pool.step_thread hi]
          · rw [Pool.step_thread hi]

end Running

end CardVault
