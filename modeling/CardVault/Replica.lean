import CardVault.Domain

/-!
# Reads on a lagging replica

The store with a read replica of its own. What the replica shows is left open: the
`n`-th read on it shows `lag n`, so the replica may move on between two reads of
one call.

Main results:
* `Replicated.run_primary`: a program that leaves the replica alone runs as on
  the store.
* `Replicated.run_findResourceByIdInner`: a find answers what Redis holds, or
  what the pool it is routed to shows.
-/

namespace CardVault

open Interaction

/-- The store and what the replica shows, read by read. -/
structure Replicated where
  store : Store
  lag : ℕ → Pg

namespace Replicated

/-- The replica has answered a read. -/
def next (u : Replicated) : Replicated := { u with lag := fun n => u.lag (n + 1) }

/-- Answer one call. The replica takes no statements. -/
def exec (u : Replicated) : (c : Cmd) → Reply c × Replicated
  | .query .replica (.execute _) => (.error .other, u)
  | .query .replica q => (((u.lag 0).query q).1, u.next)
  | c => ((u.store.exec c).1, { u with store := (u.store.exec c).2 })

/-- `Storage::should_use_replica`. -/
def usesReplica (u : Replicated) : Bool :=
  u.store.hasReplica && (u.store.runtimeConfig.map RuntimeConfigValues.useReplica).getD false

/-- What the next routed read is answered from. -/
def readPg (u : Replicated) : Pg := if u.usesReplica then u.lag 0 else u.store.pg

/-- A routed read has been answered. -/
def afterRead (u : Replicated) : Replicated := if u.usesReplica then u.next else u

/-! ## Programs that leave the replica alone -/

/-- The call is not one on the replica. -/
def OnPrimary (c : Cmd) : Prop := ∀ q, c ≠ .query .replica q

theorem exec_onPrimary (u : Replicated) {c : Cmd} (h : OnPrimary c) :
    u.exec c = ((u.store.exec c).1, { u with store := (u.store.exec c).2 }) := by
  cases c with
  | query pool q =>
    cases pool with
    | primary => rfl
    | replica => exact absurd rfl (h q)
  | _ => rfl

/-- A program that leaves the replica alone runs as on the store. -/
theorem run_primary {α : Type} {p : App α} (h : p.Issues OnPrimary) (u : Replicated) :
    p.run exec u =
      ((p.run Store.exec u.store).1, { u with store := (p.run Store.exec u.store).2 }) :=
  Prog.Meets.run_lift (f := fun s => { u with store := s })
    (fun s _ hc => exec_onPrimary { u with store := s } hc) h u.store

section Primary

variable {E : Type} [StorageErrorExt E] (ctx : KvStoreContext)

theorem issues_kvSettings : kvSettings.Issues OnPrimary :=
  Prog.Issues.mapResult (Prog.issues_perform fun _ => Cmd.noConfusion)

/-- What is done on a connection of the primary pool. -/
theorem issues_getConn_andThen {α : Type} {f : DbPool → App (Except E α)}
    (h : (f .primary).Issues OnPrimary) : (getConn.andThen f).Issues OnPrimary := by
  refine Prog.Meets.andThen (Q := fun reply => ∀ pool, reply = .ok pool → pool = .primary)
    (Prog.Meets.mapResult ⟨fun _ => Cmd.noConfusion, fun reply _ pool hpool => ?_⟩)
    (fun _ _ => trivial) fun pool hpool => ?_
  · change (match (reply : Except Unit Unit) with
      | .ok _ => Except.ok DbPool.primary
      | .error _ => _) = Except.ok pool at hpool
    cases (reply : Except Unit Unit) <;> cases hpool
    rfl
  · obtain rfl := hpool pool rfl
    exact h

theorem issues_query (q : Query) :
    (Prog.perform (Cmd.query .primary q) : App (Reply (.query .primary q))).Issues OnPrimary :=
  Prog.issues_perform fun _ h => by cases h

theorem issues_executeOnPrimary (stmt : Statement) :
    (executeOnPrimary E stmt).Issues OnPrimary :=
  issues_getConn_andThen (Prog.Issues.mapResult (issues_query _))

theorem run_executeOnPrimary (u : Replicated) (stmt : Statement) :
    (executeOnPrimary E stmt).run exec u =
      ((u.store.pg.execute stmt).1.mapError StorageErrorExt.fromDieselError,
        { u with store := { u.store with pg := u.store.pg.apply stmt } }) := by
  rw [run_primary (issues_executeOnPrimary stmt), CardVault.run_executeOnPrimary]

theorem issues_findOnPrimary (q : Query) : (findOnPrimary E q).Issues OnPrimary :=
  issues_getConn_andThen (Prog.Issues.mapResult (issues_query _))

theorem issues_pushToDrainerStream (query : SerializableQuery) (partitionKey : PartitionKey) :
    (pushToDrainerStream ctx query partitionKey).Issues OnPrimary :=
  Prog.Issues.andThen (Prog.issues_perform fun _ => Cmd.noConfusion) fun _ =>
    Prog.Issues.mapResult (Prog.issues_perform fun _ => Cmd.noConfusion)

theorem issues_kvWrapper {T : Type} (deserialize : Row → Option T) (op : KvOperation)
    (partitionKey : PartitionKey) :
    (kvWrapper ctx deserialize op partitionKey).Issues OnPrimary := by
  have hpush := fun query => issues_pushToDrainerStream ctx query partitionKey
  refine Prog.Issues.andThen (Prog.issues_perform fun _ => Cmd.noConfusion) fun _ => ?_
  cases op with
  | hset field value query =>
    refine Prog.Issues.andThen
      (Prog.Issues.mapResult (Prog.issues_perform fun _ => Cmd.noConfusion)) fun _ => ?_
    exact Prog.Issues.andThen (hpush query) fun _ => trivial
  | hSetNx field value query =>
    refine Prog.Issues.andThen
      (Prog.Issues.mapResult (Prog.issues_perform fun _ => Cmd.noConfusion)) fun reply => ?_
    cases reply with
    | keySet => exact Prog.Issues.andThen (hpush query) fun _ => trivial
    | keyNotSet => trivial
  | hGet field =>
    refine Prog.Issues.andThen (Prog.Issues.mapResult (Prog.Issues.mapResult
      (Prog.issues_perform fun _ => Cmd.noConfusion))) fun _ => trivial
  | hDel field query =>
    refine Prog.Issues.andThen
      (Prog.Issues.mapResult (Prog.issues_perform fun _ => Cmd.noConfusion)) fun _ => ?_
    exact Prog.Issues.andThen (hpush query) fun _ => trivial

/-- Inserts go to Redis or to the primary. -/
theorem issues_insertResourceInner {M : KvResource}
    (hinsert : ∀ new, (M.storageInsert new).Issues OnPrimary) (new : M.DieselNew)
    (key : PartitionKey) {insertLookup : M.DieselNew → StorageScheme → App (Except M.Error Unit)}
    (hlookup : ∀ new scheme, (insertLookup new scheme).Issues OnPrimary) :
    (insertResourceInner ctx M new key insertLookup).Issues OnPrimary := by
  refine Prog.Issues.bind (Prog.Issues.mapResult issues_kvSettings) fun scheme => ?_
  cases scheme with
  | postgresOnly => exact hinsert _
  | redisKv =>
    refine Prog.Issues.andThen trivial fun query => ?_
    refine Prog.Issues.andThen (hlookup _ _) fun _ => ?_
    refine Prog.Issues.andThen (Prog.Issues.mapResult (issues_kvWrapper ctx _ _ key))
      fun reply => ?_
    refine Prog.Issues.andThen trivial fun reply => ?_
    cases reply <;> trivial

theorem issues_insertResource {M : KvResource}
    (hinsert : ∀ new, (M.storageInsert new).Issues OnPrimary) (new : M.DieselNew)
    (key : PartitionKey) : (insertResource ctx M new key).Issues OnPrimary :=
  Prog.Issues.mapResult (issues_insertResourceInner ctx hinsert new key fun _ _ => trivial)

theorem issues_insertLocker (new : LockerNew) : (insertLocker ctx new).Issues OnPrimary := by
  have hlookup : ∀ key lookupKey scheme,
      (insertLookup ctx Locker.kvResource key lookupKey scheme).Issues OnPrimary := fun _ _ _ =>
    Prog.Issues.mapResult (issues_insertResource ctx (M := ReverseLookup.kvResource)
      (fun _ => issues_executeOnPrimary _) _ _)
  exact Prog.Issues.mapResult (issues_insertResourceInner ctx
    (M := Locker.kvResource) (fun _ => issues_executeOnPrimary _) new _ fun _ _ => hlookup _ _ _)

end Primary

/-! ## Finds -/

section Find

variable {E : Type} [StorageErrorExt E] (u : Replicated)

theorem run_shouldUseReplica : shouldUseReplica.run exec u = (u.usesReplica, u) := by
  have hhas : hasReplica.run exec u = (u.store.hasReplica, u) := rfl
  have hconf : getRuntimeConfig.run exec u = (u.store.runtimeConfig, u) := rfl
  refine (Prog.run_bind_of hhas _).trans ?_
  unfold usesReplica
  cases u.store.hasReplica with
  | false => rfl
  | true =>
    refine (Prog.run_mapResult_of hconf _).trans ?_
    cases u.store.runtimeConfig <;> rfl

theorem run_routeConn :
    (routeConn : App (Except E DbPool)).run exec u =
      (.ok (if u.usesReplica then .replica else .primary), u) := by
  refine (Prog.run_bind_of (run_shouldUseReplica u) _).trans ?_
  cases huse : u.usesReplica with
  | false => rfl
  | true =>
    have hhas : hasReplica.run exec u = (true, u) := by
      simp only [usesReplica, Bool.and_eq_true] at huse
      exact congrArg (·, u) huse.1
    exact Prog.run_bind_of hhas _

/-- A routed read of one row answers what the pool it is routed to shows. -/
theorem run_findOnRouted {q : Query} (hq : ∀ stmt, q ≠ .execute stmt) :
    (findOnRouted E q).run exec u =
      (((findOnRouted E q).run Store.exec { u.store with pg := u.readPg }).1, u.afterRead) := by
  have hkeep : ∀ pg : Pg, (pg.query q).2 = pg := by
    intro pg
    cases q with
    | execute stmt => exact absurd rfl (hq stmt)
    | _ => rfl
  rw [CardVault.run_findOnRouted _ (hkeep _)]
  refine (Prog.run_andThen_ok (run_routeConn u) _).trans ?_
  unfold readPg afterRead
  cases u.usesReplica with
  | false =>
    simp only [Bool.false_eq_true, if_false]
    have hexec : (Prog.perform (Cmd.query .primary q)).run exec u =
        ((u.store.pg.query q).1, u) := by
      refine (exec_onPrimary u (fun _ h => by cases h)).trans ?_
      simp only [Store.exec, hkeep]
      rfl
    refine (Prog.run_mapResult_of hexec _).trans ?_
    cases (u.store.pg.query q).1 <;> rfl
  | true =>
    simp only [if_true]
    have hexec : (Prog.perform (Cmd.query .replica q)).run exec u =
        (((u.lag 0).query q).1, u.next) := by
      cases q with
      | execute stmt => exact absurd rfl (hq stmt)
      | _ => rfl
    refine (Prog.run_mapResult_of hexec _).trans ?_
    cases ((u.lag 0).query q).1 <;> rfl

/-- The reads of an impl are routed. -/
def ReadsRouted (M : KvResource) : Prop :=
  ∀ (pk : M.PrimaryKeyType) (u : Replicated), (M.storageFind pk).run exec u =
    (((M.storageFind pk).run Store.exec { u.store with pg := u.readPg }).1, u.afterRead)

theorem readsRouted_fingerprint : ReadsRouted Fingerprint.kvResource :=
  fun _ u => run_findOnRouted u fun _ h => nomatch h

theorem readsRouted_hashTable : ReadsRouted HashTable.kvResource :=
  fun _ u => run_findOnRouted u fun _ h => nomatch h

theorem readsRouted_locker : ReadsRouted Locker.kvResource :=
  fun _ u => run_findOnRouted u fun _ h => nomatch h

theorem readsRouted_vault : ReadsRouted Vault.kvResource :=
  fun _ u => run_findOnRouted u fun _ h => nomatch h

/-- What a find takes from Redis, without a read of Postgres. -/
def fromRedis (u : Replicated) (key : PartitionKey) : Option Row :=
  if u.store.mode = .disabled then none else u.store.cached key

/-- The row that a find is about to answer. -/
def visible (u : Replicated) (key : PartitionKey) : Option Row :=
  match u.fromRedis key with
  | some row => some row
  | none => u.readPg.rowAt key

/-- A find has been answered. -/
def afterFind (u : Replicated) (key : PartitionKey) : Replicated :=
  match u.fromRedis key with
  | some _ => u
  | none => u.afterRead

/-- A find answers what Redis holds, or what the pool it is routed to shows. -/
theorem run_findResourceByIdInner (ctx : KvStoreContext) {M : KvResource} (hM : M.Spec)
    (hrouted : ReadsRouted M) (pk : M.PrimaryKeyType) :
    (findResourceByIdInner ctx M pk).run exec u =
      (M.answer (u.visible (M.getPartitionKey pk)), u.afterFind (M.getPartitionKey pk)) := by
  have hfind : (M.storageFind pk).run exec u =
      (M.answer (u.readPg.rowAt (M.getPartitionKey pk)), u.afterRead) := by
    rw [hrouted pk u, hM.run_storageFind]
    rw [hM.oneRow_answer (hM.getPartitionKey_resource pk)]
  have hscheme : decideStorageSchemeForFindOperation.run exec u =
      (if u.store.mode = .disabled then .postgresOnly else .redisKv, u) := by
    have h := run_decideStorageSchemeForFindOperation u.store
    refine (run_primary (Prog.Issues.mapResult issues_kvSettings) u).trans ?_
    exact congrArg (fun answer => (answer.1, ({ u with store := answer.2 } : Replicated))) h
  refine (Prog.run_bind_of hscheme _).trans ?_
  unfold visible afterFind fromRedis Store.cached
  by_cases hmode : u.store.mode = .disabled
  · simp only [hmode, if_true]
    exact hfind
  · simp only [hmode, if_false]
    have hget := run_primary (issues_kvWrapper ctx M.deserialize
      (.hGet (M.getPartitionKey pk).display) (M.getPartitionKey pk)) u
    rw [run_kvWrapper_hGet] at hget
    have hresult := Prog.run_mapResult_of hget
      (hGetResult (E := M.Error) (M.getPartitionKey pk).display)
    cases hc : u.store.redis (M.getPartitionKey pk).display (M.getPartitionKey pk).display with
    | none =>
      rw [hc] at hresult
      exact (Prog.run_andThen_ok hresult _).trans hfind
    | some row =>
      rw [hc] at hresult
      cases hd : M.deserialize row with
      | none =>
        simp only [hd] at hresult
        simp only [KvResource.answer, hd]
        exact Prog.run_andThen_error hresult _
      | some e =>
        simp only [hd] at hresult
        simp only [KvResource.answer, hd]
        exact Prog.run_andThen_ok hresult _

end Find

/-! ## Small stores -/

/-- Reads go to a replica that has not seen a row yet. -/
def behind (mode : KvState) (pg : Pg) : Replicated :=
  { store := Store.fresh (some ⟨mode, true⟩) true pg, lag := fun _ => Pg.empty }

end Replicated

end CardVault
