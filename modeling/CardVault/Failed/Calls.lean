import CardVault.Lib.Outcomes
import CardVault.Absence
import CardVault.Concurrent.Writes
import CardVault.System

/-!
# Calls that fail

Any call of the storage layer may fail, with or without effect. The helpers of
`src/src/storage/kv/resource.rs` pass every failure on with `?`, so a helper ends
with its first failure, and has made its writes up to there.

Main results:
* `exec_of_not_isWrite`: a call that is no write leaves nothing behind.
* `halts_find`, `halts_mutateScheme`: reads.
* `halts_kvWrapper_hset`, `halts_kvWrapper_hSetNx`, `halts_kvWrapper_hDel`: the two
  writes of an operation.
-/

namespace CardVault

open Interaction

/-! ## Failures -/

/-- What a call answers when it fails. A row that is not there is no failure, and
    `Storage::get_redis_conn` has one error. -/
def StorageFailure : (c : Cmd) → Reply c → Prop
  | .getConn _, r => r = (.error () : Except Unit Unit)
  | .query _ q, r => ∃ e, r = (.error e : Except DieselError q.Output) ∧ e ≠ .notFound
  | .getRedisConn, r => r = (.error .redisConnectionError : Except RedisError Unit)
  | .setHashFields .., r => ∃ e, r = (.error e : Except RedisError Unit)
  | .setHashFieldIfNotExist .., r => ∃ e, r = (.error e : Except RedisError HsetnxReply)
  | .getHashField .., r => ∃ e, r = (.error e : Except RedisError Row) ∧ e ≠ .notFound
  | .deleteHashFields .., r => ∃ e, r = (.error e : Except RedisError ℕ)
  | .streamAppendEntry .., r => ∃ e, r = (.error e : Except RedisError Unit)
  | _, _ => False

/-- A call of Redis or an append to a stream. -/
def Cmd.isRedis : Cmd → Bool
  | .getRedisConn | .setHashFields .. | .setHashFieldIfNotExist .. | .getHashField ..
  | .deleteHashFields .. | .streamAppendEntry .. => true
  | _ => false

/-- A failure of Redis or of a stream, with Postgres at work. -/
def RedisFailure (c : Cmd) (r : Reply c) : Prop := StorageFailure c r ∧ c.isRedis = true

/-- A call that may change the store. -/
def Cmd.isWrite : Cmd → Bool
  | .query _ (.execute _) | .setHashFields .. | .setHashFieldIfNotExist ..
  | .deleteHashFields .. | .streamAppendEntry .. | .cacheFingerprint .. | .cacheHashTable .. => true
  | _ => false

/-- From `s`, with calls that may fail as `failure` says, the program may end with `a`
    in `s'`; `done` are the calls that took effect. -/
abbrev Outcomes {α : Type} (failure : (c : Cmd) → Reply c → Prop) (p : App α) (s : Store)
    (done : List Cmd) (a : α) (s' : Store) : Prop := p.Outcome Store.exec failure s done a s'

/-- A program that ends with an error in `P` at its first failure; without failures it
    makes `writes`. -/
abbrev Halts {ε α : Type} (P : ε → Prop) (p : App (Except ε α)) (s : Store)
    (writes : List Cmd) : Prop :=
  p.Halts Store.exec StorageFailure Cmd.isWrite (fun a => ∃ e, a = .error e ∧ P e) s writes

/-- A call that is no write leaves nothing behind. -/
theorem exec_of_not_isWrite (s : Store) (c : Cmd) (h : c.isWrite = false) : (s.exec c).2 = s := by
  cases c with
  | query pool q => cases q <;> first | rfl | cases h
  | getHashField key field =>
    simp only [Store.exec]
    split <;> rfl
  | _ => first | rfl | cases h

theorem Halts.weaken {ε α : Type} {P P' : ε → Prop} {p : App (Except ε α)} {s : Store}
    {writes : List Cmd} (h : Halts P p s writes) (hP : ∀ e, P e → P' e) : Halts P' p s writes :=
  Prog.Halts.mono h fun _ ⟨e, he, hPe⟩ => ⟨e, he, hP e hPe⟩

theorem Halts.map {ε α β : Type} {P : ε → Prop} {p : App (Except ε α)} {s : Store}
    {writes : List Cmd} (h : Halts P p s writes) (f : α → β) :
    Halts P (p.mapResult (Except.map f)) s writes :=
  Prog.Halts.mapResult h fun a ⟨e, he, hPe⟩ => by
    subst he
    exact ⟨e, rfl, hPe⟩

/-- What a program that halts may leave behind. -/
theorem Halts.outcome {ε α : Type} {P : ε → Prop} {p : App (Except ε α)} {s s' : Store}
    {writes done : List Cmd} {a : Except ε α} (h : Halts P p s writes)
    (ho : Outcomes StorageFailure p s done a s') :
    (p.run Store.exec s = (a, s') ∧ done.filter Cmd.isWrite = writes) ∨
      (∃ e, a = .error e ∧ P e) ∧ done.filter Cmd.isWrite <+: writes ∧
        s' = Prog.effects Store.exec s (done.filter Cmd.isWrite) :=
  (h done a s' ho).imp_right fun ⟨he, hpre⟩ =>
    ⟨he, hpre, by rw [Prog.effects_filter exec_of_not_isWrite]; exact ho.effects⟩

/-- What it leaves behind are the first of its writes. -/
theorem Halts.made {ε α : Type} {P : ε → Prop} {p : App (Except ε α)} {s s' : Store}
    {writes done : List Cmd} {a : Except ε α} (h : Halts P p s writes)
    (ho : Outcomes StorageFailure p s done a s') :
    done.filter Cmd.isWrite <+: writes ∧
      s' = Prog.effects Store.exec s (done.filter Cmd.isWrite) := by
  refine ⟨?_, by rw [Prog.effects_filter exec_of_not_isWrite]; exact ho.effects⟩
  rcases h done a s' ho with ⟨-, hdone⟩ | ⟨-, hpre⟩
  · rw [hdone]
  · exact hpre

/-- A failure of Redis is one of the storage. -/
theorem Outcomes.storage {α : Type} {p : App α} {s s' : Store} {done : List Cmd} {a : α}
    (h : Outcomes RedisFailure p s done a s') : Outcomes StorageFailure p s done a s' :=
  Prog.Outcome.mono (fun _ _ h => h.1) h

/-! ## Reads -/

theorem isWrite_of_quiet {c : Cmd} (h : ∀ reply, c.quiet reply = true) : c.isWrite = false := by
  cases c with
  | query pool q => cases q <;> first | rfl | exact nomatch h (.error .other)
  | setHashFieldIfNotExist => exact nomatch h (.ok .keySet)
  | setHashFields => exact nomatch h (.ok ())
  | deleteHashFields => exact nomatch h (.ok 0)
  | streamAppendEntry => exact nomatch h (.ok ())
  | cacheFingerprint => exact nomatch h ()
  | cacheHashTable => exact nomatch h ()
  | _ => rfl

/-- A failure is one that `Absence` counts as such. -/
theorem StorageFailure.failed (M : KvResource) {c : Cmd} {r : Reply c} (h : StorageFailure c r) :
    Failed M ⟨c, r⟩ := by
  cases c <;> first | exact h | exact Or.inl h | exact ⟨_, h⟩

theorem StorageFailure.honest (c : Cmd) (r : Reply c) (h : StorageFailure c r) : Honest c r := by
  cases c <;> first | exact Or.inr h | trivial

theorem honest_exec (s : Store) (c : Cmd) : Honest c (s.exec c).1 := by
  cases c <;> first | exact Or.inl rfl | trivial

/-- A program that reads, and reports every failure of a call as an error in `P`. -/
theorem halts_of_always {ε α : Type} (M : KvResource) {P : ε → Prop} {p : App (Except ε α)}
    {Q : Except ε α → Trace → Prop} (h : p.Always Honest Q) (hreads : Reads p)
    (hQ : ∀ a t, Q a t → AnyFailed M t → ∃ e, a = .error e ∧ P e) (s : Store) : Halts P p s [] := by
  refine Prog.Always.halts h (hreads.mono fun c hc => isWrite_of_quiet hc) honest_exec
    StorageFailure.honest (fun a t ht ⟨x, hx, hfail⟩ => hQ a t ht ⟨x, hx, ?_⟩) s
  exact StorageFailure.failed M hfail

/-- An error that a table does not see as not-found. -/
abbrev Loud {E : Type} [StorageErrorExt E] (e : E) : Prop := StorageErrorExt.isNotFound e = false

section Reads

variable (ctx : KvStoreContext)

theorem reads_storageFind (t : Resource) (pk : t.kvResource.PrimaryKeyType) :
    Reads (t.kvResource.storageFind pk) := by
  cases t with
  | reverseLookup => exact reads_findReverseLookup pk
  | _ => exact reads_findOnRouted fun _ => Query.noConfusion

/-- A find by key. -/
theorem halts_find (t : Resource) (pk : t.kvResource.PrimaryKeyType) (s : Store) :
    Halts Loud (findResourceByIdInner ctx t.kvResource pk) s [] :=
  halts_of_always t.kvResource (findResourceByIdInner_reports ctx t pk)
    (reads_findResourceByIdInner ctx (reads_storageFind t) pk) (fun _ _ h => h.failed) s

/-- Nothing fails while the mode is read. -/
theorem kvSettings_always (M : KvResource) :
    kvSettings.Always Honest fun _ t => ¬ AnyFailed M t := by
  have hconfig : ∀ r, ¬ AnyFailed M [⟨.runtimeConfig, r⟩] := fun r => by simp [AnyFailed, Failed]
  exact Prog.Always.mapResult fun r _ => hconfig r

/-- The scheme of an update or a delete, with the row read on the way. -/
theorem halts_mutateScheme {M : KvResource} (hM : LawfulStorageError M.Error) (key : PartitionKey)
    (s : Store) : Halts Loud (decideStorageSchemeForMutateOperation ctx M key) s [] := by
  have hsettings := kvSettings_always M
  have halways : (decideStorageSchemeForMutateOperation ctx M key).Always Honest
      (Prepares M fun _ => False) := by
    refine hsettings.bind fun mode t ht => ?_
    cases mode with
    | softKill =>
      refine (hGet_prepares M ctx key.display key).andThen (fun e t' h => ?_) fun found t' h => ?_
      · exact ⟨fun _ => ⟨e, rfl⟩, fun e' he' => by cases he'; exact h.loud e rfl,
          fun v hv => nomatch hv⟩
      · have hclean : ¬ AnyFailed M (t ++ (t' ++ [])) := by
          rw [List.append_nil, anyFailed_append, not_or]
          refine ⟨ht, fun hfailed => ?_⟩
          obtain ⟨e, he⟩ := h.failed hfailed
          cases he
        cases found <;> exact ⟨fun hfailed => absurd hfailed hclean, fun e he => (nomatch he),
          fun _ _ h => h.elim⟩
    | _ =>
      refine ⟨fun hfailed => absurd hfailed ?_, fun e he => (nomatch he), fun _ _ h => h.elim⟩
      rwa [List.append_nil]
  have hreads := reads_decideStorageSchemeForMutateOperation ctx (M := M) key
  refine halts_of_always M halways hreads (fun a t h hfailed => ?_) s
  obtain ⟨e, he⟩ := h.failed hfailed
  exact ⟨e, he, h.loud e he⟩

end Reads

/-! ## Writes -/

section Writes

variable (ctx : KvStoreContext) {T : Type} (deserialize : Row → Option T) (key : PartitionKey)
  (value : Row) (query : SerializableQuery) (s : Store)

theorem halts_getRedisConn : Halts (fun _ => True) getRedisConn s [] := by
  have halways : getRedisConn.Always Honest fun a t =>
      AnyFailed Vault.kvResource t → ∃ e, a = .error e ∧ True := by
    rintro r _ ⟨x, hx, hfailed⟩
    obtain rfl := List.mem_singleton.1 hx
    obtain ⟨e, he⟩ := hfailed
    exact ⟨e, he, trivial⟩
  exact halts_of_always Vault.kvResource halways reads_getRedisConn (fun _ _ h => h) s

/-- A write, as a function reads its reply. -/
theorem halts_write {ε α : Type} {c : Cmd} (hc : c.isWrite = true) (f : Reply c → Except ε α)
    (hf : ∀ r, StorageFailure c r → ∃ e, f r = .error e) :
    Halts (fun _ => True) ((Prog.perform c : App (Reply c)).mapResult f) s [c] :=
  Prog.Halts.mapResult (Prog.halts_perform hc hf s) fun _ ⟨e, he⟩ => ⟨e, he, trivial⟩

theorem halts_pushToDrainerStream :
    Halts (fun _ => True) (pushToDrainerStream ctx query key) s [queueEntry ctx key query] :=
  Prog.Halts.andThen (halts_getRedisConn s) (Store.run_getRedisConn s)
    (halts_write s rfl _ fun _ ⟨e, he⟩ => by subst he; exact ⟨_, rfl⟩)

/-- The entry that an operation queues at its end. -/
theorem halts_queue {α : Type} (a : α) :
    Halts (fun _ => True) ((pushToDrainerStream ctx query key).andThen fun _ => .pure (.ok a)) s
      [queueEntry ctx key query] :=
  Prog.Halts.andThen (halts_pushToDrainerStream ctx key query s)
    (run_pushToDrainerStream ctx s key query) (Prog.halts_pure _ _)

/-- An operation that writes to Redis, and goes on with the reply. -/
theorem halts_redisWrite {α β : Type} (c : Cmd) (hc : c.isWrite = true)
    (f : Reply c → Except RedisError α) (hf : ∀ r, StorageFailure c r → ∃ e, f r = .error e)
    {a : α} (hrun : f (s.exec c).1 = .ok a) (g : α → App (Except RedisError β))
    {writes : List Cmd} (hg : Halts (fun _ => True) (g a) (s.exec c).2 writes) :
    Halts (fun _ => True)
      (getRedisConn.andThen fun _ => ((Prog.perform c : App (Reply c)).mapResult f).andThen g) s
        (c :: writes) := by
  have hmap : ((Prog.perform c : App (Reply c)).mapResult f).run Store.exec s =
      (.ok a, (s.exec c).2) := by
    rw [Prog.run_mapResult, Prog.run_perform, hrun]
  exact Prog.Halts.andThen (halts_getRedisConn s) (Store.run_getRedisConn s)
    (Prog.Halts.andThen (halts_write s hc f hf) hmap hg)

theorem halts_kvWrapper_hset :
    Halts (fun _ => True) (kvWrapper ctx deserialize (.hset key.display value query) key) s
      (setAndQueue ctx key value query) :=
  halts_redisWrite s (.setHashFields key.display key.display value ctx.kvConfig.ttlForKv) rfl
    bridge (fun _ ⟨e, he⟩ => by subst he; exact ⟨_, rfl⟩) rfl _ (halts_queue ctx key query _ _)

theorem halts_kvWrapper_hDel :
    Halts (fun _ => True) (kvWrapper ctx deserialize (.hDel key.display query) key) s
      (deleteAndQueue ctx key query) :=
  halts_redisWrite s (.deleteHashFields key.display key.display) rfl bridge
    (fun _ ⟨e, he⟩ => by subst he; exact ⟨_, rfl⟩) rfl _ (halts_queue ctx key query _ _)

/-- The writes of an `HSETNX`: an entry is queued when the field was not set. -/
def setNxWrites : List Cmd :=
  match s.cached key with
  | some _ => [.setHashFieldIfNotExist key.display key.display value ctx.kvConfig.ttlForKv]
  | none => setNxAndQueue ctx key value query

theorem halts_kvWrapper_hSetNx :
    Halts (fun _ => True) (kvWrapper ctx deserialize (.hSetNx key.display value query) key) s
      (setNxWrites ctx key value query s) := by
  unfold setNxWrites
  have hwrite : ∀ reply, (s.exec (.setHashFieldIfNotExist key.display key.display value
      ctx.kvConfig.ttlForKv)).1 = .ok reply → ∀ writes, Halts (fun _ => True) _ _ writes →
        Halts (fun _ => True) (kvWrapper ctx deserialize (.hSetNx key.display value query) key) s
          (_ :: writes) := fun reply hreply writes =>
    halts_redisWrite s (.setHashFieldIfNotExist key.display key.display value
      ctx.kvConfig.ttlForKv) rfl bridge (fun _ ⟨e, he⟩ => by subst he; exact ⟨_, rfl⟩)
      (a := reply) (by rw [hreply]; rfl) _
  cases hc : s.cached key with
  | some row =>
    exact hwrite .keyNotSet (by rw [Store.exec_setHashFieldIfNotExist_some hc]) []
      (Prog.halts_pure _ _)
  | none =>
    exact hwrite .keySet (by rw [Store.exec_setHashFieldIfNotExist_none hc]) _
      (halts_queue ctx key query _ _)

end Writes

/-! ## Stores reached with failures -/

/-- A failure is an answer that a well-formed store may give. -/
theorem StorageFailure.ok {c : Cmd} {r : Reply c} (h : StorageFailure c r) : Reply.Ok c r := by
  cases c with
  | query pool q =>
    obtain ⟨e, rfl, -⟩ := h
    exact fun row hrow => nomatch hrow
  | getHashField key field =>
    obtain ⟨e, rfl, -⟩ := h
    exact fun row hrow => nomatch hrow
  | _ => trivial

/-- Whatever fails, a program that issues well-formed commands keeps a store well
    formed. -/
theorem Obeys.outcome {ctx : KvStoreContext} {α : Type} {p : App α} {Q : α → Prop}
    (hp : Obeys ctx p Q) {s s' : Store} {done : List Cmd} {a : α} (hs : s.WellFormed ctx)
    (ho : Outcomes StorageFailure p s done a s') : Q a ∧ s'.WellFormed ctx := by
  induction ho with
  | pure a s => exact ⟨hp, hs⟩
  | answered _ ih =>
    obtain ⟨hreply, hs'⟩ := Store.exec_wellFormed hs hp.1
    exact ih (hp.2 _ () hreply) hs'
  | lost hr _ ih => exact ih (hp.2 _ () hr.ok) hs
  | replyLost hr _ ih => exact ih (hp.2 _ () hr.ok) (Store.exec_wellFormed hs hp.1).2

/-- A store that any run reaches from an empty Redis, empty streams and any tables,
    when every call of a request may fail. -/
inductive Store.ReachedFailing (ctx : KvStoreContext) : Store → Prop
  | fresh (config : Option RuntimeConfigValues) (hasReplica : Bool) (pg : Pg) :
    ReachedFailing ctx (Store.fresh config hasReplica pg)
  | request {s s' : Store} {done : List Cmd} (r : Request) : ReachedFailing ctx s →
    Outcomes StorageFailure (r.app ctx) s done () s' → ReachedFailing ctx s'
  | env {s : Store} (e : EnvStep) : ReachedFailing ctx s → ReachedFailing ctx (s.envStep ctx e)
  | setRuntimeConfig {s : Store} (config : Option RuntimeConfigValues) : ReachedFailing ctx s →
    ReachedFailing ctx { s with runtimeConfig := config }

theorem Store.ReachedFailing.wellFormed {ctx : KvStoreContext} {s : Store}
    (h : s.ReachedFailing ctx) : s.WellFormed ctx := by
  induction h with
  | fresh config hasReplica pg => exact Store.fresh_wellFormed config hasReplica pg
  | request r _ ho ih => exact (Obeys.outcome (r.obeys ctx) ih ho).2
  | env e _ ih => exact Store.envStep_wellFormed ih e
  | setRuntimeConfig config _ ih => exact ih.setRuntimeConfig config

/-- A run in which nothing fails. -/
theorem Store.ReachedFailing.runActs {ctx : KvStoreContext} {s : Store} (h : s.ReachedFailing ctx)
    (acts : List Action) : (Interaction.runActs (Store.step ctx) acts s).ReachedFailing ctx := by
  induction acts generalizing s with
  | nil => exact h
  | cons a acts ih =>
    refine ih ?_
    cases a with
    | request r =>
      obtain ⟨done, ho⟩ := Prog.outcome_run StorageFailure (r.app ctx) s
      exact h.request r ho
    | env e => exact h.env e
    | setRuntimeConfig config => exact h.setRuntimeConfig config

theorem Store.emptyStore_reachedFailing (ctx : KvStoreContext) : emptyStore.ReachedFailing ctx :=
  .fresh ..

/-- The append of an entry fails. -/
def appendFails : (c : Cmd) → Option (Reply c)
  | .streamAppendEntry .. => some (Except.error RedisError.streamAppendFailed)
  | _ => none

theorem redisFailure_appendFails (c : Cmd) (r : Reply c) (h : appendFails c = some r) :
    RedisFailure c r := by
  cases c <;> cases h
  exact ⟨⟨_, rfl⟩, rfl⟩

end CardVault
