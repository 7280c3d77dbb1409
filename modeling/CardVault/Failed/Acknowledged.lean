import CardVault.Failed.Helpers
import CardVault.Failed.Told
import CardVault.Rows

/-!
# Acknowledged rows after failures

The get-or-insert compositions of `src/src/domain`, called one after the other in the
mode that writes to Redis, with Redis and the drainer streams failing at any call. An
`HSETNX` whose append fails leaves the row in Redis without an entry, which
`kv_wrapper` accepts (`src/src/storage/kv/wrapper.rs`, lines 181–196), and a later call
answers that row.

Main results:
* `Recorded.step`, `Recorded.call`, `Attempted.recorded`: what the calls that took effect
  leave behind, over one call, one composition and a run.
* `acknowledged_durable`: where the row of an answer `Ok` is.
-/

namespace CardVault

open Interaction

/-! ## Runs with failures -/

/-- A call of one of the four compositions. -/
inductive GetOrInsert where
  | fingerprint (sign : Bytes → Bytes → Bytes) (nanoId data key : String)
    (fingerprintId : Option String)
  | hash (uuid : String) (now : PrimitiveDateTime) (dataHash : Bytes)
  | vault (new : VaultNew)
  | locker (new : LockerNew)

/-- The call, with the key of the row that it answers. -/
def GetOrInsert.answer (ctx : KvStoreContext) : GetOrInsert → App (Option PartitionKey)
  | .fingerprint sign nanoId data key fingerprintId =>
    (getOrInsertFingerprint ctx sign nanoId data key fingerprintId).mapResult fun reply =>
      reply.toOption.map fun row => .fingerprint row.fingerprintHash
  | .hash uuid now dataHash =>
    (insertOrGetHash ctx uuid now dataHash).mapResult fun reply =>
      reply.toOption.map fun row => .hashTable row.dataHash
  | .vault new =>
    (getOrInsertVault ctx new).mapResult fun reply =>
      reply.toOption.map fun row => .vault row.entityId row.vaultId
  | .locker new =>
    (getOrInsertLocker ctx new).mapResult fun reply =>
      reply.toOption.map fun row => .locker row.merchantId row.customerId row.lockerId

/-- From `start`, calls one after the other, with Redis or a stream failing at any call
    of theirs, and evictions in between; `done` are the calls on the storage that took
    effect. -/
inductive Store.Attempted (ctx : KvStoreContext) (start : Store) : Store → List Cmd → Prop
  | start : Attempted ctx start start []
  | call {s s' : Store} {done done' : List Cmd} (c : GetOrInsert) {a : Option PartitionKey} :
    Attempted ctx start s done → Outcomes RedisFailure (c.answer ctx) s done' a s' →
      Attempted ctx start s' (done ++ done')
  | evictFingerprint {s : Store} {done : List Cmd} (fingerprintHash : Bytes) :
    Attempted ctx start s done → Attempted ctx start
      { s with fingerprintCache := Function.update s.fingerprintCache fingerprintHash none } done
  | evictHashTable {s : Store} {done : List Cmd} (dataHash : Bytes) :
    Attempted ctx start s done → Attempted ctx start
      { s with hashTableCache := Function.update s.hashTableCache dataHash none } done

/-- The row is in Postgres, or an entry that inserts it is queued. -/
def Store.Durable (s : Store) (key : PartitionKey) : Prop :=
  (s.pg.rowAt key).isSome ∨ ∃ stream, ∃ entry ∈ s.streams stream,
    entry.query.statement.partitionKey = key ∧ ∃ mk, entry.query.statement.effect = .insert mk

/-- The first `HSETNX` of a field among `done`, with the row it sets. -/
def FirstSet (done : List Cmd) (key field : String) (row : Row) : Prop :=
  ∃ before ttl after, done = before ++ .setHashFieldIfNotExist key field row ttl :: after ∧
    ∀ value ttl, .setHashFieldIfNotExist key field value ttl ∉ before

/-- An `HSETNX` set a row with the key, and no append of an entry about the key took
    effect. -/
def Stranded (done : List Cmd) (key : PartitionKey) : Prop :=
  (∃ name field row, FirstSet done name field row ∧ row.partitionKey = key) ∧
    ∀ stream entry, .streamAppendEntry stream entry ∈ done →
      entry.query.statement.partitionKey ≠ key

/-- The row is in Postgres, or an `HSETNX` among `done` set it. -/
def Backed (pg : Pg) (done : List Cmd) (row : Row) : Prop :=
  (pg.rowAt row.partitionKey).isSome ∨ ∃ key field, FirstSet done key field row

/-- What `done` has left behind of a store with `tables` and nothing else; `all` is what
    takes effect in the whole run. -/
structure Recorded (tables : Pg) (all : List Cmd) (s : Store) (done : List Cmd) : Prop where
  pg : s.pg = tables
  mode : ∃ values, s.runtimeConfig = some values ∧ values.enableKv = .enabled
  redis : ∀ key field row, s.redis key field = some row → FirstSet done key field row
  unset : ∀ key field, s.redis key field = none → ∀ value ttl,
    .setHashFieldIfNotExist key field value ttl ∉ done
  streams : ∀ stream entry, .streamAppendEntry stream entry ∈ done → entry ∈ s.streams stream
  inserts : ∀ stream entry, .streamAppendEntry stream entry ∈ done →
    ∃ mk, entry.query.statement.effect = .insert mk
  fingerprintCache : ∀ fingerprintHash row, s.fingerprintCache fingerprintHash = some row →
    Backed tables all (.fingerprint row)
  hashTableCache : ∀ dataHash row, s.hashTableCache dataHash = some row →
    Backed tables all (.hashTable row)

section Runs

variable {tables : Pg} {all done : List Cmd} {s s' : Store}

theorem FirstSet.mono {key field : String} {row : Row} (h : FirstSet done key field row)
    (hall : done <+: all) : FirstSet all key field row := by
  obtain ⟨rest, rfl⟩ := hall
  obtain ⟨before, ttl, after, rfl, hbefore⟩ := h
  exact ⟨before, ttl, after ++ rest, by simp, hbefore⟩

/-- A row that a read answers is in the tables. -/
theorem Pg.isSome_rowAt_of_query {q : Query} (hq : ∀ stmt, q ≠ .execute stmt) {out : q.Output}
    (h : (tables.query q).1 = .ok out) {row : Row} (hrow : q.outputRow out = some row) :
    (tables.rowAt row.partitionKey).isSome := by
  have hfound : ∀ {ρ : Type} {found : Option ρ} {r : ρ}, oneRow found = .ok r → found = some r := by
    intro ρ found r h
    cases found with
    | none => cases h
    | some r' => cases h; rfl
  have hget : ∀ key, tables.rowAt key = some row →
      (tables.rowAt row.partitionKey).isSome := by
    intro key hkey
    rw [partitionKey_of_rowAt hkey, hkey]
    rfl
  cases q with
  | execute stmt => exact absurd rfl (hq stmt)
  | findFingerprint fingerprintHash =>
    cases hrow
    exact hget (.fingerprint fingerprintHash) (congrArg (Option.map _) (hfound h))
  | findHashTable dataHash =>
    cases hrow
    exact hget (.hashTable dataHash) (congrArg (Option.map _) (hfound h))
  | findLocker pk =>
    cases hrow
    exact hget pk.getPartitionKey (congrArg (Option.map _) (hfound h))
  | findLockerByHash key =>
    cases hrow
    exact hget _ (rowAt_of_lockerRowByHash (hfound h))
  | findReverseLookup lookupId =>
    cases hrow
    exact hget (.reverseLookup lookupId) (congrArg (Option.map _) (hfound h))
  | findVault pk =>
    cases hrow
    exact hget pk.getPartitionKey (congrArg (Option.map _) (hfound h))

theorem Recorded.start (config : RuntimeConfigValues) (hmode : config.enableKv = .enabled)
    (hasReplica : Bool) :
    Recorded tables all (Store.fresh (some config) hasReplica tables) [] where
  pg := rfl
  mode := ⟨config, rfl, hmode⟩
  redis _ _ _ h := nomatch h
  unset _ _ _ _ _ h := nomatch h
  streams _ _ h := nomatch h
  inserts _ _ h := nomatch h
  fingerprintCache _ _ h := nomatch h
  hashTableCache _ _ h := nomatch h

/-- A call that neither sets a field nor queues an entry. -/
theorem Recorded.silent (h : Recorded tables all s done) {c : Cmd}
    (hset : ∀ key field value ttl, c ≠ .setHashFieldIfNotExist key field value ttl)
    (happend : ∀ stream entry, c ≠ .streamAppendEntry stream entry) :
    Recorded tables all s (done ++ [c]) where
  pg := h.pg
  mode := h.mode
  redis key field row hrow := (h.redis key field row hrow).mono (List.prefix_append _ _)
  unset key field hnone value ttl hmem := by
    rcases List.mem_append.1 hmem with hmem | hmem
    · exact h.unset key field hnone value ttl hmem
    · exact hset _ _ _ _ (List.mem_singleton.1 hmem).symm
  streams stream entry hmem := by
    rcases List.mem_append.1 hmem with hmem | hmem
    · exact h.streams stream entry hmem
    · exact absurd (List.mem_singleton.1 hmem).symm (happend _ _)
  inserts stream entry hmem := by
    rcases List.mem_append.1 hmem with hmem | hmem
    · exact h.inserts stream entry hmem
    · exact absurd (List.mem_singleton.1 hmem).symm (happend _ _)
  fingerprintCache := h.fingerprintCache
  hashTableCache := h.hashTableCache

/-- An `HSETNX` of a field that is set, or that is not. -/
theorem Recorded.setHashFieldIfNotExist (h : Recorded tables all s done) (key field : String)
    (value : Row) (ttl : ℕ) :
    Recorded tables all (s.exec (.setHashFieldIfNotExist key field value ttl)).2
      (done ++ [.setHashFieldIfNotExist key field value ttl]) := by
  have hstreams : ∀ stream entry, Cmd.streamAppendEntry stream entry ∈
      done ++ [.setHashFieldIfNotExist key field value ttl] →
        Cmd.streamAppendEntry stream entry ∈ done := by
    intro stream entry hmem
    simpa using hmem
  have hne : ∀ {k f : String}, ¬ (k = key ∧ f = field) → ∀ value' ttl',
      Cmd.setHashFieldIfNotExist k f value' ttl' ∈
        done ++ [.setHashFieldIfNotExist key field value ttl] →
          Cmd.setHashFieldIfNotExist k f value' ttl' ∈ done := by
    intro k f hkf value' ttl' hmem
    rcases List.mem_append.1 hmem with hmem | hmem
    · exact hmem
    · obtain ⟨hk, hf, -⟩ := Cmd.setHashFieldIfNotExist.inj (List.mem_singleton.1 hmem)
      exact absurd ⟨hk, hf⟩ hkf
  cases hrow : s.redis key field with
  | some held =>
    simp only [Store.exec, hrow]
    refine { h with
      redis := fun k f row hr => (h.redis k f row hr).mono (List.prefix_append _ _)
      unset := fun k f hnone value' ttl' hmem => ?_
      streams := fun stream entry hmem => h.streams stream entry (hstreams stream entry hmem)
      inserts := fun stream entry hmem => h.inserts stream entry (hstreams stream entry hmem) }
    refine h.unset k f hnone value' ttl' (hne ?_ value' ttl' hmem)
    rintro ⟨rfl, rfl⟩
    cases hrow.symm.trans hnone
  | none =>
    simp only [Store.exec, hrow]
    refine { h with
      redis := fun k f row hr => ?_
      unset := fun k f hnone value' ttl' hmem => ?_
      streams := fun stream entry hmem => h.streams stream entry (hstreams stream entry hmem)
      inserts := fun stream entry hmem => h.inserts stream entry (hstreams stream entry hmem) }
    · dsimp only at hr
      rw [Redis.setField_apply] at hr
      split_ifs at hr with hkf
      · obtain ⟨rfl, rfl⟩ := hkf
        cases hr
        exact ⟨done, ttl, [], rfl, h.unset k f hrow⟩
      · exact (h.redis k f row hr).mono (List.prefix_append _ _)
    · dsimp only at hnone
      rw [Redis.setField_apply] at hnone
      split_ifs at hnone with hkf
      exact h.unset k f hnone value' ttl' (hne hkf value' ttl' hmem)

theorem Recorded.streamAppendEntry (h : Recorded tables all s done) {stream : String}
    {entry : DrainerEntry} (hentry : ∃ mk, entry.query.statement.effect = .insert mk) :
    Recorded tables all (s.exec (.streamAppendEntry stream entry)).2
      (done ++ [.streamAppendEntry stream entry]) where
  pg := h.pg
  mode := h.mode
  redis key field row hrow := (h.redis key field row hrow).mono (List.prefix_append _ _)
  unset key field hnone value ttl hmem := h.unset key field hnone value ttl (by simpa using hmem)
  streams stream' entry' hmem := by
    change entry' ∈ Function.update s.streams stream (s.streams stream ++ [entry]) stream'
    rcases List.mem_append.1 hmem with hmem | hmem
    · have hold := h.streams stream' entry' hmem
      by_cases hs : stream' = stream
      · subst hs
        rw [Function.update_self]
        exact List.mem_append_left _ hold
      · rwa [Function.update_of_ne hs]
    · obtain ⟨rfl, rfl⟩ := Cmd.streamAppendEntry.inj (List.mem_singleton.1 hmem)
      rw [Function.update_self]
      exact List.mem_append_right _ List.mem_cons_self
  inserts stream' entry' hmem := by
    rcases List.mem_append.1 hmem with hmem | hmem
    · exact h.inserts stream' entry' hmem
    · obtain ⟨rfl, rfl⟩ := Cmd.streamAppendEntry.inj (List.mem_singleton.1 hmem)
      exact hentry
  fingerprintCache := h.fingerprintCache
  hashTableCache := h.hashTableCache

/-- Every call of an insert or a find keeps the record. -/
theorem Recorded.step (h : Recorded tables all s done) {c : Cmd}
    (hc : c.Inserts (Backed tables all)) : Recorded tables all (s.exec c).2 (done ++ [c]) := by
  have hsilent : c.isWrite = false → Recorded tables all (s.exec c).2 (done ++ [c]) := by
    intro hread
    rw [exec_of_not_isWrite s c hread]
    refine h.silent ?_ ?_
    · rintro key field value ttl rfl
      cases hread
    · rintro stream entry rfl
      cases hread
  cases c with
  | query pool q =>
    cases q with
    | execute stmt => exact hc.elim
    | _ => exact hsilent rfl
  | setHashFields => exact hc.elim
  | deleteHashFields => exact hc.elim
  | setHashFieldIfNotExist key field value ttl => exact h.setHashFieldIfNotExist key field value ttl
  | streamAppendEntry stream entry => exact h.streamAppendEntry hc
  | cacheFingerprint fingerprintHash value =>
    refine { h.silent (fun _ _ _ _ => Cmd.noConfusion) (fun _ _ => Cmd.noConfusion) with
      fingerprintCache := fun hash row hrow => ?_ }
    change Function.update s.fingerprintCache fingerprintHash (some value) hash = some row at hrow
    by_cases hh : hash = fingerprintHash
    · subst hh
      rw [Function.update_self] at hrow
      cases hrow
      exact hc
    · rw [Function.update_of_ne hh] at hrow
      exact h.fingerprintCache hash row hrow
  | cacheHashTable dataHash value =>
    refine { h.silent (fun _ _ _ _ => Cmd.noConfusion) (fun _ _ => Cmd.noConfusion) with
      hashTableCache := fun hash row hrow => ?_ }
    change Function.update s.hashTableCache dataHash (some value) hash = some row at hrow
    by_cases hh : hash = dataHash
    · subst hh
      rw [Function.update_self] at hrow
      cases hrow
      exact hc
    · rw [Function.update_of_ne hh] at hrow
      exact h.hashTableCache hash row hrow
  | _ => exact hsilent rfl

/-- An answer shows rows that are in Postgres or that an `HSETNX` set. -/
theorem Recorded.shows (h : Recorded tables all s done) (c : Cmd)
    (hc : c.Inserts (Backed tables all)) (hall : done ++ [c] <+: all) :
    Reply.Shows (Backed tables all) c (s.exec c).1 := by
  have hdone : done <+: all := (List.prefix_append _ _).trans hall
  cases c with
  | runtimeConfig => exact h.mode
  | query pool q =>
    intro out hout row hrow
    change (s.pg.query q).1 = _ at hout
    rw [h.pg] at hout
    refine Or.inl (Pg.isSome_rowAt_of_query ?_ hout hrow)
    rintro stmt rfl
    exact hc
  | getHashField key field =>
    intro row hrow
    refine Or.inr ⟨key, field, (h.redis key field row ?_).mono hdone⟩
    simp only [Store.exec] at hrow
    cases hr : s.redis key field with
    | none =>
      rw [hr] at hrow
      cases hrow
    | some held =>
      rw [hr] at hrow
      cases hrow
      rfl
  | setHashFieldIfNotExist key field value ttl =>
    intro hreply
    cases hr : s.redis key field with
    | some held =>
      simp only [Store.exec, hr] at hreply
      cases hreply
    | none =>
      have hfirst : FirstSet (done ++ [.setHashFieldIfNotExist key field value ttl]) key field
          value := ⟨done, ttl, [], rfl, h.unset key field hr⟩
      exact Or.inr ⟨key, field, hfirst.mono hall⟩
  | lookupFingerprint fingerprintHash => exact fun row hrow => h.fingerprintCache _ row hrow
  | lookupHashTable dataHash => exact fun row hrow => h.hashTableCache _ row hrow
  | _ => trivial

/-- A call answers the key of a row that it was told of. -/
theorem told_answer {B : Row → Prop} (ctx : KvStoreContext) (c : GetOrInsert) :
    Told B (c.answer ctx) fun a => ∀ key, a = some key → ∃ row, B row ∧ row.partitionKey = key := by
  cases c with
  | fingerprint sign nanoId data key fingerprintId =>
    refine Prog.Meets.mapResult ((told_getOrInsertFingerprint ctx sign nanoId data key
      fingerprintId).mono fun reply hreply k hk => ?_)
    cases reply with
    | error e => cases hk
    | ok row =>
      cases hk
      exact ⟨.fingerprint row, hreply row rfl, rfl⟩
  | hash uuid now dataHash =>
    refine Prog.Meets.mapResult ((told_insertOrGetHash ctx uuid now dataHash).mono
      fun reply hreply k hk => ?_)
    cases reply with
    | error e => cases hk
    | ok row =>
      cases hk
      exact ⟨.hashTable row, hreply row rfl, rfl⟩
  | vault new =>
    refine Prog.Meets.mapResult ((told_getOrInsertVault ctx new).mono fun reply hreply k hk => ?_)
    cases reply with
    | error e => cases hk
    | ok row =>
      cases hk
      obtain ⟨e, rfl, he⟩ := hreply row rfl
      exact ⟨.vault e, he, rfl⟩
  | locker new =>
    refine Prog.Meets.mapResult ((told_getOrInsertLocker ctx new).mono fun reply hreply k hk => ?_)
    cases reply with
    | error e => cases hk
    | ok row =>
      cases hk
      obtain ⟨e, rfl, he⟩ := hreply row rfl
      exact ⟨.locker e, he, rfl⟩

/-- Whatever fails, a call keeps the record, and answers a row of it. -/
theorem Recorded.call (ctx : KvStoreContext) (c : GetOrInsert) {done' : List Cmd}
    {a : Option PartitionKey} (h : Recorded tables all s done)
    (ho : Outcomes RedisFailure (c.answer ctx) s done' a s') (hall : done ++ done' <+: all) :
    (∀ key, a = some key → ∃ row, Backed tables all row ∧ row.partitionKey = key) ∧
      Recorded tables all s' (done ++ done') := by
  refine Prog.Outcome.meets (fun _ _ _ h hc => h.step hc) (fun _ _ c h hc hall => h.shows c hc hall)
    (fun c r hr => ?_) (told_answer ctx c) ho h hall
  -- no failure shows a row
  cases c with
  | query pool q =>
    obtain ⟨⟨e, rfl, -⟩, -⟩ := hr
    exact fun out hout => nomatch hout
  | getHashField key field =>
    obtain ⟨⟨e, rfl, -⟩, -⟩ := hr
    exact fun row hrow => nomatch hrow
  | setHashFieldIfNotExist key field value ttl =>
    obtain ⟨⟨e, rfl⟩, -⟩ := hr
    exact fun hreply => nomatch hreply
  | runtimeConfig => exact hr.1.elim
  | lookupFingerprint => exact hr.1.elim
  | lookupHashTable => exact hr.1.elim
  | _ => trivial

/-- A run keeps the record. -/
theorem Store.Attempted.recorded {ctx : KvStoreContext} {config : RuntimeConfigValues}
    {hasReplica : Bool} (hmode : config.enableKv = .enabled)
    (h : (Store.fresh (some config) hasReplica tables).Attempted ctx s done)
    (hall : done <+: all) : Recorded tables all s done := by
  induction h with
  | start => exact Recorded.start config hmode hasReplica
  | call c _ ho ih =>
    exact (Recorded.call ctx c (ih ((List.prefix_append _ _).trans hall)) ho hall).2
  | evictFingerprint fingerprintHash _ ih =>
    refine { ih hall with fingerprintCache := fun hash row hrow => ?_ }
    dsimp only at hrow
    rw [Function.update_apply] at hrow
    split_ifs at hrow
    exact (ih hall).fingerprintCache hash row hrow
  | evictHashTable dataHash _ ih =>
    refine { ih hall with hashTableCache := fun hash row hrow => ?_ }
    dsimp only at hrow
    rw [Function.update_apply] at hrow
    split_ifs at hrow
    exact (ih hall).hashTableCache hash row hrow

/-- In the mode that writes to Redis, from an empty Redis, empty streams and any tables,
    in any sequence of get-or-inserts with Redis or a stream failing at any call: the row
    of an answer `Ok` is in Postgres, or its INSERT is queued, or an `HSETNX` of the run
    set it and no append about it ever took effect. -/
theorem acknowledged_durable (ctx : KvStoreContext) (config : RuntimeConfigValues)
    (hmode : config.enableKv = .enabled) (hasReplica : Bool) (tables : Pg) (s s' : Store)
    (done done' : List Cmd)
    (hrun : (Store.fresh (some config) hasReplica tables).Attempted ctx s done)
    (c : GetOrInsert) (key : PartitionKey)
    (ho : Outcomes RedisFailure (c.answer ctx) s done' (some key) s') :
    s'.Durable key ∨ Stranded (done ++ done') key := by
  have hstart := hrun.recorded hmode (List.prefix_append done done')
  obtain ⟨hanswer, h⟩ := hstart.call ctx c ho List.prefix_rfl
  obtain ⟨row, hbacked, rfl⟩ := hanswer key rfl
  rcases hbacked with hpg | ⟨name, field, hfirst⟩
  · rw [← h.pg] at hpg
    exact Or.inl (Or.inl hpg)
  · by_cases hqueued : ∃ stream entry, Cmd.streamAppendEntry stream entry ∈ done ++ done' ∧
        entry.query.statement.partitionKey = row.partitionKey
    · obtain ⟨stream, entry, hmem, hkey⟩ := hqueued
      exact Or.inl (Or.inr ⟨stream, entry, h.streams stream entry hmem, hkey,
        h.inserts stream entry hmem⟩)
    · refine Or.inr ⟨⟨name, field, row, hfirst, rfl⟩, fun stream entry hmem hkey => ?_⟩
      exact hqueued ⟨stream, entry, hmem, hkey⟩

end Runs

/-! ## A vault row whose append fails -/

/-- A `get_or_insert` of one vault row. -/
def oneVault : GetOrInsert := .vault (Store.recordOf 1)

/-- What it comes to in an empty store when the append fails. -/
def vaultNotQueued : Option PartitionKey × Store :=
  (oneVault.answer .default).failAt Store.exec appendFails 4 Store.emptyStore

/-- What it comes to when it is called again. -/
def vaultAnswered : Option PartitionKey × Store :=
  (oneVault.answer .default).run Store.exec vaultNotQueued.2

theorem attempted_vaultNotQueued :
    ∃ done, Store.emptyStore.Attempted .default vaultNotQueued.2 done := by
  obtain ⟨done, ho⟩ := Prog.outcome_failAt redisFailure_appendFails 4 (oneVault.answer .default)
    Store.emptyStore
  exact ⟨_, .call oneVault .start ho⟩

theorem outcome_vaultAnswered :
    ∃ done, Outcomes RedisFailure (oneVault.answer .default) vaultNotQueued.2 done
      (some (.vault "merchant" "card")) vaultAnswered.2 := by
  obtain ⟨done, ho⟩ := Prog.outcome_run RedisFailure (oneVault.answer .default) vaultNotQueued.2
  have hanswer : vaultAnswered.1 = some (.vault "merchant" "card") := by decide +kernel
  exact ⟨done, hanswer ▸ ho⟩

theorem acknowledged_durable_retried :
    ∃ done done', vaultAnswered.2.Durable (.vault "merchant" "card") ∨
      Stranded (done ++ done') (.vault "merchant" "card") := by
  obtain ⟨done, hrun⟩ := attempted_vaultNotQueued
  obtain ⟨done', ho⟩ := outcome_vaultAnswered
  exact ⟨done, done', acknowledged_durable .default ⟨.enabled, false⟩ rfl false Pg.empty
    vaultNotQueued.2 vaultAnswered.2 done done' hrun oneVault (.vault "merchant" "card") ho⟩

/-- Not every row that is answered is in Postgres or queued. -/
theorem acknowledged_not_durable :
    ¬ ∀ (ctx : KvStoreContext) (config : RuntimeConfigValues), config.enableKv = .enabled →
      ∀ (hasReplica : Bool) (tables : Pg) (s s' : Store) (done done' : List Cmd),
        (Store.fresh (some config) hasReplica tables).Attempted ctx s done →
          ∀ (c : GetOrInsert) (key : PartitionKey),
            Outcomes RedisFailure (c.answer ctx) s done' (some key) s' → s'.Durable key := by
  intro h
  obtain ⟨done, hrun⟩ := attempted_vaultNotQueued
  obtain ⟨done', ho⟩ := outcome_vaultAnswered
  rcases h .default ⟨.enabled, false⟩ rfl false Pg.empty _ _ done done' hrun oneVault _ ho
    with hpg | ⟨stream, entry, hentry, -⟩
  · exact absurd hpg (by decide +kernel)
  · have hstreams : vaultAnswered.2.streams = fun _ => [] := rfl
    rw [hstreams] at hentry
    cases hentry

end CardVault
