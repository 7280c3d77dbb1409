import CardVault.Dedup.Call
import CardVault.Lib.Runs
import Mathlib.Data.Fintype.Basic

/-!
# Ids are unique and stable

Calls that give hashes their ids run side by side, one command at a time, and the
drainer, the TTL of Redis keys and the caches' evictions come in between. Once a
hash has an id (`Inv.est`), every row anywhere has it: in Postgres, in Redis, in
the drainer streams and in the caches. A call that has seen a miss can still meet
a row, but then the row's Redis key stays for as long as the call runs.

Main results:
* `step_inv`: every turn keeps the invariant.
* `ids_agree`: calls with one hash answer one id, no call fails, and every call
  ends.
-/

namespace CardVault

open Interaction Stream Relational

namespace Dedup

/-! ## The system -/

/-- A step of the environment. -/
inductive Event where
  | drain (stream : String)
  | expire (key : String)
  | evictFingerprint (fingerprintHash : Bytes)
  | evictHashTable (dataHash : Bytes)
  deriving DecidableEq, Repr

/-- The environment takes a step. -/
def event (ctx : KvStoreContext) (s : Store) : Event → Store
  | .drain stream => s.drain stream
  | .expire key => s.expire ctx key
  | .evictFingerprint fingerprintHash =>
    { s with fingerprintCache := Function.update s.fingerprintCache fingerprintHash none }
  | .evictHashTable dataHash =>
    { s with hashTableCache := Function.update s.hashTableCache dataHash none }

/-- The Redis key that a command writes, and whose TTL begins anew. -/
def writtenKey (redis : Redis) : Cmd → Option String
  | .setHashFields key _ _ _ => some key
  | .setHashFieldIfNotExist key field _ _ => if (redis key field).isNone then some key else none
  | _ => none

/-- Calls that run side by side. `during` says of a Redis key which calls were in
    flight when it was last written. -/
structure Traffic (ι : Type) where
  pool : Pool Store ι Cmd Reply (Except Error Row)
  during : String → ι → Bool

section System

variable {ι : Type} [DecidableEq ι]

/-- A call that has begun and has not ended. -/
def inFlight (pool : Pool Store ι Cmd Reply (Except Error Row)) (i : ι) : Bool :=
  pool.history.any (fun issued => issued.1 = i) && (pool.threads i).result.isNone

/-- One turn of a call or of the environment. -/
def Traffic.step (S : Setup) (t : Traffic ι) (turn : Turn ι Event) : Traffic ι :=
  let pool := t.pool.step Store.exec (event S.ctx) turn
  let written :=
    match turn with
    | .thread i => (t.pool.nextCommand i).bind (writtenKey t.pool.store.redis)
    | .env _ => none
  match written with
  | some key => ⟨pool, Function.update t.during key (inFlight pool)⟩
  | none => ⟨pool, t.during⟩

/-- The TTL is longer than a call: a key does not expire while a call runs that
    was in flight when the key was written. -/
def TtlExceedsCalls (t : Traffic ι) : Turn ι Event → Prop
  | .env (.expire key) => ∀ i, t.during key i = true → (t.pool.threads i).result.isSome = true
  | _ => True

instance [Fintype ι] (t : Traffic ι) (turn : Turn ι Event) : Decidable (TtlExceedsCalls t turn) :=
  match turn with
  | .env (.expire key) =>
    inferInstanceAs (Decidable (∀ i, t.during key i = true →
      (t.pool.threads i).result.isSome = true))
  | .env (.drain _) => isTrue trivial
  | .env (.evictFingerprint _) => isTrue trivial
  | .env (.evictHashTable _) => isTrue trivial
  | .thread _ => isTrue trivial

/-- All calls are yet to begin; Redis, the streams and the caches are empty. -/
def Traffic.start (S : Setup) (pg : Pg) (calls : ι → Call) : Traffic ι :=
  ⟨⟨Store.fresh S.config S.hasReplica pg, fun i => (calls i).app S.ctx S.sign, []⟩,
    fun _ _ => false⟩

end System

/-- The UUID that a call makes up. -/
def Call.uuid : Call → Option Uuid
  | .fingerprint .. => none
  | .hash _ uuid _ => some uuid

/-- `generate_uuid` never makes up a UUID twice. -/
structure FreshUuids {ι : Type} (calls : ι → Call) (pg : Pg) : Prop where
  injective : ∀ i j u, (calls i).uuid = some u → (calls j).uuid = some u → i = j
  unused : ∀ i u, (calls i).uuid = some u → ∀ row ∈ pg.hashTable.rows, row.hashId ≠ u.val

/-! ## The INSERT of a call -/

section Insert

variable {sign : Bytes → Bytes → Bytes} {call : Call} {pg : Pg} {scheme : StorageScheme}

/-- A row with a call's UUID is the row of the call's hash. -/
def UuidsKept {ι : Type} (sign : Bytes → Bytes → Bytes) (calls : ι → Call) (pg : Pg) : Prop :=
  ∀ row ∈ pg.hashTable.rows, ∀ i u, (calls i).uuid = some u → row.hashId = u.val →
    (calls i).key sign = .hashTable row.dataHash

variable (scheme) in
/-- The INSERT of a call stores a row with the call's id, or meets a row. -/
theorem execute_statement
    (huuid : ∀ row ∈ pg.hashTable.rows, ∀ u, call.uuid = some u → row.hashId = u.val →
      call.key sign = .hashTable row.dataHash) :
    (∃ out row, (pg.execute (call.statement sign scheme)).1 = .ok out ∧
        (call.statement sign scheme).outputRow out = some row ∧ row.assignedId = call.ownId ∧
        pg.rowAt (call.key sign) = none ∧
        (pg.apply (call.statement sign scheme)).rowAt (call.key sign) = some row) ∨
      (pg.execute (call.statement sign scheme)).1 = .error .uniqueViolation ∧
        (pg.rowAt (call.key sign)).isSome = true ∧
        pg.apply (call.statement sign scheme) = pg := by
  obtain ⟨mk, hmk, hid⟩ := call.statement_effect sign scheme
  have hfits := call.statement_fits sign scheme
  have hkey : (call.statement sign scheme).partitionKey = call.key sign :=
    call.statement_partitionKey scheme
  cases hreply : (pg.execute (call.statement sign scheme)).1 with
  | ok out =>
    obtain ⟨-, hnone, n, hout, hrow⟩ := Pg.execute_insert_ok hmk hreply
    rw [hkey] at hnone hrow
    exact Or.inl ⟨out, mk n, rfl, hout, hid n, hnone, hrow⟩
  | error e =>
    have hsame := Pg.apply_of_insert_error hmk hreply
    refine Or.inr ?_
    cases call with
    | fingerprint data key fingerprintId nanoId =>
      rcases insertRow_error_iff.1 hreply with ⟨hno, _⟩ | ⟨_, rfl, row, hmem, hclash⟩
      · exact absurd (hfits.symm.trans hno) (by decide)
      · refine ⟨rfl, ?_, hsame⟩
        exact (Option.isSome_map ..).trans (Table.isSome_get hmem hclash)
    | hash dataHash uuid now =>
      rcases insertRow_error_iff.1 hreply with ⟨hno, _⟩ | ⟨_, rfl, row, hmem, hclash⟩
      · exact absurd (hfits.symm.trans hno) (by decide)
      · refine ⟨rfl, ?_, hsame⟩
        have hdata : row.dataHash = dataHash := by
          rcases hclash with hdata | hid
          · exact hdata
          · exact (PartitionKey.hashTable.inj (huuid row hmem uuid rfl hid)).symm
        exact (Option.isSome_map ..).trans (Table.isSome_get hmem hdata)

variable (scheme) in
/-- The rows after the INSERT of a call: a new one with the call's id, if there
    was none. -/
theorem rowAt_apply_statement
    (huuid : ∀ row ∈ pg.hashTable.rows, ∀ u, call.uuid = some u → row.hashId = u.val →
      call.key sign = .hashTable row.dataHash) (key : PartitionKey) :
    (pg.apply (call.statement sign scheme)).rowAt key = pg.rowAt key ∨
      key = call.key sign ∧ pg.rowAt key = none ∧
        ∃ row, (pg.apply (call.statement sign scheme)).rowAt key = some row ∧
          row.assignedId = call.ownId := by
  rcases execute_statement scheme huuid with
    ⟨out, row, -, -, hid, hnone, hrow⟩ | ⟨-, -, hsame⟩
  · by_cases hkey : key = call.key sign
    · subst hkey
      exact Or.inr ⟨rfl, hnone, row, hrow, hid⟩
    · refine Or.inl (Pg.rowAt_apply_of_ne ?_)
      rw [Call.statement_partitionKey]
      exact Ne.symm hkey
  · exact Or.inl (by rw [hsame])

variable (scheme) in
theorem isSome_rowAt_apply_statement
    (huuid : ∀ row ∈ pg.hashTable.rows, ∀ u, call.uuid = some u → row.hashId = u.val →
      call.key sign = .hashTable row.dataHash) :
    ((pg.apply (call.statement sign scheme)).rowAt (call.key sign)).isSome = true := by
  rcases execute_statement scheme huuid with
    ⟨out, row, -, -, -, -, hrow⟩ | ⟨-, hsome, hsame⟩
  · rw [hrow]
    rfl
  · rw [hsame]
    exact hsome

/-- The hash rows after the INSERT of a call. -/
theorem mem_hashTable_apply {row : HashTable}
    (h : row ∈ (pg.apply (call.statement sign scheme)).hashTable.rows) :
    row ∈ pg.hashTable.rows ∨
      ∃ u, call.uuid = some u ∧ row.hashId = u.val ∧ call.key sign = .hashTable row.dataHash := by
  cases call with
  | fingerprint => exact Or.inl h
  | hash dataHash uuid now =>
    let new : HashTableNew := ⟨uuid.val, dataHash, now, some scheme⟩
    let fits := (Statement.insertHashTable new).fits
    change row ∈ (insertRow fits new.row pg.hashTable).2.rows at h
    cases hreply : (insertRow fits new.row pg.hashTable).1 with
    | error e =>
      rw [insertRow_of_error hreply] at h
      exact Or.inl h
    | ok inserted =>
      obtain ⟨-, rfl, hrows, -⟩ := Table.insert_eq_some_iff.1 (insertRow_of_ok hreply)
      rw [hrows] at h
      rcases List.mem_append.1 h with h | h
      · exact Or.inl h
      · obtain rfl := List.mem_singleton.1 h
        exact Or.inr ⟨uuid, rfl, rfl, rfl⟩

theorem UuidsKept.apply {ι : Type} {calls : ι → Call} (h : UuidsKept sign calls pg)
    (hinj : ∀ i j u, (calls i).uuid = some u → (calls j).uuid = some u → i = j) (i : ι) :
    UuidsKept sign calls (pg.apply ((calls i).statement sign scheme)) := by
  intro row hrow j u hu hid
  rcases mem_hashTable_apply hrow with hrow | ⟨u', hu', hid', hkey⟩
  · exact h row hrow j u hu hid
  · obtain rfl : u = u' := by
      cases u
      cases u'
      simp_all
    obtain rfl := hinj i j u hu' hu
    exact hkey

end Insert

/-! ## The invariant -/

section Invariant

variable {ι : Type} (S : Setup) (calls : ι → Call)

/-- The key of the row that call `i` is about. -/
abbrev keyOf (i : ι) : PartitionKey := (calls i).key S.sign

/-- What is stored agrees with the ids given so far. `setting key` says that a
    call still owes the entry of the Redis row of `key`. -/
structure StoreInv (est : PartitionKey → Option String) (setting : PartitionKey → Prop)
    (s : Store) : Prop where
  config : s.runtimeConfig = S.config
  hasReplica : s.hasReplica = S.hasReplica
  fingerprintCache : ∀ fingerprintHash value, s.fingerprintCache fingerprintHash = some value →
    est (.fingerprint fingerprintHash) = some value.fingerprintId
  hashTableCache : ∀ dataHash value, s.hashTableCache dataHash = some value →
    est (.hashTable dataHash) = some value.hashId
  redis : ∀ i row, s.cached (keyOf S calls i) = some row →
    row.partitionKey = keyOf S calls i ∧ est (keyOf S calls i) = some row.assignedId
  pg : ∀ i row, s.pg.rowAt (keyOf S calls i) = some row →
    est (keyOf S calls i) = some row.assignedId
  streams : ∀ stream, ∀ entry ∈ s.streams stream, ∃ i, entry = (calls i).entry S.sign ∧
    stream = S.ctx.stream (keyOf S calls i) ∧ est (keyOf S calls i) = some (calls i).ownId ∧
    (s.cached (keyOf S calls i)).isSome = true
  stored : ∀ i, (est (keyOf S calls i)).isSome = true →
    (s.pg.rowAt (keyOf S calls i)).isSome = true ∨ (s.cached (keyOf S calls i)).isSome = true
  owed : ∀ i, (s.cached (keyOf S calls i)).isSome = true →
    (s.pg.rowAt (keyOf S calls i)).isSome = true ∨
      (∃ j, keyOf S calls j = keyOf S calls i ∧
        (calls j).entry S.sign ∈ s.streams (S.ctx.stream (keyOf S calls i))) ∨
      setting (keyOf S calls i)
  disabled : S.mode = .disabled → ∀ i, s.cached (keyOf S calls i) = none
  uuids : UuidsKept S.sign calls s.pg

/-- What a phase says of the store, and how long it stays so. -/
def Fact (est : PartitionKey → Option String) (s : Store) (during : String → ι → Bool) (i : ι) :
    Phase → Prop
  | .fresh => True
  | .missed => s.cached (keyOf S calls i) = none ∨ during (keyOf S calls i).display i = true
  | .absent => S.mode = .enabled ∧ (est (keyOf S calls i) = none ∨
      (s.cached (keyOf S calls i)).isSome = true ∧ during (keyOf S calls i).display i = true)
  | .setting => est (keyOf S calls i) = some (calls i).ownId ∧
      (s.cached (keyOf S calls i)).isSome = true ∧ during (keyOf S calls i).display i = true
  | .held => (est (keyOf S calls i)).isSome = true ∧
      (S.mode = .enabled → (s.cached (keyOf S calls i)).isSome = true ∧
        during (keyOf S calls i).display i = true) ∧
      (S.mode = .disabled → (s.pg.rowAt (keyOf S calls i)).isSome = true)
  | .known id => est (keyOf S calls i) = some id

/-- What a call answers. -/
def Answered (reply : Except Error Row) (phase : Phase) : Prop :=
  ∃ row, reply = .ok row ∧ phase = .known row.assignedId

/-- A call still owes the entry of a Redis row. -/
def Setting (phase : ι → Phase) (key : PartitionKey) : Prop :=
  ∃ i, keyOf S calls i = key ∧ phase i = .setting

/-- The ids given so far, and what each call knows. -/
structure Inv [DecidableEq ι] (est : PartitionKey → Option String) (phase : ι → Phase)
    (t : Traffic ι) : Prop where
  store : StoreInv S calls est (Setting S calls phase) t.pool.store
  does : ∀ i, Does S (calls i) (t.pool.threads i) Answered (phase i)
  fact : ∀ i, Fact S calls est t.pool.store t.during i (phase i)
  begun : ∀ i, phase i ≠ .fresh → t.pool.history.any (fun issued => issued.1 = i) = true

variable {S calls} {est : PartitionKey → Option String} {setting : PartitionKey → Prop}
  {s : Store} {during : String → ι → Bool}

theorem StoreInv.mode_eq (h : StoreInv S calls est setting s) : s.mode = S.mode := by
  have hconfig := h.config
  unfold Store.mode Setup.mode
  cases hS : S.config with
  | none => rw [hconfig, hS]
  | some runtimeConfigValues => rw [hconfig, hS]

/-- Where nothing is stored, no id is given. -/
theorem StoreInv.est_eq_none (h : StoreInv S calls est setting s) {i : ι}
    (hpg : s.pg.rowAt (keyOf S calls i) = none) (hc : s.cached (keyOf S calls i) = none) :
    est (keyOf S calls i) = none := by
  cases hest : est (keyOf S calls i) with
  | none => rfl
  | some id =>
    rcases h.stored i (by rw [hest]; rfl) with hsome | hsome
    · rw [hpg] at hsome
      cases hsome
    · rw [hc] at hsome
      cases hsome

theorem StoreInv.mono {setting' : PartitionKey → Prop} (h : StoreInv S calls est setting s)
    (hset : ∀ key, setting key → setting' key) : StoreInv S calls est setting' s :=
  { h with owed := fun i hi => (h.owed i hi).imp_right (Or.imp_right (hset _)) }

/-- A fact about rows that are still there. -/
theorem Fact.mono {i : ι} {phase : Phase} {s' : Store} (h : Fact S calls est s during i phase)
    (hc : s'.cached (keyOf S calls i) = s.cached (keyOf S calls i))
    (hpg : (s.pg.rowAt (keyOf S calls i)).isSome = true →
      (s'.pg.rowAt (keyOf S calls i)).isSome = true) : Fact S calls est s' during i phase := by
  cases phase with
  | fresh => trivial
  | missed => simpa only [Fact, hc] using h
  | absent => simpa only [Fact, hc] using h
  | setting => simpa only [Fact, hc] using h
  | held => exact ⟨h.1, by simpa only [hc] using h.2.1, fun hmode => hpg (h.2.2 hmode)⟩
  | known id => exact h

/-- A fact about a key that is not being kept for the call. -/
theorem Fact.expire {i : ι} {phase : Phase} {s' : Store} (h : Fact S calls est s during i phase)
    (hd : during (keyOf S calls i).display i ≠ true)
    (hc : s.cached (keyOf S calls i) = none → s'.cached (keyOf S calls i) = none)
    (hpg : s'.pg = s.pg) : Fact S calls est s' during i phase := by
  cases phase with
  | fresh => trivial
  | missed => exact Or.inl (hc (h.resolve_right hd))
  | absent => exact ⟨h.1, Or.inl (h.2.resolve_right fun hkept => hd hkept.2)⟩
  | setting => exact absurd h.2.2 hd
  | held =>
    refine ⟨h.1, fun hmode => absurd (h.2.1 hmode).2 hd, fun hmode => ?_⟩
    rw [hpg]
    exact h.2.2 hmode
  | known id => exact h

/-! ## Steps of the environment -/

theorem drain_of_cons {stream : String} {entry : DrainerEntry} {rest : List DrainerEntry}
    (hq : s.streams stream = entry :: rest) :
    s.drain stream = { s with
      streams := Function.update s.streams stream rest
      pg := s.pg.apply entry.query.statement } := by
  have hdrain : s.replay.drain Store.replayEntry stream = _ := Replay.drain_of_cons hq
  unfold Store.drain
  rw [hdrain]
  rfl

theorem drain_of_nil {stream : String} (hq : s.streams stream = []) : s.drain stream = s := by
  have hdrain : s.replay.drain Store.replayEntry stream = s.replay := Replay.drain_of_nil hq
  unfold Store.drain
  rw [hdrain]
  rfl

/-- Calls with one entry have one key. -/
theorem keyOf_eq_of_entry {i j : ι} (h : (calls i).entry S.sign = (calls j).entry S.sign) :
    keyOf S calls i = keyOf S calls j := by
  have hkey := congrArg (fun entry : DrainerEntry => entry.query.statement.partitionKey) h
  simpa [Call.entry] using hkey

theorem StoreInv.drain (h : StoreInv S calls est setting s) (stream : String)
    (hinj : ∀ i j u, (calls i).uuid = some u → (calls j).uuid = some u → i = j) :
    StoreInv S calls est setting (s.drain stream) ∧
      ∀ i, (s.pg.rowAt (keyOf S calls i)).isSome = true →
        ((s.drain stream).pg.rowAt (keyOf S calls i)).isSome = true := by
  cases hq : s.streams stream with
  | nil =>
    rw [drain_of_nil hq]
    exact ⟨h, fun _ hi => hi⟩
  | cons entry rest =>
    rw [drain_of_cons hq]
    obtain ⟨i, rfl, hstream, hest, hcached⟩ := h.streams stream entry (by simp [hq])
    have huuid := fun row hrow u hu hid => h.uuids row hrow i u hu hid
    have hrow := rowAt_apply_statement .redisKv huuid
    have hown := isSome_rowAt_apply_statement .redisKv huuid
    have hkept : ∀ key, (s.pg.rowAt key).isSome = true →
        ((s.pg.apply ((calls i).statement S.sign .redisKv)).rowAt key).isSome = true := by
      intro key hkey
      rcases hrow key with hsame | ⟨-, hnone, -⟩
      · rw [hsame]
        exact hkey
      · rw [hnone] at hkey
        cases hkey
    refine ⟨{ h with pg := ?_, streams := ?_, stored := ?_, owed := ?_, uuids := ?_ },
      fun j hj => hkept _ hj⟩
    · intro j row hj
      rcases hrow (keyOf S calls j) with hsame | ⟨hkey, -, row', hrow', hid⟩
      · exact h.pg j row (hsame.symm.trans hj)
      · obtain rfl : row' = row := Option.some.inj (hrow'.symm.trans hj)
        rw [hkey, hid]
        exact hest
    · intro stream' entry' hentry
      dsimp only at hentry
      refine h.streams stream' entry' ?_
      by_cases hs : stream' = stream
      · subst hs
        rw [Function.update_self] at hentry
        rw [hq]
        exact List.mem_cons_of_mem _ hentry
      · rwa [Function.update_of_ne hs] at hentry
    · exact fun j hj => (h.stored j hj).imp_left (hkept _)
    · intro j hj
      rcases h.owed j hj with hpg | ⟨k, hk, hmem⟩ | hset
      · exact Or.inl (hkept _ hpg)
      · by_cases hkey : keyOf S calls j = keyOf S calls i
        · rw [hkey]
          exact Or.inl hown
        · refine Or.inr (Or.inl ⟨k, hk, ?_⟩)
          dsimp only
          by_cases hs : S.ctx.stream (keyOf S calls j) = stream
          · rw [hs, Function.update_self]
            rw [hs, hq] at hmem
            rcases List.mem_cons.1 hmem with hhead | hrest
            · exact absurd (hk.symm.trans (keyOf_eq_of_entry hhead)) hkey
            · exact hrest
          · rwa [Function.update_of_ne hs]
      · exact Or.inr (Or.inr hset)
    · exact h.uuids.apply hinj i

/-- A key that expires has no entry pending and is not being written. -/
theorem StoreInv.expire (h : StoreInv S calls est setting s) {key : String}
    (hset : ∀ i, (keyOf S calls i).display = key → ¬ setting (keyOf S calls i)) :
    StoreInv S calls est setting (s.expire S.ctx key) := by
  unfold Store.expire
  split_ifs with hpending
  · have hcached : ∀ i, (keyOf S calls i).display ≠ key →
        ({ s with redis := s.redis.expire key } : Store).cached (keyOf S calls i) =
          s.cached (keyOf S calls i) := fun i hi => by
      simp [Store.cached, Redis.expire_apply, hi]
    have hgone : ∀ i, (keyOf S calls i).display = key →
        ({ s with redis := s.redis.expire key } : Store).cached (keyOf S calls i) = none :=
      fun i hi => by simp [Store.cached, hi]
    have hnone : ∀ i, (keyOf S calls i).display = key → ∀ j, keyOf S calls j = keyOf S calls i →
        (calls j).entry S.sign ∉ s.streams (S.ctx.stream (keyOf S calls i)) := by
      intro i hi j hj hmem
      have hs : S.ctx.stream (keyOf S calls i) = S.ctx.stream (.combinationKey key) :=
        stream_eq_of_display S.ctx hi
      rw [hs] at hmem
      refine List.filter_eq_nil_iff.1 hpending _ hmem (decide_eq_true ?_)
      change (keyOf S calls j).display = key
      rw [hj, hi]
    refine { h with redis := ?_, streams := ?_, stored := ?_, owed := ?_, disabled := ?_ }
    · intro i row hrow
      by_cases hi : (keyOf S calls i).display = key
      · rw [hgone i hi] at hrow
        cases hrow
      · exact h.redis i row ((hcached i hi).symm.trans hrow)
    · intro stream entry hentry
      obtain ⟨i, rfl, rfl, hest, hsome⟩ := h.streams stream entry hentry
      refine ⟨i, rfl, rfl, hest, ?_⟩
      rw [hcached i fun hi => hnone i hi i rfl hentry]
      exact hsome
    · intro i hi
      by_cases hk : (keyOf S calls i).display = key
      · refine Or.inl ((h.stored i hi).elim id fun hsome => ?_)
        rcases h.owed i hsome with hpg | ⟨j, hj, hmem⟩ | hsetting
        · exact hpg
        · exact absurd hmem (hnone i hk j hj)
        · exact absurd hsetting (hset i hk)
      · rw [hcached i hk]
        exact h.stored i hi
    · intro i hi
      by_cases hk : (keyOf S calls i).display = key
      · rw [hgone i hk] at hi
        cases hi
      · rw [hcached i hk] at hi
        exact h.owed i hi
    · intro hmode i
      by_cases hk : (keyOf S calls i).display = key
      · exact hgone i hk
      · exact (hcached i hk).trans (h.disabled hmode i)
  · exact h

variable [DecidableEq ι] {phase : ι → Phase} {t : Traffic ι}

/-- A call that has ended knows the id of its hash. -/
theorem Inv.known_of_ended (h : Inv S calls est phase t) {i : ι} {reply : Except Error Row}
    (hi : t.pool.threads i = .pure reply) :
    ∃ row, reply = .ok row ∧ phase i = .known row.assignedId := by
  have hdoes := h.does i
  rw [hi] at hdoes
  exact hdoes

/-- Every step of the environment keeps the invariant. -/
theorem Inv.env (h : Inv S calls est phase t)
    (hinj : ∀ i j u, (calls i).uuid = some u → (calls j).uuid = some u → i = j) (e : Event)
    (hok : TtlExceedsCalls t (.env e)) : Inv S calls est phase (t.step S (.env e)) := by
  change Inv S calls est phase ⟨{ t.pool with store := event S.ctx t.pool.store e }, t.during⟩
  cases e with
  | drain stream =>
    obtain ⟨hstore, hrow⟩ := h.store.drain stream hinj
    exact ⟨hstore, h.does, fun i => (h.fact i).mono rfl (hrow i), h.begun⟩
  | expire key =>
    have hrunning : ∀ i, (keyOf S calls i).display = key →
        t.during (keyOf S calls i).display i = true → ∃ id, phase i = .known id := by
      intro i hi hd
      rw [hi] at hd
      obtain ⟨reply, hreply⟩ := Option.isSome_iff_exists.1 (hok i hd)
      obtain ⟨row, -, hknown⟩ := h.known_of_ended (Prog.eq_pure_of_result hreply)
      exact ⟨_, hknown⟩
    have hset : ∀ i, (keyOf S calls i).display = key →
        ¬ Setting S calls phase (keyOf S calls i) := by
      rintro i hi ⟨j, hj, hphase⟩
      have hfact := h.fact j
      rw [hphase] at hfact
      obtain ⟨id, hknown⟩ := hrunning j (by rw [hj, hi]) hfact.2.2
      rw [hphase] at hknown
      cases hknown
    have hcached : ∀ i, (t.pool.store.expire S.ctx key).cached (keyOf S calls i) =
        t.pool.store.cached (keyOf S calls i) ∨ (keyOf S calls i).display = key ∧
          (t.pool.store.expire S.ctx key).cached (keyOf S calls i) = none := by
      intro i
      unfold Store.expire
      split_ifs
      · by_cases hi : (keyOf S calls i).display = key
        · exact Or.inr ⟨hi, by simp [Store.cached, hi]⟩
        · exact Or.inl (by simp [Store.cached, Redis.expire_apply, hi])
      · exact Or.inl rfl
    refine ⟨h.store.expire hset, h.does, fun i => ?_, h.begun⟩
    have hpg : (t.pool.store.expire S.ctx key).pg = t.pool.store.pg := Store.expire_pg _ _ _
    rcases hcached i with hsame | ⟨hi, hnone⟩
    · exact (h.fact i).mono hsame fun hrow => hpg ▸ hrow
    · by_cases hd : t.during (keyOf S calls i).display i = true
      · obtain ⟨id, hknown⟩ := hrunning i hi hd
        have hfact := h.fact i
        rw [hknown] at hfact ⊢
        exact hfact
      · exact (h.fact i).expire hd (fun _ => hnone) hpg
  | evictFingerprint fingerprintHash =>
    refine ⟨{ h.store with fingerprintCache := fun hash value hv => ?_ }, h.does,
      fun i => (h.fact i).mono rfl id, h.begun⟩
    by_cases hh : hash = fingerprintHash
    · subst hh
      simp [event] at hv
    · exact h.store.fingerprintCache hash value (by simpa [event, hh] using hv)
  | evictHashTable dataHash =>
    refine ⟨{ h.store with hashTableCache := fun hash value hv => ?_ }, h.does,
      fun i => (h.fact i).mono rfl id, h.begun⟩
    by_cases hh : hash = dataHash
    · subst hh
      simp [event] at hv
    · exact h.store.hashTableCache hash value (by simpa [event, hh] using hv)

/-! ## Turns of a call -/

/-- A command of call `i` is answered as its phase expects, and what is stored and
    what the calls know agrees again. -/
def Turned (S : Setup) (calls : ι → Call) (phase : ι → Phase) (s : Store) (i : ι) (c : Cmd)
    (during' : String → ι → Bool) : Prop :=
  ∃ est' next, Next S (calls i) (phase i) c (s.exec c).1 next ∧
    StoreInv S calls est' (Setting S calls (Function.update phase i next)) (s.exec c).2 ∧
    ∀ j, Fact S calls est' (s.exec c).2 during' j (Function.update phase i next j)

theorem setting_update {i : ι} {next : Phase} (hset : phase i = .setting → next = .setting)
    {key : PartitionKey} (h : Setting S calls phase key) :
    Setting S calls (Function.update phase i next) key := by
  obtain ⟨j, hj, hphase⟩ := h
  refine ⟨j, hj, ?_⟩
  by_cases hij : j = i
  · subst hij
    rw [Function.update_self]
    exact hset hphase
  · rwa [Function.update_of_ne hij]

/-- A command that leaves the store as it is. -/
theorem Inv.turned_silent (h : Inv S calls est phase t) {i : ι} {c : Cmd} (next : Phase)
    (hstore : (t.pool.store.exec c).2 = t.pool.store)
    (hnext : Next S (calls i) (phase i) c (t.pool.store.exec c).1 next)
    (hset : phase i = .setting → next = .setting)
    (hfact : Fact S calls est t.pool.store t.during i next) :
    Turned S calls phase t.pool.store i c t.during := by
  refine ⟨est, next, hnext, ?_, fun j => ?_⟩
  · rw [hstore]
    exact h.store.mono fun key hkey => setting_update hset hkey
  · rw [hstore]
    by_cases hij : j = i
    · subst hij
      rwa [Function.update_self]
    · rw [Function.update_of_ne hij]
      exact h.fact j

/-- What a call's read of Postgres answers. -/
theorem query_findQuery (call : Call) (pg : Pg) :
    (pg.query (call.findQuery S.sign)).2 = pg ∧
      ((∃ out row, (pg.query (call.findQuery S.sign)).1 = .ok out ∧
          (call.findQuery S.sign).outputRow out = some row ∧
          pg.rowAt (call.key S.sign) = some row) ∨
        (pg.query (call.findQuery S.sign)).1 = .error .notFound ∧
          pg.rowAt (call.key S.sign) = none) := by
  have aux : ∀ {ρ : Type} (found : Option ρ) (toRow : ρ → Row),
      (∃ out row, oneRow found = .ok out ∧ some (toRow out) = some row ∧
        found.map toRow = some row) ∨ oneRow found = .error .notFound ∧ found.map toRow = none := by
    intro ρ found toRow
    cases found with
    | none => exact Or.inr ⟨rfl, rfl⟩
    | some row => exact Or.inl ⟨row, _, rfl, rfl, rfl⟩
  cases call with
  | fingerprint => exact ⟨rfl, aux _ Row.fingerprint⟩
  | hash => exact ⟨rfl, aux _ Row.hashTable⟩

/-- A read of Postgres. -/
theorem Inv.turned_find (h : Inv S calls est phase t) {i : ι} (pool : DbPool)
    (hphase : (phase i).Reads S.mode) :
    Turned S calls phase t.pool.store i (.query pool ((calls i).findQuery S.sign)) t.during := by
  obtain ⟨hsame, hreply⟩ := query_findQuery (S := S) (calls i) t.pool.store.pg
  have hstore : (t.pool.store.exec (.query pool ((calls i).findQuery S.sign))).2 =
      t.pool.store := by
    have hpg : (t.pool.store.exec (.query pool ((calls i).findQuery S.sign))).2 =
        { t.pool.store with pg := (t.pool.store.pg.query ((calls i).findQuery S.sign)).2 } := rfl
    rw [hpg, hsame]
  have hne : phase i ≠ .setting := by
    intro hs
    rw [hs] at hphase
    rcases hphase with ⟨-, hp | hp⟩ | ⟨-, hp⟩ <;> cases hp
  have hfact := h.fact i
  rcases hreply with ⟨out, row, hok, hout, hrow⟩ | ⟨herr, hnone⟩
  · refine h.turned_silent (.known row.assignedId) hstore ?_ (fun hs => absurd hs hne)
      (h.store.pg i row hrow)
    have hnext : ∃ out row', (t.pool.store.pg.query ((calls i).findQuery S.sign)).1 = .ok out ∧
        ((calls i).findQuery S.sign).outputRow out = some row' ∧
        Phase.known row.assignedId = .known row'.assignedId := ⟨out, row, hok, hout, rfl⟩
    cases hcall : calls i with
    | fingerprint => rw [hcall] at hnext; exact Or.inl hnext
    | hash => rw [hcall] at hnext; exact Or.inl hnext
  · have hheld : phase i ≠ .held := by
      intro hp
      rw [hp] at hfact hphase
      rcases hphase with ⟨hmode, -⟩ | ⟨-, hmissed⟩
      · have hsome := hfact.2.2 hmode
        rw [hnone] at hsome
        cases hsome
      · cases hmissed
    refine h.turned_silent (phase i).afterMiss hstore ?_ (fun hs => absurd hs hne) ?_
    · have hnext : (t.pool.store.pg.query ((calls i).findQuery S.sign)).1 = .error .notFound ∧
          phase i ≠ .held ∧ (phase i).afterMiss = (phase i).afterMiss := ⟨herr, hheld, rfl⟩
      cases hcall : calls i with
      | fingerprint => rw [hcall] at hnext; exact Or.inr hnext
      | hash => rw [hcall] at hnext; exact Or.inr hnext
    · rcases hphase with ⟨-, hp | hp⟩ | ⟨hmode, hp⟩
      · rw [hp]
        trivial
      · exact absurd hp hheld
      · rw [hp] at hfact ⊢
        refine ⟨hmode, ?_⟩
        cases hc : t.pool.store.cached (keyOf S calls i) with
        | none => exact Or.inl (h.store.est_eq_none hnone hc)
        | some row =>
          have hd := hfact.resolve_left (by rw [hc]; exact fun hno => nomatch hno)
          exact Or.inr ⟨rfl, hd⟩

/-- A read of Redis. -/
theorem Inv.turned_getHashField (h : Inv S calls est phase t) {i : ι} (hmode : S.mode = .enabled)
    (hphase : phase i = .fresh ∨ phase i = .held) :
    Turned S calls phase t.pool.store i
      (.getHashField (keyOf S calls i).display (keyOf S calls i).display) t.during := by
  have hne : phase i ≠ .setting := by
    intro hs
    rw [hs] at hphase
    rcases hphase with hp | hp <;> cases hp
  have hfact := h.fact i
  cases hc : t.pool.store.cached (keyOf S calls i) with
  | some row =>
    have hexec := Store.exec_getHashField_some hc
    obtain ⟨hkey, hest⟩ := h.store.redis i row hc
    refine h.turned_silent (.known row.assignedId) (by rw [hexec])
      (Or.inl ⟨row, by rw [hexec], hkey, rfl⟩) (fun hs => absurd hs hne) hest
  | none =>
    have hexec := Store.exec_getHashField_none hc
    have hfresh : phase i = .fresh := by
      refine hphase.resolve_right fun hp => ?_
      rw [hp] at hfact
      have hsome := (hfact.2.1 hmode).1
      rw [hc] at hsome
      cases hsome
    exact h.turned_silent .missed (by rw [hexec])
      (Or.inr ⟨by rw [hexec], hfresh, rfl⟩) (fun hs => absurd hs hne) (Or.inl hc)

/-- Ids given stay given. -/
theorem update_est {key key' : PartitionKey} {id id' : String} (hnone : est key = none)
    (h : est key' = some id') : Function.update est key (some id) key' = some id' := by
  have hne : key' ≠ key := fun he => by
    rw [he, hnone] at h
    cases h
  rwa [Function.update_of_ne hne]

theorem isSome_update_est {key key' : PartitionKey} {id : String} (hnone : est key = none)
    (h : (est key').isSome = true) : (Function.update est key (some id) key').isSome = true := by
  obtain ⟨id', hid⟩ := Option.isSome_iff_exists.1 h
  rw [update_est hnone hid]
  rfl

omit [DecidableEq ι] in
/-- An INSERT of a call that Postgres takes. -/
theorem StoreInv.insert (h : StoreInv S calls est setting s)
    (hinj : ∀ i j u, (calls i).uuid = some u → (calls j).uuid = some u → i = j) {i : ι}
    (scheme : StorageScheme) (hmode : S.mode = .disabled)
    (hest : est (keyOf S calls i) = none) :
    StoreInv S calls (Function.update est (keyOf S calls i) (some (calls i).ownId)) setting
      { s with pg := s.pg.apply ((calls i).statement S.sign scheme) } := by
  have huuid := fun row hrow u hu hid => h.uuids row hrow i u hu hid
  have hrows := rowAt_apply_statement scheme huuid
  have hgrow := fun key' id' => @update_est est (keyOf S calls i) key' (calls i).ownId id' hest
  refine
    { h with
      fingerprintCache := fun hash value hv => hgrow _ _ (h.fingerprintCache hash value hv)
      hashTableCache := fun hash value hv => hgrow _ _ (h.hashTableCache hash value hv)
      redis := fun j row hj => (h.redis j row hj).imp_right (hgrow _ _)
      pg := ?_
      streams := ?_
      stored := ?_
      owed := ?_
      uuids := h.uuids.apply hinj i }
  · intro j row hj
    rcases hrows (keyOf S calls j) with hsame | ⟨hkey, -, row', hrow', hid⟩
    · exact hgrow _ _ (h.pg j row (hsame.symm.trans hj))
    · obtain rfl : row' = row := Option.some.inj (hrow'.symm.trans hj)
      rw [hkey, hid]
      exact Function.update_self ..
  · intro stream entry hentry
    obtain ⟨j, he, hs, hj, hc⟩ := h.streams stream entry hentry
    exact ⟨j, he, hs, hgrow _ _ hj, hc⟩
  · intro j hj
    by_cases hkey : keyOf S calls j = keyOf S calls i
    · rw [hkey]
      exact Or.inl (isSome_rowAt_apply_statement _ huuid)
    · rw [Function.update_of_ne hkey] at hj
      refine (h.stored j hj).imp_left fun hrow => ?_
      rcases hrows (keyOf S calls j) with hsame | ⟨hkey', -⟩
      · exact hsame ▸ hrow
      · exact absurd hkey' hkey
  · intro j hj
    have hc : s.cached (keyOf S calls j) = none := h.disabled hmode j
    change (s.cached (keyOf S calls j)).isSome = true at hj
    rw [hc] at hj
    cases hj

omit [DecidableEq ι] in
/-- A fact of another call, when a hash gets its id in Postgres. -/
theorem Fact.insert {i j : ι} {phase : Phase} {s' : Store}
    (h : Fact S calls est s during j phase) (hmode : S.mode = .disabled)
    (hest : est (keyOf S calls i) = none)
    (hc : s'.cached (keyOf S calls j) = s.cached (keyOf S calls j))
    (hpg : (s.pg.rowAt (keyOf S calls j)).isSome = true →
      (s'.pg.rowAt (keyOf S calls j)).isSome = true) :
    Fact S calls (Function.update est (keyOf S calls i) (some (calls i).ownId)) s' during j
      phase := by
  have h' := h.mono hc hpg
  cases phase with
  | fresh => trivial
  | missed => exact h'
  | absent => exact absurd (hmode.symm.trans h.1) (by decide)
  | setting => exact ⟨update_est hest h'.1, h'.2⟩
  | held => exact ⟨isSome_update_est hest h'.1, h'.2⟩
  | known id => exact update_est hest h'

/-- The INSERT of a call. -/
theorem Inv.turned_insert (h : Inv S calls est phase t)
    (hinj : ∀ i j u, (calls i).uuid = some u → (calls j).uuid = some u → i = j) {i : ι}
    (pool : DbPool) (hmode : S.mode = .disabled) (hphase : phase i = .fresh) :
    Turned S calls phase t.pool.store i
      (.query pool (.execute ((calls i).statement S.sign .postgresOnly))) t.during := by
  have huuid := fun row hrow u hu hid => h.store.uuids row hrow i u hu hid
  have hset : ∀ next, phase i = .setting → next = Phase.setting :=
    fun _ hs => nomatch hphase.symm.trans hs
  have hexec : (t.pool.store.exec (.query pool (.execute ((calls i).statement S.sign
      .postgresOnly)))).2 = { t.pool.store with
        pg := t.pool.store.pg.apply ((calls i).statement S.sign .postgresOnly) } := rfl
  rcases execute_statement .postgresOnly huuid with
    ⟨out, row, hok, hout, hid, hnone, hrow⟩ | ⟨herr, hsome, hsame⟩
  · have hest : est (keyOf S calls i) = none :=
      h.store.est_eq_none hnone (h.store.disabled hmode i)
    refine ⟨Function.update est (keyOf S calls i) (some (calls i).ownId), .known row.assignedId,
      Or.inl ⟨out, row, hok, hout, Pg.partitionKey_of_rowAt hrow, rfl⟩, ?_, fun j => ?_⟩
    · rw [hexec]
      exact (h.store.insert hinj _ hmode hest).mono fun key hkey => setting_update (hset _) hkey
    · by_cases hij : j = i
      · subst hij
        rw [Function.update_self]
        exact (Function.update_self ..).trans (congrArg some hid.symm)
      · rw [Function.update_of_ne hij]
        refine (h.fact j).insert hmode hest rfl fun hsome => ?_
        rcases rowAt_apply_statement .postgresOnly huuid (keyOf S calls j) with
          hsame | ⟨hkey, -⟩
        · exact (congrArg Option.isSome hsame).trans hsome
        · rw [show keyOf S calls j = keyOf S calls i from hkey, hnone] at hsome
          cases hsome
  · have hstore := hexec
    rw [hsame] at hstore
    obtain ⟨row, hrow⟩ := Option.isSome_iff_exists.1 hsome
    exact h.turned_silent .held hstore (Or.inr ⟨herr, rfl⟩) (hset _)
      ⟨Option.isSome_iff_exists.2 ⟨_, h.store.pg i row hrow⟩,
        fun henabled => absurd (hmode.symm.trans henabled) (by decide), fun _ => hsome⟩

variable (S calls) in
/-- The store after an `HSETNX` that has set the row of call `i`. -/
def withRow (s : Store) (i : ι) : Store :=
  let key := (keyOf S calls i).display
  { s with redis := s.redis.setField key key ((calls i).row S.sign) }

omit [DecidableEq ι] in
theorem cached_withRow (s : Store) (i j : ι) :
    (withRow S calls s i).cached (keyOf S calls j) =
      if keyOf S calls j = keyOf S calls i then some ((calls i).row S.sign)
      else s.cached (keyOf S calls j) := by
  split_ifs with hkey
  · simp [withRow, Store.cached, hkey]
  · have hne : (keyOf S calls j).display ≠ (keyOf S calls i).display :=
      fun hd => hkey (Call.display_inj hd)
    simp [withRow, Store.cached, Redis.setField_apply, hne]

omit [DecidableEq ι] in
theorem isSome_cached_withRow {s : Store} {j : ι} (i : ι)
    (hj : (s.cached (keyOf S calls j)).isSome = true) :
    ((withRow S calls s i).cached (keyOf S calls j)).isSome = true := by
  rw [cached_withRow]
  split_ifs
  · rfl
  · exact hj

omit [DecidableEq ι] in
/-- An `HSETNX` of a call's row that sets the field. -/
theorem StoreInv.withRow (h : StoreInv S calls est setting s) {i : ι} (hmode : S.mode = .enabled)
    (hest : est (keyOf S calls i) = none) (hset : setting (keyOf S calls i)) :
    StoreInv S calls (Function.update est (keyOf S calls i) (some (calls i).ownId)) setting
      (withRow S calls s i) := by
  have hgrow := fun key' id' => @update_est est (keyOf S calls i) key' (calls i).ownId id' hest
  refine
    { h with
      fingerprintCache := fun hash value hv => hgrow _ _ (h.fingerprintCache hash value hv)
      hashTableCache := fun hash value hv => hgrow _ _ (h.hashTableCache hash value hv)
      redis := ?_
      pg := fun j row hj => hgrow _ _ (h.pg j row hj)
      streams := ?_
      stored := ?_
      owed := ?_
      disabled := fun hdis => absurd (hmode.symm.trans hdis) (by decide) }
  · intro j row hj
    rw [cached_withRow] at hj
    split_ifs at hj with hkey
    · cases hj
      rw [hkey]
      exact ⟨Call.row_partitionKey _, by rw [Call.row_assignedId]; exact Function.update_self ..⟩
    · exact (h.redis j row hj).imp_right (hgrow _ _)
  · intro stream entry hentry
    obtain ⟨j, he, hs, hj, hc⟩ := h.streams stream entry hentry
    exact ⟨j, he, hs, hgrow _ _ hj, isSome_cached_withRow i hc⟩
  · intro j hj
    by_cases hkey : keyOf S calls j = keyOf S calls i
    · refine Or.inr ?_
      rw [cached_withRow, if_pos hkey]
      rfl
    · rw [Function.update_of_ne hkey] at hj
      exact (h.stored j hj).imp_right (isSome_cached_withRow i)
  · intro j hj
    rw [cached_withRow] at hj
    split_ifs at hj with hkey
    · rw [hkey]
      exact Or.inr (Or.inr hset)
    · exact h.owed j hj

omit [DecidableEq ι] in
/-- A fact of another call, when a hash gets its id in Redis: a call of the same
    hash keeps the key from expiring. -/
theorem Fact.withRow {i j : ι} {phase : Phase} {during' : String → ι → Bool}
    (h : Fact S calls est s during j phase) (hest : est (keyOf S calls i) = none)
    (hkept : keyOf S calls j = keyOf S calls i → phase.midway = true →
      during' (keyOf S calls i).display j = true)
    (hother : ∀ key, key ≠ (keyOf S calls i).display → during' key = during key) :
    Fact S calls (Function.update est (keyOf S calls i) (some (calls i).ownId))
      (withRow S calls s i) during' j phase := by
  by_cases hkey : keyOf S calls j = keyOf S calls i
  · have hcached : ((Dedup.withRow S calls s i).cached (keyOf S calls j)).isSome = true := by
      rw [cached_withRow, if_pos hkey]
      rfl
    rw [← hkey] at hkept hest
    cases phase with
    | fresh => trivial
    | missed => exact Or.inr (hkept rfl rfl)
    | absent => exact ⟨h.1, Or.inr ⟨hcached, hkept rfl rfl⟩⟩
    | setting =>
      rw [Fact, hest] at h
      exact nomatch h.1
    | held =>
      rw [Fact, hest] at h
      exact nomatch h.1
    | known id =>
      rw [Fact, hest] at h
      exact nomatch h
  · have hd : during' (keyOf S calls j).display = during (keyOf S calls j).display :=
      hother _ fun hdisplay => hkey (Call.display_inj hdisplay)
    have hcached : (Dedup.withRow S calls s i).cached (keyOf S calls j) =
        s.cached (keyOf S calls j) := by
      rw [cached_withRow, if_neg hkey]
    have hne := Function.update_of_ne hkey (some (calls i).ownId) est
    cases phase with
    | fresh => trivial
    | missed => simpa only [Fact, hcached, hd] using h
    | absent => simpa only [Fact, hcached, hd, hne] using h
    | setting => simpa only [Fact, hcached, hd, hne] using h
    | held =>
      have hpg : (Dedup.withRow S calls s i).pg = s.pg := rfl
      simpa only [Fact, hcached, hd, hne, hpg] using h
    | known id => simpa only [Fact, hne] using h

/-- An `HSETNX` of a call's row. The calls of the same hash that are on their way
    are in flight, and keep the key from expiring. -/
theorem Inv.turned_setHashFieldIfNotExist (h : Inv S calls est phase t) {i : ι}
    (hmode : S.mode = .enabled) (hphase : phase i = .absent) (ttl : ℕ)
    {during' : String → ι → Bool}
    (hset : t.pool.store.cached (keyOf S calls i) = none →
      (∀ j, (Function.update phase i .setting j).midway = true →
        during' (keyOf S calls i).display j = true) ∧
      ∀ key, key ≠ (keyOf S calls i).display → during' key = t.during key)
    (hsame : t.pool.store.cached (keyOf S calls i) ≠ none → during' = t.during) :
    Turned S calls phase t.pool.store i (.setHashFieldIfNotExist (keyOf S calls i).display
      (keyOf S calls i).display ((calls i).row S.sign) ttl) during' := by
  have hfact := h.fact i
  rw [hphase] at hfact
  cases hc : t.pool.store.cached (keyOf S calls i) with
  | some row =>
    have hexec := Store.exec_setHashFieldIfNotExist_some hc ((calls i).row S.sign) ttl
    rw [hsame (by rw [hc]; exact fun hno => nomatch hno)]
    have hest := (h.store.redis i row hc).2
    have hd := hfact.2.resolve_left (by rw [hest]; exact fun hno => nomatch hno)
    refine h.turned_silent .held (by rw [hexec]) (Or.inr ⟨by rw [hexec], rfl⟩)
      (fun hs => nomatch hphase.symm.trans hs)
      ⟨Option.isSome_iff_exists.2 ⟨_, hest⟩, fun _ => hd, fun hdis => ?_⟩
    exact absurd (hmode.symm.trans hdis) (by decide)
  | none =>
    have hexec : t.pool.store.exec (.setHashFieldIfNotExist (keyOf S calls i).display
        (keyOf S calls i).display ((calls i).row S.sign) ttl) =
          (.ok .keySet, withRow S calls t.pool.store i) :=
      Store.exec_setHashFieldIfNotExist_none hc ((calls i).row S.sign) ttl
    obtain ⟨hflight, hother⟩ := hset hc
    have hest : est (keyOf S calls i) = none := by
      refine hfact.2.resolve_right fun hsome => ?_
      rw [hc] at hsome
      exact nomatch hsome.1
    have hstore : StoreInv S calls est (Setting S calls (Function.update phase i .setting))
        t.pool.store := h.store.mono fun key hkey => setting_update (fun _ => rfl) hkey
    refine ⟨Function.update est (keyOf S calls i) (some (calls i).ownId), .setting,
      Or.inl ⟨by rw [hexec], rfl⟩, ?_, fun j => ?_⟩
    · rw [hexec]
      exact hstore.withRow hmode hest ⟨i, rfl, Function.update_self ..⟩
    · rw [hexec]
      by_cases hij : j = i
      · subst hij
        rw [Function.update_self]
        refine ⟨Function.update_self .., ?_, hflight j (by rw [Function.update_self]; rfl)⟩
        rw [cached_withRow, if_pos rfl]
        rfl
      · rw [Function.update_of_ne hij]
        refine (h.fact j).withRow hest (fun _ hmid => hflight j ?_) hother
        rwa [Function.update_of_ne hij]

/-- The append of the entry that a call owes. -/
theorem Inv.turned_streamAppendEntry (h : Inv S calls est phase t) {i : ι}
    (hphase : phase i = .setting) :
    Turned S calls phase t.pool.store i
      (.streamAppendEntry (S.ctx.stream (keyOf S calls i)) ((calls i).entry S.sign))
      t.during := by
  have hfact := h.fact i
  rw [hphase] at hfact
  let streams := Function.update t.pool.store.streams (S.ctx.stream (keyOf S calls i))
    (t.pool.store.streams (S.ctx.stream (keyOf S calls i)) ++ [(calls i).entry S.sign])
  have hkept : ∀ stream, ∀ entry ∈ t.pool.store.streams stream, entry ∈ streams stream := by
    intro stream entry hentry
    by_cases hs : stream = S.ctx.stream (keyOf S calls i)
    · subst hs
      simp only [streams, Function.update_self]
      exact List.mem_append_left _ hentry
    · simp only [streams, Function.update_of_ne hs]
      exact hentry
  refine ⟨est, .known (calls i).ownId, ⟨rfl, rfl⟩, ?_, fun j => ?_⟩
  · refine { h.store with streams := ?_, owed := ?_ }
    · intro stream entry hentry
      change entry ∈ streams stream at hentry
      by_cases hs : stream = S.ctx.stream (keyOf S calls i)
      · subst hs
        simp only [streams, Function.update_self] at hentry
        rcases List.mem_append.1 hentry with hentry | hentry
        · exact h.store.streams _ entry hentry
        · exact ⟨i, List.mem_singleton.1 hentry, rfl, hfact.1, hfact.2.1⟩
      · simp only [streams, Function.update_of_ne hs] at hentry
        exact h.store.streams stream entry hentry
    · intro j hj
      rcases h.store.owed j hj with hpg | ⟨k, hk, hmem⟩ | ⟨k, hk, hset⟩
      · exact Or.inl hpg
      · exact Or.inr (Or.inl ⟨k, hk, hkept _ _ hmem⟩)
      · by_cases hki : k = i
        · subst hki
          refine Or.inr (Or.inl ⟨k, hk, ?_⟩)
          change _ ∈ streams _
          rw [← hk]
          simp [streams]
        · exact Or.inr (Or.inr ⟨k, hk, by rwa [Function.update_of_ne hki]⟩)
  · by_cases hij : j = i
    · subst hij
      rw [Function.update_self]
      exact hfact.1
    · rw [Function.update_of_ne hij]
      exact h.fact j

/-- The caches are asked for a hash. -/
theorem Inv.turned_lookupFingerprint (h : Inv S calls est phase t) {i : ι}
    {fingerprintHash : Bytes} (hkey : keyOf S calls i = .fingerprint fingerprintHash)
    (hphase : phase i ≠ .setting) :
    Turned S calls phase t.pool.store i (.lookupFingerprint fingerprintHash) t.during := by
  cases hc : t.pool.store.fingerprintCache fingerprintHash with
  | none => exact h.turned_silent (phase i) rfl (Or.inr ⟨hc, rfl⟩) id (h.fact i)
  | some value =>
    refine h.turned_silent (.known value.fingerprintId) rfl (Or.inl ⟨value, hc, rfl⟩)
      (fun hs => absurd hs hphase) ?_
    rw [Fact, hkey]
    exact h.store.fingerprintCache fingerprintHash value hc

theorem Inv.turned_lookupHashTable (h : Inv S calls est phase t) {i : ι} {dataHash : Bytes}
    (hkey : keyOf S calls i = .hashTable dataHash) (hphase : phase i ≠ .setting) :
    Turned S calls phase t.pool.store i (.lookupHashTable dataHash) t.during := by
  cases hc : t.pool.store.hashTableCache dataHash with
  | none => exact h.turned_silent (phase i) rfl (Or.inr ⟨hc, rfl⟩) id (h.fact i)
  | some value =>
    refine h.turned_silent (.known value.hashId) rfl (Or.inl ⟨value, hc, rfl⟩)
      (fun hs => absurd hs hphase) ?_
    rw [Fact, hkey]
    exact h.store.hashTableCache dataHash value hc

/-- A row goes into a cache. -/
theorem Inv.turned_cacheFingerprint (h : Inv S calls est phase t) {i : ι} {fingerprintHash : Bytes}
    {value : Fingerprint} (hkey : keyOf S calls i = .fingerprint fingerprintHash)
    (hphase : phase i = .known value.fingerprintId) :
    Turned S calls phase t.pool.store i (.cacheFingerprint fingerprintHash value) t.during := by
  have hfact := h.fact i
  rw [hphase, Fact, hkey] at hfact
  refine ⟨est, phase i, rfl, ?_, ?_⟩
  · rw [Function.update_eq_self]
    refine { h.store with fingerprintCache := fun hash value' hv => ?_ }
    by_cases hh : hash = fingerprintHash
    · subst hh
      simp only [Store.exec, Function.update_self, Option.some.injEq] at hv
      rw [← hv]
      exact hfact
    · exact h.store.fingerprintCache hash value' (by simpa [Store.exec, hh] using hv)
  · rw [Function.update_eq_self]
    exact h.fact

theorem Inv.turned_cacheHashTable (h : Inv S calls est phase t) {i : ι} {dataHash : Bytes}
    {value : HashTable} (hkey : keyOf S calls i = .hashTable dataHash)
    (hphase : phase i = .known value.hashId) :
    Turned S calls phase t.pool.store i (.cacheHashTable dataHash value) t.during := by
  have hfact := h.fact i
  rw [hphase, Fact, hkey] at hfact
  refine ⟨est, phase i, rfl, ?_, ?_⟩
  · rw [Function.update_eq_self]
    refine { h.store with hashTableCache := fun hash value' hv => ?_ }
    by_cases hh : hash = dataHash
    · subst hh
      simp only [Store.exec, Function.update_self, Option.some.injEq] at hv
      rw [← hv]
      exact hfact
    · exact h.store.hashTableCache hash value' (by simpa [Store.exec, hh] using hv)
  · rw [Function.update_eq_self]
    exact h.fact

/-- Every allowed command is answered as the phase expects. -/
theorem Inv.turned (h : Inv S calls est phase t)
    (hinj : ∀ i j u, (calls i).uuid = some u → (calls j).uuid = some u → i = j) {i : ι} {c : Cmd}
    {during' : String → ι → Bool} (hallowed : Allowed S (calls i) (phase i) c)
    (hsilent : writtenKey t.pool.store.redis c = none → during' = t.during)
    (hset : ∀ key, writtenKey t.pool.store.redis c = some key →
      (∀ j, (Function.update phase i .setting j).midway = true → during' key j = true) ∧
        ∀ key', key' ≠ key → during' key' = t.during key') :
    Turned S calls phase t.pool.store i c during' := by
  have hquiet : ∀ {c : Cmd}, (t.pool.store.exec c).2 = t.pool.store →
      Next S (calls i) (phase i) c (t.pool.store.exec c).1 (phase i) →
        Turned S calls phase t.pool.store i c t.during :=
    fun hstore hnext => h.turned_silent _ hstore hnext id (h.fact i)
  cases c with
  | runtimeConfig =>
    rw [hsilent rfl]
    exact hquiet rfl ⟨h.store.config, rfl⟩
  | hasReplica =>
    rw [hsilent rfl]
    exact hquiet rfl ⟨h.store.hasReplica, rfl⟩
  | getConn pool =>
    rw [hsilent rfl]
    exact hquiet rfl ⟨rfl, rfl⟩
  | getRedisConn =>
    rw [hsilent rfl]
    exact hquiet rfl ⟨rfl, rfl⟩
  | query pool q =>
    rw [hsilent rfl]
    by_cases hq : ∃ stmt, q = .execute stmt
    · obtain ⟨stmt, rfl⟩ := hq
      obtain ⟨hmode, hphase, rfl⟩ := hallowed
      exact h.turned_insert hinj pool hmode hphase
    · have hread : q = (calls i).findQuery S.sign ∧ (phase i).Reads S.mode := by
        cases q <;> first | exact hallowed | exact absurd ⟨_, rfl⟩ hq
      obtain ⟨rfl, hphase⟩ := hread
      exact h.turned_find pool hphase
  | setHashFields => exact hallowed.elim
  | setHashFieldIfNotExist key field value ttl =>
    obtain ⟨hmode, hphase, rfl, rfl, rfl⟩ := hallowed
    refine h.turned_setHashFieldIfNotExist hmode hphase ttl (fun hc => ?_) fun hc => hsilent ?_
    · refine hset _ ?_
      unfold Store.cached at hc
      simp [writtenKey, hc]
    · unfold Store.cached at hc
      simp [writtenKey, Option.isNone_iff_eq_none, hc]
  | getHashField key field =>
    obtain ⟨hmode, hphase, rfl, rfl⟩ := hallowed
    rw [hsilent rfl]
    exact h.turned_getHashField hmode hphase
  | deleteHashFields => exact hallowed.elim
  | streamAppendEntry stream entry =>
    obtain ⟨hphase, rfl, rfl⟩ := hallowed
    rw [hsilent rfl]
    exact h.turned_streamAppendEntry hphase
  | lookupFingerprint fingerprintHash =>
    rw [hsilent rfl]
    exact h.turned_lookupFingerprint hallowed.1 hallowed.2
  | cacheFingerprint fingerprintHash value =>
    rw [hsilent rfl]
    exact h.turned_cacheFingerprint hallowed.1 hallowed.2
  | lookupHashTable dataHash =>
    rw [hsilent rfl]
    exact h.turned_lookupHashTable hallowed.1 hallowed.2
  | cacheHashTable dataHash value =>
    rw [hsilent rfl]
    exact h.turned_cacheHashTable hallowed.1 hallowed.2

omit [DecidableEq ι] in
/-- A call that writes a Redis key owes an entry from then on. -/
theorem next_setting {i : ι} {c : Cmd} {key : String}
    (hallowed : Allowed S (calls i) (phase i) c) (hw : writtenKey s.redis c = some key) :
    Next S (calls i) (phase i) c (s.exec c).1 .setting := by
  cases c with
  | setHashFields => exact hallowed.elim
  | setHashFieldIfNotExist k field value ttl =>
    have hc : s.redis k field = none := by
      simp only [writtenKey, ite_eq_iff, Option.isNone_iff_eq_none] at hw
      exact (hw.resolve_right fun hno => nomatch hno.2).1
    refine Or.inl ⟨?_, rfl⟩
    simp only [Store.exec, hc]
    rfl
  | _ => cases hw

/-- A turn of a call keeps the invariant. -/
theorem Inv.thread (h : Inv S calls est phase t)
    (hinj : ∀ i j u, (calls i).uuid = some u → (calls j).uuid = some u → i = j) (i : ι) :
    ∃ est' phase', Inv S calls est' phase' (t.step S (.thread i)) := by
  cases hi : t.pool.threads i with
  | pure reply =>
    have hpool : t.pool.step Store.exec (event S.ctx) (.thread i) = t.pool := Pool.step_ended hi
    have hsame : t.step S (.thread i) = t := by
      simp only [Traffic.step, hpool, Pool.nextCommand, hi]
      rfl
    rw [hsame]
    exact ⟨est, phase, h⟩
  | call c k =>
    obtain ⟨hallowed, hnext⟩ := Pool.wp_step (p := t.pool) hi (h.does i)
    have hpool : t.pool.step Store.exec (event S.ctx) (.thread i) = _ := Pool.step_thread hi
    have hnextCommand : t.pool.nextCommand i = some c := by simp only [Pool.nextCommand, hi]
    have hstep : t.step S (.thread i) =
        ⟨t.pool.step Store.exec (event S.ctx) (.thread i), (t.step S (.thread i)).during⟩ := by
      simp only [Traffic.step]
      split <;> rfl
    have hturned : Turned S calls phase t.pool.store i c (t.step S (.thread i)).during := by
      refine h.turned hinj hallowed (fun hw => ?_) fun key hw => ?_
      · simp only [Traffic.step, hnextCommand, Option.bind_some, hw]
      · have hduring : (t.step S (.thread i)).during = Function.update t.during key
            (inFlight (t.pool.step Store.exec (event S.ctx) (.thread i))) := by
          simp only [Traffic.step, hnextCommand, Option.bind_some, hw]
        rw [hduring]
        refine ⟨fun j hmid => ?_, fun key' hne => Function.update_of_ne hne ..⟩
        rw [Function.update_self, hpool]
        by_cases hij : j = i
        · subst hij
          have hsetting := hnext _ (next_setting hallowed hw)
          simp only [inFlight, List.any_cons, decide_true, Bool.true_or, Bool.true_and,
            Function.update_self]
          cases hk : k (t.pool.store.exec c).1 with
          | call => rfl
          | pure reply =>
            rw [hk] at hsetting
            obtain ⟨row, -, hknown⟩ := hsetting
            cases hknown
        · rw [Function.update_of_ne hij] at hmid
          have hbegun := h.begun j (by rintro hp; rw [hp] at hmid; cases hmid)
          simp only [inFlight, List.any_cons, hbegun, Bool.or_true, Bool.true_and,
            Function.update_of_ne hij]
          cases hj : t.pool.threads j with
          | call => rfl
          | pure reply =>
            obtain ⟨row, -, hknown⟩ := h.known_of_ended hj
            rw [hknown] at hmid
            cases hmid
    obtain ⟨est', next, hnext', hstore, hfact⟩ := hturned
    refine ⟨est', Function.update phase i next, ?_⟩
    rw [hstep, hpool]
    refine ⟨hstore, fun j => ?_, hfact, fun j hj => ?_⟩
    · by_cases hij : j = i
      · subst hij
        simp only [Function.update_self]
        exact hnext next hnext'
      · simp only [Function.update_of_ne hij]
        exact h.does j
    · by_cases hij : j = i
      · subst hij
        simp
      · rw [Function.update_of_ne hij] at hj
        simp [h.begun j hj]

/-- Every turn keeps the invariant. -/
theorem step_inv
    (hinj : ∀ i j u, (calls i).uuid = some u → (calls j).uuid = some u → i = j)
    (t : Traffic ι) (turn : Turn ι Event) (h : ∃ est phase, Inv S calls est phase t)
    (hok : TtlExceedsCalls t turn) : ∃ est phase, Inv S calls est phase (t.step S turn) := by
  obtain ⟨est, phase, h⟩ := h
  cases turn with
  | thread i => exact h.thread hinj i
  | env e => exact ⟨est, phase, h.env hinj e hok⟩

/-- Before the first turn, a hash has the id of its row in Postgres. -/
theorem start_inv (hmode : S.mode = .disabled ∨ S.mode = .enabled) {pg : Pg}
    (huuid : FreshUuids calls pg) :
    ∃ est phase, Inv S calls est phase (Traffic.start S pg calls) := by
  refine ⟨fun key => (pg.rowAt key).map Row.assignedId, fun _ => .fresh, ?_⟩
  refine ⟨?_, fun i => (calls i).does_app hmode, fun _ => trivial, fun i hi => absurd rfl hi⟩
  exact
    { config := rfl
      hasReplica := rfl
      fingerprintCache := fun _ _ hv => nomatch hv
      hashTableCache := fun _ _ hv => nomatch hv
      redis := fun _ _ hrow => nomatch hrow
      pg := fun i row hrow => congrArg (Option.map Row.assignedId) hrow
      streams := fun _ _ hentry => nomatch hentry
      stored := fun i hi => Or.inl ((Option.isSome_map ..).symm.trans hi)
      owed := fun _ hi => nomatch hi
      disabled := fun _ _ => rfl
      uuids := fun row hrow i u hu hid => absurd hid (huuid.unused i u hu row hrow) }

end Invariant

/-! ## Main result -/

section Main

variable {ι : Type} [DecidableEq ι]

/-- The pool takes its turns whatever is recorded of Redis keys. -/
theorem runActs_pool (S : Setup) (turns : List (Turn ι Event)) :
    ∀ t : Traffic ι, (runActs (Traffic.step S) turns t).pool =
      runActs (fun pool turn => pool.step Store.exec (event S.ctx) turn) turns t.pool := by
  induction turns with
  | nil => exact fun _ => rfl
  | cons turn turns ih =>
    intro t
    rw [runActs_cons, runActs_cons, ih]
    congr 1
    simp only [Traffic.step]
    split <;> rfl

/-- However calls, the drainer, the TTL and the caches interleave, in a fixed mode
    and from any tables: calls with one hash answer rows with one id, no call
    fails, and a call that has had its 30 turns has ended. -/
theorem ids_agree (S : Setup) (hmode : S.mode = .disabled ∨ S.mode = .enabled) (calls : ι → Call)
    (pg : Pg) (huuid : FreshUuids calls pg) (turns : List (Turn ι Event))
    (hgood : Good (Traffic.step S) TtlExceedsCalls turns (Traffic.start S pg calls)) :
    let threads := (runActs (Traffic.step S) turns (Traffic.start S pg calls)).pool.threads
    (∀ i j row row', threads i = .pure (.ok row) → threads j = .pure (.ok row') →
        (calls i).key S.sign = (calls j).key S.sign → row.assignedId = row'.assignedId) ∧
      (∀ i e, threads i ≠ .pure (.error e)) ∧
      ∀ i, 30 ≤ Turn.countThread i turns → ∃ row, threads i = .pure (.ok row) := by
  obtain ⟨est, phase, h⟩ := run_invariant (step_inv huuid.injective) turns _
    (start_inv hmode huuid) hgood
  have hanswer : ∀ i reply,
      (runActs (Traffic.step S) turns (Traffic.start S pg calls)).pool.threads i = .pure reply →
        ∃ row, reply = .ok row ∧ est ((calls i).key S.sign) = some row.assignedId := by
    intro i reply hi
    obtain ⟨row, rfl, hknown⟩ := h.known_of_ended hi
    have hfact := h.fact i
    rw [hknown] at hfact
    exact ⟨row, rfl, hfact⟩
  refine ⟨fun i j row row' hi hj hkey => ?_, fun i e hi => ?_, fun i hcount => ?_⟩
  · obtain ⟨_, hrow, hest⟩ := hanswer i _ hi
    obtain ⟨_, hrow', hest'⟩ := hanswer j _ hj
    cases hrow
    cases hrow'
    rw [hkey] at hest
    exact Option.some.inj (hest.symm.trans hest')
  · obtain ⟨_, hrow, -⟩ := hanswer i _ hi
    cases hrow
  · have hwithin : ((Traffic.start S pg calls).pool.threads i).Within 30 :=
      (calls i).within_app S.ctx S.sign
    obtain ⟨reply, hreply⟩ := Pool.ended_of_turns turns hwithin hcount
    rw [← runActs_pool] at hreply
    obtain ⟨row, rfl, -⟩ := hanswer i reply hreply
    exact ⟨row, hreply⟩

/-- Three callers with ids of their own: two that race, and a late one. -/
def racers : Fin 3 → Call
  | 0 => .fingerprint "card" "key" (some ⟨"aaaaaaaaaaaaaaaaaaaa", by decide, by decide⟩)
    ⟨"00000000000000000000", by decide, by decide⟩
  | 1 => .fingerprint "card" "key" (some ⟨"bbbbbbbbbbbbbbbbbbbb", by decide, by decide⟩)
    ⟨"11111111111111111111", by decide, by decide⟩
  | 2 => .fingerprint "card" "key" none ⟨"22222222222222222222", by decide, by decide⟩

/-- The mode that writes to Redis. -/
def raceSetup : Setup :=
  { ctx := KvStoreContext.default, sign := fun _ _ => [7]
    config := some ⟨.enabled, false⟩, hasReplica := false }

/-- Both racers miss before either inserts; the late caller comes when the Redis key
    has expired. -/
def raceTurns : List (Turn (Fin 3) Event) :=
  let key := (racers 0).key raceSetup.sign
  List.replicate 7 (.thread 0) ++ List.replicate 7 (.thread 1) ++ List.replicate 30 (.thread 1) ++
    List.replicate 30 (.thread 0) ++ [.env (.drain (raceSetup.ctx.stream key)),
      .env (.expire key.display), .env (.evictFingerprint [7])] ++
    List.replicate 30 (.thread 2)

theorem ids_agree_racers :
    let threads := (runActs (Traffic.step raceSetup) raceTurns
      (Traffic.start raceSetup Pg.empty racers)).pool.threads
    ∃ row row' row'', threads 0 = .pure (.ok row) ∧ threads 1 = .pure (.ok row') ∧
      threads 2 = .pure (.ok row'') ∧ row.assignedId = row'.assignedId ∧
        row.assignedId = row''.assignedId := by
  have hnone : ∀ i, (racers i).uuid = none := fun | 0 => rfl | 1 => rfl | 2 => rfl
  have huuid : FreshUuids racers Pg.empty :=
    ⟨fun i j u hi => (nomatch (hnone i).symm.trans hi),
      fun i u hi => (nomatch (hnone i).symm.trans hi)⟩
  obtain ⟨hagree, -, hend⟩ := ids_agree raceSetup (Or.inr rfl) racers Pg.empty huuid raceTurns
    (by decide +kernel)
  obtain ⟨row, hrow⟩ := hend 0 (by decide)
  obtain ⟨row', hrow'⟩ := hend 1 (by decide)
  obtain ⟨row'', hrow''⟩ := hend 2 (by decide)
  exact ⟨row, row', row'', hrow, hrow', hrow'', hagree 0 1 row row' hrow hrow' rfl,
    hagree 0 2 row row'' hrow hrow'' rfl⟩

end Main

end Dedup

end CardVault
