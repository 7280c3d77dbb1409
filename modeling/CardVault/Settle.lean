import CardVault.Lib.Runs
import CardVault.Kv.Resource

/-!
# What the environment does on its own

Between two calls the drainer replays queued statements and Redis keys expire.
`Store.settled` is the row of one key once everything queued for it is replayed;
where the primary key is the only unique key, the environment cannot change it.

Main results:
* `settled_settle`: the environment leaves the settled row of a key as it is.
* `settle_cached`: Redis keeps its row of a key, or loses it when nothing about
  the key is queued; then Postgres has the settled row (`view_eq_settled`).
* `exists_settle_apply`: the environment can replay a stream up to any statement.
* `exists_settle_expired`: the environment can replay the stream of a key to its
  end and let the key expire.
* `forall_settle_view_iff`: what the row of a key can be is what the prefixes of
  its stream make of it.
* `forall_settle_extends_iff`: which further entries make no difference.
-/

namespace CardVault

open Interaction Stream

/-- A step of the environment that needs no call. -/
inductive EnvStep where
  | drain (stream : String)
  | expire (key : String)
  deriving DecidableEq, Repr

namespace Store

variable (ctx : KvStoreContext)

/-- The environment takes a step. -/
def envStep (s : Store) : EnvStep → Store
  | .drain stream => s.drain stream
  | .expire key => s.expire ctx key

/-- The environment runs on its own. -/
def settle (s : Store) (steps : List EnvStep) : Store := runActs (envStep ctx) steps s

/-- The statements about `key` that wait in its stream. -/
def queued (s : Store) (key : PartitionKey) : List Statement :=
  ((s.streams (ctx.stream key)).map fun entry => entry.query.statement).filter
    fun stmt => stmt.partitionKey = key

/-- The row of `key`, up to its serial number, once the statements queued for it
    are replayed. -/
def settled (s : Store) (key : PartitionKey) : Option Row :=
  (s.queued ctx key).foldl (fun row stmt => stmt.act row) (s.pg.view key)

variable {ctx} {s : Store} {key : PartitionKey}

@[simp] theorem settle_nil (s : Store) : s.settle ctx [] = s := rfl

@[simp] theorem settle_cons (s : Store) (e : EnvStep) (steps : List EnvStep) :
    s.settle ctx (e :: steps) = (s.envStep ctx e).settle ctx steps := rfl

theorem settle_append (s : Store) (steps steps' : List EnvStep) :
    s.settle ctx (steps ++ steps') = (s.settle ctx steps).settle ctx steps' :=
  runActs_append _ steps steps' s

theorem envStep_wellFormed (h : s.WellFormed ctx) (e : EnvStep) :
    (s.envStep ctx e).WellFormed ctx := by
  cases e with
  | drain stream => exact drain_wellFormed h stream
  | expire key => exact expire_wellFormed h key

variable (ctx) in
/-- What every step of the environment keeps holds however it goes on. -/
theorem settle_invariant {I : Store → Prop} (hstep : ∀ s e, I s → I (s.envStep ctx e))
    (hs : I s) (steps : List EnvStep) : I (s.settle ctx steps) :=
  run_invariant (fun s e hs _ => hstep s e hs) steps s hs
    (good_true steps s)

theorem settle_wellFormed (h : s.WellFormed ctx) (steps : List EnvStep) :
    (s.settle ctx steps).WellFormed ctx :=
  settle_invariant ctx (I := WellFormed ctx) (fun _ e hs => envStep_wellFormed hs e) h steps

@[simp] theorem envStep_runtimeConfig (s : Store) (e : EnvStep) :
    (s.envStep ctx e).runtimeConfig = s.runtimeConfig := by
  cases e <;> simp [envStep]

@[simp] theorem settle_mode (s : Store) (steps : List EnvStep) :
    (s.settle ctx steps).mode = s.mode :=
  mode_congr (settle_invariant ctx (I := fun s' => s'.runtimeConfig = s.runtimeConfig)
    (fun _ _ h => (envStep_runtimeConfig _ _).trans h) rfl steps)

/-! ## The queue of one key -/

/-- A drain of a stream replays its front statement, if there is one. -/
theorem drain_cases (s : Store) (stream : String) :
    s.streams stream = [] ∧ s.drain stream = s ∨
      ∃ entry rest, s.streams stream = entry :: rest ∧
        s.drain stream = { s with
          streams := Function.update s.streams stream rest
          pg := s.pg.apply entry.query.statement } := by
  cases h : s.streams stream with
  | nil =>
    have hd : s.replay.drain replayEntry stream = s.replay := Replay.drain_of_nil h
    exact Or.inl ⟨rfl, by rw [drain, hd]; rfl⟩
  | cons entry rest =>
    have hd : s.replay.drain replayEntry stream = _ := Replay.drain_of_cons h
    exact Or.inr ⟨entry, rest, rfl, by rw [drain, hd]; rfl⟩

/-- The front statement replayed is the next one queued for `key`, or one about
    another key. -/
theorem drain_queued_cases (hs : s.WellFormed ctx) (key : PartitionKey) (stream : String) :
    (∃ stmt, s.queued ctx key = stmt :: (s.drain stream).queued ctx key ∧
        stmt.partitionKey = key ∧ (s.drain stream).pg = s.pg.apply stmt) ∨
      (s.drain stream).queued ctx key = s.queued ctx key ∧
        ((s.drain stream).pg = s.pg ∨
          ∃ stmt, stmt.partitionKey ≠ key ∧ (s.drain stream).pg = s.pg.apply stmt) := by
  rcases drain_cases s stream with ⟨-, h⟩ | ⟨entry, rest, hq, h⟩
  · exact Or.inr ⟨by rw [h], Or.inl (by rw [h])⟩
  · have hentry := hs.streams stream entry (by simp [hq])
    by_cases hkey : entry.query.statement.partitionKey = key
    · refine Or.inl ⟨_, ?_, hkey, by rw [h]⟩
      have hstream : stream = ctx.stream key := hkey ▸ hentry.stream
      subst hstream
      simp [queued, h, hq, hkey]
    · refine Or.inr ⟨?_, Or.inr ⟨_, hkey, by rw [h]⟩⟩
      by_cases hstream : ctx.stream key = stream
      · subst hstream
        simp [queued, h, hq, hkey]
      · simp [queued, h, hstream]

theorem partitionKey_of_queued {stmt : Statement} (h : stmt ∈ s.queued ctx key) :
    stmt.partitionKey = key := by simpa using (List.mem_filter.1 h).2

/-- An update that is queued carries the scheme of the KV layer. -/
theorem updatedBy_of_queued (hs : s.WellFormed ctx) {pk : VaultPrimaryKey} {update : VaultUpdate}
    (h : .updateVault pk update ∈ s.queued ctx key) : update.updatedBy = .redisKv := by
  obtain ⟨entry, hentry, hstmt⟩ := List.mem_map.1 (List.mem_filter.1 h).1
  exact (hs.streams _ entry hentry).query.updatedBy pk update hstmt

theorem envStep_queued_suffix (hs : s.WellFormed ctx) (key : PartitionKey) (e : EnvStep) :
    (s.envStep ctx e).queued ctx key <:+ s.queued ctx key := by
  cases e with
  | drain stream =>
    rcases drain_queued_cases hs key stream with ⟨stmt, hq, -⟩ | ⟨hq, -⟩
    · exact ⟨[stmt], hq.symm⟩
    · exact ⟨[], hq⟩
  | expire k => exact ⟨[], by simp [envStep, queued]⟩

/-- Where nothing is queued, the environment leaves Postgres alone. -/
theorem settle_pg_of_nil (hstreams : ∀ stream, s.streams stream = []) (steps : List EnvStep) :
    (s.settle ctx steps).pg = s.pg := by
  have h := settle_invariant ctx
    (I := fun s' => (∀ stream, s'.streams stream = []) ∧ s'.pg = s.pg)
    (fun s' e hs' => ?_) ⟨hstreams, rfl⟩ steps
  · exact h.2
  · cases e with
    | drain stream =>
      rcases drain_cases s' stream with ⟨-, h⟩ | ⟨entry, rest, h, -⟩
      · change (∀ stream', (s'.drain stream).streams stream' = []) ∧ (s'.drain stream).pg = s.pg
        rw [h]
        exact hs'
      · rw [hs'.1 stream] at h
        cases h
    | expire k => exact ⟨by simpa [envStep] using hs'.1, by simpa [envStep] using hs'.2⟩

/-- A key none of whose entries is pending has nothing queued. -/
theorem queued_eq_nil_of_pending (hs : s.WellFormed ctx) (h : s.pending ctx key.display = []) :
    s.queued ctx key = [] := by
  have hstream : ctx.stream (.combinationKey key.display) = ctx.stream key :=
    stream_eq_of_display ctx rfl
  rw [pending, hstream] at h
  rw [queued, List.filter_eq_nil_iff]
  intro stmt hstmt hkey
  obtain ⟨entry, hentry, rfl⟩ := List.mem_map.1 hstmt
  refine List.filter_eq_nil_iff.1 h entry hentry ?_
  have hid := (hs.streams _ entry hentry).globalId
  simp only [decide_eq_true_eq] at hkey ⊢
  rw [hid, hkey]

/-- Nothing about `key` is queued: its row is settled. -/
theorem view_eq_settled (h : s.queued ctx key = []) : s.pg.view key = s.settled ctx key := by
  simp [settled, h]

/-- The environment leaves the settled row of a key as it is. -/
theorem settled_envStep (hs : s.WellFormed ctx) (hkey : key.soleKey = true) (e : EnvStep) :
    (s.envStep ctx e).settled ctx key = s.settled ctx key := by
  cases e with
  | drain stream =>
    change (s.drain stream).settled ctx key = _
    rcases drain_queued_cases hs key stream with
      ⟨stmt, hq, hstmt, hpg⟩ | ⟨hq, hpg | ⟨stmt, hne, hpg⟩⟩
    · rw [settled, settled, hq, hpg, Pg.view_apply hkey, if_pos hstmt, List.foldl_cons]
    · rw [settled, settled, hq, hpg]
    · rw [settled, settled, hq, hpg, Pg.view_apply hkey, if_neg hne]
  | expire k => simp [envStep, settled, queued]

theorem settled_settle (hs : s.WellFormed ctx) (hkey : key.soleKey = true) (steps : List EnvStep) :
    (s.settle ctx steps).settled ctx key = s.settled ctx key := by
  have h := settle_invariant ctx
    (I := fun s' => s'.WellFormed ctx ∧ s'.settled ctx key = s.settled ctx key)
    (fun s' e hs' => ⟨envStep_wellFormed hs'.1 e, (settled_envStep hs'.1 hkey e).trans hs'.2⟩)
    ⟨hs, rfl⟩ steps
  exact h.2

/-- A settled row has the key it is settled for. -/
theorem partitionKey_of_settled {row : Row} (h : s.settled ctx key = some row) :
    row.partitionKey = key := by
  have hview : ∀ row, s.pg.view key = some row → row.partitionKey = key := by
    intro row hrow
    obtain ⟨r, hr, rfl⟩ := Option.map_eq_some_iff.1 hrow
    rw [Row.clearId_partitionKey]
    exact Pg.partitionKey_of_rowAt hr
  have hqueued : ∀ stmt ∈ s.queued ctx key, stmt.partitionKey = key :=
    fun stmt => partitionKey_of_queued
  unfold settled at h
  generalize s.pg.view key = view at h hview
  generalize s.queued ctx key = stmts at h hqueued
  induction stmts generalizing view with
  | nil => exact hview row h
  | cons stmt rest ih =>
    have hstmt := hqueued stmt List.mem_cons_self
    refine ih _ (fun row' h' => ?_) h fun stmt' h' => hqueued stmt' (List.mem_cons_of_mem _ h')
    exact (stmt.act_partitionKey (fun r hr => (hview r hr).trans hstmt.symm) h').trans hstmt

theorem queued_write (row : Row) (query : SerializableQuery)
    (hquery : query.statement.partitionKey = key) :
    (s.write ctx key row query).queued ctx key = s.queued ctx key ++ [query.statement] := by
  simp [queued, write_streams, hquery]

theorem queued_erase (query : SerializableQuery) (hquery : query.statement.partitionKey = key) :
    (s.erase ctx key query).queued ctx key = s.queued ctx key ++ [query.statement] := by
  simp [queued, erase_streams, hquery]

/-- A statement queued last acts on the row settled so far. -/
theorem settled_write (row : Row) (query : SerializableQuery)
    (hquery : query.statement.partitionKey = key) :
    (s.write ctx key row query).settled ctx key = query.statement.act (s.settled ctx key) := by
  rw [settled, queued_write row query hquery, List.foldl_append]
  rfl

/-! ## The Redis row of one key -/

theorem expire_cases (ctx : KvStoreContext) (s : Store) (k : String) :
    s.expire ctx k = s ∨
      s.pending ctx k = [] ∧ s.expire ctx k = { s with redis := s.redis.expire k } := by
  unfold expire
  split_ifs with h
  · exact Or.inr ⟨h, rfl⟩
  · exact Or.inl rfl

variable (ctx) in
/-- What Redis holds stays or expires. -/
theorem settle_redis (s : Store) (steps : List EnvStep) (k f : String) :
    (s.settle ctx steps).redis k f = s.redis k f ∨ (s.settle ctx steps).redis k f = none := by
  refine settle_invariant ctx (I := fun s' => s'.redis k f = s.redis k f ∨ s'.redis k f = none)
    (fun s' e hs' => ?_) (Or.inl rfl) steps
  cases e with
  | drain stream => exact hs'
  | expire key =>
    change (s'.expire ctx key).redis k f = _ ∨ (s'.expire ctx key).redis k f = none
    rcases expire_cases ctx s' key with h | ⟨-, h⟩
    · rwa [h]
    · rw [h]
      simp only [Redis.expire_apply]
      split_ifs
      · exact Or.inr rfl
      · exact hs'

theorem envStep_cached (hs : s.WellFormed ctx) (key : PartitionKey) (e : EnvStep) :
    (s.envStep ctx e).cached key = s.cached key ∨
      (s.envStep ctx e).cached key = none ∧ (s.envStep ctx e).queued ctx key = [] := by
  cases e with
  | drain stream => exact Or.inl rfl
  | expire k =>
    change (s.expire ctx k).cached key = _ ∨ (s.expire ctx k).cached key = none ∧
      (s.expire ctx k).queued ctx key = []
    rcases expire_cases ctx s k with h | ⟨hp, h⟩
    · exact Or.inl (by rw [h])
    · by_cases hk : key.display = k
      · subst hk
        refine Or.inr ⟨by simp [h, cached], ?_⟩
        have hq := queued_eq_nil_of_pending hs hp
        rw [h]
        exact hq
      · exact Or.inl (by simp [h, cached, Redis.expire_apply, hk])

/-- Redis keeps its row of a key, or loses it when nothing about the key is
    queued any more. -/
theorem settle_cached (hs : s.WellFormed ctx) (key : PartitionKey) (steps : List EnvStep) :
    (s.settle ctx steps).cached key = s.cached key ∨
      (s.settle ctx steps).cached key = none ∧ (s.settle ctx steps).queued ctx key = [] := by
  have h := settle_invariant ctx
    (I := fun s' => s'.WellFormed ctx ∧ (s'.cached key = s.cached key ∨
      s'.cached key = none ∧ s'.queued ctx key = []))
    (fun s' e hs' => ⟨envStep_wellFormed hs'.1 e, ?_⟩) ⟨hs, Or.inl rfl⟩ steps
  · exact h.2
  · rcases envStep_cached hs'.1 key e with hc | hc
    · rcases hs'.2 with h | ⟨h, hq⟩
      · exact Or.inl (hc.trans h)
      · refine Or.inr ⟨hc.trans h, ?_⟩
        have hsuffix := envStep_queued_suffix hs'.1 key e
        rwa [hq, List.suffix_nil] at hsuffix
    · exact Or.inr hc

/-- A key that Redis does not hold stays out of it. -/
theorem settle_cached_none (hs : s.WellFormed ctx) (h : s.cached key = none)
    (steps : List EnvStep) : (s.settle ctx steps).cached key = none := by
  rcases settle_cached hs key steps with hc | hc
  · exact hc.trans h
  · exact hc.1

/-! ## Turns of the drainer -/

variable (ctx) in
/-- The environment replays some list of streams. -/
theorem exists_settle_replay (steps : List EnvStep) (s : Store) :
    ∃ streams, (s.settle ctx steps).replay = Replay.drains replayEntry streams s.replay := by
  induction steps generalizing s with
  | nil => exact ⟨[], rfl⟩
  | cons e steps ih =>
    obtain ⟨streams, h⟩ := ih (s.envStep ctx e)
    cases e with
    | drain stream => exact ⟨stream :: streams, h⟩
    | expire k =>
      refine ⟨streams, h.trans ?_⟩
      rw [envStep, expire_replay]

variable (ctx) in
/-- It can replay any list of streams, with no key expiring. -/
theorem settle_map_drain (streams : List String) (s : Store) :
    (s.settle ctx (streams.map .drain)).replay = Replay.drains replayEntry streams s.replay ∧
      (s.settle ctx (streams.map .drain)).redis = s.redis := by
  induction streams generalizing s with
  | nil => exact ⟨rfl, rfl⟩
  | cons stream streams ih => exact ih (s.drain stream)

/-- `k` turns of the drainer on one stream. -/
theorem settle_drain_replicate (k : ℕ) (s : Store) (stream : String) :
    (s.settle ctx (List.replicate k (.drain stream))).streams stream =
        (s.streams stream).drop k ∧
      (s.settle ctx (List.replicate k (.drain stream))).pg =
        ((s.streams stream).take k).foldl (fun pg entry => pg.apply entry.query.statement)
          s.pg := by
  have h := (settle_map_drain ctx (List.replicate k stream) s).1
  rw [List.map_replicate] at h
  have h' := h.trans (Replay.drains_replicate k s.replay stream)
  constructor
  · exact (congrArg (fun r => r.queues stream) h').trans (Function.update_self ..)
  · exact congrArg Replay.db h'

/-- The environment can replay a stream up to any statement that is queued. -/
theorem exists_settle_apply {stmt : Statement} (h : stmt ∈ s.queued ctx key) :
    ∃ steps, ∃ pg : Pg, (s.settle ctx steps).pg = pg.apply stmt := by
  obtain ⟨entry, hentry, rfl⟩ := List.mem_map.1 (List.mem_filter.1 h).1
  obtain ⟨before, rest, hsplit⟩ := List.append_of_mem hentry
  refine ⟨List.replicate (before.length + 1) (.drain (ctx.stream key)),
    before.foldl (fun pg entry => pg.apply entry.query.statement) s.pg, ?_⟩
  rw [(settle_drain_replicate _ s (ctx.stream key)).2, hsplit]
  simp [List.take_append, List.take_of_length_le]

/-- The environment can replay the stream of a key to its end and let the key
    expire. -/
theorem exists_settle_expired (ctx : KvStoreContext) (s : Store) (key : PartitionKey) :
    ∃ steps, (s.settle ctx steps).cached key = none ∧ (s.settle ctx steps).queued ctx key = [] := by
  refine ⟨List.replicate (s.streams (ctx.stream key)).length (.drain (ctx.stream key)) ++
    [.expire key.display], ?_⟩
  rw [settle_append]
  have hq := (@settle_drain_replicate ctx (s.streams (ctx.stream key)).length s
    (ctx.stream key)).1
  rw [List.drop_length] at hq
  generalize s.settle ctx (List.replicate (s.streams (ctx.stream key)).length
    (.drain (ctx.stream key))) = s' at hq ⊢
  have hp : s'.pending ctx key.display = [] := by
    have hstream : ctx.stream (.combinationKey key.display) = ctx.stream key :=
      stream_eq_of_display ctx rfl
    rw [pending, hstream, hq]
    rfl
  have he : s'.settle ctx [.expire key.display] =
      { s' with redis := s'.redis.expire key.display } := if_pos hp
  rw [he]
  exact ⟨by simp [cached], by simp [queued, hq]⟩

/-! ## What the stream of a key makes of its row -/

/-- What replaying an entry makes of the row of `key`. -/
def actAt (key : PartitionKey) (entry : DrainerEntry) (row : Option Row) : Option Row :=
  if entry.query.statement.partitionKey = key then entry.query.statement.act row else row

theorem view_foldl_apply (hkey : key.soleKey = true) (entries : List DrainerEntry) (pg : Pg) :
    (entries.foldl (fun pg entry => pg.apply entry.query.statement) pg).view key =
      entries.foldl (fun row entry => actAt key entry row) (pg.view key) := by
  induction entries generalizing pg with
  | nil => rfl
  | cons entry entries ih =>
    rw [List.foldl_cons, List.foldl_cons, ih, Pg.view_apply hkey, actAt]

/-- However the environment goes on, a prefix of its stream has made the row of
    a key what it is. -/
theorem settle_view (hs : s.WellFormed ctx) (hkey : key.soleKey = true) (steps : List EnvStep) :
    ∃ k, (s.settle ctx steps).pg.view key =
      ((s.streams (ctx.stream key)).take k).foldl (fun row entry => actAt key entry row)
        (s.pg.view key) := by
  obtain ⟨streams, hreplay⟩ := exists_settle_replay ctx steps s
  have hview : ∀ stream, ∀ entry ∈ s.replay.queues stream, ∀ pg : Pg,
      (replayEntry entry pg).view key = actAt key entry (pg.view key) :=
    fun _ entry _ pg => Pg.view_apply hkey entry.query.statement pg
  have hother : ∀ stream, stream ≠ ctx.stream key → ∀ entry ∈ s.replay.queues stream, ∀ row,
      actAt key entry row = row := fun stream hne entry hentry row => by
    refine if_neg fun heq => hne ?_
    rw [(hs.streams stream entry hentry).stream, heq]
  obtain ⟨done, hqueue, hdone⟩ := Replay.drains_view streams s.replay hview hother
  refine ⟨done.length, ?_⟩
  have htake : (s.streams (ctx.stream key)).take done.length = done := by
    rw [show s.streams (ctx.stream key) = _ from hqueue, List.take_left]
  rw [htake]
  exact (congrArg (fun replay => replay.db.view key) hreplay).trans hdone

/-- Every prefix of the stream can be replayed, with no key expiring. -/
theorem exists_settle_view (ctx : KvStoreContext) (s : Store) (hkey : key.soleKey = true) (k : ℕ) :
    ∃ steps, (s.settle ctx steps).pg.view key =
        ((s.streams (ctx.stream key)).take k).foldl (fun row entry => actAt key entry row)
          (s.pg.view key) ∧
      (s.settle ctx steps).redis = s.redis := by
  refine ⟨(List.replicate k (ctx.stream key)).map .drain, ?_, (settle_map_drain ctx _ s).2⟩
  rw [List.map_replicate, (settle_drain_replicate k s (ctx.stream key)).2, view_foldl_apply hkey]

theorem forall_settle_view_iff (hs : s.WellFormed ctx) (hkey : key.soleKey = true)
    {P : Option Row → Prop} :
    (∀ steps, P ((s.settle ctx steps).pg.view key)) ↔
      ∀ k, P (((s.streams (ctx.stream key)).take k).foldl (fun row entry => actAt key entry row)
        (s.pg.view key)) := by
  constructor
  · intro h k
    obtain ⟨steps, hview, -⟩ := exists_settle_view ctx s hkey k
    rw [← hview]
    exact h steps
  · intro h steps
    obtain ⟨k, hview⟩ := settle_view hs hkey steps
    rw [hview]
    exact h k

/-! ## Further entries at the ends of the streams -/

/-- `π` is a part of Postgres that statements change by itself. Entries at the
    ends of the streams that leave the part alone wherever it has the property
    `P` do not matter for whether it always has it. -/
theorem forall_settle_extends_iff {T : Type} {π : Pg → T}
    (hπ : ∀ stmt pg pg', π pg = π pg' → π (pg.apply stmt) = π (pg'.apply stmt))
    {extra : String → List DrainerEntry} {s' : Store}
    (hext : Replay.Extends extra s.replay s'.replay) (hpg : π s.pg = π s'.pg) {P : T → Prop}
    (hextra : ∀ stream, ∀ entry ∈ extra stream, ∀ pg, P (π pg) →
      π (pg.apply entry.query.statement) = π pg) :
    (∀ steps, P (π (s'.settle ctx steps).pg)) ↔ ∀ steps, P (π (s.settle ctx steps).pg) := by
  have happly : ∀ (entry : DrainerEntry) (pg pg' : Pg), π pg = π pg' →
      π (replayEntry entry pg) = π (replayEntry entry pg') := fun entry => hπ entry.query.statement
  have hdrain : ∀ (s : Store) streams, (Replay.drains replayEntry streams s.replay).db =
      (s.settle ctx (streams.map .drain)).pg := fun s streams =>
    (congrArg Replay.db (settle_map_drain ctx streams s).1).symm
  constructor
  · intro h steps
    obtain ⟨streams, hreplay⟩ := exists_settle_replay ctx steps s
    obtain ⟨streams', -, hdb⟩ := Replay.drains_extend (D := fun pg pg' => π pg = π pg') happly
      streams hext hpg
    rw [show (s.settle ctx steps).pg = _ from congrArg Replay.db hreplay, hdb, hdrain]
    exact h _
  · intro h steps
    obtain ⟨streams, hreplay⟩ := exists_settle_replay ctx steps s'
    obtain ⟨streams', hdb⟩ := Replay.drains_sim (D := fun pg pg' => π pg = π pg') happly
      streams hext hpg fun streams stream entry hentry pg hD => by
        refine hD.trans (hextra stream entry hentry pg ?_).symm
        rw [← hD, hdrain]
        exact h _
    rw [show (s'.settle ctx steps).pg = _ from congrArg Replay.db hreplay, ← hdb, hdrain]
    exact h _

end Store

end CardVault
