import CardVault.Contents.Rows

/-!
# Calls that keep what rows hold

A call of the storage layer that is given allowed data stores and answers allowed data,
interleaved command by command with anything else that does.

Main results:
* `KeepsContents`: the obligation of a call.
* `keeps_kvWrapper_hset`, `keeps_kvWrapper_hSetNx`, `keeps_kvWrapper_hDel`,
  `keeps_kvWrapper_hGet`: the operations of `src/src/storage/kv/wrapper.rs`.
* `keeps_executeOnPrimary`, `keeps_findOnRouted`, `keeps_findOnPrimary`: the queries.
-/

namespace CardVault

open Interaction

variable {σ : Type} [Preorder σ] {ctx : KvStoreContext} {K : Contents σ} {x : σ} {α : Type}

/-- The call stores allowed data where it belongs, as long as it is told of nothing else. -/
abbrev KeepsContents (ctx : KvStoreContext) (K : Contents σ) {α : Type} (p : App α)
    (Q : α → σ → Prop) (x : σ) : Prop :=
  p.Safe (fun y c => c.Ok ctx ∧ c.Stores (K.Of y))
    (fun c reply y => Reply.Ok c reply ∧ Reply.Tells (K.Of y) c reply) Q x

/-- The call keeps the contents, whatever it ends with. -/
theorem KeepsContents.any {p : App α} {Q : α → σ → Prop} (h : KeepsContents ctx K p Q x) :
    KeepsContents ctx K p (fun _ _ => True) x := h.mono fun _ _ _ _ => trivial

theorem keeps_pure (a : α) : KeepsContents ctx K (Prog.pure a) (fun _ _ => True) x :=
  fun _ _ => trivial

/-- A command, with what its reply tells. -/
theorem keeps_perform (c : Cmd) (hok : c.Ok ctx) (hc : c.Stores (K.Of x)) :
    KeepsContents ctx K (Prog.perform c)
      (fun reply y => Reply.Ok c reply ∧ Reply.Tells (K.Of y) c reply) x :=
  Prog.safe_perform (fun _ hxy => ⟨hok, hc.mono fun _ => K.of_mono hxy⟩)
    fun _ _ _ _ hreply hyz => ⟨hreply.1, hreply.2.mono fun _ => K.of_mono hyz⟩

/-- `?` after a call that may answer anything. -/
theorem keeps_andThen {β ε : Type} {p : App (Except ε α)} {f : α → App (Except ε β)}
    {Q : Except ε α → σ → Prop} (h : KeepsContents ctx K p Q x)
    (hf : ∀ a y, x ≤ y → KeepsContents ctx K (f a) (fun _ _ => True) y) :
    KeepsContents ctx K (p.andThen f) (fun _ _ => True) x :=
  Prog.Safe.andThen h.any (fun _ _ _ _ => trivial) fun a y hxy _ => hf a y hxy

theorem keeps_mapResult {β : Type} {p : App α} {Q : α → σ → Prop} (h : KeepsContents ctx K p Q x)
    (f : α → β) : KeepsContents ctx K (p.mapResult f) (fun _ _ => True) x :=
  Prog.Safe.mapResult h.any

/-! ## Redis -/

section Wrapper

variable {T : Type} {deserialize : Row → Option T} {key : PartitionKey}
  {query : SerializableQuery} {value : Row}

theorem keeps_getRedisConn : KeepsContents ctx K getRedisConn (fun _ _ => True) x :=
  (keeps_perform .getRedisConn trivial trivial).any

theorem keeps_pushToDrainerStream (hquery : query.Ok key)
    (hstores : query.statement.Stores (K.Of x)) :
    KeepsContents ctx K (pushToDrainerStream ctx query key) (fun _ _ => True) x := by
  refine keeps_andThen keeps_getRedisConn fun _ y hxy => keeps_mapResult (keeps_perform
    (.streamAppendEntry (ctx.stream key) ⟨query, key.display⟩) ?_ ?_) _
  · exact ⟨by rw [hquery.partitionKey], by rw [hquery.partitionKey],
      by rw [hquery.partitionKey]; exact hquery⟩
  · exact Statement.Stores.mono (fun _ => K.of_mono hxy) hstores

theorem keeps_kvWrapper_hset (hvalue : value.partitionKey.display = key.display)
    (hof : K.Of x value) (hquery : query.Ok key) (hstores : query.statement.Stores (K.Of x)) :
    KeepsContents ctx K (kvWrapper ctx deserialize (.hset key.display value query) key)
      (fun _ _ => True) x := by
  refine keeps_andThen keeps_getRedisConn fun _ y hxy => keeps_andThen (keeps_mapResult
    (keeps_perform (.setHashFields _ _ _ _) ⟨rfl, hvalue⟩ (K.of_mono hxy hof)) _) fun _ z hyz => ?_
  exact keeps_andThen (keeps_pushToDrainerStream hquery
    (hstores.mono fun _ => K.of_mono (hxy.trans hyz))) fun _ _ _ => keeps_pure _

theorem keeps_kvWrapper_hSetNx (hvalue : value.partitionKey.display = key.display)
    (hof : K.Of x value) (hquery : query.Ok key) (hstores : query.statement.Stores (K.Of x)) :
    KeepsContents ctx K (kvWrapper ctx deserialize (.hSetNx key.display value query) key)
      (fun _ _ => True) x := by
  refine keeps_andThen keeps_getRedisConn fun _ y hxy => keeps_andThen (keeps_mapResult
    (keeps_perform (.setHashFieldIfNotExist _ _ _ _) ⟨rfl, hvalue⟩ (K.of_mono hxy hof)) _)
    fun reply z hyz => ?_
  cases reply with
  | keySet =>
    exact keeps_andThen (keeps_pushToDrainerStream hquery
      (hstores.mono fun _ => K.of_mono (hxy.trans hyz))) fun _ _ _ => keeps_pure _
  | keyNotSet => exact keeps_pure _

theorem keeps_kvWrapper_hDel (hquery : query.Ok key)
    (hstores : query.statement.Stores (K.Of x)) :
    KeepsContents ctx K (kvWrapper ctx deserialize (.hDel key.display query) key)
      (fun _ _ => True) x := by
  refine keeps_andThen keeps_getRedisConn fun _ y hxy => keeps_andThen (keeps_mapResult
    (keeps_perform (.deleteHashFields _ _) trivial trivial) _) fun _ z hyz => ?_
  exact keeps_andThen (keeps_pushToDrainerStream hquery
    (hstores.mono fun _ => K.of_mono (hxy.trans hyz))) fun _ _ _ => keeps_pure _

/-- A value read has the key it was read at, and is allowed. -/
theorem keeps_kvWrapper_hGet (key : PartitionKey) :
    KeepsContents ctx K (kvWrapper ctx deserialize (.hGet key.display) key)
      (fun reply y => ∀ v, reply = .ok (.hGet v) → ∃ row, deserialize row = some v ∧
        row.partitionKey.display = key.display ∧ K.Of y row) x := by
  refine Prog.Safe.andThen keeps_getRedisConn (fun _ _ _ _ _ h => by cases h) fun _ y hxy _ => ?_
  refine Prog.Safe.andThen (Q := fun reply z => ∀ v, reply = .ok v → ∃ row,
    deserialize row = some v ∧ row.partitionKey.display = key.display ∧ K.Of z row)
    (Prog.Safe.mapResult (Prog.Safe.mapResult ((keeps_perform (.getHashField _ _) trivial
      trivial).mono fun reply z _ hreply v hv => ?_)))
    (fun _ _ _ _ _ h => by cases h) fun v z _ hv w hzw v' h => ?_
  · obtain ⟨hkey, hof⟩ := hreply
    change ∀ row, reply = Except.ok row → _ at hkey hof
    cases reply with
    | error e => cases hv
    | ok row =>
      cases hd : deserialize row with
      | none => simp [hd, bridge] at hv
      | some t =>
        simp only [hd, bridge, Except.ok.injEq] at hv
        exact ⟨row, by rw [hd, hv], hkey row rfl, hof row rfl⟩
  · cases h
    obtain ⟨row, hrow, hkey, hof⟩ := hv v rfl
    exact ⟨row, hrow, hkey, K.of_mono hzw hof⟩

end Wrapper

/-! ## Postgres -/

section Postgres

variable {E : Type} [StorageErrorExt E]

theorem keeps_getConn : KeepsContents ctx K (getConn : App (Except E DbPool)) (fun _ _ => True) x :=
  keeps_mapResult (keeps_perform (.getConn .primary) trivial trivial) _

theorem keeps_hasReplica : KeepsContents ctx K hasReplica (fun _ _ => True) x :=
  (keeps_perform .hasReplica trivial trivial).any

theorem keeps_getReplicaConn :
    KeepsContents ctx K (getReplicaConn : App (Except E DbPool)) (fun _ _ => True) x := by
  refine keeps_hasReplica.bind fun reply y _ _ => ?_
  cases reply with
  | false => exact keeps_pure _
  | true => exact keeps_mapResult (keeps_perform (.getConn .replica) trivial trivial) _

theorem keeps_shouldUseReplica : KeepsContents ctx K shouldUseReplica (fun _ _ => True) x := by
  refine keeps_hasReplica.bind fun reply y _ _ => ?_
  cases reply with
  | false => exact keeps_pure _
  | true => exact keeps_mapResult (keeps_perform .runtimeConfig trivial trivial) _

theorem keeps_routeConn :
    KeepsContents ctx K (routeConn : App (Except E DbPool)) (fun _ _ => True) x := by
  refine keeps_shouldUseReplica.bind fun use y _ _ => ?_
  cases use with
  | false => exact keeps_getConn
  | true => exact keeps_getReplicaConn

theorem keeps_runQuery (pool : DbPool) (q : Query) (hq : (Cmd.query pool q).Stores (K.Of x)) :
    KeepsContents ctx K (runQuery pool q : App (Except E q.Output))
      (fun reply y => ∀ out, reply = .ok out → q.Tells (K.Of y) out) x := by
  refine Prog.Safe.mapResult ((keeps_perform (.query pool q) trivial hq).mono
    fun reply y _ hreply out hout => ?_)
  have htells := hreply.2
  cases (reply : Except DieselError q.Output) with
  | error e => cases hout
  | ok out' =>
    cases hout
    exact htells _ rfl

theorem keeps_executeOnPrimary (stmt : Statement) (hstmt : stmt.Stores (K.Of x)) :
    KeepsContents ctx K (executeOnPrimary E stmt)
      (fun reply y => ∀ out, reply = .ok out → (Query.execute stmt).Tells (K.Of y) out) x :=
  Prog.Safe.andThen keeps_getConn (fun _ _ _ _ _ h => by cases h) fun pool _ hxy _ =>
    keeps_runQuery pool (.execute stmt) (hstmt.mono fun _ => K.of_mono hxy)

theorem keeps_findOnRouted {q : Query} (hq : ∀ pool y, (Cmd.query pool q).Stores (K.Of y)) :
    KeepsContents ctx K (findOnRouted E q)
      (fun reply y => ∀ out, reply = .ok out → q.Tells (K.Of y) out) x :=
  Prog.Safe.andThen keeps_routeConn (fun _ _ _ _ _ h => by cases h) fun pool y _ _ =>
    keeps_runQuery pool q (hq pool y)

theorem keeps_findOnPrimary {q : Query} (hq : ∀ pool y, (Cmd.query pool q).Stores (K.Of y)) :
    KeepsContents ctx K (findOnPrimary E q)
      (fun reply y => ∀ out, reply = .ok out → q.Tells (K.Of y) out) x :=
  Prog.Safe.andThen keeps_getConn (fun _ _ _ _ _ h => by cases h) fun pool y _ _ =>
    keeps_runQuery pool q (hq pool y)

end Postgres

end CardVault
