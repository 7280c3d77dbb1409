import CardVault.Contents.Requests
import CardVault.Lib.Parts
import CardVault.Storage.RowText

/-!
# One Redis for all tenants

All tenants share one Redis, in which keys carry the prefix of their tenant and rows are
JSON texts; each tenant has its own tables, caches and keys (`src/src/app.rs`,
`src/src/storage/redis.rs`, `src/src/storage/kv/wrapper.rs`).

Main results:
* `Server.Shows.exec`: a call of a tenant does in the shared Redis what it does in a Redis
  of rows that is the tenant's own.
* `Server.Shows.exec_other`, `Server.Shows.envStep_other`: other tenants change none of it.
-/

namespace CardVault

open Interaction

/-! ## The server -/

/-- What the tenants share, and what each has for itself. The Redis and the streams in a
    tenant's own state are not used. -/
structure Server (τ σ : Type) where
  redis : String → String → Option String
  streams : String → List DrainerEntry
  tenants : τ → ApiState σ

/-- How the keys of each tenant are named, and how rows become texts. -/
structure ServerConfig (τ : Type) where
  name : τ → String → String
  serde : Serde

/-- The table whose rows a key of the KV layer holds: that of the type that is read. -/
def Resource.ofKey (key : String) : Option Resource :=
  match key.toList.head? with
  | some 'f' => some .fingerprint
  | some 'h' => some .hashTable
  | some 'l' => some .locker
  | some 'r' => some .reverseLookup
  | some 'v' => some .vault
  | _ => none

theorem Row.ofKey_display (row : Row) :
    Resource.ofKey row.partitionKey.display = some row.resource := by
  unfold Resource.ofKey
  rw [PartitionKey.head_display]
  cases row <;> rfl

namespace Server

variable {τ σ : Type} [DecidableEq τ] (config : ServerConfig τ) (db : τ → KvStoreContext)
  (service : τ → KeyService σ) (dataService : τ → DataService σ) (s : Server τ σ)

/-- A tenant's own state changes. -/
def put (t : τ) (state : ApiState σ) : Server τ σ :=
  { s with tenants := Function.update s.tenants t state }

/-- A cell of the shared Redis changes. -/
def setCell (key field : String) (cell : Option String) : Server τ σ :=
  { s with redis := fun k f => if k = key ∧ f = field then cell else s.redis k f }

/-- Answer one storage call of a tenant. -/
def execKv (t : τ) : (c : Cmd) → Reply c × Server τ σ
  | .setHashFields key field value _ =>
    match value.toStr config.serde with
    | some text => (.ok (), s.setCell (config.name t key) field (some text))
    | none => (.error .jsonSerializationFailed, s)
  | .setHashFieldIfNotExist key field value _ =>
    match value.toStr config.serde with
    | some text =>
      match s.redis (config.name t key) field with
      | some _ => (.ok .keyNotSet, s)
      | none => (.ok .keySet, s.setCell (config.name t key) field (some text))
    | none => (.error .jsonSerializationFailed, s)
  | .getHashField key field =>
    match s.redis (config.name t key) field with
    | some text =>
      match (Resource.ofKey key).bind (Row.ofStr config.serde text) with
      | some row => (.ok row, s)
      | none => (.error .jsonDeserializationFailed, s)
    | none => (.error .notFound, s)
  | .deleteHashFields key field =>
    (.ok (if (s.redis (config.name t key) field).isSome then 1 else 0),
      s.setCell (config.name t key) field none)
  | .streamAppendEntry stream entry =>
    (.ok (), { s with
      streams := Function.update s.streams (config.name t stream)
        (s.streams (config.name t stream) ++ [entry]) })
  | c =>
    (((s.tenants t).kv.exec c).1, s.put t { s.tenants t with kv := ((s.tenants t).kv.exec c).2 })

/-- Answer one call of a tenant. -/
def exec : (c : τ × ApiCmd) → ApiReply c.2 × Server τ σ
  | (t, .kv c) => s.execKv config t c
  | (t, c) =>
    (((s.tenants t).exec (service t) (dataService t) c).1,
      s.put t ((s.tenants t).exec (service t) (dataService t) c).2)

/-- What happens around the calls of a tenant. -/
def envStep : τ × ApiEnv → Server τ σ
  | (t, .kv (.drain stream)) =>
    match s.streams (config.name t stream) with
    | [] => s
    | entry :: rest =>
      { s with
        streams := Function.update s.streams (config.name t stream) rest
        tenants := Function.update s.tenants t { s.tenants t with
          kv := { (s.tenants t).kv with
            pg := (s.tenants t).kv.pg.apply entry.query.statement } } }
  | (t, .kv (.expire key)) =>
    if (s.streams (config.name t ((db t).stream (.combinationKey key)))).filter
        (fun entry => entry.globalId = key) = [] then
      { s with redis := fun k f => if k = config.name t key then none else s.redis k f }
    else s
  | (t, e) => s.put t ((s.tenants t).envStep (db t) e)

end Server

/-! ## What a tenant sees -/

/-- The state with another Redis and other streams. -/
def ApiState.withRedis {σ : Type} (a : ApiState σ) (redis : Redis)
    (streams : String → List DrainerEntry) : ApiState σ :=
  { a with kv := { a.kv with redis, streams } }

/-- Different keys, or keys of different tenants, have different names. -/
def ServerConfig.Separates {τ : Type} (config : ServerConfig τ) : Prop :=
  ∀ t t' key key', config.name t key = config.name t' key' → t = t' ∧ key = key'

namespace Server

section Shows

variable {τ σ : Type}

/-- The state that the tenant `t` sees of the server: a row for each text, and its own
    streams. -/
structure Shows (config : ServerConfig τ) (t : τ) (s : Server τ σ) (a : ApiState σ) : Prop where
  redis : ∀ key field, (a.kv.redis key field).map (Row.toStr config.serde) =
    (s.redis (config.name t key) field).map some
  streams : ∀ stream, a.kv.streams stream = s.streams (config.name t stream)
  rest : a = (s.tenants t).withRedis a.kv.redis a.kv.streams

variable {config : ServerConfig τ} {t t' : τ} {s : Server τ σ} {a : ApiState σ}

theorem Shows.redis_eq_none_iff (h : s.Shows config t a) {key field : String} :
    a.kv.redis key field = none ↔ s.redis (config.name t key) field = none := by
  have hcell := h.redis key field
  cases hrow : a.kv.redis key field with
  | none =>
    rw [hrow] at hcell
    exact ⟨fun _ => Option.map_eq_none_iff.1 hcell.symm, fun _ => rfl⟩
  | some row =>
    rw [hrow] at hcell
    refine ⟨fun hnone => (by cases hnone), fun hnone => ?_⟩
    rw [hnone] at hcell
    cases hcell

/-- A text of a tenant is the text of a row. -/
theorem Shows.row_of_text (h : s.Shows config t a) {key field text : String}
    (htext : s.redis (config.name t key) field = some text) :
    ∃ row, a.kv.redis key field = some row ∧ row.toStr config.serde = some text := by
  have hcell := h.redis key field
  rw [htext, Option.map_some] at hcell
  obtain ⟨row, hrow, hrowText⟩ := Option.map_eq_some_iff.1 hcell
  exact ⟨row, hrow, hrowText⟩

/-- A cell changes on both sides. -/
theorem Shows.setCell (h : s.Shows config t a) (hsep : config.Separates) (key field : String)
    {cell : Option String} (row : Option Row)
    (hrow : row.map (Row.toStr config.serde) = cell.map some) :
    (s.setCell (config.name t key) field cell).Shows config t
      (a.withRedis (fun k f => if k = key ∧ f = field then row else a.kv.redis k f)
        a.kv.streams) where
  redis k f := by
    have hname : config.name t k = config.name t key ↔ k = key :=
      ⟨fun heq => (hsep _ _ _ _ heq).2, fun heq => by rw [heq]⟩
    change Option.map _ (if k = key ∧ f = field then row else a.kv.redis k f) =
      Option.map some (if config.name t k = config.name t key ∧ f = field then cell
        else s.redis (config.name t k) f)
    simp only [hname]
    split_ifs
    · exact hrow
    · exact h.redis k f
  streams := h.streams
  rest := by
    rw [h.rest]
    rfl

/-- The state that a tenant sees does not depend on the others. -/
theorem Shows.congr {s' : Server τ σ} (h : s.Shows config t a)
    (hredis : ∀ key field, s'.redis (config.name t key) field = s.redis (config.name t key) field)
    (hstreams : ∀ stream, s'.streams (config.name t stream) = s.streams (config.name t stream))
    (htenant : s'.tenants t = s.tenants t) : s'.Shows config t a where
  redis key field := by rw [hredis]; exact h.redis key field
  streams stream := by rw [hstreams]; exact h.streams stream
  rest := by rw [htenant]; exact h.rest

theorem Shows.setCell_other (h : s.Shows config t a) (hsep : config.Separates) (hne : t' ≠ t)
    (key field : String) (cell : Option String) :
    (s.setCell (config.name t' key) field cell).Shows config t a := by
  refine h.congr (fun k f => if_neg ?_) (fun _ => rfl) rfl
  rintro ⟨hname, -⟩
  exact hne (hsep _ _ _ _ hname).1.symm

theorem Shows.setStream_other (h : s.Shows config t a) (hsep : config.Separates) (hne : t' ≠ t)
    (stream : String) (entries : List DrainerEntry) :
    ({ s with streams := Function.update s.streams (config.name t' stream) entries } :
      Server τ σ).Shows config t a := by
  refine h.congr (fun _ _ => rfl) (fun stream' => Function.update_of_ne ?_ _ _) rfl
  exact fun hname => hne (hsep _ _ _ _ hname).1.symm

end Shows

section Steps

variable {τ σ : Type} [DecidableEq τ] {config : ServerConfig τ} {db : τ → KvStoreContext}
  {service : τ → KeyService σ} {dataService : τ → DataService σ} {t t' : τ} {s : Server τ σ}
  {a : ApiState σ}

/-- A tenant's own state changes on both sides. -/
theorem Shows.put (h : s.Shows config t a) (state : ApiState σ) :
    (s.put t state).Shows config t (state.withRedis a.kv.redis a.kv.streams) where
  redis := h.redis
  streams := h.streams
  rest := by
    change _ = (Function.update s.tenants t state t).withRedis _ _
    rw [Function.update_self]
    rfl

/-- A storage call of a tenant: as in a Redis of rows, or an error and nothing else. -/
theorem Shows.execKv (h : s.Shows config t a) (hsep : config.Separates)
    (hserde : config.serde.Exact) {ctx : KvStoreContext} (hwell : a.kv.WellFormed ctx) (c : Cmd) :
    ((s.execKv config t c).1 = (a.kv.exec c).1 ∧
        (s.execKv config t c).2.Shows config t { a with kv := (a.kv.exec c).2 }) ∨
      (StorageFailure c (s.execKv config t c).1 ∧ (s.execKv config t c).2 = s) := by
  have hkv : a.kv = { (s.tenants t).kv with redis := a.kv.redis, streams := a.kv.streams } :=
    congrArg ApiState.kv h.rest
  have hother : ∀ {c : Cmd},
      s.execKv config t c = (((s.tenants t).kv.exec c).1,
        s.put t { s.tenants t with kv := ((s.tenants t).kv.exec c).2 }) →
      (∀ redis streams, ({ (s.tenants t).kv with redis, streams } : Store).exec c =
        (((s.tenants t).kv.exec c).1,
          { ((s.tenants t).kv.exec c).2 with redis, streams })) →
      (s.execKv config t c).1 = (a.kv.exec c).1 ∧
        (s.execKv config t c).2.Shows config t { a with kv := (a.kv.exec c).2 } := by
    intro c hserver hstore
    have hexec := (congrArg (fun kv => Store.exec kv c) hkv).trans (hstore _ _)
    have hstate : { a with kv := (a.kv.exec c).2 } =
        ({ s.tenants t with kv := ((s.tenants t).kv.exec c).2 } : ApiState σ).withRedis
          a.kv.redis a.kv.streams := by
      rw [show a.kv.exec c = _ from hexec]
      conv_lhs => rw [h.rest]
      rfl
    rw [hserver, hstate]
    exact ⟨(congrArg Prod.fst hexec).symm, h.put _⟩
  cases c with
  | setHashFields key field value ttl =>
    simp only [Server.execKv]
    cases htext : value.toStr config.serde with
    | none => exact Or.inr ⟨⟨_, rfl⟩, rfl⟩
    | some text =>
      exact Or.inl ⟨rfl, h.setCell hsep key field (some value)
          (by rw [Option.map_some, Option.map_some, htext])⟩
  | setHashFieldIfNotExist key field value ttl =>
    simp only [Server.execKv]
    cases htext : value.toStr config.serde with
    | none => exact Or.inr ⟨⟨_, rfl⟩, rfl⟩
    | some text =>
      refine Or.inl ?_
      cases hcell : s.redis (config.name t key) field with
      | some found =>
        obtain ⟨row, hrow, -⟩ := h.row_of_text hcell
        simp only [Store.exec, hrow]
        exact ⟨rfl, h⟩
      | none =>
        simp only [Store.exec, h.redis_eq_none_iff.2 hcell]
        exact ⟨rfl, h.setCell hsep key field (some value)
          (by rw [Option.map_some, Option.map_some, htext])⟩
  | getHashField key field =>
    simp only [Server.execKv]
    refine Or.inl ?_
    cases hcell : s.redis (config.name t key) field with
    | none =>
      simp only [Store.exec, h.redis_eq_none_iff.2 hcell]
      exact ⟨rfl, h⟩
    | some text =>
      obtain ⟨row, hrow, htext⟩ := h.row_of_text hcell
      have hkey : Resource.ofKey key = some row.resource := by
        rw [← (hwell.redis key field row hrow).2]
        exact row.ofKey_display
      simp only [Store.exec, hrow, hkey, Option.bind_some, Row.ofStr_toStr hserde htext]
      exact ⟨rfl, h⟩
  | deleteHashFields key field =>
    refine Or.inl ⟨?_, h.setCell hsep key field none rfl⟩
    have hsome : (a.kv.redis key field).isSome =
        (s.redis (config.name t key) field).isSome := by
      have hcell := congrArg Option.isSome (h.redis key field)
      simpa only [Option.isSome_map] using hcell
    simp only [Server.execKv, Store.exec, Redis.countField, hsome]
    rfl
  | streamAppendEntry stream entry =>
    refine Or.inl ⟨rfl, h.redis, fun stream' => ?_, ?_⟩
    · have hname : config.name t stream' = config.name t stream ↔ stream' = stream :=
        ⟨fun heq => (hsep _ _ _ _ heq).2, fun heq => by rw [heq]⟩
      simp only [Server.execKv, Store.exec, Function.update_apply, hname, h.streams]
    · conv_lhs => rw [h.rest]
      rfl
  | query pool q => exact Or.inl (hother rfl fun _ _ => rfl)
  | runtimeConfig => exact Or.inl (hother rfl fun _ _ => rfl)
  | hasReplica => exact Or.inl (hother rfl fun _ _ => rfl)
  | getConn pool => exact Or.inl (hother rfl fun _ _ => rfl)
  | getRedisConn => exact Or.inl (hother rfl fun _ _ => rfl)
  | lookupFingerprint key => exact Or.inl (hother rfl fun _ _ => rfl)
  | cacheFingerprint key value => exact Or.inl (hother rfl fun _ _ => rfl)
  | lookupHashTable key => exact Or.inl (hother rfl fun _ _ => rfl)
  | cacheHashTable key value => exact Or.inl (hother rfl fun _ _ => rfl)

variable (service dataService) in
/-- A call of a tenant. -/
theorem Shows.exec (h : s.Shows config t a) (hsep : config.Separates)
    (hserde : config.serde.Exact) {ctx : KvStoreContext} (hwell : a.kv.WellFormed ctx)
    (c : ApiCmd) :
    ((s.exec config service dataService (t, c)).1 = (a.exec (service t) (dataService t) c).1 ∧
        (s.exec config service dataService (t, c)).2.Shows config t
          (a.exec (service t) (dataService t) c).2) ∨
      (ApiFailure c (s.exec config service dataService (t, c)).1 ∧
        (s.exec config service dataService (t, c)).2 = s) := by
  have hother : ∀ {c : ApiCmd},
      s.exec config service dataService (t, c) =
        (((s.tenants t).exec (service t) (dataService t) c).1,
          s.put t ((s.tenants t).exec (service t) (dataService t) c).2) →
      (∀ redis streams, ((s.tenants t).withRedis redis streams).exec (service t) (dataService t) c =
        (((s.tenants t).exec (service t) (dataService t) c).1,
          ((s.tenants t).exec (service t) (dataService t) c).2.withRedis redis streams)) →
      (s.exec config service dataService (t, c)).1 = (a.exec (service t) (dataService t) c).1 ∧
        (s.exec config service dataService (t, c)).2.Shows config t
          (a.exec (service t) (dataService t) c).2 := by
    intro c hserver hstate
    have hexec := (congrArg (fun a => ApiState.exec (service t) (dataService t) a c) h.rest).trans
      (hstate _ _)
    rw [hserver, show a.exec (service t) (dataService t) c = _ from hexec]
    exact ⟨rfl, h.put _⟩
  cases c with
  | kv c => exact h.execKv hsep hserde hwell c
  | key c => exact Or.inl (hother rfl fun _ _ => rfl)
  | now => exact Or.inl (hother rfl fun _ _ => rfl)
  | encryptData identifier data => exact Or.inl (hother rfl fun _ _ => rfl)
  | decryptData identifier data => exact Or.inl (hother rfl fun _ _ => rfl)
  | spawn task => exact Or.inl (hother rfl fun _ _ => rfl)

/-- What happens around the calls of a tenant. -/
theorem Shows.envStep (h : s.Shows config t a) (hsep : config.Separates) (e : ApiEnv) :
    (s.envStep config db (t, e)).Shows config t (a.envStep (db t) e) := by
  have hother : ∀ {e : ApiEnv},
      s.envStep config db (t, e) = s.put t ((s.tenants t).envStep (db t) e) →
      (∀ redis streams, ((s.tenants t).withRedis redis streams).envStep (db t) e =
        ((s.tenants t).envStep (db t) e).withRedis redis streams) →
      (s.envStep config db (t, e)).Shows config t (a.envStep (db t) e) := by
    intro e hserver hstate
    have hstep := (congrArg (fun a => ApiState.envStep (db t) a e) h.rest).trans
      (hstate _ _)
    rw [hserver, show a.envStep (db t) e = _ from hstep]
    exact h.put _
  have hname : ∀ key key', config.name t key = config.name t key' ↔ key = key' :=
    fun key key' => ⟨fun heq => (hsep _ _ _ _ heq).2, fun heq => by rw [heq]⟩
  cases e with
  | kv e =>
    cases e with
    | drain stream =>
      simp only [Server.envStep]
      change (match s.streams (config.name t stream) with | [] => s | entry :: rest => _ :
        Server τ σ).Shows config t { a with kv := a.kv.drain stream }
      rcases Store.drain_cases a.kv stream with ⟨hempty, hdrain⟩ | ⟨entry, rest, hqueue, hdrain⟩
      · rw [← h.streams, hempty, hdrain]
        exact h
      · rw [← h.streams, hqueue, hdrain]
        refine ⟨h.redis, fun stream' => ?_, ?_⟩
        · simp only [Function.update_apply, hname, h.streams]
        · simp only [ApiState.withRedis, Function.update_self]
          have hpg : a.kv.pg = (s.tenants t).kv.pg := by rw [h.rest]; rfl
          rw [hpg]
          conv_lhs => rw [h.rest]
          rfl
    | expire key =>
      simp only [Server.envStep]
      change Server.Shows config t _ { a with kv := a.kv.expire (db t) key }
      unfold Store.expire Store.pending
      rw [h.streams]
      split_ifs
      · refine ⟨fun k f => ?_, h.streams, ?_⟩
        · simp only [Redis.expire_apply, hname]
          split_ifs
          · rfl
          · exact h.redis k f
        · conv_lhs => rw [h.rest]
          rfl
      · exact h
  | keys e => exact hother rfl fun _ _ => rfl
  | runtimeConfig values => exact hother rfl fun _ _ => rfl
  | evictFingerprint fingerprintHash => exact hother rfl fun _ _ => rfl
  | evictHashTable dataHash => exact hother rfl fun _ _ => rfl
  | tick now => exact hother rfl fun _ _ => rfl

/-! ### Other tenants -/

theorem Shows.put_other (h : s.Shows config t a) (hne : t' ≠ t) (state : ApiState σ) :
    (s.put t' state).Shows config t a :=
  h.congr (fun _ _ => rfl) (fun _ => rfl) (Function.update_of_ne (Ne.symm hne) _ _)

/-- A call of another tenant. -/
theorem Shows.exec_other (h : s.Shows config t a) (hsep : config.Separates) (hne : t' ≠ t)
    (c : ApiCmd) : (s.exec config service dataService (t', c)).2.Shows config t a := by
  cases c with
  | kv c =>
    change (s.execKv config t' c).2.Shows config t a
    cases c with
    | setHashFields key field value ttl =>
      simp only [Server.execKv]
      split
      · exact h.setCell_other hsep hne _ _ _
      · exact h
    | setHashFieldIfNotExist key field value ttl =>
      simp only [Server.execKv]
      split
      · split
        · exact h
        · exact h.setCell_other hsep hne _ _ _
      · exact h
    | getHashField key field =>
      simp only [Server.execKv]
      split
      · split <;> exact h
      · exact h
    | deleteHashFields key field => exact h.setCell_other hsep hne _ _ _
    | streamAppendEntry stream entry => exact h.setStream_other hsep hne _ _
    | _ => exact h.put_other hne _
  | _ => exact h.put_other hne _

/-- What happens around the calls of another tenant. -/
theorem Shows.envStep_other (h : s.Shows config t a) (hsep : config.Separates) (hne : t' ≠ t)
    (e : ApiEnv) : (s.envStep config db (t', e)).Shows config t a := by
  cases e with
  | kv e =>
    cases e with
    | drain stream =>
      simp only [Server.envStep]
      split
      · exact h
      · rename_i entry rest _
        refine (h.setStream_other hsep hne stream rest).congr (fun _ _ => rfl) (fun _ => rfl) ?_
        exact Function.update_of_ne (Ne.symm hne) _ _
    | expire key =>
      simp only [Server.envStep]
      split_ifs
      · refine h.congr (fun k f => if_neg ?_) (fun _ => rfl) rfl
        exact fun hname => hne (hsep _ _ _ _ hname).1.symm
      · exact h
  | _ => exact h.put_other hne _

end Steps

end Server

end CardVault
