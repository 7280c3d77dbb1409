import CardVault.Storage.Backend

/-!
# Well-formed stores

Where things lie: Redis holds each row under the text of its key, and every
queued statement sits in the stream of the key it is about, labelled with that
key's text. The storage layer only issues commands that keep this, whatever the
answers, so it holds between any two commands of any run, interleaved or not.

Main results:
* `exec_wellFormed`, `drain_wellFormed`, `expire_wellFormed`: every step keeps a
  store well formed.
* `Obeys.run`: so does a whole program, and what it answers is well formed too.
-/

namespace CardVault

open Interaction Stream Relational

/-! ## Commands and answers -/

/-- A statement about `key`. Updates are queued by the KV layer only, and carry
    its scheme. -/
structure SerializableQuery.Ok (query : SerializableQuery) (key : PartitionKey) : Prop where
  partitionKey : query.statement.partitionKey = key
  updatedBy : ∀ pk update, query.statement = .updateVault pk update → update.updatedBy = .redisKv

/-- An entry that belongs in the stream. -/
structure DrainerEntry.Ok (ctx : KvStoreContext) (stream : String) (entry : DrainerEntry) :
    Prop where
  globalId : entry.globalId = entry.query.statement.partitionKey.display
  stream : stream = ctx.stream entry.query.statement.partitionKey
  query : entry.query.Ok entry.query.statement.partitionKey

/-- A command that puts things where they belong. -/
def Cmd.Ok (ctx : KvStoreContext) : Cmd → Prop
  | .setHashFields key field value _ => field = key ∧ value.partitionKey.display = key
  | .setHashFieldIfNotExist key field value _ => field = key ∧ value.partitionKey.display = key
  | .streamAppendEntry stream entry => entry.Ok ctx stream
  | _ => True

/-- A row that a query answers has the columns asked for. -/
def Query.Matches : (q : Query) → q.Output → Prop
  | .execute _, _ => True
  | .findFingerprint fingerprintHash, row => row.fingerprintHash = fingerprintHash
  | .findHashTable dataHash, row => row.dataHash = dataHash
  | .findLocker pk, row => row.primaryKey = pk
  | .findLockerByHash key, row => row.hashKey = key
  | .findReverseLookup lookupId, row => row.lookupId = lookupId
  | .findVault pk, row => row.primaryKey = pk

/-- An answer that a well-formed store may give. -/
def Reply.Ok : (c : Cmd) → Reply c → Prop
  | .getHashField key _, reply => ∀ row, reply = Except.ok row → row.partitionKey.display = key
  | .query _ q, reply => ∀ row, reply = Except.ok row → q.Matches row
  | _, _ => True

/-- The program issues well-formed commands as long as the answers are, and ends
    with a value that meets `Q`. -/
def Obeys (ctx : KvStoreContext) {α : Type} (p : App α) (Q : α → Prop) : Prop :=
  p.wp (fun (_ : Unit) c => c.Ok ctx) (fun _ c reply _ => Reply.Ok c reply) (fun a _ => Q a) ()

section Obeys

variable {ctx : KvStoreContext} {α β ε : Type}

theorem Obeys.pure {a : α} {Q : α → Prop} (h : Q a) : Obeys ctx (Prog.pure a) Q := h

theorem Obeys.mono {p : App α} {Q Q' : α → Prop} (h : Obeys ctx p Q) (hQ : ∀ a, Q a → Q' a) :
    Obeys ctx p Q' := Prog.wp_mono h fun a _ => hQ a

theorem Obeys.bind {p : App α} {f : α → App β} {Q : α → Prop} {Q' : β → Prop}
    (h : Obeys ctx p Q) (hf : ∀ a, Q a → Obeys ctx (f a) Q') : Obeys ctx (p.bind f) Q' :=
  (Prog.wp_bind p f _ ()).2 (Prog.wp_mono h fun a _ ha => hf a ha)

theorem Obeys.mapResult {p : App α} {f : α → β} {Q : β → Prop}
    (h : Obeys ctx p fun a => Q (f a)) : Obeys ctx (p.mapResult f) Q :=
  (Prog.wp_mapResult f p _ ()).2 h

theorem Obeys.discard {p : App α} {f : α → β} (h : Obeys ctx p fun _ => True) :
    Obeys ctx (p.mapResult f) fun _ => True := h.mapResult

/-- The rule for `?`: an error leaves the function. -/
theorem Obeys.andThen {p : App (Except ε α)} {f : α → App (Except ε β)} {Q : α → Prop}
    {Q' : Except ε β → Prop} (h : Obeys ctx p fun reply => ∀ a, reply = .ok a → Q a)
    (herr : ∀ e, Q' (.error e)) (hf : ∀ a, Q a → Obeys ctx (f a) Q') :
    Obeys ctx (p.andThen f) Q' := by
  refine (Prog.wp_andThen p f _ ()).2 (Prog.wp_mono h fun reply _ hreply => ?_)
  cases reply with
  | error e => exact herr e
  | ok a => exact hf a (hreply a rfl)

end Obeys

/-! ## Well-formed stores -/

/-- Rows and queued statements are where they belong. -/
structure Store.WellFormed (ctx : KvStoreContext) (s : Store) : Prop where
  redis : ∀ key field row, s.redis key field = some row →
    field = key ∧ row.partitionKey.display = key
  streams : ∀ stream, ∀ entry ∈ s.streams stream, entry.Ok ctx stream

namespace Store

variable {ctx : KvStoreContext} {s : Store}

theorem fresh_wellFormed (config : Option RuntimeConfigValues) (hasReplica : Bool) (pg : Pg) :
    (Store.fresh config hasReplica pg).WellFormed ctx where
  redis _ _ _ h := by cases h
  streams _ _ h := by cases h

/-- The runtime configuration may change at any time. -/
theorem WellFormed.setRuntimeConfig (h : s.WellFormed ctx) (config : Option RuntimeConfigValues) :
    ({ s with runtimeConfig := config } : Store).WellFormed ctx := ⟨h.redis, h.streams⟩

theorem WellFormed.setPg (h : s.WellFormed ctx) (pg : Pg) :
    ({ s with pg } : Store).WellFormed ctx := ⟨h.redis, h.streams⟩

theorem WellFormed.setField (h : s.WellFormed ctx) {key field : String} {value : Row}
    (hfield : field = key) (hvalue : value.partitionKey.display = key) :
    ({ s with redis := s.redis.setField key field value } : Store).WellFormed ctx where
  redis k f row hrow := by
    simp only [Redis.setField_apply] at hrow
    split_ifs at hrow with hk
    · cases hrow
      exact ⟨by rw [hk.1, hk.2, hfield], by rw [hk.1, hvalue]⟩
    · exact h.redis k f row hrow
  streams := h.streams

theorem WellFormed.append (h : s.WellFormed ctx) {stream : String} {entry : DrainerEntry}
    (hentry : entry.Ok ctx stream) :
    ({ s with
      streams := Function.update s.streams stream (s.streams stream ++ [entry]) } :
        Store).WellFormed ctx where
  redis := h.redis
  streams stream' e he := by
    by_cases hs : stream' = stream
    · subst hs
      simp only [Function.update_self, List.mem_append, List.mem_singleton] at he
      rcases he with he | rfl
      · exact h.streams _ e he
      · exact hentry
    · simp only [Function.update_of_ne hs] at he
      exact h.streams _ e he

theorem query_matches (pg : Pg) (q : Query) : ∀ row, (pg.query q).1 = .ok row → q.Matches row := by
  have aux : ∀ {ρ : Type} {found : Option ρ} {row : ρ}, oneRow found = .ok row →
      found = some row := fun {ρ found row} h => by
    cases found <;> simp_all [oneRow]
  cases q with
  | execute => exact fun _ _ => trivial
  | findFingerprint => exact fun _ h => Table.key_of_get (aux h)
  | findHashTable => exact fun _ h => Table.key_of_get (aux h)
  | findLocker => exact fun _ h => Table.key_of_get (aux h)
  | findLockerByHash => exact fun _ h => Table.key_of_get (aux h)
  | findReverseLookup => exact fun _ h => Table.key_of_get (aux h)
  | findVault => exact fun _ h => Table.key_of_get (aux h)

/-- A command that puts things where they belong keeps the store well formed,
    and a well-formed store answers in kind. -/
theorem exec_wellFormed (h : s.WellFormed ctx) {c : Cmd} (hc : c.Ok ctx) :
    Reply.Ok c (s.exec c).1 ∧ (s.exec c).2.WellFormed ctx := by
  cases c with
  | query _ q => exact ⟨query_matches s.pg q, h.setPg _⟩
  | setHashFields key field value ttl => exact ⟨trivial, h.setField hc.1 hc.2⟩
  | setHashFieldIfNotExist key field value ttl =>
    simp only [exec]
    split
    · exact ⟨trivial, h⟩
    · exact ⟨trivial, h.setField hc.1 hc.2⟩
  | getHashField key field =>
    simp only [exec]
    split
    · rename_i row hrow
      refine ⟨fun row' hr => ?_, h⟩
      cases hr
      exact (h.redis key field row hrow).2
    · refine ⟨fun _ hr => ?_, h⟩
      cases hr
  | deleteHashFields key field =>
    refine ⟨trivial, fun k f row hrow => ?_, h.streams⟩
    simp only [exec, Redis.deleteField_apply] at hrow
    split_ifs at hrow with hk
    exact h.redis k f row hrow
  | streamAppendEntry stream entry => exact ⟨trivial, h.append hc⟩
  | runtimeConfig => exact ⟨trivial, h⟩
  | hasReplica => exact ⟨trivial, h⟩
  | getConn => exact ⟨trivial, h⟩
  | getRedisConn => exact ⟨trivial, h⟩
  | lookupFingerprint => exact ⟨trivial, h⟩
  | cacheFingerprint => exact ⟨trivial, h.redis, h.streams⟩
  | lookupHashTable => exact ⟨trivial, h⟩
  | cacheHashTable => exact ⟨trivial, h.redis, h.streams⟩

theorem drain_wellFormed (h : s.WellFormed ctx) (stream : String) :
    (s.drain stream).WellFormed ctx where
  redis := h.redis
  streams stream' entry he :=
    h.streams stream' entry ((Replay.drain_suffix s.replay stream stream').subset he)

theorem expire_wellFormed (h : s.WellFormed ctx) (key : String) :
    (s.expire ctx key).WellFormed ctx := by
  unfold expire
  split_ifs
  · refine ⟨fun k f row hrow => ?_, h.streams⟩
    simp only [Redis.expire_apply] at hrow
    split_ifs at hrow
    exact h.redis k f row hrow
  · exact h

end Store

/-- A run of a program that issues well-formed commands. -/
theorem Obeys.run {ctx : KvStoreContext} {α : Type} {p : App α} {Q : α → Prop}
    (hp : Obeys ctx p Q) {s : Store} (h : s.WellFormed ctx) :
    Q (p.run Store.exec s).1 ∧ (p.run Store.exec s).2.WellFormed ctx := by
  have hsim : ∀ (s : Store) (_ : Unit) (c : Cmd), s.WellFormed ctx → c.Ok ctx →
      ∃ _ : Unit, Reply.Ok c (s.exec c).1 ∧ (s.exec c).2.WellFormed ctx :=
    fun s _ c hs hc => ⟨(), Store.exec_wellFormed hs hc⟩
  obtain ⟨_, h⟩ := Prog.wp_run hsim hp h
  exact h

end CardVault
