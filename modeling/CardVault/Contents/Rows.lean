import CardVault.Lib.Interference
import CardVault.Dedup.Call
import CardVault.Rows

/-!
# What rows hold

`Contents` says of each Redis key which ciphertexts may lie under it, and of each
fingerprint hash which ids; more may come to be allowed, never less. A store `Holds` it
when its rows do, those that queued statements store and those in the caches included.

Main results:
* `Store.Holds.exec`: a command that stores allowed data only keeps a store in order, and
  a store in order tells of allowed data only.
* `Store.Holds.envStep`: so does what happens around the calls.
-/

namespace CardVault

open Interaction Relational

/-! ## Rows -/

/-- What may lie under a Redis key, and which ids a fingerprint hash may have. -/
structure Contents (σ : Type) [Preorder σ] where
  data : σ → String → Bytes → Prop
  fingerprint : σ → Bytes → String → Prop
  data_mono : ∀ x y key ciphertext, x ≤ y → data x key ciphertext → data y key ciphertext
  fingerprint_mono : ∀ x y fingerprintHash id, x ≤ y → fingerprint x fingerprintHash id →
    fingerprint y fingerprintHash id

section Rows

variable {σ : Type} [Preorder σ] (K : Contents σ) (x : σ)

/-- A row holds allowed data. -/
def Contents.Of : Row → Prop
  | .fingerprint row => K.fingerprint x row.fingerprintHash row.fingerprintId
  | .locker row => K.data x row.primaryKey.getPartitionKey.display row.encData
  | .vault row => K.data x row.primaryKey.getPartitionKey.display row.encryptedData
  | .hashTable _ | .reverseLookup _ => True

theorem Contents.of_mono {x y : σ} (hxy : x ≤ y) {row : Row} (h : K.Of x row) : K.Of y row := by
  cases row with
  | fingerprint row => exact K.fingerprint_mono _ _ _ _ hxy h
  | locker row => exact K.data_mono _ _ _ _ hxy h
  | vault row => exact K.data_mono _ _ _ _ hxy h
  | hashTable row => trivial
  | reverseLookup row => trivial

end Rows

/-- The rows that a statement stores have the property. -/
def Statement.Stores (R : Row → Prop) (stmt : Statement) : Prop :=
  match stmt.effect with
  | .insert mk => ∀ id, R (mk id)
  | .update f => ∀ row : Row, row.partitionKey = stmt.partitionKey → R (f row)
  | .delete => True

theorem Statement.Stores.mono {R R' : Row → Prop} (hR : ∀ row, R row → R' row) {stmt : Statement}
    (h : stmt.Stores R) : stmt.Stores R' := by
  unfold Stores at h ⊢
  cases heffect : stmt.effect with
  | insert mk =>
    rw [heffect] at h
    exact fun id => hR _ (h id)
  | update f =>
    rw [heffect] at h
    exact fun row hrow => hR _ (h row hrow)
  | delete => trivial

namespace Pg

variable {R : Row → Prop} {pg : Pg}

/-- Rows keep the property when the statement stores rows with it. -/
theorem stores_apply {stmt : Statement} (hstmt : stmt.Stores R)
    (hpg : ∀ key row, pg.rowAt key = some row → R row) {key : PartitionKey} {row : Row}
    (h : (pg.apply stmt).rowAt key = some row) : R row := by
  by_cases hkey : stmt.partitionKey = key
  · subst hkey
    have hallowed := rowAt_apply_allowed stmt pg
    rw [h] at hallowed
    unfold Statement.Stores at hstmt
    cases heffect : stmt.effect with
    | insert mk =>
      rw [heffect] at hallowed hstmt
      cases hbefore : pg.rowAt stmt.partitionKey with
      | some row' =>
        rw [hbefore] at hallowed
        cases hallowed
        exact hpg _ _ hbefore
      | none =>
        rw [hbefore] at hallowed
        rcases hallowed with hnone | ⟨id, hsome⟩
        · cases hnone
        · cases hsome
          exact hstmt id
    | update f =>
      rw [heffect] at hallowed hstmt
      obtain ⟨row', hrow', rfl⟩ := Option.map_eq_some_iff.1 hallowed.symm
      exact hstmt _ (partitionKey_of_rowAt hrow')
    | delete =>
      rw [heffect] at hallowed
      cases hallowed
  · rw [rowAt_apply_of_ne hkey] at h
    exact hpg _ _ h

/-- The row that a statement answers is the row of its key from then on. -/
theorem rowAt_of_output {stmt : Statement} {out : stmt.Output} {row : Row}
    (h : (pg.execute stmt).1 = .ok out) (hrow : stmt.outputRow out = some row) :
    (pg.apply stmt).rowAt stmt.partitionKey = some row := by
  have hinsert : ∀ mk, stmt.effect = .insert mk →
      (pg.apply stmt).rowAt stmt.partitionKey = some row := by
    intro mk hmk
    obtain ⟨-, -, id, hout, hget⟩ := execute_insert_ok hmk h
    rw [hget, ← hrow, hout]
  cases stmt with
  | updateVault pk update =>
    have hget : oneRow ((pg.apply (.updateVault pk update)).vault.get VaultInner.primaryKey pk) =
        .ok out := h
    cases hfound : (pg.apply (.updateVault pk update)).vault.get VaultInner.primaryKey pk with
    | none =>
      rw [hfound] at hget
      cases hget
    | some found =>
      rw [hfound] at hget
      cases hget
      exact (congrArg (Option.map Row.vault) hfound).trans hrow
  | deleteLocker pk => cases hrow
  | deleteReverseLookup lookupId => cases hrow
  | deleteVault pk => cases hrow
  | _ => exact hinsert _ rfl

end Pg

/-! ## Commands -/

/-- The key of the row that a query answers, if it asks by key. -/
def Query.rowKey : Query → Option PartitionKey
  | .execute stmt => some stmt.partitionKey
  | .findFingerprint fingerprintHash => some (.fingerprint fingerprintHash)
  | .findHashTable dataHash => some (.hashTable dataHash)
  | .findLocker pk => some pk.getPartitionKey
  | .findLockerByHash _ => none
  | .findReverseLookup lookupId => some (.reverseLookup lookupId)
  | .findVault pk => some pk.getPartitionKey

/-- What a query answers is the row of the key it asks for, and has the property. -/
def Query.Tells (R : Row → Prop) (q : Query) (out : q.Output) : Prop :=
  ∀ row, q.outputRow out = some row → (∀ key ∈ q.rowKey, row.partitionKey = key) ∧ R row

/-- The rows that a command stores have the property. -/
def Cmd.Stores (R : Row → Prop) : Cmd → Prop
  | .setHashFields _ _ value _ => R value
  | .setHashFieldIfNotExist _ _ value _ => R value
  | .streamAppendEntry _ entry => entry.query.statement.Stores R
  | .query _ (.execute stmt) => stmt.Stores R
  | .cacheFingerprint key value => value.fingerprintHash = key ∧ R (.fingerprint value)
  | .cacheHashTable key value => value.dataHash = key ∧ R (.hashTable value)
  | _ => True

/-- The rows that a reply tells of have the property. -/
def Reply.Tells (R : Row → Prop) : (c : Cmd) → Reply c → Prop
  | .getHashField .., reply => ∀ row, reply = Except.ok row → R row
  | .query _ q, reply => ∀ out, reply = Except.ok out → q.Tells R out
  | .lookupFingerprint key, reply =>
    ∀ value, reply = some value → value.fingerprintHash = key ∧ R (.fingerprint value)
  | .lookupHashTable key, reply =>
    ∀ value, reply = some value → value.dataHash = key ∧ R (.hashTable value)
  | _, _ => True

theorem Cmd.Stores.mono {R R' : Row → Prop} (hR : ∀ row, R row → R' row) {c : Cmd}
    (h : c.Stores R) : c.Stores R' := by
  cases c with
  | setHashFields => exact hR _ h
  | setHashFieldIfNotExist => exact hR _ h
  | streamAppendEntry => exact Statement.Stores.mono hR h
  | query pool q =>
    cases q with
    | execute stmt => exact Statement.Stores.mono hR h
    | _ => trivial
  | cacheFingerprint => exact ⟨h.1, hR _ h.2⟩
  | cacheHashTable => exact ⟨h.1, hR _ h.2⟩
  | _ => trivial

theorem Reply.Tells.mono {R R' : Row → Prop} (hR : ∀ row, R row → R' row) {c : Cmd}
    {reply : Reply c} (h : Reply.Tells R c reply) : Reply.Tells R' c reply := by
  cases c with
  | getHashField => exact fun row hrow => hR _ (h row hrow)
  | query => exact fun out hout row hrow => (h out hout row hrow).imp_right (hR _)
  | lookupFingerprint => exact fun value hvalue => (h value hvalue).imp_right (hR _)
  | lookupHashTable => exact fun value hvalue => (h value hvalue).imp_right (hR _)
  | _ => trivial

namespace Store

/-- The rows of a store have the property, wherever they are. -/
structure Holds (R : Row → Prop) (s : Store) : Prop where
  redis : ∀ key field row, s.redis key field = some row → R row
  streams : ∀ stream, ∀ entry ∈ s.streams stream, entry.query.statement.Stores R
  pg : ∀ key row, s.pg.rowAt key = some row → R row
  fingerprintCache : ∀ key value, s.fingerprintCache key = some value →
    value.fingerprintHash = key ∧ R (.fingerprint value)
  hashTableCache : ∀ key value, s.hashTableCache key = some value →
    value.dataHash = key ∧ R (.hashTable value)

variable {R : Row → Prop} {s : Store}

theorem Holds.mono {R' : Row → Prop} (hR : ∀ row, R row → R' row) (h : s.Holds R) : s.Holds R' where
  redis key field row hrow := hR _ (h.redis key field row hrow)
  streams stream entry he := (h.streams stream entry he).mono hR
  pg key row hrow := hR _ (h.pg key row hrow)
  fingerprintCache key value hvalue := (h.fingerprintCache key value hvalue).imp_right (hR _)
  hashTableCache key value hvalue := (h.hashTableCache key value hvalue).imp_right (hR _)

theorem holds_fresh (config : Option RuntimeConfigValues) (hasReplica : Bool) :
    (Store.fresh config hasReplica Pg.empty).Holds R where
  redis _ _ _ h := by cases h
  streams _ _ h := by cases h
  pg key row h := by
    have hnone : (Store.fresh config hasReplica Pg.empty).pg.rowAt key = none := Pg.rowAt_empty key
    rw [hnone] at h
    cases h
  fingerprintCache _ _ h := by cases h
  hashTableCache _ _ h := by cases h

theorem Holds.setField (h : s.Holds R) (key field : String) {value : Row} (hvalue : R value) :
    ({ s with redis := s.redis.setField key field value } : Store).Holds R :=
  { h with
    redis := fun k f row hrow => by
      simp only [Redis.setField_apply] at hrow
      split_ifs at hrow
      · cases hrow
        exact hvalue
      · exact h.redis k f row hrow }

/-- What a query answers was there, or has just been stored. -/
theorem Holds.query (h : s.Holds R) (pool : DbPool) (q : Query)
    (hq : Cmd.Stores R (.query pool q)) :
    Reply.Tells R (.query pool q) (s.pg.query q).1 ∧
      ({ s with pg := (s.pg.query q).2 } : Store).Holds R := by
  have hread : ∀ {ρ : Type} {found : Option ρ} {out : ρ} {toRow : ρ → Row} (key : PartitionKey),
      s.pg.rowAt key = found.map toRow → oneRow found = .ok out →
        (∀ key' ∈ some key, (toRow out).partitionKey = key') ∧ R (toRow out) := by
    intro ρ found out toRow key hrow hout
    cases found with
    | none => cases hout
    | some value =>
      cases hout
      refine ⟨fun key' hkey' => ?_, h.pg key _ hrow⟩
      cases hkey'
      exact Pg.partitionKey_of_rowAt hrow
  cases q with
  | execute stmt =>
    refine ⟨fun out hout row hrow => ?_, { h with pg := fun key row => Pg.stores_apply hq h.pg }⟩
    have hstored := Pg.rowAt_of_output hout hrow
    refine ⟨fun key hkey => ?_, Pg.stores_apply hq h.pg hstored⟩
    cases hkey
    exact Pg.partitionKey_of_rowAt hstored
  | findLockerByHash key =>
    refine ⟨fun out hout row hrow => ⟨fun _ hkey => (by cases hkey), ?_⟩, h⟩
    cases hrow
    change oneRow (s.pg.lockerRowByHash key) = .ok out at hout
    cases hfound : s.pg.lockerRowByHash key with
    | none =>
      rw [hfound] at hout
      cases hout
    | some found =>
      rw [hfound] at hout
      cases hout
      exact h.pg _ _ (Pg.rowAt_of_lockerRowByHash hfound)
  | findFingerprint fingerprintHash =>
    exact ⟨fun out hout row hrow => by
      cases hrow; exact hread (.fingerprint fingerprintHash) rfl hout, h⟩
  | findHashTable dataHash =>
    exact ⟨fun out hout row hrow => by
      cases hrow; exact hread (.hashTable dataHash) rfl hout, h⟩
  | findLocker pk =>
    exact ⟨fun out hout row hrow => by
      cases hrow; exact hread pk.getPartitionKey rfl hout, h⟩
  | findReverseLookup lookupId =>
    exact ⟨fun out hout row hrow => by
      cases hrow; exact hread (.reverseLookup lookupId) rfl hout, h⟩
  | findVault pk =>
    exact ⟨fun out hout row hrow => by
      cases hrow; exact hread pk.getPartitionKey rfl hout, h⟩

/-- One command. -/
theorem Holds.exec (h : s.Holds R) {c : Cmd} (hc : c.Stores R) :
    Reply.Tells R c (s.exec c).1 ∧ (s.exec c).2.Holds R := by
  cases c with
  | query pool q => exact h.query pool q hc
  | setHashFields key field value ttl => exact ⟨trivial, h.setField key field hc⟩
  | setHashFieldIfNotExist key field value ttl =>
    simp only [Store.exec]
    split
    · exact ⟨trivial, h⟩
    · exact ⟨trivial, h.setField key field hc⟩
  | getHashField key field =>
    simp only [Store.exec]
    split
    · rename_i row hrow
      refine ⟨fun row' hr => ?_, h⟩
      cases hr
      exact h.redis key field _ hrow
    · refine ⟨fun row' hr => ?_, h⟩
      cases hr
  | deleteHashFields key field =>
    refine ⟨trivial, { h with redis := fun k f row hrow => ?_ }⟩
    simp only [Store.exec, Redis.deleteField_apply] at hrow
    split_ifs at hrow
    exact h.redis k f row hrow
  | streamAppendEntry stream entry =>
    refine ⟨trivial, { h with streams := fun stream' e he => ?_ }⟩
    simp only [Store.exec] at he
    by_cases hs : stream' = stream
    · subst hs
      simp only [Function.update_self, List.mem_append, List.mem_singleton] at he
      rcases he with he | rfl
      · exact h.streams _ e he
      · exact hc
    · rw [Function.update_of_ne hs] at he
      exact h.streams _ e he
  | lookupFingerprint key => exact ⟨fun value hvalue => h.fingerprintCache key value hvalue, h⟩
  | lookupHashTable key => exact ⟨fun value hvalue => h.hashTableCache key value hvalue, h⟩
  | cacheFingerprint key value =>
    refine ⟨trivial, { h with fingerprintCache := fun k v hv => ?_ }⟩
    simp only [Store.exec] at hv
    by_cases hk : k = key
    · subst hk
      rw [Function.update_self] at hv
      cases hv
      exact hc
    · rw [Function.update_of_ne hk] at hv
      exact h.fingerprintCache k v hv
  | cacheHashTable key value =>
    refine ⟨trivial, { h with hashTableCache := fun k v hv => ?_ }⟩
    simp only [Store.exec] at hv
    by_cases hk : k = key
    · subst hk
      rw [Function.update_self] at hv
      cases hv
      exact hc
    · rw [Function.update_of_ne hk] at hv
      exact h.hashTableCache k v hv
  | runtimeConfig => exact ⟨trivial, h⟩
  | hasReplica => exact ⟨trivial, h⟩
  | getConn pool => exact ⟨trivial, h⟩
  | getRedisConn => exact ⟨trivial, h⟩

/-- The drainer and the expiry of Redis keys. -/
theorem Holds.envStep (h : s.Holds R) (ctx : KvStoreContext) (e : EnvStep) :
    (s.envStep ctx e).Holds R := by
  cases e with
  | drain stream =>
    change (s.drain stream).Holds R
    rcases drain_cases s stream with ⟨-, heq⟩ | ⟨entry, rest, hq, heq⟩
    · rwa [heq]
    · rw [heq]
      refine { h with streams := fun stream' e he => ?_, pg := fun key row => ?_ }
      · by_cases hs : stream' = stream
        · subst hs
          simp only [Function.update_self] at he
          exact h.streams stream' e (by simp [hq, he])
        · simp only [Function.update_of_ne hs] at he
          exact h.streams _ e he
      · exact Pg.stores_apply (h.streams stream entry (by simp [hq])) h.pg
  | expire key =>
    change (s.expire ctx key).Holds R
    rcases expire_cases ctx s key with heq | ⟨-, heq⟩
    · rwa [heq]
    · rw [heq]
      refine { h with redis := fun k f row hrow => ?_ }
      simp only [Redis.expire_apply] at hrow
      split_ifs at hrow
      exact h.redis k f row hrow

end Store

end CardVault
