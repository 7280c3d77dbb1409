import CardVault.System

/-!
# Properties of all rows

A property that holds of every row, in Redis, in Postgres and in the statements
that are queued, and what keeps it.

Main results:
* `AllRows.write`, `AllRows.remove`, `AllRows.apply`, `AllRows.insertLocker`,
  `AllRows.deleteLocker`, `AllRows.envStep`: the ways a store changes.
* `AllRows.of_visible`: it holds of the rows a find answers.
-/

namespace CardVault

open Interaction Relational

/-- The rows a statement stores have the property. -/
def Statement.Keeps (R : Row → Prop) (stmt : Statement) : Prop :=
  match stmt.effect with
  | .insert mk => ∀ id, R (mk id)
  | .update f => ∀ row, R row → R (f row)
  | .delete => True

namespace Pg

variable {R : Row → Prop} {pg : Pg}

theorem rowAt_empty (key : PartitionKey) : Pg.empty.rowAt key = none := by cases key <;> rfl

theorem allRows_apply {stmt : Statement} (hstmt : stmt.Keeps R)
    (hpg : ∀ key row, pg.rowAt key = some row → R row) {key : PartitionKey} {row : Row}
    (h : (pg.apply stmt).rowAt key = some row) : R row := by
  by_cases hkey : stmt.partitionKey = key
  · subst hkey
    have hallowed := rowAt_apply_allowed stmt pg
    rw [h] at hallowed
    unfold Statement.Keeps at hstmt
    cases heffect : stmt.effect with
    | insert mk =>
      rw [heffect] at hallowed hstmt
      cases hbefore : pg.rowAt stmt.partitionKey with
      | some row' =>
        rw [hbefore] at hallowed
        cases hallowed
        exact hpg _ _ hbefore
      | none =>
        rw [hbefore] at hallowed
        rcases hallowed with hnone | ⟨id, hsome⟩
        · cases hnone
        · cases hsome
          exact hstmt id
    | update f =>
      rw [heffect] at hallowed hstmt
      obtain ⟨row', hrow', rfl⟩ := Option.map_eq_some_iff.1 hallowed.symm
      exact hstmt _ (hpg _ _ hrow')
    | delete =>
      rw [heffect] at hallowed
      cases hallowed
  · rw [rowAt_apply_of_ne hkey] at h
    exact hpg _ _ h

theorem lockerClash_symm (a b : LockerInner) (h : lockerClash a b) : lockerClash b a :=
  h.imp Eq.symm Eq.symm

/-- A read by primary key finds the rows of the table. -/
theorem get_locker_iff {row : LockerInner} :
    pg.locker.get LockerInner.primaryKey row.primaryKey = some row ↔ row ∈ pg.locker.rows := by
  rw [Table.get_eq_some_iff (fun _ _ => Or.inl) lockerClash_symm, and_iff_left rfl]

/-- A row found by its lookup columns is the row of its primary key. -/
theorem rowAt_of_lockerRowByHash {key : LockerHashLookupKey} {row : LockerInner}
    (h : pg.lockerRowByHash key = some row) :
    pg.rowAt row.primaryKey.getPartitionKey = some (.locker row) :=
  congrArg (Option.map Row.locker) (get_locker_iff.2 (Table.mem_of_get h))

end Pg

namespace Store

/-- Every row has the property, and so do those that queued statements store. -/
structure AllRows (R : Row → Prop) (s : Store) : Prop where
  redis : ∀ key field row, s.redis key field = some row → R row
  streams : ∀ stream, ∀ entry ∈ s.streams stream, entry.query.statement.Keeps R
  pg : ∀ key row, s.pg.rowAt key = some row → R row

variable {R : Row → Prop} {ctx : KvStoreContext} {s : Store}

theorem fresh_allRows (config : Option RuntimeConfigValues) (hasReplica : Bool) {pg : Pg}
    (hpg : ∀ key row, pg.rowAt key = some row → R row) :
    (Store.fresh config hasReplica pg).AllRows R where
  redis _ _ _ h := by cases h
  streams _ _ h := by cases h
  pg := hpg

theorem AllRows.apply (h : s.AllRows R) {stmt : Statement} (hstmt : stmt.Keeps R) :
    ({ s with pg := s.pg.apply stmt } : Store).AllRows R :=
  ⟨h.redis, h.streams, fun _ _ => Pg.allRows_apply hstmt h.pg⟩

theorem AllRows.push (h : s.AllRows R) (key : PartitionKey) {query : SerializableQuery}
    (hquery : query.statement.Keeps R) : (s.push ctx key query).AllRows R where
  redis := h.redis
  streams stream entry he := by
    by_cases hs : stream = ctx.stream key
    · subst hs
      simp only [Store.push, Function.update_self, List.mem_append, List.mem_singleton] at he
      rcases he with he | rfl
      · exact h.streams _ entry he
      · exact hquery
    · simp only [Store.push, Function.update_of_ne hs] at he
      exact h.streams _ entry he
  pg := h.pg

theorem AllRows.write (h : s.AllRows R) (key : PartitionKey) {row : Row}
    {query : SerializableQuery} (hrow : R row) (hquery : query.statement.Keeps R) :
    (s.write ctx key row query).AllRows R := by
  have hset : ({ s with redis := s.redis.setField key.display key.display row } :
      Store).AllRows R := ⟨fun k f r hr => ?_, h.streams, h.pg⟩
  · exact hset.push key hquery
  · simp only [Redis.setField_apply] at hr
    split_ifs at hr
    · cases hr
      exact hrow
    · exact h.redis k f r hr

theorem AllRows.remove (h : s.AllRows R) (key : PartitionKey) {query : SerializableQuery}
    (hquery : query.statement.Keeps R) : (s.remove ctx key query).AllRows R := by
  unfold Store.remove
  split_ifs
  · have hdelete : ({ s with redis := s.redis.deleteField key.display key.display } :
        Store).AllRows R := ⟨fun k f r hr => ?_, h.streams, h.pg⟩
    · exact hdelete.push key hquery
    · simp only [Redis.deleteField_apply] at hr
      split_ifs at hr
      exact h.redis k f r hr
  · exact h.apply hquery

/-- A new locker brings its own row and the record that names it. -/
theorem AllRows.insertLocker (h : s.AllRows R) (new : LockerNew)
    (hlookup : R (.reverseLookup new.lookup.toReverseLookup))
    (hrow : R (.locker { new with updatedBy := some .redisKv }.toLockerInner))
    (hlocker : ∀ scheme id, R (.locker (LockerNew.row { new with updatedBy := some scheme } id))) :
    (s.insertLocker ctx new).AllRows R := by
  have hwritten : (s.writeLookup ctx new).AllRows R := h.write _ hlookup fun _ => hlookup
  unfold Store.insertLocker
  split_ifs
  · split
    · exact h
    · split
      · exact hwritten
      · exact hwritten.write _ hrow (hlocker .redisKv)
  · exact h.apply (hlocker .postgresOnly)

theorem AllRows.deleteLocker (h : s.AllRows R) (pk : LockerPrimaryKeyType) :
    (s.deleteLocker ctx pk).AllRows R := by
  have hremoved : (s.removeLocker ctx pk).AllRows R := h.remove _ trivial
  unfold Store.deleteLocker
  split
  · exact hremoved.remove _ trivial
  · exact hremoved

theorem AllRows.envStep (h : s.AllRows R) (e : EnvStep) : (s.envStep ctx e).AllRows R := by
  cases e with
  | drain stream =>
    rcases drain_cases s stream with ⟨-, heq⟩ | ⟨entry, rest, hq, heq⟩
    · change (s.drain stream).AllRows R
      rwa [heq]
    · change (s.drain stream).AllRows R
      rw [heq]
      refine ⟨h.redis, fun stream' e he => ?_, fun _ _ => Pg.allRows_apply
        (h.streams stream entry (by simp [hq])) h.pg⟩
      by_cases hs : stream' = stream
      · subst hs
        simp only [Function.update_self] at he
        exact h.streams stream' e (by simp [hq, he])
      · simp only [Function.update_of_ne hs] at he
        exact h.streams _ e he
  | expire key =>
    rcases expire_cases ctx s key with heq | ⟨-, heq⟩
    · change (s.expire ctx key).AllRows R
      rwa [heq]
    · change (s.expire ctx key).AllRows R
      rw [heq]
      refine ⟨fun k f r hr => ?_, h.streams, h.pg⟩
      simp only [Redis.expire_apply] at hr
      split_ifs at hr
      exact h.redis k f r hr

theorem AllRows.setRuntimeConfig (h : s.AllRows R) (config : Option RuntimeConfigValues) :
    ({ s with runtimeConfig := config } : Store).AllRows R := ⟨h.redis, h.streams, h.pg⟩

theorem AllRows.of_visible (h : s.AllRows R) {key : PartitionKey} {row : Row}
    (hrow : s.visible key = some row) : R row := by
  unfold visible at hrow
  split at hrow
  · exact h.pg _ _ hrow
  all_goals
    split at hrow
    · rename_i hc
      cases hrow
      exact h.redis _ _ _ hc
    · exact h.pg _ _ hrow

end Store

end CardVault
