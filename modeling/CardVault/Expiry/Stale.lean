import CardVault.Concurrent.Writes

/-!
# Expired rows

A row expires at its `expires_at` or `ttl`. What Postgres has of a row once its stream
is replayed is what the queued statements leave of the row it has now and of the rows
they store; a store is stale for a key when none of these, nor the row in Redis, is one
that has yet to expire.

Main results:
* `LeavesExpired.replay`: the first queued statement replayed.
* `Stale.exec`, `Stale.envStep`: a command that stores no row of the key and a step of
  the environment keep a store stale.
-/

namespace CardVault

open Interaction Stream

/-! ## Expiry -/

/-- `expires_at` of a vault row, `ttl` of a locker. -/
def Row.expiresAt : Row → Option PrimitiveDateTime
  | .vault row => row.expiresAt
  | .locker row => row.ttl
  | .fingerprint _ | .hashTable _ | .reverseLookup _ => none

/-- `utils::date_time::now() > ttl`. -/
def expired (ttl : Option PrimitiveDateTime) (now : PrimitiveDateTime) : Bool :=
  ttl.any fun ttl => ttl.nanos < now.nanos

/-- The expiry of the row is `None` or in the future. -/
def Row.FreshAt (row : Row) (now : PrimitiveDateTime) : Prop :=
  ∀ ttl, row.expiresAt = some ttl → now.nanos < ttl.nanos

/-- The row has expired. -/
abbrev Row.ExpiredAt (now : PrimitiveDateTime) (row : Row) : Prop :=
  expired row.expiresAt now = true

theorem Row.ExpiredAt.not_fresh {row : Row} {now later : PrimitiveDateTime}
    (h : row.ExpiredAt now) (hlater : now.nanos ≤ later.nanos) : ¬ row.FreshAt later := by
  intro hfresh
  obtain ⟨ttl, httl, hnow⟩ := (Option.any_eq_true ..).1 h
  have hfuture := hfresh ttl httl
  have hpast : ttl.nanos < now.nanos := by simpa using hnow
  omega

/-! ## What queued statements make of a row -/

/-- A DELETE, of whatever table. -/
def Statement.isDelete (stmt : Statement) : Bool :=
  match stmt.effect with
  | .delete => true
  | .insert _ | .update _ => false

/-- What the statements leave of a row of their key has the property, if they leave it. -/
def LeftOf (R : Row → Prop) : List Statement → Row → Prop
  | [], row => R row
  | stmt :: stmts, row =>
    match stmt.effect with
    | .insert _ => LeftOf R stmts row
    | .update f => LeftOf R stmts (f row)
    | .delete => True

/-- So does what they leave of the rows that they store themselves. -/
def LeftOfStored (R : Row → Prop) : List Statement → Prop
  | [] => True
  | stmt :: stmts =>
    (match stmt.effect with
      | .insert mk => LeftOf R stmts (mk 0)
      | .update _ | .delete => True) ∧ LeftOfStored R stmts

/-- The next serial number makes no difference to when a row expires. -/
@[simp] theorem Row.expiresAt_clearId (row : Row) : row.clearId.expiresAt = row.expiresAt := by
  cases row <;> rfl

theorem Statement.insert_clearId {stmt : Statement} {mk : ℕ → Row} (h : stmt.effect = .insert mk)
    (id : ℕ) : (mk id).clearId = (mk 0).clearId := by
  cases stmt <;> cases h <;> rfl

theorem Statement.update_clearId {stmt : Statement} {f : Row → Row} (h : stmt.effect = .update f)
    (row : Row) : (f row).clearId = f row.clearId := by
  cases stmt with
  | updateVault pk update =>
    cases h
    cases row <;> rfl
  | _ => cases h

instance LeftOf.decidable {R : Row → Prop} [DecidablePred R] :
    ∀ stmts row, Decidable (LeftOf R stmts row)
  | [], row => inferInstanceAs (Decidable (R row))
  | stmt :: stmts, row =>
    have hrest : ∀ row, Decidable (LeftOf R stmts row) := LeftOf.decidable stmts
    match h : stmt.effect with
    | .insert _ => decidable_of_iff (LeftOf R stmts row) (by rw [LeftOf, h])
    | .update f => decidable_of_iff (LeftOf R stmts (f row)) (by rw [LeftOf, h])
    | .delete => isTrue (by rw [LeftOf, h]; trivial)

instance LeftOfStored.decidable {R : Row → Prop} [DecidablePred R] :
    ∀ stmts, Decidable (LeftOfStored R stmts)
  | [] => isTrue trivial
  | stmt :: stmts =>
    have hrest : Decidable (LeftOfStored R stmts) := LeftOfStored.decidable stmts
    match h : stmt.effect with
    | .insert mk => decidable_of_iff (LeftOf R stmts (mk 0) ∧ LeftOfStored R stmts)
        (by rw [LeftOfStored, h])
    | .update _ | .delete => decidable_of_iff (LeftOfStored R stmts)
        (by rw [LeftOfStored, h, true_and])

section LeftOf

variable {now : PrimitiveDateTime} {stmts : List Statement} {stmt : Statement}

theorem leftOf_clearId (stmts : List Statement) (row : Row) :
    LeftOf (Row.ExpiredAt now) stmts row.clearId ↔ LeftOf (Row.ExpiredAt now) stmts row := by
  induction stmts generalizing row with
  | nil => simp [LeftOf]
  | cons stmt stmts ih =>
    unfold LeftOf
    cases heffect : stmt.effect with
    | insert mk => exact ih row
    | update f =>
      change LeftOf _ stmts (f row.clearId) ↔ LeftOf _ stmts (f row)
      rw [← Statement.update_clearId heffect, ih]
    | delete => exact Iff.rfl

theorem leftOf_insert {mk : ℕ → Row} (heffect : stmt.effect = .insert mk) (id : ℕ)
    (h : LeftOf (Row.ExpiredAt now) stmts (mk 0)) : LeftOf (Row.ExpiredAt now) stmts (mk id) := by
  rw [← leftOf_clearId, Statement.insert_clearId heffect, leftOf_clearId]
  exact h

/-- A DELETE queued last leaves nothing. -/
theorem LeftOf.append {R : Row → Prop} (hdelete : stmt.isDelete = true) {row : Row}
    (h : LeftOf R stmts row) : LeftOf R (stmts ++ [stmt]) row := by
  induction stmts generalizing row with
  | nil =>
    unfold Statement.isDelete at hdelete
    cases heffect : stmt.effect <;> simp_all [LeftOf]
  | cons stmt' stmts ih =>
    rw [List.cons_append]
    unfold LeftOf at h ⊢
    cases heffect : stmt'.effect with
    | insert mk => rw [heffect] at h; exact ih h
    | update f => rw [heffect] at h; exact ih h
    | delete => trivial

theorem LeftOfStored.append {R : Row → Prop} (hdelete : stmt.isDelete = true)
    (h : LeftOfStored R stmts) : LeftOfStored R (stmts ++ [stmt]) := by
  induction stmts with
  | nil =>
    unfold Statement.isDelete at hdelete
    cases heffect : stmt.effect <;> simp_all [LeftOfStored]
  | cons stmt' stmts ih =>
    refine ⟨?_, ih h.2⟩
    have hfirst := h.1
    cases heffect : stmt'.effect with
    | insert mk => rw [heffect] at hfirst; exact hfirst.append hdelete
    | update f => trivial
    | delete => trivial

end LeftOf

namespace Pg

variable {pg : Pg} {key : PartitionKey} {stmts : List Statement} {now : PrimitiveDateTime}

/-- Whatever row of `key` the statements leave when they are replayed, it has expired. -/
structure LeavesExpired (key : PartitionKey) (now : PrimitiveDateTime) (stmts : List Statement)
    (pg : Pg) : Prop where
  row : ∀ row ∈ pg.rowAt key, LeftOf (Row.ExpiredAt now) stmts row
  stored : LeftOfStored (Row.ExpiredAt now) stmts

instance : Decidable (pg.LeavesExpired key now stmts) :=
  decidable_of_iff ((∀ row ∈ pg.rowAt key, LeftOf (Row.ExpiredAt now) stmts row) ∧
    LeftOfStored (Row.ExpiredAt now) stmts) ⟨fun h => ⟨h.1, h.2⟩, fun h => ⟨h.1, h.2⟩⟩

/-- The row may be taken away at any time. -/
theorem LeavesExpired.mono (h : pg.LeavesExpired key now stmts) {pg' : Pg}
    (hrow : pg'.rowAt key = pg.rowAt key ∨ pg'.rowAt key = none) :
    pg'.LeavesExpired key now stmts where
  row row hr := by
    rcases hrow with hsame | hnone
    · exact h.row row (hsame ▸ hr)
    · rw [hnone] at hr
      cases hr
  stored := h.stored

/-- The first statement replayed. -/
theorem LeavesExpired.replay {stmt : Statement} (h : pg.LeavesExpired key now (stmt :: stmts))
    (hkey : stmt.partitionKey = key) : (pg.apply stmt).LeavesExpired key now stmts where
  row row hr := by
    subst hkey
    have hallowed := rowAt_apply_allowed stmt pg
    have hold := h.row
    have hnew := h.stored.1
    unfold LeftOf at hold
    cases heffect : stmt.effect with
    | insert mk =>
      rw [heffect] at hallowed hold hnew
      cases hbefore : pg.rowAt stmt.partitionKey with
      | some row' =>
        rw [hbefore] at hallowed
        exact hold row (hbefore.trans (hallowed.symm.trans hr))
      | none =>
        rw [hbefore] at hallowed
        rcases hallowed with hnone | ⟨id, hsome⟩
        · cases hnone.symm.trans hr
        · cases hsome.symm.trans hr
          exact leftOf_insert heffect id hnew
    | update f =>
      rw [heffect] at hallowed hold
      obtain ⟨row', hrow', rfl⟩ := Option.map_eq_some_iff.1 (hallowed.symm.trans hr)
      exact hold row' hrow'
    | delete =>
      rw [heffect] at hallowed
      cases hallowed.symm.trans hr
  stored := h.stored.2

end Pg

/-! ## Commands -/

/-- A statement that stores a row of `key` when it is run now. An INSERT is refused where
    there is a row, and an UPDATE finds nothing where there is none. -/
def Statement.storesNow (pg : Pg) (key : PartitionKey) (stmt : Statement) : Bool :=
  stmt.partitionKey = key &&
    match stmt.effect with
    | .insert _ => (pg.rowAt key).isNone
    | .update _ => (pg.rowAt key).isSome
    | .delete => false

namespace Cmd

/-- A command that stores a row of `key` in Postgres at once. -/
def storesNow (s : Store) (key : PartitionKey) : Cmd → Bool
  | .query _ (.execute stmt) => stmt.storesNow s.pg key
  | _ => false

/-- A command that stores a row of `key` in Redis, in the stream or in Postgres. -/
def stores (s : Store) (key : PartitionKey) : Cmd → Bool
  | .setHashFields k .. => k = key.display
  | .setHashFieldIfNotExist k field .. => k = key.display && (s.redis k field).isNone
  | .streamAppendEntry _ entry =>
    entry.query.statement.partitionKey = key && !entry.query.statement.isDelete
  | c => c.storesNow s key

/-- A DELETE of `key` that is run at once. -/
def deletesNow (key : PartitionKey) : Cmd → Bool
  | .query _ (.execute stmt) => stmt.partitionKey = key && stmt.isDelete
  | _ => false

/-- A command of a find or of a delete. -/
def drops : Cmd → Bool
  | .setHashFields .. | .setHashFieldIfNotExist .. => false
  | .streamAppendEntry _ entry => entry.query.statement.isDelete
  | .query _ (.execute stmt) => stmt.isDelete
  | _ => true

theorem storesNow_of_drops {s : Store} {key : PartitionKey} {c : Cmd} (h : c.drops = true) :
    c.storesNow s key = false := by
  cases c with
  | query pool q =>
    cases q with
    | execute stmt =>
      have hdelete : stmt.isDelete = true := h
      unfold Statement.isDelete at hdelete
      unfold storesNow Statement.storesNow
      cases heffect : stmt.effect <;> simp_all
    | _ => rfl
  | _ => rfl

theorem stores_of_drops {s : Store} {key : PartitionKey} {c : Cmd} (h : c.drops = true) :
    c.stores s key = false := by
  cases c with
  | setHashFields => cases h
  | setHashFieldIfNotExist => cases h
  | streamAppendEntry stream entry =>
    have hdelete : entry.query.statement.isDelete = true := h
    simp [stores, hdelete]
  | query pool q => exact storesNow_of_drops h
  | _ => rfl

theorem drops_of_quiet {c : Cmd} (h : ∀ reply, c.quiet reply = true) : c.drops = true := by
  cases c with
  | setHashFields => exact absurd (h (.ok ())) Bool.false_ne_true
  | setHashFieldIfNotExist => exact absurd (h (.ok .keySet)) Bool.false_ne_true
  | streamAppendEntry => exact absurd (h (.ok ())) Bool.false_ne_true
  | query pool q =>
    cases q with
    | execute stmt => exact absurd (h (.error .notFound)) Bool.false_ne_true
    | _ => rfl
  | _ => rfl

end Cmd

namespace Store

variable {ctx : KvStoreContext} {s : Store} {key : PartitionKey} {now : PrimitiveDateTime}

variable (ctx) in
/-- No row of `key` in Redis, and none that Postgres will have, is one that has not
    expired. -/
structure Stale (key : PartitionKey) (now : PrimitiveDateTime) (s : Store) : Prop where
  cached : ∀ row ∈ s.cached key, row.ExpiredAt now
  leaves : s.pg.LeavesExpired key now (s.queued ctx key)

instance : Decidable (s.Stale ctx key now) :=
  decidable_of_iff ((∀ row ∈ s.cached key, row.ExpiredAt now) ∧
    s.pg.LeavesExpired key now (s.queued ctx key)) ⟨fun h => ⟨h.1, h.2⟩, fun h => ⟨h.1, h.2⟩⟩

/-- What a command leaves of the row of `key` in Postgres, unless it stores one. -/
theorem rowAt_exec {c : Cmd} (hc : c.storesNow s key = false) :
    (s.exec c).2.pg.rowAt key = s.pg.rowAt key ∨ (s.exec c).2.pg.rowAt key = none := by
  cases c with
  | query pool q =>
    cases q with
    | execute stmt =>
      by_cases hkey : stmt.partitionKey = key
      · subst hkey
        have hallowed := Pg.rowAt_apply_allowed stmt s.pg
        have hno : Statement.storesNow s.pg stmt.partitionKey stmt = false := hc
        unfold Statement.storesNow at hno
        change (s.pg.apply stmt).rowAt _ = _ ∨ (s.pg.apply stmt).rowAt _ = _
        cases hrow : s.pg.rowAt stmt.partitionKey with
        | none =>
          rw [hrow] at hallowed
          cases heffect : stmt.effect with
          | insert mk => simp [heffect, hrow] at hno
          | update f =>
            rw [heffect] at hallowed
            exact Or.inr hallowed
          | delete =>
            rw [heffect] at hallowed
            exact Or.inr hallowed
        | some row =>
          rw [hrow] at hallowed
          cases heffect : stmt.effect with
          | insert mk =>
            rw [heffect] at hallowed
            exact Or.inl hallowed
          | update f => simp [heffect, hrow] at hno
          | delete =>
            rw [heffect] at hallowed
            exact Or.inr hallowed
      · exact Or.inl (Pg.rowAt_apply_of_ne hkey)
    | _ => exact Or.inl rfl
  | setHashFieldIfNotExist k field value ttl =>
    simp only [exec]
    split <;> exact Or.inl rfl
  | getHashField k field =>
    simp only [exec]
    split <;> exact Or.inl rfl
  | _ => exact Or.inl rfl

/-- What a command leaves of the row of `key` in Redis, unless it stores one. -/
theorem cached_exec_of_not_stores {c : Cmd} (hc : c.stores s key = false) :
    (s.exec c).2.cached key = s.cached key ∨ (s.exec c).2.cached key = none := by
  cases c with
  | setHashFields k field value ttl =>
    have hk : k ≠ key.display := by simpa [Cmd.stores] using hc
    exact Or.inl (if_neg fun h => hk h.1.symm)
  | setHashFieldIfNotExist k field value ttl =>
    simp only [exec]
    split
    · exact Or.inl rfl
    · rename_i hnone
      have hk : k ≠ key.display := by
        rintro rfl
        simp [Cmd.stores, hnone] at hc
      exact Or.inl (if_neg fun h => hk h.1.symm)
  | getHashField k field =>
    simp only [exec]
    split <;> exact Or.inl rfl
  | deleteHashFields k field =>
    by_cases hk : key.display = k ∧ key.display = field
    · exact Or.inr (if_pos hk)
    · exact Or.inl (if_neg hk)
  | _ => exact Or.inl rfl

/-- A command that stores no row of `key` keeps its rows stale. -/
theorem Stale.exec (h : s.Stale ctx key now) {c : Cmd} (hc : c.stores s key = false) :
    (s.exec c).2.Stale ctx key now where
  cached row hrow := by
    rcases cached_exec_of_not_stores hc with hsame | hnone
    · exact h.cached row (hsame ▸ hrow)
    · rw [hnone] at hrow
      cases hrow
  leaves := by
    have hnow : c.storesNow s key = false := by
      cases c with
      | query => exact hc
      | _ => rfl
    have hpg := h.leaves.mono (rowAt_exec hnow)
    cases c with
    | streamAppendEntry stream entry =>
      by_cases hstream : ctx.stream key = stream ∧ entry.query.statement.partitionKey = key
      · obtain ⟨rfl, hkey⟩ := hstream
        have hdelete : entry.query.statement.isDelete = true := by
          simpa [Cmd.stores, hkey] using hc
        have hqueued : (s.exec (.streamAppendEntry (ctx.stream key) entry)).2.queued ctx key =
            s.queued ctx key ++ [entry.query.statement] := by
          simp [Store.exec, queued, hkey]
        rw [hqueued]
        exact ⟨fun row hrow => (hpg.row row hrow).append hdelete, hpg.stored.append hdelete⟩
      · have hqueued : (s.exec (.streamAppendEntry stream entry)).2.queued ctx key =
            s.queued ctx key := by
          by_cases hs : ctx.stream key = stream
          · have hkey : entry.query.statement.partitionKey ≠ key := fun hk => hstream ⟨hs, hk⟩
            subst hs
            simp [Store.exec, queued, hkey]
          · simp [Store.exec, queued, hs]
        rwa [hqueued]
    | setHashFieldIfNotExist k field value ttl =>
      simp only [Store.exec] at hpg ⊢
      split at hpg <;> exact hpg
    | getHashField k field =>
      simp only [Store.exec] at hpg ⊢
      split at hpg <;> exact hpg
    | _ => exact hpg

/-- So does a step of the environment. -/
theorem Stale.envStep (h : s.Stale ctx key now) (hs : s.WellFormed ctx) (e : EnvStep) :
    (s.envStep ctx e).Stale ctx key now := by
  have hcached : ∀ row ∈ (s.envStep ctx e).cached key, row.ExpiredAt now := by
    intro row hrow
    rcases envStep_cached hs key e with hsame | hnone
    · exact h.cached row (hsame ▸ hrow)
    · rw [hnone.1] at hrow
      cases hrow
  refine ⟨hcached, ?_⟩
  cases e with
  | drain stream =>
    rcases drain_queued_cases hs key stream with ⟨stmt, hq, hkey, hpg⟩ | ⟨hq, hpg⟩
    · have hleaves := h.leaves
      rw [hq] at hleaves
      change (s.drain stream).pg.LeavesExpired key now ((s.drain stream).queued ctx key)
      rw [hpg]
      exact hleaves.replay hkey
    · change (s.drain stream).pg.LeavesExpired key now ((s.drain stream).queued ctx key)
      rw [hq]
      rcases hpg with hpg | ⟨stmt, hkey, hpg⟩
      · rw [hpg]
        exact h.leaves
      · rw [hpg]
        exact h.leaves.mono (Or.inl (Pg.rowAt_apply_of_ne hkey))
  | expire k =>
    have hpg : (s.expire ctx k).pg = s.pg := expire_pg ..
    have hqueued : (s.expire ctx k).queued ctx key = s.queued ctx key := by simp [queued]
    change (s.expire ctx k).pg.LeavesExpired key now ((s.expire ctx k).queued ctx key)
    rw [hpg, hqueued]
    exact h.leaves

end Store

end CardVault
