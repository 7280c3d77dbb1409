import CardVault.System

/-!
# Deletes

A delete takes the row out of Redis and queues the SQL DELETE, or runs it at
once. From then on a find of the key asks Postgres, which has the row until the
DELETE is replayed, if it had it before or if an INSERT of it is still queued.

Main results:
* `remove_redis`, `remove_streams`: what a delete does.
* `vault_gone_iff`, `locker_gone_iff`: when the row is gone for good.
* `delete_stays_iff`: both, over runs.
-/

namespace CardVault

open Interaction Stream Relational

namespace Store

variable (ctx : KvStoreContext)

/-! ## What a delete does -/

/-- What of a delete takes effect on Postgres at once. -/
def removeNow (s : Store) (key : PartitionKey) (stmt : Statement) : Store :=
  if s.ThroughRedis key then s else { s with pg := s.pg.apply stmt }

/-- What of a delete is queued. -/
def removeLater (s : Store) (key : PartitionKey) (query : SerializableQuery) (stream : String) :
    List DrainerEntry :=
  if s.ThroughRedis key ∧ stream = ctx.stream key then [⟨query, key.display⟩] else []

variable {ctx} {s : Store} {key : PartitionKey} {query : SerializableQuery}

theorem remove_pg (s : Store) (key : PartitionKey) (query : SerializableQuery) :
    (s.remove ctx key query).pg = (s.removeNow key query.statement).pg := by
  unfold remove removeNow
  split_ifs <;> rfl

theorem removeNow_streams (s : Store) (key : PartitionKey) (stmt : Statement) :
    (s.removeNow key stmt).streams = s.streams := by
  unfold removeNow
  split_ifs <;> rfl

theorem remove_streams (s : Store) (key : PartitionKey) (query : SerializableQuery)
    (stream : String) :
    (s.remove ctx key query).streams stream =
      s.streams stream ++ s.removeLater ctx key query stream := by
  unfold remove removeLater
  by_cases h : s.ThroughRedis key
  · rw [if_pos h, erase_streams]
    simp [h]
  · simp [h]

theorem mem_removeLater {stream : String} {entry : DrainerEntry}
    (h : entry ∈ s.removeLater ctx key query stream) : entry = ⟨query, key.display⟩ := by
  unfold removeLater at h
  split_ifs at h
  · exact List.mem_singleton.1 h
  · cases h

theorem remove_mode (s : Store) (key : PartitionKey) (query : SerializableQuery) :
    (s.remove ctx key query).mode = s.mode := by
  unfold remove
  split_ifs <;> rfl

/-- The row is out of Redis, or was not there. -/
theorem remove_redis (hmode : s.mode ≠ .disabled) (k f : String) :
    (s.remove ctx key query).redis k f =
      if k = key.display ∧ f = key.display then none else s.redis k f := by
  unfold remove
  by_cases h : s.ThroughRedis key
  · rw [if_pos h]
    rfl
  · rw [if_neg h]
    split_ifs with hk
    · obtain ⟨rfl, rfl⟩ := hk
      rcases cached_eq_none_of_not_throughRedis h with hdisabled | ⟨-, hc⟩
      · exact absurd hdisabled hmode
      · exact hc
    · rfl

theorem remove_cached (hmode : s.mode ≠ .disabled) (key' : PartitionKey) :
    (s.remove ctx key query).cached key' =
      if key'.display = key.display then none else s.cached key' := by
  rw [cached, remove_redis hmode]
  simp [cached]

theorem remove_cached_self (hmode : s.mode ≠ .disabled) :
    (s.remove ctx key query).cached key = none := by simp [remove_cached hmode]

/-! ## Vault rows -/

variable (ctx) in
/-- When a vault row that is deleted is gone for good: Postgres does not have it,
    or is where it is deleted, and no INSERT of it that the column limits allow is
    queued. -/
def VaultGone (s : Store) (pk : VaultPrimaryKey) : Prop :=
  (s.ThroughRedis pk.getPartitionKey → s.pg.rowAt pk.getPartitionKey = none) ∧
    ∀ stmt ∈ s.queued ctx pk.getPartitionKey, stmt.isInsert = true → stmt.fits = false

/-- Every prefix of a list makes nothing of nothing exactly when every element
    does. -/
theorem forall_take_foldl_none {ε α : Type} (f : ε → Option α → Option α) (l : List ε)
    (v : Option α) :
    (∀ k, (l.take k).foldl (fun v e => f e v) v = none) ↔ v = none ∧ ∀ e ∈ l, f e none = none := by
  constructor
  · intro h
    obtain rfl : v = none := h 0
    refine ⟨rfl, ?_⟩
    induction l with
    | nil => simp
    | cons e l ih =>
      have he : f e none = none := h 1
      exact List.forall_mem_cons.2 ⟨he, ih fun k => by simpa [he] using h (k + 1)⟩
  · rintro ⟨rfl, h⟩ k
    induction l generalizing k with
    | nil => simp
    | cons e l ih =>
      obtain ⟨he, hl⟩ := List.forall_mem_cons.1 h
      cases k with
      | zero => rfl
      | succ k => simpa [he] using ih hl k

/-- Postgres never has a row of the key exactly when it has none now and nothing
    queued makes one. -/
theorem forall_settle_rowAt_none_iff (hs : s.WellFormed ctx) (hkey : key.soleKey = true) :
    (∀ steps, (s.settle ctx steps).pg.rowAt key = none) ↔
      s.pg.rowAt key = none ∧
        ∀ stmt ∈ s.queued ctx key, stmt.isInsert = true → stmt.fits = false := by
  have hview : ∀ pg : Pg, pg.rowAt key = none ↔ pg.view key = none := fun pg => by simp [Pg.view]
  simp only [hview]
  rw [forall_settle_view_iff hs hkey (P := fun row => row = none), forall_take_foldl_none]
  refine and_congr_right fun _ => ⟨fun h stmt hstmt => ?_, fun h entry hentry => ?_⟩
  · obtain ⟨hmem, hstmt⟩ := List.mem_filter.1 hstmt
    obtain ⟨entry, hentry, rfl⟩ := List.mem_map.1 hmem
    have hact := h entry hentry
    rwa [actAt, if_pos (by simpa using hstmt), Statement.act_none] at hact
  · unfold actAt
    split_ifs with hk
    · refine (Statement.act_none _).2 (h _ ?_)
      exact List.mem_filter.2 ⟨List.mem_map_of_mem hentry, by simpa using hk⟩
    · rfl

theorem queued_remove (s : Store) (hquery : query.statement.partitionKey = key) :
    (s.remove ctx key query).queued ctx key =
      s.queued ctx key ++ if s.ThroughRedis key then [query.statement] else [] := by
  unfold remove
  split_ifs
  · exact queued_erase query hquery
  · rw [List.append_nil]
    rfl

theorem queued_erase_of_ne {key' : PartitionKey} (query : SerializableQuery)
    (hquery : query.statement.partitionKey ≠ key) :
    (s.erase ctx key' query).queued ctx key = s.queued ctx key := by
  unfold queued
  rw [erase_streams]
  split_ifs <;> simp [hquery]

/-- A delete of another row leaves all of this row alone. -/
theorem remove_of_ne {key' : PartitionKey} (hne : key.display ≠ key'.display)
    (hquery : query.statement.partitionKey = key') :
    (s.remove ctx key' query).pg.rowAt key = s.pg.rowAt key ∧
      (s.remove ctx key' query).queued ctx key = s.queued ctx key ∧
        (s.remove ctx key' query).cached key = s.cached key := by
  have hkey : query.statement.partitionKey ≠ key := fun h =>
    hne (congrArg PartitionKey.display (h.symm.trans hquery))
  unfold remove
  split_ifs with h
  · exact ⟨rfl, queued_erase_of_ne _ hkey, (erase_cached ..).trans (if_neg hne)⟩
  · exact ⟨Pg.rowAt_apply_of_ne hkey, rfl, rfl⟩

variable (ctx) in
/-- A delete of a locker's row leaves the lookup records alone. -/
theorem removeLocker_lookup (s : Store) (pk : LockerPrimaryKeyType) (lookupId : String) :
    (s.removeLocker ctx pk).pg.rowAt (.reverseLookup lookupId) =
        s.pg.rowAt (.reverseLookup lookupId) ∧
      (s.removeLocker ctx pk).queued ctx (.reverseLookup lookupId) =
          s.queued ctx (.reverseLookup lookupId) ∧
        (s.removeLocker ctx pk).cached (.reverseLookup lookupId) =
          s.cached (.reverseLookup lookupId) :=
  remove_of_ne (display_locker_ne_reverseLookup pk lookupId).symm rfl

variable (ctx) in
/-- A delete of a lookup record leaves the lockers' rows alone. -/
theorem removeLookup_locker (s : Store) (pk : LockerPrimaryKeyType) (lookupId : String) :
    (s.removeLookup ctx lookupId).pg.rowAt pk.getPartitionKey = s.pg.rowAt pk.getPartitionKey ∧
      (s.removeLookup ctx lookupId).queued ctx pk.getPartitionKey =
          s.queued ctx pk.getPartitionKey ∧
        (s.removeLookup ctx lookupId).cached pk.getPartitionKey = s.cached pk.getPartitionKey :=
  remove_of_ne (display_locker_ne_reverseLookup pk lookupId) rfl

variable (ctx) in
theorem removeLocker_throughRedis (s : Store) (pk : LockerPrimaryKeyType) (lookupId : String) :
    (s.removeLocker ctx pk).ThroughRedis (.reverseLookup lookupId) ↔
      s.ThroughRedis (.reverseLookup lookupId) := by
  rw [ThroughRedis, (removeLocker_lookup ctx s pk lookupId).2.2,
    show (s.removeLocker ctx pk).mode = s.mode from remove_mode s _ _, ThroughRedis]

/-- A vault row that is deleted is found no more exactly when `VaultGone` holds
    before the delete. -/
theorem vault_gone_iff (hs : s.WellFormed ctx) (hmode : s.mode ≠ .disabled) (pk : VaultPrimaryKey)
    (hs' : ((deleteFromVault ctx pk.vaultId pk.entityId).run exec s).2.WellFormed ctx) :
    (∀ steps, ((findByVaultIdEntityId ctx pk.vaultId pk.entityId).run exec
        (((deleteFromVault ctx pk.vaultId pk.entityId).run exec s).2.settle ctx steps)).1 =
          .error .notFoundError) ↔ s.VaultGone ctx pk := by
  obtain ⟨count, hrun⟩ := run_deleteFromVault ctx s hs pk
  rw [hrun] at hs' ⊢
  dsimp only at hs' ⊢
  have hfind : ∀ s' : Store, s'.WellFormed ctx → s'.cached pk.getPartitionKey = none →
      (((findByVaultIdEntityId ctx pk.vaultId pk.entityId).run exec s').1 = .error .notFoundError ↔
        s'.pg.rowAt pk.getPartitionKey = none) := fun s' hs' hc => by
    rw [run_findByVaultIdEntityId ctx s' hs' pk, visibleVault, visible_of_cached_none hc]
    cases hrow : s'.pg.rowAt pk.getPartitionKey with
    | none => simp
    | some row =>
      have hv := (visible_of_cached_none hc).trans hrow
      obtain ⟨e, rfl, -⟩ := Vault.spec.exists_visible ctx s' hs' rfl hv
      simp [Option.bind]
  have hall := fun steps => hfind _ (settle_wellFormed hs' steps)
    (settle_cached_none hs' (remove_cached_self hmode) steps)
  refine (forall_congr' hall).trans ((forall_settle_rowAt_none_iff hs' rfl).trans ?_)
  have hq : (s.remove ctx pk.getPartitionKey ⟨.deleteVault pk, Resource.vault.entityType,
      .delete⟩).queued ctx pk.getPartitionKey = _ := queued_remove s rfl
  rw [remove_pg, hq, VaultGone, removeNow]
  refine and_congr ?_ ?_
  · split_ifs with h
    · simp [h]
    · simp only [h, false_implies, iff_true]
      exact Pg.rowAt_apply_allowed (.deleteVault pk) s.pg
  · simp only [List.mem_append, or_imp, forall_and, and_iff_left_iff_imp]
    intro _ stmt hstmt
    split_ifs at hstmt
    · rw [List.mem_singleton.1 hstmt]
      intro h
      cases h
    · cases hstmt

/-! ## Lockers -/

variable (ctx) in
/-- When a locker that is deleted is gone for good. Whatever is queued before the
    delete: no order of replaying it puts the row into Postgres, nor a row with
    the lookup columns of the row found, nor a lookup record that points to
    another row in Redis. -/
structure LockerGone (s : Store) (pk : LockerPrimaryKeyType) : Prop where
  row : ∀ steps, ((s.removeNow pk.getPartitionKey (.deleteLocker pk)).settle ctx steps).pg.rowAt
    pk.getPartitionKey = none
  byHash : ∀ row, s.visible pk.getPartitionKey = some (.locker row) → ∀ steps,
    ((s.removeNow pk.getPartitionKey (.deleteLocker pk)).settle ctx steps).pg.lockerRowByHash
      row.hashKey = none
  lookup : ∀ row, s.visible pk.getPartitionKey = some (.locker row) → ∀ steps lookup,
    ((s.removeNow (.reverseLookup row.hashKey.getLookupKey.lookupId)
      (.deleteReverseLookup row.hashKey.getLookupKey.lookupId)).settle ctx steps).pg.rowAt
        (.reverseLookup row.hashKey.getLookupKey.lookupId) = some (.reverseLookup lookup) →
      lookup.partitionKey = pk.getPartitionKey.display ∨ lookup.partitionKey =
          (PartitionKey.reverseLookup row.hashKey.getLookupKey.lookupId).display ∨
        s.redis lookup.partitionKey lookup.partitionKey = none

variable (ctx) in
/-- The locker that `s` has under `pk` is found no more: neither by its key nor
    by its lookup columns. -/
structure LockerNotFound (s s' : Store) (pk : LockerPrimaryKeyType) : Prop where
  find : ((findByLockerIdMerchantIdCustomerId ctx pk.lockerId pk.merchantId pk.customerId).run
    exec s').1 = .error .notFoundError
  byHash : ∀ locker,
    ((findByLockerIdMerchantIdCustomerId ctx pk.lockerId pk.merchantId pk.customerId).run
        exec s).1 = .ok locker →
      ((findOptionalByHashIdMerchantIdCustomerId ctx locker.hashId locker.merchantId
        locker.customerId).run exec s').1 = .ok none

theorem apply_locker_congr (stmt : Statement) {pg pg' : Pg} (h : pg.locker = pg'.locker) :
    (pg.apply stmt).locker = (pg'.apply stmt).locker := by
  cases stmt <;> simp [Pg.apply, Pg.execute, h]

variable (ctx) in
/-- What a delete of a row and of its lookup record queues. -/
theorem removeLookup_streams (s : Store) (pk : LockerPrimaryKeyType) (lookupId stream : String) :
    ((s.removeLocker ctx pk).removeLookup ctx lookupId).streams stream =
      s.streams stream ++
        (s.removeLater ctx pk.getPartitionKey
            ⟨.deleteLocker pk, Resource.locker.entityType, .delete⟩ stream ++
          (s.removeLocker ctx pk).removeLater ctx (.reverseLookup lookupId)
            ⟨.deleteReverseLookup lookupId, Resource.reverseLookup.entityType, .delete⟩
            stream) := by
  refine (remove_streams (s.removeLocker ctx pk) (.reverseLookup lookupId) _ stream).trans ?_
  rw [← List.append_assoc]
  exact congrArg (· ++ _) (remove_streams s pk.getPartitionKey _ stream)

variable (ctx) in
/-- What a delete of a locker leaves queued and in Postgres. -/
theorem deleteLocker_extends (s : Store) (pk : LockerPrimaryKeyType) :
    ∃ extra, Replay.Extends extra (s.removeNow pk.getPartitionKey (.deleteLocker pk)).replay
        (s.deleteLocker ctx pk).replay ∧
      (∀ stream, ∀ entry ∈ extra stream, entry.query.statement = .deleteLocker pk ∨
        ∃ lookupId, entry.query.statement = .deleteReverseLookup lookupId) ∧
      (s.removeNow pk.getPartitionKey (.deleteLocker pk)).pg.locker =
        (s.deleteLocker ctx pk).pg.locker := by
  have hpg : (s.removeLocker ctx pk).pg = (s.removeNow pk.getPartitionKey (.deleteLocker pk)).pg :=
    remove_pg s pk.getPartitionKey _
  unfold deleteLocker
  split
  · rename_i row _
    generalize row.hashKey.getLookupKey.lookupId = lookupId
    have hext := removeLookup_streams ctx s pk lookupId
    rw [← removeNow_streams s pk.getPartitionKey (.deleteLocker pk)] at hext
    refine ⟨_, hext, fun stream entry hentry => ?_, ?_⟩
    · rcases List.mem_append.1 hentry with h | h
      · exact Or.inl (by rw [mem_removeLater h])
      · exact Or.inr ⟨lookupId, by rw [mem_removeLater h]⟩
    · rw [← hpg]
      refine (Eq.trans (congrArg Pg.locker (remove_pg (s.removeLocker ctx pk)
        (.reverseLookup lookupId) _)) ?_).symm
      unfold removeNow
      split_ifs <;> rfl
  · have hext : ∀ stream, (s.removeLocker ctx pk).streams stream = _ :=
      remove_streams s pk.getPartitionKey ⟨.deleteLocker pk, Resource.locker.entityType, .delete⟩
    rw [← removeNow_streams s pk.getPartitionKey (.deleteLocker pk)] at hext
    exact ⟨_, hext, fun stream entry hentry => Or.inl (by rw [mem_removeLater hentry]),
      by rw [← hpg]⟩

variable (ctx) in
/-- What Redis holds after a delete of a locker. -/
theorem deleteLocker_redis_iff (hmode : s.mode ≠ .disabled) {pk : LockerPrimaryKeyType}
    {row : LockerInner} (hv : s.visible pk.getPartitionKey = some (.locker row)) (k : String) :
    (s.deleteLocker ctx pk).redis k k = none ↔ k = pk.getPartitionKey.display ∨
      k = (PartitionKey.reverseLookup row.hashKey.getLookupKey.lookupId).display ∨
        s.redis k k = none := by
  have hmode' : (s.removeLocker ctx pk).mode ≠ .disabled := by
    rwa [show (s.removeLocker ctx pk).mode = s.mode from remove_mode s _ _]
  have hredis : (s.deleteLocker ctx pk).redis k k =
      if k = (PartitionKey.reverseLookup row.hashKey.getLookupKey.lookupId).display then none
      else if k = pk.getPartitionKey.display then none else s.redis k k := by
    rw [deleteLocker, hv]
    refine (remove_redis hmode' k k).trans ?_
    simp only [and_self, show (s.removeLocker ctx pk).redis k k = _ from remove_redis hmode k k]
  rw [hredis]
  split_ifs with h h' <;> simp_all

variable (ctx) in
/-- What a delete of a locker queues makes no difference to a table that never
    has its row. -/
theorem forall_settle_locker_iff (s : Store) (pk : LockerPrimaryKeyType)
    {P : Table LockerInner lockerClash → Prop}
    (hP : ∀ table, P table → table.get LockerInner.primaryKey pk = none) :
    (∀ steps, P ((s.deleteLocker ctx pk).settle ctx steps).pg.locker) ↔
      ∀ steps,
        P ((s.removeNow pk.getPartitionKey (.deleteLocker pk)).settle ctx steps).pg.locker := by
  obtain ⟨extra, hext, hextra, hpg⟩ := deleteLocker_extends ctx s pk
  refine forall_settle_extends_iff (π := Pg.locker) (fun stmt _ _ => apply_locker_congr stmt) hext
    hpg fun stream entry hentry pg h => ?_
  rcases hextra stream entry hentry with hstmt | ⟨lookupId, hstmt⟩
  · rw [hstmt]
    exact congrArg Prod.snd (Table.delete_of_get_none (hP _ h))
  · rw [hstmt]
    rfl

variable (ctx) in
/-- After a delete of a locker, Redis holds neither its row nor the lookup record
    of the row that was visible. -/
theorem deleteLocker_cached (hmode : s.mode ≠ .disabled) (pk : LockerPrimaryKeyType) :
    (s.deleteLocker ctx pk).cached pk.getPartitionKey = none ∧
      ∀ row, s.visible pk.getPartitionKey = some (.locker row) →
        (s.deleteLocker ctx pk).cached
          (.reverseLookup row.hashKey.getLookupKey.lookupId) = none := by
  have hrow : (s.removeLocker ctx pk).cached pk.getPartitionKey = none := remove_cached_self hmode
  have hmode' : (s.removeLocker ctx pk).mode ≠ .disabled := by
    rwa [show (s.removeLocker ctx pk).mode = s.mode from remove_mode s _ _]
  unfold deleteLocker
  cases hv : s.visible pk.getPartitionKey with
  | none => exact ⟨hrow, fun row h => by cases h⟩
  | some row =>
    cases row with
    | locker row =>
      refine ⟨(remove_cached hmode' _).trans ?_, fun row' h => ?_⟩
      · rw [hrow, ite_self]
      · cases h
        exact remove_cached_self hmode'
    | _ => exact ⟨hrow, fun row h => by cases h⟩

/-- Entries at the end that leave the row or delete it make no difference to a
    property that holds without the row. -/
theorem forall_take_foldl_append_iff {ε α : Type} {f : ε → Option α → Option α} {l extra : List ε}
    {v : Option α} {P : Option α → Prop} (hnone : P none)
    (hextra : ∀ e ∈ extra, ∀ v, f e v = v ∨ f e v = none) :
    (∀ k, P (((l ++ extra).take k).foldl (fun v e => f e v) v)) ↔
      ∀ k, P ((l.take k).foldl (fun v e => f e v) v) := by
  have hfold : ∀ (es : List ε) (v : Option α), (∀ e ∈ es, ∀ v, f e v = v ∨ f e v = none) →
      es.foldl (fun v e => f e v) v = v ∨ es.foldl (fun v e => f e v) v = none := by
    intro es
    induction es with
    | nil => exact fun v _ => Or.inl rfl
    | cons e es ih =>
      intro v h
      obtain ⟨he, hes⟩ := List.forall_mem_cons.1 h
      rcases he v with hv | hv
      · simpa only [List.foldl_cons, hv] using ih v hes
      · rcases ih none hes with h' | h' <;> exact Or.inr (by rw [List.foldl_cons, hv, h'])
  constructor
  · intro h k
    rcases le_total k l.length with hk | hk
    · have hk' := h k
      rwa [List.take_append_of_le_length hk] at hk'
    · have hk' := h l.length
      rwa [List.take_left, ← List.take_of_length_le hk] at hk'
  · intro h k
    rw [List.take_append, List.foldl_append]
    rcases hfold (extra.take (k - l.length)) ((l.take k).foldl (fun v e => f e v) v)
      fun e he => hextra e (List.mem_of_mem_take he) with hk | hk
    · rw [hk]
      exact h k
    · rw [hk]
      exact hnone

theorem actAt_deleteLocker (pk : LockerPrimaryKeyType) {entry : DrainerEntry}
    (h : entry.query.statement = .deleteLocker pk) (lookupId : String) (row : Option Row) :
    actAt (.reverseLookup lookupId) entry row = row := by
  rw [actAt, h]
  rfl

/-- The delete of a row leaves the rows of lookup records alone. -/
theorem removeLocker_removeNow_rowAt (pk : LockerPrimaryKeyType) (lookupId : String) :
    ((s.removeLocker ctx pk).removeNow (.reverseLookup lookupId)
        (.deleteReverseLookup lookupId)).pg.rowAt (.reverseLookup lookupId) =
      (s.removeNow (.reverseLookup lookupId) (.deleteReverseLookup lookupId)).pg.rowAt
        (.reverseLookup lookupId) := by
  have hthrough := removeLocker_throughRedis ctx s pk lookupId
  unfold removeNow
  by_cases h : s.ThroughRedis (.reverseLookup lookupId)
  · rw [if_pos (hthrough.2 h), if_pos h]
    refine (congrArg (Pg.rowAt _) (remove_pg s pk.getPartitionKey _)).trans ?_
    unfold removeNow
    split_ifs
    · rfl
    · exact Pg.rowAt_apply_of_ne fun hkey => nomatch hkey
  · rw [if_neg (mt hthrough.1 h), if_neg h]
    exact (Pg.rowAt_apply_allowed (.deleteReverseLookup lookupId) _).trans
      (Pg.rowAt_apply_allowed (.deleteReverseLookup lookupId) _).symm

/-- The lookup records that Postgres can come to have are the ones it could come
    to have before the delete. -/
theorem forall_settle_lookup_iff (hs : s.WellFormed ctx) {pk : LockerPrimaryKeyType}
    (hs' : (s.deleteLocker ctx pk).WellFormed ctx) {row : LockerInner}
    (hv : s.visible pk.getPartitionKey = some (.locker row)) {lookupId : String}
    (hid : row.hashKey.getLookupKey.lookupId = lookupId) :
    (∀ steps lookup, ((s.deleteLocker ctx pk).settle ctx steps).pg.rowAt
          (.reverseLookup lookupId) = some (.reverseLookup lookup) →
        ((s.deleteLocker ctx pk).settle ctx steps).redis lookup.partitionKey
          lookup.partitionKey = none) ↔
      ∀ steps lookup, ((s.removeNow (.reverseLookup lookupId)
            (.deleteReverseLookup lookupId)).settle ctx steps).pg.rowAt
          (.reverseLookup lookupId) = some (.reverseLookup lookup) →
        (s.deleteLocker ctx pk).redis lookup.partitionKey lookup.partitionKey = none := by
  have hdelete : s.deleteLocker ctx pk = (s.removeLocker ctx pk).removeLookup ctx lookupId := by
    rw [deleteLocker, hv, ← hid]
  -- a property of the lookup record, whatever has expired meanwhile
  have hsole : (PartitionKey.reverseLookup lookupId).soleKey = true := rfl
  let Q : Option Row → Prop := fun row => ∀ lookup, row = some (.reverseLookup lookup) →
    (s.deleteLocker ctx pk).redis lookup.partitionKey lookup.partitionKey = none
  have hbase : (s.removeNow (.reverseLookup lookupId)
      (.deleteReverseLookup lookupId)).WellFormed ctx := by
    unfold removeNow
    split_ifs
    · exact hs
    · exact hs.setPg _
  have hafter : (∀ steps lookup, ((s.deleteLocker ctx pk).settle ctx steps).pg.rowAt
        (.reverseLookup lookupId) = some (.reverseLookup lookup) →
      ((s.deleteLocker ctx pk).settle ctx steps).redis lookup.partitionKey
        lookup.partitionKey = none) ↔
      ∀ k, Q ((((s.deleteLocker ctx pk).streams (ctx.stream (.reverseLookup lookupId))).take
        k).foldl (fun row entry => actAt (.reverseLookup lookupId) entry row)
          ((s.deleteLocker ctx pk).pg.view (.reverseLookup lookupId))) := by
    constructor
    · intro h k lookup hlookup
      obtain ⟨steps, hview, hredis⟩ := exists_settle_view ctx (s.deleteLocker ctx pk) hsole k
      rw [← hredis]
      exact h steps lookup (by rw [← Pg.view_reverseLookup, hview, hlookup])
    · intro h steps lookup hlookup
      obtain ⟨k, hview⟩ := settle_view hs' hsole steps
      have hnone := h k lookup (by rw [← hview, Pg.view_reverseLookup, hlookup])
      rcases settle_redis ctx (s.deleteLocker ctx pk) steps lookup.partitionKey
        lookup.partitionKey with hr | hr
      · rw [hr, hnone]
      · exact hr
  have hbefore := forall_settle_view_iff hbase hsole (P := Q)
  simp only [Pg.view_reverseLookup] at hafter hbefore
  refine hafter.trans (Iff.trans ?_ hbefore.symm)
  have hrow : (s.deleteLocker ctx pk).pg.rowAt (.reverseLookup lookupId) =
      (s.removeNow (.reverseLookup lookupId) (.deleteReverseLookup lookupId)).pg.rowAt
        (.reverseLookup lookupId) := by
    rw [hdelete]
    exact (congrArg (Pg.rowAt _) (remove_pg (s.removeLocker ctx pk) (.reverseLookup lookupId)
      _)).trans (removeLocker_removeNow_rowAt pk lookupId)
  have hstreams := removeLookup_streams ctx s pk lookupId
  rw [← hdelete] at hstreams
  rw [hrow, hstreams, removeNow_streams]
  refine forall_take_foldl_append_iff (P := Q) (fun lookup h => by cases h)
    fun entry hentry row => ?_
  rcases List.mem_append.1 hentry with h | h
  · exact Or.inl (actAt_deleteLocker pk (by rw [mem_removeLater h]) lookupId row)
  · exact Or.inr (by rw [mem_removeLater h]; exact if_pos rfl)

theorem visibleByLookup_eq_none_iff {lookupKey : LockerHashLookupKey} (hmode : s.mode ≠ .disabled)
    (hc : s.cached (.reverseLookup lookupKey.getLookupKey.lookupId) = none) :
    s.visibleByLookup lookupKey = none ↔ s.pg.lockerRowByHash lookupKey = none ∧
      ∀ lookup, s.pg.rowAt (.reverseLookup lookupKey.getLookupKey.lookupId) =
          some (.reverseLookup lookup) →
        s.redis lookup.partitionKey lookup.partitionKey = none := by
  unfold visibleByLookup
  rw [visible_of_cached_none hc]
  cases hm : s.mode with
  | disabled => exact absurd hm hmode
  | enabled | softKill =>
    cases hrow : s.pg.rowAt (.reverseLookup lookupKey.getLookupKey.lookupId) with
    | none => simp
    | some row =>
      cases row with
      | reverseLookup lookup =>
        cases hr : s.redis lookup.partitionKey lookup.partitionKey with
        | none => simp [hr]
        | some row => simp [hr]
      | _ => simp

/-- A locker that is deleted is found no more exactly when `LockerGone` holds
    before the delete. -/
theorem locker_gone_iff (hs : s.WellFormed ctx) (hmode : s.mode ≠ .disabled)
    (pk : LockerPrimaryKeyType) (hs' : (s.deleteLocker ctx pk).WellFormed ctx) :
    (∀ steps, LockerNotFound ctx s ((s.deleteLocker ctx pk).settle ctx steps) pk) ↔
      s.LockerGone ctx pk := by
  obtain ⟨hc, hclookup⟩ := deleteLocker_cached ctx hmode pk
  have hwf := settle_wellFormed hs'
  have hmode' : ∀ steps, ((s.deleteLocker ctx pk).settle ctx steps).mode ≠ .disabled := by
    obtain ⟨count, hrun⟩ := run_deleteLocker ctx s hs pk
    have hconfig := run_runtimeConfig (deleteResourceByIdWithReverseLookup ctx
      Locker.kvDeletableWithLookup pk) s
    rw [hrun] at hconfig
    intro steps
    rwa [settle_mode, mode_congr hconfig]
  -- what the two finds read
  have hfind := fun steps => (@findLocker_notFound_iff ctx _ (hwf steps) pk).trans
    (iff_of_eq (congrArg (· = none) (visible_of_cached_none (settle_cached_none hs' hc steps))))
  have hbyHash := fun row hv steps => (findLockerByHash_none_iff ctx _ (hwf steps)).trans
    (visibleByLookup_eq_none_iff (hmode' steps)
      (settle_cached_none hs' (hclookup row hv) steps))
  have hget : ∀ pg : Pg, pg.rowAt pk.getPartitionKey = none ↔
      pg.locker.get LockerInner.primaryKey pk = none := fun pg => Option.map_eq_none_iff
  simp only [hget] at hfind
  have hrow := forall_settle_locker_iff ctx s pk (P := fun table =>
    table.get LockerInner.primaryKey pk = none) fun _ h => h
  have hrows := fun key => forall_settle_locker_iff ctx s pk (P := fun table =>
    table.get LockerInner.primaryKey pk = none ∧ table.get LockerInner.hashKey key = none)
      fun _ h => h.1
  constructor
  · intro h
    have hnone := fun steps => (hfind steps).1 (h steps).find
    have hhash := fun row hv steps => (hbyHash row hv steps).1
      ((h steps).byHash row.toLocker ((findLocker_ok_iff ctx s).2 ⟨row, hv, rfl⟩))
    refine ⟨fun steps => (hget _).2 (hrow.1 hnone steps), fun row hv steps => ?_,
      fun row hv => ?_⟩
    · exact ((hrows row.hashKey).1 (fun steps => ⟨hnone steps, (hhash row hv steps).1⟩) steps).2
    · exact fun steps lookup hlookup => (deleteLocker_redis_iff ctx hmode hv _).1
        ((forall_settle_lookup_iff hs hs' hv rfl).1 (fun steps => (hhash row hv steps).2)
          steps lookup hlookup)
  · intro h steps
    have hnone := fun steps => (hget _).1 (h.row steps)
    refine ⟨(hfind steps).2 (hrow.2 hnone steps), fun locker hlocker => ?_⟩
    obtain ⟨row, hv, rfl⟩ := (findLocker_ok_iff ctx s).1 hlocker
    have hhash := (hrows row.hashKey).2 fun steps => ⟨hnone steps, h.byHash row hv steps⟩
    have hlookup := (forall_settle_lookup_iff hs hs' hv rfl).2 fun steps lookup hrow =>
      (deleteLocker_redis_iff ctx hmode hv _).2 (h.lookup row hv steps lookup hrow)
    exact (hbyHash row hv steps).2 ⟨(hhash steps).2, hlookup steps⟩

/-! ## Runs -/

/-- A row that was deleted is found no more, whatever is replayed and whatever
    expires, exactly when nothing of it is or comes to be in Postgres. -/
theorem delete_stays_iff (hs : Reached ctx s) (hmode : s.mode = .enabled ∨ s.mode = .softKill) :
    (∀ pk : VaultPrimaryKey,
      (∀ acts : List Action, (∀ a ∈ acts, a.isQuiet = true) →
        ((findByVaultIdEntityId ctx pk.vaultId pk.entityId).run exec (runActs (step ctx) acts
          ((deleteFromVault ctx pk.vaultId pk.entityId).run exec s).2)).1 =
            .error .notFoundError) ↔ s.VaultGone ctx pk) ∧
    ∀ pk : LockerPrimaryKeyType,
      (∀ acts : List Action, (∀ a ∈ acts, a.isQuiet = true) →
        LockerNotFound ctx s (runActs (step ctx) acts
          ((CardVault.deleteLocker ctx pk.lockerId pk.merchantId pk.customerId).run exec s).2)
            pk) ↔ s.LockerGone ctx pk := by
  have hne : s.mode ≠ .disabled := by rcases hmode with h | h <;> simp [h]
  constructor
  · intro pk
    have hs' := (Obeys.run (obeys_deleteFromVault ctx pk.vaultId pk.entityId) hs.wellFormed).2
    rw [forall_quiet_iff hs' (P := fun s' => ((findByVaultIdEntityId ctx pk.vaultId
      pk.entityId).run exec s').1 = .error .notFoundError)]
    exact vault_gone_iff hs.wellFormed hne pk hs'
  · intro pk
    have hs' := (Obeys.run (obeys_deleteLocker ctx pk.lockerId pk.merchantId pk.customerId)
      hs.wellFormed).2
    obtain ⟨count, hrun⟩ := run_deleteLocker ctx s hs.wellFormed pk
    rw [forall_quiet_iff hs' (P := fun s' => LockerNotFound ctx s s' pk)]
    rw [show (CardVault.deleteLocker ctx pk.lockerId pk.merchantId pk.customerId).run exec s = _
      from hrun] at hs' ⊢
    exact locker_gone_iff hs.wellFormed hne pk hs'

/-- A vault row and a locker that only Postgres holds, after the mode became `SoftKill`. -/
def postgresHolds : Store :=
  { runActs (step .default) [.request (.insertVault (recordOf 1)),
      .request (.insertLocker (lockerOf "card" "hash"))] (Store.fresh none false Pg.empty) with
    runtimeConfig := some ⟨.softKill, false⟩ }

theorem reached_postgresHolds : Reached .default postgresHolds :=
  ⟨none, false, Pg.empty, [.request (.insertVault (recordOf 1)),
    .request (.insertLocker (lockerOf "card" "hash")),
    .setRuntimeConfig (some ⟨.softKill, false⟩)], rfl⟩

theorem postgresHolds_streams (stream : String) : postgresHolds.streams stream = [] := by
  have hreachable : Reachable .default .disabled (runActs (step .default)
      [.request (.insertVault (recordOf 1)), .request (.insertLocker (lockerOf "card" "hash"))]
        (Store.fresh none false Pg.empty)) := ⟨none, false, Pg.empty, _, rfl, by simp, rfl⟩
  exact hreachable.streams_eq_nil stream

theorem lockerGone_postgresHolds :
    postgresHolds.LockerGone .default (lockerOf "card" "hash").primaryKey := by
  have hvisible : postgresHolds.visible (lockerOf "card" "hash").primaryKey.getPartitionKey =
      some (.locker { (lockerOf "card" "hash").toLockerInner with
        id := 1, updatedBy := some .postgresOnly }) := by decide +kernel
  have hpg : ∀ key stmt steps, ((postgresHolds.removeNow key stmt).settle .default steps).pg =
      (postgresHolds.removeNow key stmt).pg := fun key stmt steps => by
    refine settle_pg_of_nil (fun stream => ?_) steps
    rw [removeNow]
    split <;> exact postgresHolds_streams stream
  constructor
  · intro steps
    rw [hpg]
    decide +kernel
  · intro row hrow steps
    rw [hvisible] at hrow
    cases hrow
    rw [hpg]
    decide +kernel
  · intro row hrow steps lookup hlookup
    rw [hvisible] at hrow
    cases hrow
    have hnone : (postgresHolds.removeNow
        (.reverseLookup (lockerOf "card" "hash").hashKey.getLookupKey.lookupId)
        (.deleteReverseLookup (lockerOf "card" "hash").hashKey.getLookupKey.lookupId)).pg.rowAt
          (.reverseLookup (lockerOf "card" "hash").hashKey.getLookupKey.lookupId) = none := by
      decide +kernel
    rw [hpg] at hlookup
    cases hnone.symm.trans hlookup

/-- Both rows are deleted, for good. -/
theorem delete_stays_softKill :
    ((deleteFromVault .default "card" "merchant").run exec postgresHolds).1 = .ok 1 ∧
    ((CardVault.deleteLocker .default "card" "merchant" "customer").run exec postgresHolds).1 =
      .ok 1 ∧
    ∀ acts : List Action, (∀ a ∈ acts, a.isQuiet = true) →
      ((findByVaultIdEntityId .default "card" "merchant").run exec (runActs (step .default) acts
        ((deleteFromVault .default "card" "merchant").run exec postgresHolds).2)).1 =
          .error .notFoundError ∧
      LockerNotFound .default postgresHolds (runActs (step .default) acts
        ((CardVault.deleteLocker .default "card" "merchant" "customer").run exec
          postgresHolds).2) (lockerOf "card" "hash").primaryKey := by
  have hstays := delete_stays_iff reached_postgresHolds (Or.inr (by decide +kernel))
  have hqueued : postgresHolds.queued .default (recordOf 1).primaryKey.getPartitionKey = [] := by
    simp [queued, postgresHolds_streams]
  refine ⟨by decide +kernel, by decide +kernel, fun acts hacts => ⟨?_, ?_⟩⟩
  · refine (hstays.1 (recordOf 1).primaryKey).2 ⟨fun h => ?_, fun stmt hstmt => ?_⟩ acts hacts
    · exact absurd h (by decide +kernel)
    · rw [hqueued] at hstmt
      cases hstmt
  · exact (hstays.2 _).2 lockerGone_postgresHolds acts hacts

/-- Before the drainer has replayed the DELETE, a row that Postgres has is found
    again, by its key and by its lookup columns. -/
theorem delete_not_stays :
    (¬ ∀ (ctx : KvStoreContext) (s : Store) (vaultId entityId : String), Reached ctx s →
      s.mode = .enabled → ((findByVaultIdEntityId ctx vaultId entityId).run exec
        ((deleteFromVault ctx vaultId entityId).run exec s).2).1 = .error .notFoundError) ∧
    ¬ ∀ (ctx : KvStoreContext) (s : Store) (pk : LockerPrimaryKeyType), Reached ctx s →
      s.mode = .enabled → LockerNotFound ctx s
        ((CardVault.deleteLocker ctx pk.lockerId pk.merchantId pk.customerId).run exec s).2 pk := by
  constructor
  · intro h
    have hnone := h .default (runActs (step .default) (expiredActs.take 2) emptyStore) "card"
      "merchant" ⟨some ⟨.enabled, false⟩, false, Pg.empty, _, rfl⟩ (by decide +kernel)
    have hfind : ((findByVaultIdEntityId .default "card" "merchant").run exec
        ((deleteFromVault .default "card" "merchant").run exec
          (runActs (step .default) (expiredActs.take 2) emptyStore)).2).1 =
        .ok ⟨"card", "merchant", .encrypted [1], ⟨0⟩, none, some .redisKv⟩ := by decide +kernel
    cases hfind.symm.trans hnone
  · intro h
    have hnone := (h .default (runActs (step .default) drainedLockerActs emptyStore)
      (lockerOf "card" "hash").primaryKey ⟨some ⟨.enabled, false⟩, false, Pg.empty, _, rfl⟩
      (by decide +kernel)).find
    have hfind : ((findByLockerIdMerchantIdCustomerId .default "card" "merchant" "customer").run
        exec ((CardVault.deleteLocker .default "card" "merchant" "customer").run exec
          (runActs (step .default) drainedLockerActs emptyStore)).2).1 =
        .ok ⟨"card", "merchant", "customer", .encrypted [1], ⟨0⟩, "hash", none, some .redisKv⟩ := by
      decide +kernel
    cases hfind.symm.trans hnone

end Store

end CardVault
