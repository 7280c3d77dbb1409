import CardVault.System

/-!
# Upserts of vault rows

What an upsert that was acknowledged leaves behind: with Redis, the row is
visible at once, and stays so as long as Redis holds it; when the key has
expired, the row is the one Postgres has made of the queued statement.

Main results:
* `forall_settle_shows_iff`: a row in Redis is shown for good exactly when the
  settled row of its key has the same data.
* `upsertVault_durable_iff`: when the data of an upsert is there for good.
* `merge_agrees_iff`: when the row that an update writes to Redis is the row that
  its UPDATE makes in Postgres.
-/

namespace CardVault

open Interaction

/-- The row has the data of the record. -/
def VaultInner.Carries (row : VaultInner) (v : VaultNew) : Prop :=
  row.encryptedData = v.encryptedData ∧ row.expiresAt = v.expiresAt

/-- A time that a `TIMESTAMP` column keeps as it is. -/
def KeptByColumn (t : Option PrimitiveDateTime) : Prop :=
  t.map PrimitiveDateTime.toTimestamp = t

namespace Store

variable (ctx : KvStoreContext)

/-- The vault row of `pk` in Postgres, once the statements queued for it are
    replayed. -/
def settledVault (s : Store) (pk : VaultPrimaryKey) : Option VaultInner :=
  (s.settled ctx pk.getPartitionKey).bind Vault.kvResource.deserialize

/-- `find_by_vault_id_entity_id` answers a row with the data of the record. -/
def FindAnswers (s : Store) (v : VaultNew) : Prop :=
  ∃ row, ((findByVaultIdEntityId ctx v.vaultId v.entityId).run Store.exec s).1 = .ok row ∧
    row.data = .encrypted v.encryptedData ∧ row.expiresAt = v.expiresAt

/-- When the data of an upsert is kept. The branches are the statements it ends
    in: an `INSERT` that Postgres refuses when it has a row by then, and an
    `UPDATE` that changes no row when it has none and no `expires_at` when the
    record has none. -/
def UpsertKept (s : Store) (v : VaultNew) : Prop :=
  if s.mode = .enabled ∧ s.cached v.primaryKey.getPartitionKey = none then
    match s.settledVault ctx v.primaryKey with
    | none => (Statement.insertVault v.toVaultNewInner).fits = true ∧ KeptByColumn v.expiresAt
    | some row => row.Carries v
  else
    match s.settledVault ctx v.primaryKey with
    | none => s.mode = .disabled ∧ KeptByColumn v.expiresAt
    | some row => KeptByColumn v.expiresAt ∧ (v.expiresAt = none → row.expiresAt = none)

variable {ctx} {s : Store} {v : VaultNew}

theorem deserialize_clearId (row : Row) :
    Vault.kvResource.deserialize row.clearId =
      (Vault.kvResource.deserialize row).map fun r => { r with id := 0 } := by
  cases row <;> rfl

/-- Where Redis does not hold the key and nothing is queued, the visible row is
    the settled one. -/
theorem visibleVault_eq_settledVault {pk : VaultPrimaryKey}
    (hc : s.mode = .disabled ∨ s.cached pk.getPartitionKey = none)
    (hq : s.queued ctx pk.getPartitionKey = []) :
    s.settledVault ctx pk = (s.visibleVault pk).map fun r => { r with id := 0 } := by
  have hv : s.visible pk.getPartitionKey = s.pg.rowAt pk.getPartitionKey := by
    rcases hc with hc | hc
    · simp [visible, hc]
    · exact visible_of_cached_none hc
  rw [settledVault, visibleVault, hv, ← view_eq_settled hq, Pg.view]
  cases s.pg.rowAt pk.getPartitionKey with
  | none => rfl
  | some row => exact deserialize_clearId row

theorem findAnswers_iff (hs : s.WellFormed ctx) :
    s.FindAnswers ctx v ↔ ∃ row, s.visibleVault v.primaryKey = some row ∧ row.Carries v := by
  have hrun := run_findByVaultIdEntityId ctx s hs v.primaryKey
  unfold FindAnswers
  rw [show (findByVaultIdEntityId ctx v.vaultId v.entityId).run Store.exec s = _ from hrun]
  cases s.visibleVault v.primaryKey with
  | none => simp
  | some row => simp [VaultInner.toVault, VaultInner.Carries]

theorem exists_map_carries {row : Option VaultInner} :
    (∃ r, row.map (fun r => { r with id := 0 }) = some r ∧ r.Carries v) ↔
      ∃ r, row = some r ∧ r.Carries v := by
  cases row with
  | none => simp
  | some row => simp [VaultInner.Carries]

/-- A row in Redis that carries the record is found for good exactly when the
    settled row carries it too: Redis shows it first, Postgres after the key has
    expired. -/
theorem forall_settle_shows_iff (hs : s.WellFormed ctx) (hmode : s.mode = .enabled)
    {row : VaultInner} (hc : s.cached v.primaryKey.getPartitionKey = some (.vault row))
    (hrow : row.Carries v) :
    (∀ steps, (s.settle ctx steps).FindAnswers ctx v) ↔
      ∃ r, s.settledVault ctx v.primaryKey = some r ∧ r.Carries v := by
  have hsettled : ∀ steps, (s.settle ctx steps).settledVault ctx v.primaryKey =
      s.settledVault ctx v.primaryKey := fun steps => by
    rw [settledVault, settledVault, settled_settle hs rfl steps]
  constructor
  · intro h
    obtain ⟨steps, hc', hq⟩ := exists_settle_expired ctx s v.primaryKey.getPartitionKey
    have hfind := (findAnswers_iff (settle_wellFormed hs steps)).1 (h steps)
    rw [← hsettled steps, visibleVault_eq_settledVault (Or.inr hc') hq]
    exact exists_map_carries.2 hfind
  · intro h steps
    rw [findAnswers_iff (settle_wellFormed hs steps)]
    rcases settle_cached hs v.primaryKey.getPartitionKey steps with hc' | ⟨hc', hq⟩
    · exact ⟨row, by simp [visibleVault, visible, hmode, hc', hc], hrow⟩
    · rw [← hsettled steps, visibleVault_eq_settledVault (Or.inr hc') hq] at h
      exact exists_map_carries.1 h

/-- The settled row after an INSERT of the record. -/
theorem settledVault_writeVault (s : Store) (v : VaultNew) :
    (∃ r, (s.writeVault ctx v).settledVault ctx v.primaryKey = some r ∧ r.Carries v) ↔
      match s.settledVault ctx v.primaryKey with
      | none => (Statement.insertVault v.toVaultNewInner).fits = true ∧ KeptByColumn v.expiresAt
      | some row => row.Carries v := by
  have hsettled : (s.writeVault ctx v).settled ctx v.primaryKey.getPartitionKey =
      Statement.act _ (s.settled ctx v.primaryKey.getPartitionKey) := settled_write _ _ rfl
  unfold settledVault
  rw [hsettled]
  cases h : s.settled ctx v.primaryKey.getPartitionKey with
  | some row =>
    cases row with
    | vault row =>
      change (∃ r, some row = some r ∧ r.Carries v) ↔ row.Carries v
      simp
    | _ => cases partitionKey_of_settled h
  | none =>
    change (∃ r, (if (Statement.insertVault v.toVaultNewInner).fits then
      some (Row.vault ({ v.toVaultNewInner with updatedBy := some .redisKv }.row 0)) else none).bind
        Vault.kvResource.deserialize = some r ∧ r.Carries v) ↔
      (Statement.insertVault v.toVaultNewInner).fits = true ∧ KeptByColumn v.expiresAt
    split_ifs with hfits
    · simp only [hfits, true_and]
      simp [VaultInner.Carries, KeptByColumn, VaultNewInner.row, VaultNewInner.toVaultInner,
        VaultNew.toVaultNewInner]
    · simp [hfits]

/-- The settled row after an UPDATE with the record. -/
theorem carries_setColumns (row : VaultInner) (scheme : StorageScheme) :
    (row.setColumns { v.toVaultUpdate with updatedBy := scheme }).Carries v ↔
      KeptByColumn v.expiresAt ∧ (v.expiresAt = none → row.expiresAt = none) := by
  cases h : v.expiresAt with
  | none =>
    simp [VaultInner.Carries, VaultInner.setColumns, VaultNew.toVaultUpdate, KeptByColumn, h]
  | some t =>
    simp [VaultInner.Carries, VaultInner.setColumns, VaultNew.toVaultUpdate, KeptByColumn, h]

theorem settledVault_rewriteVault (s : Store) (v : VaultNew) (current : VaultInner) :
    (s.rewriteVault ctx v.primaryKey v.toVaultUpdate current).settledVault ctx v.primaryKey =
      (s.settledVault ctx v.primaryKey).map
        (VaultInner.setColumns { v.toVaultUpdate with updatedBy := .redisKv }) := by
  have hsettled : (s.rewriteVault ctx v.primaryKey v.toVaultUpdate current).settled ctx
      v.primaryKey.getPartitionKey =
        Statement.act _ (s.settled ctx v.primaryKey.getPartitionKey) := settled_write _ _ rfl
  unfold settledVault
  rw [hsettled]
  cases s.settled ctx v.primaryKey.getPartitionKey with
  | none => rfl
  | some row => cases row <;> rfl

/-! ## Upserts in the mode that writes to Redis -/

/-- The row an upsert leaves in Redis carries the record; the rest is up to what
    is queued. -/
theorem upsertVault_enabled_iff (hs : s.WellFormed ctx) (hmode : s.mode = .enabled) :
    (∀ steps, (((upsertVault ctx v).run exec s).2.settle ctx steps).FindAnswers ctx v) ↔
      s.UpsertKept ctx v := by
  have hs' : ((upsertVault ctx v).run exec s).2.WellFormed ctx :=
    (Obeys.run (obeys_upsertVault ctx v) hs).2
  cases hc : s.cached v.primaryKey.getPartitionKey with
  | none =>
    have hrun := run_upsertVault_of_none ctx hmode v hc
    rw [hrun] at hs' ⊢
    rw [forall_settle_shows_iff hs' hmode (write_cached_self ..) ⟨rfl, rfl⟩,
      settledVault_writeVault, UpsertKept, if_pos ⟨hmode, hc⟩]
  | some row =>
    obtain ⟨current, rfl, -⟩ := Vault.spec.exists_cached ctx hs
      (Vault.spec.getPartitionKey_resource v.primaryKey) hc
    have hrun := run_upsertVault_of_some ctx hs hmode v hc
    rw [hrun] at hs' ⊢
    rw [forall_settle_shows_iff hs' hmode (write_cached_self ..) ⟨rfl, rfl⟩,
      settledVault_rewriteVault, UpsertKept, if_neg (by simp [hc])]
    cases s.settledVault ctx v.primaryKey with
    | none => simp [hmode]
    | some row => simp [carries_setColumns]

/-! ## Upserts without Redis -/

/-- Nothing is queued and Redis is not read: the environment changes no answer. -/
theorem settle_visible_disabled (hmode : s.mode = .disabled)
    (hstreams : ∀ stream, s.streams stream = []) (key : PartitionKey) (steps : List EnvStep) :
    (s.settle ctx steps).visible key = s.visible key := by
  simp [visible, hmode, settle_pg_of_nil hstreams steps]

theorem visibleVault_disabled (hmode : s.mode = .disabled) (pk : VaultPrimaryKey) :
    s.visibleVault pk = s.pg.vault.get VaultInner.primaryKey pk := by
  unfold visibleVault visible
  rw [hmode]
  change ((s.pg.vault.get VaultInner.primaryKey pk).map Row.vault).bind _ = _
  cases s.pg.vault.get VaultInner.primaryKey pk <;> rfl

/-- An upsert that answers a row has inserted it, or has updated the one there. -/
theorem upsertVault_disabled_cases (hmode : s.mode = .disabled) {vault : Vault}
    (hok : ((upsertVault ctx v).run exec s).1 = .ok vault) :
    ∃ pg, ((upsertVault ctx v).run exec s).2 = { s with pg } ∧
      match s.pg.vault.get VaultInner.primaryKey v.primaryKey with
      | none => ∃ id, pg.vault.get VaultInner.primaryKey v.primaryKey =
          some ({ v.toVaultNewInner with updatedBy := some .postgresOnly }.row id)
      | some row => pg.vault.get VaultInner.primaryKey v.primaryKey =
          some (row.setColumns { v.toVaultUpdate with updatedBy := .postgresOnly }) := by
  have hinsert := run_insertVault_postgresOnly ctx s (by simp [hmode]) v
  cases hexec : (s.pg.execute (.insertVault { v.toVaultNewInner with
      updatedBy := some .postgresOnly })).1 with
  | ok row =>
    rw [hexec] at hinsert
    refine ⟨_, congrArg Prod.snd (run_onDuplicate_ok hinsert _), ?_⟩
    obtain ⟨-, hnone, id, -, hrow⟩ := Pg.execute_insert_ok rfl hexec
    obtain ⟨row', hget, hrow'⟩ := Option.map_eq_some_iff.1 hrow
    cases hrow'
    rw [show s.pg.vault.get VaultInner.primaryKey v.primaryKey = none from
      Option.map_eq_none_iff.1 hnone]
    exact ⟨id, hget⟩
  | error err =>
    rw [hexec, Pg.apply_of_insert_error rfl hexec] at hinsert
    have hrun := run_onDuplicate_error hinsert
      (updateVaultData ctx v.vaultId v.entityId v.toVaultUpdate)
    rcases Pg.insert_error rfl hexec with rfl | rfl
    · cases (congrArg Prod.fst hrun).symm.trans hok
    have hupdate := run_updateVaultData_postgresOnly ctx s v.primaryKey (Or.inl hmode)
      v.toVaultUpdate
    have hupsert : (upsertVault ctx v).run exec s = _ := hrun.trans hupdate
    have hget := Pg.get_updateVault s.pg v.primaryKey { v.toVaultUpdate with
      updatedBy := .postgresOnly } v.primaryKey
    rw [if_pos rfl] at hget
    refine ⟨_, congrArg Prod.snd hupsert, ?_⟩
    cases hrow : s.pg.vault.get VaultInner.primaryKey v.primaryKey with
    | some row =>
      rw [hrow] at hget
      exact hget
    | none =>
      -- no row to update: the answer would be an error
      rw [hrow] at hget
      have hnone : (s.pg.execute (.updateVault v.primaryKey { v.toVaultUpdate with
          updatedBy := .postgresOnly })).1 = .error .notFound := congrArg oneRow hget
      rw [hnone] at hupsert
      cases (congrArg Prod.fst hupsert).symm.trans hok

theorem upsertVault_disabled_iff (hs : s.WellFormed ctx) (hmode : s.mode = .disabled)
    (hstreams : ∀ stream, s.streams stream = []) {vault : Vault}
    (hok : ((upsertVault ctx v).run exec s).1 = .ok vault) :
    (∀ steps, (((upsertVault ctx v).run exec s).2.settle ctx steps).FindAnswers ctx v) ↔
      s.UpsertKept ctx v := by
  have hs' : ((upsertVault ctx v).run exec s).2.WellFormed ctx :=
    (Obeys.run (obeys_upsertVault ctx v) hs).2
  obtain ⟨pg, hpg, hget⟩ := upsertVault_disabled_cases hmode hok
  rw [hpg] at hs' ⊢
  have hmode' : ({ s with pg } : Store).mode = .disabled := hmode
  have hanswers : (∀ steps, (({ s with pg } : Store).settle ctx steps).FindAnswers ctx v) ↔
      ∃ row, pg.vault.get VaultInner.primaryKey v.primaryKey = some row ∧ row.Carries v := by
    have hvisible : ∀ steps, (({ s with pg } : Store).settle ctx steps).visibleVault v.primaryKey =
        pg.vault.get VaultInner.primaryKey v.primaryKey := fun steps => by
      rw [visibleVault, settle_visible_disabled hmode' hstreams]
      exact visibleVault_disabled hmode' _
    constructor
    · intro h
      rw [← hvisible []]
      exact (findAnswers_iff hs').1 (h [])
    · intro h steps
      rw [findAnswers_iff (settle_wellFormed hs' steps), hvisible]
      exact h
  have hq : s.queued ctx v.primaryKey.getPartitionKey = [] := by simp [queued, hstreams]
  rw [hanswers, UpsertKept, if_neg (by simp [hmode]),
    visibleVault_eq_settledVault (Or.inl hmode) hq, visibleVault_disabled hmode]
  cases hrow : s.pg.vault.get VaultInner.primaryKey v.primaryKey with
  | none =>
    rw [hrow] at hget
    obtain ⟨id, hget⟩ := hget
    simp [hget, hmode, VaultInner.Carries, KeptByColumn, VaultNewInner.row,
      VaultNewInner.toVaultInner, VaultNew.toVaultNewInner]
  | some row =>
    rw [hrow] at hget
    simp [show pg.vault.get VaultInner.primaryKey v.primaryKey = _ from hget, carries_setColumns]

/-! ## Every upsert -/

/-- The data of an acknowledged upsert is found after every run of drains,
    expiries and finds, exactly when `UpsertKept` holds before it. -/
theorem upsertVault_durable_iff {mode : KvState} (hmode : mode = .disabled ∨ mode = .enabled)
    (hs : Reachable ctx mode s) {vault : Vault}
    (hok : ((upsertVault ctx v).run exec s).1 = .ok vault) :
    (∀ acts : List Action, (∀ a ∈ acts, a.isQuiet = true) →
        (runActs (step ctx) acts ((upsertVault ctx v).run exec s).2).FindAnswers ctx v) ↔
      s.UpsertKept ctx v := by
  have hwf := (Obeys.run (obeys_upsertVault ctx v) hs.wellFormed).2
  rw [forall_quiet_iff hwf (P := fun s' => s'.FindAnswers ctx v)]
  rcases hmode with rfl | rfl
  · exact upsertVault_disabled_iff hs.wellFormed hs.mode_eq hs.streams_eq_nil hok
  · exact upsertVault_enabled_iff hs.wellFormed hs.mode_eq

/-- The vault row in Redis and in Postgres. -/
def drainedRecord : Store := runActs (step .default) (expiredActs.take 2) emptyStore

theorem reachable_drainedRecord : Reachable .default .enabled drainedRecord :=
  reachable_of_acts (expiredActs.take 2) (by simp [expiredActs, drainRecord])

/-- That row is overwritten. -/
theorem upsertVault_durable_overwritten :
    ((upsertVault .default (recordOf 2)).run exec drainedRecord).1 =
        .ok ⟨"card", "merchant", .encrypted [2], ⟨0⟩, none, some .redisKv⟩ ∧
      ∀ acts : List Action, (∀ a ∈ acts, a.isQuiet = true) →
        (runActs (step .default) acts ((upsertVault .default (recordOf 2)).run exec
          drainedRecord).2).FindAnswers .default (recordOf 2) := by
  have hok : ((upsertVault .default (recordOf 2)).run exec drainedRecord).1 =
      .ok ⟨"card", "merchant", .encrypted [2], ⟨0⟩, none, some .redisKv⟩ := by decide +kernel
  have hheld : ¬ (drainedRecord.mode = .enabled ∧
      drainedRecord.cached (recordOf 2).primaryKey.getPartitionKey = none) := by decide +kernel
  have hsettled : drainedRecord.settledVault .default (recordOf 2).primaryKey =
      some ⟨0, "merchant", "card", [1], ⟨0⟩, none, some .redisKv⟩ := by
    decide +kernel
  refine ⟨hok, (upsertVault_durable_iff (Or.inr rfl) reachable_drainedRecord hok).2 ?_⟩
  rw [UpsertKept, if_neg hheld, hsettled]
  exact ⟨rfl, fun _ => rfl⟩

/-- Not every acknowledged upsert is durable: the INSERT of a row that has left
    Redis but not Postgres is dropped, and with the new row's TTL its data is
    gone. -/
theorem upsertVault_not_durable :
    ¬ ∀ (ctx : KvStoreContext) (mode : KvState) (s : Store) (v : VaultNew) (vault : Vault),
      mode = .disabled ∨ mode = .enabled → Reachable ctx mode s →
        ((upsertVault ctx v).run exec s).1 = .ok vault →
          ∀ acts : List Action, (∀ a ∈ acts, a.isQuiet = true) →
            (runActs (step ctx) acts ((upsertVault ctx v).run exec s).2).FindAnswers ctx v := by
  intro h
  obtain ⟨row, hfind, hdata, -⟩ := h .default .enabled
    (runActs (step .default) expiredActs emptyStore) (recordOf 2)
    ⟨"card", "merchant", .encrypted [2], ⟨0⟩, none, some .redisKv⟩ (Or.inr rfl)
    (reachable_of_acts expiredActs (by simp [expiredActs, drainRecord]))
    (by decide +kernel) (expiredActs.drop 1) (by decide)
  have hfind' : ((findByVaultIdEntityId .default "card" "merchant").run exec
      (runActs (step .default) (expiredActs.drop 1) ((upsertVault .default (recordOf 2)).run exec
        (runActs (step .default) expiredActs emptyStore)).2)).1 =
      .ok ⟨"card", "merchant", .encrypted [1], ⟨0⟩, none, some .redisKv⟩ := by decide +kernel
  cases hfind'.symm.trans hfind
  exact absurd hdata (by decide)

end Store

/-! ## The merge and the UPDATE -/

/-- The merge that the KV layer writes to Redis is, up to the serial number, the
    row that the queued UPDATE makes of `row`, and the one that `storage_update`
    makes of it. Neither changes a column that the update does not have. -/
def MergeAgrees (s : Store) (update : VaultUpdate) (row : VaultInner) : Prop :=
  ∃ query stored,
    Vault.kvUpdatableResource.generateUpdateDrainerQuery update row.primaryKey = .ok query ∧
      (s.pg.apply query.statement).rowAt row.primaryKey.getPartitionKey = some (.vault stored) ∧
      ((Vault.kvUpdatableResource.storageUpdate update row.primaryKey).run Store.exec s).2.pg =
        s.pg.apply query.statement ∧
      VaultInner.fromUpdate update row = { stored with id := 0 } ∧
      stored.primaryKey = row.primaryKey ∧ stored.createdAt = row.createdAt

/-- The merge is the UPDATE when the column keeps the update's expiry, and an
    update without one meets a row without one. -/
theorem merge_agrees_iff {s : Store} {update : VaultUpdate} {row : VaultInner}
    (hrow : s.pg.rowAt row.primaryKey.getPartitionKey = some (.vault row)) :
    MergeAgrees s update row ↔
      KeptByColumn update.expiresAt ∧ (update.expiresAt = none → row.expiresAt = none) := by
  have hget : s.pg.vault.get VaultInner.primaryKey row.primaryKey = some row := by
    obtain ⟨row', hrow', hr⟩ := Option.map_eq_some_iff.1 hrow
    cases hr
    exact hrow'
  have hupdated := (Pg.get_updateVault s.pg row.primaryKey update row.primaryKey).trans
    (if_pos rfl)
  rw [hget] at hupdated
  have hrowAt : (s.pg.apply (.updateVault row.primaryKey update)).rowAt
      row.primaryKey.getPartitionKey = some (.vault (row.setColumns update)) :=
    congrArg (Option.map Row.vault) hupdated
  have hmerge : VaultInner.fromUpdate update row = { row.setColumns update with id := 0 } ↔
      KeptByColumn update.expiresAt ∧ (update.expiresAt = none → row.expiresAt = none) := by
    cases hexpires : update.expiresAt with
    | none => simp [VaultInner.fromUpdate, VaultInner.setColumns, KeptByColumn, hexpires, eq_comm]
    | some t => simp [VaultInner.fromUpdate, VaultInner.setColumns, KeptByColumn, hexpires, eq_comm]
  rw [← hmerge]
  constructor
  · rintro ⟨query, stored, hquery, hstored, -, heq, -⟩
    cases hquery
    obtain rfl := Row.vault.inj (Option.some.inj (hrowAt.symm.trans hstored))
    exact heq
  · intro heq
    have hrun := Vault.run_storageUpdate update row.primaryKey s
    exact ⟨_, _, rfl, hrowAt, congrArg (fun answer => answer.2.pg) hrun, heq,
      VaultInner.setColumns_primaryKey update row, rfl⟩

/-- A stored row, and an update that sets an expiry. -/
theorem merge_agrees_renewed :
    MergeAgrees (runActs (Store.step .default) [.request (.insertVault (Store.recordOf 1)),
        Store.drainRecord] Store.emptyStore)
      ⟨[2], some ⟨5000⟩, .redisKv⟩ ⟨1, "merchant", "card", [1], ⟨0⟩, none, some .redisKv⟩ ↔
      KeptByColumn (some ⟨5000⟩) ∧
        ((some ⟨5000⟩ : Option PrimitiveDateTime) = none →
          (none : Option PrimitiveDateTime) = none) :=
  merge_agrees_iff (by decide +kernel)

/-- The merge is not always the UPDATE: an update without an expiry clears the
    row's in Redis and leaves it in Postgres. -/
theorem merge_disagrees :
    ¬ ∀ (s : Store) (update : VaultUpdate) (row : VaultInner),
      s.pg.rowAt row.primaryKey.getPartitionKey = some (.vault row) →
        MergeAgrees s update row := by
  intro h
  let expiring : VaultNew := { Store.recordOf 1 with expiresAt := some ⟨0⟩ }
  let s := runActs (Store.step .default) [.request (.insertVault expiring), Store.drainRecord]
    Store.emptyStore
  obtain ⟨query, stored, hquery, hstored, -, heq, -⟩ := h s ⟨[2], none, .redisKv⟩
    ⟨1, "merchant", "card", [1], ⟨0⟩, some ⟨0⟩, some .redisKv⟩ (by decide +kernel)
  cases hquery
  have hkept : (s.pg.apply (.updateVault ⟨"merchant", "card"⟩ ⟨[2], none, .redisKv⟩)).rowAt
      (.vault "merchant" "card") =
        some (.vault ⟨1, "merchant", "card", [2], ⟨0⟩, some ⟨0⟩, some .redisKv⟩) := by
    decide +kernel
  obtain rfl := Row.vault.inj (Option.some.inj (hkept.symm.trans hstored))
  cases heq

end CardVault
