import CardVault.Api.FreshAdd
import CardVault.Api.Data
import CardVault.Upsert

/-!
# What adding and retrieving a value do

`add_data` and `retrieve_data` (`src/src/routes/routes_v2/data.rs`), each run with nothing
in between, in every mode of the store and both write modes.

Main results:
* `storeVault_shows`: the row that `get_or_insert` or `upsert` of a vault row leaves.
* `addData_stores_iff`: when a retrieve after an add answers the value that was sent.
-/

namespace CardVault

open Interaction

/-! ## The row that is left -/

namespace Store

/-- The vault row that Redis holds. -/
def cachedVault (s : Store) (pk : VaultPrimaryKey) : Option VaultInner :=
  (s.cached pk.getPartitionKey).bind Vault.kvResource.deserialize

/-- The row that an insert runs into: the one that Redis holds in the mode that writes to
    Redis, else the one that is visible. -/
def vaultInTheWay (s : Store) (pk : VaultPrimaryKey) : Option VaultInner :=
  match s.mode with
  | .enabled => s.cachedVault pk
  | .disabled | .softKill => s.visibleVault pk

/-- The row that hides what an upsert inserts into Postgres. -/
def vaultOnTop (s : Store) (pk : VaultPrimaryKey) : Option VaultInner :=
  match s.mode, s.pg.rowAt pk.getPartitionKey with
  | .softKill, none => s.cachedVault pk
  | _, _ => none

/-- The expiry that an upsert stores: as it was sent when the record goes to Redis, else
    as its column keeps it; an UPDATE without an expiry leaves the one of the row. -/
def upsertExpiry (s : Store) (pk : VaultPrimaryKey) (ttl : Option PrimitiveDateTime) :
    Option PrimitiveDateTime :=
  if s.ThroughRedis pk.getPartitionKey then ttl
  else
    match ttl with
    | some time => some time.toTimestamp
    | none => (s.pg.vault.get VaultInner.primaryKey pk).bind VaultInner.expiresAt

/-- The row that stays visible in place of the record. -/
def vaultKept (s : Store) (mode : Option WriteMode) (pk : VaultPrimaryKey) : Option VaultInner :=
  match mode with
  | some .upsert => s.vaultOnTop pk
  | none | some .insert => s.vaultInTheWay pk

/-- The expiry of the record once it is stored. -/
def vaultExpiry (s : Store) (mode : Option WriteMode) (pk : VaultPrimaryKey)
    (ttl : Option PrimitiveDateTime) : Option PrimitiveDateTime :=
  match mode with
  | some .upsert => s.upsertExpiry pk ttl
  | none | some .insert => s.storedTtl ttl

/-- The visible row is the kept one, or has the data of the record. -/
def Shows (s : Store) (new : VaultNew) (kept : Option VaultInner)
    (expiry : Option PrimitiveDateTime) : Prop :=
  match kept with
  | some row => s.visibleVault new.primaryKey = some row
  | none => ∃ row, s.visibleVault new.primaryKey = some row ∧
      row.encryptedData = new.encryptedData ∧ row.expiresAt = expiry

end Store

/-- The `match` on the write mode in `encrypt_data_and_upsert_into_db_v2`. -/
def storeVault (ctx : KvStoreContext) (mode : Option WriteMode) (new : VaultNew) :
    App (Except VaultDBError Vault) :=
  match mode with
  | some .upsert => upsertVault ctx new
  | none | some .insert => getOrInsertVault ctx new

section Left

variable {ctx : KvStoreContext} {s s' : Store} {new : VaultNew} {vault : Vault}

theorem visibleVault_of_cached {row : VaultInner} (hmode : s.mode ≠ .disabled)
    (h : s.cached new.primaryKey.getPartitionKey = some (.vault row)) :
    s.visibleVault new.primaryKey = some row := by
  unfold Store.visibleVault Store.visible
  rw [h]
  cases hm : s.mode with
  | disabled => exact absurd hm hmode
  | enabled => rfl
  | softKill => rfl

/-- A find that answers changes nothing and has seen a row. -/
theorem run_findVault_ok (hs : s.WellFormed ctx)
    (h : (findByVaultIdEntityId ctx new.vaultId new.entityId).run Store.exec s =
      (.ok vault, s')) : s' = s ∧ ∃ row, s.visibleVault new.primaryKey = some row := by
  have hrun := run_findByVaultIdEntityId ctx s hs new.primaryKey
  rw [show (findByVaultIdEntityId ctx new.primaryKey.vaultId new.primaryKey.entityId).run
    Store.exec s = _ from h] at hrun
  cases hv : s.visibleVault new.primaryKey with
  | none =>
    rw [hv] at hrun
    cases congrArg Prod.fst hrun
  | some row => exact ⟨congrArg Prod.snd hrun, row, rfl⟩

theorem visibleVault_eq {row : VaultInner}
    (h : s.visible new.primaryKey.getPartitionKey = some (.vault row)) :
    s.visibleVault new.primaryKey = some row := by
  unfold Store.visibleVault
  rw [h]
  rfl

/-- An INSERT that Postgres takes: what was visible stays so, else the new row is. -/
theorem shows_insertVault {out : VaultInner} (hs : s.WellFormed ctx)
    (hexec : (s.pg.execute (.insertVault { new.toVaultNewInner with
      updatedBy := some .postgresOnly })).1 = .ok out) :
    ({ s with pg := s.pg.apply (.insertVault { new.toVaultNewInner with
      updatedBy := some .postgresOnly }) } : Store).Shows new (s.visibleVault new.primaryKey)
        (new.expiresAt.map PrimitiveDateTime.toTimestamp) := by
  obtain ⟨-, hnone, id, -, hafter⟩ := Pg.execute_insert_ok rfl hexec
  cases hv : s.visible new.primaryKey.getPartitionKey with
  | some row =>
    -- Redis holds a row that Postgres does not have
    have hheld : s.mode ≠ .disabled ∧ s.cached new.primaryKey.getPartitionKey ≠ none := by
      refine ⟨fun hdisabled => ?_, fun hc => ?_⟩
      · simp only [Store.visible, hdisabled] at hv
        cases hnone.symm.trans hv
      · rw [Store.visible_of_cached_none hc] at hv
        cases hnone.symm.trans hv
    obtain ⟨current, rfl, -⟩ := Vault.spec.exists_visible ctx s hs
      (Vault.spec.getPartitionKey_resource new.primaryKey) hv
    rw [visibleVault_eq hv]
    exact visibleVault_eq ((visible_apply s _ (Or.inr hheld)).trans hv)
  | none =>
    have hunseen : s.visibleVault new.primaryKey = none := by
      unfold Store.visibleVault
      rw [hv]
      rfl
    rw [hunseen]
    exact ⟨_, visibleVault_eq ((visible_apply_of_none _ hv).trans hafter), rfl, rfl⟩

/-- A key whose mutations do not go through Redis. -/
theorem mode_of_direct {key : PartitionKey} (hdirect : ¬ s.ThroughRedis key) :
    s.mode = .disabled ∨ s.mode = .softKill ∧ s.cached key = none := by
  simp only [Store.ThroughRedis, not_or, not_and, Option.not_isSome_iff_eq_none] at hdirect
  cases hmode : s.mode with
  | disabled => exact Or.inl rfl
  | enabled => exact absurd hmode hdirect.1
  | softKill => exact Or.inr ⟨rfl, hdirect.2 hmode⟩

/-- A key whose mutations go to Postgres is read from there. -/
theorem visible_of_direct {key : PartitionKey} (hdirect : ¬ s.ThroughRedis key) (pg : Pg) :
    ({ s with pg } : Store).visible key = pg.rowAt key := by
  rcases mode_of_direct hdirect with hmode | ⟨hmode, hc⟩
  · simp only [Store.visible, show ({ s with pg } : Store).mode = .disabled from hmode]
  · exact Store.visible_of_cached_none (s := { s with pg }) hc

/-- An upsert whose INSERT Postgres takes. -/
theorem shows_upserted {out : VaultInner} (hs : s.WellFormed ctx) (hmode : s.mode ≠ .enabled)
    (hexec : (s.pg.execute (.insertVault { new.toVaultNewInner with
      updatedBy := some .postgresOnly })).1 = .ok out) :
    ({ s with pg := s.pg.apply (.insertVault { new.toVaultNewInner with
      updatedBy := some .postgresOnly }) } : Store).Shows new (s.vaultOnTop new.primaryKey)
        (s.upsertExpiry new.primaryKey new.expiresAt) := by
  obtain ⟨-, hnone, -⟩ := Pg.execute_insert_ok rfl hexec
  have hrow : s.pg.rowAt new.primaryKey.getPartitionKey = none := hnone
  have hshows := shows_insertVault hs hexec
  have hkept : s.visibleVault new.primaryKey = s.vaultOnTop new.primaryKey := by
    unfold Store.visibleVault Store.visible Store.vaultOnTop Store.cachedVault
    rw [hrow]
    cases hm : s.mode with
    | enabled => exact absurd hm hmode
    | disabled => rfl
    | softKill => cases s.cached new.primaryKey.getPartitionKey <;> rfl
  rw [hkept] at hshows
  cases htop : s.vaultOnTop new.primaryKey with
  | some row =>
    rw [htop] at hshows
    exact hshows
  | none =>
    have hdirect : ¬ s.ThroughRedis new.primaryKey.getPartitionKey := by
      rintro (hm | ⟨hm, hc⟩)
      · exact hmode hm
      · obtain ⟨row, hc⟩ := Option.isSome_iff_exists.1 hc
        obtain ⟨current, rfl, -⟩ := Vault.spec.exists_cached ctx hs
          (Vault.spec.getPartitionKey_resource new.primaryKey) hc
        simp only [Store.vaultOnTop, hm, hrow, Store.cachedVault, hc] at htop
        cases htop
    have hexpiry : s.upsertExpiry new.primaryKey new.expiresAt =
        new.expiresAt.map PrimitiveDateTime.toTimestamp := by
      have hget : s.pg.vault.get VaultInner.primaryKey new.primaryKey = none :=
        Option.map_eq_none_iff.1 hrow
      unfold Store.upsertExpiry
      rw [if_neg hdirect, hget]
      cases new.expiresAt <;> rfl
    rw [htop] at hshows
    rw [hexpiry]
    exact hshows

/-- `get_or_insert` of a vault row. -/
theorem getOrInsertVault_shows (hs : s.WellFormed ctx)
    (h : (getOrInsertVault ctx new).run Store.exec s = (.ok vault, s')) :
    s'.Shows new (s.vaultInTheWay new.primaryKey) (s.storedTtl new.expiresAt) := by
  by_cases hmode : s.mode = .enabled
  · have hrun := run_getOrInsertVault ctx hmode new
    have hkept : s.vaultInTheWay new.primaryKey = s.cachedVault new.primaryKey := by
      simp only [Store.vaultInTheWay, hmode]
    have hexpiry : s.storedTtl new.expiresAt = new.expiresAt := by
      simp only [Store.storedTtl, hmode]
    rw [h] at hrun
    rw [hkept, hexpiry, Store.cachedVault]
    cases hc : s.cached new.primaryKey.getPartitionKey with
    | none =>
      rw [hc] at hrun
      cases hrun
      refine ⟨_, visibleVault_of_cached (fun hdisabled => ?_) (Store.write_cached_self ..), rfl,
        rfl⟩
      cases hmode.symm.trans hdisabled
    | some row =>
      obtain ⟨current, rfl, -⟩ := Vault.spec.exists_cached ctx hs
        (Vault.spec.getPartitionKey_resource new.primaryKey) hc
      rw [hc] at hrun
      obtain ⟨rfl, -⟩ := run_findVault_ok hs hrun.symm
      refine visibleVault_of_cached (fun hdisabled => ?_) hc
      cases hmode.symm.trans hdisabled
  · have hkept : s.vaultInTheWay new.primaryKey = s.visibleVault new.primaryKey := by
      unfold Store.vaultInTheWay
      cases hm : s.mode with
      | enabled => exact absurd hm hmode
      | disabled => rfl
      | softKill => rfl
    have hexpiry : s.storedTtl new.expiresAt = new.expiresAt.map PrimitiveDateTime.toTimestamp := by
      unfold Store.storedTtl
      cases hm : s.mode with
      | enabled => exact absurd hm hmode
      | disabled => rfl
      | softKill => rfl
    have hinsert := run_insertVault_postgresOnly ctx s hmode new
    rw [hkept, hexpiry]
    cases hexec : (s.pg.execute (.insertVault { new.toVaultNewInner with
        updatedBy := some .postgresOnly })).1 with
    | ok out =>
      rw [hexec] at hinsert
      cases h.symm.trans (run_onDuplicate_ok hinsert _)
      exact shows_insertVault hs hexec
    | error e =>
      rw [hexec, Pg.apply_of_insert_error rfl hexec] at hinsert
      have hrun := h.symm.trans (run_onDuplicate_error hinsert _)
      split_ifs at hrun
      · obtain ⟨rfl, row, hv⟩ := run_findVault_ok hs hrun.symm
        rw [hv]
        exact hv
      · cases congrArg Prod.fst hrun

/-- An INSERT that violates the primary key has met a row. -/
theorem exists_vault_of_violation
    (h : (s.pg.execute (.insertVault { new.toVaultNewInner with
      updatedBy := some .postgresOnly })).1 = .error .uniqueViolation) :
    ∃ row, s.pg.vault.get VaultInner.primaryKey new.primaryKey = some row := by
  rcases insertRow_error_iff.1 h with ⟨-, h⟩ | ⟨-, -, row, hrow, hclash⟩
  · cases h
  · exact Option.isSome_iff_exists.1 (Relational.Table.isSome_get hrow hclash)

/-- An update through Redis shows the record. -/
theorem shows_rewriteVault (hmode : s.mode ≠ .disabled) (current : VaultInner) :
    (s.rewriteVault ctx new.primaryKey new.toVaultUpdate current).Shows new none new.expiresAt :=
  ⟨_, visibleVault_of_cached hmode (Store.write_cached_self ..), rfl, rfl⟩

/-- An UPDATE of a row in Postgres shows the record. -/
theorem shows_updateVault {row : VaultInner}
    (hdirect : ¬ s.ThroughRedis new.primaryKey.getPartitionKey)
    (hrow : s.pg.vault.get VaultInner.primaryKey new.primaryKey = some row) :
    ({ s with pg := s.pg.apply (.updateVault new.primaryKey { new.toVaultUpdate with
      updatedBy := .postgresOnly }) } : Store).Shows new none
        (s.upsertExpiry new.primaryKey new.expiresAt) := by
  have hget := Pg.get_updateVault s.pg new.primaryKey
    { new.toVaultUpdate with updatedBy := .postgresOnly } new.primaryKey
  rw [if_pos rfl, hrow] at hget
  refine ⟨row.setColumns { new.toVaultUpdate with updatedBy := .postgresOnly },
    visibleVault_eq ?_, rfl, ?_⟩
  · rw [visible_of_direct hdirect]
    exact congrArg (Option.map Row.vault) hget
  · unfold Store.upsertExpiry
    rw [if_neg hdirect, hrow]
    rfl

/-- `upsert` of a vault row. -/
theorem upsertVault_shows (hs : s.WellFormed ctx)
    (h : (upsertVault ctx new).run Store.exec s = (.ok vault, s')) :
    s'.Shows new (s.vaultOnTop new.primaryKey) (s.upsertExpiry new.primaryKey new.expiresAt) := by
  by_cases hmode : s.mode = .enabled
  · have hkept : s.vaultOnTop new.primaryKey = none := by
      simp only [Store.vaultOnTop, hmode]
    have hexpiry : s.upsertExpiry new.primaryKey new.expiresAt = new.expiresAt :=
      if_pos (Or.inl hmode)
    have henabled : s.mode ≠ .disabled := by simp [hmode]
    rw [hkept, hexpiry]
    cases hc : s.cached new.primaryKey.getPartitionKey with
    | none =>
      cases h.symm.trans (run_upsertVault_of_none ctx hmode new hc)
      exact ⟨_, visibleVault_of_cached henabled (Store.write_cached_self ..), rfl, rfl⟩
    | some row =>
      obtain ⟨current, rfl, -⟩ := Vault.spec.exists_cached ctx hs
        (Vault.spec.getPartitionKey_resource new.primaryKey) hc
      cases h.symm.trans (run_upsertVault_of_some ctx hs hmode new hc)
      exact shows_rewriteVault henabled current
  · have hinsert := run_insertVault_postgresOnly ctx s hmode new
    cases hexec : (s.pg.execute (.insertVault { new.toVaultNewInner with
        updatedBy := some .postgresOnly })).1 with
    | ok out =>
      rw [hexec] at hinsert
      cases h.symm.trans (run_onDuplicate_ok hinsert _)
      exact shows_upserted hs hmode hexec
    | error e =>
      rw [hexec, Pg.apply_of_insert_error rfl hexec] at hinsert
      have hrun := h.symm.trans (run_onDuplicate_error hinsert _)
      rcases Pg.insert_error rfl hexec with rfl | rfl
      · cases congrArg Prod.fst hrun
      obtain ⟨row, hrow⟩ := exists_vault_of_violation hexec
      have hkept : s.vaultOnTop new.primaryKey = none := by
        have hrow' : s.pg.rowAt new.primaryKey.getPartitionKey = some (.vault row) :=
          congrArg (Option.map Row.vault) hrow
        unfold Store.vaultOnTop
        rw [hrow']
        cases s.mode <;> rfl
      rw [hkept]
      by_cases hthrough : s.ThroughRedis new.primaryKey.getPartitionKey
      · have hsoft : s.mode ≠ .disabled := by
          rcases hthrough with hm | ⟨hm, -⟩ <;> simp [hm]
        have hexpiry : s.upsertExpiry new.primaryKey new.expiresAt = new.expiresAt :=
          if_pos hthrough
        have hupdate := hrun.trans
          (run_updateVaultData_redisKv ctx s hs new.primaryKey hthrough new.toVaultUpdate)
        rw [hexpiry]
        cases hv : s.visibleVault new.primaryKey with
        | none =>
          rw [hv] at hupdate
          cases congrArg Prod.fst hupdate
        | some current =>
          rw [hv] at hupdate
          cases hupdate
          exact shows_rewriteVault hsoft current
      · have hupdate := hrun.trans (run_updateVaultData_postgresOnly ctx s new.primaryKey
          (mode_of_direct hthrough) new.toVaultUpdate)
        obtain rfl := congrArg Prod.snd hupdate
        exact shows_updateVault hthrough hrow

/-- What is visible after a record has been stored. -/
theorem storeVault_shows (hs : s.WellFormed ctx) (mode : Option WriteMode)
    (h : (storeVault ctx mode new).run Store.exec s = (.ok vault, s')) :
    s'.Shows new (s.vaultKept mode new.primaryKey)
      (s.vaultExpiry mode new.primaryKey new.expiresAt) := by
  match mode with
  | some .upsert => exact upsertVault_shows hs h
  | none => exact getOrInsertVault_shows hs h
  | some .insert => exact getOrInsertVault_shows hs h

theorem obeys_storeVault (ctx : KvStoreContext) (mode : Option WriteMode) (new : VaultNew) :
    Obeys ctx (storeVault ctx mode new) fun _ => True := by
  have hinsert : Obeys ctx (getOrInsertVault ctx new) fun _ => True :=
    obeys_onDuplicate ctx (obeys_insertVault ctx new) (obeys_findByVaultIdEntityId ctx _ _)
  match mode with
  | some .upsert => exact obeys_upsertVault ctx new
  | none => exact hinsert
  | some .insert => exact hinsert

end Left

/-! ## Adding and retrieving -/

section Handlers

variable {σ V : Type} {service : KeyService σ} {dataService : DataService σ}
  {s s' t : ApiState σ} {state : TenantState} {drawn : Drawn} {encoding : ValueEncoding V}
  {manager : CryptoOperationsManager} {request : StoreDataRequest V} {mode : Option WriteMode}
  {response : StoreDataResponse}

/-- What is stored is read back as it was. -/
def ValueEncoding.RoundTrips (encoding : ValueEncoding V) : Prop :=
  ∀ value, encoding.fromSlice (encoding.toVec value) = some value

/-- The key of the row that a request stores. -/
def StoreDataRequest.primaryKey (request : StoreDataRequest V) : VaultPrimaryKey :=
  ⟨request.entityId, request.vaultId⟩

/-- The value of a row can be read by a key holder, and its `expires_at` has not passed. -/
structure RetrievesValue (service : KeyService σ) (dataService : DataService σ)
    (state : TenantState) (encoding : ValueEncoding V) (manager : CryptoOperationsManager)
    (s : ApiState σ) (row : VaultInner) (value : V) : Prop where
  opens : ∃ data, ((manager.decryptData state row.encryptedData).run
    (ApiState.exec service dataService) s).1 = .ok data ∧ encoding.fromSlice data = some value
  live : Unexpired row.expiresAt s.now

theorem RetrievesValue.congr {row : VaultInner} {value : V} (hkeys : s.keys = t.keys)
    (hnow : s.now = t.now)
    (h : RetrievesValue service dataService state encoding manager t row value) :
    RetrievesValue service dataService state encoding manager s row value := by
  obtain ⟨⟨data, hopen, hread⟩, hlive⟩ := h
  refine ⟨⟨data, ?_, hread⟩, by rwa [hnow]⟩
  rw [run_decryptData s t hkeys]
  exact hopen

/-- What a retrieve answers is the value of the row that is visible. -/
theorem retrieveData_ok_iff (pk : VaultPrimaryKey) (value : V) (hs : s.kv.WellFormed state.db)
    (hkey : (findKeyHolder state pk.entityId).run (ApiState.exec service dataService) s =
      (.ok manager, s)) :
    ((retrieveData state encoding ⟨pk.entityId, pk.vaultId⟩).run
      (ApiState.exec service dataService) s).1 = .ok ⟨value⟩ ↔
        ∃ row, s.kv.visibleVault pk = some row ∧
          RetrievesValue service dataService state encoding manager s row value := by
  have hfind := run_findByVaultIdEntityId state.db s.kv hs pk
  unfold retrieveData
  rw [Prog.run_andThen_ok hkey]
  constructor
  · intro h
    obtain ⟨vault, s₁, hfound, h⟩ := Prog.run_andThen_eq_ok (Prod.ext h rfl)
    obtain ⟨hfound, hs₁⟩ := run_liftKv_eq (run_orApiError_eq_ok hfound)
    rw [hfind] at hfound
    cases hv : s.kv.visibleVault pk with
    | none =>
      rw [hv] at hfound
      cases congrArg Prod.fst hfound
    | some row =>
      rw [hv] at hfound
      have hkv : s₁.kv = s.kv := (congrArg Prod.snd hfound).symm
      obtain rfl : s₁ = s := by rw [hs₁, hkv]
      obtain rfl := Except.ok.inj (congrArg Prod.fst hfound)
      obtain ⟨decrypted, s₂, hdecrypt, h⟩ := Prog.run_andThen_eq_ok h
      obtain ⟨data, s₃, hopen, hpure⟩ := Prog.run_andThen_eq_ok hdecrypt
      have hopened : s₃ = s₁ := by
        have hrun := hopen.symm.trans (run_decryptData s₁ s₁ rfl row.encryptedData)
        exact congrArg Prod.snd hrun
      subst hopened
      cases hpure
      obtain ⟨⟨⟩, s₄, hlive, h⟩ := Prog.run_andThen_eq_ok h
      refine ⟨row, rfl, ⟨data, congrArg Prod.fst hopen, ?_⟩, checkTtl_ok hlive⟩
      have hanswer := congrArg Prod.fst h
      cases hread : encoding.fromSlice data with
      | none =>
        simp only [Prog.run_pure, vaultValue, hread] at hanswer
        cases hanswer
      | some found =>
        simp only [Prog.run_pure, vaultValue, hread] at hanswer
        exact congrArg some (RetrieveDataResponse.mk.inj (Except.ok.inj hanswer))
  · rintro ⟨row, hv, ⟨data, hopen, hread⟩, hlive⟩
    rw [hv] at hfind
    have hlifted : (liftKv (findByVaultIdEntityId state.db pk.vaultId pk.entityId)).run
        (ApiState.exec service dataService) s = (.ok row.toVault, s) := by
      rw [run_liftKv, hfind]
    have hopened : (manager.decryptData state row.encryptedData).run
        (ApiState.exec service dataService) s = (.ok data, s) := by
      rw [run_decryptData s s rfl, hopen]
    have hdecrypt : (decryptVault state manager row.toVault).run
        (ApiState.exec service dataService) s =
          (.ok { row.toVault with data := .decrypted data }, s) := Prog.run_andThen_ok hopened _
    have hchecked : (checkTtl row.toVault.expiresAt (.vault pk.vaultId pk.entityId)).run
        (ApiState.exec service dataService) s = (.ok (), s) := run_checkTtl_ok hlive
    rw [Prog.run_andThen_ok (run_orApiError_ok hlifted), Prog.run_andThen_ok hdecrypt]
    refine (congrArg Prod.fst (Prog.run_andThen_ok hchecked _)).trans ?_
    simp only [Prog.run_pure, vaultValue, hread]
    rfl

/-- An add encrypts the value and stores a record of it, by the write mode. -/
theorem addData_ok (hdecrypts : Decrypts state drawn dataService)
    (h : (addData state drawn encoding request mode).run (ApiState.exec service dataService) s =
      (.ok response, s')) :
    ∃ manager t encrypted vault, (findOrCreateKeyHolder state drawn request.entityId).run
        (ApiState.exec service dataService) s = (.ok manager, t) ∧
      s'.keys = t.keys ∧ s'.now = s.now ∧ t.kv = s.kv ∧
      ((manager.decryptData state encrypted).run (ApiState.exec service dataService) t).1 =
        .ok (encoding.toVec request.data) ∧
      (storeVault state.db mode (newVault s.now request encrypted)).run Store.exec s.kv =
        (.ok vault, s'.kv) := by
  obtain ⟨_, s₀, hvalid, h⟩ := Prog.run_andThen_eq_ok h
  obtain rfl : s = s₀ := congrArg Prod.snd hvalid
  obtain ⟨manager, t, hkey, h⟩ := Prog.run_andThen_eq_ok h
  have hframe := (findKeyHolder_of_findOrCreate hkey).1
  obtain ⟨vault, t', hstore, hpure⟩ := Prog.run_andThen_eq_ok h
  cases hpure
  obtain ⟨encrypted, u, hencrypt, hnow⟩ := Prog.run_andThen_eq_ok hstore
  obtain ⟨rfl, hdecrypt⟩ := encryptData_ok hdecrypts hencrypt
  have hread : (dateTimeNow : ApiApp _).run (ApiState.exec service dataService) u = (u.now, u) :=
    rfl
  rw [Prog.run_bind_of hread] at hnow
  obtain ⟨hrun, hafter⟩ := run_liftKv_eq (run_orApiError_eq_ok hnow)
  have htime : u.now = s.now := by rw [hframe]
  have hkv : u.kv = s.kv := by rw [hframe]
  rw [htime, hkv] at hrun
  refine ⟨manager, u, encrypted, vault, hkey, by rw [hafter], by rw [hafter, htime], hkv,
    hdecrypt, ?_⟩
  cases mode with
  | none => exact hrun
  | some mode => cases mode <;> exact hrun

/-- Before an add: no other row stays visible in place of the record, and its expiry, as it
    comes to be stored, has not passed; or the row that stays has the value of the request
    already. -/
def StoresValue (service : KeyService σ) (dataService : DataService σ) (state : TenantState)
    (drawn : Drawn) (encoding : ValueEncoding V) (request : StoreDataRequest V)
    (mode : Option WriteMode) (s : ApiState σ) : Prop :=
  match s.kv.vaultKept mode request.primaryKey with
  | none => Unexpired (s.kv.vaultExpiry mode request.primaryKey request.ttl) s.now
  | some row => ∃ manager t, (findOrCreateKeyHolder state drawn request.entityId).run
      (ApiState.exec service dataService) s = (.ok manager, t) ∧
        RetrievesValue service dataService state encoding manager t row request.data

/-- After an add that is answered, in any mode, a retrieve answers the value of the request
    if and only if `StoresValue` held before it. -/
theorem addData_stores_iff (hs : s.kv.WellFormed state.db) (hround : encoding.RoundTrips)
    (hdecrypts : Decrypts state drawn dataService)
    (hadd : (addData state drawn encoding request mode).run (ApiState.exec service dataService) s =
      (.ok response, s')) :
    ((retrieveData state encoding ⟨request.entityId, request.vaultId⟩).run
      (ApiState.exec service dataService) s').1 = .ok ⟨request.data⟩ ↔
        StoresValue service dataService state drawn encoding request mode s := by
  obtain ⟨manager, t, encrypted, vault, hkey, hkeys, hnow, hkv, hdecrypt, hstore⟩ :=
    addData_ok hdecrypts hadd
  obtain ⟨hframe, hfound⟩ := findKeyHolder_of_findOrCreate hkey
  have hs' : s'.kv.WellFormed state.db := by
    have hobeys := (Obeys.run (obeys_storeVault state.db mode (newVault s.now request encrypted))
      hs).2
    rwa [hstore] at hobeys
  have htime : s'.now = t.now := by rw [hnow, hframe]
  have hshows := storeVault_shows hs mode hstore
  refine (retrieveData_ok_iff request.primaryKey request.data hs' (hfound s' hkeys)).trans ?_
  unfold StoresValue
  change s'.kv.Shows (newVault s.now request encrypted)
    (s.kv.vaultKept mode request.primaryKey)
    (s.kv.vaultExpiry mode request.primaryKey request.ttl) at hshows
  cases hkept : s.kv.vaultKept mode request.primaryKey with
  | none =>
    rw [hkept] at hshows
    obtain ⟨row, hv, hdata, hexpiry⟩ := hshows
    constructor
    · rintro ⟨found, hfound, -, hlive⟩
      obtain rfl := Option.some.inj (hv.symm.trans hfound)
      rwa [hexpiry, hnow] at hlive
    · intro hlive
      refine ⟨row, hv, ⟨_, ?_, hround _⟩, ?_⟩
      · rw [hdata, run_decryptData s' t hkeys]
        exact hdecrypt
      · rwa [hexpiry, hnow]
  | some row =>
    rw [hkept] at hshows
    constructor
    · rintro ⟨found, hfound, hopens⟩
      obtain rfl := Option.some.inj (Eq.trans (Eq.symm hshows) hfound)
      exact ⟨manager, t, hkey, hopens.congr hkeys.symm htime.symm⟩
    · rintro ⟨manager', t', hkey', hopens⟩
      cases hkey.symm.trans hkey'
      exact ⟨row, hshows, hopens.congr hkeys htime⟩

end Handlers

/-! ## A value that has expired -/

section Expired

/-- `serde_json` on booleans. -/
def boolEncoding : ValueEncoding Bool where
  toVec value := (toString value).toUTF8.data.toList
  fromSlice bytes :=
    if bytes = (toString true).toUTF8.data.toList then some true
    else if bytes = (toString false).toUTF8.data.toList then some false
    else none

theorem boolEncoding_roundTrips : boolEncoding.RoundTrips := by
  intro value
  cases value <;> decide +kernel

/-- A value whose time has passed, in Postgres. -/
def valueExpired : ApiState Unit where
  kv := Store.fresh none false (Pg.empty.apply (.insertVault
    ⟨"value", "entity", boolEncoding.toVec false, ⟨0⟩, some ⟨0⟩, some .postgresOnly⟩))
  keys := KeyStore.emptyKeyStore ()
  now := ⟨1000⟩
  spawned := []

/-- The value is sent again, without a `ttl`. -/
def renewedValue : ApiState Unit :=
  ((addData sampleTenant (sampleDrawn "first") boolEncoding ⟨"entity", "value", true, none⟩
    (some .upsert)).run (ApiState.exec sampleKeyService sampleDataService) valueExpired).2

theorem run_upsertExpired :
    (addData sampleTenant (sampleDrawn "first") boolEncoding ⟨"entity", "value", true, none⟩
      (some .upsert)).run (ApiState.exec sampleKeyService sampleDataService) valueExpired =
        (.ok ⟨"entity", "value"⟩, renewedValue) :=
  Prod.ext (by decide +kernel) rfl

/-- The upsert is answered, and leaves the expiry of the row that was there. -/
theorem addData_leaves_expired :
    ((retrieveData sampleTenant boolEncoding ⟨"entity", "value"⟩).run
      (ApiState.exec sampleKeyService sampleDataService) renewedValue).1 ≠ .ok ⟨true⟩ := by
  intro h
  have hlive : Unexpired (some ⟨0⟩) ⟨1000⟩ :=
    (addData_stores_iff (Store.fresh_wellFormed ..) boolEncoding_roundTrips
      (decrypts_sampleTenant "first") run_upsertExpired).1 h
  exact absurd (hlive ⟨0⟩ rfl) (by decide)

end Expired

end CardVault
