import CardVault.Deletion
import CardVault.SoftKill

/-!
# Redis in the mode `SoftKill`

In this mode the helpers of `src/src/storage/kv/resource.rs` write to Redis only
where it holds the row already, so that Redis runs empty. A row that it holds is
still changed and deleted there, and its statements are queued.

Main results:
* `helperStep_redisKeys`: no step of this mode adds a key to Redis.
* `goesThroughRedis_of_target`: an update or a delete of a row that Redis holds.
* `softKill_redisKeys`: both, over runs of the helpers on every resource.
-/

namespace CardVault

open Interaction

/-! ## Calls of the helpers -/

/-- The resources with deletion. -/
inductive DeletableResource where
  | locker | reverseLookup | vault
  deriving DecidableEq, Repr

/-- The impl of a table with deletion. -/
abbrev DeletableResource.kvDeletableResource : DeletableResource → KvDeletableResource
  | .locker => Locker.kvDeletableResource
  | .reverseLookup => ReverseLookup.kvDeletableResource
  | .vault => Vault.kvDeletableResource

/-- Every impl of deletion keeps its promises. -/
def DeletableResource.spec : (t : DeletableResource) → t.kvDeletableResource.Spec
  | .locker => Locker.deletableSpec
  | .reverseLookup => ReverseLookup.deletableSpec
  | .vault => Vault.deletableSpec

/-- A call of a helper, on any resource that has it. -/
inductive HelperCall where
  | insertResource (t : Resource) (new : t.kvResource.DieselNew)
  | insertResourceWithReverseLookup (new : LockerNew)
  | findResourceById (t : Resource) (primaryKey : t.kvResource.PrimaryKeyType)
  | findOptionalResourceById (t : Resource) (primaryKey : t.kvResource.PrimaryKeyType)
  | findResourceByLookupId (lookupKey : LockerHashLookupKey)
  | findOptionalResourceByLookupId (lookupKey : LockerHashLookupKey)
  | updateResourceById (change : VaultUpdate) (primaryKey : VaultPrimaryKey)
  | deleteResourceById (t : DeletableResource)
      (primaryKey : t.kvDeletableResource.PrimaryKeyType)
  | deleteResourceByIdWithReverseLookup (primaryKey : LockerPrimaryKeyType)

/-- The program of a call; what it answers is left out. -/
def HelperCall.app (ctx : KvStoreContext) : HelperCall → App Unit
  | .insertResource t new =>
    (CardVault.insertResource ctx t.kvResource new (t.key new)).mapResult fun _ => ()
  | .insertResourceWithReverseLookup new =>
    (CardVault.insertResourceWithReverseLookup ctx Locker.kvSecondaryLookupResource new
      new.primaryKey.getPartitionKey).mapResult fun _ => ()
  | .findResourceById t primaryKey =>
    (CardVault.findResourceById ctx t.kvResource primaryKey).mapResult fun _ => ()
  | .findOptionalResourceById t primaryKey =>
    (CardVault.findOptionalResourceById ctx t.kvResource primaryKey).mapResult fun _ => ()
  | .findResourceByLookupId lookupKey =>
    (CardVault.findResourceByLookupId ctx Locker.kvSecondaryLookupResource lookupKey).mapResult
      fun _ => ()
  | .findOptionalResourceByLookupId lookupKey =>
    (CardVault.findOptionalResourceByLookupId ctx Locker.kvSecondaryLookupResource
      lookupKey).mapResult fun _ => ()
  | .updateResourceById change primaryKey =>
    (CardVault.updateResourceById ctx Vault.kvUpdatableResource change primaryKey).mapResult
      fun _ => ()
  | .deleteResourceById t primaryKey =>
    (CardVault.deleteResourceById ctx t.kvDeletableResource primaryKey).mapResult fun _ => ()
  | .deleteResourceByIdWithReverseLookup primaryKey =>
    (CardVault.deleteResourceByIdWithReverseLookup ctx Locker.kvDeletableWithLookup
      primaryKey).mapResult fun _ => ()

/-- A call issues well-formed commands. -/
theorem HelperCall.obeys (ctx : KvStoreContext) (c : HelperCall) :
    Obeys ctx (c.app ctx) fun _ => True := by
  cases c with
  | insertResource t new =>
    refine Obeys.discard (obeys_insertResource ctx t.spec new ?_)
    exact (t.spec.insertStatement_setStorageScheme new .redisKv).symm.trans (t.key_eq new .redisKv)
  | insertResourceWithReverseLookup new =>
    exact Obeys.discard (obeys_insertResourceWithReverseLookup ctx
      (M := Locker.kvSecondaryLookupResource) Locker.spec new rfl)
  | findResourceById t primaryKey =>
    exact Obeys.discard (obeys_findResourceById ctx t.spec primaryKey)
  | findOptionalResourceById t primaryKey =>
    exact Obeys.discard (obeys_findOptionalResourceById ctx t.spec primaryKey)
  | findResourceByLookupId lookupKey =>
    exact Obeys.discard (obeys_findResourceByLookupId ctx
      (M := Locker.kvSecondaryLookupResource) lookupKey
      (Obeys.mapResult ((obeys_findOnRouted ctx _).mono fun _ _ => trivial)))
  | findOptionalResourceByLookupId lookupKey =>
    exact Obeys.discard (obeys_findOptionalByHashIdMerchantIdCustomerId ctx lookupKey.hashId
      lookupKey.merchantId lookupKey.customerId)
  | updateResourceById change primaryKey =>
    exact Obeys.discard (obeys_updateResourceById ctx Vault.updatableSpec change primaryKey)
  | deleteResourceById t primaryKey =>
    exact Obeys.discard (obeys_deleteResourceByIdInner ctx t.spec primaryKey)
  | deleteResourceByIdWithReverseLookup primaryKey =>
    exact Obeys.discard (obeys_deleteLocker ctx primaryKey.lockerId primaryKey.merchantId
      primaryKey.customerId)

/-! ## Steps -/

/-- A step of the system: a call of a helper, a step of the environment, or a change
    of the runtime configuration. -/
inductive HelperAction where
  | call (c : HelperCall)
  | env (e : EnvStep)
  | setRuntimeConfig (config : Option RuntimeConfigValues)

namespace Store

variable (ctx : KvStoreContext)

/-- The system takes a step; a call runs with nothing in between. -/
def helperStep (s : Store) : HelperAction → Store
  | .call c => ((c.app ctx).run Store.exec s).2
  | .env e => s.envStep ctx e
  | .setRuntimeConfig config => { s with runtimeConfig := config }

/-- A store that any run of helper calls reaches from an empty Redis, empty streams
    and any tables. -/
def HelperReached (s : Store) : Prop :=
  ∃ config hasReplica pg, ∃ acts : List HelperAction,
    s = runActs (helperStep ctx) acts (Store.fresh config hasReplica pg)

variable {ctx} {s : Store} {key : PartitionKey}

theorem helperStep_wellFormed (h : s.WellFormed ctx) (a : HelperAction) :
    (s.helperStep ctx a).WellFormed ctx := by
  cases a with
  | call c => exact (Obeys.run (c.obeys ctx) h).2
  | env e => exact envStep_wellFormed h e
  | setRuntimeConfig config => exact h.setRuntimeConfig config

theorem HelperReached.wellFormed (h : HelperReached ctx s) : s.WellFormed ctx := by
  obtain ⟨config, hasReplica, pg, acts, rfl⟩ := h
  exact run_invariant (I := WellFormed ctx) (fun _ a hs _ => helperStep_wellFormed hs a) acts _
    (fresh_wellFormed config hasReplica pg) (good_true acts _)

/-! ## The keys of Redis -/

/-- The keys present in Redis. -/
def redisKeys (s : Store) : Set String := {k | ∃ f, (s.redis k f).isSome}

theorem mem_redisKeys_of_cached (h : (s.cached key).isSome) : key.display ∈ s.redisKeys :=
  ⟨key.display, h⟩

/-- A row written where Redis holds one adds no key. -/
theorem redisKeys_write (h : (s.cached key).isSome) (row : Row) (query : SerializableQuery) :
    (s.write ctx key row query).redisKeys ⊆ s.redisKeys := by
  rintro k ⟨f, hf⟩
  by_cases hk : k = key.display
  · subst hk
    exact mem_redisKeys_of_cached h
  · refine ⟨f, ?_⟩
    have hframe : (s.write ctx key row query).redis k f = s.redis k f := by
      simp [write, Store.push, Redis.setField, hk]
    rwa [hframe] at hf

theorem redisKeys_erase (s : Store) (key : PartitionKey) (query : SerializableQuery) :
    (s.erase ctx key query).redisKeys ⊆ s.redisKeys := by
  rintro k ⟨f, hf⟩
  refine ⟨f, ?_⟩
  by_cases hk : k = key.display ∧ f = key.display
  · have hnone : (s.erase ctx key query).redis k f = none := if_pos hk
    rw [hnone] at hf
    cases hf
  · have hframe : (s.erase ctx key query).redis k f = s.redis k f := if_neg hk
    rwa [hframe] at hf

theorem redisKeys_remove (s : Store) (key : PartitionKey) (query : SerializableQuery) :
    (s.remove ctx key query).redisKeys ⊆ s.redisKeys := by
  unfold remove
  split_ifs
  · exact redisKeys_erase s key query
  · exact fun k hk => hk

theorem redisKeys_envStep (s : Store) (e : EnvStep) :
    (s.envStep ctx e).redisKeys ⊆ s.redisKeys := by
  rintro k ⟨f, hf⟩
  refine ⟨f, ?_⟩
  rcases settle_redis ctx s [e] k f with h | h
  · rwa [← h]
  · rw [show (s.envStep ctx e).redis k f = none from h] at hf
    cases hf

/-! ## What a call leaves behind -/

/-- An update of a row that Redis holds adds no key. -/
theorem redisKeys_updateVault (hmode : s.mode = .softKill)
    (pk : VaultPrimaryKey) (change : VaultUpdate) :
    (s.updateVault ctx pk change).redisKeys ⊆ s.redisKeys := by
  unfold updateVault
  by_cases h : s.ThroughRedis pk.getPartitionKey
  · rw [if_pos h]
    have hc : (s.cached pk.getPartitionKey).isSome := by simpa [ThroughRedis, hmode] using h
    cases s.visibleVault pk with
    | none => exact fun k hk => hk
    | some current => exact redisKeys_write hc _ _
  · rw [if_neg h]
    exact fun k hk => hk

theorem redisKeys_deleteLocker (s : Store) (pk : LockerPrimaryKeyType) :
    (s.deleteLocker ctx pk).redisKeys ⊆ s.redisKeys := by
  have hlocker : (s.removeLocker ctx pk).redisKeys ⊆ s.redisKeys := redisKeys_remove s _ _
  unfold deleteLocker
  split
  · exact fun k hk => hlocker (redisKeys_remove (s.removeLocker ctx pk) _ _ hk)
  · exact hlocker

/-- An update leaves behind what `updateVault` says. -/
theorem helperStep_update (hs : s.WellFormed ctx) (pk : VaultPrimaryKey) (change : VaultUpdate) :
    s.helperStep ctx (.call (.updateResourceById change pk)) = s.updateVault ctx pk change :=
  step_request hs (.updateVaultData pk.vaultId pk.entityId change)

/-- A delete leaves behind what `remove` says. -/
theorem helperStep_delete (hs : s.WellFormed ctx) (t : DeletableResource)
    (pk : t.kvDeletableResource.PrimaryKeyType) :
    s.helperStep ctx (.call (.deleteResourceById t pk)) =
      s.remove ctx (t.kvDeletableResource.getPartitionKey pk)
        ⟨t.spec.deleteStatement pk, t.kvDeletableResource.resource.entityType, .delete⟩ := by
  obtain ⟨count, hrun⟩ := run_deleteResourceByIdInner ctx s t.spec hs pk
  exact (congrArg Prod.snd (Prog.run_mapResult exec _ _ s)).trans (congrArg Prod.snd hrun)

/-- A delete with its lookup record leaves behind what `deleteLocker` says. -/
theorem helperStep_deleteLocker (hs : s.WellFormed ctx) (pk : LockerPrimaryKeyType) :
    s.helperStep ctx (.call (.deleteResourceByIdWithReverseLookup pk)) = s.deleteLocker ctx pk :=
  step_request hs (.deleteLocker pk.lockerId pk.merchantId pk.customerId)

variable (ctx) in
/-- In the modes that insert into Postgres, an insert leaves Redis as it is. -/
theorem run_insertResource_redis (hmode : s.mode = .softKill) (t : Resource)
    (new : t.kvResource.DieselNew) :
    ((insertResource ctx t.kvResource new (t.key new)).run exec s).2.redis = s.redis := by
  have hne : s.mode ≠ .enabled := by simp [hmode]
  obtain ⟨reply, hrun, -⟩ := t.spec.run_storageInsert
    (t.kvResource.setStorageScheme new .postgresOnly) s
  rw [run_insertResource_postgresOnly ctx s hne, hrun]

/-- No step of this mode adds a key to Redis. -/
theorem helperStep_redisKeys (hs : s.WellFormed ctx) (hmode : s.mode = .softKill)
    (a : HelperAction) : (s.helperStep ctx a).redisKeys ⊆ s.redisKeys := by
  have hdrop : ∀ {α : Type} (p : App α) (s' : Store), (p.run exec s).2 = s' →
      s'.redis = s.redis → ((p.mapResult fun _ => ()).run exec s).2.redisKeys ⊆ s.redisKeys :=
    fun p s' hrun hredis k ⟨f, hf⟩ => by
      refine ⟨f, ?_⟩
      rwa [Prog.run_mapResult, hrun, hredis] at hf
  cases a with
  | env e => exact redisKeys_envStep s e
  | setRuntimeConfig config => exact fun k hk => hk
  | call c =>
    cases c with
    | insertResource t new => exact hdrop _ _ rfl (run_insertResource_redis ctx hmode t new)
    | insertResourceWithReverseLookup new =>
      have hne : s.mode ≠ .enabled := by simp [hmode]
      exact hdrop _ _ (congrArg Prod.snd (run_insertLocker_postgresOnly ctx s hne new)) rfl
    | findResourceById t primaryKey =>
      exact hdrop _ s (congrArg Prod.snd (Prog.run_mapResult_of
        (run_findResourceByIdInner ctx s t.spec primaryKey) _)) rfl
    | findOptionalResourceById t primaryKey =>
      exact hdrop _ s (congrArg Prod.snd
        (run_findOptionalResourceById ctx s t.spec primaryKey)) rfl
    | findResourceByLookupId lookupKey =>
      exact hdrop _ s (congrArg Prod.snd (run_findResourceByLookupId ctx s hs lookupKey)) rfl
    | findOptionalResourceByLookupId lookupKey =>
      exact hdrop _ s (congrArg Prod.snd (Prog.run_mapResult_of
        (run_findResourceByLookupId ctx s hs lookupKey) _)) rfl
    | updateResourceById change primaryKey =>
      rw [helperStep_update hs]
      exact redisKeys_updateVault hmode primaryKey change
    | deleteResourceById t primaryKey =>
      rw [helperStep_delete hs]
      exact redisKeys_remove s _ _
    | deleteResourceByIdWithReverseLookup primaryKey =>
      rw [helperStep_deleteLocker hs]
      exact redisKeys_deleteLocker s primaryKey

/-! ## Rows that Redis holds -/

/-- The keys of the rows that an update or a delete is about: a delete of a locker
    also deletes the lookup record of the row that is visible. -/
def targets (s : Store) : HelperCall → List PartitionKey
  | .updateResourceById _ primaryKey => [primaryKey.getPartitionKey]
  | .deleteResourceById t primaryKey => [t.kvDeletableResource.getPartitionKey primaryKey]
  | .deleteResourceByIdWithReverseLookup primaryKey =>
    match s.visible primaryKey.getPartitionKey with
    | some (.locker row) =>
      [primaryKey.getPartitionKey, .reverseLookup row.hashKey.getLookupKey.lookupId]
    | _ => [primaryKey.getPartitionKey]
  | _ => []

/-- What an update or a delete through Redis leaves of the row there. -/
def onCached : Statement → Option Row → Option Row
  | .updateVault _ update, some (.vault current) =>
    some (.vault (VaultInner.fromUpdate update current))
  | .deleteLocker _, _ | .deleteReverseLookup _, _ | .deleteVault _, _ => none
  | _, row => row

variable (ctx) in
/-- The row of `key` was changed or deleted in Redis and its statement queued, with
    the row of Postgres left alone. -/
structure GoesThroughRedis (s s' : Store) (key : PartitionKey) : Prop where
  pg : s'.pg.rowAt key = s.pg.rowAt key
  queued : ∃ stmt : Statement, stmt.isInsert = false ∧
    s'.queued ctx key = s.queued ctx key ++ [stmt] ∧ s'.cached key = onCached stmt (s.cached key)

theorem GoesThroughRedis.erase (stmt : Statement) (hstmt : stmt.partitionKey = key)
    (heffect : stmt.effect = .delete) (s : Store) (entityType : String)
    (operation : DatabaseOperation) :
    GoesThroughRedis ctx s (s.erase ctx key ⟨stmt, entityType, operation⟩) key where
  pg := rfl
  queued := by
    refine ⟨stmt, by simp [Statement.isInsert, heffect], queued_erase _ hstmt, ?_⟩
    rw [erase_cached_self]
    cases stmt <;> first | rfl | cases heffect

/-- A delete of a locker that Redis holds, or of a lookup record that it holds. -/
theorem goesThroughRedis_deleteLocker (hs : s.WellFormed ctx) (hmode : s.mode = .softKill)
    {pk : LockerPrimaryKeyType}
    (hkey : key ∈ s.targets (.deleteResourceByIdWithReverseLookup pk))
    (hc : (s.cached key).isSome) : GoesThroughRedis ctx s (s.deleteLocker ctx pk) key := by
  have hlive : s.mode ≠ .disabled := by simp [hmode]
  have hlocker : key = pk.getPartitionKey → GoesThroughRedis ctx s (s.removeLocker ctx pk) key := by
    rintro rfl
    have hthrough : s.ThroughRedis pk.getPartitionKey := Or.inr ⟨hmode, hc⟩
    rw [removeLocker, remove, if_pos hthrough]
    exact GoesThroughRedis.erase (.deleteLocker pk) rfl rfl s _ _
  have hmode' : (s.removeLocker ctx pk).mode = .softKill := (remove_mode s _ _).trans hmode
  cases hv : s.visible pk.getPartitionKey with
  | none =>
    simp only [targets, hv, List.mem_singleton] at hkey
    rw [deleteLocker, hv]
    exact hlocker hkey
  | some row =>
    obtain ⟨e, rfl, -⟩ := Locker.spec.exists_visible ctx s hs rfl hv
    simp only [targets, hv, List.mem_cons, List.not_mem_nil, or_false] at hkey
    rw [deleteLocker, hv]
    change GoesThroughRedis ctx s ((s.removeLocker ctx pk).removeLookup ctx
      e.hashKey.getLookupKey.lookupId) key
    generalize e.hashKey.getLookupKey.lookupId = lookupId at hkey
    have hne := display_locker_ne_reverseLookup pk lookupId
    rcases hkey with rfl | rfl
    · -- the locker: the delete of its lookup record comes after
      obtain ⟨hpg, hqueued, hcached⟩ :=
        removeLookup_locker ctx (s.removeLocker ctx pk) pk lookupId
      obtain ⟨hpg₁, stmt, hinsert, hqueued₁, hcached₁⟩ := hlocker rfl
      exact ⟨hpg.trans hpg₁, stmt, hinsert, hqueued.trans hqueued₁, hcached.trans hcached₁⟩
    · -- the lookup record: the delete of its locker came before
      obtain ⟨hpg, hqueued, hcached⟩ := removeLocker_lookup ctx s pk lookupId
      have hthrough : (s.removeLocker ctx pk).ThroughRedis (.reverseLookup lookupId) :=
        Or.inr ⟨hmode', (congrArg Option.isSome hcached).trans hc⟩
      have herase := @GoesThroughRedis.erase ctx (.reverseLookup lookupId)
        (.deleteReverseLookup lookupId) rfl rfl (s.removeLocker ctx pk)
        Resource.reverseLookup.entityType .delete
      rw [removeLookup, remove, if_pos hthrough]
      obtain ⟨hpg₂, stmt, hinsert, hqueued₂, hcached₂⟩ := herase
      exact ⟨hpg₂.trans hpg, stmt, hinsert, hqueued₂.trans (congrArg (· ++ _) hqueued),
        hcached₂.trans (congrArg (onCached stmt) hcached)⟩

/-- An update or a delete of a row that Redis holds goes through Redis. -/
theorem goesThroughRedis_of_target (hs : s.WellFormed ctx) (hmode : s.mode = .softKill)
    {c : HelperCall} (hkey : key ∈ s.targets c) (hc : (s.cached key).isSome) :
    GoesThroughRedis ctx s (s.helperStep ctx (.call c)) key := by
  cases c with
  | updateResourceById change pk =>
    obtain rfl := List.mem_singleton.1 hkey
    have hthrough : s.ThroughRedis pk.getPartitionKey := Or.inr ⟨hmode, hc⟩
    obtain ⟨row, hrow⟩ := Option.isSome_iff_exists.1 hc
    obtain ⟨current, rfl, -⟩ := Vault.spec.exists_cached ctx hs rfl hrow
    have hv : s.visibleVault pk = some current := by
      simp [visibleVault, visible, hmode, hrow]
    rw [helperStep_update hs, updateVault, if_pos hthrough, hv]
    change GoesThroughRedis ctx s (s.rewriteVault ctx pk change current) pk.getPartitionKey
    refine ⟨rfl, .updateVault pk { change with updatedBy := .redisKv }, rfl, ?_, ?_⟩
    · exact queued_write _ _ rfl
    · rw [hrow]
      exact write_cached_self ctx s pk.getPartitionKey (.vault (VaultInner.fromUpdate
        { change with updatedBy := .redisKv } current)) _
  | deleteResourceById t pk =>
    obtain rfl := List.mem_singleton.1 hkey
    have hthrough : s.ThroughRedis (t.kvDeletableResource.getPartitionKey pk) :=
      Or.inr ⟨hmode, hc⟩
    rw [helperStep_delete hs, remove, if_pos hthrough]
    exact GoesThroughRedis.erase _ (t.spec.deleteStatement_partitionKey pk)
      (t.spec.deleteStatement_effect pk) s _ _
  | deleteResourceByIdWithReverseLookup pk =>
    rw [helperStep_deleteLocker hs]
    exact goesThroughRedis_deleteLocker hs hmode hkey hc
  | _ => cases hkey

/-! ## Runs -/

/-- In the mode `SoftKill`, over any run of helper calls and steps of the
    environment: the keys present in Redis never grow, and an update or a delete of
    a row that Redis holds goes through Redis and the stream. -/
theorem softKill_redisKeys (hs : HelperReached ctx s) (hmode : s.mode = .softKill)
    (acts : List HelperAction) (hacts : ∀ config, HelperAction.setRuntimeConfig config ∉ acts)
    (next : HelperCall) :
    (runActs (helperStep ctx) acts s).redisKeys ⊆ s.redisKeys ∧
      ∀ key ∈ (runActs (helperStep ctx) acts s).targets next,
        ((runActs (helperStep ctx) acts s).cached key).isSome →
          GoesThroughRedis ctx (runActs (helperStep ctx) acts s)
            ((runActs (helperStep ctx) acts s).helperStep ctx (.call next)) key := by
  have hrun : ∀ (acts : List HelperAction) (s : Store), s.WellFormed ctx → s.mode = .softKill →
      (∀ config, HelperAction.setRuntimeConfig config ∉ acts) →
        (runActs (helperStep ctx) acts s).WellFormed ctx ∧
          (runActs (helperStep ctx) acts s).mode = .softKill ∧
            (runActs (helperStep ctx) acts s).redisKeys ⊆ s.redisKeys := by
    intro acts
    induction acts with
    | nil => exact fun s hs hmode _ => ⟨hs, hmode, fun k hk => hk⟩
    | cons a acts ih =>
      intro s hs hmode hacts
      have hmode' : (s.helperStep ctx a).mode = .softKill := by
        rw [← hmode]
        cases a with
        | call c => exact mode_congr (run_runtimeConfig (c.app ctx) s)
        | env e => exact mode_congr (envStep_runtimeConfig s e)
        | setRuntimeConfig config => exact absurd List.mem_cons_self (hacts config)
      obtain ⟨hwf, hm, hsub⟩ := ih (s.helperStep ctx a) (helperStep_wellFormed hs a) hmode'
        fun config h => hacts config (List.mem_cons_of_mem a h)
      exact ⟨hwf, hm, fun k hk => helperStep_redisKeys hs hmode a (hsub hk)⟩
  obtain ⟨hwf, hm, hsub⟩ := hrun acts s hs.wellFormed hmode hacts
  exact ⟨hsub, fun key hkey hc => goesThroughRedis_of_target hwf hm hkey hc⟩

/-- A vault row inserted in the mode that writes to Redis, before `SoftKill`. -/
def softKilledRow : List HelperAction :=
  [.call (.insertResource .vault cardRecord), .setRuntimeConfig (some ⟨.softKill, false⟩)]

theorem softKill_redisKeys_row :
    (runActs (helperStep .default) [.call (.insertResource .vault cardRecord)]
        (runActs (helperStep .default) softKilledRow emptyStore)).redisKeys ⊆
          (runActs (helperStep .default) softKilledRow emptyStore).redisKeys ∧
      ∀ key ∈ (runActs (helperStep .default) [.call (.insertResource .vault cardRecord)]
          (runActs (helperStep .default) softKilledRow emptyStore)).targets
            (.deleteResourceById .vault ⟨"merchant", "card"⟩),
        ((runActs (helperStep .default) [.call (.insertResource .vault cardRecord)]
          (runActs (helperStep .default) softKilledRow emptyStore)).cached key).isSome →
            GoesThroughRedis .default
              (runActs (helperStep .default) [.call (.insertResource .vault cardRecord)]
                (runActs (helperStep .default) softKilledRow emptyStore))
              ((runActs (helperStep .default) [.call (.insertResource .vault cardRecord)]
                (runActs (helperStep .default) softKilledRow emptyStore)).helperStep .default
                  (.call (.deleteResourceById .vault ⟨"merchant", "card"⟩))) key :=
  softKill_redisKeys ⟨some ⟨.enabled, false⟩, false, Pg.empty, softKilledRow, rfl⟩
    (by decide +kernel) _ (by simp) _

end Store

end CardVault
