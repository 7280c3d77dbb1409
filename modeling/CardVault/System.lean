import CardVault.Lib.Runs
import CardVault.Domain
import CardVault.Settle

/-!
# The system

The storage layer of one tenant, its drainer and its Redis as one transition
system: a step is one call of a storage interface, run with nothing in between, one
entry replayed by the drainer, one Redis key that expires, or a change of the
runtime configuration.

Main results:
* `step_wellFormed`, `Reachable.wellFormed`: every reachable store is well formed.
* `Reachable.mode_eq`: a run without configuration changes stays in its mode.
* `step_request`: a call leaves behind what the abstract `after` says.
* `forall_quiet_iff`: finds may be left out of what happens between two writes.
* `Reachable.streams_eq_nil`: without Redis, nothing is ever queued.
-/

namespace CardVault

open Interaction Stream

/-! ## Calls -/

/-- A call of a storage interface, with the values it makes up itself. -/
inductive Request where
  | insertVault (new : VaultNew)
  | updateVaultData (vaultId entityId : String) (update : VaultUpdate)
  | deleteFromVault (vaultId entityId : String)
  | findByVaultIdEntityId (vaultId entityId : String)
  | insertLocker (new : LockerNew)
  | deleteLocker (lockerId merchantId customerId : String)
  | findByLockerIdMerchantIdCustomerId (lockerId merchantId customerId : String)
  | findOptionalByHashIdMerchantIdCustomerId (hashId merchantId customerId : String)
  | insertHash (uuid : String) (now : PrimitiveDateTime) (dataHash : Bytes)
  | findOptionalByDataHash (dataHash : Bytes)
  | insertFingerprint (fingerprintHash : Bytes) (fingerprintId : String)
  | findOptionalByFingerprintHash (fingerprintHash : Bytes)
  deriving DecidableEq, Repr

/-- The program of a call; what it answers is left out. -/
def Request.app (ctx : KvStoreContext) : Request → App Unit
  | .insertVault new => (CardVault.insertVault ctx new).mapResult fun _ => ()
  | .updateVaultData vaultId entityId update =>
    (CardVault.updateVaultData ctx vaultId entityId update).mapResult fun _ => ()
  | .deleteFromVault vaultId entityId =>
    (CardVault.deleteFromVault ctx vaultId entityId).mapResult fun _ => ()
  | .findByVaultIdEntityId vaultId entityId =>
    (CardVault.findByVaultIdEntityId ctx vaultId entityId).mapResult fun _ => ()
  | .insertLocker new => (CardVault.insertLocker ctx new).mapResult fun _ => ()
  | .deleteLocker lockerId merchantId customerId =>
    (CardVault.deleteLocker ctx lockerId merchantId customerId).mapResult fun _ => ()
  | .findByLockerIdMerchantIdCustomerId lockerId merchantId customerId =>
    (CardVault.findByLockerIdMerchantIdCustomerId ctx lockerId merchantId customerId).mapResult
      fun _ => ()
  | .findOptionalByHashIdMerchantIdCustomerId hashId merchantId customerId =>
    (CardVault.findOptionalByHashIdMerchantIdCustomerId ctx hashId merchantId customerId).mapResult
      fun _ => ()
  | .insertHash uuid now dataHash =>
    (CardVault.insertHash ctx uuid now dataHash).mapResult fun _ => ()
  | .findOptionalByDataHash dataHash =>
    (CardVault.findOptionalByDataHash ctx dataHash).mapResult fun _ => ()
  | .insertFingerprint fingerprintHash fingerprintId =>
    (CardVault.insertFingerprint ctx fingerprintHash fingerprintId).mapResult fun _ => ()
  | .findOptionalByFingerprintHash fingerprintHash =>
    (CardVault.findOptionalByFingerprintHash ctx fingerprintHash).mapResult fun _ => ()

/-- A call issues well-formed commands. -/
theorem Request.obeys (ctx : KvStoreContext) (r : Request) :
    Obeys ctx (r.app ctx) fun _ => True := by
  cases r with
  | insertVault new => exact Obeys.discard (obeys_insertVault ctx new)
  | updateVaultData vaultId entityId update =>
    exact Obeys.discard (obeys_updateVaultData ctx vaultId entityId update)
  | deleteFromVault vaultId entityId =>
    exact Obeys.discard (obeys_deleteFromVault ctx vaultId entityId)
  | findByVaultIdEntityId vaultId entityId =>
    exact Obeys.discard (obeys_findByVaultIdEntityId ctx vaultId entityId)
  | insertLocker new => exact Obeys.discard (obeys_insertLocker ctx new)
  | deleteLocker lockerId merchantId customerId =>
    exact Obeys.discard (obeys_deleteLocker ctx lockerId merchantId customerId)
  | findByLockerIdMerchantIdCustomerId lockerId merchantId customerId =>
    exact Obeys.discard
      (obeys_findByLockerIdMerchantIdCustomerId ctx lockerId merchantId customerId)
  | findOptionalByHashIdMerchantIdCustomerId hashId merchantId customerId =>
    exact Obeys.discard
      (obeys_findOptionalByHashIdMerchantIdCustomerId ctx hashId merchantId customerId)
  | insertHash uuid now dataHash => exact Obeys.discard (obeys_insertHash ctx uuid now dataHash)
  | findOptionalByDataHash dataHash =>
    exact Obeys.discard (obeys_findOptionalByDataHash ctx dataHash)
  | insertFingerprint fingerprintHash fingerprintId =>
    exact Obeys.discard (obeys_insertFingerprint ctx fingerprintHash fingerprintId)
  | findOptionalByFingerprintHash fingerprintHash =>
    exact Obeys.discard (obeys_findOptionalByFingerprintHash ctx fingerprintHash)

/-- A call that only reads. -/
def Request.isFind : Request → Bool
  | .findByVaultIdEntityId .. | .findByLockerIdMerchantIdCustomerId ..
  | .findOptionalByHashIdMerchantIdCustomerId .. | .findOptionalByDataHash _
  | .findOptionalByFingerprintHash _ => true
  | _ => false

/-! ## Steps -/

/-- A step of the system. -/
inductive Action where
  | request (r : Request)
  | env (e : EnvStep)
  | setRuntimeConfig (config : Option RuntimeConfigValues)
  deriving DecidableEq, Repr

/-- A step that writes no row: a find or a step of the environment. -/
def Action.isQuiet : Action → Bool
  | .request r => r.isFind
  | .env _ => true
  | .setRuntimeConfig _ => false

namespace Store

variable (ctx : KvStoreContext)

/-- The system takes a step. -/
def step (s : Store) : Action → Store
  | .request r => ((r.app ctx).run Store.exec s).2
  | .env e => s.envStep ctx e
  | .setRuntimeConfig config => { s with runtimeConfig := config }

/-- No row at all, in the mode that writes to Redis. -/
def emptyStore : Store := Store.fresh (some ⟨.enabled, false⟩) false Pg.empty

/-- A store that a run without configuration changes reaches from an empty
    Redis, empty streams and any tables. -/
def Reachable (mode : KvState) (s : Store) : Prop :=
  ∃ config hasReplica pg, ∃ acts : List Action,
    (Store.fresh config hasReplica pg).mode = mode ∧
      (∀ config', Action.setRuntimeConfig config' ∉ acts) ∧
      s = runActs (step ctx) acts (Store.fresh config hasReplica pg)

/-- A store that any run reaches from an empty Redis, empty streams and any
    tables. -/
def Reached (s : Store) : Prop :=
  ∃ config hasReplica pg, ∃ acts : List Action,
    s = runActs (step ctx) acts (Store.fresh config hasReplica pg)

variable {ctx} {s : Store}

theorem step_wellFormed (h : s.WellFormed ctx) (a : Action) : (s.step ctx a).WellFormed ctx := by
  cases a with
  | request r => exact (Obeys.run (r.obeys ctx) h).2
  | env e => exact envStep_wellFormed h e
  | setRuntimeConfig config => exact h.setRuntimeConfig config

theorem runActs_wellFormed (h : s.WellFormed ctx) (acts : List Action) :
    (runActs (step ctx) acts s).WellFormed ctx :=
  run_invariant (I := WellFormed ctx) (fun _ a hs _ => step_wellFormed hs a) acts s h
    (good_true acts s)

theorem Reachable.wellFormed {mode : KvState} (h : Reachable ctx mode s) : s.WellFormed ctx := by
  obtain ⟨config, hasReplica, pg, acts, _, _, rfl⟩ := h
  exact runActs_wellFormed (fresh_wellFormed config hasReplica pg) acts

theorem Reached.wellFormed (h : Reached ctx s) : s.WellFormed ctx := by
  obtain ⟨config, hasReplica, pg, acts, rfl⟩ := h
  exact runActs_wellFormed (fresh_wellFormed config hasReplica pg) acts

/-- No call changes the runtime configuration. -/
@[simp] theorem run_runtimeConfig {α : Type} (p : App α) (s : Store) :
    (p.run Store.exec s).2.runtimeConfig = s.runtimeConfig := by
  refine Prog.run_preserves Store.exec (I := fun s' => s'.runtimeConfig = s.runtimeConfig)
    (fun s' c hs' => ?_) p rfl
  cases c <;> simp only [exec] <;> try exact hs'
  split <;> exact hs'
  split <;> exact hs'

theorem runActs_runtimeConfig (acts : List Action) :
    ∀ s : Store, (∀ config', Action.setRuntimeConfig config' ∉ acts) →
      (runActs (step ctx) acts s).runtimeConfig = s.runtimeConfig := by
  induction acts with
  | nil => intro s _; rfl
  | cons a acts ih =>
    intro s hacts
    rw [runActs_cons, ih _ fun config' h => hacts config' (List.mem_cons_of_mem _ h)]
    cases a with
    | request r => simp [step]
    | env e => simp [step]
    | setRuntimeConfig config' => exact absurd List.mem_cons_self (hacts config')

/-- A run without configuration changes stays in its mode. -/
theorem Reachable.mode_eq {mode : KvState} (h : Reachable ctx mode s) : s.mode = mode := by
  obtain ⟨config, hasReplica, pg, acts, hmode, hacts, rfl⟩ := h
  rw [← hmode]
  exact mode_congr (runActs_runtimeConfig acts _ hacts)

variable (ctx) in
/-- A store that a run without further changes reaches after the mode of a
    reachable store became `SoftKill`. -/
def SoftKilled (s : Store) : Prop :=
  ∃ s₀ useReplica, ∃ acts : List Action, Reachable ctx .enabled s₀ ∧
    (∀ config', Action.setRuntimeConfig config' ∉ acts) ∧
    s = runActs (step ctx) acts { s₀ with runtimeConfig := some ⟨.softKill, useReplica⟩ }

theorem SoftKilled.wellFormed (h : SoftKilled ctx s) : s.WellFormed ctx := by
  obtain ⟨s₀, useReplica, acts, hs₀, _, rfl⟩ := h
  exact runActs_wellFormed (hs₀.wellFormed.setRuntimeConfig _) acts

theorem SoftKilled.mode_eq (h : SoftKilled ctx s) : s.mode = .softKill := by
  obtain ⟨s₀, useReplica, acts, _, hacts, rfl⟩ := h
  exact mode_congr (runActs_runtimeConfig acts _ hacts)

/-! ## What a call leaves behind -/

variable (ctx)

/-- A row inserted under the only key that Redis knows it by. -/
def insertRow (s : Store) (key : PartitionKey) (row : Row) (stmt : StorageScheme → Statement)
    (entityType : String) : Store :=
  if s.mode = .enabled then
    match s.cached key with
    | some _ => s
    | none => s.write ctx key row ⟨stmt .redisKv, entityType, .insert⟩
  else { s with pg := s.pg.apply (stmt .postgresOnly) }

/-- A new locker: the lookup record first, then the row. -/
def insertLocker (s : Store) (new : LockerNew) : Store :=
  if s.mode = .enabled then
    match s.cached (.reverseLookup new.hashKey.getLookupKey.lookupId) with
    | some _ => s
    | none =>
      match s.cached new.primaryKey.getPartitionKey with
      | some _ => s.writeLookup ctx new
      | none => (s.writeLookup ctx new).writeLocker ctx new
  else { s with pg := s.pg.apply (.insertLocker { new with updatedBy := some .postgresOnly }) }

/-- The visible vault row with an update applied. -/
def updateVault (s : Store) (pk : VaultPrimaryKey) (update : VaultUpdate) : Store :=
  if s.ThroughRedis pk.getPartitionKey then
    match s.visibleVault pk with
    | some current => s.rewriteVault ctx pk update current
    | none => s
  else { s with pg := s.pg.apply (.updateVault pk { update with updatedBy := .postgresOnly }) }

/-- What a call leaves behind. -/
def after (s : Store) : Request → Store
  | .insertVault new =>
    s.insertRow ctx new.primaryKey.getPartitionKey
      (.vault { new.toVaultNewInner with updatedBy := some .redisKv }.toVaultInner)
      (fun scheme => .insertVault { new.toVaultNewInner with updatedBy := some scheme })
      Resource.vault.entityType
  | .updateVaultData vaultId entityId update => s.updateVault ctx ⟨entityId, vaultId⟩ update
  | .deleteFromVault vaultId entityId =>
    s.remove ctx (.vault entityId vaultId)
      ⟨.deleteVault ⟨entityId, vaultId⟩, Resource.vault.entityType, .delete⟩
  | .insertLocker new => s.insertLocker ctx new
  | .deleteLocker lockerId merchantId customerId =>
    s.deleteLocker ctx ⟨lockerId, merchantId, customerId⟩
  | .insertHash uuid now dataHash =>
    s.insertRow ctx (.hashTable dataHash)
      (.hashTable (HashTableNew.toHashTable ⟨uuid, dataHash, now, some .redisKv⟩))
      (fun scheme => .insertHashTable ⟨uuid, dataHash, now, some scheme⟩)
      Resource.hashTable.entityType
  | .insertFingerprint fingerprintHash fingerprintId =>
    s.insertRow ctx (.fingerprint fingerprintHash)
      (.fingerprint (FingerprintTableNew.toFingerprint
        ⟨fingerprintHash, fingerprintId, some .redisKv⟩))
      (fun scheme => .insertFingerprint ⟨fingerprintHash, fingerprintId, some scheme⟩)
      Resource.fingerprint.entityType
  | .findByVaultIdEntityId .. | .findByLockerIdMerchantIdCustomerId ..
  | .findOptionalByHashIdMerchantIdCustomerId .. | .findOptionalByDataHash _
  | .findOptionalByFingerprintHash _ => s

theorem run_insertResource_after {M : KvResource} (hM : M.Spec) (s : Store) (new : M.DieselNew)
    (key : PartitionKey) :
    ((insertResource ctx M new key).run exec s).2 =
      s.insertRow ctx key (M.serialize (M.intoEntity (M.setStorageScheme new .redisKv)))
        (fun scheme => hM.insertStatement (M.setStorageScheme new scheme))
        M.resource.entityType := by
  unfold insertRow
  split_ifs with hmode
  · rw [run_insertResource_enabled ctx s hM hmode]
    cases s.cached key <;> rfl
  · obtain ⟨reply, hrun, -⟩ := hM.run_storageInsert (M.setStorageScheme new .postgresOnly) s
    rw [run_insertResource_postgresOnly ctx s hmode, hrun]

variable {ctx}

theorem cached_eq_none_of_not_throughRedis {key : PartitionKey} (h : ¬ s.ThroughRedis key) :
    s.mode = .disabled ∨ s.mode = .softKill ∧ s.cached key = none := by
  simp only [ThroughRedis, not_or, not_and, Option.not_isSome_iff_eq_none] at h
  cases hmode : s.mode with
  | disabled => exact Or.inl rfl
  | enabled => exact absurd hmode h.1
  | softKill => exact Or.inr ⟨rfl, h.2 hmode⟩

/-- The program of a call leaves behind what `after` says. -/
theorem step_request (hs : s.WellFormed ctx) (r : Request) :
    s.step ctx (.request r) = s.after ctx r := by
  have happ : ∀ {α : Type} (p : App α),
      ((p.mapResult fun _ => ()).run exec s).2 = (p.run exec s).2 :=
    fun p => congrArg Prod.snd (Prog.run_mapResult exec _ p s)
  cases r with
  | insertVault new => exact (happ _).trans (run_insertResource_after ctx Vault.spec s _ _)
  | updateVaultData vaultId entityId update =>
    refine (happ _).trans ?_
    change _ = s.updateVault ctx ⟨entityId, vaultId⟩ update
    unfold updateVault
    split_ifs with h
    · rw [run_updateVaultData_redisKv ctx s hs ⟨entityId, vaultId⟩ h update]
      cases s.visibleVault ⟨entityId, vaultId⟩ <;> rfl
    · rw [run_updateVaultData_postgresOnly ctx s ⟨entityId, vaultId⟩
        (cached_eq_none_of_not_throughRedis h) update]
  | deleteFromVault vaultId entityId =>
    obtain ⟨count, hrun⟩ := run_deleteFromVault ctx s hs ⟨entityId, vaultId⟩
    exact (happ _).trans (congrArg Prod.snd hrun)
  | insertLocker new =>
    refine (happ _).trans ?_
    change _ = s.insertLocker ctx new
    unfold insertLocker
    split_ifs with h
    · refine (congrArg Prod.snd (run_insertLocker_enabled ctx s h new)).trans ?_
      cases s.cached (.reverseLookup new.hashKey.getLookupKey.lookupId) with
      | some _ => rfl
      | none => cases s.cached new.primaryKey.getPartitionKey <;> rfl
    · exact congrArg Prod.snd (run_insertLocker_postgresOnly ctx s h new)
  | deleteLocker lockerId merchantId customerId =>
    obtain ⟨count, hrun⟩ := run_deleteLocker ctx s hs ⟨lockerId, merchantId, customerId⟩
    exact (happ _).trans (congrArg Prod.snd hrun)
  | insertHash uuid now dataHash =>
    exact (happ _).trans (run_insertResource_after ctx HashTable.spec s _ _)
  | insertFingerprint fingerprintHash fingerprintId =>
    exact (happ _).trans (run_insertResource_after ctx Fingerprint.spec s _ _)
  | findByVaultIdEntityId vaultId entityId =>
    exact (happ _).trans (congrArg Prod.snd
      (run_findByVaultIdEntityId ctx s hs ⟨entityId, vaultId⟩))
  | findByLockerIdMerchantIdCustomerId lockerId merchantId customerId =>
    exact (happ _).trans (congrArg Prod.snd (Prog.run_mapResult_of
      (run_findResourceByIdInner ctx s Locker.spec ⟨lockerId, merchantId, customerId⟩) _))
  | findOptionalByHashIdMerchantIdCustomerId hashId merchantId customerId =>
    exact (happ _).trans (congrArg Prod.snd (Prog.run_mapResult_of
      (run_findResourceByLookupId ctx s hs ⟨hashId, merchantId, customerId⟩) _))
  | findOptionalByDataHash dataHash =>
    exact (happ _).trans (congrArg Prod.snd
      (run_findOptionalResourceById ctx s HashTable.spec dataHash))
  | findOptionalByFingerprintHash fingerprintHash =>
    exact (happ _).trans (congrArg Prod.snd
      (run_findOptionalResourceById ctx s Fingerprint.spec fingerprintHash))

/-! ## Quiet steps -/

/-- A find changes nothing. -/
theorem step_find (hs : s.WellFormed ctx) {r : Request} (hr : r.isFind = true) :
    s.step ctx (.request r) = s := by
  rw [step_request hs]
  cases r <;> first | rfl | cases hr

/-- Finds in between do not matter: what holds after every run of quiet steps is
    what holds whatever the environment does. -/
theorem forall_quiet_iff (hs : s.WellFormed ctx) {P : Store → Prop} :
    (∀ acts : List Action, (∀ a ∈ acts, a.isQuiet = true) → P (runActs (step ctx) acts s)) ↔
      ∀ steps, P (s.settle ctx steps) := by
  constructor
  · intro h steps
    have hrun : ∀ (steps : List EnvStep) (s : Store),
        runActs (step ctx) (steps.map Action.env) s = s.settle ctx steps := by
      intro steps
      induction steps with
      | nil => intro s; rfl
      | cons e steps ih => intro s; exact ih _
    rw [← hrun]
    exact h _ fun a ha => by
      obtain ⟨e, _, rfl⟩ := List.mem_map.1 ha
      rfl
  · intro h acts
    induction acts generalizing s with
    | nil => exact fun _ => h []
    | cons a acts ih =>
      intro hacts
      have hrest := fun b hb => hacts b (List.mem_cons_of_mem a hb)
      cases a with
      | request r =>
        rw [runActs_cons, step_find hs (hacts _ List.mem_cons_self)]
        exact ih hs h hrest
      | env e => exact ih (envStep_wellFormed hs e) (fun steps => h (e :: steps)) hrest
      | setRuntimeConfig config => cases hacts _ List.mem_cons_self

/-! ## The mode without Redis -/

/-- Without Redis, a call changes Postgres only. -/
theorem after_disabled (hmode : s.mode = .disabled) (r : Request) :
    ∃ pg, s.after ctx r = { s with pg } := by
  have hremove : ∀ (s : Store) key query, s.mode = .disabled →
      ∃ pg, s.remove ctx key query = { s with pg } := fun s key query hmode =>
    ⟨_, if_neg (by simp [ThroughRedis, hmode])⟩
  have hne : s.mode ≠ .enabled := by simp [hmode]
  cases r with
  | insertVault new => exact ⟨_, if_neg hne⟩
  | updateVaultData vaultId entityId update => exact ⟨_, if_neg (by simp [ThroughRedis, hmode])⟩
  | deleteFromVault vaultId entityId => exact hremove s _ _ hmode
  | insertLocker new => exact ⟨_, if_neg hne⟩
  | deleteLocker lockerId merchantId customerId =>
    obtain ⟨pg, hpg⟩ := hremove s (LockerPrimaryKeyType.getPartitionKey
      ⟨lockerId, merchantId, customerId⟩) _ hmode
    change ∃ pg, s.deleteLocker ctx ⟨lockerId, merchantId, customerId⟩ = { s with pg }
    unfold deleteLocker removeLocker
    rw [hpg]
    split
    · obtain ⟨pg', hpg'⟩ := hremove { s with pg } _ _ hmode
      exact ⟨pg', hpg'⟩
    · exact ⟨pg, rfl⟩
  | insertHash uuid now dataHash => exact ⟨_, if_neg hne⟩
  | insertFingerprint fingerprintHash fingerprintId => exact ⟨_, if_neg hne⟩
  | _ => exact ⟨s.pg, rfl⟩

theorem runActs_disabled (acts : List Action) :
    ∀ s : Store, s.WellFormed ctx → s.mode = .disabled →
      (∀ config', Action.setRuntimeConfig config' ∉ acts) → (∀ stream, s.streams stream = []) →
        ∀ stream, (runActs (step ctx) acts s).streams stream = [] := by
  induction acts with
  | nil => exact fun s _ _ _ h => h
  | cons a acts ih =>
    intro s hs hmode hacts hstreams
    have hrest := fun config' h => hacts config' (List.mem_cons_of_mem a h)
    have hs' := step_wellFormed hs a
    cases a with
    | request r =>
      obtain ⟨pg, hafter⟩ := after_disabled  hmode r
      rw [runActs_cons]
      rw [step_request hs, hafter] at hs' ⊢
      exact ih _ hs' hmode hrest hstreams
    | env e =>
      refine ih _ hs' ((mode_congr (envStep_runtimeConfig s e)).trans hmode) hrest fun stream => ?_
      cases e with
      | drain stream' =>
        have hsuffix : (s.replay.drain replayEntry stream').queues stream <:+ _ :=
          Replay.drain_suffix s.replay stream' stream
        rw [show s.replay.queues stream = [] from hstreams stream, List.suffix_nil] at hsuffix
        exact hsuffix
      | expire key => exact (congrFun (expire_streams s ctx key) stream).trans (hstreams stream)
    | setRuntimeConfig config' => exact absurd List.mem_cons_self (hacts config')

/-- Without Redis, nothing is ever queued. -/
theorem Reachable.streams_eq_nil (h : Reachable ctx .disabled s) (stream : String) :
    s.streams stream = [] := by
  obtain ⟨config, hasReplica, pg, acts, hmode, hacts, rfl⟩ := h
  exact runActs_disabled acts _ (fresh_wellFormed config hasReplica pg) hmode hacts
    (fun _ => rfl) stream

/-! ## Small runs -/

theorem reachable_of_acts (acts : List Action)
    (hacts : ∀ config', Action.setRuntimeConfig config' ∉ acts) :
    Reachable ctx .enabled (runActs (step ctx) acts emptyStore) :=
  ⟨some ⟨.enabled, false⟩, false, Pg.empty, acts, rfl, hacts, rfl⟩

/-- Records of one vault row that differ in their data. -/
def recordOf (data : UInt8) : VaultNew :=
  { vaultId := "card", entityId := "merchant", encryptedData := [data], createdAt := ⟨0⟩
    expiresAt := none, updatedBy := .postgresOnly }

/-- Lockers of one customer. -/
def lockerOf (lockerId hashId : String) : LockerNew :=
  { lockerId, merchantId := "merchant", customerId := "customer", encData := [1], createdAt := ⟨0⟩
    hashId, ttl := none, updatedBy := none }

/-- A turn of the drainer on the stream of that vault row. -/
def drainRecord : Action :=
  .env (.drain (KvStoreContext.default.stream (recordOf 0).primaryKey.getPartitionKey))

/-- A locker inserted and drained. -/
def drainedLockerActs : List Action :=
  [.request (.insertLocker (lockerOf "card" "hash")), .env (.drain
    (KvStoreContext.default.stream (lockerOf "card" "hash").primaryKey.getPartitionKey))]

/-- The vault row inserted and drained, and its Redis key expired. -/
def expiredActs : List Action :=
  [.request (.insertVault (recordOf 1)), drainRecord,
    .env (.expire (recordOf 1).primaryKey.getPartitionKey.display)]

end Store

end CardVault
