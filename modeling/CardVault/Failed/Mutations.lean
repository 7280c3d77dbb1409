import CardVault.Failed.Helpers

/-!
# Failed updates and deletes

Nothing is rolled back: `kv_wrapper` writes to Redis first and then appends to the
stream (`src/src/storage/kv/wrapper.rs`, lines 160–214). An update or a delete of a
vault row that returns an error has done nothing, or has changed the Redis row but
not the stream, or has done all that a call does that succeeds.

Main results:
* `halts_updateVault`, `halts_deleteVault`: the two writes of a mutation.
* `failed_mutation`: what a mutation that fails leaves behind.
-/

namespace CardVault

open Interaction

/-- What a call leaves of `s` that is to make the two writes `write` and `queue`, and
    so to reach `s₁`, when it fails; `done` are its calls that took effect. -/
structure Unfinished (write queue : Cmd) (s s₁ : Store) (done : List Cmd) (s' : Store) : Prop where
  nothing : write ∉ done → s' = s
  half : write ∈ done → queue ∉ done → s' = { s with redis := s₁.redis }
  whole : queue ∈ done → s' = s₁

/-- A program that halts and makes two writes when nothing fails, one to Redis and
    then one to a stream. -/
theorem Halts.unfinished {ε α : Type} {P : ε → Prop} {p : App (Except ε α)} {s s₁ s' : Store}
    {write queue : Cmd} {done : List Cmd} {e : ε} {a : α} (h : Halts P p s [write, queue])
    (hrun : p.run Store.exec s = (.ok a, s₁))
    (ho : Outcomes StorageFailure p s done (.error e) s') (hwrite : write.isWrite = true)
    (hqueue : queue.isWrite = true) (hne : write ≠ queue)
    (hhalf : (s.exec write).2 = { s with redis := s₁.redis })
    (hwhole : ((s.exec write).2.exec queue).2 = s₁) : Unfinished write queue s s₁ done s' := by
  have hmem : ∀ {c : Cmd}, c.isWrite = true → (c ∈ done ↔ c ∈ done.filter Cmd.isWrite) := by
    intro c hc
    rw [List.mem_filter, and_iff_left hc]
  rcases h.outcome ho with ⟨hok, -⟩ | ⟨-, hpre, hs'⟩
  · cases hrun.symm.trans hok
  · generalize done.filter Cmd.isWrite = made at hmem hpre hs'
    obtain ⟨rest, hrest⟩ := hpre
    rcases made with _ | ⟨c, _ | ⟨c', _ | ⟨c'', made⟩⟩⟩
    · -- neither write was made
      refine ⟨fun _ => hs', fun h => ?_, fun h => ?_⟩
      · cases (hmem hwrite).1 h
      · cases (hmem hqueue).1 h
    · obtain ⟨rfl, -⟩ : c = write ∧ rest = [queue] := by simpa using hrest
      refine ⟨fun h => absurd ((hmem hwrite).2 List.mem_cons_self) h, fun _ _ => ?_, fun h => ?_⟩
      · exact hs'.trans hhalf
      · rcases List.mem_singleton.1 ((hmem hqueue).1 h)
        exact absurd rfl hne
    · obtain ⟨rfl, rfl, -⟩ : c = write ∧ c' = queue ∧ rest = [] := by simpa using hrest
      refine ⟨fun h => absurd ((hmem hwrite).2 List.mem_cons_self) h, fun _ h => ?_, fun _ => ?_⟩
      · exact absurd ((hmem hqueue).2 (List.mem_cons_of_mem _ List.mem_cons_self)) h
      · exact hs'.trans hwhole
    · simp at hrest

section Vault

variable (ctx : KvStoreContext) {s : Store} {pk : VaultPrimaryKey}

/-- The `HSET` of an update of the vault row `current`. -/
def hsetVault (pk : VaultPrimaryKey) (change : VaultUpdate) (current : VaultInner) : Cmd :=
  .setHashFields pk.getPartitionKey.display pk.getPartitionKey.display
    (.vault (VaultInner.fromUpdate { change with updatedBy := .redisKv } current))
    ctx.kvConfig.ttlForKv

/-- The entry of an update of a vault row. -/
def queueUpdateVault (pk : VaultPrimaryKey) (change : VaultUpdate) : Cmd :=
  queueEntry ctx pk.getPartitionKey
    ⟨.updateVault pk { change with updatedBy := .redisKv }, Resource.vault.entityType, .update⟩

/-- The `HDEL` of a delete of a vault row. -/
def hdelVault (pk : VaultPrimaryKey) : Cmd :=
  .deleteHashFields pk.getPartitionKey.display pk.getPartitionKey.display

/-- The query that a delete of a vault row queues. -/
def deleteVaultQuery (pk : VaultPrimaryKey) : SerializableQuery :=
  ⟨.deleteVault pk, Resource.vault.entityType, .delete⟩

/-- An update that goes through Redis and fails. -/
theorem unfinished_updateVault (hs : s.WellFormed ctx) (h : s.ThroughRedis pk.getPartitionKey)
    (change : VaultUpdate) {done : List Cmd} {e : VaultDBError} {s' : Store}
    (ho : Outcomes StorageFailure (updateResourceById ctx Vault.kvUpdatableResource change pk) s
      done (.error e) s') :
    s' = s ∨ ∃ current, s.visibleVault pk = some current ∧
      Unfinished (hsetVault ctx pk change current) (queueUpdateVault ctx pk change) s
        (s.rewriteVault ctx pk change current) done s' := by
  have hupdate : Halts (fun _ => True) (Vault.kvUpdatableResource.storageUpdate
      { change with updatedBy := .postgresOnly } pk) s _ :=
    (halts_executeOnPrimary (.updateVault pk { change with updatedBy := .postgresOnly }) s).map _
  have hhalts := halts_updateResourceById ctx Vault.updatableSpec hs change pk
    (halts_find ctx .vault pk s) hupdate
  have hanswer := answer_visibleVault ctx s hs pk
  have hrun := run_updateVaultData_redisKv ctx s hs pk h change
  rw [if_pos h] at hhalts
  cases hv : s.visibleVault pk with
  | none =>
    rw [hv] at hanswer hrun
    rw [show Vault.kvUpdatableResource.answer
      (s.visible (Vault.kvUpdatableResource.getPartitionKey pk)) = _ from hanswer] at hhalts
    rcases hhalts.outcome ho with ⟨hok, -⟩ | ⟨-, hpre, hs'⟩
    · exact Or.inl (congrArg Prod.snd (hok.symm.trans hrun))
    · rw [List.prefix_nil.1 hpre] at hs'
      exact Or.inl hs'
  | some current =>
    rw [hv] at hanswer hrun
    rw [show Vault.kvUpdatableResource.answer
      (s.visible (Vault.kvUpdatableResource.getPartitionKey pk)) = _ from hanswer] at hhalts
    refine Or.inr ⟨current, rfl, Halts.unfinished hhalts hrun ho rfl rfl ?_ rfl rfl⟩
    exact Cmd.noConfusion

/-- A delete that goes through Redis and fails. -/
theorem unfinished_deleteVault (hs : s.WellFormed ctx) (h : s.ThroughRedis pk.getPartitionKey)
    {done : List Cmd} {e : VaultDBError} {s' : Store}
    (ho : Outcomes StorageFailure (deleteResourceById ctx Vault.kvDeletableResource pk) s
      done (.error e) s') :
    Unfinished (hdelVault pk) (queueEntry ctx pk.getPartitionKey (deleteVaultQuery pk)) s
      (s.erase ctx pk.getPartitionKey (deleteVaultQuery pk)) done s' := by
  have hhalts := halts_deleteResourceByIdInner ctx Vault.deletableSpec hs pk
    (halts_executeOnPrimary (.deleteVault pk) s)
  obtain ⟨count, hrun⟩ := run_deleteFromVault ctx s hs pk
  rw [if_pos h] at hhalts
  rw [Store.remove, if_pos h] at hrun
  exact Halts.unfinished hhalts hrun ho rfl rfl Cmd.noConfusion rfl rfl

/-- The calls of a statement on Postgres are no calls of Redis. -/
theorem reliable_executeOnPrimary {E : Type} [StorageErrorExt E] (stmt : Statement) :
    (executeOnPrimary E stmt).Issues fun c => ∀ r, ¬ RedisFailure c r := by
  have hcall : ∀ c : Cmd, c.isRedis = false → ∀ r, ¬ RedisFailure c r := by
    intro c hc r hfail
    rw [hfail.2] at hc
    cases hc
  exact Prog.Issues.andThen (Prog.Issues.mapResult (Prog.issues_perform (hcall _ rfl)))
    fun _ => Prog.Issues.mapResult (Prog.issues_perform (hcall _ rfl))

/-- A mutation that goes to Postgres has failed while it was deciding, or runs as
    without failures. -/
theorem outcome_onPostgres {α : Type} (hs : s.WellFormed ctx)
    (h : ¬ s.ThroughRedis pk.getPartitionKey)
    {f : StorageScheme × Option VaultInner → App (Except VaultDBError α)}
    {done : List Cmd} {e : VaultDBError} {s' : Store}
    (hf : ∀ cached, (f (.postgresOnly, cached)).Issues fun c => ∀ r, ¬ RedisFailure c r)
    (ho : Outcomes RedisFailure ((decideStorageSchemeForMutateOperation ctx Vault.kvResource
      pk.getPartitionKey).andThen f) s done (.error e) s') :
    s' = s ∨ ∃ cached, (f (.postgresOnly, cached)).run Store.exec s = (.error e, s') := by
  obtain ⟨cached, hrun, -⟩ := run_mutateScheme ctx Vault.spec hs
    (Vault.spec.getPartitionKey_resource pk)
  rw [if_neg h] at hrun
  obtain ⟨done₁, a, s₁, done₂, hscheme, hrest, -⟩ := Prog.Outcome.bind_inv ho
  rcases (halts_mutateScheme ctx Vault.spec.lawfulError pk.getPartitionKey s).outcome
    (Outcomes.storage hscheme) with ⟨hok, -⟩ | ⟨⟨e', rfl, -⟩, hpre, hs₁⟩
  · cases hrun.symm.trans hok
    exact Or.inr ⟨cached, Prog.Outcome.reliable (hf cached) hrest⟩
  · cases hrest
    rw [List.prefix_nil.1 hpre] at hs₁
    exact Or.inl hs₁

/-- An update or a delete of a vault row that returns an error, with Redis or a stream
    failing at any call. It has left the store as it was, so that later finds answer as
    without it; or it went through Redis and is unfinished: nothing was done as long as
    its `HSET` or `HDEL` did not take effect, only the Redis row is changed as long as
    the append did not, and with the append the store is that of a call that returns `Ok`. -/
theorem failed_mutation (hs : s.ReachedFailing ctx) (pk : VaultPrimaryKey) (change : VaultUpdate)
    (done : List Cmd) (e : VaultDBError) (s' : Store) :
    (Outcomes RedisFailure (updateResourceById ctx Vault.kvUpdatableResource change pk) s done
        (.error e) s' →
      s' = s ∨ s.ThroughRedis pk.getPartitionKey ∧ ∃ current, s.visibleVault pk = some current ∧
        Unfinished (hsetVault ctx pk change current) (queueUpdateVault ctx pk change) s
          (s.rewriteVault ctx pk change current) done s') ∧
    (Outcomes RedisFailure (deleteResourceById ctx Vault.kvDeletableResource pk) s done
        (.error e) s' →
      s' = s ∨ s.ThroughRedis pk.getPartitionKey ∧
        Unfinished (hdelVault pk) (queueEntry ctx pk.getPartitionKey (deleteVaultQuery pk)) s
          (s.erase ctx pk.getPartitionKey (deleteVaultQuery pk)) done s') := by
  have hwell := hs.wellFormed
  constructor
  · intro ho
    by_cases h : s.ThroughRedis pk.getPartitionKey
    · exact (unfinished_updateVault ctx hwell h change ho.storage).imp_right fun hc => ⟨h, hc⟩
    · refine Or.inl ?_
      rcases outcome_onPostgres ctx hwell h (fun _ => Prog.Issues.mapResult
        (reliable_executeOnPrimary _)) ho with hs' | ⟨cached, hrun⟩
      · exact hs'
      · have hupdate := hrun.symm.trans (Vault.run_storageUpdate
          { change with updatedBy := .postgresOnly } pk s)
        obtain ⟨he, hs'⟩ := Prod.mk.inj hupdate
        cases hexec : (s.pg.execute (.updateVault pk { change with
            updatedBy := .postgresOnly })).1 with
        | ok row =>
          rw [hexec] at he
          cases he
        | error err =>
          rw [hs', Pg.apply_of_update_error hexec]
  · intro ho
    by_cases h : s.ThroughRedis pk.getPartitionKey
    · exact Or.inr ⟨h, unfinished_deleteVault ctx hwell h ho.storage⟩
    · refine Or.inl ?_
      rcases outcome_onPostgres ctx hwell h (fun _ => reliable_executeOnPrimary _) ho
        with hs' | ⟨cached, hrun⟩
      · exact hs'
      · obtain ⟨count, hdelete⟩ := Vault.deletableSpec.run_storageDelete pk s
        cases hrun.symm.trans hdelete

end Vault

/-! ## An update whose append fails -/

/-- A store with one vault row, in Redis and in the stream. -/
def oneCard : Store :=
  runActs (Store.step .default) [.request (.insertVault (Store.recordOf 1))] Store.emptyStore

theorem oneCard_reached : oneCard.ReachedFailing .default :=
  (Store.emptyStore_reachedFailing _).runActs _

/-- An update of that row, whose last call is the append. -/
def updateOneCard : App (Except VaultDBError Vault) :=
  updateResourceById .default Vault.kvUpdatableResource ⟨[2], none, .redisKv⟩ ⟨"merchant", "card"⟩

/-- What the update comes to when the append fails. -/
def updateNotQueued : Except VaultDBError Vault × Store :=
  updateOneCard.failAt Store.exec appendFails 7 oneCard

theorem outcome_updateNotQueued :
    ∃ done e, Outcomes RedisFailure updateOneCard oneCard done (.error e) updateNotQueued.2 := by
  obtain ⟨done, ho⟩ := Prog.outcome_failAt redisFailure_appendFails 7 updateOneCard oneCard
  have herror : (updateOneCard.failAt Store.exec appendFails 7 oneCard).1 =
      .error .unknownError := by
    decide +kernel
  rw [herror] at ho
  exact ⟨done, _, ho⟩

theorem failed_mutation_notQueued :
    updateNotQueued.2 = oneCard ∨ ∃ done, oneCard.ThroughRedis (.vault "merchant" "card") ∧
      ∃ current, oneCard.visibleVault ⟨"merchant", "card"⟩ = some current ∧
        Unfinished (hsetVault .default ⟨"merchant", "card"⟩ ⟨[2], none, .redisKv⟩ current)
          (queueUpdateVault .default ⟨"merchant", "card"⟩ ⟨[2], none, .redisKv⟩) oneCard
          (oneCard.rewriteVault .default ⟨"merchant", "card"⟩ ⟨[2], none, .redisKv⟩ current) done
          updateNotQueued.2 := by
  obtain ⟨done, e, ho⟩ := outcome_updateNotQueued
  exact ((failed_mutation .default oneCard_reached ⟨"merchant", "card"⟩ ⟨[2], none, .redisKv⟩ done e
    updateNotQueued.2).1 ho).imp_right fun h => ⟨done, h⟩

/-- Not every update that fails leaves the Redis row and the streams as they were. -/
theorem failed_update_seen :
    ¬ ∀ (ctx : KvStoreContext) (s : Store) (pk : VaultPrimaryKey) (change : VaultUpdate)
      (done : List Cmd) (e : VaultDBError) (s' : Store), s.ReachedFailing ctx →
        (s.mode = .enabled ∨ s.mode = .softKill) →
          Outcomes RedisFailure (updateResourceById ctx Vault.kvUpdatableResource change pk) s done
            (.error e) s' →
          s'.cached pk.getPartitionKey = s.cached pk.getPartitionKey ∧ s'.streams = s.streams := by
  intro h
  obtain ⟨done, e, ho⟩ := outcome_updateNotQueued
  have hsame := (h .default oneCard ⟨"merchant", "card"⟩ ⟨[2], none, .redisKv⟩ done e _
    oneCard_reached (Or.inl rfl) ho).1
  exact absurd hsame (by decide +kernel)

end CardVault
