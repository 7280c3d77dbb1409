import CardVault.Failed.Calls

/-!
# The helpers, with calls that fail

What the generic helpers of `src/src/storage/kv/resource.rs` write, one call after
the other, and that each ends with its first failure.

Main results:
* `halts_updateResourceById`, `halts_deleteResourceByIdInner`: an update and a delete.
* `halts_insertResourceInner`: an insert, after the block that inserts the lookup
  record.
-/

namespace CardVault

open Interaction

variable (ctx : KvStoreContext) {s : Store}

/-- A statement on the primary pool. -/
theorem halts_executeOnPrimary {E : Type} [StorageErrorExt E] (stmt : Statement) (s : Store) :
    Halts (fun _ => True) (executeOnPrimary E stmt) s [.query .primary (.execute stmt)] := by
  have hconn : Halts (fun _ : E => True) getConn s [] := by
    have halways : (getConn : App (Except E DbPool)).Always Honest fun a t =>
        AnyFailed Vault.kvResource t → ∃ e, a = .error e ∧ True := by
      rintro r _ ⟨x, hx, hfailed⟩
      obtain rfl := List.mem_singleton.1 hx
      change (r : Except Unit Unit) = _ at hfailed
      subst hfailed
      exact ⟨_, rfl, trivial⟩
    exact halts_of_always Vault.kvResource halways reads_getConn (fun _ _ h => h) s
  refine Prog.Halts.andThen hconn (Store.run_getConn s) ?_
  refine halts_write s rfl _ ?_
  rintro _ ⟨e, rfl, -⟩
  exact ⟨_, rfl⟩

/-- An error of Redis stays an error. -/
theorem Halts.mapRedisError {E α : Type} [StorageErrorExt E] {p : App (Except RedisError α)}
    {writes : List Cmd} (h : Halts (fun _ => True) p s writes) (key : String) :
    Halts (fun _ : E => True) (p.mapResult (mapRedisError key)) s writes :=
  Prog.Halts.mapResult h fun r ⟨e, he, _⟩ => by
    subst he
    exact ⟨_, rfl, trivial⟩

/-- The scheme of an update or a delete, without failures; a row read on the way is
    the one that a find is about to answer. -/
theorem run_mutateScheme {M : KvResource} (hM : M.Spec) (hs : s.WellFormed ctx)
    {key : PartitionKey} (hkey : key.resource = some M.resource) :
    ∃ cached, (decideStorageSchemeForMutateOperation ctx M key).run Store.exec s =
        (.ok (if s.ThroughRedis key then .redisKv else .postgresOnly, cached), s) ∧
      ∀ e, cached = some e → M.answer (s.visible key) = .ok e := by
  rw [run_decideStorageSchemeForMutateOperation]
  cases hmode : s.mode with
  | disabled => exact ⟨none, by simp [Store.ThroughRedis, hmode], fun _ h => nomatch h⟩
  | enabled => exact ⟨none, by simp [Store.ThroughRedis, hmode], fun _ h => nomatch h⟩
  | softKill =>
    cases hc : s.cached key with
    | none => exact ⟨none, by simp [Store.ThroughRedis, hmode, hc], fun _ h => nomatch h⟩
    | some row =>
      obtain ⟨e, _, he⟩ := hM.exists_cached ctx hs hkey hc
      refine ⟨some e, by simp [Store.ThroughRedis, hmode, hc, he], fun _ h => ?_⟩
      cases h
      simp [Store.visible, hmode, hc, KvResource.answer, he]

/-- `delete_resource_by_id_inner`. -/
theorem halts_deleteResourceByIdInner {M : KvDeletableResource} (hM : M.Spec)
    (hs : s.WellFormed ctx) (pk : M.PrimaryKeyType) {writes : List Cmd}
    (hdelete : Halts (fun _ => True) (M.storageDelete pk) s writes) :
    Halts (fun _ => True) (deleteResourceByIdInner ctx M pk) s
      (if s.ThroughRedis (M.getPartitionKey pk) then
        deleteAndQueue ctx (M.getPartitionKey pk)
          ⟨hM.deleteStatement pk, M.resource.entityType, .delete⟩
      else writes) := by
  obtain ⟨cached, hrun, -⟩ :=
    run_mutateScheme ctx hM.toSpec hs (hM.getPartitionKey_resource pk)
  have hscheme := halts_mutateScheme ctx hM.lawfulError (M.getPartitionKey pk) s
  by_cases h : s.ThroughRedis (M.getPartitionKey pk)
  · rw [if_pos h] at hrun ⊢
    refine Prog.Halts.andThen (hscheme.weaken fun _ _ => trivial) hrun ?_
    simp only [hM.generateDeleteDrainerQuery_eq, mapKvError, Prog.pure_ok_andThen]
    have hwrite : Halts (fun _ : M.Error => True) _ s _ :=
      (halts_kvWrapper_hDel ctx (fun _ => (none : Option Unit)) (M.getPartitionKey pk)
        ⟨hM.deleteStatement pk, M.resource.entityType, .delete⟩ s).mapRedisError
          (M.getPartitionKey pk).display
    exact Prog.Halts.andThen hwrite (Prog.run_mapResult_of (run_kvWrapper_hDel ..) _)
      (Prog.halts_pure _ _)
  · rw [if_neg h] at hrun ⊢
    exact Prog.Halts.andThen (hscheme.weaken fun _ _ => trivial) hrun hdelete

/-- `update_resource_by_id`, applied to the row that a find is about to answer. -/
theorem halts_updateResourceById {M : KvUpdatableResource} (hM : M.Spec) (hs : s.WellFormed ctx)
    (change : M.DieselUpdate) (pk : M.PrimaryKeyType) {writes : List Cmd}
    (hfind : Halts Loud (findResourceByIdInner ctx M.toKvResource pk) s [])
    (hupdate : Halts (fun _ => True)
      (M.storageUpdate (M.setUpdateStorageScheme change .postgresOnly) pk) s writes) :
    Halts (fun _ => True) (updateResourceById ctx M change pk) s
      (if s.ThroughRedis (M.getPartitionKey pk) then
        match M.answer (s.visible (M.getPartitionKey pk)) with
        | .error _ => []
        | .ok current => setAndQueue ctx (M.getPartitionKey pk)
          (M.serialize (M.applyUpdate (M.setUpdateStorageScheme change .redisKv) current))
          ⟨hM.updateStatement (M.setUpdateStorageScheme change .redisKv) pk,
            M.resource.entityType, .update⟩
      else writes) := by
  obtain ⟨cached, hrun, hcached⟩ :=
    run_mutateScheme ctx hM.toSpec hs (hM.getPartitionKey_resource pk)
  have hscheme : Halts (fun _ => True)
      (decideStorageSchemeForMutateOperation ctx M.toKvResource (M.getPartitionKey pk)) s [] :=
    (halts_mutateScheme ctx hM.lawfulError (M.getPartitionKey pk) s).weaken fun _ _ => trivial
  by_cases h : s.ThroughRedis (M.getPartitionKey pk)
  · rw [if_pos h] at hrun ⊢
    have hcurrent : Halts (fun _ => True) (currentEntity ctx M.toKvResource pk cached) s [] ∧
        (currentEntity ctx M.toKvResource pk cached).run Store.exec s =
          (M.answer (s.visible (M.getPartitionKey pk)), s) := by
      cases hc : cached with
      | none =>
        exact ⟨hfind.weaken fun _ _ => trivial, run_findResourceByIdInner ctx s hM.toSpec pk⟩
      | some e =>
        rw [hcached e hc]
        exact ⟨Prog.halts_pure _ _, rfl⟩
    obtain ⟨hcurrent, hanswer⟩ := hcurrent
    cases hv : M.answer (s.visible (M.getPartitionKey pk)) with
    | error e =>
      rw [hv] at hanswer
      exact Prog.Halts.andThen hscheme hrun (Prog.Halts.andThen_error hcurrent hanswer)
    | ok current =>
      rw [hv] at hanswer
      refine Prog.Halts.andThen hscheme hrun (Prog.Halts.andThen hcurrent hanswer ?_)
      simp only [hM.generateUpdateDrainerQuery_eq, mapKvError, Prog.pure_ok_andThen]
      have hwrite : Halts (fun _ : M.Error => True) _ s _ :=
        (halts_kvWrapper_hset ctx (fun _ => (none : Option Unit)) (M.getPartitionKey pk)
          (M.serialize (M.applyUpdate (M.setUpdateStorageScheme change .redisKv) current))
          ⟨hM.updateStatement (M.setUpdateStorageScheme change .redisKv) pk,
            M.resource.entityType, .update⟩ s).mapRedisError (M.getPartitionKey pk).display
      exact Prog.Halts.andThen hwrite (Prog.run_mapResult_of (run_kvWrapper_hset ..) _)
        (Prog.halts_pure _ _)
  · rw [if_neg h] at hrun ⊢
    exact Prog.Halts.andThen hscheme hrun hupdate

/-- `insert_resource_inner` in the mode that writes to Redis. -/
theorem halts_insertResourceInner_enabled {M : KvResource} (hM : M.Spec) (hmode : s.mode = .enabled)
    (new : M.DieselNew) (key : PartitionKey)
    (insertLookup : M.DieselNew → StorageScheme → App (Except M.Error Unit))
    {lookupWrites : List Cmd} (hlookup : Halts (fun _ => True)
      (insertLookup (M.setStorageScheme new .redisKv) .redisKv) s lookupWrites) :
    Halts (fun _ => True) (insertResourceInner ctx M new key insertLookup) s
      (match (insertLookup (M.setStorageScheme new .redisKv) .redisKv).run Store.exec s with
      | (.error _, _) => lookupWrites
      | (.ok _, s') => lookupWrites ++ setNxWrites ctx key
        (M.serialize (M.intoEntity (M.setStorageScheme new .redisKv)))
        ⟨hM.insertStatement (M.setStorageScheme new .redisKv), M.resource.entityType, .insert⟩
        s') := by
  have hsettings : decideStorageSchemeForInsertOperation.Halts Store.exec StorageFailure Cmd.isWrite
      (fun _ => False) s [] := by
    have hmode := Prog.Always.halts (P := fun _ => False) (kvSettings_always M)
      (reads_kvSettings.mono fun c hc => isWrite_of_quiet hc) honest_exec StorageFailure.honest
      (fun _ t ht ⟨x, hx, hfail⟩ => ht ⟨x, hx, StorageFailure.failed M hfail⟩) s
    exact Prog.Halts.mapResult hmode fun _ h => h
  have hdecide : decideStorageSchemeForInsertOperation.run Store.exec s = (.redisKv, s) := by
    rw [run_decideStorageSchemeForInsertOperation, if_pos hmode]
  refine Prog.Halts.bind hsettings (fun _ h => h.elim) hdecide ?_
  simp only [hM.generateInsertDrainerQuery_eq, mapKvError, Prog.pure_ok_andThen]
  cases hrun : (insertLookup (M.setStorageScheme new .redisKv) .redisKv).run Store.exec s with
  | mk reply s' =>
    cases reply with
    | error e => exact Prog.Halts.andThen_error hlookup hrun
    | ok _ =>
      refine Prog.Halts.andThen hlookup hrun ?_
      have hwrite : Halts (fun _ : M.Error => True) _ s' _ :=
        (halts_kvWrapper_hSetNx ctx (fun _ => (none : Option Unit)) key
          (M.serialize (M.intoEntity (M.setStorageScheme new .redisKv)))
          ⟨hM.insertStatement (M.setStorageScheme new .redisKv), M.resource.entityType, .insert⟩
          s').mapRedisError key.display
      have hkv := run_kvWrapper_hSetNx ctx (fun _ => (none : Option Unit)) s' key
        ⟨hM.insertStatement (M.setStorageScheme new .redisKv), M.resource.entityType, .insert⟩
        key.display (M.serialize (M.intoEntity (M.setStorageScheme new .redisKv)))
      unfold setNxWrites at hwrite ⊢
      rw [show s'.redis key.display key.display = s'.cached key from rfl] at hkv
      cases hc : s'.cached key with
      | some row =>
        rw [hc] at hkv hwrite
        exact Prog.Halts.andThen hwrite (Prog.run_mapResult_of hkv _) (Prog.halts_pure _ _)
      | none =>
        rw [hc] at hkv hwrite
        exact Prog.Halts.andThen hwrite (Prog.run_mapResult_of hkv _) (Prog.halts_pure _ _)

end CardVault
