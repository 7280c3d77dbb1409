import CardVault.Kv.Impls

/-!
# Resources with a reverse lookup

The methods of `Storage` on the `reverse_lookup` table
(`src/src/storage/db.rs`), and the helpers of `src/src/storage/kv/resource.rs`
that resolve a secondary key through it, with the locker as their one resource.

The lookup record of a locker is written before the row and resolves to the text
of the row's key. The row that is found under that key is answered as it is.

Main results, for a helper that runs with nothing in between:
* `run_insertLocker_enabled`, `run_insertLocker_postgresOnly`: an insert.
* `run_findResourceByLookupId`: what a find by lookup id answers.
* `run_deleteLocker`: a delete, with the lookup record of the row it found.
-/

namespace CardVault

open Interaction

/-! ## ReverseLookupInterface -/

section Interface

variable (store : KvStoreContext)

/-- `find_by_lookup_id`. -/
def findByLookupId (lookupId : String) : App (Except ReverseLookupDBError ReverseLookup) :=
  findResourceById store ReverseLookup.kvResource lookupId

/-- `insert_reverse_lookup`. -/
def insertReverseLookup (new : ReverseLookupNew) :
    App (Except ReverseLookupDBError ReverseLookup) :=
  insertResource store ReverseLookup.kvResource new (.reverseLookup new.lookupId)

/-- `delete_reverse_lookup`. -/
def deleteReverseLookup (lookupId : String) : App (Except ReverseLookupDBError ℕ) :=
  deleteResourceById store ReverseLookup.kvDeletableResource lookupId

end Interface

/-! ## The traits -/

/-- `KvDeletableWithLookup`. -/
structure KvDeletableWithLookup extends KvDeletableResource where
  getReverseLookupKeyFromResource : Model → ReverseLookupKey

/-- `KvSecondaryLookupResource`. -/
structure KvSecondaryLookupResource extends KvResource where
  LookupKeyType : Type
  /-- `LookupKeyType: GetLookupKey` -/
  getLookupKey : LookupKeyType → ReverseLookupKey
  getReverseLookupKey : DieselNew → PartitionKey → LookupKeyType
  storageFindByLookup : LookupKeyType → App (Except Error Model)

/-! ## The helpers -/

section Helpers

variable (store : KvStoreContext)

/-- `.map_err(…)` of the nested reverse lookup calls: any error of theirs is a
    backend error. -/
def mapLookupError {E α : Type} [StorageErrorExt E] :
    Except ReverseLookupDBError α → Except E α
  | .ok a => .ok a
  | .error _ => .error (kvBackendError .backend)

/-- The lookup record of a new row. -/
def newLookup (M : KvResource) (partitionKeyStr : String) (reverseLookupKey : ReverseLookupKey)
    (scheme : StorageScheme) : ReverseLookupNew :=
  { lookupId := reverseLookupKey.lookupId
    secondaryKey := reverseLookupKey.lookupId
    partitionKey := partitionKeyStr
    source := M.resource.entityType
    updatedBy := scheme.display }

/-- The key of a locker's lookup record. -/
def LockerNew.lookupKey (new : LockerNew) : PartitionKey :=
  .reverseLookup new.hashKey.getLookupKey.lookupId

/-- The lookup record that an insert writes. -/
def LockerNew.lookup (new : LockerNew) : ReverseLookupNew :=
  newLookup Locker.kvResource new.primaryKey.getPartitionKey.display new.hashKey.getLookupKey
    .redisKv

/-- The `if let Some(reverse_lookup_key)` block of `insert_resource_inner`
    (lines 325–345). -/
def insertLookup (M : KvResource) (partitionKeyStr : String) (reverseLookupKey : ReverseLookupKey)
    (scheme : StorageScheme) : App (Except M.Error Unit) :=
  (insertReverseLookup store (newLookup M partitionKeyStr reverseLookupKey scheme)).mapResult
    fun reply => (mapLookupError reply).map fun _ => ()

/-- `insert_resource_with_reverse_lookup`. -/
def insertResourceWithReverseLookup (M : KvSecondaryLookupResource) (dieselNew : M.DieselNew)
    (partitionKey : PartitionKey) : App (Except M.Error M.Model) :=
  (insertResourceInner store M.toKvResource dieselNew partitionKey fun newObject scheme =>
    insertLookup store M.toKvResource partitionKey.display
      (M.getLookupKey (M.getReverseLookupKey newObject partitionKey)) scheme).mapResult
    (Except.map M.intoModel)

/-- The lookup of `find_resource_by_lookup_id`: a text to read Redis at, a miss
    (`none`), or an error. -/
def lookupResult {E : Type} [StorageErrorExt E] :
    Except ReverseLookupDBError ReverseLookup → Except E (Option String)
  | .ok lookup => .ok (some lookup.getPartitionKey.display)
  | .error .notFoundError => .ok none
  | .error _ => .error (kvBackendError .backend)

/-- `find_resource_by_lookup_id` (lines 475–542). -/
def findResourceByLookupId (M : KvSecondaryLookupResource) (lookupKey : M.LookupKeyType) :
    App (Except M.Error M.Model) :=
  decideStorageSchemeForFindOperation.bind fun scheme =>
    let lookupId := M.getLookupKey lookupKey
    match scheme with
    | .postgresOnly => M.storageFindByLookup lookupKey
    | .redisKv =>
      ((findByLookupId store lookupId.lookupId).mapResult lookupResult).andThen fun
        | none => M.storageFindByLookup lookupKey
        | some keyStr =>
          ((kvWrapper store M.deserialize (.hGet keyStr) (.combinationKey keyStr)).mapResult
            (hGetResult keyStr)).andThen fun
            | some v => .pure (.ok (M.intoModel v))
            | none => M.storageFindByLookup lookupKey

/-- `find_optional_resource_by_lookup_id`. -/
def findOptionalResourceByLookupId (M : KvSecondaryLookupResource) (lookupKey : M.LookupKeyType) :
    App (Except M.Error (Option M.Model)) :=
  (findResourceByLookupId store M lookupKey).mapResult optionalResult

/-- `delete_resource_by_id_with_reverse_lookup` (lines 653–682). -/
def deleteResourceByIdWithReverseLookup (M : KvDeletableWithLookup)
    (primaryKey : M.PrimaryKeyType) : App (Except M.Error ℕ) :=
  (findOptionalResourceById store M.toKvResource primaryKey).andThen fun resource =>
    let reverseLookupKey := resource.map M.getReverseLookupKeyFromResource
    (deleteResourceByIdInner store M.toKvDeletableResource primaryKey).andThen fun deletedRows =>
      match reverseLookupKey with
      | some reverseLookupKey =>
        ((deleteReverseLookup store reverseLookupKey.lookupId).mapResult mapLookupError).andThen
          fun _ => .pure (.ok deletedRows)
      | none => .pure (.ok deletedRows)

end Helpers

/-! ## Locker -/

namespace Locker

/-- `get_reverse_lookup_key_from_resource`: the lookup id of a row. -/
def getReverseLookupKeyFromResource (resource : Locker) : ReverseLookupKey :=
  ⟨"locker_" ++ resource.merchantId ++ "_" ++ resource.customerId ++ "_" ++ resource.hashId⟩

/-- `impl KvDeletableWithLookup for Locker`. -/
abbrev kvDeletableWithLookup : KvDeletableWithLookup :=
  { kvDeletableResource with getReverseLookupKeyFromResource := getReverseLookupKeyFromResource }

/-- `storage_find_by_lookup`. -/
def storageFindByLookup (lookupKey : LockerHashLookupKey) : App (Except VaultDBError Locker) :=
  (findOnRouted VaultDBError (.findLockerByHash lookupKey)).mapResult
    (Except.map LockerInner.toLocker)

/-- `impl KvSecondaryLookupResource for Locker`. -/
abbrev kvSecondaryLookupResource : KvSecondaryLookupResource :=
  { kvResource with
    LookupKeyType := LockerHashLookupKey
    getLookupKey := LockerHashLookupKey.getLookupKey
    getReverseLookupKey := fun newObject _ =>
      { hashId := newObject.hashId
        merchantId := newObject.merchantId
        customerId := newObject.customerId }
    storageFindByLookup := storageFindByLookup }

end Locker

/-! ## Runs with nothing in between -/

namespace Store

/-- The row a find by lookup id is about to answer: the one Redis holds where
    the lookup record points, or the one Postgres finds by the columns. -/
def visibleByLookup (s : Store) (key : LockerHashLookupKey) : Option Row :=
  let inPg := (s.pg.lockerRowByHash key).map Row.locker
  match s.mode with
  | .disabled => inPg
  | .enabled | .softKill =>
    match s.visible (.reverseLookup key.getLookupKey.lookupId) with
    | some (.reverseLookup lookup) =>
      match s.redis lookup.partitionKey lookup.partitionKey with
      | some row => some row
      | none => inPg
    | _ => inPg

/-- The lookup record of a new locker is written, and its statement queued. -/
def writeLookup (ctx : KvStoreContext) (s : Store) (new : LockerNew) : Store :=
  let lookup := newLookup Locker.kvResource new.primaryKey.getPartitionKey.display
    new.hashKey.getLookupKey .redisKv
  s.write ctx (.reverseLookup lookup.lookupId) (.reverseLookup lookup.toReverseLookup)
    ⟨.insertReverseLookup lookup, Resource.reverseLookup.entityType, .insert⟩

/-- A locker is written, and its statement queued. -/
def writeLocker (ctx : KvStoreContext) (s : Store) (new : LockerNew) : Store :=
  let new := { new with updatedBy := some .redisKv }
  s.write ctx new.primaryKey.getPartitionKey (.locker new.toLockerInner)
    ⟨.insertLocker new, Resource.locker.entityType, .insert⟩

/-- What a delete of a locker does to its row. -/
def removeLocker (ctx : KvStoreContext) (s : Store) (pk : LockerPrimaryKeyType) : Store :=
  s.remove ctx pk.getPartitionKey ⟨.deleteLocker pk, Resource.locker.entityType, .delete⟩

/-- What a delete of a locker does to its lookup record. -/
def removeLookup (ctx : KvStoreContext) (s : Store) (lookupId : String) : Store :=
  s.remove ctx (.reverseLookup lookupId)
    ⟨.deleteReverseLookup lookupId, Resource.reverseLookup.entityType, .delete⟩

/-- What a delete of a locker does. -/
def deleteLocker (ctx : KvStoreContext) (s : Store) (pk : LockerPrimaryKeyType) : Store :=
  match s.visible pk.getPartitionKey with
  | some (.locker row) =>
    (s.removeLocker ctx pk).removeLookup ctx row.hashKey.getLookupKey.lookupId
  | _ => s.removeLocker ctx pk

end Store

/-- Keys of lockers and of lookup records do not share a text. -/
theorem display_locker_ne_reverseLookup (pk : LockerPrimaryKeyType) (lookupId : String) :
    pk.getPartitionKey.display ≠ (PartitionKey.reverseLookup lookupId).display := fun h => by
  have := @PartitionKey.resource_eq_of_display _ _ .locker .reverseLookup rfl rfl h
  cases this

section Run

variable (ctx : KvStoreContext) (s : Store)

theorem run_findByLookupId (lookupId : String) :
    (findByLookupId ctx lookupId).run Store.exec s =
      (ReverseLookup.kvResource.answer (s.visible (.reverseLookup lookupId)), s) := by
  have h := run_findResourceByIdInner ctx s ReverseLookup.spec lookupId
  refine (Prog.run_mapResult Store.exec _ _ s).trans ?_
  rw [h]
  change (Except.map (fun row => row) _, s) = _
  cases ReverseLookup.kvResource.answer (s.visible (.reverseLookup lookupId)) <;> rfl

/-- The lookup record of a new locker, unless Redis holds its lookup id. -/
theorem run_insertLookup_enabled (hmode : s.mode = .enabled) (new : LockerNew) :
    (insertLookup ctx Locker.kvResource new.primaryKey.getPartitionKey.display
      new.hashKey.getLookupKey .redisKv).run Store.exec s =
      match s.cached (.reverseLookup new.hashKey.getLookupKey.lookupId) with
      | some _ => (.error .unknownError, s)
      | none => (.ok (), s.writeLookup ctx new) := by
  have h := run_insertResource_enabled ctx s ReverseLookup.spec hmode
    (newLookup Locker.kvResource new.primaryKey.getPartitionKey.display
      new.hashKey.getLookupKey .redisKv)
    (.reverseLookup new.hashKey.getLookupKey.lookupId)
  refine (Prog.run_mapResult Store.exec _ _ s).trans ?_
  refine (congrArg (fun answer : Except ReverseLookupDBError ReverseLookup × Store =>
    ((mapLookupError (E := VaultDBError) answer.1).map fun _ => (), answer.2)) h).trans ?_
  cases s.cached (.reverseLookup new.hashKey.getLookupKey.lookupId) <;> rfl

theorem writeLookup_cached (new : LockerNew) (pk : LockerPrimaryKeyType) :
    (s.writeLookup ctx new).cached pk.getPartitionKey = s.cached pk.getPartitionKey :=
  (Store.write_cached ..).trans (if_neg (display_locker_ne_reverseLookup pk _))

/-- A lookup record that is written changes nothing about the rows found by
    primary key. -/
theorem writeLookup_visible (new : LockerNew) (pk : LockerPrimaryKeyType) :
    (s.writeLookup ctx new).visible pk.getPartitionKey = s.visible pk.getPartitionKey := by
  unfold Store.visible
  rw [writeLookup_cached]
  rfl

/-- An insert of a locker. When Redis holds its lookup id, nothing is written;
    when it holds its key, the new lookup record stays behind. -/
theorem run_insertLocker_enabled (hmode : s.mode = .enabled) (new : LockerNew) :
    (insertResourceWithReverseLookup ctx Locker.kvSecondaryLookupResource new
      new.primaryKey.getPartitionKey).run Store.exec s =
      match s.cached (.reverseLookup new.hashKey.getLookupKey.lookupId) with
      | some _ => (.error .unknownError, s)
      | none =>
        match s.cached new.primaryKey.getPartitionKey with
        | some _ => (.error .duplicate, s.writeLookup ctx new)
        | none =>
          (.ok { new with updatedBy := some .redisKv }.toLockerInner.toLocker,
            (s.writeLookup ctx new).writeLocker ctx new) := by
  have hlookup : (insertLookup ctx Locker.kvResource new.primaryKey.getPartitionKey.display
      (LockerNew.hashKey { new with updatedBy := some .redisKv }).getLookupKey .redisKv).run
        Store.exec s = _ := run_insertLookup_enabled ctx s hmode new
  have h := run_insertResourceInner_enabled ctx s Locker.spec hmode new
    new.primaryKey.getPartitionKey fun newObject scheme =>
      insertLookup ctx Locker.kvResource new.primaryKey.getPartitionKey.display
        newObject.hashKey.getLookupKey scheme
  rw [hlookup] at h
  refine (Prog.run_mapResult Store.exec _ _ s).trans ?_
  refine (congrArg (fun answer : Except VaultDBError LockerInner × Store =>
    (answer.1.map LockerInner.toLocker, answer.2)) h).trans ?_
  cases s.cached (.reverseLookup new.hashKey.getLookupKey.lookupId) with
  | some _ => rfl
  | none =>
    dsimp only
    rw [writeLookup_cached]
    cases s.cached new.primaryKey.getPartitionKey <;> rfl

/-- An insert of a locker in the modes that write to Postgres: no lookup record. -/
theorem run_insertLocker_postgresOnly (hmode : s.mode ≠ .enabled) (new : LockerNew) :
    (insertResourceWithReverseLookup ctx Locker.kvSecondaryLookupResource new
      new.primaryKey.getPartitionKey).run Store.exec s =
      (((s.pg.execute (.insertLocker { new with
          updatedBy := some .postgresOnly })).1.mapError StorageErrorExt.fromDieselError).map
            LockerInner.toLocker,
        { s with pg := s.pg.apply (.insertLocker { new with
          updatedBy := some .postgresOnly }) }) := by
  have hinsert := run_executeOnPrimary (E := VaultDBError) s
    (.insertLocker { new with updatedBy := some .postgresOnly })
  have hinner := fun insertLookup => (run_insertResourceInner_postgresOnly ctx s
    (M := Locker.kvResource) hmode new new.primaryKey.getPartitionKey insertLookup).trans hinsert
  exact Prog.run_mapResult_of (hinner _) _

/-- A delete of a locker removes the row, and the lookup record of the row that
    was visible. -/
theorem run_deleteLocker (hs : s.WellFormed ctx) (pk : LockerPrimaryKeyType) :
    ∃ count, (deleteResourceByIdWithReverseLookup ctx Locker.kvDeletableWithLookup pk).run
      Store.exec s = (.ok count, s.deleteLocker ctx pk) := by
  have hfind := run_findOptionalResourceById ctx s Locker.spec pk
  obtain ⟨count, hdelete⟩ := run_deleteResourceByIdInner ctx s Locker.deletableSpec hs pk
  have hs' : (s.removeLocker ctx pk).WellFormed ctx := by
    have h := (Obeys.run (obeys_deleteResourceByIdInner ctx Locker.deletableSpec pk) hs).2
    rwa [hdelete] at h
  refine ⟨count, ?_⟩
  cases hv : s.visible pk.getPartitionKey with
  | none =>
    rw [show s.visible (Locker.kvResource.getPartitionKey pk) = none from hv] at hfind
    rw [Store.deleteLocker, hv]
    exact (Prog.run_andThen_ok hfind _).trans (Prog.run_andThen_ok hdelete _)
  | some row =>
    obtain ⟨e, rfl, -⟩ := Locker.spec.exists_visible ctx s hs rfl hv
    rw [show s.visible (Locker.kvResource.getPartitionKey pk) = some (.locker e) from hv] at hfind
    obtain ⟨count', hlookup⟩ := run_deleteResourceByIdInner ctx (s.removeLocker ctx pk)
      ReverseLookup.deletableSpec hs' e.hashKey.getLookupKey.lookupId
    have hlookup' := Prog.run_mapResult_of hlookup (mapLookupError (E := VaultDBError))
    rw [Store.deleteLocker, hv]
    exact (Prog.run_andThen_ok hfind _).trans
      ((Prog.run_andThen_ok hdelete _).trans (Prog.run_andThen_ok hlookup' _))

theorem run_storageFindByLookup (key : LockerHashLookupKey) :
    (Locker.storageFindByLookup key).run Store.exec s =
      ((Locker.kvResource.answer ((s.pg.lockerRowByHash key).map Row.locker)).map
        LockerInner.toLocker, s) := by
  have h := run_findOnRouted (E := VaultDBError) s (q := .findLockerByHash key) rfl
  refine (Prog.run_mapResult Store.exec _ _ s).trans ?_
  refine (congrArg (fun answer : Except VaultDBError LockerInner × Store =>
    (answer.1.map LockerInner.toLocker, answer.2)) h).trans ?_
  change ((Except.mapError _ (oneRow (s.pg.lockerRowByHash key))).map _, s) = _
  cases s.pg.lockerRowByHash key <;> rfl

/-- A find by lookup id answers the row that the lookup record points to, as it
    is. -/
theorem run_findResourceByLookupId (hs : s.WellFormed ctx) (key : LockerHashLookupKey) :
    (findResourceByLookupId ctx Locker.kvSecondaryLookupResource key).run Store.exec s =
      ((Locker.kvResource.answer (s.visibleByLookup key)).map LockerInner.toLocker, s) := by
  have hpg := run_storageFindByLookup s key
  have hfind := run_findByLookupId ctx s key.getLookupKey.lookupId
  unfold findResourceByLookupId
  rw [Prog.run_bind, run_decideStorageSchemeForFindOperation]
  cases hmode : s.mode with
  | disabled => simpa [hmode, Store.visibleByLookup] using hpg
  | _ =>
    simp only [hmode, reduceCtorEq, if_false, Store.visibleByLookup]
    cases hv : s.visible (.reverseLookup key.getLookupKey.lookupId) with
    | none =>
      rw [hv] at hfind
      have hlookup : ((findByLookupId ctx key.getLookupKey.lookupId).mapResult
          (lookupResult (E := VaultDBError))).run Store.exec s = (.ok none, s) :=
        Prog.run_mapResult_of hfind _
      exact (Prog.run_andThen_ok hlookup _).trans hpg
    | some row =>
      obtain ⟨lookup, rfl, -⟩ := ReverseLookup.spec.exists_visible ctx s hs rfl hv
      rw [hv] at hfind
      have hlookup : ((findByLookupId ctx key.getLookupKey.lookupId).mapResult
          (lookupResult (E := VaultDBError))).run Store.exec s =
            (.ok (some lookup.partitionKey), s) := Prog.run_mapResult_of hfind _
      have hget := run_kvWrapper_hGet ctx Locker.kvResource.deserialize s
        (.combinationKey lookup.partitionKey) lookup.partitionKey
      refine (Prog.run_andThen_ok hlookup _).trans ?_
      dsimp only [PartitionKey.display] at hget ⊢
      cases hrow : s.redis lookup.partitionKey lookup.partitionKey with
      | none =>
        rw [hrow] at hget
        have hmiss := Prog.run_mapResult_of hget
          (hGetResult (E := VaultDBError) lookup.partitionKey)
        exact (Prog.run_andThen_ok hmiss _).trans hpg
      | some row =>
        rw [hrow] at hget
        have hread := Prog.run_mapResult_of hget
          (hGetResult (E := VaultDBError) lookup.partitionKey)
        cases row with
        | locker row => exact Prog.run_andThen_ok hread _
        | _ => exact Prog.run_andThen_error hread _

end Run

/-! ## Commands issued -/

section Obeys

variable (ctx : KvStoreContext)

theorem obeys_insertReverseLookup (new : ReverseLookupNew) :
    Obeys ctx (insertReverseLookup ctx new) fun _ => True :=
  obeys_insertResource ctx ReverseLookup.spec new rfl

theorem obeys_deleteReverseLookup (lookupId : String) :
    Obeys ctx (deleteReverseLookup ctx lookupId) fun _ => True :=
  obeys_deleteResourceByIdInner ctx ReverseLookup.deletableSpec lookupId

theorem obeys_findByLookupId (lookupId : String) :
    Obeys ctx (findByLookupId ctx lookupId) fun _ => True :=
  obeys_findResourceById ctx ReverseLookup.spec lookupId

theorem obeys_insertResourceWithReverseLookup {M : KvSecondaryLookupResource}
    (hM : KvResource.Spec M.toKvResource) (new : M.DieselNew) {key : PartitionKey}
    (hkey : (hM.insertStatement new).partitionKey = key) :
    Obeys ctx (insertResourceWithReverseLookup ctx M new key) fun _ => True :=
  Obeys.mapResult (obeys_insertResourceInner ctx hM new hkey
    (Obeys.mapResult (obeys_insertReverseLookup ctx _)))

theorem obeys_findResourceByLookupId {M : KvSecondaryLookupResource} (lookupKey : M.LookupKeyType)
    (hfind : Obeys ctx (M.storageFindByLookup lookupKey) fun _ => True) :
    Obeys ctx (findResourceByLookupId ctx M lookupKey) fun _ => True := by
  refine Obeys.bind (Q := fun _ => True) (Obeys.mapResult (obeys_kvSettings ctx)) fun scheme _ => ?_
  cases scheme with
  | postgresOnly => exact hfind
  | redisKv =>
    refine Obeys.andThen (Q := fun _ => True) (Obeys.mapResult
      ((obeys_findByLookupId ctx _).mono fun _ _ _ _ => trivial)) (fun _ => trivial)
      fun found _ => ?_
    cases found with
    | none => exact hfind
    | some keyStr =>
      have hget := @obeys_kvWrapper_hGet _ ctx M.deserialize (.combinationKey keyStr)
      refine Obeys.andThen (Q := fun _ => True) (Obeys.mapResult (hget.mono fun _ _ _ _ => trivial))
        (fun _ => trivial) fun result _ => ?_
      cases result with
      | none => exact hfind
      | some v => trivial

theorem obeys_deleteResourceByIdWithReverseLookup {M : KvDeletableWithLookup}
    (hM : KvDeletableResource.Spec M.toKvDeletableResource) (pk : M.PrimaryKeyType) :
    Obeys ctx (deleteResourceByIdWithReverseLookup ctx M pk) fun _ => True := by
  refine Obeys.andThen ((obeys_findOptionalResourceById ctx hM.toSpec pk).mono
    fun _ _ _ _ => trivial) (fun _ => trivial) fun resource _ => ?_
  refine Obeys.andThen ((obeys_deleteResourceByIdInner ctx hM pk).mono fun _ _ _ _ => trivial)
    (fun _ => trivial) fun deletedRows _ => ?_
  cases resource with
  | none => trivial
  | some resource =>
    exact Obeys.andThen (Q := fun _ => True) (Obeys.mapResult
      ((obeys_deleteReverseLookup ctx _).mono fun _ _ _ _ => trivial)) (fun _ => trivial)
      fun _ _ => trivial

end Obeys

end CardVault
