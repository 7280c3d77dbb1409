import CardVault.Contents.Calls
import CardVault.Domain

/-!
# The KV helpers keep what rows hold

The helpers of `src/src/storage/kv/resource.rs`, for any resource.

Main results:
* `keeps_findResourceByIdInner`, `keeps_findResourceById`, `keeps_findOptionalResourceById`:
  the finds.
* `keeps_insertResourceInner`, `keeps_updateResourceById`, `keeps_deleteResourceByIdInner`:
  the writes.
-/

namespace CardVault

open Interaction Relational

variable {σ : Type} [Preorder σ] {ctx : KvStoreContext} {K : Contents σ} {x : σ}

/-! ## What an impl promises -/

theorem Contents.of_clearId (row : Row) : K.Of x row.clearId ↔ K.Of x row := by cases row <;> rfl

theorem Contents.of_stored (row : Row) : K.Of x row.stored ↔ K.Of x row := by cases row <;> rfl

/-- An INSERT stores allowed data when its new row does. -/
theorem KvResource.Spec.insertStatement_stores {M : KvResource} (hM : M.Spec) {new : M.DieselNew}
    (hnew : K.Of x (M.serialize (M.intoEntity new))) :
    (hM.insertStatement new).Stores (K.Of x) := by
  obtain ⟨mk, hmk, hclear⟩ := hM.insertStatement_effect new
  unfold Statement.Stores
  rw [hmk]
  intro id
  rw [← Contents.of_clearId, hclear id, Contents.of_stored]
  exact hnew

/-- The scheme does not matter to what a row holds, and the Postgres side of an impl
    answers allowed rows. -/
structure KvResource.Keeps (M : KvResource) (ctx : KvStoreContext) (K : Contents σ) : Prop where
  setStorageScheme : ∀ x new scheme, K.Of x (M.serialize (M.intoEntity new)) →
    K.Of x (M.serialize (M.intoEntity (M.setStorageScheme new scheme)))
  storageInsert : ∀ x new, K.Of x (M.serialize (M.intoEntity new)) →
    KeepsContents ctx K (M.storageInsert new)
      (fun reply y => ∀ e, reply = .ok e →
        M.At (M.serialize (M.intoEntity new)).partitionKey e ∧ K.Of y (M.serialize e)) x
  storageFind : ∀ x pk, KeepsContents ctx K (M.storageFind pk)
    (fun reply y => ∀ e, reply = .ok e →
      M.At (M.getPartitionKey pk) e ∧ K.Of y (M.serialize e)) x

/-! ## The helpers -/

section Helpers

variable {M : KvResource}

theorem keeps_kvSettings : KeepsContents ctx K kvSettings (fun _ _ => True) x :=
  keeps_mapResult (keeps_perform .runtimeConfig trivial trivial) _

theorem keeps_hGet (hM : M.Spec) (key : PartitionKey) :
    KeepsContents ctx K ((kvWrapper ctx M.deserialize (.hGet key.display) key).mapResult
      (hGetResult (E := M.Error) key.display))
      (fun reply y => ∀ found, reply = .ok found → ∀ e, found = some e →
        M.At key e ∧ K.Of y (M.serialize e)) x := by
  refine Prog.Safe.mapResult ((keeps_kvWrapper_hGet _).mono
    fun reply y _ hreply found hfound e he => ?_)
  subst he
  cases reply with
  | error err => cases err <;> cases hfound
  | ok result =>
    cases result with
    | hGet v =>
      cases hfound
      obtain ⟨row, hrow, hkey, hof⟩ := hreply _ rfl
      have hserialize : M.serialize e = row := hM.serialize_of_deserialize row _ hrow
      exact ⟨by rw [KvResource.At, hserialize, hkey], by rwa [hserialize]⟩
    | hset => cases hfound
    | hSetNx => cases hfound
    | hDel => cases hfound

theorem keeps_decideStorageSchemeForMutateOperation (hM : M.Spec) (key : PartitionKey) :
    KeepsContents ctx K (decideStorageSchemeForMutateOperation ctx M key)
      (fun reply _ => ∀ decision, reply = .ok decision → ∀ e, decision.2 = some e →
        M.At key e) x := by
  refine keeps_kvSettings.bind fun state y _ _ => ?_
  cases state with
  | disabled => exact fun _ _ _ h e he => by cases h; cases he
  | enabled => exact fun _ _ _ h e he => by cases h; cases he
  | softKill =>
    refine Prog.Safe.andThen (keeps_hGet hM key) (fun _ _ _ _ _ h => by cases h)
      fun found z _ hfound => ?_
    cases found with
    | none => exact fun _ _ _ h e he => by cases h; cases he
    | some v => exact fun _ _ _ h e he => by cases h; exact (hfound _ rfl e he).1

/-- A find answers an allowed row of the key it was asked for. -/
theorem keeps_findResourceByIdInner (hM : M.Spec) (hK : M.Keeps ctx K) (pk : M.PrimaryKeyType) :
    KeepsContents ctx K (findResourceByIdInner ctx M pk)
      (fun reply y => ∀ e, reply = .ok e →
        M.At (M.getPartitionKey pk) e ∧ K.Of y (M.serialize e)) x := by
  refine Prog.Safe.bind (Q := fun _ _ => True) (keeps_mapResult keeps_kvSettings _)
    fun scheme y _ _ => ?_
  cases scheme with
  | postgresOnly => exact hK.storageFind y pk
  | redisKv =>
    refine Prog.Safe.andThen (keeps_hGet hM _) (fun _ _ _ _ _ h => by cases h)
      fun found z _ hfound => ?_
    cases found with
    | none => exact hK.storageFind z pk
    | some v =>
      intro w hzw e he
      cases he
      obtain ⟨hat, hof⟩ := hfound _ rfl _ rfl
      exact ⟨hat, K.of_mono hzw hof⟩

/-- A model that comes from an allowed row of the key. -/
def KvResource.Finds (M : KvResource) (K : Contents σ) (key : PartitionKey)
    (model : M.Model) (y : σ) : Prop :=
  ∃ e, M.intoModel e = model ∧ M.At key e ∧ K.Of y (M.serialize e)

theorem keeps_findResourceById (hM : M.Spec) (hK : M.Keeps ctx K) (pk : M.PrimaryKeyType) :
    KeepsContents ctx K (findResourceById ctx M pk)
      (fun reply y => ∀ model, reply = .ok model → M.Finds K (M.getPartitionKey pk) model y) x := by
  refine Prog.Safe.mapResult ((keeps_findResourceByIdInner hM hK pk).mono
    fun reply y _ hreply model hmodel => ?_)
  cases reply with
  | error e => cases hmodel
  | ok e =>
    cases hmodel
    exact ⟨e, rfl, hreply e rfl⟩

theorem keeps_findOptionalResourceById (hM : M.Spec) (hK : M.Keeps ctx K)
    (pk : M.PrimaryKeyType) :
    KeepsContents ctx K (findOptionalResourceById ctx M pk)
      (fun reply y => ∀ model, reply = .ok (some model) →
        M.Finds K (M.getPartitionKey pk) model y) x := by
  refine Prog.Safe.mapResult ((keeps_findResourceById hM hK pk).mono
    fun reply y _ hreply model hmodel => ?_)
  cases reply with
  | error e =>
    simp only [optionalResult] at hmodel
    split_ifs at hmodel
    cases hmodel
  | ok found =>
    cases hmodel
    exact hreply _ rfl

/-- An insert answers an allowed row of its key. -/
theorem keeps_insertResourceInner (hM : M.Spec) (hK : M.Keeps ctx K) (new : M.DieselNew)
    (hnew : K.Of x (M.serialize (M.intoEntity new))) {key : PartitionKey}
    (hkey : (hM.insertStatement new).partitionKey = key)
    {insertLookup : M.DieselNew → StorageScheme → App (Except M.Error Unit)}
    (hlookup : ∀ y, KeepsContents ctx K (insertLookup (M.setStorageScheme new .redisKv) .redisKv)
      (fun _ _ => True) y) :
    KeepsContents ctx K (insertResourceInner ctx M new key insertLookup)
      (fun reply y => ∀ e, reply = .ok e → M.At key e ∧ K.Of y (M.serialize e)) x := by
  refine Prog.Safe.bind (Q := fun _ _ => True) (keeps_mapResult keeps_kvSettings _)
    fun scheme y hxy _ => ?_
  have hof := hK.setStorageScheme y new scheme (K.of_mono hxy hnew)
  have hkey' : (hM.insertStatement (M.setStorageScheme new scheme)).partitionKey = key :=
    (hM.insertStatement_setStorageScheme new scheme).trans hkey
  have hvalue : (M.serialize (M.intoEntity (M.setStorageScheme new scheme))).partitionKey =
      key := (hM.insertStatement_partitionKey _).symm.trans hkey'
  cases scheme with
  | postgresOnly =>
    rw [← hvalue]
    exact hK.storageInsert y _ hof
  | redisKv =>
    have hquery : SerializableQuery.Ok ⟨hM.insertStatement (M.setStorageScheme new .redisKv),
        M.resource.entityType, .insert⟩ key := by
      rw [← hkey']
      exact hM.insertQuery_ok _ _ _
    simp only [hM.generateInsertDrainerQuery_eq, mapKvError, Prog.pure_ok_andThen]
    refine Prog.Safe.andThen (hlookup y) (fun _ _ _ _ _ h => by cases h) fun _ z hyz _ => ?_
    refine Prog.Safe.andThen (Q := fun _ _ => True) (keeps_mapResult (keeps_kvWrapper_hSetNx
      (by rw [hvalue]) (K.of_mono hyz hof) hquery
      ((hM.insertStatement_stores hof).mono fun _ => K.of_mono hyz)) _)
      (fun _ _ _ _ _ h => by cases h) fun reply w hzw _ => ?_
    refine Prog.Safe.andThen (Q := fun _ _ => True) (keeps_pure _)
      (fun _ _ _ _ _ h => by cases h) fun reply v hwv _ => ?_
    cases reply with
    | keySet =>
      intro u hvu e he
      cases he
      exact ⟨congrArg _ hvalue, K.of_mono (hyz.trans (hzw.trans (hwv.trans hvu))) hof⟩
    | keyNotSet => exact fun _ _ _ h => by cases h

theorem keeps_insertResource (hM : M.Spec) (hK : M.Keeps ctx K) (new : M.DieselNew)
    (hnew : K.Of x (M.serialize (M.intoEntity new))) {key : PartitionKey}
    (hkey : (hM.insertStatement new).partitionKey = key) :
    KeepsContents ctx K (insertResource ctx M new key)
      (fun reply y => ∀ model, reply = .ok model → M.Finds K key model y) x := by
  refine Prog.Safe.mapResult ((keeps_insertResourceInner hM hK new hnew hkey
    fun _ => keeps_pure _).mono fun reply y _ hreply model hmodel => ?_)
  cases reply with
  | error e => cases hmodel
  | ok e =>
    cases hmodel
    exact ⟨e, rfl, hreply e rfl⟩

end Helpers

theorem keeps_deleteResourceByIdInner {M : KvDeletableResource} (hM : M.Spec)
    (hdelete : ∀ y pk, KeepsContents ctx K (M.storageDelete pk) (fun _ _ => True) y)
    (pk : M.PrimaryKeyType) :
    KeepsContents ctx K (deleteResourceByIdInner ctx M pk) (fun _ _ => True) x := by
  refine keeps_andThen (keeps_decideStorageSchemeForMutateOperation hM.toSpec _)
    fun decision y _ => ?_
  obtain ⟨scheme, cached⟩ := decision
  cases scheme with
  | postgresOnly => exact hdelete y pk
  | redisKv =>
    have heffect := hM.deleteStatement_effect pk
    simp only [hM.generateDeleteDrainerQuery_eq, mapKvError, Prog.pure_ok_andThen]
    refine keeps_andThen (keeps_mapResult (keeps_kvWrapper_hDel
      ⟨hM.deleteStatement_partitionKey pk, fun vaultPk update h => ?_⟩ ?_) _)
      fun _ _ _ => keeps_pure _
    · simp only at h
      rw [h] at heffect
      cases heffect
    · unfold Statement.Stores
      rw [heffect]
      trivial

/-- An update, with what it writes to Redis, to the stream and to Postgres. -/
theorem keeps_updateResourceById {M : KvUpdatableResource} (hM : M.Spec)
    (hK : M.toKvResource.Keeps ctx K) (update : M.DieselUpdate) (pk : M.PrimaryKeyType)
    (hstatement : (hM.updateStatement (M.setUpdateStorageScheme update .redisKv) pk).Stores
      (K.Of x))
    (happly : ∀ e, M.toKvResource.At (M.getPartitionKey pk) e →
      K.Of x (M.serialize (M.applyUpdate (M.setUpdateStorageScheme update .redisKv) e)))
    (hstorage : KeepsContents ctx K
      (M.storageUpdate (M.setUpdateStorageScheme update .postgresOnly) pk) (fun _ _ => True) x) :
    KeepsContents ctx K (updateResourceById ctx M update pk) (fun _ _ => True) x := by
  refine Prog.Safe.andThen (keeps_decideStorageSchemeForMutateOperation hM.toSpec _)
    (fun _ _ _ _ => trivial) fun decision y hxy hdecision => ?_
  obtain ⟨scheme, cached⟩ := decision
  cases scheme with
  | postgresOnly => exact hstorage.later hxy
  | redisKv =>
    have hcurrent : KeepsContents ctx K (currentEntity ctx M.toKvResource pk cached)
        (fun reply _ => ∀ e, reply = .ok e → M.At (M.getPartitionKey pk) e) y := by
      cases cached with
      | none =>
        exact (keeps_findResourceByIdInner hM.toSpec hK pk).mono fun _ _ _ hreply e he =>
          (hreply e he).1
      | some v => exact fun _ _ e he => by cases he; exact hdecision _ rfl v rfl
    refine Prog.Safe.andThen hcurrent (fun _ _ _ _ => trivial) fun current z hyz hat => ?_
    have hxz : x ≤ z := hxy.trans hyz
    have hvalue := hat current rfl
    simp only [hM.generateUpdateDrainerQuery_eq, mapKvError, Prog.pure_ok_andThen]
    refine keeps_andThen (keeps_mapResult (keeps_kvWrapper_hset ?_
      (K.of_mono hxz (happly current hvalue)) ⟨hM.updateStatement_partitionKey _ pk,
        hM.updateStatement_updatedBy update pk⟩ (hstatement.mono fun _ => K.of_mono hxz)) _)
      fun reply _ _ => keeps_andThen (keeps_pure _) fun _ _ _ => keeps_pure _
    rw [hM.serialize_applyUpdate]
    exact hvalue

end CardVault
