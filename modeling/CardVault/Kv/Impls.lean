import CardVault.Kv.Resource

/-!
# The KV resources

The impls of the resource traits for the five tables
(`src/src/storage/kv/impls/*.rs`), each with the proof that it keeps the promises
of `KvResource.Spec`.
-/

namespace CardVault

open Interaction

/-- `INSERT … RETURNING` on the primary pool, the body of every `storage_insert`. -/
def executeOnPrimary (E : Type) [StorageErrorExt E] (stmt : Statement) :
    App (Except E stmt.Output) :=
  getConn.andThen fun pool => runStatement pool stmt

/-- A read of one row on the pool that reads are routed to, the body of every
    `storage_find` but one. -/
def findOnRouted (E : Type) [StorageErrorExt E] (q : Query) : App (Except E q.Output) :=
  routeConn.andThen fun pool => runQuery pool q

/-- A read of one row on the primary pool: `storage_find` of the reverse lookup. -/
def findOnPrimary (E : Type) [StorageErrorExt E] (q : Query) : App (Except E q.Output) :=
  getConn.andThen fun pool => runQuery pool q

theorem oneRow_bind_map {α β : Type} {f : α → β} {g : β → Option α} (h : ∀ a, g (f a) = some a)
    (row : Option α) : oneRow ((row.map f).bind g) = oneRow row := by
  cases row <;> simp [h]

section Run

variable {E : Type} [StorageErrorExt E] (s : Store)

theorem run_executeOnPrimary (stmt : Statement) :
    (executeOnPrimary E stmt).run Store.exec s =
      ((s.pg.execute stmt).1.mapError StorageErrorExt.fromDieselError,
        { s with pg := s.pg.apply stmt }) := by
  rw [executeOnPrimary, Prog.run_andThen, Store.run_getConn]
  exact Store.run_runStatement s .primary stmt

theorem run_findOnRouted {q : Query} (hq : (s.pg.query q).2 = s.pg) :
    (findOnRouted E q).run Store.exec s =
      ((s.pg.query q).1.mapError StorageErrorExt.fromDieselError, s) := by
  obtain ⟨pool, hpool⟩ := Store.run_routeConn (E := E) s
  rw [findOnRouted, Prog.run_andThen, hpool]
  refine (Store.run_runQuery s pool q).trans ?_
  rw [hq]

theorem run_findOnPrimary {q : Query} (hq : (s.pg.query q).2 = s.pg) :
    (findOnPrimary E q).run Store.exec s =
      ((s.pg.query q).1.mapError StorageErrorExt.fromDieselError, s) := by
  rw [findOnPrimary, Prog.run_andThen, Store.run_getConn]
  refine (Store.run_runQuery s .primary q).trans ?_
  rw [hq]

/-- What the answer to an INSERT of any table says. -/
theorem run_insert_spec {stmt : Statement} {mk : ℕ → Row} (hmk : stmt.effect = .insert mk) :
    (executeOnPrimary E stmt).run Store.exec s =
        ((s.pg.execute stmt).1.mapError StorageErrorExt.fromDieselError,
          { s with pg := s.pg.apply stmt }) ∧
      (∀ out, (s.pg.execute stmt).1 = .ok out →
        stmt.fits = true ∧ s.pg.rowAt stmt.partitionKey = none ∧
          (s.pg.apply stmt).rowAt stmt.partitionKey = stmt.outputRow out) ∧
      ∀ err, (s.pg.execute stmt).1 = .error err → s.pg.apply stmt = s.pg ∧
        (err = .other ∨ err = .uniqueViolation) := by
  refine ⟨run_executeOnPrimary s stmt, fun out hout => ?_, fun err herr => ?_⟩
  · obtain ⟨hfits, hnone, id, hrow, hget⟩ := Pg.execute_insert_ok hmk hout
    exact ⟨hfits, hnone, hget.trans hrow.symm⟩
  · exact ⟨Pg.apply_of_insert_error hmk herr, Pg.insert_error hmk herr⟩

end Run

section Obeys

variable {E : Type} [StorageErrorExt E] (ctx : KvStoreContext)

theorem obeys_getConn : Obeys ctx (getConn : App (Except E DbPool)) fun _ => True :=
  ⟨trivial, fun _ _ _ => trivial⟩

theorem obeys_routeConn : Obeys ctx (routeConn : App (Except E DbPool)) fun _ => True := by
  refine Obeys.bind (Q := fun _ => True) ⟨trivial, fun reply _ _ => ?_⟩ fun use _ => ?_
  · cases (reply : Bool) with
    | false => trivial
    | true => exact ⟨trivial, fun _ _ _ => trivial⟩
  · cases use with
    | false => exact obeys_getConn ctx
    | true =>
      refine ⟨trivial, fun reply _ _ => ?_⟩
      cases (reply : Bool) with
      | false => trivial
      | true => exact ⟨trivial, fun _ _ _ => trivial⟩

theorem obeys_runQuery (pool : DbPool) (q : Query) :
    Obeys ctx (runQuery pool q : App (Except E q.Output))
      fun reply => ∀ row, reply = .ok row → q.Matches row := by
  refine ⟨trivial, fun reply _ hreply => Obeys.pure fun row hrow => ?_⟩
  change (∀ row, reply = Except.ok row → q.Matches row) at hreply
  cases (reply : Except DieselError q.Output) with
  | error e => cases hrow
  | ok out =>
    cases hrow
    exact hreply _ rfl

theorem obeys_executeOnPrimary (stmt : Statement) :
    Obeys ctx (executeOnPrimary E stmt) fun _ => True :=
  Obeys.andThen ((obeys_getConn ctx).mono fun _ _ _ _ => trivial) (fun _ => trivial)
    fun pool _ => (obeys_runQuery ctx pool (.execute stmt)).mono fun _ _ => trivial

theorem obeys_findOnRouted (q : Query) :
    Obeys ctx (findOnRouted E q) fun reply => ∀ row, reply = .ok row → q.Matches row :=
  Obeys.andThen ((obeys_routeConn ctx).mono fun _ _ _ _ => trivial) (fun _ _ h => nomatch h)
    fun pool _ => obeys_runQuery ctx pool q

theorem obeys_findOnPrimary (q : Query) :
    Obeys ctx (findOnPrimary E q) fun reply => ∀ row, reply = .ok row → q.Matches row :=
  Obeys.andThen ((obeys_getConn ctx).mono fun _ _ _ _ => trivial) (fun _ _ h => nomatch h)
    fun pool _ => obeys_runQuery ctx pool q

end Obeys

/-! ## Fingerprint -/

namespace Fingerprint

/-- `impl KvResource for Fingerprint`. -/
abbrev kvResource : KvResource where
  resource := .fingerprint
  Error := FingerprintDBError
  errorExt := inferInstance
  DieselNew := FingerprintTableNew
  DieselEntity := Fingerprint
  PrimaryKeyType := Bytes
  Model := Fingerprint
  intoEntity := FingerprintTableNew.toFingerprint
  intoModel := fun row => row
  serialize := .fingerprint
  deserialize
    | .fingerprint row => some row
    | _ => none
  getPartitionKey := .fingerprint
  setStorageScheme newObject scheme := { newObject with updatedBy := some scheme }
  generateInsertDrainerQuery newObject :=
    generateInsertQuery .fingerprint (.insertFingerprint newObject)
  storageInsert newObject := executeOnPrimary FingerprintDBError (.insertFingerprint newObject)
  storageFind pk := findOnRouted FingerprintDBError (.findFingerprint pk)

theorem run_storageFind (pk : kvResource.PrimaryKeyType) (s : Store) :
    (kvResource.storageFind pk).run Store.exec s =
      ((oneRow ((s.pg.rowAt (kvResource.getPartitionKey pk)).bind
        kvResource.deserialize)).mapError StorageErrorExt.fromDieselError, s) := by
  have hrow := oneRow_bind_map (f := Row.fingerprint) (g := kvResource.deserialize) (fun _ => rfl)
    (s.pg.fingerprint.get Fingerprint.fingerprintHash pk)
  refine (run_findOnRouted s (q := .findFingerprint pk) rfl).trans ?_
  exact congrArg (fun reply => (Except.mapError StorageErrorExt.fromDieselError reply, s)) hrow.symm

/-- The impl keeps its promises. -/
def spec : kvResource.Spec where
  lawfulError := inferInstanceAs (LawfulStorageError FingerprintDBError)
  deserialize_serialize _ := rfl
  serialize_of_deserialize row e h := by cases row <;> cases h; rfl
  deserialize_isSome row := by
    cases row <;> simp [Row.partitionKey, PartitionKey.resource,
      LockerPrimaryKeyType.getPartitionKey, VaultPrimaryKey.getPartitionKey]
  getPartitionKey_resource _ := rfl
  insertStatement := .insertFingerprint
  generateInsertDrainerQuery_eq _ := rfl
  insertStatement_partitionKey _ := rfl
  insertStatement_setStorageScheme _ _ := rfl
  insertStatement_effect _ := ⟨_, rfl, fun _ => rfl⟩
  run_storageInsert new s := ⟨_, run_insert_spec s rfl⟩
  run_storageFind := run_storageFind
  obeys_storageInsert ctx _ := obeys_executeOnPrimary ctx _
  obeys_storageFind ctx _ := (obeys_findOnRouted ctx _).mono fun _ h e he =>
    congrArg PartitionKey.fingerprint (h e he)

end Fingerprint

/-! ## Hash table -/

namespace HashTable

/-- `impl KvResource for HashTable`. -/
abbrev kvResource : KvResource where
  resource := .hashTable
  Error := HashDBError
  errorExt := inferInstance
  DieselNew := HashTableNew
  DieselEntity := HashTable
  PrimaryKeyType := Bytes
  Model := HashTable
  intoEntity := HashTableNew.toHashTable
  intoModel := fun row => row
  serialize := .hashTable
  deserialize
    | .hashTable row => some row
    | _ => none
  getPartitionKey := .hashTable
  setStorageScheme newObject scheme := { newObject with updatedBy := some scheme }
  generateInsertDrainerQuery newObject :=
    generateInsertQuery .hashTable (.insertHashTable newObject)
  storageInsert newObject := executeOnPrimary HashDBError (.insertHashTable newObject)
  storageFind pk := findOnRouted HashDBError (.findHashTable pk)

theorem run_storageFind (pk : kvResource.PrimaryKeyType) (s : Store) :
    (kvResource.storageFind pk).run Store.exec s =
      ((oneRow ((s.pg.rowAt (kvResource.getPartitionKey pk)).bind
        kvResource.deserialize)).mapError StorageErrorExt.fromDieselError, s) := by
  have hrow := oneRow_bind_map (f := Row.hashTable) (g := kvResource.deserialize) (fun _ => rfl)
    (s.pg.hashTable.get HashTable.dataHash pk)
  refine (run_findOnRouted s (q := .findHashTable pk) rfl).trans ?_
  exact congrArg (fun reply => (Except.mapError StorageErrorExt.fromDieselError reply, s)) hrow.symm

/-- The impl keeps its promises. -/
def spec : kvResource.Spec where
  lawfulError := inferInstanceAs (LawfulStorageError HashDBError)
  deserialize_serialize _ := rfl
  serialize_of_deserialize row e h := by cases row <;> cases h; rfl
  deserialize_isSome row := by
    cases row <;> simp [Row.partitionKey, PartitionKey.resource,
      LockerPrimaryKeyType.getPartitionKey, VaultPrimaryKey.getPartitionKey]
  getPartitionKey_resource _ := rfl
  insertStatement := .insertHashTable
  generateInsertDrainerQuery_eq _ := rfl
  insertStatement_partitionKey _ := rfl
  insertStatement_setStorageScheme _ _ := rfl
  insertStatement_effect _ := ⟨_, rfl, fun _ => rfl⟩
  run_storageInsert new s := ⟨_, run_insert_spec s rfl⟩
  run_storageFind := run_storageFind
  obeys_storageInsert ctx _ := obeys_executeOnPrimary ctx _
  obeys_storageFind ctx _ := (obeys_findOnRouted ctx _).mono fun _ h e he =>
    congrArg PartitionKey.hashTable (h e he)

end HashTable

/-! ## Locker -/

namespace Locker

/-- `impl KvResource for Locker`. -/
abbrev kvResource : KvResource where
  resource := .locker
  Error := VaultDBError
  errorExt := inferInstance
  DieselNew := LockerNew
  DieselEntity := LockerInner
  PrimaryKeyType := LockerPrimaryKeyType
  Model := Locker
  intoEntity := LockerNew.toLockerInner
  intoModel := LockerInner.toLocker
  serialize := .locker
  deserialize
    | .locker row => some row
    | _ => none
  getPartitionKey := LockerPrimaryKeyType.getPartitionKey
  setStorageScheme newObject scheme := { newObject with updatedBy := some scheme }
  generateInsertDrainerQuery newObject := generateInsertQuery .locker (.insertLocker newObject)
  storageInsert newObject := executeOnPrimary VaultDBError (.insertLocker newObject)
  storageFind pk := findOnRouted VaultDBError (.findLocker pk)

/-- `impl KvDeletableResource for Locker`. -/
abbrev kvDeletableResource : KvDeletableResource :=
  { kvResource with
    generateDeleteDrainerQuery := fun pk => generateDeleteQuery .locker (.deleteLocker pk)
    storageDelete := fun pk => executeOnPrimary VaultDBError (.deleteLocker pk) }

theorem run_storageFind (pk : kvResource.PrimaryKeyType) (s : Store) :
    (kvResource.storageFind pk).run Store.exec s =
      ((oneRow ((s.pg.rowAt (kvResource.getPartitionKey pk)).bind
        kvResource.deserialize)).mapError StorageErrorExt.fromDieselError, s) := by
  have hrow := oneRow_bind_map (f := Row.locker) (g := kvResource.deserialize) (fun _ => rfl)
    (s.pg.locker.get LockerInner.primaryKey pk)
  refine (run_findOnRouted s (q := .findLocker pk) rfl).trans ?_
  exact congrArg (fun reply => (Except.mapError StorageErrorExt.fromDieselError reply, s)) hrow.symm

/-- The impl keeps its promises. -/
def spec : kvResource.Spec where
  lawfulError := inferInstanceAs (LawfulStorageError VaultDBError)
  deserialize_serialize _ := rfl
  serialize_of_deserialize row e h := by cases row <;> cases h; rfl
  deserialize_isSome row := by
    cases row <;> simp [Row.partitionKey, PartitionKey.resource,
      LockerPrimaryKeyType.getPartitionKey, VaultPrimaryKey.getPartitionKey]
  getPartitionKey_resource _ := rfl
  insertStatement := .insertLocker
  generateInsertDrainerQuery_eq _ := rfl
  insertStatement_partitionKey _ := rfl
  insertStatement_setStorageScheme _ _ := rfl
  insertStatement_effect _ := ⟨_, rfl, fun _ => rfl⟩
  run_storageInsert new s := ⟨_, run_insert_spec s rfl⟩
  run_storageFind := run_storageFind
  obeys_storageInsert ctx _ := obeys_executeOnPrimary ctx _
  obeys_storageFind ctx _ := (obeys_findOnRouted ctx _).mono fun _ h e he =>
    congrArg LockerPrimaryKeyType.getPartitionKey (h e he)

/-- The impl of deletion keeps its promises. -/
def deletableSpec : kvDeletableResource.Spec where
  toSpec := spec
  deleteStatement := .deleteLocker
  generateDeleteDrainerQuery_eq _ := rfl
  deleteStatement_partitionKey _ := rfl
  deleteStatement_effect _ := rfl
  run_storageDelete _ s := ⟨_, run_executeOnPrimary s _⟩
  obeys_storageDelete ctx _ := obeys_executeOnPrimary ctx _

end Locker

/-! ## Reverse lookup -/

namespace ReverseLookup

/-- `impl KvResource for ReverseLookup`; its reads are not routed to a replica. -/
abbrev kvResource : KvResource where
  resource := .reverseLookup
  Error := ReverseLookupDBError
  errorExt := inferInstance
  DieselNew := ReverseLookupNew
  DieselEntity := ReverseLookup
  PrimaryKeyType := String
  Model := ReverseLookup
  intoEntity := ReverseLookupNew.toReverseLookup
  intoModel := fun row => row
  serialize := .reverseLookup
  deserialize
    | .reverseLookup row => some row
    | _ => none
  getPartitionKey := .reverseLookup
  setStorageScheme newObject scheme := { newObject with updatedBy := scheme.display }
  generateInsertDrainerQuery newObject :=
    generateInsertQuery .reverseLookup (.insertReverseLookup newObject)
  storageInsert newObject :=
    executeOnPrimary ReverseLookupDBError (.insertReverseLookup newObject)
  storageFind pk := findOnPrimary ReverseLookupDBError (.findReverseLookup pk)

/-- `impl KvDeletableResource for ReverseLookup`. -/
abbrev kvDeletableResource : KvDeletableResource :=
  { kvResource with
    generateDeleteDrainerQuery := fun pk =>
      generateDeleteQuery .reverseLookup (.deleteReverseLookup pk)
    storageDelete := fun pk => executeOnPrimary ReverseLookupDBError (.deleteReverseLookup pk) }

theorem run_storageFind (pk : kvResource.PrimaryKeyType) (s : Store) :
    (kvResource.storageFind pk).run Store.exec s =
      ((oneRow ((s.pg.rowAt (kvResource.getPartitionKey pk)).bind
        kvResource.deserialize)).mapError StorageErrorExt.fromDieselError, s) := by
  have hrow := oneRow_bind_map (f := Row.reverseLookup) (g := kvResource.deserialize) (fun _ => rfl)
    (s.pg.reverseLookup.get ReverseLookup.lookupId pk)
  refine (run_findOnPrimary s (q := .findReverseLookup pk) rfl).trans ?_
  exact congrArg (fun reply => (Except.mapError StorageErrorExt.fromDieselError reply, s)) hrow.symm

/-- The impl keeps its promises. -/
def spec : kvResource.Spec where
  lawfulError := inferInstanceAs (LawfulStorageError ReverseLookupDBError)
  deserialize_serialize _ := rfl
  serialize_of_deserialize row e h := by cases row <;> cases h; rfl
  deserialize_isSome row := by
    cases row <;> simp [Row.partitionKey, PartitionKey.resource,
      LockerPrimaryKeyType.getPartitionKey, VaultPrimaryKey.getPartitionKey]
  getPartitionKey_resource _ := rfl
  insertStatement := .insertReverseLookup
  generateInsertDrainerQuery_eq _ := rfl
  insertStatement_partitionKey _ := rfl
  insertStatement_setStorageScheme _ _ := rfl
  insertStatement_effect _ := ⟨_, rfl, fun _ => rfl⟩
  run_storageInsert new s := ⟨_, run_insert_spec s rfl⟩
  run_storageFind := run_storageFind
  obeys_storageInsert ctx _ := obeys_executeOnPrimary ctx _
  obeys_storageFind ctx _ := (obeys_findOnPrimary ctx _).mono fun _ h e he =>
    congrArg PartitionKey.reverseLookup (h e he)

/-- The impl of deletion keeps its promises. -/
def deletableSpec : kvDeletableResource.Spec where
  toSpec := spec
  deleteStatement := .deleteReverseLookup
  generateDeleteDrainerQuery_eq _ := rfl
  deleteStatement_partitionKey _ := rfl
  deleteStatement_effect _ := rfl
  run_storageDelete _ s := ⟨_, run_executeOnPrimary s _⟩
  obeys_storageDelete ctx _ := obeys_executeOnPrimary ctx _

end ReverseLookup

/-! ## Vault -/

namespace Vault

/-- `impl KvResource for Vault`. -/
abbrev kvResource : KvResource where
  resource := .vault
  Error := VaultDBError
  errorExt := inferInstance
  DieselNew := VaultNewInner
  DieselEntity := VaultInner
  PrimaryKeyType := VaultPrimaryKey
  Model := Vault
  intoEntity := VaultNewInner.toVaultInner
  intoModel := VaultInner.toVault
  serialize := .vault
  deserialize
    | .vault row => some row
    | _ => none
  getPartitionKey := VaultPrimaryKey.getPartitionKey
  setStorageScheme newObject scheme := { newObject with updatedBy := some scheme }
  generateInsertDrainerQuery newObject := generateInsertQuery .vault (.insertVault newObject)
  storageInsert newObject := executeOnPrimary VaultDBError (.insertVault newObject)
  storageFind pk := findOnRouted VaultDBError (.findVault pk)

/-- `impl KvDeletableResource for Vault`. -/
abbrev kvDeletableResource : KvDeletableResource :=
  { kvResource with
    generateDeleteDrainerQuery := fun pk => generateDeleteQuery .vault (.deleteVault pk)
    storageDelete := fun pk => executeOnPrimary VaultDBError (.deleteVault pk) }

/-- `impl KvUpdatableResource for Vault`. -/
abbrev kvUpdatableResource : KvUpdatableResource :=
  { kvResource with
    DieselUpdate := VaultUpdate
    setUpdateStorageScheme := fun update scheme => { update with updatedBy := scheme }
    generateUpdateDrainerQuery := fun update pk =>
      generateUpdateQuery .vault (.updateVault pk update)
    applyUpdate := VaultInner.fromUpdate
    storageUpdate := fun update pk =>
      (executeOnPrimary VaultDBError (.updateVault pk update)).mapResult
        (Except.map VaultInner.toVault) }

theorem run_storageFind (pk : kvResource.PrimaryKeyType) (s : Store) :
    (kvResource.storageFind pk).run Store.exec s =
      ((oneRow ((s.pg.rowAt (kvResource.getPartitionKey pk)).bind
        kvResource.deserialize)).mapError StorageErrorExt.fromDieselError, s) := by
  have hrow := oneRow_bind_map (f := Row.vault) (g := kvResource.deserialize) (fun _ => rfl)
    (s.pg.vault.get VaultInner.primaryKey pk)
  refine (run_findOnRouted s (q := .findVault pk) rfl).trans ?_
  exact congrArg (fun reply => (Except.mapError StorageErrorExt.fromDieselError reply, s)) hrow.symm

/-- The impl keeps its promises. -/
def spec : kvResource.Spec where
  lawfulError := inferInstanceAs (LawfulStorageError VaultDBError)
  deserialize_serialize _ := rfl
  serialize_of_deserialize row e h := by cases row <;> cases h; rfl
  deserialize_isSome row := by
    cases row <;> simp [Row.partitionKey, PartitionKey.resource,
      LockerPrimaryKeyType.getPartitionKey, VaultPrimaryKey.getPartitionKey]
  getPartitionKey_resource _ := rfl
  insertStatement := .insertVault
  generateInsertDrainerQuery_eq _ := rfl
  insertStatement_partitionKey _ := rfl
  insertStatement_setStorageScheme _ _ := rfl
  insertStatement_effect _ := ⟨_, rfl, fun _ => rfl⟩
  run_storageInsert new s := ⟨_, run_insert_spec s rfl⟩
  run_storageFind := run_storageFind
  obeys_storageInsert ctx _ := obeys_executeOnPrimary ctx _
  obeys_storageFind ctx _ := (obeys_findOnRouted ctx _).mono fun _ h e he =>
    congrArg VaultPrimaryKey.getPartitionKey (h e he)

/-- The impl of deletion keeps its promises. -/
def deletableSpec : kvDeletableResource.Spec where
  toSpec := spec
  deleteStatement := .deleteVault
  generateDeleteDrainerQuery_eq _ := rfl
  deleteStatement_partitionKey _ := rfl
  deleteStatement_effect _ := rfl
  run_storageDelete _ s := ⟨_, run_executeOnPrimary s _⟩
  obeys_storageDelete ctx _ := obeys_executeOnPrimary ctx _

/-- The impl of updates keeps its promises. -/
def updatableSpec : kvUpdatableResource.Spec where
  toSpec := spec
  updateStatement update pk := .updateVault pk update
  generateUpdateDrainerQuery_eq _ _ := rfl
  updateStatement_partitionKey _ _ := rfl
  updateStatement_updatedBy _ _ _ _ h := by cases h; rfl
  serialize_applyUpdate _ _ := rfl
  obeys_storageUpdate ctx _ _ := Obeys.mapResult (obeys_executeOnPrimary ctx _)

/-- `storage_update` when nothing comes in between. -/
theorem run_storageUpdate (update : VaultUpdate) (pk : VaultPrimaryKey) (s : Store) :
    (kvUpdatableResource.storageUpdate update pk).run Store.exec s =
      (((s.pg.execute (.updateVault pk update)).1.mapError StorageErrorExt.fromDieselError).map
        VaultInner.toVault, { s with pg := s.pg.apply (.updateVault pk update) }) := by
  have h := run_executeOnPrimary (E := VaultDBError) s (.updateVault pk update)
  refine (Prog.run_mapResult Store.exec _ _ s).trans ?_
  exact congrArg (fun answer => (Except.map VaultInner.toVault answer.1, answer.2)) h

end Vault

end CardVault
