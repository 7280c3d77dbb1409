import CardVault.Rows

/-!
# Which owners share a Redis key

The text of a key joins its components with `_` and escapes nothing, so it
belongs to one row alone exactly when no component contains `_`. Where this holds
of every id in a run, what one merchant or entity does never changes what
another finds.

Main results:
* `Owns.display_ne`: two owners have no Redis key in common.
* `after_unchanged`: a call leaves the rows of every other owner as they are.
* `keys_isolate_owners`: which keys are shared, and isolation over runs.
-/

namespace CardVault

open Interaction Relational

/-! ## Owners -/

/-- A merchant owns lockers, an entity owns vault rows. -/
inductive Owner where
  | merchant (merchantId : String)
  | entity (entityId : String)
  deriving DecidableEq, Repr

/-- The keys of an owner's rows and of their lookup records, without `_` in any
    component. -/
inductive Owns : Owner → PartitionKey → Prop where
  | locker (pk : LockerPrimaryKeyType) (h : pk.IsPlain) :
    Owns (.merchant pk.merchantId) pk.getPartitionKey
  | lookup (key : LockerHashLookupKey) (h : key.IsPlain) :
    Owns (.merchant key.merchantId) (.reverseLookup key.getLookupKey.lookupId)
  | vault (pk : VaultPrimaryKey) (h : pk.IsPlain) : Owns (.entity pk.entityId) pk.getPartitionKey

/-- Two owners have no Redis key in common. -/
theorem Owns.display_ne {o o' : Owner} {key key' : PartitionKey} (h : Owns o key)
    (h' : Owns o' key') (hne : o ≠ o') : key.display ≠ key'.display := by
  intro heq
  cases h with
  | locker pk hpk =>
    cases h' with
    | locker pk' hpk' =>
      exact hne (by rw [LockerPrimaryKeyType.display_unique_iff.2 hpk' pk heq])
    | lookup key' hkey' => exact display_locker_ne_reverseLookup pk _ heq
    | vault pk' hpk' =>
      cases @PartitionKey.resource_eq_of_display _ _ .locker .vault rfl rfl heq
  | lookup key hkey =>
    cases h' with
    | locker pk' hpk' => exact display_locker_ne_reverseLookup pk' _ heq.symm
    | lookup key' hkey' =>
      have hid := congrArg ReverseLookupKey.mk (PartitionKey.display_reverseLookup_inj.1 heq)
      exact hne (by rw [LockerHashLookupKey.getLookupKey_unique_iff.2 hkey' key hid])
    | vault pk' hpk' =>
      cases @PartitionKey.resource_eq_of_display _ _ .reverseLookup .vault rfl rfl heq
  | vault pk hpk =>
    cases h' with
    | locker pk' hpk' =>
      cases @PartitionKey.resource_eq_of_display _ _ .vault .locker rfl rfl heq
    | lookup key' hkey' =>
      cases @PartitionKey.resource_eq_of_display _ _ .vault .reverseLookup rfl rfl heq
    | vault pk' hpk' => exact hne (by rw [VaultPrimaryKey.display_unique_iff.2 hpk' pk heq])

/-- Whose rows a call is about. -/
def Request.owner : Request → Option Owner
  | .insertVault new => some (.entity new.entityId)
  | .updateVaultData _ entityId _ | .deleteFromVault _ entityId
  | .findByVaultIdEntityId _ entityId => some (.entity entityId)
  | .insertLocker new => some (.merchant new.merchantId)
  | .deleteLocker _ merchantId _ | .findByLockerIdMerchantIdCustomerId _ merchantId _
  | .findOptionalByHashIdMerchantIdCustomerId _ merchantId _ => some (.merchant merchantId)
  | .insertHash .. | .findOptionalByDataHash _ | .insertFingerprint ..
  | .findOptionalByFingerprintHash _ => none

/-- No id of a call contains `_`. -/
def Request.IsPlain : Request → Prop
  | .insertVault new => new.primaryKey.IsPlain
  | .updateVaultData vaultId entityId _ | .deleteFromVault vaultId entityId
  | .findByVaultIdEntityId vaultId entityId => VaultPrimaryKey.IsPlain ⟨entityId, vaultId⟩
  | .insertLocker new => new.primaryKey.IsPlain ∧ new.hashKey.IsPlain
  | .deleteLocker lockerId merchantId customerId
  | .findByLockerIdMerchantIdCustomerId lockerId merchantId customerId =>
    LockerPrimaryKeyType.IsPlain ⟨lockerId, merchantId, customerId⟩
  | .findOptionalByHashIdMerchantIdCustomerId hashId merchantId customerId =>
    LockerHashLookupKey.IsPlain ⟨hashId, merchantId, customerId⟩
  | .insertHash .. | .findOptionalByDataHash _ | .insertFingerprint ..
  | .findOptionalByFingerprintHash _ => True

/-! ## Rows without `_` -/

/-- No id of a locker contains `_`, and a lookup record is the one of such a
    locker. -/
def Row.IsPlain : Row → Prop
  | .locker row => row.hashKey.IsPlain
  | .reverseLookup lookup => ∃ (pk : LockerPrimaryKeyType) (hashId : String),
    pk.IsPlain ∧ Plain hashId ∧
      lookup.lookupId =
        (LockerHashLookupKey.getLookupKey ⟨hashId, pk.merchantId, pk.customerId⟩).lookupId ∧
      lookup.partitionKey = pk.getPartitionKey.display
  | .fingerprint _ | .hashTable _ | .vault _ => True

namespace Store

variable {ctx : KvStoreContext} {s s' : Store}

theorem AllRows.insertRow (h : s.AllRows Row.IsPlain) (key : PartitionKey) {row : Row}
    {stmt : StorageScheme → Statement} (entityType : String) (hrow : row.IsPlain)
    (hstmt : ∀ scheme, (stmt scheme).Keeps Row.IsPlain) :
    (s.insertRow ctx key row stmt entityType).AllRows Row.IsPlain := by
  unfold Store.insertRow
  split_ifs
  · split
    · exact h
    · exact h.write key hrow (hstmt _)
  · exact h.apply (hstmt _)

/-- A call without `_` in its ids stores only such rows. -/
theorem AllRows.after (h : s.AllRows Row.IsPlain) {r : Request} (hr : r.IsPlain) :
    (s.after ctx r).AllRows Row.IsPlain := by
  cases r with
  | insertVault new =>
    rw [Store.after]
    exact h.insertRow _ _ trivial fun _ _ => trivial
  | updateVaultData vaultId entityId update =>
    have hkeeps : ∀ update, (Statement.updateVault ⟨entityId, vaultId⟩ update).Keeps Row.IsPlain :=
      fun update row hrow => by cases row <;> exact hrow
    change (s.updateVault ctx ⟨entityId, vaultId⟩ update).AllRows Row.IsPlain
    unfold updateVault
    split_ifs
    · split
      · exact h.write _ trivial (hkeeps _)
      · exact h
    · exact h.apply (hkeeps _)
  | deleteFromVault vaultId entityId => exact h.remove _ trivial
  | insertLocker new =>
    have hlookup : Row.IsPlain (.reverseLookup (ReverseLookupNew.toReverseLookup
        (newLookup Locker.kvResource new.primaryKey.getPartitionKey.display
          new.hashKey.getLookupKey .redisKv))) :=
      ⟨new.primaryKey, new.hashId, hr.1, hr.2.2.2, rfl, rfl⟩
    exact h.insertLocker new hlookup hr.2 fun _ _ => hr.2
  | deleteLocker lockerId merchantId customerId => exact h.deleteLocker _
  | insertHash uuid now dataHash =>
    rw [Store.after]
    exact h.insertRow _ _ trivial fun _ _ => trivial
  | insertFingerprint fingerprintHash fingerprintId =>
    rw [Store.after]
    exact h.insertRow _ _ trivial fun _ _ => trivial
  | _ => exact h

/-! ## What a call leaves alone -/

/-- What the finds of an owner read is the same. -/
structure Unchanged (o : Owner) (s s' : Store) : Prop where
  mode : s'.mode = s.mode
  cached : ∀ key, Owns o key → s'.cached key = s.cached key
  rowAt : ∀ key, Owns o key → s'.pg.rowAt key = s.pg.rowAt key
  byHash : ∀ key : LockerHashLookupKey, o = .merchant key.merchantId →
    s'.pg.lockerRowByHash key = s.pg.lockerRowByHash key

theorem Unchanged.refl (o : Owner) (s : Store) : Unchanged o s s :=
  ⟨rfl, fun _ _ => rfl, fun _ _ => rfl, fun _ _ => rfl⟩

theorem Unchanged.trans {o : Owner} {s'' : Store} (h : Unchanged o s s')
    (h' : Unchanged o s' s'') : Unchanged o s s'' where
  mode := h'.mode.trans h.mode
  cached key hkey := (h'.cached key hkey).trans (h.cached key hkey)
  rowAt key hkey := (h'.rowAt key hkey).trans (h.rowAt key hkey)
  byHash key hkey := (h'.byHash key hkey).trans (h.byHash key hkey)

variable {o o' : Owner}

/-- A statement about another merchant's locker does not change what is found by
    lookup columns. -/
theorem lockerRowByHash_apply {stmt : Statement} (h : Owns o stmt.partitionKey)
    {key : LockerHashLookupKey} (hne : o ≠ .merchant key.merchantId) (pg : Pg) :
    (pg.apply stmt).lockerRowByHash key = pg.lockerRowByHash key := by
  cases stmt with
  | insertLocker new =>
    refine get_insertRow_of_ne fun _ hkey => hne ?_
    generalize hk : (Statement.insertLocker new).partitionKey = k at h
    cases h with
    | locker pk _ =>
      obtain ⟨lockerId, merchantId, customerId⟩ := pk
      cases hk
      exact congrArg (fun k => Owner.merchant k.merchantId) hkey
    | lookup => cases hk
    | vault => cases hk
  | deleteLocker pk =>
    refine Table.get_delete_of_ne fun row hrow hpk => hne ?_
    generalize hk : (Statement.deleteLocker pk).partitionKey = k at h
    cases h with
    | locker pk' _ =>
      obtain ⟨lockerId, merchantId, customerId⟩ := pk'
      cases hk
      rw [← hrow]
      exact congrArg (fun k => Owner.merchant k.merchantId) hpk.symm
    | lookup => cases hk
    | vault => cases hk
  | _ => rfl

theorem Unchanged.apply {stmt : Statement} (h : Owns o stmt.partitionKey) (hne : o ≠ o')
    (s : Store) : Unchanged o' s { s with pg := s.pg.apply stmt } where
  mode := rfl
  cached _ _ := rfl
  rowAt _ hkey := Pg.rowAt_apply_of_ne fun heq => h.display_ne hkey hne (congrArg _ heq)
  byHash _ hkey := lockerRowByHash_apply h (hkey ▸ hne) s.pg

theorem Unchanged.write {key : PartitionKey} (h : Owns o key) (hne : o ≠ o') (s : Store)
    (row : Row) (query : SerializableQuery) : Unchanged o' s (s.write ctx key row query) where
  mode := rfl
  cached _ hkey' := by rw [write_cached, if_neg (h.display_ne hkey' hne).symm]
  rowAt _ _ := rfl
  byHash _ _ := rfl

theorem Unchanged.remove {key : PartitionKey} (h : Owns o key) (hne : o ≠ o') (s : Store)
    {query : SerializableQuery} (hquery : query.statement.partitionKey = key) :
    Unchanged o' s (s.remove ctx key query) := by
  unfold Store.remove
  split_ifs
  · refine ⟨rfl, fun key' hkey' => ?_, fun _ _ => rfl, fun _ _ => rfl⟩
    rw [erase_cached, if_neg (h.display_ne hkey' hne).symm]
  · exact Unchanged.apply (hquery.symm ▸ h) hne s

theorem Unchanged.insertRow {key : PartitionKey} (h : Owns o key) (hne : o ≠ o') (s : Store)
    (row : Row) {stmt : StorageScheme → Statement}
    (hstmt : ∀ scheme, (stmt scheme).partitionKey = key) (entityType : String) :
    Unchanged o' s (s.insertRow ctx key row stmt entityType) := by
  unfold Store.insertRow
  split_ifs
  · split
    · exact Unchanged.refl o' s
    · exact Unchanged.write h hne s _ _
  · exact Unchanged.apply ((hstmt .postgresOnly).symm ▸ h) hne s

/-- A call leaves the rows of every other owner as they are. -/
theorem after_unchanged (hs : s.WellFormed ctx) (hrows : s.AllRows Row.IsPlain) {r : Request}
    (hr : r.IsPlain) (ho : r.owner = some o) (hne : o ≠ o') : Unchanged o' s (s.after ctx r) := by
  cases r with
  | insertVault new =>
    cases ho
    rw [Store.after]
    exact Unchanged.insertRow (Owns.vault new.primaryKey hr) hne s _ (fun _ => rfl) _
  | updateVaultData vaultId entityId update =>
    cases ho
    have howns := Owns.vault ⟨entityId, vaultId⟩ hr
    change Unchanged o' s (s.updateVault ctx ⟨entityId, vaultId⟩ update)
    unfold updateVault
    split_ifs
    · split
      · exact Unchanged.write howns hne s _ _
      · exact Unchanged.refl o' s
    · exact Unchanged.apply howns hne s
  | deleteFromVault vaultId entityId =>
    cases ho
    exact Unchanged.remove (Owns.vault ⟨entityId, vaultId⟩ hr) hne s rfl
  | insertLocker new =>
    cases ho
    have hlookup := Owns.lookup new.hashKey hr.2
    have hlocker := Owns.locker new.primaryKey hr.1
    have hwritten : Unchanged o' s (s.writeLookup ctx new) := Unchanged.write hlookup hne s _ _
    change Unchanged o' s (s.insertLocker ctx new)
    unfold insertLocker
    split_ifs
    · split
      · exact Unchanged.refl o' s
      · split
        · exact hwritten
        · exact hwritten.trans (Unchanged.write hlocker hne _ _ _)
    · exact Unchanged.apply hlocker hne s
  | deleteLocker lockerId merchantId customerId =>
    cases ho
    have hlocker := Owns.locker ⟨lockerId, merchantId, customerId⟩ hr
    have hremoved : Unchanged o' s (s.removeLocker ctx ⟨lockerId, merchantId, customerId⟩) :=
      Unchanged.remove hlocker hne s rfl
    change Unchanged o' s (s.deleteLocker ctx ⟨lockerId, merchantId, customerId⟩)
    unfold deleteLocker
    split
    · rename_i row hrow
      -- the row found has the key of the call, so its lookup record has the same owner
      have hpk := LockerPrimaryKeyType.display_unique_iff.2 hr row.primaryKey
        (display_of_visible ctx hs hrow)
      have hlookup := Owns.lookup row.hashKey (hrows.of_visible hrow)
      have hmerchant : row.hashKey.merchantId = merchantId :=
        congrArg LockerPrimaryKeyType.merchantId hpk
      rw [hmerchant] at hlookup
      exact hremoved.trans (Unchanged.remove hlookup hne _ rfl)
    · exact hremoved
  | insertHash => cases ho
  | insertFingerprint => cases ho
  | _ => exact Unchanged.refl o' s

/-! ## Finds -/

variable (ctx) in
/-- The finds of an owner answer the same, for ids without `_`. -/
structure SameFinds (s s' : Store) (o : Owner) : Prop where
  locker : ∀ pk : LockerPrimaryKeyType, pk.IsPlain → o = .merchant pk.merchantId →
    ((findByLockerIdMerchantIdCustomerId ctx pk.lockerId pk.merchantId pk.customerId).run
        exec s').1 =
      ((findByLockerIdMerchantIdCustomerId ctx pk.lockerId pk.merchantId pk.customerId).run
        exec s).1
  lockerByHash : ∀ key : LockerHashLookupKey, key.IsPlain → o = .merchant key.merchantId →
    ((findOptionalByHashIdMerchantIdCustomerId ctx key.hashId key.merchantId key.customerId).run
        exec s').1 =
      ((findOptionalByHashIdMerchantIdCustomerId ctx key.hashId key.merchantId key.customerId).run
        exec s).1
  vault : ∀ pk : VaultPrimaryKey, pk.IsPlain → o = .entity pk.entityId →
    ((findByVaultIdEntityId ctx pk.vaultId pk.entityId).run exec s').1 =
      ((findByVaultIdEntityId ctx pk.vaultId pk.entityId).run exec s).1

theorem Unchanged.visible (h : Unchanged o s s') {key : PartitionKey} (hkey : Owns o key) :
    s'.visible key = s.visible key := by
  unfold Store.visible
  rw [h.mode, h.cached key hkey, h.rowAt key hkey]

/-- A lookup record of an owner points to one of its own keys. -/
theorem Unchanged.visibleByLookup (h : Unchanged o s s') (hs : s.WellFormed ctx)
    (hrows : s.AllRows Row.IsPlain) {key : LockerHashLookupKey} (hkey : key.IsPlain)
    (ho : o = .merchant key.merchantId) : s'.visibleByLookup key = s.visibleByLookup key := by
  subst ho
  have hvisible := h.visible (Owns.lookup key hkey)
  unfold Store.visibleByLookup
  rw [h.mode, hvisible, h.byHash key rfl]
  cases hv : s.visible (.reverseLookup key.getLookupKey.lookupId) with
  | none => rfl
  | some row =>
    cases row with
    | reverseLookup lookup =>
      obtain ⟨pk, hashId, hpk, hhash, hid, htext⟩ := hrows.of_visible hv
      have hlookupId := PartitionKey.display_reverseLookup_inj.1 (display_of_visible ctx hs hv)
      have hsame := LockerHashLookupKey.getLookupKey_unique_iff.2 hkey
        ⟨hashId, pk.merchantId, pk.customerId⟩
        (congrArg ReverseLookupKey.mk (hid.symm.trans hlookupId))
      have hmerchant : pk.merchantId = key.merchantId := by rw [← hsame]
      have hcached := h.cached _ (hmerchant ▸ Owns.locker pk hpk)
      unfold Store.cached at hcached
      dsimp only
      rw [htext, hcached]
    | _ => rfl

theorem Unchanged.sameFinds (h : Unchanged o s s') (hs : s.WellFormed ctx)
    (hs' : s'.WellFormed ctx) (hrows : s.AllRows Row.IsPlain) : SameFinds ctx s s' o where
  locker pk hpk ho := by
    subst ho
    have hfind := fun s => Prog.run_mapResult_of (run_findResourceByIdInner ctx s Locker.spec pk)
      (Except.map LockerInner.toLocker)
    have hvisible := h.visible (Owns.locker pk hpk)
    refine (congrArg Prod.fst (hfind s')).trans (Eq.trans ?_ (congrArg Prod.fst (hfind s)).symm)
    exact congrArg (fun row => Except.map LockerInner.toLocker (Locker.kvResource.answer row))
      hvisible
  lockerByHash key hkey ho := by
    have hvisible := h.visibleByLookup hs hrows hkey ho
    have hfind := fun s hs => Prog.run_mapResult_of (run_findResourceByLookupId ctx s hs key)
      optionalResult
    refine (congrArg Prod.fst (hfind s' hs')).trans
      (Eq.trans ?_ (congrArg Prod.fst (hfind s hs)).symm)
    exact congrArg (fun row => optionalResult
      (Except.map LockerInner.toLocker (Locker.kvResource.answer row))) hvisible
  vault pk hpk ho := by
    subst ho
    rw [run_findByVaultIdEntityId ctx s' hs' pk, run_findByVaultIdEntityId ctx s hs pk,
      visibleVault, visibleVault, h.visible (Owns.vault pk hpk)]

/-! ## Runs -/

/-- A run without `_` in its ids stores only such rows. -/
theorem runActs_allRows (acts : List Action) :
    ∀ s : Store, s.WellFormed ctx → s.AllRows Row.IsPlain →
      (∀ r, Action.request r ∈ acts → r.IsPlain) →
        (runActs (step ctx) acts s).AllRows Row.IsPlain := by
  induction acts with
  | nil => exact fun s _ h _ => h
  | cons a acts ih =>
    intro s hs h hacts
    refine ih _ (step_wellFormed hs a) ?_ fun r hr => hacts r (List.mem_cons_of_mem a hr)
    cases a with
    | request r =>
      rw [step_request hs]
      exact h.after (hacts r List.mem_cons_self)
    | env e => exact h.envStep e
    | setRuntimeConfig config => exact h.setRuntimeConfig config

/-- Which keys are shared: locker keys, vault keys and lookup ids with a `_` in a
    component, and no others. In a run without such ids, over tables without them,
    what one owner does never changes what another finds. -/
theorem keys_isolate_owners (ctx : KvStoreContext) (config : Option RuntimeConfigValues)
    (hasReplica : Bool) (pg : Pg) :
    (∀ pk : LockerPrimaryKeyType,
      (∀ pk' : LockerPrimaryKeyType,
        pk'.getPartitionKey.display = pk.getPartitionKey.display → pk' = pk) ↔ pk.IsPlain) ∧
    (∀ pk : VaultPrimaryKey,
      (∀ pk' : VaultPrimaryKey,
        pk'.getPartitionKey.display = pk.getPartitionKey.display → pk' = pk) ↔ pk.IsPlain) ∧
    (∀ key : LockerHashLookupKey,
      (∀ key' : LockerHashLookupKey, key'.getLookupKey = key.getLookupKey → key' = key) ↔
        key.IsPlain) ∧
    (∀ hash hash' : Bytes, (PartitionKey.fingerprint hash).display =
      (PartitionKey.fingerprint hash').display → hash = hash') ∧
    (∀ hash hash' : Bytes, (PartitionKey.hashTable hash).display =
      (PartitionKey.hashTable hash').display → hash = hash') ∧
    (∀ id id' : String, (PartitionKey.reverseLookup id).display =
      (PartitionKey.reverseLookup id').display → id = id') ∧
    (∀ (key key' : PartitionKey) (t t' : Resource), key.resource = some t →
      key'.resource = some t' → key.display = key'.display → t = t') ∧
    ((∀ key row, pg.rowAt key = some row → row.IsPlain) →
      ∀ acts : List Action, (∀ r, Action.request r ∈ acts → r.IsPlain) →
        ∀ (r : Request) (o o' : Owner), r.IsPlain → r.owner = some o → o ≠ o' →
          SameFinds ctx (runActs (step ctx) acts (Store.fresh config hasReplica pg))
            ((runActs (step ctx) acts (Store.fresh config hasReplica pg)).step ctx
              (.request r)) o') := by
  refine ⟨fun _ => LockerPrimaryKeyType.display_unique_iff,
    fun _ => VaultPrimaryKey.display_unique_iff,
    fun _ => LockerHashLookupKey.getLookupKey_unique_iff,
    fun _ _ => PartitionKey.display_fingerprint_inj.1,
    fun _ _ => PartitionKey.display_hashTable_inj.1,
    fun _ _ => PartitionKey.display_reverseLookup_inj.1,
    fun _ _ _ _ => PartitionKey.resource_eq_of_display, ?_⟩
  intro hpg acts hacts r o o' hr ho hne
  have hs : (Store.fresh config hasReplica pg).WellFormed ctx := fresh_wellFormed _ _ _
  have hwf := runActs_wellFormed hs acts
  have hrows := runActs_allRows acts _ hs (fresh_allRows config hasReplica hpg) hacts
  have hunchanged := after_unchanged hwf hrows hr ho hne
  rw [← step_request hwf] at hunchanged
  exact hunchanged.sameFinds hwf (step_wellFormed hwf _) hrows

/-- A locker of the merchant `shop`. -/
def shopLocker (merchantId customerId : String) : LockerNew :=
  { lockerId := "card", merchantId, customerId, encData := [1], createdAt := ⟨0⟩, hashId := "hash"
    ttl := none, updatedBy := none }

/-- The merchants `shop` and `store` have a locker each. -/
def twoShops : List Action :=
  [.request (.insertLocker (shopLocker "shop" "alice")),
    .request (.insertLocker (shopLocker "store" "bob"))]

theorem keys_isolate_owners_shop :
    (∀ pk : LockerPrimaryKeyType, pk.getPartitionKey.display =
      (shopLocker "store" "bob").primaryKey.getPartitionKey.display →
        pk = (shopLocker "store" "bob").primaryKey) ∧
    ((findByLockerIdMerchantIdCustomerId .default "card" "store" "bob").run exec
      (runActs (step .default) twoShops emptyStore)).1 =
        .ok ⟨"card", "store", "bob", .encrypted [1], ⟨0⟩, "hash", none, some .redisKv⟩ ∧
    SameFinds .default (runActs (step .default) twoShops emptyStore)
      ((runActs (step .default) twoShops emptyStore).step .default
        (.request (.deleteLocker "card" "shop" "alice"))) (.merchant "store") := by
  have hisolate := keys_isolate_owners .default (some ⟨.enabled, false⟩) false Pg.empty
  refine ⟨(hisolate.1 _).2 (by decide), by decide +kernel, hisolate.2.2.2.2.2.2.2
    (fun key row h => by simp [Pg.rowAt_empty] at h) twoShops ?_
    (.deleteLocker "card" "shop" "alice") (.merchant "shop") (.merchant "store")
    (by change _ ∧ _; decide) rfl (by decide)⟩
  simp only [twoShops, List.mem_cons, List.not_mem_nil, or_false]
  rintro r (h | h) <;> cases h <;> (change _ ∧ _; decide)

/-- Two merchants can share a Redis key, and the one then finds the locker of the
    other. -/
theorem keys_cross_owners :
    (¬ ∀ pk pk' : LockerPrimaryKeyType,
      pk.getPartitionKey.display = pk'.getPartitionKey.display → pk = pk') ∧
    ¬ ∀ (ctx : KvStoreContext) (s : Store) (r : Request) (o o' : Owner), Reachable ctx .enabled s →
      r.owner = some o → o ≠ o' → ∀ pk : LockerPrimaryKeyType, o' = .merchant pk.merchantId →
        ((findByLockerIdMerchantIdCustomerId ctx pk.lockerId pk.merchantId pk.customerId).run
            exec (s.step ctx (.request r))).1 =
          ((findByLockerIdMerchantIdCustomerId ctx pk.lockerId pk.merchantId pk.customerId).run
            exec s).1 := by
  constructor
  · intro h
    exact absurd (h ⟨"card", "shop_a", "b"⟩ ⟨"card", "shop", "a_b"⟩ (by decide)) (by decide)
  · intro h
    have hsame := h .default emptyStore (.insertLocker (shopLocker "shop_a" "b"))
      (.merchant "shop_a") (.merchant "shop")
      ⟨some ⟨.enabled, false⟩, false, Pg.empty, [], rfl, by simp, rfl⟩ rfl (by decide)
      ⟨"card", "shop", "a_b"⟩ rfl
    have hbefore : ((findByLockerIdMerchantIdCustomerId .default "card" "shop" "a_b").run exec
        emptyStore).1 = .error .notFoundError := by decide +kernel
    have hafter : ((findByLockerIdMerchantIdCustomerId .default "card" "shop" "a_b").run exec
        (emptyStore.step .default (.request (.insertLocker (shopLocker "shop_a" "b"))))).1 =
          .ok ⟨"card", "shop_a", "b", .encrypted [1], ⟨0⟩, "hash", none, some .redisKv⟩ := by
      decide +kernel
    cases hafter.symm.trans (hsame.trans hbefore)

end Store

end CardVault
