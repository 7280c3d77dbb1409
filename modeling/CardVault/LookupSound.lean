import CardVault.Isolation

/-!
# What a find by lookup columns may answer

A find of a locker by `(hash_id, merchant_id, customer_id)` follows the lookup record of
the three texts to a Redis key and answers the row there, without a look at its columns
(`find_resource_by_lookup_id`, `src/src/storage/kv/resource.rs`). The record is written
before the row, so it stays when the row is refused.

Main results:
* `LookupsSound.step`: what keeps every lookup record and the row it leads to in step.
* `lookups_sound`: in which runs every find answers a row with the columns it asks for.
-/

namespace CardVault

open Interaction

/-- A lookup record that names a Redis key is the one of a lookup id. -/
def Row.NamesOnly (partitionKey lookupId : String) (row : Row) : Prop :=
  ∀ record, row = .reverseLookup record → record.partitionKey = partitionKey →
    record.lookupId = lookupId

/-- A statement that is no INSERT of a lookup record stores none. -/
theorem Statement.keeps_namesOnly {stmt : Statement}
    (h : ∀ new, stmt ≠ .insertReverseLookup new) (partitionKey lookupId : String) :
    stmt.Keeps (Row.NamesOnly partitionKey lookupId) := by
  cases stmt with
  | insertReverseLookup new => exact absurd rfl (h new)
  | updateVault pk update =>
    intro row hrow record hrecord
    cases row with
    | reverseLookup row => exact hrow record hrecord
    | _ => cases hrecord
  | insertFingerprint | insertHashTable | insertLocker | insertVault =>
    intro id record hrecord
    cases hrecord
  | _ => trivial

namespace Store

variable {ctx : KvStoreContext} {s : Store}

/-! ## The invariant -/

/-- A lookup record that leads to a row in Redis, now or once it is replayed, is the one of
    that row's columns, and of these alone. -/
structure LookupsSound (s : Store) : Prop where
  plain : ∀ key row, s.redis key key = some (.locker row) → row.hashKey.IsPlain
  names : ∀ key row, s.redis key key = some (.locker row) →
    s.AllRows (Row.NamesOnly key row.hashKey.getLookupKey.lookupId)

/-- An insert leads no lookup record to a row with other columns: its columns have no other
    lookup id, and under its key there is neither a row of another lookup id nor a lookup
    record of another one that names the key, stored or queued. -/
structure LookupFits (s : Store) (new : LockerNew) : Prop where
  plain : new.hashKey.IsPlain
  row : ∀ row, s.cached new.primaryKey.getPartitionKey = some (.locker row) →
    row.hashKey.getLookupKey = new.hashKey.getLookupKey
  records : s.AllRows (Row.NamesOnly new.primaryKey.getPartitionKey.display
    new.hashKey.getLookupKey.lookupId)

/-- Every insert that writes a lookup record fits. -/
def InsertFits (s : Store) : Action → Prop
  | .request (.insertLocker new) =>
    s.mode = .enabled → s.cached (.reverseLookup new.hashKey.getLookupKey.lookupId) = none →
      s.LookupFits new
  | _ => True

theorem fresh_lookupsSound (config : Option RuntimeConfigValues) (hasReplica : Bool) (pg : Pg) :
    (Store.fresh config hasReplica pg).LookupsSound where
  plain _ _ h := by cases h
  names _ _ h := by cases h

/-- A change that adds no locker to Redis and no lookup record anywhere. -/
theorem LookupsSound.mono (h : s.LookupsSound) {s' : Store}
    (hredis : ∀ key row, s'.redis key key = some (.locker row) →
      s.redis key key = some (.locker row))
    (hrows : ∀ key lookupId, s.AllRows (Row.NamesOnly key lookupId) →
      s'.AllRows (Row.NamesOnly key lookupId)) : s'.LookupsSound where
  plain key row hrow := h.plain key row (hredis key row hrow)
  names key row hrow := hrows _ _ (h.names key row (hredis key row hrow))

theorem LookupsSound.write (h : s.LookupsSound) (key : PartitionKey) {row : Row}
    {query : SerializableQuery} (hlocker : ∀ r, row ≠ .locker r)
    (hrecord : ∀ r, row ≠ .reverseLookup r)
    (hquery : ∀ new, query.statement ≠ .insertReverseLookup new) :
    (s.write ctx key row query).LookupsSound := by
  refine h.mono (fun k r hr => ?_) fun k lookupId hrows =>
    hrows.write key (fun record hrow => absurd hrow (hrecord record))
      (Statement.keeps_namesOnly hquery k lookupId)
  change s.redis.setField key.display key.display row k k = _ at hr
  rw [Redis.setField_apply] at hr
  split_ifs at hr with hkey
  · exact absurd (Option.some.inj hr) (hlocker r)
  · exact hr

theorem LookupsSound.apply (h : s.LookupsSound) {stmt : Statement}
    (hstmt : ∀ new, stmt ≠ .insertReverseLookup new) :
    ({ s with pg := s.pg.apply stmt } : Store).LookupsSound :=
  h.mono (fun _ _ hr => hr) fun k lookupId hrows =>
    hrows.apply (Statement.keeps_namesOnly hstmt k lookupId)

theorem LookupsSound.remove (h : s.LookupsSound) (key : PartitionKey) {query : SerializableQuery}
    (hquery : ∀ new, query.statement ≠ .insertReverseLookup new) :
    (s.remove ctx key query).LookupsSound := by
  refine h.mono (fun k r hr => ?_) fun k lookupId hrows =>
    hrows.remove key (Statement.keeps_namesOnly hquery k lookupId)
  unfold Store.remove at hr
  split_ifs at hr
  · change s.redis.deleteField key.display key.display k k = _ at hr
    rw [Redis.deleteField_apply] at hr
    split_ifs at hr
    exact hr
  · exact hr

theorem LookupsSound.insertRow (h : s.LookupsSound) (key : PartitionKey) {row : Row}
    {stmt : StorageScheme → Statement} (entityType : String) (hlocker : ∀ r, row ≠ .locker r)
    (hrecord : ∀ r, row ≠ .reverseLookup r)
    (hstmt : ∀ scheme new, stmt scheme ≠ .insertReverseLookup new) :
    (s.insertRow ctx key row stmt entityType).LookupsSound := by
  unfold Store.insertRow
  split_ifs
  · split
    · exact h
    · exact h.write key hlocker hrecord (hstmt _)
  · exact h.apply (hstmt _)

theorem LookupsSound.envStep (h : s.LookupsSound) (e : EnvStep) :
    (s.envStep ctx e).LookupsSound := by
  refine h.mono (fun k r hr => ?_) fun k lookupId hrows => hrows.envStep e
  cases e with
  | drain stream => rwa [show (s.envStep ctx (.drain stream)).redis = s.redis from
      drain_redis s stream] at hr
  | expire key =>
    rcases expire_cases ctx s key with heq | ⟨-, heq⟩
    · rwa [show s.envStep ctx (.expire key) = s from heq] at hr
    · rw [show s.envStep ctx (.expire key) = _ from heq] at hr
      change s.redis.expire key k k = _ at hr
      rw [Redis.expire_apply] at hr
      split_ifs at hr
      exact hr

/-! ## Steps -/

/-- The lookup record of a new locker that fits. -/
theorem LookupsSound.writeLookup (h : s.LookupsSound) {new : LockerNew} (hnew : s.LookupFits new) :
    (s.writeLookup ctx new).LookupsSound := by
  have hredis : ∀ key row, (s.writeLookup ctx new).redis key key = some (.locker row) →
      s.redis key key = some (.locker row) := by
    intro key row hrow
    change s.redis.setField _ _ (.reverseLookup _) key key = _ at hrow
    rw [Redis.setField_apply] at hrow
    split_ifs at hrow
    · cases hrow
    · exact hrow
  refine ⟨fun key row hrow => h.plain key row (hredis key row hrow), fun key row hrow => ?_⟩
  have hrow := hredis key row hrow
  have hnames : Row.NamesOnly key row.hashKey.getLookupKey.lookupId
      (.reverseLookup (newLookup Locker.kvResource new.primaryKey.getPartitionKey.display
        new.hashKey.getLookupKey .redisKv).toReverseLookup) := by
    rintro record hrecord hkey
    cases hrecord
    -- the record names the key of a row in Redis, which has the columns of the new one
    have hkey : new.primaryKey.getPartitionKey.display = key := hkey
    subst hkey
    exact congrArg ReverseLookupKey.lookupId (hnew.row row hrow).symm
  exact (h.names key row hrow).write _ hnames fun _ => hnames

/-- The row of a new locker that fits, after its lookup record. -/
theorem LookupsSound.writeLocker (h : s.LookupsSound) {new : LockerNew}
    (hplain : new.hashKey.IsPlain)
    (hrecords : s.AllRows (Row.NamesOnly new.primaryKey.getPartitionKey.display
      new.hashKey.getLookupKey.lookupId)) : (s.writeLocker ctx new).LookupsSound := by
  have hwrite : ∀ {key lookupId : String}, s.AllRows (Row.NamesOnly key lookupId) →
      (s.writeLocker ctx new).AllRows (Row.NamesOnly key lookupId) := fun hrows =>
    hrows.write _ (fun _ hrecord => by cases hrecord) fun _ _ hrecord => by cases hrecord
  have hredis : ∀ key row, (s.writeLocker ctx new).redis key key = some (.locker row) →
      key = new.primaryKey.getPartitionKey.display ∧ row.hashKey = new.hashKey ∨
        s.redis key key = some (.locker row) := by
    intro key row hrow
    change s.redis.setField _ _ (.locker _) key key = _ at hrow
    rw [Redis.setField_apply] at hrow
    split_ifs at hrow with hkey
    · cases hrow
      exact Or.inl ⟨hkey.1, rfl⟩
    · exact Or.inr hrow
  refine ⟨fun key row hrow => ?_, fun key row hrow => ?_⟩
  · rcases hredis key row hrow with ⟨-, hhash⟩ | hrow
    · rwa [hhash]
    · exact h.plain key row hrow
  · rcases hredis key row hrow with ⟨rfl, hhash⟩ | hrow
    · rw [hhash]
      exact hwrite hrecords
    · exact hwrite (h.names key row hrow)

/-- An insert keeps lookup records and rows in step when it fits. -/
theorem LookupsSound.insertLocker (h : s.LookupsSound) {new : LockerNew}
    (hnew : s.InsertFits (.request (.insertLocker new))) :
    (s.insertLocker ctx new).LookupsSound := by
  unfold Store.insertLocker
  split_ifs with hmode
  · cases hc : s.cached (.reverseLookup new.hashKey.getLookupKey.lookupId) with
    | some row => exact h
    | none =>
      have hfits := hnew hmode hc
      have hwritten : (s.writeLookup ctx new).LookupsSound := h.writeLookup hfits
      cases s.cached new.primaryKey.getPartitionKey with
      | some row => exact hwritten
      | none =>
        refine hwritten.writeLocker hfits.plain ?_
        have hnames : Row.NamesOnly new.primaryKey.getPartitionKey.display
            new.hashKey.getLookupKey.lookupId
            (.reverseLookup (newLookup Locker.kvResource new.primaryKey.getPartitionKey.display
              new.hashKey.getLookupKey .redisKv).toReverseLookup) := by
          rintro record hrecord -
          cases hrecord
          rfl
        exact hfits.records.write _ hnames fun _ => hnames
  · exact h.apply fun _ hstmt => by cases hstmt

/-- A call keeps lookup records and rows in step, an insert when it fits. -/
theorem LookupsSound.after (h : s.LookupsSound) {r : Request}
    (hr : s.InsertFits (.request r)) : (s.after ctx r).LookupsSound := by
  cases r with
  | insertLocker new => exact h.insertLocker hr
  | insertVault | insertHash | insertFingerprint =>
    rw [Store.after]
    exact h.insertRow _ _ (fun _ hrow => by cases hrow) (fun _ hrow => by cases hrow)
      fun _ _ hstmt => by cases hstmt
  | updateVaultData vaultId entityId update =>
    change (s.updateVault ctx ⟨entityId, vaultId⟩ update).LookupsSound
    unfold updateVault
    split_ifs
    · split
      · exact h.write _ (fun _ hrow => by cases hrow) (fun _ hrow => by cases hrow)
          fun _ hstmt => by cases hstmt
      · exact h
    · exact h.apply fun _ hstmt => by cases hstmt
  | deleteFromVault vaultId entityId => exact h.remove _ fun _ hstmt => by cases hstmt
  | deleteLocker lockerId merchantId customerId =>
    have hremoved : (s.removeLocker ctx ⟨lockerId, merchantId, customerId⟩).LookupsSound :=
      h.remove _ fun _ hstmt => by cases hstmt
    change (s.deleteLocker ctx ⟨lockerId, merchantId, customerId⟩).LookupsSound
    unfold deleteLocker
    split
    · exact hremoved.remove _ fun _ hstmt => by cases hstmt
    · exact hremoved
  | _ => exact h

/-- A step keeps lookup records and rows in step, an insert when it fits. -/
theorem LookupsSound.step (hs : s.WellFormed ctx) (h : s.LookupsSound) {a : Action}
    (ha : s.InsertFits a) : (s.step ctx a).LookupsSound := by
  cases a with
  | request r =>
    rw [step_request hs]
    exact h.after ha
  | env e => exact h.envStep e
  | setRuntimeConfig config =>
    exact h.mono (fun _ _ hrow => hrow) fun _ _ hrows => hrows.setRuntimeConfig config

/-! ## Finds -/

/-- The row that a find by lookup columns is about to answer has these columns. -/
theorem LookupsSound.hashKey_of_visible (hs : s.WellFormed ctx) (h : s.LookupsSound)
    {key : LockerHashLookupKey} {row : LockerInner}
    (hrow : s.visibleByLookup key = some (.locker row)) : row.hashKey = key := by
  have hpg : (s.pg.lockerRowByHash key).map Row.locker = some (.locker row) →
      row.hashKey = key := by
    intro hfound
    obtain ⟨row', hget, hrow'⟩ := Option.map_eq_some_iff.1 hfound
    cases hrow'
    exact Relational.Table.key_of_get hget
  unfold visibleByLookup at hrow
  cases hmode : s.mode with
  | disabled =>
    rw [hmode] at hrow
    exact hpg hrow
  | enabled | softKill =>
    rw [hmode] at hrow
    cases hlookup : s.visible (.reverseLookup key.getLookupKey.lookupId) with
    | none =>
      rw [hlookup] at hrow
      exact hpg hrow
    | some found =>
      obtain ⟨record, rfl, -⟩ := ReverseLookup.spec.exists_visible ctx s hs rfl hlookup
      rw [hlookup] at hrow
      cases hcached : s.redis record.partitionKey record.partitionKey with
      | none =>
        simp only [hcached] at hrow
        exact hpg hrow
      | some found =>
        simp only [hcached, Option.some.injEq] at hrow
        subst hrow
        have hid : record.lookupId = key.getLookupKey.lookupId :=
          PartitionKey.display_reverseLookup_inj.1 (display_of_visible ctx hs hlookup)
        have hnamed : record.lookupId = row.hashKey.getLookupKey.lookupId :=
          (h.names _ row hcached).of_visible hlookup record rfl rfl
        have hunique := LockerHashLookupKey.getLookupKey_unique_iff.2 (h.plain _ row hcached) key
        exact (hunique (congrArg ReverseLookupKey.mk (hid.symm.trans hnamed))).symm

end Store

/-- Where every insert that writes a lookup record fits, every find by lookup columns
    answers a row with these columns. -/
theorem lookups_sound (ctx : KvStoreContext) (config : Option RuntimeConfigValues)
    (hasReplica : Bool) (pg : Pg) (acts : List Action)
    (hacts : Good (Store.step ctx) Store.InsertFits acts (Store.fresh config hasReplica pg))
    (hashId merchantId customerId : String) (locker : Locker)
    (hfind : ((findOptionalByHashIdMerchantIdCustomerId ctx hashId merchantId customerId).run
      Store.exec (runActs (Store.step ctx) acts (Store.fresh config hasReplica pg))).1 =
        .ok (some locker)) :
    locker.hashId = hashId ∧ locker.merchantId = merchantId ∧ locker.customerId = customerId := by
  have hrun := run_invariant (I := fun s => s.WellFormed ctx ∧ s.LookupsSound)
    (fun s a hs ha => ⟨Store.step_wellFormed hs.1 a, hs.2.step hs.1 ha⟩) acts _
    ⟨Store.fresh_wellFormed config hasReplica pg, Store.fresh_lookupsSound config hasReplica pg⟩
    hacts
  generalize runActs (Store.step ctx) acts (Store.fresh config hasReplica pg) = s at hfind hrun
  have hsome : ∃ row, s.visibleByLookup ⟨hashId, merchantId, customerId⟩ = some (.locker row) ∧
      row.toLocker = locker := (findLockerByHash_some_iff ctx s hrun.1).1 hfind
  obtain ⟨row, hrow, rfl⟩ := hsome
  have hkey := hrun.2.hashKey_of_visible hrun.1 hrow
  exact ⟨congrArg LockerHashLookupKey.hashId hkey, congrArg LockerHashLookupKey.merchantId hkey,
    congrArg LockerHashLookupKey.customerId hkey⟩

namespace Store

/-- A card that is inserted twice, under two references. -/
def insertedTwice : List Action :=
  [.request (.insertLocker (lockerOf "card" "hash")),
    .request (.insertLocker (lockerOf "other" "hash"))]

/-- The card as it is found. -/
def firstCard : Locker := ⟨"card", "merchant", "customer", .encrypted [1], ⟨0⟩, "hash", none,
  some .redisKv⟩

/-- The second insert is refused before it writes, and the first card is found. -/
theorem lookups_sound_insertedTwice :
    ((findOptionalByHashIdMerchantIdCustomerId .default "hash" "merchant" "customer").run exec
        (runActs (step .default) insertedTwice emptyStore)).1 = .ok (some firstCard) ∧
      firstCard.hashId = "hash" ∧ firstCard.merchantId = "merchant" ∧
        firstCard.customerId = "customer" := by
  have hfind : ((findOptionalByHashIdMerchantIdCustomerId .default "hash" "merchant"
      "customer").run exec (runActs (step .default) insertedTwice emptyStore)).1 =
        .ok (some firstCard) := by decide +kernel
  refine ⟨hfind, lookups_sound .default (some ⟨.enabled, false⟩) false Pg.empty insertedTwice
    ⟨fun _ _ => ?_, fun _ hc => ?_, trivial⟩ "hash" "merchant" "customer" _ hfind⟩
  · refine ⟨by decide, fun row hrow => ?_, fresh_allRows _ _ fun key row hrow => ?_⟩
    · cases hrow
    · rw [Pg.rowAt_empty] at hrow
      cases hrow
  · exact absurd hc (by decide +kernel)

/-- Not every find by lookup columns answers a row with these columns: the lookup record of
    a refused insert stays, and leads to the row that has refused it. -/
theorem lookups_not_sound :
    ¬ ∀ (ctx : KvStoreContext) (s : Store) (hashId merchantId customerId : String)
      (locker : Locker), Reachable ctx .enabled s →
        ((findOptionalByHashIdMerchantIdCustomerId ctx hashId merchantId customerId).run exec
          s).1 = .ok (some locker) →
        locker.hashId = hashId ∧ locker.merchantId = merchantId ∧
          locker.customerId = customerId := by
  intro h
  have hfind : ((findOptionalByHashIdMerchantIdCustomerId .default "second" "merchant"
      "customer").run exec (runActs (step .default)
        [.request (.insertLocker (lockerOf "card" "first")),
          .request (.insertLocker (lockerOf "card" "second"))] emptyStore)).1 =
        .ok (some ⟨"card", "merchant", "customer", .encrypted [1], ⟨0⟩, "first", none,
          some .redisKv⟩) := by decide +kernel
  have hcolumns := h .default _ "second" "merchant" "customer" _
    (reachable_of_acts _ (by simp)) hfind
  exact absurd hcolumns.1 (by decide)

end Store

end CardVault
