import CardVault.Deletion
import CardVault.Rows

/-!
# Lockers over sharded streams

The rows of the locker and reverse_lookup tables wait for the drainer in the
stream of their own key, and the streams are replayed in any order. Where every
INSERT of a locker is replayed while no other row has its lookup columns, what is
queued for a key alone decides its row, and Postgres ends with the rows of Redis.
A locker deleted and added again under another id has its two INSERTs in two
streams, and the later one can be replayed first.

Main results:
* `Pg.view_apply_admitted`: what a statement leaves of the row of its key.
* `Store.Agrees`: Redis holds what Postgres has once its streams are replayed;
  `Agrees.write`, `Agrees.erase`, `Agrees.drain` keep it.
* `lockers_replayed`: runs whose steps are in order end with the same rows.
* `lockers_not_replayed`: a run that loses a locker.
-/

namespace CardVault

open Interaction Stream Relational

/-- A key of the locker or the reverse_lookup table. -/
def PartitionKey.OfLockers (key : PartitionKey) : Prop :=
  key.resource = some .locker ∨ key.resource = some .reverseLookup

namespace Pg

variable {pg : Pg}

/-- No row of another locker has the lookup columns of a locker to insert. -/
def Admits (pg : Pg) : Statement → Prop
  | .insertLocker new => ∀ row ∈ pg.lockerRowByHash new.hashKey, row.primaryKey = new.primaryKey
  | _ => True

instance (pg : Pg) : ∀ stmt, Decidable (pg.Admits stmt)
  | .insertLocker new => inferInstanceAs (Decidable (∀ row ∈ pg.lockerRowByHash new.hashKey, _))
  | .insertFingerprint _ | .insertHashTable _ | .insertReverseLookup _ | .insertVault _
  | .updateVault .. | .deleteLocker _ | .deleteReverseLookup _ | .deleteVault _ => isTrue trivial

/-- What a statement leaves of the row of its key, where the INSERT of a locker meets
    no row of another locker with its lookup columns. -/
theorem view_apply_admitted (stmt : Statement) (pg : Pg) {key : PartitionKey}
    (hkey : key.OfLockers) (hadmits : pg.Admits stmt) :
    view key (pg.apply stmt) =
      if stmt.partitionKey = key then stmt.act (view key pg) else view key pg := by
  rcases hkey with hkey | hkey
  · split_ifs with h
    · subst h
      have hallowed := rowAt_apply_allowed stmt pg
      cases stmt with
      | insertLocker new =>
        cases hrow : pg.rowAt (Statement.insertLocker new).partitionKey with
        | some row =>
          rw [hrow] at hallowed
          have hkept : (pg.apply (.insertLocker new)).rowAt _ = some row := hallowed
          rw [view, view, hrow, hkept]
          rfl
        | none =>
          have hget : pg.locker.get LockerInner.primaryKey new.primaryKey = none :=
            Option.map_eq_none_iff.1 hrow
          -- no row clashes: not by primary key, and not by the lookup columns
          have hclash : ∀ a ∈ pg.locker.rows, ¬ lockerClash a (new.row pg.locker.serial) := by
            rintro a ha (hprimary | hhash)
            · exact Table.get_eq_none_iff.1 hget a ha hprimary
            · obtain ⟨row, hfound⟩ : ∃ row, pg.lockerRowByHash new.hashKey = some row :=
                Option.isSome_iff_exists.1 (Table.isSome_get ha hhash)
              exact Table.get_eq_none_iff.1 hget row (Table.mem_of_get hfound)
                (hadmits row hfound)
          have hafter : (insertRow (Statement.insertLocker new).fits new.row pg.locker).2.get
              LockerInner.primaryKey new.primaryKey = _ :=
            get_insertRow_of_none (fun _ _ => Or.inl) new.row_primaryKey hget
          rw [view, view, hrow]
          refine (congrArg (fun row => (row.map Row.locker).map Row.clearId) hafter).trans ?_
          change _ = if (Statement.insertLocker new).fits = true then _ else none
          by_cases hfits : (Statement.insertLocker new).fits = true
          · rw [if_pos ⟨hfits, hclash⟩, if_pos hfits]
            rfl
          · rw [if_neg fun h => hfits h.1, if_neg hfits]
            rfl
      | deleteLocker pk =>
        exact congrArg (Option.map Row.clearId) hallowed
      | _ => cases hkey
    · rw [view, view, rowAt_apply_of_ne h]
  · refine view_apply ?_ stmt pg
    cases key <;> first | rfl | cases hkey

/-- The rows of the two tables. -/
def lockerRows (pg : Pg) : List Row :=
  pg.locker.rows.map .locker ++ pg.reverseLookup.rows.map .reverseLookup

theorem mem_lockerRows {row : Row} :
    row ∈ pg.lockerRows ↔ row.partitionKey.OfLockers ∧ pg.rowAt row.partitionKey = some row := by
  cases row with
  | locker row =>
    simp [lockerRows, Row.partitionKey, PartitionKey.OfLockers, PartitionKey.resource,
      LockerPrimaryKeyType.getPartitionKey, rowAt, ← get_locker_iff]
  | reverseLookup row =>
    have hget : pg.reverseLookup.get ReverseLookup.lookupId row.lookupId = some row ↔
        row ∈ pg.reverseLookup.rows := by
      rw [Table.get_eq_some_iff (fun _ _ => id) fun _ _ => Eq.symm, and_iff_left rfl]
    simp [lockerRows, Row.partitionKey, PartitionKey.OfLockers, PartitionKey.resource, rowAt,
      ← hget]
  | _ =>
    simp [lockerRows, Row.partitionKey, PartitionKey.OfLockers, PartitionKey.resource,
      VaultPrimaryKey.getPartitionKey]

end Pg

namespace Row

theorem stored_stored (row : Row) : row.stored.stored = row.stored := by
  cases row with
  | locker row => cases h : row.ttl <;> simp [stored, h]
  | vault row => cases h : row.expiresAt <;> simp [stored, h]
  | _ => simp [stored]

theorem stored_clearId (row : Row) : row.clearId.stored = row.stored := by
  cases row <;> rfl

/-- The text of a lookup record's key is the text of no other row's key. -/
theorem partitionKey_eq_reverseLookup {row : Row} {lookupId : String}
    (h : row.partitionKey.display = (PartitionKey.reverseLookup lookupId).display) :
    row.partitionKey = .reverseLookup lookupId := by
  have hresource : ∃ t, row.partitionKey.resource = some t := by cases row <;> exact ⟨_, rfl⟩
  obtain ⟨t, ht⟩ := hresource
  obtain rfl := PartitionKey.resource_eq_of_display ht rfl h
  cases row with
  | reverseLookup row => exact congrArg _ (PartitionKey.display_reverseLookup_inj.1 h)
  | _ => cases ht

theorem partitionKey_stored (row : Row) : row.stored.partitionKey = row.partitionKey := by
  cases row <;> rfl

end Row

namespace Store

variable (ctx : KvStoreContext) {s : Store}

/-- The row of `key` that Redis holds; another row may lie under the key's text. -/
def held (s : Store) (key : PartitionKey) : Option Row :=
  (s.cached key).filter fun row => row.partitionKey = key

/-- Once what is queued is replayed, Postgres has the rows that Redis holds. -/
def Agrees (s : Store) : Prop :=
  ∀ key : PartitionKey, key.OfLockers →
    s.settled ctx key = (s.held key).map Row.stored

variable {ctx} {key : PartitionKey} {query : SerializableQuery}

theorem held_eq_some {row : Row} (h : s.cached key = some row) (hkey : row.partitionKey = key) :
    s.held key = some row := by
  rw [held, h, Option.filter_some, if_pos (by simpa using hkey)]

theorem held_eq_none (h : ∀ row, s.cached key = some row → row.partitionKey ≠ key) :
    s.held key = none := by
  rw [held, Option.filter_eq_none_iff]
  intro row hrow
  simpa using h row hrow

theorem held_congr {s' : Store} (h : s'.cached key = s.cached key) : s'.held key = s.held key := by
  rw [held, held, h]

theorem settled_push_of_ne (hquery : query.statement.partitionKey ≠ key) (key' : PartitionKey) :
    (s.push ctx key' query).settled ctx key = s.settled ctx key := by
  have hqueued : (s.push ctx key' query).queued ctx key = s.queued ctx key := by
    unfold queued push
    by_cases h : ctx.stream key = ctx.stream key'
    · simp [h, hquery]
    · simp [h]
  rw [settled, hqueued]
  rfl

/-- A row set in Redis, with its INSERT queued. -/
theorem Agrees.write (h : s.Agrees ctx) {row : Row} {mk : ℕ → Row}
    (hmk : query.statement.effect = .insert mk) (hfits : query.statement.fits = true)
    (hrow : (mk 0).clearId = row.stored) (hquery : query.statement.partitionKey = key)
    (hkey : row.partitionKey = key) (hc : s.cached key = none) :
    (s.write ctx key row query).Agrees ctx := by
  intro key' hkey'
  by_cases hk : key' = key
  · subst hk
    have hnone : s.settled ctx key' = none := by
      rw [h key' hkey', held, hc]
      rfl
    rw [settled_write row query hquery, hnone, held_eq_some (write_cached_self ..) hkey,
      Statement.act, hmk]
    simp [hfits, hrow]
  · have hsettled : (s.write ctx key row query).settled ctx key' = s.settled ctx key' :=
      settled_push_of_ne (fun he => hk (he.symm.trans hquery)) key
    have hheld : (s.write ctx key row query).held key' = s.held key' := by
      by_cases hd : key'.display = key.display
      · -- the text of another key, which Redis did not hold
        have hc' : s.cached key' = none := by
          rw [cached, hd]
          exact hc
        rw [held_eq_none, held_eq_none]
        · simp [hc']
        · intro row' hrow'
          rw [write_cached, if_pos hd] at hrow'
          cases hrow'
          exact fun he => hk (he.symm.trans hkey)
      · exact held_congr ((write_cached ..).trans (if_neg hd))
    rw [hsettled, hheld, h key' hkey']

/-- A row taken out of Redis, with its DELETE queued. -/
theorem Agrees.erase (h : s.Agrees ctx) (hdelete : query.statement.effect = .delete)
    (hquery : query.statement.partitionKey = key)
    (hown : ∀ row, s.cached key = some row → row.partitionKey = key) :
    (s.erase ctx key query).Agrees ctx := by
  intro key' hkey'
  by_cases hk : key' = key
  · subst hk
    have hsettled : (s.erase ctx key' query).settled ctx key' = none := by
      rw [settled, queued_erase query hquery, List.foldl_append]
      simp [Statement.act, hdelete]
    rw [hsettled, held, erase_cached_self]
    rfl
  · have hsettled : (s.erase ctx key query).settled ctx key' = s.settled ctx key' :=
      settled_push_of_ne (fun he => hk (he.symm.trans hquery)) key
    have hheld : (s.erase ctx key query).held key' = s.held key' := by
      by_cases hd : key'.display = key.display
      · rw [held_eq_none, held_eq_none]
        · intro row hrow he
          rw [cached, hd] at hrow
          exact hk (he.symm.trans (hown row hrow))
        · intro row hrow
          rw [erase_cached, if_pos hd] at hrow
          cases hrow
      · exact held_congr ((erase_cached ..).trans (if_neg hd))
    rw [hsettled, hheld, h key' hkey']

/-- An entry replayed, whose INSERT meets no row of another locker. -/
theorem Agrees.drain (h : s.Agrees ctx) (hs : s.WellFormed ctx) {stream : String}
    (hadmits : ∀ entry ∈ (s.streams stream).head?, s.pg.Admits entry.query.statement) :
    (s.drain stream).Agrees ctx := by
  intro key hlockers
  have hsettled : (s.drain stream).settled ctx key = s.settled ctx key := by
    rcases drain_cases s stream with ⟨-, hd⟩ | ⟨entry, rest, hq, hd⟩
    · rw [hd]
    · have hview := Pg.view_apply_admitted entry.query.statement s.pg hlockers
        (hadmits entry (by rw [hq]; rfl))
      rw [hd, settled, settled, hview]
      split_ifs with hkey
      · -- the entry replayed is the next one queued for the key
        have hstream : stream = ctx.stream key :=
          hkey ▸ (hs.streams stream entry (by simp [hq])).stream
        subst hstream
        simp [queued, hq, hkey]
      · by_cases hstream : ctx.stream key = stream
        · subst hstream
          simp [queued, hq, hkey]
        · simp [queued, hstream]
  rw [hsettled, h key hlockers]
  rfl

/-! ## Runs -/

variable (ctx) in
/-- An insert or a delete of a locker that returns `Ok`, or a turn of the drainer. -/
def LockerStep (s : Store) : Action → Prop
  | .request (.insertLocker new) => ((CardVault.insertLocker ctx new).run exec s).1.isOk = true
  | .request (.deleteLocker lockerId merchantId customerId) =>
    ((CardVault.deleteLocker ctx lockerId merchantId customerId).run exec s).1.isOk = true
  | .env (.drain _) => True
  | _ => False

/-- A locker that is inserted fits its columns; a delete meets no other locker under the
    text of its key in Redis; the INSERT that is replayed next meets no row of another
    locker with its lookup columns. -/
def InOrder (s : Store) : Action → Prop
  | .request (.insertLocker new) => (Statement.insertLocker new).fits = true
  | .request (.deleteLocker lockerId merchantId customerId) =>
    ∀ row ∈ s.cached (.locker merchantId customerId lockerId),
      row.partitionKey = .locker merchantId customerId lockerId
  | .env (.drain stream) =>
    ∀ entry ∈ (s.streams stream).head?, s.pg.Admits entry.query.statement
  | _ => True

instance (s : Store) : ∀ a, Decidable (s.LockerStep ctx a)
  | .request (.insertLocker new) =>
    inferInstanceAs (Decidable (((CardVault.insertLocker ctx new).run exec s).1.isOk = true))
  | .request (.deleteLocker lockerId merchantId customerId) => inferInstanceAs (Decidable
    (((CardVault.deleteLocker ctx lockerId merchantId customerId).run exec s).1.isOk = true))
  | .env (.drain _) => isTrue trivial
  | .request (.insertVault _) | .request (.updateVaultData ..) | .request (.deleteFromVault ..)
  | .request (.insertHash ..) | .request (.insertFingerprint ..)
  | .request (.findByVaultIdEntityId ..) | .request (.findByLockerIdMerchantIdCustomerId ..)
  | .request (.findOptionalByHashIdMerchantIdCustomerId ..)
  | .request (.findOptionalByDataHash _) | .request (.findOptionalByFingerprintHash _)
  | .env (.expire _) | .setRuntimeConfig _ => isFalse id

instance (s : Store) : ∀ a, Decidable (s.InOrder a)
  | .request (.insertLocker new) =>
    inferInstanceAs (Decidable ((Statement.insertLocker new).fits = true))
  | .request (.deleteLocker lockerId merchantId customerId) => inferInstanceAs (Decidable
    (∀ row ∈ s.cached (.locker merchantId customerId lockerId),
      row.partitionKey = .locker merchantId customerId lockerId))
  | .env (.drain stream) => inferInstanceAs (Decidable
    (∀ entry ∈ (s.streams stream).head?, s.pg.Admits entry.query.statement))
  | .request (.insertVault _) | .request (.updateVaultData ..) | .request (.deleteFromVault ..)
  | .request (.insertHash ..) | .request (.insertFingerprint ..)
  | .request (.findByVaultIdEntityId ..) | .request (.findByLockerIdMerchantIdCustomerId ..)
  | .request (.findOptionalByHashIdMerchantIdCustomerId ..)
  | .request (.findOptionalByDataHash _) | .request (.findOptionalByFingerprintHash _)
  | .env (.expire _) | .setRuntimeConfig _ => isTrue trivial

/-- The locker and reverse_lookup tables, up to serial numbers and what a `TIMESTAMP`
    cuts off. -/
def postgresRows (s : Store) : Set Row := {row | ∃ stored ∈ s.pg.lockerRows, stored.stored = row}

/-- What Redis holds, up to the same. -/
def redisRows (s : Store) : Set Row :=
  {row | ∃ key field held, s.redis key field = some held ∧ held.stored = row}

variable (ctx) in
/-- What every step of a run keeps. -/
structure ReplayInv (s : Store) : Prop where
  wellFormed : s.WellFormed ctx
  mode : s.mode = .enabled
  ofLockers : s.AllRows fun row => row.partitionKey.OfLockers
  agrees : s.Agrees ctx

theorem ReplayInv.insert (h : s.ReplayInv ctx) (new : LockerNew)
    (hok : ((CardVault.insertLocker ctx new).run exec s).1.isOk = true)
    (hfits : (Statement.insertLocker new).fits = true) :
    (s.insertLocker ctx new).Agrees ctx := by
  have hrun : (CardVault.insertLocker ctx new).run exec s = _ :=
    run_insertLocker_enabled ctx s h.mode new
  rw [insertLocker, if_pos h.mode]
  cases hl : s.cached (.reverseLookup new.hashKey.getLookupKey.lookupId) with
  | some row =>
    rw [hrun, hl] at hok
    cases hok
  | none =>
    cases hc : s.cached new.primaryKey.getPartitionKey with
    | some row =>
      rw [hrun, hl, hc] at hok
      cases hok
    | none =>
      have hlookup : (s.writeLookup ctx new).Agrees ctx := by
        have hmk : (Statement.insertReverseLookup new.lookup).effect =
          .insert fun _ => .reverseLookup new.lookup.toReverseLookup := rfl
        have hscheme : fitsVarchar 32 StorageScheme.redisKv.display = true := by decide
        exact h.agrees.write hmk hscheme rfl rfl rfl hl
      have hmk : (Statement.insertLocker { new with updatedBy := some .redisKv }).effect =
        .insert fun id => .locker (LockerNew.row { new with updatedBy := some .redisKv } id) := rfl
      exact hlookup.write hmk hfits rfl rfl rfl
        ((writeLookup_cached ctx s new new.primaryKey).trans hc)

theorem ReplayInv.delete (h : s.ReplayInv ctx) (pk : LockerPrimaryKeyType)
    (hown : ∀ row ∈ s.cached pk.getPartitionKey, row.partitionKey = pk.getPartitionKey) :
    (s.deleteLocker ctx pk).Agrees ctx := by
  have hlocker : (s.removeLocker ctx pk).Agrees ctx := by
    rw [removeLocker, remove, if_pos (show s.ThroughRedis _ from Or.inl h.mode)]
    exact h.agrees.erase rfl rfl hown
  have hlookup : ∀ lookupId, ((s.removeLocker ctx pk).removeLookup ctx lookupId).Agrees ctx := by
    intro lookupId
    have hmode : (s.removeLocker ctx pk).mode = .enabled := (remove_mode s _ _).trans h.mode
    rw [removeLookup, remove, if_pos (show ThroughRedis _ _ from Or.inl hmode)]
    refine hlocker.erase rfl rfl fun row hrow => ?_
    rw [(removeLocker_lookup ctx s pk lookupId).2.2] at hrow
    exact Row.partitionKey_eq_reverseLookup (h.wellFormed.redis _ _ row hrow).2
  unfold deleteLocker
  split
  · exact hlookup _
  · exact hlocker

theorem ReplayInv.step (h : s.ReplayInv ctx) {a : Action} (ha : s.LockerStep ctx a)
    (horder : s.InOrder a) : (s.step ctx a).ReplayInv ctx := by
  have hmode : (s.step ctx a).mode = .enabled := by
    refine (mode_congr ?_).trans h.mode
    cases a with
    | request r => simp [Store.step]
    | env e => simp [Store.step]
    | setRuntimeConfig => exact ha.elim
  have hrows : ((s.step ctx a).AllRows fun row => row.partitionKey.OfLockers) ∧
      (s.step ctx a).Agrees ctx := by
    cases a with
    | request r =>
      rw [step_request h.wellFormed]
      cases r with
      | insertLocker new =>
        exact ⟨h.ofLockers.insertLocker new (Or.inr rfl) (Or.inl rfl) fun _ _ => Or.inl rfl,
          h.insert new ha horder⟩
      | deleteLocker lockerId merchantId customerId =>
        exact ⟨h.ofLockers.deleteLocker _, h.delete ⟨lockerId, merchantId, customerId⟩ horder⟩
      | _ => exact ha.elim
    | env e =>
      cases e with
      | drain stream =>
        have hdrained : (s.envStep ctx (.drain stream)).AllRows _ := h.ofLockers.envStep _
        exact ⟨hdrained, h.agrees.drain h.wellFormed horder⟩
      | expire => exact ha.elim
    | setRuntimeConfig => exact ha.elim
  exact ⟨step_wellFormed h.wellFormed a, hmode, hrows.1, hrows.2⟩

theorem ReplayInv.start {config : RuntimeConfigValues} (hmode : config.enableKv = .enabled)
    (hasReplica : Bool) : (Store.fresh (some config) hasReplica Pg.empty).ReplayInv ctx where
  wellFormed := fresh_wellFormed _ _ _
  mode := hmode
  ofLockers := fresh_allRows _ _ fun key row h => by rw [Pg.rowAt_empty] at h; cases h
  agrees key _ := by
    have hview : Pg.empty.view key = none := by rw [Pg.view, Pg.rowAt_empty]; rfl
    exact hview

/-- With nothing queued, Postgres and Redis have the same rows. -/
theorem ReplayInv.same_rows (h : s.ReplayInv ctx) (hempty : ∀ stream, s.streams stream = []) :
    s.postgresRows = s.redisRows := by
  have hview : ∀ key : PartitionKey, key.OfLockers →
      s.pg.view key = (s.held key).map Row.stored := by
    intro key hkey
    rw [view_eq_settled (by simp [queued, hempty]), h.agrees key hkey]
  ext row
  constructor
  · rintro ⟨stored, hstored, rfl⟩
    obtain ⟨hlockers, hrow⟩ := Pg.mem_lockerRows.1 hstored
    have hkey := hview _ hlockers
    rw [Pg.view, hrow] at hkey
    obtain ⟨held, hheld, heq⟩ := Option.map_eq_some_iff.1 hkey.symm
    refine ⟨_, _, held, Option.eq_some_of_filter_eq_some hheld, ?_⟩
    rw [← Row.stored_clearId stored, ← heq, Row.stored_stored]
  · rintro ⟨key, field, held, hheld, rfl⟩
    have hlockers := h.ofLockers.redis key field held hheld
    obtain ⟨rfl, rfl⟩ := h.wellFormed.redis key field held hheld
    have hkey := hview _ hlockers
    rw [held_eq_some hheld rfl] at hkey
    obtain ⟨stored, hstored, heq⟩ := Option.map_eq_some_iff.1 hkey
    have hown := Pg.partitionKey_of_rowAt hstored
    refine ⟨stored, Pg.mem_lockerRows.2 ⟨hown ▸ hlockers, hown ▸ hstored⟩, ?_⟩
    rw [← Row.stored_clearId stored, heq, Row.stored_stored]

/-- Only the streams of the shards hold entries. -/
theorem WellFormed.streams_eq_nil (h : s.WellFormed ctx)
    (hshards : ∀ n < ctx.kvConfig.drainerNumPartitions,
      s.streams (ctx.kvConfig.drainerStreamName ("shard_" ++ toString n)) = []) (stream : String) :
    s.streams stream = [] := by
  rw [List.eq_nil_iff_forall_not_mem]
  intro entry hentry
  have hstream := (h.streams stream entry hentry).stream
  rw [hstream, KvStoreContext.stream, shardKey, hshards _ (partitionNumber_lt ctx _)] at hentry
  cases hentry

/-- A locker deleted and added again under another id, and the turns of the drainer
    on the streams of the two ids, before those on the stream of their lookup record. -/
def readdedActs (lockerIds : List String) : List Action :=
  [.request (.insertLocker (lockerOf "card" "hash")),
    .request (.deleteLocker "card" "merchant" "customer"),
    .request (.insertLocker (lockerOf "again" "hash"))] ++
  lockerIds.map (fun lockerId => .env (.drain
    (KvStoreContext.default.stream (lockerOf lockerId "hash").primaryKey.getPartitionKey))) ++
  List.replicate 3 (.env (.drain (KvStoreContext.default.stream (.reverseLookup
    (lockerOf "card" "hash").hashKey.getLookupKey.lookupId))))

end Store

open Store in
/-- A run of lockers inserted and deleted in a fresh store, whose streams are drained
    in any order, and whose steps are all in order: once nothing is queued, Postgres
    has the rows that Redis holds. -/
theorem lockers_replayed (ctx : KvStoreContext) {config : RuntimeConfigValues}
    (hmode : config.enableKv = .enabled) (hasReplica : Bool) (acts : List Action)
    (hsteps : Good (Store.step ctx) (LockerStep ctx) acts
      (Store.fresh (some config) hasReplica Pg.empty))
    (horder : Good (Store.step ctx) InOrder acts (Store.fresh (some config) hasReplica Pg.empty))
    (hempty : ∀ stream, (runActs (Store.step ctx) acts
      (Store.fresh (some config) hasReplica Pg.empty)).streams stream = []) :
    (runActs (Store.step ctx) acts
        (Store.fresh (some config) hasReplica Pg.empty)).postgresRows =
      (runActs (Store.step ctx) acts
        (Store.fresh (some config) hasReplica Pg.empty)).redisRows := by
  have hstep : ∀ s a, ReplayInv ctx s → s.LockerStep ctx a ∧ s.InOrder a →
      ReplayInv ctx (Store.step ctx s a) := fun _ _ h ha => h.step ha.1 ha.2
  have hinv := run_invariant hstep acts _ (ReplayInv.start hmode hasReplica) (hsteps.and horder)
  exact hinv.same_rows hempty

open Store in
/-- The DELETE of the first id replayed before the INSERT of the second. -/
theorem lockers_replayed_readded :
    (runActs (step .default) (readdedActs ["card", "card", "again"]) emptyStore).postgresRows =
      (runActs (step .default) (readdedActs ["card", "card", "again"]) emptyStore).redisRows :=
  lockers_replayed .default rfl false (readdedActs ["card", "card", "again"]) (by decide +kernel)
    (by decide +kernel) ((runActs_wellFormed (fresh_wellFormed _ _ _) _).streams_eq_nil
      (by decide +kernel))

open Store in
/-- The INSERT of the second id replayed while Postgres still has the row of the first. -/
theorem lockers_not_replayed :
    ¬ ∀ (ctx : KvStoreContext) (config : RuntimeConfigValues) (hasReplica : Bool)
        (acts : List Action), config.enableKv = .enabled →
      Good (Store.step ctx) (LockerStep ctx) acts
        (Store.fresh (some config) hasReplica Pg.empty) →
      (∀ stream, (runActs (Store.step ctx) acts
        (Store.fresh (some config) hasReplica Pg.empty)).streams stream = []) →
      (runActs (Store.step ctx) acts
          (Store.fresh (some config) hasReplica Pg.empty)).postgresRows =
        (runActs (Store.step ctx) acts
          (Store.fresh (some config) hasReplica Pg.empty)).redisRows := by
  intro h
  have hsame : (runActs (Store.step .default) (readdedActs ["card", "again", "card"])
      emptyStore).postgresRows = _ :=
    h .default ⟨.enabled, false⟩ false (readdedActs ["card", "again", "card"]) rfl
      (by decide +kernel) ((runActs_wellFormed (fresh_wellFormed _ _ _) _).streams_eq_nil
        (by decide +kernel))
  have hcached : (runActs (Store.step .default) (readdedActs ["card", "again", "card"])
      emptyStore).cached (lockerOf "again" "hash").primaryKey.getPartitionKey =
        some (.locker
          { lockerOf "again" "hash" with updatedBy := some .redisKv }.toLockerInner) := by
    decide +kernel
  obtain ⟨stored, hstored, heq⟩ := (Set.ext_iff.1 hsame _).2 ⟨_, _, _, hcached, rfl⟩
  -- Postgres is left with the lookup record alone
  have hlost : ∀ row ∈ (runActs (Store.step .default) (readdedActs ["card", "again", "card"])
      emptyStore).pg.lockerRows, row.partitionKey.resource = some .reverseLookup := by
    decide +kernel
  have hlookup := hlost stored hstored
  rw [← Row.partitionKey_stored, heq] at hlookup
  cases hlookup

end CardVault
