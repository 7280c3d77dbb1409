import CardVault.Lib.Runs
import CardVault.Lib.Table
import CardVault.Storage.Backend
import CardVault.Crypto.Aes

/-!
# Key holders

The `merchant` and `entity` tables with their caches, and the external key
manager: the calls that the key managers (`src/src/crypto/keymanager`) make, and
the state behind them. The external service is a parameter.

Main results:
* `KeyStore.entityRow_exec`: an entity row stays.
* `KeyStore.exec_insertEntity`: what an INSERT into a free place answers and
  stores.
-/

namespace CardVault

open Interaction Relational

/-! ## Rows -/

/-- `MerchantInner`, the row of the `merchant` table. -/
structure MerchantInner where
  id : ℕ
  merchantId : String
  encKey : Bytes
  createdAt : PrimitiveDateTime
  deriving DecidableEq, Repr

/-- `MerchantNewInner`. -/
structure MerchantNewInner where
  merchantId : String
  encKey : Bytes
  deriving DecidableEq, Repr

/-- `MerchantNew`. -/
structure MerchantNew where
  merchantId : String
  encKey : Bytes
  deriving DecidableEq, Repr

/-- `Merchant`. -/
structure Merchant where
  merchantId : String
  encKey : Bytes
  createdAt : PrimitiveDateTime
  deriving DecidableEq, Repr

/-- `Entity`, the row of the `entity` table. -/
structure Entity where
  id : ℕ
  entityId : String
  encKeyId : String
  createdAt : PrimitiveDateTime
  deriving DecidableEq, Repr

/-- `EntityTableNew`. -/
structure EntityTableNew where
  entityId : String
  encKeyId : String
  deriving DecidableEq, Repr

/-- `merchant`: primary key `merchant_id`. -/
abbrev merchantClash (a b : MerchantInner) : Prop := a.merchantId = b.merchantId

/-- `entity`: primary key `entity_id`. -/
abbrev entityClash (a b : Entity) : Prop := a.entityId = b.entityId

/-- The two tables. -/
structure KeyTables where
  merchant : Table MerchantInner merchantClash
  entity : Table Entity entityClash

namespace KeyTables

/-- The merchant row with this key. -/
def merchantRow (tables : KeyTables) (merchantId : String) : Option MerchantInner :=
  tables.merchant.get MerchantInner.merchantId merchantId

/-- The entity row with this key. -/
def entityRow (tables : KeyTables) (entityId : String) : Option Entity :=
  tables.entity.get Entity.entityId entityId

/-- The rows of these tables, none of which is ever changed or deleted, are all in
    the later ones. -/
def Earlier (tables later : KeyTables) : Prop :=
  (∀ row ∈ tables.merchant.rows, row ∈ later.merchant.rows) ∧
    ∀ row ∈ tables.entity.rows, row ∈ later.entity.rows

instance (tables later : KeyTables) : Decidable (tables.Earlier later) :=
  inferInstanceAs (Decidable (_ ∧ _))

end KeyTables

/-- The values keep the column limits. -/
def MerchantNewInner.fits (new : MerchantNewInner) : Bool := fitsVarchar 255 new.merchantId

/-- The values keep the column limits. -/
def EntityTableNew.fits (new : EntityTableNew) : Bool :=
  fitsVarchar 255 new.entityId && fitsVarchar 255 new.encKeyId

/-- The row an INSERT stores; `created_at` is the clock of the database. -/
def MerchantNewInner.row (new : MerchantNewInner) (now : PrimitiveDateTime) (id : ℕ) :
    MerchantInner :=
  { id, merchantId := new.merchantId, encKey := new.encKey, createdAt := now.toTimestamp }

/-- The row an INSERT stores; `created_at` is the clock of the database. -/
def EntityTableNew.row (new : EntityTableNew) (now : PrimitiveDateTime) (id : ℕ) : Entity :=
  { id, entityId := new.entityId, encKeyId := new.encKeyId, createdAt := now.toTimestamp }

/-! ## The external service -/

/-- The external key manager, with states `σ`: what `/key/create` and
    `/key/transfer` answer to an identifier (the identifier in the response), and
    the key that an identifier names. -/
structure KeyService (σ : Type) where
  create : σ → String → Option (String × σ)
  transfer : σ → String → String → Option (String × σ)
  key : σ → String → Option Bytes

/-! ## Calls -/

/-- The calls of the key managers. -/
inductive KeyCmd where
  /-- `Storage::route_conn` -/
  | routeConn
  /-- `Storage::get_conn` -/
  | getConn
  | selectMerchant (pool : DbPool) (merchantId : String)
  | insertMerchant (new : MerchantNewInner)
  /-- the merchants without an entity row, at most `limit` -/
  | selectMerchantsExcludingEntities (pool : DbPool) (limit : ℤ)
  | selectEntity (pool : DbPool) (entityId : String)
  | insertEntity (new : EntityTableNew)
  /-- `POST {url}/key/create` -/
  | createKey (identifier : String)
  /-- `POST {url}/key/transfer` -/
  | transferKey (identifier key : String)
  /-- `Caching::lookup::<Merchant>` -/
  | lookupMerchant (merchantId : String)
  /-- `Caching::cache_data::<Merchant>` -/
  | cacheMerchant (merchantId : String) (value : Merchant)
  /-- `Caching::lookup::<Entity>` -/
  | lookupEntity (entityId : String)
  /-- `Caching::cache_data::<Entity>` -/
  | cacheEntity (entityId : String) (value : Entity)
  deriving DecidableEq, Repr

/-- What each call answers. -/
def KeyReply : KeyCmd → Type
  | .routeConn => Except StorageError DbPool
  | .getConn => Except StorageError DbPool
  | .selectMerchant .. => Except DieselError MerchantInner
  | .insertMerchant _ => Except DieselError MerchantInner
  | .selectMerchantsExcludingEntities .. => Except DieselError (List MerchantInner)
  | .selectEntity .. => Except DieselError Entity
  | .insertEntity _ => Except DieselError Entity
  | .createKey _ => Except KeyManagerError String
  | .transferKey .. => Except KeyManagerError String
  | .lookupMerchant _ => Option Merchant
  | .cacheMerchant .. => Unit
  | .lookupEntity _ => Option Entity
  | .cacheEntity .. => Unit

/-- An `async fn` of the key managers. -/
abbrev KeyApp (α : Type) : Type := Prog KeyCmd KeyReply α

/-! ## The state behind the calls -/

/-- Everything behind the calls. The replica shows an earlier state of the
    tables. -/
structure KeyStore (σ : Type) where
  runtimeConfig : Option RuntimeConfigValues
  hasReplica : Bool
  tables : KeyTables
  replica : KeyTables
  service : σ
  now : PrimitiveDateTime
  merchantCache : String → Option Merchant
  entityCache : String → Option Entity

namespace KeyStore

variable {σ : Type}

/-- The pool that `route_conn` connects to. -/
def routedPool (s : KeyStore σ) : DbPool :=
  if s.hasReplica ∧ (s.runtimeConfig.map RuntimeConfigValues.useReplica).getD false then .replica
  else .primary

/-- The tables that a pool shows. -/
def shown (s : KeyStore σ) : DbPool → KeyTables
  | .primary => s.tables
  | .replica => s.replica

/-- Answer one call. -/
def exec (service : KeyService σ) (s : KeyStore σ) : (c : KeyCmd) → KeyReply c × KeyStore σ
  | .routeConn => (.ok s.routedPool, s)
  | .getConn => (.ok .primary, s)
  | .selectMerchant pool merchantId => (oneRow ((s.shown pool).merchantRow merchantId), s)
  | .insertMerchant new =>
    let (reply, table) := insertRow new.fits (new.row s.now) s.tables.merchant
    (reply, { s with tables := { s.tables with merchant := table } })
  | .selectMerchantsExcludingEntities pool limit =>
    if limit < 0 then (.error .other, s)
    else
      (.ok (((s.shown pool).merchant.rows.filter fun row =>
        ((s.shown pool).entityRow row.merchantId).isNone).take limit.toNat), s)
  | .selectEntity pool entityId => (oneRow ((s.shown pool).entityRow entityId), s)
  | .insertEntity new =>
    let (reply, table) := insertRow new.fits (new.row s.now) s.tables.entity
    (reply, { s with tables := { s.tables with entity := table } })
  | .createKey identifier =>
    match service.create s.service identifier with
    | some (identifier', service') => (.ok identifier', { s with service := service' })
    | none => (.error .keyAddFailed, s)
  | .transferKey identifier key =>
    match service.transfer s.service identifier key with
    | some (identifier', service') => (.ok identifier', { s with service := service' })
    | none => (.error .keyTransferFailed, s)
  | .lookupMerchant merchantId => (s.merchantCache merchantId, s)
  | .cacheMerchant merchantId value =>
    ((), { s with merchantCache := Function.update s.merchantCache merchantId (some value) })
  | .lookupEntity entityId => (s.entityCache entityId, s)
  | .cacheEntity entityId value =>
    ((), { s with entityCache := Function.update s.entityCache entityId (some value) })

/-- What happens around the calls: time passes, a cache drops an entry, the
    replica moves to another earlier state of the primary. -/
inductive EnvStep where
  | tick (now : PrimitiveDateTime)
  | evictMerchant (merchantId : String)
  | evictEntity (entityId : String)
  | replicate (tables : KeyTables)

/-- One step of the surroundings. -/
def envStep (s : KeyStore σ) : EnvStep → KeyStore σ
  | .tick now => { s with now }
  | .evictMerchant merchantId =>
    { s with merchantCache := Function.update s.merchantCache merchantId none }
  | .evictEntity entityId =>
    { s with entityCache := Function.update s.entityCache entityId none }
  | .replicate tables => if tables.Earlier s.tables then { s with replica := tables } else s

/-! ## Frame -/

variable {service : KeyService σ} {s : KeyStore σ}

/-- Where reads go depends on the configuration alone. -/
@[simp] theorem routedPool_exec (c : KeyCmd) :
    (s.exec service c).2.routedPool = s.routedPool := by
  cases c with
  | selectMerchantsExcludingEntities pool limit =>
    simp only [exec]
    split_ifs <;> rfl
  | createKey identifier =>
    simp only [exec]
    split <;> rfl
  | transferKey identifier key =>
    simp only [exec]
    split <;> rfl
  | _ => rfl

@[simp] theorem routedPool_envStep (e : EnvStep) : (s.envStep e).routedPool = s.routedPool := by
  cases e with
  | replicate tables =>
    simp only [envStep]
    split_ifs <;> rfl
  | _ => rfl

/-- The entity cache changes by `cache_data` only. -/
theorem entityCache_exec (c : KeyCmd) (h : ∀ entityId value, c ≠ .cacheEntity entityId value) :
    (s.exec service c).2.entityCache = s.entityCache := by
  cases c with
  | selectMerchantsExcludingEntities pool limit =>
    simp only [exec]
    split_ifs <;> rfl
  | createKey identifier =>
    simp only [exec]
    split <;> rfl
  | transferKey identifier key =>
    simp only [exec]
    split <;> rfl
  | cacheEntity entityId value => exact absurd rfl (h entityId value)
  | _ => rfl

/-- The surroundings only drop entries of the entity cache. -/
theorem entityCache_envStep {e : EnvStep} {entityId : String} {value : Entity}
    (h : (s.envStep e).entityCache entityId = some value) :
    s.entityCache entityId = some value := by
  cases e with
  | tick => exact h
  | evictMerchant => exact h
  | evictEntity id =>
    replace h : Function.update s.entityCache id none entityId = some value := h
    by_cases hid : entityId = id
    · rw [hid, Function.update_self] at h
      cases h
    · rwa [Function.update_of_ne hid] at h
  | replicate tables =>
    simp only [envStep] at h
    split_ifs at h <;> exact h

/-! ## Entity rows -/

theorem entityRow_key {tables : KeyTables} {entityId : String} {row : Entity}
    (h : tables.entityRow entityId = some row) : row.entityId = entityId := Table.key_of_get h

/-- No call changes or deletes an entity row. -/
theorem entityRow_exec {entityId : String} {row : Entity}
    (h : s.tables.entityRow entityId = some row) (c : KeyCmd) :
    (s.exec service c).2.tables.entityRow entityId = some row := by
  cases c with
  | insertEntity new =>
    change (insertRow new.fits (new.row s.now) s.tables.entity).2.get _ entityId = some row
    by_cases heq : new.entityId = entityId
    · exact get_insertRow_of_some (fun _ _ h => h) (fun _ => heq) h
    · have hne : ∀ n, (new.row s.now n).entityId ≠ entityId := fun _ => heq
      exact (get_insertRow_of_ne hne).trans h
  | selectMerchantsExcludingEntities pool limit =>
    simp only [exec]
    split_ifs <;> exact h
  | createKey identifier =>
    simp only [exec]
    split <;> exact h
  | transferKey identifier key =>
    simp only [exec]
    split <;> exact h
  | _ => exact h

theorem entityRow_envStep {entityId : String} {row : Entity}
    (h : s.tables.entityRow entityId = some row) (e : EnvStep) :
    (s.envStep e).tables.entityRow entityId = some row := by
  cases e with
  | replicate tables =>
    simp only [envStep]
    split_ifs <;> exact h
  | _ => exact h

/-- An INSERT that no limit and no row stands against answers its row and stores
    it. -/
theorem exec_insertEntity {new : EntityTableNew} (hfits : new.fits = true)
    (hnone : s.tables.entityRow new.entityId = none) :
    ∃ row, (s.exec service (.insertEntity new)).1 = Except.ok row ∧
      (s.exec service (.insertEntity new)).2.tables.entityRow new.entityId = some row ∧
      row = new.row s.now s.tables.entity.serial := by
  have hclash : ∀ a ∈ s.tables.entity.rows,
      ¬ entityClash a (new.row s.now s.tables.entity.serial) := Table.get_eq_none_iff.1 hnone
  refine ⟨new.row s.now s.tables.entity.serial, ?_, ?_, rfl⟩
  · exact insertRow_eq_ok_iff.2 ⟨hfits, hclash, rfl⟩
  · have hkey : ∀ n, (new.row s.now n).entityId = new.entityId := fun _ => rfl
    exact (get_insertRow_of_none (fun _ _ h => h) hkey hnone).trans (if_pos ⟨hfits, hclash⟩)

/-- An entity row that is new after a call is the one the call inserted. -/
theorem entityRow_of_exec {entityId : String} {c : KeyCmd} {row : Entity}
    (h : (s.exec service c).2.tables.entityRow entityId = some row) :
    s.tables.entityRow entityId = some row ∨
      c = .insertEntity { entityId, encKeyId := row.encKeyId } := by
  cases c with
  | insertEntity new =>
    replace h : (insertRow new.fits (new.row s.now) s.tables.entity).2.get Entity.entityId
        entityId = some row := h
    by_cases heq : new.entityId = entityId
    · subst heq
      cases hrow : s.tables.entityRow new.entityId with
      | some stored =>
        have hkey : ∀ n, (new.row s.now n).entityId = new.entityId := fun _ => rfl
        have hkept : (insertRow new.fits (new.row s.now) s.tables.entity).2.get Entity.entityId
            new.entityId = some stored :=
          get_insertRow_of_some (fun _ _ h => h) hkey hrow
        exact Or.inl (hkept.symm.trans h)
      | none =>
        have hkey : ∀ n, (new.row s.now n).entityId = new.entityId := fun _ => rfl
        have hnew := @get_insertRow_of_none Entity _ _ _ new.fits _ _ _ _ _ (fun _ _ h => h) hkey
          hrow
        rw [h] at hnew
        split_ifs at hnew
        cases hnew
        exact Or.inr rfl
    · have hne : ∀ n, (new.row s.now n).entityId ≠ entityId := fun _ => heq
      exact Or.inl ((get_insertRow_of_ne hne).symm.trans h)
  | selectMerchantsExcludingEntities pool limit =>
    simp only [exec] at h
    split_ifs at h <;> exact Or.inl h
  | createKey identifier =>
    simp only [exec] at h
    split at h <;> exact Or.inl h
  | transferKey identifier key =>
    simp only [exec] at h
    split at h <;> exact Or.inl h
  | _ => exact Or.inl h

theorem tables_envStep (e : EnvStep) : (s.envStep e).tables = s.tables := by
  cases e with
  | replicate tables =>
    simp only [envStep]
    split_ifs <;> rfl
  | _ => rfl

theorem service_envStep (e : EnvStep) : (s.envStep e).service = s.service := by
  cases e with
  | replicate tables =>
    simp only [envStep]
    split_ifs <;> rfl
  | _ => rfl

/-- The replica stays, or moves to an earlier state of the tables. -/
theorem replica_envStep (s : KeyStore σ) (e : EnvStep) :
    (s.envStep e).replica = s.replica ∨ (s.envStep e).replica.Earlier s.tables := by
  cases e with
  | replicate tables =>
    simp only [envStep]
    split_ifs with h
    · exact Or.inr h
    · exact Or.inl rfl
  | _ => exact Or.inl rfl

/-! ## Merchant rows -/

/-- Merchant rows change by `insert_merchant` only. -/
theorem merchant_exec {c : KeyCmd} (h : ∀ new, c ≠ .insertMerchant new) :
    (s.exec service c).2.tables.merchant = s.tables.merchant := by
  cases c with
  | insertMerchant new => exact absurd rfl (h new)
  | selectMerchantsExcludingEntities pool limit =>
    simp only [exec]
    split_ifs <;> rfl
  | createKey identifier =>
    simp only [exec]
    split <;> rfl
  | transferKey identifier key =>
    simp only [exec]
    split <;> rfl
  | _ => rfl

@[simp] theorem replica_exec (c : KeyCmd) : (s.exec service c).2.replica = s.replica := by
  cases c with
  | selectMerchantsExcludingEntities pool limit =>
    simp only [exec]
    split_ifs <;> rfl
  | createKey identifier =>
    simp only [exec]
    split <;> rfl
  | transferKey identifier key =>
    simp only [exec]
    split <;> rfl
  | _ => rfl

/-! ## Small stores -/

/-- A service that keeps a key for each identifier. An identifier in use keeps
    its key: `create` answers it again, `transfer` is refused. -/
def mapService (decode : String → Option Bytes) : KeyService (String → Option Bytes) where
  create keys identifier :=
    match keys identifier with
    | some _ => some (identifier, keys)
    | none => some (identifier, Function.update keys identifier (some [0]))
  transfer keys identifier text :=
    match keys identifier, decode text with
    | none, some key => some (identifier, Function.update keys identifier (some key))
    | _, _ => none
  key keys identifier := keys identifier

theorem mapService_create_isSome (decode : String → Option Bytes) (keys : String → Option Bytes)
    (identifier : String) : ((mapService decode).create keys identifier).isSome := by
  simp only [mapService]
  split <;> rfl

/-- No rows at all, and no replica. -/
def emptyKeyStore {σ : Type} (service : σ) : KeyStore σ :=
  { runtimeConfig := none, hasReplica := false, tables := ⟨Table.empty, Table.empty⟩
    replica := ⟨Table.empty, Table.empty⟩, service, now := ⟨0⟩, merchantCache := fun _ => none
    entityCache := fun _ => none }

end KeyStore

end CardVault
