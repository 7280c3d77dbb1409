import CardVault.Lib.Table
import CardVault.Error
import CardVault.Storage.PartitionKey

/-!
# Postgres

The five tables of the KV layer with the keys and column limits of
`src/migrations` and `src/src/storage/schema.rs`, and the statements the storage
layer and the drainer run on them. An `INSERT` that violates a unique key or a
`VARCHAR` limit changes nothing.

Main results:
* `rowAt_apply_of_ne`: a statement only changes the row of its own key.
* `rowAt_apply_allowed`: what it may do to that row.
* `execute_insert_ok`, `apply_of_insert_error`: what the answer to an INSERT says.
* `view_apply`: where the primary key is the only unique key, what a statement
  leaves of the row of its key depends on that row alone.
-/

namespace CardVault

open Relational

/-! ## Rows -/

/-- A row of one of the tables, which is also what Redis stores under its key. -/
inductive Row where
  | fingerprint (row : Fingerprint)
  | hashTable (row : HashTable)
  | locker (row : LockerInner)
  | reverseLookup (row : ReverseLookup)
  | vault (row : VaultInner)
  deriving DecidableEq, Repr

/-- The key of a row across the tables. -/
def Row.partitionKey : Row → PartitionKey
  | .fingerprint row => .fingerprint row.fingerprintHash
  | .hashTable row => .hashTable row.dataHash
  | .locker row => row.primaryKey.getPartitionKey
  | .reverseLookup row => .reverseLookup row.lookupId
  | .vault row => row.primaryKey.getPartitionKey

/-- `fingerprint`: primary key `fingerprint_hash`. -/
abbrev fingerprintClash (a b : Fingerprint) : Prop := a.fingerprintHash = b.fingerprintHash

/-- `hash_table`: primary key `data_hash`, unique `hash_id`. -/
abbrev hashTableClash (a b : HashTable) : Prop := a.dataHash = b.dataHash ∨ a.hashId = b.hashId

/-- `locker`: primary key `(merchant_id, customer_id, locker_id)`, unique
    `(hash_id, merchant_id, customer_id)`. -/
abbrev lockerClash (a b : LockerInner) : Prop :=
  a.primaryKey = b.primaryKey ∨ a.hashKey = b.hashKey

/-- `reverse_lookup`: primary key `lookup_id`. -/
abbrev reverseLookupClash (a b : ReverseLookup) : Prop := a.lookupId = b.lookupId

/-- `vault`: primary key `(entity_id, vault_id)`. -/
abbrev vaultClash (a b : VaultInner) : Prop := a.primaryKey = b.primaryKey

/-- The tables of one tenant's schema. -/
structure Pg where
  fingerprint : Table Fingerprint fingerprintClash
  hashTable : Table HashTable hashTableClash
  locker : Table LockerInner lockerClash
  reverseLookup : Table ReverseLookup reverseLookupClash
  vault : Table VaultInner vaultClash

namespace Pg

/-- The empty schema. -/
def empty : Pg :=
  { fingerprint := Table.empty
    hashTable := Table.empty
    locker := Table.empty
    reverseLookup := Table.empty
    vault := Table.empty }

/-- `SELECT` by primary key, whatever the table. -/
def rowAt (key : PartitionKey) (pg : Pg) : Option Row :=
  match key with
  | .combinationKey _ => none
  | .fingerprint fingerprintHash =>
    (pg.fingerprint.get Fingerprint.fingerprintHash fingerprintHash).map .fingerprint
  | .hashTable dataHash => (pg.hashTable.get HashTable.dataHash dataHash).map .hashTable
  | .locker merchantId customerId lockerId =>
    (pg.locker.get LockerInner.primaryKey ⟨lockerId, merchantId, customerId⟩).map .locker
  | .reverseLookup lookupId =>
    (pg.reverseLookup.get ReverseLookup.lookupId lookupId).map .reverseLookup
  | .vault entityId vaultId =>
    (pg.vault.get VaultInner.primaryKey ⟨entityId, vaultId⟩).map .vault

/-- `SELECT … FROM locker` by `(hash_id, merchant_id, customer_id)`. -/
def lockerRowByHash (key : LockerHashLookupKey) (pg : Pg) : Option LockerInner :=
  pg.locker.get LockerInner.hashKey key

end Pg

/-! ## Statements -/

/-- The statements that change a table. The drainer replays them; the storage
    layer also runs them itself, with `RETURNING` the row for INSERT and UPDATE. -/
inductive Statement where
  | insertFingerprint (new : FingerprintTableNew)
  | insertHashTable (new : HashTableNew)
  | insertLocker (new : LockerNew)
  | insertReverseLookup (new : ReverseLookupNew)
  | insertVault (new : VaultNewInner)
  | updateVault (pk : VaultPrimaryKey) (update : VaultUpdate)
  | deleteLocker (pk : LockerPrimaryKeyType)
  | deleteReverseLookup (lookupId : String)
  | deleteVault (pk : VaultPrimaryKey)
  deriving DecidableEq, Repr

/-- What running a statement answers: the row of an INSERT or UPDATE, the
    number of rows of a DELETE. -/
def Statement.Output : Statement → Type
  | .insertFingerprint _ => Fingerprint
  | .insertHashTable _ => HashTable
  | .insertLocker _ => LockerInner
  | .insertReverseLookup _ => ReverseLookup
  | .insertVault _ => VaultInner
  | .updateVault .. => VaultInner
  | .deleteLocker _ => ℕ
  | .deleteReverseLookup _ => ℕ
  | .deleteVault _ => ℕ

/-- The key of the row a statement is about. -/
def Statement.partitionKey : Statement → PartitionKey
  | .insertFingerprint new => .fingerprint new.fingerprintHash
  | .insertHashTable new => .hashTable new.dataHash
  | .insertLocker new => .locker new.merchantId new.customerId new.lockerId
  | .insertReverseLookup new => .reverseLookup new.lookupId
  | .insertVault new => .vault new.entityId new.vaultId
  | .updateVault pk _ => pk.getPartitionKey
  | .deleteLocker pk => pk.getPartitionKey
  | .deleteReverseLookup lookupId => .reverseLookup lookupId
  | .deleteVault pk => pk.getPartitionKey

/-- A text that a `VARCHAR(limit)` column takes. Postgres also refuses U+0000, and cuts spaces
    beyond the limit at the end of a text instead of refusing it: texts have neither here. -/
def fitsVarchar (limit : ℕ) (text : String) : Bool := text.length ≤ limit

/-- The values of an INSERT keep the column limits of the schema. -/
def Statement.fits : Statement → Bool
  | .insertFingerprint new => fitsVarchar 64 new.fingerprintId
  | .insertHashTable new => fitsVarchar 255 new.hashId
  | .insertLocker new =>
    fitsVarchar 255 new.lockerId && fitsVarchar 255 new.merchantId &&
      fitsVarchar 255 new.customerId && fitsVarchar 255 new.hashId
  | .insertReverseLookup new => fitsVarchar 32 new.updatedBy
  | .insertVault new => fitsVarchar 255 new.entityId && fitsVarchar 255 new.vaultId
  | .updateVault .. => true
  | .deleteLocker _ => true
  | .deleteReverseLookup _ => true
  | .deleteVault _ => true

/-- The row an INSERT stores under the serial number `id`. -/
def FingerprintTableNew.row (new : FingerprintTableNew) (id : ℕ) : Fingerprint :=
  { new.toFingerprint with id }

/-- The row an INSERT stores under the serial number `id`. -/
def HashTableNew.row (new : HashTableNew) (id : ℕ) : HashTable :=
  { new.toHashTable with id, createdAt := new.createdAt.toTimestamp }

/-- The row an INSERT stores under the serial number `id`. -/
def LockerNew.row (new : LockerNew) (id : ℕ) : LockerInner :=
  { new.toLockerInner with
    id
    createdAt := new.createdAt.toTimestamp
    ttl := new.ttl.map PrimitiveDateTime.toTimestamp }

/-- The row an INSERT stores under the serial number `id`. -/
def VaultNewInner.row (new : VaultNewInner) (id : ℕ) : VaultInner :=
  { new.toVaultInner with
    id
    createdAt := new.createdAt.toTimestamp
    expiresAt := new.expiresAt.map PrimitiveDateTime.toTimestamp }

/-- `UPDATE vault SET …` on one row. `AsChangeset` leaves a column out of the
    statement when its field is `None`. -/
def VaultInner.setColumns (update : VaultUpdate) (row : VaultInner) : VaultInner :=
  { row with
    encryptedData := update.encryptedData
    expiresAt :=
      match update.expiresAt with
      | some t => some t.toTimestamp
      | none => row.expiresAt
    updatedBy := some update.updatedBy }

/-- INSERT one row: refused by a column limit, refused by a unique key, or
    stored. -/
def insertRow {ρ : Type} {Clash : ρ → ρ → Prop} [DecidableRel Clash] (fits : Bool) (mk : ℕ → ρ)
    (table : Table ρ Clash) : Except DieselError ρ × Table ρ Clash :=
  if fits then
    match table.insert mk with
    | some (row, table') => (.ok row, table')
    | none => (.error .uniqueViolation, table)
  else (.error .other, table)

/-- The answer to a query for one row. -/
def oneRow {ρ : Type} : Option ρ → Except DieselError ρ
  | some row => .ok row
  | none => .error .notFound

/-- Run one statement. -/
def Pg.execute (pg : Pg) : (stmt : Statement) → Except DieselError stmt.Output × Pg
  | .insertFingerprint new =>
    let (reply, table) := insertRow (Statement.insertFingerprint new).fits new.row pg.fingerprint
    (reply, { pg with fingerprint := table })
  | .insertHashTable new =>
    let (reply, table) := insertRow (Statement.insertHashTable new).fits new.row pg.hashTable
    (reply, { pg with hashTable := table })
  | .insertLocker new =>
    let (reply, table) := insertRow (Statement.insertLocker new).fits new.row pg.locker
    (reply, { pg with locker := table })
  | .insertReverseLookup new =>
    let (reply, table) := insertRow (Statement.insertReverseLookup new).fits
      (fun _ => new.toReverseLookup) pg.reverseLookup
    (reply, { pg with reverseLookup := table })
  | .insertVault new =>
    let (reply, table) := insertRow (Statement.insertVault new).fits new.row pg.vault
    (reply, { pg with vault := table })
  | .updateVault pk update =>
    let table := pg.vault.update VaultInner.primaryKey pk (VaultInner.setColumns update)
      (fun _ _ h => h) (fun _ _ h => h)
    (oneRow (table.get VaultInner.primaryKey pk), { pg with vault := table })
  | .deleteLocker pk =>
    let (rows, table) := pg.locker.delete LockerInner.primaryKey pk
    (.ok rows, { pg with locker := table })
  | .deleteReverseLookup lookupId =>
    let (rows, table) := pg.reverseLookup.delete ReverseLookup.lookupId lookupId
    (.ok rows, { pg with reverseLookup := table })
  | .deleteVault pk =>
    let (rows, table) := pg.vault.delete VaultInner.primaryKey pk
    (.ok rows, { pg with vault := table })

/-- Replay one statement: an error is dropped. -/
def Pg.apply (stmt : Statement) (pg : Pg) : Pg := (pg.execute stmt).2

/-! ## One insertion -/

section InsertRow

variable {ρ κ : Type} {Clash : ρ → ρ → Prop} [DecidableRel Clash] {fits : Bool} {mk : ℕ → ρ}
  {table : Table ρ Clash}

theorem insertRow_eq_ok_iff {row : ρ} :
    (insertRow fits mk table).1 = .ok row ↔
      fits = true ∧ (∀ a ∈ table.rows, ¬ Clash a (mk table.serial)) ∧ row = mk table.serial := by
  unfold insertRow
  cases fits with
  | false => simp
  | true =>
    cases h : table.insert mk with
    | none =>
      obtain ⟨a, ha, hclash⟩ := Table.insert_eq_none_iff.1 h
      simp only [if_true, reduceCtorEq, true_and, false_iff, not_and]
      exact fun hall => absurd hclash (hall a ha)
    | some p =>
      obtain ⟨hclash, hrow, _⟩ := Table.insert_eq_some_iff.1 h
      simp only [if_true, Except.ok.injEq, hrow, true_and]
      exact ⟨fun he => ⟨hclash, he.symm⟩, fun he => he.2.symm⟩

theorem insertRow_of_error {e : DieselError} (h : (insertRow fits mk table).1 = .error e) :
    (insertRow fits mk table).2 = table := by
  unfold insertRow at h ⊢
  cases fits with
  | false => rfl
  | true =>
    cases hins : table.insert mk with
    | none => simp
    | some p => simp [hins] at h

theorem insertRow_of_ok {row : ρ} (h : (insertRow fits mk table).1 = .ok row) :
    table.insert mk = some (row, (insertRow fits mk table).2) := by
  unfold insertRow at h ⊢
  cases fits with
  | false => simp at h
  | true =>
    cases hins : table.insert mk with
    | none => simp [hins] at h
    | some p =>
      simp only [hins, if_true, Except.ok.injEq] at h ⊢
      rw [← h]

/-- An INSERT that the column limits allow fails only on a unique key. -/
theorem insertRow_error_iff {e : DieselError} :
    (insertRow fits mk table).1 = .error e ↔
      (fits = false ∧ e = .other) ∨
        (fits = true ∧ e = .uniqueViolation ∧ ∃ a ∈ table.rows, Clash a (mk table.serial)) := by
  unfold insertRow
  cases fits with
  | false => simp [eq_comm]
  | true =>
    cases h : table.insert mk with
    | none =>
      obtain ⟨a, ha, hclash⟩ := Table.insert_eq_none_iff.1 h
      simp only [if_true, Except.error.injEq, Bool.true_eq_false, false_and, true_and, false_or]
      exact ⟨fun he => ⟨he.symm, a, ha, hclash⟩, fun he => he.1.symm⟩
    | some p =>
      obtain ⟨hclash, _⟩ := Table.insert_eq_some_iff.1 h
      simp only [if_true, reduceCtorEq, Bool.true_eq_false, false_and, true_and, false_or,
        false_iff, not_and, not_exists]
      exact fun _ a ha => hclash a ha

variable [DecidableEq κ] {key : ρ → κ} {k : κ}

theorem get_insertRow_of_ne (hne : ∀ n, key (mk n) ≠ k) :
    (insertRow fits mk table).2.get key k = table.get key k := by
  cases h : (insertRow fits mk table).1 with
  | error e => rw [insertRow_of_error h]
  | ok row =>
    have hrow := (insertRow_eq_ok_iff.1 h).2.2
    exact Table.get_insert_of_ne (insertRow_of_ok h) (hrow ▸ hne _)

variable (hkey : ∀ a b, key a = key b → Clash a b)
include hkey

/-- A row that is there stays. -/
theorem get_insertRow_of_some {row : ρ} (hk : ∀ n, key (mk n) = k)
    (hget : table.get key k = some row) :
    (insertRow fits mk table).2.get key k = some row := by
  cases h : (insertRow fits mk table).1 with
  | error e => rw [insertRow_of_error h, hget]
  | ok row' =>
    have := Table.insert_eq_none_of_get hkey hget (hk table.serial)
    rw [insertRow_of_ok h] at this
    cases this

/-- A row that is not there is stored, if no column limit and no unique key
    refuses it. -/
theorem get_insertRow_of_none (hk : ∀ n, key (mk n) = k) (hget : table.get key k = none) :
    (insertRow fits mk table).2.get key k =
      if fits = true ∧ ∀ a ∈ table.rows, ¬ Clash a (mk table.serial) then some (mk table.serial)
      else none := by
  cases h : (insertRow fits mk table).1 with
  | error e =>
    have hno : ¬ (fits = true ∧ ∀ a ∈ table.rows, ¬ Clash a (mk table.serial)) := fun hall => by
      rw [insertRow_eq_ok_iff.2 ⟨hall.1, hall.2, rfl⟩] at h
      cases h
    rw [if_neg hno, insertRow_of_error h, hget]
  | ok row =>
    obtain ⟨hfits, hclash, hrow⟩ := insertRow_eq_ok_iff.1 h
    rw [if_pos ⟨hfits, hclash⟩, ← hrow, ← hk table.serial, ← hrow]
    exact Table.get_insert_self hkey (insertRow_of_ok h)

end InsertRow

/-! ## What a statement does to the row of its key -/

/-- The change a statement makes to the row of its key. -/
inductive Effect where
  /-- Store the row built from the next serial number, if there is none. -/
  | insert (mk : ℕ → Row)
  | update (f : Row → Row)
  | delete

/-- The effect of a statement on its own key. -/
def Statement.effect : Statement → Effect
  | .insertFingerprint new => .insert fun id => .fingerprint (new.row id)
  | .insertHashTable new => .insert fun id => .hashTable (new.row id)
  | .insertLocker new => .insert fun id => .locker (new.row id)
  | .insertReverseLookup new => .insert fun _ => .reverseLookup new.toReverseLookup
  | .insertVault new => .insert fun id => .vault (new.row id)
  | .updateVault _ update => .update fun
    | .vault row => .vault (row.setColumns update)
    | row => row
  | .deleteLocker _ => .delete
  | .deleteReverseLookup _ => .delete
  | .deleteVault _ => .delete

/-- An INSERT, of whatever table. -/
def Statement.isInsert (stmt : Statement) : Bool :=
  match stmt.effect with
  | .insert _ => true
  | .update _ | .delete => false

/-- The row that running a statement answers, if it answers one. -/
def Statement.outputRow : (stmt : Statement) → stmt.Output → Option Row
  | .insertFingerprint _, row => some (.fingerprint row)
  | .insertHashTable _, row => some (.hashTable row)
  | .insertLocker _, row => some (.locker row)
  | .insertReverseLookup _, row => some (.reverseLookup row)
  | .insertVault _, row => some (.vault row)
  | .updateVault .., row => some (.vault row)
  | .deleteLocker _, _ => none
  | .deleteReverseLookup _, _ => none
  | .deleteVault _, _ => none

/-- A row without its serial number. -/
def Row.clearId : Row → Row
  | .fingerprint row => .fingerprint { row with id := 0 }
  | .hashTable row => .hashTable { row with id := 0 }
  | .locker row => .locker { row with id := 0 }
  | .reverseLookup row => .reverseLookup row
  | .vault row => .vault { row with id := 0 }

/-- A row as the column types of its table keep it, without serial number. -/
def Row.stored : Row → Row
  | .fingerprint row => .fingerprint { row with id := 0 }
  | .hashTable row => .hashTable { row with id := 0, createdAt := row.createdAt.toTimestamp }
  | .locker row => .locker { row with
      id := 0
      createdAt := row.createdAt.toTimestamp
      ttl := row.ttl.map PrimitiveDateTime.toTimestamp }
  | .reverseLookup row => .reverseLookup row
  | .vault row => .vault { row with
      id := 0
      createdAt := row.createdAt.toTimestamp
      expiresAt := row.expiresAt.map PrimitiveDateTime.toTimestamp }

/-- What a statement leaves of the row of its key, up to the serial number, when
    no other column is unique. -/
def Statement.act (stmt : Statement) (row : Option Row) : Option Row :=
  match stmt.effect with
  | .insert mk =>
    match row with
    | some row => some row
    | none => if stmt.fits then some (mk 0).clearId else none
  | .update f => row.map f
  | .delete => none

/-- Only an INSERT makes a row of nothing. -/
theorem Statement.act_none (stmt : Statement) :
    stmt.act none = none ↔ (stmt.isInsert = true → stmt.fits = false) := by
  unfold act isInsert
  cases stmt.effect with
  | insert mk => cases stmt.fits <;> simp
  | update f => simp
  | delete => simp

/-- The tables whose primary key is their only unique key. -/
def PartitionKey.soleKey : PartitionKey → Bool
  | .fingerprint _ | .reverseLookup _ | .vault .. => true
  | .combinationKey _ | .hashTable _ | .locker .. => false

/-- What an effect may turn a row into. A unique key of another column or a
    column limit may refuse an INSERT. -/
def Effect.Allows (effect : Effect) (before after : Option Row) : Prop :=
  match effect, before with
  | .insert _, some row => after = some row
  | .insert mk, none => after = none ∨ ∃ id, after = some (mk id)
  | .update f, before => after = before.map f
  | .delete, _ => after = none

@[simp] theorem FingerprintTableNew.row_fingerprintHash (new : FingerprintTableNew) (id : ℕ) :
    (new.row id).fingerprintHash = new.fingerprintHash := rfl

@[simp] theorem HashTableNew.row_dataHash (new : HashTableNew) (id : ℕ) :
    (new.row id).dataHash = new.dataHash := rfl

@[simp] theorem HashTableNew.row_hashId (new : HashTableNew) (id : ℕ) :
    (new.row id).hashId = new.hashId := rfl

@[simp] theorem LockerNew.row_primaryKey (new : LockerNew) (id : ℕ) :
    (new.row id).primaryKey = ⟨new.lockerId, new.merchantId, new.customerId⟩ := rfl

@[simp] theorem LockerNew.row_hashKey (new : LockerNew) (id : ℕ) :
    (new.row id).hashKey = ⟨new.hashId, new.merchantId, new.customerId⟩ := rfl

@[simp] theorem ReverseLookupNew.toReverseLookup_lookupId (new : ReverseLookupNew) :
    new.toReverseLookup.lookupId = new.lookupId := rfl

@[simp] theorem VaultNewInner.row_primaryKey (new : VaultNewInner) (id : ℕ) :
    (new.row id).primaryKey = ⟨new.entityId, new.vaultId⟩ := rfl

@[simp] theorem VaultInner.setColumns_primaryKey (update : VaultUpdate) (row : VaultInner) :
    (row.setColumns update).primaryKey = row.primaryKey := rfl

@[simp] theorem Row.clearId_partitionKey (row : Row) :
    row.clearId.partitionKey = row.partitionKey := by cases row <;> rfl

/-- A statement leaves a row of its own key. -/
theorem Statement.act_partitionKey (stmt : Statement) {row : Option Row} {row' : Row}
    (h : ∀ r, row = some r → r.partitionKey = stmt.partitionKey) (h' : stmt.act row = some row') :
    row'.partitionKey = stmt.partitionKey := by
  have hinsert : ∀ mk, stmt.effect = .insert mk → (mk 0).partitionKey = stmt.partitionKey := by
    intro mk hmk
    cases stmt <;> cases hmk <;> rfl
  have hupdate : ∀ f, stmt.effect = .update f → ∀ r, (f r).partitionKey = r.partitionKey := by
    intro f hf r
    cases stmt with
    | updateVault pk update =>
      cases hf
      cases r <;> rfl
    | _ => cases hf
  unfold act at h'
  cases heffect : stmt.effect with
  | insert mk =>
    cases row with
    | some r => simp only [heffect] at h'; exact h row' h'
    | none =>
      simp only [heffect] at h'
      split_ifs at h' with hfits
      cases h'
      rw [Row.clearId_partitionKey, hinsert mk heffect]
  | update f =>
    simp only [heffect, Option.map_eq_some_iff] at h'
    obtain ⟨r, hr, rfl⟩ := h'
    rw [hupdate f heffect, h r hr]
  | delete => simp [heffect] at h'

namespace Pg

variable {pg : Pg} {stmt : Statement} {key : PartitionKey}

/-- The row a read finds has the key asked for. -/
theorem partitionKey_of_rowAt {row : Row} (h : pg.rowAt key = some row) :
    row.partitionKey = key := by
  cases key with
  | combinationKey _ => cases h
  | fingerprint _ =>
    obtain ⟨r, hr, rfl⟩ := Option.map_eq_some_iff.1 h
    exact congrArg PartitionKey.fingerprint (Table.key_of_get hr)
  | hashTable _ =>
    obtain ⟨r, hr, rfl⟩ := Option.map_eq_some_iff.1 h
    exact congrArg PartitionKey.hashTable (Table.key_of_get hr)
  | locker _ _ _ =>
    obtain ⟨r, hr, rfl⟩ := Option.map_eq_some_iff.1 h
    exact congrArg LockerPrimaryKeyType.getPartitionKey (Table.key_of_get hr)
  | reverseLookup _ =>
    obtain ⟨r, hr, rfl⟩ := Option.map_eq_some_iff.1 h
    exact congrArg PartitionKey.reverseLookup (Table.key_of_get hr)
  | vault _ _ =>
    obtain ⟨r, hr, rfl⟩ := Option.map_eq_some_iff.1 h
    exact congrArg VaultPrimaryKey.getPartitionKey (Table.key_of_get hr)

theorem get_updateVault (pg : Pg) (pk : VaultPrimaryKey) (update : VaultUpdate)
    (k : VaultPrimaryKey) :
    (pg.apply (.updateVault pk update)).vault.get VaultInner.primaryKey k =
      if k = pk then (pg.vault.get VaultInner.primaryKey k).map (VaultInner.setColumns update)
      else pg.vault.get VaultInner.primaryKey k :=
  Table.get_update (f := VaultInner.setColumns update) (fun _ _ h => h) (fun _ _ h => h)
    (VaultInner.setColumns_primaryKey update)

/-- A statement leaves the rows of all other keys alone. -/
theorem rowAt_apply_of_ne (h : stmt.partitionKey ≠ key) :
    (pg.apply stmt).rowAt key = pg.rowAt key := by
  cases stmt with
  | insertFingerprint new =>
    cases key <;> try rfl
    case fingerprint hash =>
      exact congrArg (Option.map Row.fingerprint)
        (get_insertRow_of_ne fun _ he => h (congrArg PartitionKey.fingerprint he))
  | insertHashTable new =>
    cases key <;> try rfl
    case hashTable hash =>
      exact congrArg (Option.map Row.hashTable)
        (get_insertRow_of_ne fun _ he => h (congrArg PartitionKey.hashTable he))
  | insertLocker new =>
    cases key <;> try rfl
    case locker m c l =>
      exact congrArg (Option.map Row.locker)
        (get_insertRow_of_ne fun _ he => h (congrArg LockerPrimaryKeyType.getPartitionKey he))
  | insertReverseLookup new =>
    cases key <;> try rfl
    case reverseLookup id =>
      exact congrArg (Option.map Row.reverseLookup)
        (get_insertRow_of_ne fun _ he => h (congrArg PartitionKey.reverseLookup he))
  | insertVault new =>
    cases key <;> try rfl
    case vault e v =>
      exact congrArg (Option.map Row.vault)
        (get_insertRow_of_ne fun _ he => h (congrArg VaultPrimaryKey.getPartitionKey he))
  | updateVault pk update =>
    cases key <;> try rfl
    case vault e v =>
      refine congrArg (Option.map Row.vault) ((get_updateVault pg pk update _).trans (if_neg ?_))
      exact fun he => h (congrArg VaultPrimaryKey.getPartitionKey he.symm)
  | deleteLocker pk =>
    cases key <;> try rfl
    case locker m c l =>
      refine congrArg (Option.map Row.locker) ((Table.get_delete _ _ _).trans (if_neg ?_))
      exact fun he => h (congrArg LockerPrimaryKeyType.getPartitionKey he.symm)
  | deleteReverseLookup lookupId =>
    cases key <;> try rfl
    case reverseLookup id =>
      refine congrArg (Option.map Row.reverseLookup) ((Table.get_delete _ _ _).trans (if_neg ?_))
      exact fun he => h (congrArg PartitionKey.reverseLookup he.symm)
  | deleteVault pk =>
    cases key <;> try rfl
    case vault e v =>
      refine congrArg (Option.map Row.vault) ((Table.get_delete _ _ _).trans (if_neg ?_))
      exact fun he => h (congrArg VaultPrimaryKey.getPartitionKey he.symm)

theorem allows_insertRow {ρ κ : Type} {Clash : ρ → ρ → Prop} [DecidableRel Clash] [DecidableEq κ]
    {colKey : ρ → κ} (hkey : ∀ a b, colKey a = colKey b → Clash a b) (toRow : ρ → Row)
    {mk : ℕ → ρ} {k : κ} (hk : ∀ n, colKey (mk n) = k) (fits : Bool) (table : Table ρ Clash) :
    (Effect.insert fun id => toRow (mk id)).Allows ((table.get colKey k).map toRow)
      (((insertRow fits mk table).2.get colKey k).map toRow) := by
  cases h : table.get colKey k with
  | some row =>
    rw [get_insertRow_of_some hkey hk h]
    exact rfl
  | none =>
    rw [get_insertRow_of_none hkey hk h]
    split_ifs
    · exact Or.inr ⟨_, rfl⟩
    · exact Or.inl rfl

/-- What a statement does to the row of its own key. -/
theorem rowAt_apply_allowed (stmt : Statement) (pg : Pg) :
    stmt.effect.Allows (pg.rowAt stmt.partitionKey)
      ((pg.apply stmt).rowAt stmt.partitionKey) := by
  cases stmt with
  | insertFingerprint new =>
    exact allows_insertRow (fun _ _ h => h) Row.fingerprint new.row_fingerprintHash _ pg.fingerprint
  | insertHashTable new =>
    exact allows_insertRow (fun _ _ h => Or.inl h) Row.hashTable new.row_dataHash _ pg.hashTable
  | insertLocker new =>
    exact allows_insertRow (fun _ _ h => Or.inl h) Row.locker new.row_primaryKey _ pg.locker
  | insertReverseLookup new =>
    exact allows_insertRow (fun _ _ h => h) Row.reverseLookup (fun _ => rfl) _ pg.reverseLookup
  | insertVault new =>
    exact allows_insertRow (fun _ _ h => h) Row.vault new.row_primaryKey _ pg.vault
  | updateVault pk update =>
    have h := (get_updateVault pg pk update pk).trans (if_pos rfl)
    refine (congrArg (Option.map Row.vault) h).trans ?_
    change _ = ((pg.vault.get VaultInner.primaryKey pk).map Row.vault).map _
    cases pg.vault.get VaultInner.primaryKey pk <;> rfl
  | deleteLocker pk =>
    exact congrArg (Option.map Row.locker) ((Table.get_delete _ _ _).trans (if_pos rfl))
  | deleteReverseLookup lookupId =>
    exact congrArg (Option.map Row.reverseLookup) ((Table.get_delete _ _ _).trans (if_pos rfl))
  | deleteVault pk =>
    exact congrArg (Option.map Row.vault) ((Table.get_delete _ _ _).trans (if_pos rfl))

theorem insertRow_ok_found {ρ κ : Type} {Clash : ρ → ρ → Prop} [DecidableRel Clash]
    [DecidableEq κ] {colKey : ρ → κ} (hkey : ∀ a b, colKey a = colKey b → Clash a b)
    (toRow : ρ → Row) {mk : ℕ → ρ} {k : κ} (hk : ∀ n, colKey (mk n) = k) {fits : Bool}
    {table : Table ρ Clash} {row : ρ} (h : (insertRow fits mk table).1 = .ok row) :
    fits = true ∧ (table.get colKey k).map toRow = none ∧
      ∃ id, some (toRow row) = some (toRow (mk id)) ∧
        ((insertRow fits mk table).2.get colKey k).map toRow = some (toRow (mk id)) := by
  obtain ⟨hfits, hclash, hrow⟩ := insertRow_eq_ok_iff.1 h
  have hnone : table.get colKey k = none := by
    rw [Table.get_eq_none_iff]
    exact fun a ha hak => hclash a ha (hkey _ _ (hak.trans (hk _).symm))
  refine ⟨hfits, by rw [hnone]; rfl, table.serial, by rw [hrow], ?_⟩
  rw [get_insertRow_of_none hkey hk hnone, if_pos ⟨hfits, hclash⟩]
  rfl

/-- An INSERT that succeeds has found no row and stored the one it answers. -/
theorem execute_insert_ok {stmt : Statement} {mk : ℕ → Row} {out : stmt.Output}
    (hmk : stmt.effect = .insert mk) (h : (pg.execute stmt).1 = .ok out) :
    stmt.fits = true ∧ pg.rowAt stmt.partitionKey = none ∧
      ∃ id, stmt.outputRow out = some (mk id) ∧
        (pg.apply stmt).rowAt stmt.partitionKey = some (mk id) := by
  cases stmt with
  | insertFingerprint new =>
    cases hmk
    exact insertRow_ok_found (fun _ _ h => h) Row.fingerprint new.row_fingerprintHash h
  | insertHashTable new =>
    cases hmk
    exact insertRow_ok_found (fun _ _ h => Or.inl h) Row.hashTable new.row_dataHash h
  | insertLocker new =>
    cases hmk
    exact insertRow_ok_found (fun _ _ h => Or.inl h) Row.locker new.row_primaryKey h
  | insertReverseLookup new =>
    cases hmk
    exact insertRow_ok_found (fun _ _ h => h) Row.reverseLookup
      (fun _ => new.toReverseLookup_lookupId) h
  | insertVault new =>
    cases hmk
    exact insertRow_ok_found (fun _ _ h => h) Row.vault new.row_primaryKey h
  | updateVault => cases hmk
  | deleteLocker => cases hmk
  | deleteReverseLookup => cases hmk
  | deleteVault => cases hmk

/-- An UPDATE that fails changes nothing. -/
theorem apply_of_update_error {pk : VaultPrimaryKey} {update : VaultUpdate} {e : DieselError}
    (h : (pg.execute (.updateVault pk update)).1 = .error e) :
    pg.apply (.updateVault pk update) = pg := by
  have hnone : (pg.apply (.updateVault pk update)).vault.get VaultInner.primaryKey pk = none := by
    change oneRow ((pg.apply (.updateVault pk update)).vault.get VaultInner.primaryKey pk) = _ at h
    cases hget : (pg.apply (.updateVault pk update)).vault.get VaultInner.primaryKey pk with
    | none => rfl
    | some row =>
      rw [hget] at h
      cases h
  rw [get_updateVault, if_pos rfl, Option.map_eq_none_iff] at hnone
  exact congrArg (fun table => { pg with vault := table }) (Table.update_of_get_none hnone)

/-- An INSERT that fails changes nothing. -/
theorem apply_of_insert_error {stmt : Statement} {mk : ℕ → Row} {e : DieselError}
    (hmk : stmt.effect = .insert mk) (h : (pg.execute stmt).1 = .error e) : pg.apply stmt = pg := by
  cases stmt with
  | insertFingerprint new =>
    exact congrArg (fun table => { pg with fingerprint := table }) (insertRow_of_error h)
  | insertHashTable new =>
    exact congrArg (fun table => { pg with hashTable := table }) (insertRow_of_error h)
  | insertLocker new =>
    exact congrArg (fun table => { pg with locker := table }) (insertRow_of_error h)
  | insertReverseLookup new =>
    exact congrArg (fun table => { pg with reverseLookup := table }) (insertRow_of_error h)
  | insertVault new =>
    exact congrArg (fun table => { pg with vault := table }) (insertRow_of_error h)
  | updateVault => cases hmk
  | deleteLocker => cases hmk
  | deleteReverseLookup => cases hmk
  | deleteVault => cases hmk

/-- An INSERT of a key that has a row fails. -/
theorem execute_insert_of_rowAt {stmt : Statement} {mk : ℕ → Row} {row : Row}
    (hmk : stmt.effect = .insert mk) (hrow : pg.rowAt stmt.partitionKey = some row) :
    (pg.execute stmt).1 = .error (if stmt.fits then .uniqueViolation else .other) := by
  have aux : ∀ {ρ κ : Type} {Clash : ρ → ρ → Prop} [DecidableRel Clash] [DecidableEq κ]
      {key : ρ → κ} (_ : ∀ a b, key a = key b → Clash a b) {toRow : ρ → Row} {mk : ℕ → ρ} {k : κ}
      (_ : ∀ n, key (mk n) = k) (fits : Bool) {table : Table ρ Clash}
      (_ : (table.get key k).map toRow = some row),
      (insertRow fits mk table).1 = .error (if fits then .uniqueViolation else .other) := by
    intro ρ κ Clash _ _ key hkey toRow mk k hk fits table hget
    obtain ⟨stored, hstored, -⟩ := Option.map_eq_some_iff.1 hget
    have hclash : ∃ a ∈ table.rows, Clash a (mk table.serial) :=
      Table.insert_eq_none_iff.1 (Table.insert_eq_none_of_get hkey hstored (hk _))
    cases fits with
    | false => exact insertRow_error_iff.2 (Or.inl ⟨rfl, rfl⟩)
    | true => exact insertRow_error_iff.2 (Or.inr ⟨rfl, rfl, hclash⟩)
  cases stmt with
  | insertFingerprint new => exact aux (fun _ _ h => h) new.row_fingerprintHash _ hrow
  | insertHashTable new => exact aux (fun _ _ h => Or.inl h) new.row_dataHash _ hrow
  | insertLocker new => exact aux (fun _ _ h => Or.inl h) new.row_primaryKey _ hrow
  | insertReverseLookup new => exact aux (fun _ _ h => h) (fun _ => rfl) _ hrow
  | insertVault new => exact aux (fun _ _ h => h) new.row_primaryKey _ hrow
  | updateVault => cases hmk
  | deleteLocker => cases hmk
  | deleteReverseLookup => cases hmk
  | deleteVault => cases hmk

/-- An INSERT fails on a column limit or on a unique key. -/
theorem insert_error {stmt : Statement} {mk : ℕ → Row} {e : DieselError}
    (hmk : stmt.effect = .insert mk) (h : (pg.execute stmt).1 = .error e) :
    e = .other ∨ e = .uniqueViolation := by
  have aux : ∀ {ρ : Type} {Clash : ρ → ρ → Prop} [DecidableRel Clash] {fits : Bool} {mk : ℕ → ρ}
      {table : Table ρ Clash} (_ : (insertRow fits mk table).1 = .error e),
      e = .other ∨ e = .uniqueViolation := fun h => by
    rcases insertRow_error_iff.1 h with ⟨_, h⟩ | ⟨_, h, _⟩
    · exact Or.inl h
    · exact Or.inr h
  cases stmt with
  | insertFingerprint new => exact aux h
  | insertHashTable new => exact aux h
  | insertLocker new => exact aux h
  | insertReverseLookup new => exact aux h
  | insertVault new => exact aux h
  | updateVault => cases hmk
  | deleteLocker => cases hmk
  | deleteReverseLookup => cases hmk
  | deleteVault => cases hmk

/-! ## The row of one key, up to its serial number -/

/-- What a read of `key` finds, up to the serial number. -/
def view (key : PartitionKey) (pg : Pg) : Option Row := (pg.rowAt key).map Row.clearId

/-- A lookup record has no serial number. -/
theorem view_reverseLookup (lookupId : String) (pg : Pg) :
    view (.reverseLookup lookupId) pg = pg.rowAt (.reverseLookup lookupId) := by
  change ((Option.map _ _).map _) = Option.map _ _
  rw [Option.map_map]
  rfl

theorem view_insertRow {ρ κ : Type} {Clash : ρ → ρ → Prop} [DecidableRel Clash] [DecidableEq κ]
    {colKey : ρ → κ} (hclash : ∀ a b, Clash a b ↔ colKey a = colKey b) (toRow : ρ → Row)
    {mk : ℕ → ρ} {k : κ} (hk : ∀ n, colKey (mk n) = k)
    (hid : ∀ n, (toRow (mk n)).clearId = (toRow (mk 0)).clearId) (fits : Bool)
    (table : Table ρ Clash) :
    (((insertRow fits mk table).2.get colKey k).map toRow).map Row.clearId =
      match ((table.get colKey k).map toRow).map Row.clearId with
      | some row => some row
      | none => if fits then some (toRow (mk 0)).clearId else none := by
  cases hget : table.get colKey k with
  | some row =>
    rw [get_insertRow_of_some (fun a b => (hclash a b).2) hk hget]
    rfl
  | none =>
    have hno : ∀ a ∈ table.rows, ¬ Clash a (mk table.serial) := fun a ha hc =>
      Table.get_eq_none_iff.1 hget a ha (((hclash _ _).1 hc).trans (hk _))
    rw [get_insertRow_of_none (fun a b => (hclash a b).2) hk hget]
    cases fits with
    | false => rfl
    | true =>
      rw [if_pos ⟨rfl, hno⟩]
      exact congrArg some (hid _)

/-- In a table whose primary key is its only unique key, what a statement leaves
    of the row of its key depends on that row alone. -/
theorem view_apply (hkey : key.soleKey = true) (stmt : Statement) (pg : Pg) :
    view key (pg.apply stmt) =
      if stmt.partitionKey = key then stmt.act (view key pg) else view key pg := by
  split_ifs with h
  · subst h
    cases stmt with
    | insertFingerprint new =>
      exact view_insertRow (fun _ _ => Iff.rfl) Row.fingerprint new.row_fingerprintHash
        (fun _ => rfl) _ _
    | insertHashTable new => cases hkey
    | insertLocker new => cases hkey
    | insertReverseLookup new =>
      exact view_insertRow (fun _ _ => Iff.rfl) Row.reverseLookup
        (fun _ => new.toReverseLookup_lookupId) (fun _ => rfl) _ _
    | insertVault new =>
      exact view_insertRow (fun _ _ => Iff.rfl) Row.vault new.row_primaryKey (fun _ => rfl) _ _
    | updateVault pk update =>
      have hup := rowAt_apply_allowed (.updateVault pk update) pg
      refine (congrArg (Option.map Row.clearId) hup).trans ?_
      change _ = ((pg.rowAt _).map Row.clearId).map _
      simp only [Option.map_map]
      congr 1
      funext row
      cases row <;> rfl
    | deleteLocker pk => cases hkey
    | deleteReverseLookup lookupId =>
      exact congrArg (Option.map Row.clearId)
        (rowAt_apply_allowed (.deleteReverseLookup lookupId) pg)
    | deleteVault pk =>
      exact congrArg (Option.map Row.clearId) (rowAt_apply_allowed (.deleteVault pk) pg)
  · rw [view, view, rowAt_apply_of_ne h]

end Pg

end CardVault
