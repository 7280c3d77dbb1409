import Mathlib.Data.List.Basic
import Mathlib.Data.List.Pairwise

/-!
# Tables with unique keys

A `Table ρ Clash` is a list of rows no two of which clash. `Clash a b` says that
`a` and `b` agree on one of the table's unique keys, so a table with a primary
key and further unique indexes has one relation for all of them. Rows get their
serial number on insertion.

Main results:

* `get_eq_some_iff`: a point read by a unique key finds exactly the row with it.
* `insert_eq_some_iff`, `insert_eq_none_iff`: an insertion fails exactly when a
  row clashes with the new one.
* `get_insert_of_ne`, `get_insert_self`, `get_delete`, `get_update`: point reads
  after a change.
-/

namespace Relational

/-- Rows no two of which clash, and the next serial number. -/
structure Table (ρ : Type) (Clash : ρ → ρ → Prop) where
  rows : List ρ
  serial : ℕ
  unique : rows.Pairwise fun a b => ¬ Clash a b

namespace Table

variable {ρ κ : Type} {Clash : ρ → ρ → Prop}

/-- The empty table. -/
def empty : Table ρ Clash := ⟨[], 1, List.Pairwise.nil⟩

/-- The row with the key `k`. -/
def get [DecidableEq κ] (key : ρ → κ) (k : κ) (t : Table ρ Clash) : Option ρ :=
  t.rows.find? fun r => key r = k

/-- Insert the row built from the next serial number, unless it clashes. -/
def insert [DecidableRel Clash] (mk : ℕ → ρ) (t : Table ρ Clash) : Option (ρ × Table ρ Clash) :=
  if h : ∀ a ∈ t.rows, ¬ Clash a (mk t.serial) then
    some (mk t.serial, ⟨t.rows ++ [mk t.serial], t.serial + 1, by
      refine List.pairwise_append.2 ⟨t.unique, List.pairwise_singleton _ _, fun a ha b hb => ?_⟩
      rw [List.mem_singleton.1 hb]
      exact h a ha⟩)
  else none

/-- Delete the row with the key `k`; the number of rows deleted. -/
def delete [DecidableEq κ] (key : ρ → κ) (k : κ) (t : Table ρ Clash) : ℕ × Table ρ Clash :=
  ((t.rows.filter fun r => key r = k).length,
    ⟨t.rows.filter fun r => key r ≠ k, t.serial, t.unique.filter _⟩)

/-- Change the row with the key `k` by `f`, which keeps the unique keys. -/
def update [DecidableEq κ] (key : ρ → κ) (k : κ) (f : ρ → ρ)
    (hl : ∀ a b, Clash (f a) b → Clash a b) (hr : ∀ a b, Clash a (f b) → Clash a b)
    (t : Table ρ Clash) : Table ρ Clash :=
  ⟨t.rows.map fun r => if key r = k then f r else r, t.serial, by
    refine List.pairwise_map.2 (t.unique.imp fun {a b} hab => ?_)
    split_ifs with h1 h2 h2
    · exact fun h => hab (hl _ _ (hr _ _ h))
    · exact fun h => hab (hl _ _ h)
    · exact fun h => hab (hr _ _ h)
    · exact hab⟩

theorem ext_rows {t t' : Table ρ Clash} (hr : t.rows = t'.rows) (hs : t.serial = t'.serial) :
    t = t' := by
  cases t; cases t'; simp_all

/-! ## Point reads -/

section Get

variable [DecidableEq κ] {key : ρ → κ}

theorem mem_of_get {t : Table ρ Clash} {k : κ} {r : ρ} (h : t.get key k = some r) : r ∈ t.rows :=
  List.mem_of_find?_eq_some h

theorem key_of_get {t : Table ρ Clash} {k : κ} {r : ρ} (h : t.get key k = some r) : key r = k := by
  simpa using List.find?_some h

theorem get_eq_none_iff {t : Table ρ Clash} {k : κ} :
    t.get key k = none ↔ ∀ r ∈ t.rows, key r ≠ k := by
  simp [get]

theorem isSome_get {t : Table ρ Clash} {k : κ} {r : ρ} (hr : r ∈ t.rows) (hk : key r = k) :
    (t.get key k).isSome = true := by
  rw [Option.isSome_iff_ne_none]
  exact fun hnone => get_eq_none_iff.1 hnone r hr hk

/-- Two rows of a table with the same unique key are the same row. -/
theorem eq_of_clash (hsymm : ∀ a b, Clash a b → Clash b a) {t : Table ρ Clash} {a b : ρ}
    (ha : a ∈ t.rows) (hb : b ∈ t.rows) (h : Clash a b) : a = b := by
  by_contra hne
  have hp : t.rows.Pairwise fun x y => ¬ Clash x y ∧ ¬ Clash y x :=
    t.unique.imp fun {x y} hxy => ⟨hxy, fun hyx => hxy (hsymm _ _ hyx)⟩
  have hsym : Std.Symm fun x y => ¬ Clash x y ∧ ¬ Clash y x := ⟨fun _ _ hxy => ⟨hxy.2, hxy.1⟩⟩
  exact (hp.forall ha hb hne).1 h

variable (hkey : ∀ a b, key a = key b → Clash a b) (hsymm : ∀ a b, Clash a b → Clash b a)
include hkey hsymm

/-- A point read finds exactly the row with the key. -/
theorem get_eq_some_iff {t : Table ρ Clash} {k : κ} {r : ρ} :
    t.get key k = some r ↔ r ∈ t.rows ∧ key r = k := by
  constructor
  · exact fun h => ⟨mem_of_get h, key_of_get h⟩
  · rintro ⟨hr, rfl⟩
    cases h : t.get key (key r) with
    | none => exact absurd rfl (get_eq_none_iff.1 h r hr)
    | some r' =>
      have hk : key r' = key r := key_of_get h
      rw [eq_of_clash hsymm (mem_of_get h) hr (hkey _ _ hk)]

end Get

/-! ## Insertion -/

section Insert

variable [DecidableRel Clash] {mk : ℕ → ρ} {t : Table ρ Clash}

theorem insert_eq_none_iff : t.insert mk = none ↔ ∃ a ∈ t.rows, Clash a (mk t.serial) := by
  unfold insert
  split_ifs with h
  · simpa using h
  · simpa using h

theorem insert_eq_some_iff {r : ρ} {t' : Table ρ Clash} :
    t.insert mk = some (r, t') ↔
      (∀ a ∈ t.rows, ¬ Clash a (mk t.serial)) ∧ r = mk t.serial ∧
        t'.rows = t.rows ++ [mk t.serial] ∧ t'.serial = t.serial + 1 := by
  unfold insert
  split_ifs with h
  · simp only [Option.some.injEq, Prod.mk.injEq]
    constructor
    · rintro ⟨rfl, rfl⟩
      exact ⟨h, rfl, rfl, rfl⟩
    · rintro ⟨_, rfl, hrows, hserial⟩
      exact ⟨rfl, ext_rows hrows.symm hserial.symm⟩
  · simp [h]

variable [DecidableEq κ] {key : ρ → κ}

/-- An insertion does not change what a read of another key finds. -/
theorem get_insert_of_ne {r : ρ} {t' : Table ρ Clash} {k : κ} (h : t.insert mk = some (r, t'))
    (hne : key r ≠ k) : t'.get key k = t.get key k := by
  obtain ⟨_, rfl, hrows, _⟩ := insert_eq_some_iff.1 h
  simp [get, hrows, hne]

/-- The row inserted is the row found. -/
theorem get_insert_self (hkey : ∀ a b, key a = key b → Clash a b) {r : ρ} {t' : Table ρ Clash}
    (h : t.insert mk = some (r, t')) : t'.get key (key r) = some r := by
  obtain ⟨hclash, rfl, hrows, _⟩ := insert_eq_some_iff.1 h
  have hnone : t.rows.find? (fun a => decide (key a = key (mk t.serial))) = none := by
    rw [List.find?_eq_none]
    intro a ha hk
    exact hclash a ha (hkey _ _ (by simpa using hk))
  simp [get, hrows, hnone]

/-- A row that is found keeps an insertion of the same key out. -/
theorem insert_eq_none_of_get (hkey : ∀ a b, key a = key b → Clash a b) {k : κ} {r : ρ}
    (h : t.get key k = some r) (hmk : key (mk t.serial) = k) : t.insert mk = none :=
  insert_eq_none_iff.2 ⟨r, mem_of_get h, hkey _ _ ((key_of_get h).trans hmk.symm)⟩

end Insert

/-! ## Deletion and update -/

section Change

variable [DecidableEq κ] {key : ρ → κ}

theorem get_delete (t : Table ρ Clash) (k k' : κ) :
    (t.delete key k).2.get key k' = if k' = k then none else t.get key k' := by
  split_ifs with h
  · subst h
    rw [get_eq_none_iff]
    intro r hr
    simpa using (List.mem_filter.1 hr).2
  · simp only [get, delete, List.find?_filter]
    congr 1
    funext r
    by_cases hr : key r = k'
    · simp [hr, h]
    · simp [hr]

/-- Nothing is deleted when no row has the key. -/
theorem delete_of_get_none {t : Table ρ Clash} {k : κ} (h : t.get key k = none) :
    t.delete key k = (0, t) := by
  have hk := get_eq_none_iff.1 h
  have h0 : (t.rows.filter fun r => key r = k) = [] := by
    simpa [List.filter_eq_nil_iff] using hk
  have h1 : (t.rows.filter fun r => key r ≠ k) = t.rows := by
    simpa [List.filter_eq_self] using hk
  unfold delete
  rw [Prod.mk.injEq]
  exact ⟨by rw [h0]; rfl, ext_rows h1 rfl⟩

/-- A deletion by one key does not change what a read by another finds, when no
    row has both. -/
theorem get_delete_of_ne {κ' : Type} [DecidableEq κ'] {key' : ρ → κ'} {t : Table ρ Clash} {k : κ}
    {k' : κ'} (h : ∀ r, key' r = k' → key r ≠ k) :
    (t.delete key k).2.get key' k' = t.get key' k' := by
  simp only [get, delete, List.find?_filter]
  congr 1
  funext r
  by_cases hr : key' r = k'
  · simp [hr, h r hr]
  · simp [hr]

/-- Nothing is changed when no row has the key. -/
theorem update_of_get_none {t : Table ρ Clash} {k : κ} {f : ρ → ρ}
    {hl : ∀ a b, Clash (f a) b → Clash a b} {hr : ∀ a b, Clash a (f b) → Clash a b}
    (h : t.get key k = none) : t.update key k f hl hr = t := by
  have hrows : t.rows.map (fun r => if key r = k then f r else r) = t.rows :=
    (List.map_congr_left fun r hr => if_neg (get_eq_none_iff.1 h r hr)).trans (List.map_id' _)
  exact ext_rows hrows rfl

theorem get_update {t : Table ρ Clash} {k k' : κ} {f : ρ → ρ}
    (hl : ∀ a b, Clash (f a) b → Clash a b) (hr : ∀ a b, Clash a (f b) → Clash a b)
    (hf : ∀ r, key (f r) = key r) :
    (t.update key k f hl hr).get key k' =
      if k' = k then (t.get key k').map f else t.get key k' := by
  have hcomp : ((fun r => decide (key r = k')) ∘ fun r => if key r = k then f r else r) =
      fun r => decide (key r = k') := by
    funext r
    by_cases h : key r = k <;> simp [h, hf]
  simp only [get, update, List.find?_map, hcomp]
  cases h : t.rows.find? (fun r => decide (key r = k')) with
  | none => simp
  | some r =>
    have hr : key r = k' := by simpa using List.find?_some h
    by_cases hk : k' = k <;> simp [hr, hk]

end Change

end Table

end Relational
