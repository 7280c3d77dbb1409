import CardVault.KeyManager.Legacy
import CardVault.Lib.Joins

/-!
# The migration of legacy keys

`POST /key/transfer` (`src/src/routes/key_migration.rs`), called again and again. A call
reads the merchants that have no entity row, at most `limit` of them, and migrates them side
by side; any call to the database or to the key manager may fail, with or without effect.

Main results:
* `transferred_run`: one call.
* `migration_progress`: what the answers of a run say about the merchants that are left, and
  how far a run gets in which nothing fails.
-/

namespace CardVault

open Interaction Relational

namespace Migration

variable {σ : Type}

/-- The merchants that have no entity row. -/
def pending (s : KeyStore σ) : List MerchantInner :=
  s.tables.merchant.rows.filter fun row => (s.tables.entityRow row.merchantId).isNone

/-! ## One migration -/

/-- How far the migration of a merchant has come. -/
inductive Stage where
  | waiting
  /-- The key is in the key manager, under an identifier. -/
  | named (identifier : String)
  /-- The entity row is stored. -/
  | stored
  | failed

section Side

variable (service : KeyService σ) (keys : List Merchant) (before : KeyStore σ) (mayFail : Prop)
  (room : σ → Prop)

/-- The commands of the migration of the merchant at place `i`. -/
def Allowed (i : ℕ) : Stage → KeyCmd → Prop
  | x, .transferKey _ key =>
    x = .waiting ∧ ∃ merchant, keys[i]? = some merchant ∧ key = base64Encode merchant.encKey
  | _, .getConn => True
  | x, .insertEntity new =>
    ∃ merchant, keys[i]? = some merchant ∧ x = .named new.encKeyId ∧
      new.entityId = merchant.merchantId
  | _, .cacheEntity .. => True
  | _, _ => False

/-- What a command moves. -/
def Moves (x : Stage) : (c : KeyCmd) → KeyReply c → Stage → Prop
  | .transferKey .., reply, y =>
    (∃ identifier, reply = Except.ok identifier ∧ y = .named identifier) ∨
      (∃ e : KeyManagerError, reply = Except.error e) ∧ mayFail
  | .getConn, reply, y =>
    (∃ pool : DbPool, reply = Except.ok pool) ∧ y = x ∨
      (∃ e : StorageError, reply = Except.error e) ∧ mayFail
  | .insertEntity _, reply, y =>
    (∃ entity : Entity, reply = Except.ok entity) ∧ y = .stored ∨
      (∃ e : DieselError, reply = Except.error e) ∧ mayFail
  | .cacheEntity .., _, y => y = x
  | _, _, _ => True

/-- What a migration ends with. -/
def Ends : Except KeyManagerError Entity → Stage → Prop
  | .ok _, x => x = .stored
  | .error _, _ => mayFail

/-- The entity row of a merchant, and the keys that are named. -/
structure MerchantAt (u : Legacy.FaultyStore σ) (merchant : Merchant) (x : Stage) : Prop where
  names : ∀ entity, u.store.tables.entityRow merchant.merchantId = some entity →
    service.key u.store.service entity.encKeyId = some merchant.encKey
  stage : match x with
    | .waiting => u.store.tables.entityRow merchant.merchantId = none
    | .named identifier =>
      u.store.tables.entityRow merchant.merchantId = none ∧
        service.key u.store.service identifier = some merchant.encKey ∧
          (¬ mayFail → fitsVarchar 255 identifier = true)
    | .stored => (u.store.tables.entityRow merchant.merchantId).isSome = true
    | .failed => True

/-- What the migrations leave as it is. -/
structure Inv (u : Legacy.FaultyStore σ) : Prop where
  merchant : u.store.tables.merchant = before.tables.merchant
  others : ∀ entityId, (∀ merchant ∈ keys, merchant.merchantId ≠ entityId) →
    u.store.tables.entityRow entityId = before.tables.entityRow entityId
  pool : u.store.routedPool = before.routedPool
  answers : ¬ mayFail → (∀ c, u.delivery c = .answered) ∧ room u.store.service

/-- The key manager takes these keys as long as it has room, under identifiers that the
    column takes. -/
structure Accepts : Prop where
  transfer : ∀ state identifier, room state → ∀ merchant ∈ keys, ∃ identifier' state',
    service.transfer state identifier (base64Encode merchant.encKey) =
      some (identifier', state') ∧ fitsVarchar 255 identifier' = true ∧ room state'
  merchants : ∀ merchant ∈ keys, fitsVarchar 255 merchant.merchantId = true

variable {service keys before mayFail room}

/-- The row of a merchant, in a state that has the same row and all the keys. -/
theorem MerchantAt.congr {u : Legacy.FaultyStore σ} {merchant : Merchant} {x : Stage}
    (h : MerchantAt service mayFail u merchant x)
    {u' : Legacy.FaultyStore σ}
    (hrow : u'.store.tables.entityRow merchant.merchantId =
      u.store.tables.entityRow merchant.merchantId)
    (hservice : ∀ id key, service.key u.store.service id = some key →
      service.key u'.store.service id = some key) :
    MerchantAt service mayFail u' merchant x where
  names entity hentity := hservice _ _ (h.names entity (hrow ▸ hentity))
  stage := by
    have hstage := h.stage
    cases x with
    | waiting => exact hrow.trans hstage
    | named identifier => exact ⟨hrow.trans hstage.1, hservice _ _ hstage.2.1, hstage.2.2⟩
    | stored =>
      change (u'.store.tables.entityRow merchant.merchantId).isSome = true
      rw [hrow]
      exact hstage
    | failed => trivial

variable (service) in
/-- What a call does, unless it fails. -/
theorem exec_cases {u : Legacy.FaultyStore σ} (h : Inv keys before mayFail room u) (c : KeyCmd) :
    ((u.exec (KeyStore.exec service) c).1 = (u.store.exec service c).1 ∧
        (u.exec (KeyStore.exec service) c).2.store = (u.store.exec service c).2) ∨
      mayFail ∧ Legacy.KeyFailure c (u.exec (KeyStore.exec service) c).1 ∧
        ((u.exec (KeyStore.exec service) c).2.store = u.store ∨
          (u.exec (KeyStore.exec service) c).2.store = (u.store.exec service c).2) := by
  by_cases hfail : mayFail
  · exact (Unreliable.exec_cases (KeyStore.exec service) u c).imp_right fun hlost => ⟨hfail, hlost⟩
  · refine Or.inl ?_
    unfold Unreliable.exec
    rw [(h.answers hfail).1 c]
    exact ⟨rfl, rfl⟩

theorem delivery_exec (u : Legacy.FaultyStore σ) (c : KeyCmd) :
    (u.exec (KeyStore.exec service) c).2.delivery = u.delivery := by
  unfold Unreliable.exec
  cases u.delivery c <;> rfl

/-- Calls that insert no merchant and no entity of another merchant keep the rest. -/
theorem Inv.exec {u : Legacy.FaultyStore σ} (h : Inv keys before mayFail room u) {c : KeyCmd}
    (hmerchant : ∀ new, c ≠ .insertMerchant new)
    (hentity : ∀ new, c = .insertEntity new → ∃ merchant ∈ keys, new.entityId = merchant.merchantId)
    (hroom : ¬ mayFail → room (u.store.exec service c).2.service) :
    Inv keys before mayFail room (u.exec (KeyStore.exec service) c).2 := by
  have hstore := Unreliable.exec_store (KeyStore.exec service) u c
  refine ⟨?_, fun entityId hne => ?_, ?_, fun hfail => ⟨fun c' => ?_, ?_⟩⟩
  · rcases hstore with hstore | hstore <;> rw [hstore]
    · exact h.merchant
    · exact (KeyStore.merchant_exec hmerchant).trans h.merchant
  · rcases hstore with hstore | hstore <;> rw [hstore]
    · exact h.others entityId hne
    · rw [← h.others entityId hne]
      cases hrow : u.store.tables.entityRow entityId with
      | some row => exact KeyStore.entityRow_exec hrow c
      | none =>
        cases hrow' : (u.store.exec service c).2.tables.entityRow entityId with
        | none => rfl
        | some row =>
          rcases KeyStore.entityRow_of_exec hrow' with hold | hnew
          · rw [hrow] at hold
            cases hold
          · obtain ⟨merchant, hmem, hid⟩ := hentity _ hnew
            exact absurd hid.symm (hne merchant hmem)
  · rcases hstore with hstore | hstore <;> rw [hstore]
    · exact h.pool
    · exact (KeyStore.routedPool_exec c).trans h.pool
  · rw [delivery_exec]
    exact (h.answers hfail).1 c'
  · rcases exec_cases service h c with ⟨-, hstore⟩ | ⟨hmay, -⟩
    · rw [hstore]
      exact hroom hfail
    · exact absurd hmay hfail

/-- A state after a call, of which the rows of entities are as before. -/
theorem MerchantAt.exec (hkeys : Legacy.KeepsKeys service) {u : Legacy.FaultyStore σ}
    {merchant : Merchant} {x : Stage} (h : MerchantAt service mayFail u merchant x) {c : KeyCmd}
    (hc : ∀ new, c = .insertEntity new → new.entityId ≠ merchant.merchantId) :
    MerchantAt service mayFail (u.exec (KeyStore.exec service) c).2 merchant x := by
  have hstore := Unreliable.exec_store (KeyStore.exec service) u c
  refine h.congr ?_ fun id key hkey => ?_
  · rcases hstore with hstore | hstore <;> rw [hstore]
    cases hrow : u.store.tables.entityRow merchant.merchantId with
    | some row => exact KeyStore.entityRow_exec hrow c
    | none =>
      cases hrow' : (u.store.exec service c).2.tables.entityRow merchant.merchantId with
      | none => rfl
      | some row =>
        rcases KeyStore.entityRow_of_exec hrow' with hold | hnew
        · rw [hrow] at hold
          cases hold
        · exact absurd rfl (hc _ hnew)
  · rcases hstore with hstore | hstore <;> rw [hstore]
    · exact hkey
    · exact Legacy.key_exec hkeys hkey c

/-- The upload of a key. -/
theorem own_transferKey (hkeys : Legacy.KeepsKeys service)
    (haccepts : ¬ mayFail → Accepts service keys room) {u : Legacy.FaultyStore σ}
    (h : Inv keys before mayFail room u) {merchant : Merchant} (hmem : merchant ∈ keys)
    (hat : MerchantAt service mayFail u merchant .waiting) (identifier : String) :
    Inv keys before mayFail room
        (u.exec (KeyStore.exec service)
          (.transferKey identifier (base64Encode merchant.encKey))).2 ∧
      ∃ y, Moves mayFail .waiting (.transferKey identifier (base64Encode merchant.encKey))
          (u.exec (KeyStore.exec service)
            (.transferKey identifier (base64Encode merchant.encKey))).1 y ∧
        MerchantAt service mayFail (u.exec (KeyStore.exec service)
          (.transferKey identifier (base64Encode merchant.encKey))).2 merchant y := by
  have hafter := hat.exec hkeys (c := .transferKey identifier (base64Encode merchant.encKey))
    fun new hc => by cases hc
  constructor
  · refine h.exec (fun new hc => by cases hc) (fun new hc => by cases hc) fun hfail => ?_
    obtain ⟨identifier', state', htransfer, -, hroom⟩ := (haccepts hfail).transfer _ identifier
      (h.answers hfail).2 merchant hmem
    simp only [KeyStore.exec, htransfer]
    exact hroom
  rcases exec_cases service h (.transferKey identifier (base64Encode merchant.encKey)) with
    ⟨hreply, hstore⟩ | ⟨hmay, hfailure, -⟩
  · cases htransfer :
        service.transfer u.store.service identifier (base64Encode merchant.encKey) with
    | some answer =>
      obtain ⟨identifier', state'⟩ := answer
      simp only [KeyStore.exec, htransfer] at hreply hstore
      refine ⟨.named identifier', Or.inl ⟨identifier', hreply, rfl⟩, hafter.names, ?_, ?_, ?_⟩
      · exact hafter.stage
      · rw [hstore]
        exact hkeys.transferred htransfer
      · intro hfail
        obtain ⟨identifier'', state'', htransfer', hfits, -⟩ := (haccepts hfail).transfer _
          identifier (h.answers hfail).2 merchant hmem
        rw [htransfer] at htransfer'
        cases htransfer'
        exact hfits
    | none =>
      simp only [KeyStore.exec, htransfer] at hreply
      refine ⟨.waiting, Or.inr ⟨⟨_, hreply⟩, ?_⟩, hafter⟩
      by_contra hfail
      obtain ⟨identifier', state', htransfer', -⟩ := (haccepts hfail).transfer _ identifier
        (h.answers hfail).2 merchant hmem
      rw [htransfer] at htransfer'
      cases htransfer'
  · exact ⟨.waiting, Or.inr ⟨hfailure, hmay⟩, hafter⟩

/-- The INSERT of the entity row. -/
theorem own_insertEntity (hkeys : Legacy.KeepsKeys service)
    (haccepts : ¬ mayFail → Accepts service keys room) {u : Legacy.FaultyStore σ}
    (h : Inv keys before mayFail room u) {merchant : Merchant} (hmem : merchant ∈ keys)
    {new : EntityTableNew} (hid : new.entityId = merchant.merchantId)
    (hat : MerchantAt service mayFail u merchant (.named new.encKeyId)) :
    Inv keys before mayFail room (u.exec (KeyStore.exec service) (.insertEntity new)).2 ∧
      ∃ y, Moves mayFail (.named new.encKeyId) (.insertEntity new)
          (u.exec (KeyStore.exec service) (.insertEntity new)).1 y ∧
        MerchantAt service mayFail (u.exec (KeyStore.exec service) (.insertEntity new)).2
          merchant y := by
  obtain ⟨hnone, hnamed, hfits⟩ := hat.stage
  have hservice : ∀ id key, service.key u.store.service id = some key →
      service.key (u.exec (KeyStore.exec service) (.insertEntity new)).2.store.service id =
        some key := by
    intro id key hkey
    rcases Unreliable.exec_store (KeyStore.exec service) u (.insertEntity new) with hstore | hstore
    · rw [hstore]
      exact hkey
    · rw [hstore]
      exact Legacy.key_exec hkeys hkey _
  have hnames : ∀ entity,
      (u.exec (KeyStore.exec service) (.insertEntity new)).2.store.tables.entityRow
        merchant.merchantId = some entity →
      service.key (u.exec (KeyStore.exec service) (.insertEntity new)).2.store.service
        entity.encKeyId = some merchant.encKey := by
    intro entity hentity
    refine hservice _ _ ?_
    rcases Unreliable.exec_store (KeyStore.exec service) u (.insertEntity new) with hstore | hstore
    · rw [hstore, hnone] at hentity
      cases hentity
    · rw [hstore] at hentity
      rcases KeyStore.entityRow_of_exec hentity with hold | hnew
      · rw [hnone] at hold
        cases hold
      · rw [(EntityTableNew.mk.inj (KeyCmd.insertEntity.inj hnew)).2] at hnamed
        exact hnamed
  refine ⟨h.exec (fun new' hc => by cases hc) (fun new' hc => by cases hc; exact ⟨merchant, hmem,
    hid⟩) fun hfail => (h.answers hfail).2, ?_⟩
  rcases exec_cases service h (.insertEntity new) with ⟨hreply, hstore⟩ | ⟨hmay, hfailure, -⟩
  · by_cases hnew : new.fits = true
    · obtain ⟨entity, hok, hrow, -⟩ := @KeyStore.exec_insertEntity σ service _ _ hnew
        (hid ▸ hnone)
      refine ⟨.stored, Or.inl ⟨⟨entity, hreply.trans hok⟩, rfl⟩, hnames, ?_⟩
      change (KeyTables.entityRow _ _).isSome = true
      rw [hstore, ← hid, hrow]
      rfl
    · have herror : (u.store.exec service (.insertEntity new)).1 = Except.error .other := by
        simp only [KeyStore.exec, insertRow, Bool.not_eq_true _ ▸ hnew]
        rfl
      refine ⟨.failed, Or.inr ⟨⟨_, hreply.trans herror⟩, ?_⟩, hnames, trivial⟩
      by_contra hfail
      refine hnew (Bool.and_eq_true_iff.2 ⟨?_, hfits hfail⟩)
      rw [hid]
      exact (haccepts hfail).merchants merchant hmem
  · exact ⟨.failed, Or.inr ⟨hfailure, hmay⟩, hnames, trivial⟩

variable (before) in
/-- Each migration has the entity row of its merchant as its part. -/
theorem parts (hkeys : Legacy.KeepsKeys service) (hunique : (keys.map Merchant.merchantId).Nodup)
    (haccepts : ¬ mayFail → Accepts service keys room) :
    Prog.Parts (Unreliable.exec (KeyStore.exec service)) (Inv keys before mayFail room)
      (fun i u x => ∃ merchant, keys[i]? = some merchant ∧ MerchantAt service mayFail u merchant x)
      (Allowed keys) (fun _ => Moves mayFail) where
  own i u x c h hrel hok := by
    obtain ⟨merchant, hi, hat⟩ := hrel
    have hmem := List.mem_of_getElem? hi
    cases c with
    | transferKey identifier key =>
      obtain ⟨rfl, merchant', hi', rfl⟩ := hok
      rw [hi] at hi'
      cases hi'
      obtain ⟨hinv, y, hmoves, hat'⟩ := own_transferKey hkeys haccepts h hmem hat identifier
      exact ⟨hinv, y, hmoves, merchant, hi, hat'⟩
    | insertEntity new =>
      obtain ⟨merchant', hi', rfl, hid⟩ := hok
      rw [hi] at hi'
      cases hi'
      obtain ⟨hinv, y, hmoves, hat'⟩ := own_insertEntity hkeys haccepts h hmem hid hat
      exact ⟨hinv, y, hmoves, merchant, hi, hat'⟩
    | getConn =>
      refine ⟨h.exec (fun _ hc => by cases hc) (fun _ hc => by cases hc)
        fun hfail => (h.answers hfail).2, x, ?_, merchant, hi,
        hat.exec hkeys fun _ hc => by cases hc⟩
      rcases exec_cases service h .getConn with ⟨hreply, -⟩ | ⟨hmay, hfailure, -⟩
      · exact Or.inl ⟨⟨_, hreply⟩, rfl⟩
      · exact Or.inr ⟨hfailure, hmay⟩
    | cacheEntity entityId value =>
      exact ⟨h.exec (fun _ hc => by cases hc) (fun _ hc => by cases hc)
        fun hfail => (h.answers hfail).2, x, rfl, merchant, hi,
        hat.exec hkeys fun _ hc => by cases hc⟩
    | _ => exact hok.elim
  others i j u x z c hne h hrel hok hrelj := by
    obtain ⟨merchant, hj, hat⟩ := hrelj
    refine ⟨merchant, hj, hat.exec hkeys fun new hc hid => hne ?_⟩
    subst hc
    obtain ⟨merchant', hi, -, hid'⟩ := hok
    have hltj : j < (keys.map Merchant.merchantId).length := by
      rw [List.length_map]
      exact (List.getElem?_eq_some_iff.1 hj).1
    refine (List.getElem?_inj hltj hunique).1 ?_
    rw [List.getElem?_map, List.getElem?_map, hi, hj, Option.map_some, Option.map_some, ← hid, hid']

/-- One migration: the upload, then the row. -/
theorem wp_migrateKeyToKeyManager {i : ℕ} {merchant : Merchant} (hi : keys[i]? = some merchant)
    (nanoId : String) :
    (migrateKeyToKeyManager merchant.merchantId
      { identifier := nanoId, key := base64Encode merchant.encKey }).wp (Allowed keys i)
      (Moves mayFail) (Ends mayFail) .waiting := by
  refine (Prog.wp_andThen ..).2 ⟨⟨rfl, merchant, hi, rfl⟩, fun reply y hmoves => ?_⟩
  rcases hmoves with ⟨identifier, rfl, rfl⟩ | ⟨⟨e, rfl⟩, hmay⟩
  swap
  · exact hmay
  refine (Prog.wp_mapResult ..).2 ((Prog.wp_andThen ..).2 ((Prog.wp_andThen ..).2
    ((Prog.wp_mapResult ..).2 ⟨trivial, fun reply y hmoves => ?_⟩)))
  rcases hmoves with ⟨⟨pool, rfl⟩, rfl⟩ | ⟨⟨e, rfl⟩, hmay⟩
  swap
  · exact hmay
  refine (Prog.wp_mapResult ..).2 ⟨⟨merchant, hi, rfl, rfl⟩, fun reply y hmoves => ?_⟩
  rcases hmoves with ⟨⟨entity, rfl⟩, rfl⟩ | ⟨⟨e, rfl⟩, hmay⟩
  · exact (Prog.wp_mapResult ..).2 ⟨trivial, fun _ y hmoves => hmoves⟩
  · exact hmay

end Side

/-! ## The rows of a call -/

section Reads

variable {aead : Aead} {masterKey : Bytes} {service : KeyService σ} {u : Legacy.FaultyStore σ}

theorem decryptAll_ids {rows : List MerchantInner} :
    ∀ {keys : List Merchant}, decryptAll aead.openWithin ⟨masterKey⟩ rows = .ok keys →
      keys.map Merchant.merchantId = rows.map MerchantInner.merchantId := by
  induction rows with
  | nil =>
    intro keys h
    cases h
    rfl
  | cons row rows ih =>
    intro keys h
    rw [decryptAll] at h
    split at h
    · cases h
    · cases h
    · rename_i first hfirst
      split at h
      · rename_i others hothers
        cases h
        rw [List.map_cons, List.map_cons, ih hothers, (Legacy.dek_of_decrypt hfirst).1]
      · cases h

theorem exists_decryptAll {rows : List MerchantInner}
    (h : ∀ row ∈ rows, ∃ merchant, row.decrypt aead.openWithin ⟨masterKey⟩ = .ok merchant) :
    ∃ keys, decryptAll aead.openWithin ⟨masterKey⟩ rows = .ok keys := by
  induction rows with
  | nil => exact ⟨[], rfl⟩
  | cons row rows ih =>
    obtain ⟨merchant, hmerchant⟩ := h row List.mem_cons_self
    obtain ⟨keys, hkeys⟩ := ih fun row' hrow' => h row' (List.mem_cons_of_mem row hrow')
    exact ⟨merchant :: keys, by rw [decryptAll, hmerchant]; simp only [hkeys]⟩

variable (service u) in
/-- The program answers `found` and changes nothing, or a call of it fails. -/
def Finds {ε α : Type} (p : KeyApp (Except ε α)) (found : Except ε α) : Prop :=
  p.run (Unreliable.exec (KeyStore.exec service)) u = (found, u) ∨
    (∃ e, p.run (Unreliable.exec (KeyStore.exec service)) u = (.error e, u)) ∧
      ¬ ∀ c, u.delivery c = .answered

/-- A call that only reads leaves everything as it is. -/
theorem exec_read {c : KeyCmd} (h : (u.store.exec service c).2 = u.store) :
    (u.exec (KeyStore.exec service) c).2 = u := by
  unfold Unreliable.exec
  cases u.delivery c with
  | answered => exact congrArg (fun store => { u with store }) h
  | lost reply fails => rfl
  | replyLost reply fails => exact congrArg (fun store => { u with store }) h

theorem exec_answered (service : KeyService σ) (u : Legacy.FaultyStore σ) (c : KeyCmd) :
    (u.exec (KeyStore.exec service) c).1 = (u.store.exec service c).1 ∨
      Legacy.KeyFailure c (u.exec (KeyStore.exec service) c).1 ∧
        ¬ ∀ c, u.delivery c = .answered := by
  by_cases hall : ∀ c, u.delivery c = .answered
  · left
    unfold Unreliable.exec
    rw [hall c]
  · exact (Unreliable.exec_cases (KeyStore.exec service) u c).imp And.left
      fun hlost => ⟨hlost.1, hall⟩

theorem finds_changeError {ε ε' α : Type} {p : KeyApp (Except ε α)} {found : Except ε α}
    (f : ε → ε') (h : Finds service u p found) :
    Finds service u (changeError f p) (found.mapError f) := by
  rcases h with hrun | ⟨⟨e, hrun⟩, hfailed⟩
  · exact Or.inl (Prog.run_mapResult_of hrun _)
  · exact Or.inr ⟨⟨f e, Prog.run_mapResult_of hrun _⟩, hfailed⟩

theorem finds_andThen {ε α β : Type} {p : KeyApp (Except ε α)} {f : α → KeyApp (Except ε β)}
    {a : α} {found : Except ε β} (h : Finds service u p (.ok a))
    (hf : Finds service u (f a) found) : Finds service u (p.andThen f) found := by
  rcases h with hrun | ⟨⟨e, hrun⟩, hfailed⟩
  · unfold Finds
    rw [Prog.run_andThen_ok hrun]
    exact hf
  · exact Or.inr ⟨⟨e, Prog.run_andThen_error hrun f⟩, hfailed⟩

variable (service) in
theorem finds_keyRouteConn (hpool : u.store.routedPool = .primary) :
    Finds service u keyRouteConn (.ok .primary) := by
  have hstate : (u.exec (KeyStore.exec service) .routeConn).2 = u := exec_read rfl
  rcases exec_answered service u .routeConn with hreply | ⟨⟨e, hreply⟩, hfailed⟩
  · exact Or.inl (Prod.ext (hreply.trans (congrArg Except.ok hpool)) hstate)
  · exact Or.inr ⟨⟨e, Prod.ext hreply hstate⟩, hfailed⟩

variable (service u) in
/-- The selection reads the first merchants that have no entity row. -/
theorem finds_select (limit : ℤ) :
    Finds service u (selectMerchantsExcludingEntities .primary limit)
      (if limit < 0 then .error .other else .ok ((pending u.store).take limit.toNat)) := by
  have hbase : u.store.exec service (.selectMerchantsExcludingEntities .primary limit) =
      (if limit < 0 then Except.error .other else .ok ((pending u.store).take limit.toNat),
        u.store) := by
    simp only [KeyStore.exec]
    split_ifs <;> rfl
  have hstate : (u.exec (KeyStore.exec service)
      (.selectMerchantsExcludingEntities .primary limit)).2 = u := exec_read (by rw [hbase])
  rcases exec_answered service u (.selectMerchantsExcludingEntities .primary limit) with
    hreply | ⟨⟨e, hreply⟩, hfailed⟩
  · exact Or.inl (Prod.ext (hreply.trans (congrArg Prod.fst hbase)) hstate)
  · exact Or.inr ⟨⟨e, Prod.ext hreply hstate⟩, hfailed⟩

variable (service aead masterKey) in
/-- The merchants to migrate are what the selection finds, decrypted. -/
theorem finds_findAllKeys (hpool : u.store.routedPool = .primary) {limit : ℤ} (hlimit : 0 ≤ limit) :
    Finds service u (findAllKeysExcludingEntityKeys aead ⟨masterKey⟩ limit)
      (decryptAll aead.openWithin ⟨masterKey⟩ ((pending u.store).take limit.toNat)) := by
  have hselect := finds_select service u limit
  rw [if_neg (not_lt.2 hlimit)] at hselect
  exact finds_andThen (finds_changeError _ (finds_keyRouteConn service hpool))
    (finds_andThen (finds_changeError _ hselect) (Or.inl rfl))

variable (service aead masterKey) in
/-- A negative limit is refused by the database. -/
theorem run_findAllKeys_negative (hpool : u.store.routedPool = .primary) {limit : ℤ}
    (hlimit : limit < 0) :
    ∃ e, (findAllKeysExcludingEntityKeys aead ⟨masterKey⟩ limit).run
      (Unreliable.exec (KeyStore.exec service)) u = (.error e, u) := by
  have hselect := finds_select service u limit
  rw [if_pos hlimit] at hselect
  have hselected : ∃ e, (changeError (fun _ => Fault.error
      StorageError.findError.toMerchantDBError) (selectMerchantsExcludingEntities .primary
        limit)).run (Unreliable.exec (KeyStore.exec service)) u = (.error e, u) := by
    rcases finds_changeError (fun _ => Fault.error StorageError.findError.toMerchantDBError)
      hselect with hrun | ⟨⟨e, hrun⟩, -⟩
    · exact ⟨_, hrun⟩
    · exact ⟨e, hrun⟩
  rcases finds_changeError (fun e => Fault.error e.toMerchantDBError)
    (finds_keyRouteConn service hpool) with hrun | ⟨⟨e, hrun⟩, -⟩
  · obtain ⟨e, hselected⟩ := hselected
    refine ⟨e, ?_⟩
    rw [findAllKeysExcludingEntityKeys, Prog.run_andThen_ok hrun]
    exact Prog.run_andThen_error hselected _
  · exact ⟨e, Prog.run_andThen_error hrun _⟩

end Reads

/-! ## One call -/

/-- `POST /key/transfer`, with the nano ids it draws and the order in which it polls. -/
structure TransferRequest where
  limit : ℤ
  nanoIds : ℕ → String
  schedule : List ℕ

section Call

variable (service : KeyService σ) (aead : Aead) (masterKey : Bytes) (room : σ → Prop)

/-- Run the handler. -/
def TransferRequest.run (request : TransferRequest) (u : Legacy.FaultyStore σ) :
    Except (Fault ApiError) ℕ × Legacy.FaultyStore σ :=
  (transferKeys aead masterKey request.limit request.nanoIds request.schedule).run
    (Unreliable.exec (KeyStore.exec service)) u

/-- What a call leaves behind. -/
structure Transferred (u : Legacy.FaultyStore σ) (limit : ℤ)
    (reply : Except (Fault ApiError) ℕ) (u' : Legacy.FaultyStore σ) : Prop where
  merchant : u'.store.tables.merchant = u.store.tables.merchant
  pool : u'.store.routedPool = u.store.routedPool
  kept : ∀ entityId row, u.store.tables.entityRow entityId = some row →
    u'.store.tables.entityRow entityId = some row
  keys : ∀ id key, service.key u.store.service id = some key →
    service.key u'.store.service id = some key
  /-- A new entity row names the DEK of its merchant. -/
  names : ∀ row ∈ u.store.tables.merchant.rows, ∀ entity,
    u'.store.tables.entityRow row.merchantId = some entity →
      u.store.tables.entityRow row.merchantId = some entity ∨
        ∃ key, Legacy.dek aead masterKey row = some key ∧
          service.key u'.store.service entity.encKeyId = some key
  done : ∀ n, reply = .ok n → 0 ≤ limit ∧ n = ((pending u.store).take limit.toNat).length ∧
    pending u'.store = (pending u.store).drop limit.toNat

/-- The rows open under the master key, and the key manager takes their keys. -/
structure Takes (rows : List MerchantInner) : Prop where
  opens : ∀ row ∈ rows, ∃ merchant, row.decrypt aead.openWithin ⟨masterKey⟩ = .ok merchant
  fits : ∀ row ∈ rows, fitsVarchar 255 row.merchantId = true
  transfer : ∀ row ∈ rows, ∀ key, Legacy.dek aead masterKey row = some key →
    ∀ state identifier, room state → ∃ identifier' state',
      service.transfer state identifier (base64Encode key) = some (identifier', state') ∧
        fitsVarchar 255 identifier' = true ∧ room state'

/-- Calls are answered, and the key manager has room for the keys of all merchants that are
    pending. -/
structure Dependable (u : Legacy.FaultyStore σ) : Prop where
  answered : ∀ c, u.delivery c = .answered
  hasRoom : room u.store.service
  takes : Takes service aead masterKey room (pending u.store)

variable {service aead masterKey room} {u u' : Legacy.FaultyStore σ}

/-- No row of a table is there twice. -/
theorem pairwise_pending (s : KeyStore σ) :
    (pending s).Pairwise fun a b => a.merchantId ≠ b.merchantId :=
  s.tables.merchant.unique.filter _

theorem entityRow_of_mem_pending {s : KeyStore σ} {row : MerchantInner} (h : row ∈ pending s) :
    s.tables.entityRow row.merchantId = none :=
  Option.isNone_iff_eq_none.1 (List.mem_filter.1 h).2

theorem pending_of_kept (hmerchant : u'.store.tables.merchant = u.store.tables.merchant)
    (hkept : ∀ entityId row, u.store.tables.entityRow entityId = some row →
      u'.store.tables.entityRow entityId = some row) :
    pending u'.store = (pending u.store).filter fun row =>
      (u'.store.tables.entityRow row.merchantId).isNone := by
  rw [pending, pending, List.filter_filter, hmerchant]
  refine List.filter_congr fun row _ => ?_
  cases hrow : u.store.tables.entityRow row.merchantId with
  | none => simp
  | some entity => simp [hkept _ _ hrow]

/-- The first merchants have their rows, and the others are left alone. -/
theorem pending_eq_drop {n : ℕ} (hmerchant : u'.store.tables.merchant = u.store.tables.merchant)
    (hkept : ∀ entityId row, u.store.tables.entityRow entityId = some row →
      u'.store.tables.entityRow entityId = some row)
    (hdone : ∀ row ∈ (pending u.store).take n,
      (u'.store.tables.entityRow row.merchantId).isSome = true)
    (hothers : ∀ entityId, (∀ row ∈ (pending u.store).take n, row.merchantId ≠ entityId) →
      u'.store.tables.entityRow entityId = u.store.tables.entityRow entityId) :
    pending u'.store = (pending u.store).drop n := by
  have hpair := pairwise_pending u.store
  rw [← List.take_append_drop n (pending u.store), List.pairwise_append] at hpair
  have htake : ((pending u.store).take n).filter
      (fun row => (u'.store.tables.entityRow row.merchantId).isNone) = [] := by
    refine List.filter_eq_nil_iff.2 fun row hrow hnone => ?_
    have hsome := hdone row hrow
    rw [Option.isNone_iff_eq_none.1 hnone] at hsome
    cases hsome
  have hdrop : ((pending u.store).drop n).filter
      (fun row => (u'.store.tables.entityRow row.merchantId).isNone) =
        (pending u.store).drop n := by
    refine List.filter_eq_self.2 fun row hrow => ?_
    rw [hothers _ fun row' hrow' => hpair.2.2 row' hrow' row hrow,
      entityRow_of_mem_pending (List.mem_of_mem_drop hrow)]
    rfl
  rw [pending_of_kept hmerchant hkept]
  conv_lhs => rw [← List.take_append_drop n (pending u.store)]
  rw [List.filter_append, htake, hdrop, List.nil_append]

/-- A call that fails before it migrates anything. -/
theorem transferred_refused {limit : ℤ} {e : Fault ApiError} :
    Transferred service aead masterKey u limit (.error e) u where
  merchant := rfl
  pool := rfl
  kept _ _ h := h
  keys _ _ h := h
  names _ _ _ h := Or.inl h
  done _ h := by cases h

theorem getElem?_keyMigrations (nanoIds : ℕ → String) (keys : List Merchant) (i : ℕ) :
    (keyMigrations nanoIds keys)[i]? = keys[i]?.map fun key =>
      migrateKeyToKeyManager key.merchantId
        { identifier := nanoIds i, key := base64Encode key.encKey } := by
  rw [keyMigrations, List.getElem?_map, List.getElem?_zipIdx, Option.map_map, Nat.zero_add]
  rfl

theorem accepts_of_takes {rows : List MerchantInner} {keys : List Merchant}
    (h : Takes service aead masterKey room rows)
    (hkeys : decryptAll aead.openWithin ⟨masterKey⟩ rows = .ok keys) :
    Accepts service keys room where
  transfer state identifier hroom merchant hmem := by
    obtain ⟨row, hrow, hdecrypt⟩ := Legacy.exists_of_decryptAll hkeys merchant hmem
    exact h.transfer row hrow _ (Legacy.dek_of_decrypt hdecrypt).2 state identifier hroom
  merchants merchant hmem := by
    obtain ⟨row, hrow, hdecrypt⟩ := Legacy.exists_of_decryptAll hkeys merchant hmem
    rw [← (Legacy.dek_of_decrypt hdecrypt).1]
    exact h.fits row hrow

/-- The migrations of the merchants that were read. -/
theorem run_migrations (mayFail : Prop) (room : σ → Prop) (hservice : Legacy.KeepsKeys service)
    {request : TransferRequest} {keys : List Merchant}
    (hkeys : decryptAll aead.openWithin ⟨masterKey⟩
      ((pending u.store).take request.limit.toNat) = .ok keys)
    (hanswers : ¬ mayFail → Dependable service aead masterKey room u) :
    Inv keys u.store mayFail room ((Prog.tryJoinAll request.schedule
        (keyMigrations request.nanoIds keys)).run (Unreliable.exec (KeyStore.exec service)) u).2 ∧
      ∃ y : ℕ → Stage, (∀ i merchant, keys[i]? = some merchant →
        MerchantAt service mayFail ((Prog.tryJoinAll request.schedule
          (keyMigrations request.nanoIds keys)).run (Unreliable.exec (KeyStore.exec service)) u).2
          merchant (y i)) ∧
        Prog.JoinEnds (fun _ => Ends mayFail) keys.length y ((Prog.tryJoinAll request.schedule
          (keyMigrations request.nanoIds keys)).run
            (Unreliable.exec (KeyStore.exec service)) u).1 := by
  have hids := decryptAll_ids hkeys
  have hunique : (keys.map Merchant.merchantId).Nodup := by
    rw [hids]
    exact List.pairwise_map.2 ((pairwise_pending u.store).sublist (List.take_sublist _ _))
  have hnone : ∀ merchant ∈ keys, u.store.tables.entityRow merchant.merchantId = none := by
    intro merchant hmem
    obtain ⟨row, hrow, hdecrypt⟩ := Legacy.exists_of_decryptAll hkeys merchant hmem
    rw [← (Legacy.dek_of_decrypt hdecrypt).1]
    exact entityRow_of_mem_pending (List.mem_of_mem_take hrow)
  have haccepts : ¬ mayFail → Accepts service keys room := fun hfail =>
    accepts_of_takes ⟨fun row hrow => (hanswers hfail).takes.opens row (List.mem_of_mem_take hrow),
      fun row hrow => (hanswers hfail).takes.fits row (List.mem_of_mem_take hrow),
      fun row hrow => (hanswers hfail).takes.transfer row (List.mem_of_mem_take hrow)⟩ hkeys
  have hinv : Inv keys u.store mayFail room u :=
    ⟨rfl, fun _ _ => rfl, rfl, fun hfail => ⟨(hanswers hfail).answered, (hanswers hfail).hasRoom⟩⟩
  obtain ⟨hend, y, hrel, hends⟩ := (parts u.store hservice hunique
    haccepts).run_tryJoinAll (Q := fun _ => Ends mayFail) request.schedule
    (keyMigrations request.nanoIds keys) (x := fun _ => .waiting) hinv fun i p hp => by
      rw [getElem?_keyMigrations, Option.map_eq_some_iff] at hp
      obtain ⟨merchant, hi, rfl⟩ := hp
      have hwaiting := hnone merchant (List.mem_of_getElem? hi)
      refine ⟨⟨merchant, hi, ⟨fun entity hentity => ?_, hwaiting⟩⟩, wp_migrateKeyToKeyManager hi _⟩
      rw [hwaiting] at hentity
      cases hentity
  have hlength : (keyMigrations request.nanoIds keys).length = keys.length := by
    rw [keyMigrations, List.length_map, List.length_zipIdx]
  rw [hlength] at hrel hends
  refine ⟨hend, y, fun i merchant hi => ?_, hends⟩
  obtain ⟨merchant', hi', hat⟩ := hrel i (List.getElem?_eq_some_iff.1 hi).1
  rw [hi] at hi'
  cases hi'
  exact hat

/-- No call takes back an entity row or a key. -/
theorem kept_run {α : Type} (p : KeyApp α) (u : Legacy.FaultyStore σ) {entityId : String}
    {row : Entity} (h : u.store.tables.entityRow entityId = some row) :
    (p.run (Unreliable.exec (KeyStore.exec service)) u).2.store.tables.entityRow entityId =
      some row := by
  refine Prog.run_preserves (I := fun u : Legacy.FaultyStore σ =>
    u.store.tables.entityRow entityId = some row) _ (fun u c h => ?_) p h
  rcases Unreliable.exec_store (KeyStore.exec service) u c with hstore | hstore <;> rw [hstore]
  · exact h
  · exact KeyStore.entityRow_exec h c

theorem key_run (hservice : Legacy.KeepsKeys service) {α : Type} (p : KeyApp α)
    (u : Legacy.FaultyStore σ) {id : String} {key : Bytes}
    (h : service.key u.store.service id = some key) :
    service.key (p.run (Unreliable.exec (KeyStore.exec service)) u).2.store.service id =
      some key := by
  refine Prog.run_preserves (I := fun u : Legacy.FaultyStore σ =>
    service.key u.store.service id = some key) _ (fun u c h => ?_) p h
  rcases Unreliable.exec_store (KeyStore.exec service) u c with hstore | hstore <;> rw [hstore]
  · exact h
  · exact Legacy.key_exec hservice h c

/-- The migrations of a call, once the merchants are read. -/
theorem transferred_of_keys (hservice : Legacy.KeepsKeys service) {request : TransferRequest}
    (hlimit : 0 ≤ request.limit) {keys : List Merchant}
    (hkeys : decryptAll aead.openWithin ⟨masterKey⟩
      ((pending u.store).take request.limit.toNat) = .ok keys)
    {reply : Except (Fault ApiError) ℕ}
    (hreply : ∀ n, reply = .ok n → ∃ entities, ((Prog.tryJoinAll request.schedule
      (keyMigrations request.nanoIds keys)).run (Unreliable.exec (KeyStore.exec service)) u).1 =
        .ok entities ∧ n = entities.length) :
    Transferred service aead masterKey u request.limit reply ((Prog.tryJoinAll request.schedule
      (keyMigrations request.nanoIds keys)).run (Unreliable.exec (KeyStore.exec service)) u).2 := by
  have hids := decryptAll_ids hkeys
  have hselected : ∀ row ∈ (pending u.store).take request.limit.toNat,
      ∃ (i : ℕ) (merchant : Merchant), keys[i]? = some merchant ∧
        merchant.merchantId = row.merchantId := by
    intro row hrow
    have hmem : row.merchantId ∈ keys.map Merchant.merchantId := by
      rw [hids]
      exact List.mem_map_of_mem hrow
    obtain ⟨merchant, hmerchant, hid⟩ := List.mem_map.1 hmem
    obtain ⟨i, hi⟩ := List.mem_iff_getElem?.1 hmerchant
    exact ⟨i, merchant, hi, hid⟩
  obtain ⟨hinv, y, hat, hends⟩ := run_migrations True (fun _ => True) hservice hkeys
    fun hfail => absurd trivial hfail
  have hothers : ∀ entityId,
      (∀ row ∈ (pending u.store).take request.limit.toNat, row.merchantId ≠ entityId) →
      ((Prog.tryJoinAll request.schedule (keyMigrations request.nanoIds keys)).run
        (Unreliable.exec (KeyStore.exec service)) u).2.store.tables.entityRow entityId =
          u.store.tables.entityRow entityId := by
    intro entityId hne
    refine hinv.others entityId fun merchant hmem => ?_
    obtain ⟨row, hrow, hdecrypt⟩ := Legacy.exists_of_decryptAll hkeys merchant hmem
    rw [← (Legacy.dek_of_decrypt hdecrypt).1]
    exact hne row hrow
  refine ⟨hinv.merchant, hinv.pool, fun _ _ h => kept_run _ u h,
    fun _ _ h => key_run hservice _ u h, fun row hrow entity hentity => ?_, fun n hn => ?_⟩
  · by_cases hsel : ∃ row' ∈ (pending u.store).take request.limit.toNat,
      row'.merchantId = row.merchantId
    · right
      obtain ⟨row', hrow', hid⟩ := hsel
      have hsame : row' = row := Table.eq_of_clash (fun _ _ h => h.symm)
        (List.mem_filter.1 (List.mem_of_mem_take hrow')).1 hrow hid
      subst hsame
      obtain ⟨i, merchant, hi, hmid⟩ := hselected row' hrow'
      obtain ⟨row'', hrow'', hdecrypt⟩ := Legacy.exists_of_decryptAll hkeys merchant
        (List.mem_of_getElem? hi)
      obtain ⟨hid'', hdek⟩ := Legacy.dek_of_decrypt hdecrypt
      have hsame : row'' = row' := Table.eq_of_clash (fun _ _ h => h.symm)
        (List.mem_filter.1 (List.mem_of_mem_take hrow'')).1 hrow (hid''.trans hmid)
      subst hsame
      exact ⟨merchant.encKey, hdek, (hat i merchant hi).names entity (by rw [hmid]; exact hentity)⟩
    · left
      rwa [hothers row.merchantId fun row' hrow' hid => hsel ⟨row', hrow', hid⟩] at hentity
  · obtain ⟨entities, hentities, rfl⟩ := hreply n hn
    rw [hentities] at hends
    obtain ⟨hlength, hvalues⟩ := hends
    refine ⟨hlimit, ?_, pending_eq_drop hinv.merchant (fun _ _ h => kept_run _ u h)
      (fun row hrow => ?_) hothers⟩
    · rw [hlength, ← List.length_map (f := Merchant.merchantId), hids, List.length_map]
    · obtain ⟨i, merchant, hi, hid⟩ := hselected row hrow
      have hlt : i < entities.length := hlength ▸ (List.getElem?_eq_some_iff.1 hi).1
      have hstored : y i = .stored := hvalues i _ (List.getElem?_eq_getElem hlt)
      have hstage := (hat i merchant hi).stage
      rw [hstored, hid] at hstage
      exact hstage

/-- What a call answers once the merchants are read. -/
theorem run_of_keys {request : TransferRequest} {keys : List Merchant}
    (h : (findAllKeysExcludingEntityKeys aead ⟨masterKey⟩ request.limit).run
      (Unreliable.exec (KeyStore.exec service)) u = (.ok keys, u)) :
    request.run service aead masterKey u =
      (match ((Prog.tryJoinAll request.schedule (keyMigrations request.nanoIds keys)).run
          (Unreliable.exec (KeyStore.exec service)) u).1 with
        | .ok entities => .ok entities.length
        | .error _ => .error (.error (.keyManagerError "Failed while migrating keys")),
        ((Prog.tryJoinAll request.schedule (keyMigrations request.nanoIds keys)).run
          (Unreliable.exec (KeyStore.exec service)) u).2) := by
  rw [TransferRequest.run, transferKeys, Prog.run_bind_of h]
  dsimp only
  rw [Prog.run_mapResult, sendRequestToKeyServiceForMerchant, Prog.run_mapResult]
  dsimp only
  cases ((Prog.tryJoinAll request.schedule (keyMigrations request.nanoIds keys)).run
    (Unreliable.exec (KeyStore.exec service)) u).1 <;> rfl

/-- A call whose selection fails answers its error and does nothing. -/
theorem run_of_error {request : TransferRequest} {e : Fault MerchantDBError}
    (h : (findAllKeysExcludingEntityKeys aead ⟨masterKey⟩ request.limit).run
      (Unreliable.exec (KeyStore.exec service)) u = (.error e, u)) :
    ∃ e', request.run service aead masterKey u = (.error e', u) := by
  rw [TransferRequest.run, transferKeys, Prog.run_bind_of h]
  cases e with
  | panicked => exact ⟨_, rfl⟩
  | error e => exact ⟨_, rfl⟩

variable (aead masterKey) in
/-- One call: it migrates the merchants that it counts, or it fails and migrates some of
    them. -/
theorem transferred_run (hservice : Legacy.KeepsKeys service)
    (hpool : u.store.routedPool = .primary) (request : TransferRequest) :
    Transferred service aead masterKey u request.limit (request.run service aead masterKey u).1
      (request.run service aead masterKey u).2 := by
  have hrefused : ∀ {e : Fault MerchantDBError},
      (findAllKeysExcludingEntityKeys aead ⟨masterKey⟩ request.limit).run
        (Unreliable.exec (KeyStore.exec service)) u = (.error e, u) →
      Transferred service aead masterKey u request.limit (request.run service aead masterKey u).1
        (request.run service aead masterKey u).2 := by
    intro e he
    obtain ⟨e', hrun⟩ := run_of_error he
    rw [hrun]
    exact transferred_refused
  by_cases hlimit : 0 ≤ request.limit
  · rcases finds_findAllKeys aead masterKey service hpool hlimit with hfound | ⟨⟨e, hfound⟩, -⟩
    · cases hkeys : decryptAll aead.openWithin ⟨masterKey⟩
        ((pending u.store).take request.limit.toNat) with
      | error e => exact hrefused (hkeys ▸ hfound)
      | ok keys =>
        rw [hkeys] at hfound
        rw [run_of_keys hfound]
        refine transferred_of_keys hservice hlimit hkeys fun n hn => ?_
        split at hn
        · rename_i entities hentities
          cases hn
          exact ⟨entities, hentities, rfl⟩
        · cases hn
    · exact hrefused hfound
  · obtain ⟨e, he⟩ := run_findAllKeys_negative aead masterKey service hpool
      (not_le.1 hlimit)
    exact hrefused he

/-- In a dependable world a call does not fail. -/
theorem run_dependable (hservice : Legacy.KeepsKeys service)
    (hpool : u.store.routedPool = .primary) {request : TransferRequest}
    (hlimit : 0 ≤ request.limit) (h : Dependable service aead masterKey room u) :
    (∃ n, (request.run service aead masterKey u).1 = .ok n) ∧
      Dependable service aead masterKey room (request.run service aead masterKey u).2 := by
  obtain ⟨keys, hkeys⟩ := exists_decryptAll fun row hrow =>
    h.takes.opens row (List.mem_of_mem_take (i := request.limit.toNat) hrow)
  have hfound := (finds_findAllKeys aead masterKey service hpool hlimit).resolve_right
    fun hlost => hlost.2 h.answered
  rw [hkeys] at hfound
  obtain ⟨hinv, y, hat, hends⟩ := run_migrations False room hservice hkeys fun _ => h
  have htransferred := transferred_run aead masterKey hservice hpool request
  rw [run_of_keys hfound] at htransferred ⊢
  cases hreply : ((Prog.tryJoinAll request.schedule (keyMigrations request.nanoIds keys)).run
    (Unreliable.exec (KeyStore.exec service)) u).1 with
  | error e =>
    rw [hreply] at hends
    obtain ⟨i, -, hfalse⟩ := hends
    exact hfalse.elim
  | ok entities =>
    rw [hreply] at htransferred
    refine ⟨⟨_, rfl⟩, (hinv.answers id).1, (hinv.answers id).2, ?_⟩
    have hdrop := (htransferred.done _ rfl).2.2
    dsimp only at hdrop ⊢
    rw [hdrop]
    exact ⟨fun row hrow => h.takes.opens row (List.mem_of_mem_drop hrow),
      fun row hrow => h.takes.fits row (List.mem_of_mem_drop hrow),
      fun row hrow => h.takes.transfer row (List.mem_of_mem_drop hrow)⟩

end Call

/-! ## Calls one after the other -/

/-- A call, or something that happens between two calls. -/
inductive Event where
  | transfer (request : TransferRequest)
  | weather (weather : Legacy.KeyWeather)

/-- The merchants that an answer counts. -/
def counted : Except (Fault ApiError) ℕ → ℕ
  | .ok n => n
  | .error _ => 0

section Run

variable (service : KeyService σ) (aead : Aead) (masterKey : Bytes) (room : σ → Prop)

/-- The answers of a run, and the state it leaves. -/
def runEvents : List Event → Legacy.FaultyStore σ →
    List (TransferRequest × Except (Fault ApiError) ℕ) × Legacy.FaultyStore σ
  | [], u => ([], u)
  | .transfer request :: events, u =>
    let rest := runEvents events (request.run service aead masterKey u).2
    ((request, (request.run service aead masterKey u).1) :: rest.1, rest.2)
  | .weather weather :: events, u =>
    runEvents events (Unreliable.envStep KeyStore.envStep u weather)

/-- The entity row of the merchant names its DEK. -/
def Named (u : Legacy.FaultyStore σ) (row : MerchantInner) : Prop :=
  ∃ entity key, u.store.tables.entityRow row.merchantId = some entity ∧
    Legacy.dek aead masterKey row = some key ∧
      service.key u.store.service entity.encKeyId = some key

/-- What the answers of a run say. -/
structure Counts (u : Legacy.FaultyStore σ)
    (answers : List (TransferRequest × Except (Fault ApiError) ℕ)) (u' : Legacy.FaultyStore σ) :
    Prop where
  /-- No merchant is counted twice. -/
  atMost : (answers.map fun a => counted a.2).sum + (pending u'.store).length ≤
    (pending u.store).length
  /-- Without failures every merchant that is migrated is counted. -/
  exactly : (∀ a ∈ answers, ∃ n, a.2 = .ok n) →
    (answers.map fun a => counted a.2).sum + (pending u'.store).length =
      (pending u.store).length
  /-- An answer below its limit says that no merchant is left. -/
  finished : ∀ a ∈ answers, ∀ n, a.2 = .ok n → (n : ℤ) < a.1.limit → pending u'.store = []
  /-- Merchants are left, or their entity rows name their DEKs. -/
  names : ∀ row ∈ pending u.store, row ∈ pending u'.store ∨ Named service aead masterKey u' row

variable {service aead masterKey room} {u : Legacy.FaultyStore σ}

/-- Weather leaves tables and keys as they are. -/
theorem envStep_same (u : Legacy.FaultyStore σ) (weather : Legacy.KeyWeather) :
    (Unreliable.envStep KeyStore.envStep u weather).store.tables = u.store.tables ∧
      (Unreliable.envStep KeyStore.envStep u weather).store.service = u.store.service ∧
        (Unreliable.envStep KeyStore.envStep u weather).store.routedPool = u.store.routedPool := by
  cases weather with
  | env e =>
    exact ⟨KeyStore.tables_envStep e, KeyStore.service_envStep e, KeyStore.routedPool_envStep e⟩
  | deliver delivery => exact ⟨rfl, rfl, rfl⟩

theorem pending_envStep (u : Legacy.FaultyStore σ) (weather : Legacy.KeyWeather) :
    pending (Unreliable.envStep KeyStore.envStep u weather).store = pending u.store := by
  rw [pending, pending, (envStep_same u weather).1]

/-- What is named stays named. -/
theorem named_runEvents (hservice : Legacy.KeepsKeys service) {row : MerchantInner}
    (events : List Event) :
    ∀ {u : Legacy.FaultyStore σ}, Named service aead masterKey u row →
      Named service aead masterKey (runEvents service aead masterKey events u).2 row := by
  induction events with
  | nil => exact fun h => h
  | cons event events ih =>
    rintro u ⟨entity, key, hrow, hdek, hkey⟩
    cases event with
    | transfer request =>
      exact ih ⟨entity, key, kept_run _ u hrow, hdek, key_run hservice _ u hkey⟩
    | weather weather =>
      obtain ⟨htables, hstate, -⟩ := envStep_same u weather
      exact ih ⟨entity, key, by rw [htables]; exact hrow, hdek, by rw [hstate]; exact hkey⟩

/-- One call moves the merchants it counts from those that are left. -/
theorem Transferred.counted {u u' : Legacy.FaultyStore σ} {limit : ℤ}
    {reply : Except (Fault ApiError) ℕ}
    (h : Transferred service aead masterKey u limit reply u') :
    counted reply + (pending u'.store).length ≤ (pending u.store).length ∧
      ∀ n, reply = .ok n → n + (pending u'.store).length = (pending u.store).length := by
  have hok : ∀ n, reply = .ok n → n + (pending u'.store).length = (pending u.store).length := by
    intro n hn
    obtain ⟨-, hcount, hdrop⟩ := h.done n hn
    rw [hcount, hdrop, List.length_take, List.length_drop]
    omega
  refine ⟨?_, hok⟩
  cases reply with
  | ok n => exact (hok n rfl).le
  | error e =>
    rw [pending_of_kept h.merchant h.kept, Migration.counted, Nat.zero_add]
    exact List.length_filter_le _ _

variable (aead masterKey) in
/-- What the answers of a run say about the merchants that are left. -/
theorem counts_runEvents (hservice : Legacy.KeepsKeys service)
    (hpool : u.store.routedPool = .primary) (events : List Event) :
    Counts service aead masterKey u (runEvents service aead masterKey events u).1
      (runEvents service aead masterKey events u).2 := by
  induction events generalizing u with
  | nil =>
    refine ⟨?_, fun _ => ?_, fun _ ha => ?_, fun row hrow => Or.inl hrow⟩
    · simp [runEvents]
    · simp [runEvents]
    · cases ha
  | cons event events ih =>
    cases event with
    | weather weather =>
      have hrest := @ih (Unreliable.envStep KeyStore.envStep u weather)
        ((envStep_same u weather).2.2.trans hpool)
      have hpending := pending_envStep u weather
      obtain ⟨hatMost, hexactly, hfinished, hnames⟩ := hrest
      rw [hpending] at hatMost hexactly hnames
      exact ⟨hatMost, hexactly, hfinished, hnames⟩
    | transfer request =>
      have hone := transferred_run aead masterKey hservice hpool request
      have hrest := @ih (request.run service aead masterKey u).2 (hone.pool.trans hpool)
      obtain ⟨hle, heq⟩ := hone.counted
      refine ⟨?_, fun hall => ?_, fun a ha n hn hlt => ?_, fun row hrow => ?_⟩
      · have hsum := hrest.atMost
        simp only [runEvents, List.map_cons, List.sum_cons]
        omega
      · have hsum := hrest.exactly fun a ha => hall a (List.mem_cons_of_mem _ ha)
        obtain ⟨n, hn⟩ := hall _ List.mem_cons_self
        have hfirst := heq n hn
        have hcount : counted (request.run service aead masterKey u).1 = n := by
          rw [show (request.run service aead masterKey u).1 = .ok n from hn]
          rfl
        simp only [runEvents, List.map_cons, List.sum_cons]
        omega
      · rcases List.mem_cons.1 ha with rfl | ha
        · obtain ⟨-, hcount, hdrop⟩ := hone.done n hn
          have hshort : (pending u.store).length ≤ request.limit.toNat := by
            rw [List.length_take] at hcount
            dsimp only at hlt
            omega
          have hnone : (pending (request.run service aead masterKey u).2.store).length = 0 := by
            rw [hdrop, List.drop_eq_nil_of_le hshort]
            rfl
          have hsum := hrest.atMost
          exact List.eq_nil_of_length_eq_zero (by simp only [runEvents]; omega)
        · exact hrest.finished a ha n hn hlt
      · have hnone := entityRow_of_mem_pending hrow
        have hmem := (List.mem_filter.1 hrow).1
        cases hentity : (request.run service aead masterKey u).2.store.tables.entityRow
          row.merchantId with
        | none =>
          refine hrest.names row (List.mem_filter.2 ⟨?_, by rw [hentity]; rfl⟩)
          rw [hone.merchant]
          exact hmem
        | some entity =>
          right
          rcases hone.names row hmem entity hentity with hold | ⟨key, hdek, hkey⟩
          · rw [hnone] at hold
            cases hold
          · exact named_runEvents hservice events ⟨entity, key, hentity, hdek, hkey⟩

/-- A run in which nothing fails: every call is answered, and the calls migrate as many
    merchants as their limits allow. -/
theorem dependable_runEvents (hservice : Legacy.KeepsKeys service)
    (hpool : u.store.routedPool = .primary) (h : Dependable service aead masterKey room u)
    {events : List Event} (hlimits : ∀ request, .transfer request ∈ events → 0 ≤ request.limit)
    (hcalm : ∀ weather, .weather weather ∈ events → ∃ e, weather = .env e) :
    (∀ a ∈ (runEvents service aead masterKey events u).1, ∃ n, a.2 = .ok n) ∧
      ((runEvents service aead masterKey events u).1.map fun a => counted a.2).sum =
        min ((runEvents service aead masterKey events u).1.map fun a => a.1.limit.toNat).sum
          (pending u.store).length := by
  induction events generalizing u with
  | nil =>
    refine ⟨fun _ ha => ?_, by simp [runEvents]⟩
    cases ha
  | cons event events ih =>
    have hlimits' := fun request hmem => hlimits request (List.mem_cons_of_mem event hmem)
    have hcalm' := fun weather hmem => hcalm weather (List.mem_cons_of_mem event hmem)
    cases event with
    | weather weather =>
      obtain ⟨e, rfl⟩ := hcalm weather List.mem_cons_self
      obtain ⟨htables, hstate, hrouted⟩ := envStep_same u (.env e)
      have hpending := pending_envStep u (.env e)
      have hrest := @ih (Unreliable.envStep KeyStore.envStep u (.env e)) (hrouted.trans hpool)
        ⟨h.answered, by rw [hstate]; exact h.hasRoom, by rw [hpending]; exact h.takes⟩ hlimits'
        hcalm'
      rw [hpending] at hrest
      exact hrest
    | transfer request =>
      have hone := transferred_run aead masterKey hservice hpool request
      obtain ⟨⟨n, hn⟩, hdependable⟩ := run_dependable hservice hpool
        (hlimits request List.mem_cons_self) h
      obtain ⟨hall, hsum⟩ := ih (hone.pool.trans hpool) hdependable hlimits' hcalm'
      obtain ⟨-, hcount, hdrop⟩ := hone.done n hn
      refine ⟨fun a ha => ?_, ?_⟩
      · rcases List.mem_cons.1 ha with rfl | ha
        · exact ⟨n, hn⟩
        · exact hall a ha
      · rw [hdrop, List.length_drop] at hsum
        rw [List.length_take] at hcount
        have hcounted : counted (request.run service aead masterKey u).1 = n := by
          rw [hn]
          rfl
        simp only [runEvents, List.map_cons, List.sum_cons]
        omega

/-- In any run the answers count the merchants that were migrated, none twice, and an answer
    below its limit says that none is left; without failures the calls go on until no
    merchant is left. -/
theorem migration_progress (hservice : Legacy.KeepsKeys service)
    (hpool : u.store.routedPool = .primary) (events : List Event) :
    Counts service aead masterKey u (runEvents service aead masterKey events u).1
        (runEvents service aead masterKey events u).2 ∧
      (Dependable service aead masterKey room u →
        (∀ request, .transfer request ∈ events → 0 ≤ request.limit) →
        (∀ weather, .weather weather ∈ events → ∃ e, weather = .env e) →
        (pending u.store).length ≤
          ((runEvents service aead masterKey events u).1.map fun a => a.1.limit.toNat).sum →
        (∀ a ∈ (runEvents service aead masterKey events u).1, ∃ n, a.2 = .ok n) ∧
          ((runEvents service aead masterKey events u).1.map fun a => counted a.2).sum =
            (pending u.store).length ∧
          ∀ row ∈ pending u.store,
            Named service aead masterKey (runEvents service aead masterKey events u).2 row) := by
  have hcounts := counts_runEvents aead masterKey hservice hpool events
  refine ⟨hcounts, fun h hlimits hcalm henough => ?_⟩
  obtain ⟨hall, hsum⟩ := dependable_runEvents hservice hpool h hlimits hcalm
  rw [min_eq_right henough] at hsum
  refine ⟨hall, hsum, fun row hrow => (hcounts.names row hrow).resolve_left fun hleft => ?_⟩
  have hexactly := hcounts.exactly hall
  have hnone : (pending (runEvents service aead masterKey events u).2.store).length = 0 := by
    omega
  rw [List.eq_nil_of_length_eq_zero hnone] at hleft
  cases hleft

end Run

/-! ### Two merchants -/

/-- A service that names a key by its text. -/
def namingService : KeyService (List Bytes) where
  create _ _ := none
  transfer keys _ text :=
    match base64Decode text with
    | some key => if fitsVarchar 255 (base64Encode key) then some (base64Encode key, key :: keys)
      else none
    | none => none
  key keys identifier := keys.find? fun key => base64Encode key = identifier

theorem keepsKeys_namingService : Legacy.KeepsKeys namingService where
  create hcreate _ := by cases hcreate
  transfer {s s' identifier text identifier' id key} htransfer hkey := by
    simp only [namingService] at htransfer hkey ⊢
    split at htransfer
    · rename_i new hnew
      split_ifs at htransfer
      cases htransfer
      by_cases hid : base64Encode new = id
      · have hnamed : base64Encode key = id := by simpa using List.find?_some hkey
        have hsame : some new = some key := by
          rw [← base64Decode_encode new, ← base64Decode_encode key, hid, hnamed]
        rw [List.find?_cons_of_pos (by simpa using hid), hsame]
      · rw [List.find?_cons_of_neg (by simpa using hid)]
        exact hkey
    · cases htransfer
  transferred {s s' identifier key identifier'} htransfer := by
    simp only [namingService, base64Decode_encode] at htransfer ⊢
    split_ifs at htransfer
    cases htransfer
    exact List.find?_cons_of_pos (by simp)

/-- Another merchant, with the DEK `[8]`. -/
def secondMerchant : MerchantInner :=
  { id := 2, merchantId := "second", encKey := List.replicate nonceLen 0 ++ [8], createdAt := ⟨0⟩ }

/-- Two merchants, no entities, and no outage. -/
def twoMerchants : Legacy.FaultyStore (List Bytes) :=
  let tables : KeyTables :=
    ⟨⟨[Legacy.legacyMerchant, secondMerchant], 3, by decide⟩, Table.empty⟩
  { store := { KeyStore.emptyKeyStore [] with tables, replica := tables }
    delivery := fun _ => .answered }

/-- Two calls for one merchant each. -/
def twoTransfers : List Event :=
  [.transfer ⟨1, fun _ => "nano", [0, 0]⟩, .transfer ⟨1, fun _ => "nano", []⟩]

theorem dependable_twoMerchants :
    Dependable namingService Legacy.clearAead Legacy.legacyMasterKey (fun _ => True)
      twoMerchants where
  answered _ := rfl
  hasRoom := trivial
  takes := by
    have hpending : pending twoMerchants.store = [Legacy.legacyMerchant, secondMerchant] := by
      decide +kernel
    have hdek : ∀ row ∈ pending twoMerchants.store,
        Legacy.dek Legacy.clearAead Legacy.legacyMasterKey row = some [7] ∨
          Legacy.dek Legacy.clearAead Legacy.legacyMasterKey row = some [8] := by
      rw [hpending]
      decide +kernel
    refine ⟨fun row hrow => ?_, ?_, fun row hrow key hkey state identifier _ => ?_⟩
    · rw [hpending] at hrow
      rcases List.mem_pair.1 hrow with rfl | rfl
      · exact ⟨⟨"merchant", [7], ⟨0⟩⟩, by decide +kernel⟩
      · exact ⟨⟨"second", [8], ⟨0⟩⟩, by decide +kernel⟩
    · rw [hpending]
      decide +kernel
    · have hfits : fitsVarchar 255 (base64Encode key) = true := by
        rcases hdek row hrow with h | h <;> rw [h] at hkey <;> cases hkey <;> decide +kernel
      refine ⟨base64Encode key, key :: state, ?_, hfits, trivial⟩
      simp only [namingService, base64Decode_encode, hfits, if_true]

/-- The two calls migrate the two merchants. -/
theorem two_merchants_migrated :
    ((runEvents namingService Legacy.clearAead Legacy.legacyMasterKey twoTransfers
        twoMerchants).1.map fun a => counted a.2).sum = 2 ∧
      ∀ row ∈ pending twoMerchants.store, Named namingService Legacy.clearAead
        Legacy.legacyMasterKey (runEvents namingService Legacy.clearAead Legacy.legacyMasterKey
          twoTransfers twoMerchants).2 row := by
  obtain ⟨-, hsum, hnamed⟩ := (migration_progress keepsKeys_namingService
    (u := twoMerchants) (by decide) twoTransfers).2 dependable_twoMerchants
    (fun request hrequest => by
      rcases List.mem_pair.1 hrequest with h | h <;> cases h <;> decide)
    (fun weather hweather => by rcases List.mem_pair.1 hweather with h | h <;> cases h)
    (by decide +kernel)
  exact ⟨hsum.trans (by decide +kernel), hnamed⟩

end Migration

end CardVault
