import CardVault.Api.App
import CardVault.Lib.Interference
import Mathlib.Data.Part

/-!
# What is known of keys

Merchant rows, entity rows and the keys of the external key manager are never changed, so
the DEK of a merchant, the key identifier of an entity and what a ciphertext decrypts to
are known for good. The caches and the replica show nothing else.

Main results:
* `holders_exec`: keys are never lost.
* `KeyStore.Coherent.exec`, `KeyStore.Coherent.envStep`: calls of the key managers and what
  happens around them keep caches and replica in line with the rows.
-/

namespace CardVault

open Interaction Relational

/-! ## Key holders -/

/-- The DEKs of merchants, the key identifiers of entities, and what the external key
    manager decrypts under an identifier. -/
structure KeyHolders where
  dek : String → Part Bytes
  identifier : String → Part String
  opened : String → Bytes → Part Bytes

instance : Preorder KeyHolders := Preorder.lift fun x => (x.dek, x.identifier, x.opened)

theorem KeyHolders.dek_mono {x y : KeyHolders} (h : x ≤ y) {merchantId : String} {key : Bytes}
    (hkey : key ∈ x.dek merchantId) : key ∈ y.dek merchantId := h.1 merchantId key hkey

theorem KeyHolders.identifier_mono {x y : KeyHolders} (h : x ≤ y) {entityId identifier : String}
    (hid : identifier ∈ x.identifier entityId) : identifier ∈ y.identifier entityId :=
  h.2.1 entityId identifier hid

theorem KeyHolders.opened_mono {x y : KeyHolders} (h : x ≤ y) {identifier : String}
    {data plain : Bytes} (hplain : plain ∈ x.opened identifier data) :
    plain ∈ y.opened identifier data := h.2.2 identifier data plain hplain

/-- Opening inverts sealing. -/
def OpensSealed (openWithin : OpenWithin) (sealInPlace : SealInPlace) : Prop :=
  ∀ key nonce input output, sealInPlace key nonce input = some output →
    openWithin key nonce output = some input

/-- What the cryptography and the external key manager promise: opening inverts sealing,
    decrypting inverts encrypting, and keys stay. -/
structure Cryptography {σ : Type} (state : TenantState) (service : KeyService σ)
    (dataService : DataService σ) : Prop where
  ring : OpensSealed state.openWithin state.sealInPlace
  opened : ∀ x identifier data encrypted, dataService.encrypt x identifier data = .ok encrypted →
    dataService.decrypt x identifier encrypted = .ok data
  create : ∀ {x x' identifier identifier' id data plain},
    service.create x identifier = some (identifier', x') →
      dataService.decrypt x id data = .ok plain → dataService.decrypt x' id data = .ok plain
  transfer : ∀ {x x' identifier key identifier' id data plain},
    service.transfer x identifier key = some (identifier', x') →
      dataService.decrypt x id data = .ok plain → dataService.decrypt x' id data = .ok plain

/-- The nonces have `NONCE_LEN` bytes. -/
structure Drawn.Sized (drawn : Drawn) : Prop where
  dek : ∀ nonce, drawn.dekNonce = some nonce → nonce.length = nonceLen
  data : ∀ nonce, drawn.dataNonce = some nonce → nonce.length = nonceLen

section Holders

variable {σ : Type} (state : TenantState) (dataService : DataService σ)

/-- The merchant behind a row. -/
def TenantState.merchant (row : MerchantInner) : Except (Fault MerchantDBError) Merchant :=
  row.decrypt state.openWithin ⟨state.masterKey⟩

/-- What a state says of keys. -/
def KeyStore.holders (s : KeyStore σ) : KeyHolders where
  dek merchantId := ((s.tables.merchantRow merchantId).bind fun row =>
    (state.merchant row).toOption.map Merchant.encKey : Option Bytes)
  identifier entityId := ((s.tables.entityRow entityId).map Entity.encKeyId : Option String)
  opened identifier data := (dataService.decrypt s.service identifier data).toOption

/-- Every merchant row opens under the master key, the replica is behind the primary, and
    the caches show rows. -/
structure KeyStore.Coherent (s : KeyStore σ) : Prop where
  opens : ∀ row ∈ s.tables.merchant.rows, ∃ merchant, state.merchant row = .ok merchant
  replica : s.replica.Earlier s.tables
  merchantCache : ∀ merchantId merchant, s.merchantCache merchantId = some merchant →
    merchant.encKey ∈ (s.holders state dataService).dek merchantId
  entityCache : ∀ entityId entity, s.entityCache entityId = some entity →
    entity.encKeyId ∈ (s.holders state dataService).identifier entityId

end Holders

section Rows

variable {σ : Type} {state : TenantState} {dataService : DataService σ} {s s' : KeyStore σ}

theorem mem_dek_of_row {merchantId : String} {row : MerchantInner} {merchant : Merchant}
    (hrow : s.tables.merchantRow merchantId = some row) (h : state.merchant row = .ok merchant) :
    merchant.encKey ∈ (s.holders state dataService).dek merchantId := by
  change merchant.encKey ∈ (Part.ofOption _)
  rw [Part.mem_ofOption, hrow]
  exact Option.mem_map_of_mem _ (by rw [h]; rfl)

theorem mem_identifier_of_row {entityId : String} {row : Entity}
    (hrow : s.tables.entityRow entityId = some row) :
    row.encKeyId ∈ (s.holders state dataService).identifier entityId := by
  change row.encKeyId ∈ (Part.ofOption _)
  rw [Part.mem_ofOption, hrow]
  rfl

variable (state) in
theorem mem_opened_iff {identifier : String} {data plain : Bytes} :
    plain ∈ (s.holders state dataService).opened identifier data ↔
      dataService.decrypt s.service identifier data = .ok plain := by
  change plain ∈ (Part.ofOption _) ↔ _
  rw [Part.mem_ofOption]
  cases dataService.decrypt s.service identifier data with
  | ok out => simp [Except.toOption]
  | error e => simp [Except.toOption]

/-- More rows and no fewer keys. -/
theorem holders_le
    (hmerchant : ∀ merchantId row, s.tables.merchantRow merchantId = some row →
      s'.tables.merchantRow merchantId = some row)
    (hentity : ∀ entityId row, s.tables.entityRow entityId = some row →
      s'.tables.entityRow entityId = some row)
    (hopened : ∀ identifier data plain,
      dataService.decrypt s.service identifier data = .ok plain →
        dataService.decrypt s'.service identifier data = .ok plain) :
    s.holders state dataService ≤ s'.holders state dataService := by
  refine ⟨fun merchantId key hkey => ?_, fun entityId id hid => ?_, fun identifier data plain h =>
    (mem_opened_iff state).2 (hopened _ _ _ ((mem_opened_iff state).1 h))⟩
  · change key ∈ (Part.ofOption _) at hkey ⊢
    rw [Part.mem_ofOption] at hkey ⊢
    obtain ⟨row, hrow, hdek⟩ := Option.bind_eq_some_iff.1 hkey
    exact Option.bind_eq_some_iff.2 ⟨row, hmerchant _ _ hrow, hdek⟩
  · change id ∈ (Part.ofOption _) at hid ⊢
    rw [Part.mem_ofOption] at hid ⊢
    obtain ⟨row, hrow, hid⟩ := Option.map_eq_some_iff.1 hid
    exact Option.map_eq_some_iff.2 ⟨row, hentity _ _ hrow, hid⟩

theorem mem_rows_shown (h : s.Coherent state dataService) {pool : DbPool} {row : MerchantInner}
    (hrow : row ∈ (s.shown pool).merchant.rows) : row ∈ s.tables.merchant.rows := by
  cases pool with
  | primary => exact hrow
  | replica => exact h.replica.1 row hrow

/-- A merchant row that a pool shows is the row of the primary. -/
theorem merchant_shown (h : s.Coherent state dataService) {pool : DbPool} {row : MerchantInner}
    (hrow : row ∈ (s.shown pool).merchant.rows) : ∃ merchant, state.merchant row = .ok merchant ∧
      merchant.encKey ∈ (s.holders state dataService).dek row.merchantId := by
  have hmem := mem_rows_shown h hrow
  obtain ⟨merchant, hmerchant⟩ := h.opens row hmem
  exact ⟨merchant, hmerchant, mem_dek_of_row ((Table.get_eq_some_iff (fun _ _ h => h)
    (fun _ _ h => h.symm)).2 ⟨hmem, rfl⟩) hmerchant⟩

theorem entity_shown (h : s.Coherent state dataService) {pool : DbPool} {entityId : String}
    {row : Entity} (hrow : (s.shown pool).entityRow entityId = some row) :
    row.encKeyId ∈ (s.holders state dataService).identifier entityId := by
  have hkey : row.entityId = entityId := KeyStore.entityRow_key hrow
  have hmem : row ∈ s.tables.entity.rows := by
    cases pool with
    | primary => exact Table.mem_of_get hrow
    | replica => exact h.replica.2 row (Table.mem_of_get hrow)
  exact mem_identifier_of_row ((Table.get_eq_some_iff (fun _ _ h => h)
    (fun _ _ h => h.symm)).2 ⟨hmem, hkey⟩)

end Rows

/-! ## Calls -/

section Calls

variable {σ : Type} (state : TenantState)

/-- What a key manager stores: DEKs under the master key, and in the caches what is
    known. -/
def KeyCmd.Stores (x : KeyHolders) : KeyCmd → Prop
  | .insertMerchant new =>
    ∃ key, (⟨state.masterKey⟩ : GcmAes256).decrypt state.openWithin new.encKey = .ok key
  | .cacheMerchant merchantId value => value.encKey ∈ x.dek merchantId
  | .cacheEntity entityId value => value.encKeyId ∈ x.identifier entityId
  | _ => True

/-- The merchant behind a row is the one that is known. -/
def MerchantInner.Known (merchantId : String) (row : MerchantInner) (x : KeyHolders) : Prop :=
  ∃ merchant, state.merchant row = .ok merchant ∧ merchant.encKey ∈ x.dek merchantId

/-- What an answer tells is known. -/
def KeyReply.Tells (x : KeyHolders) : (c : KeyCmd) → KeyReply c → Prop
  | .selectMerchant _ merchantId, reply =>
    ∀ row, reply = Except.ok row → row.Known state merchantId x
  | .insertMerchant new, reply =>
    ∀ row, reply = Except.ok row → row.Known state new.merchantId x
  | .selectMerchantsExcludingEntities .., reply =>
    ∀ rows, reply = Except.ok rows → ∀ row ∈ rows, row.Known state row.merchantId x
  | .selectEntity _ entityId, reply => ∀ row, reply = Except.ok row →
    row.entityId = entityId ∧ row.encKeyId ∈ x.identifier entityId
  | .insertEntity new, reply => ∀ row, reply = Except.ok row →
    row.encKeyId ∈ x.identifier new.entityId
  | .lookupMerchant merchantId, reply => ∀ value, reply = some value →
    value.encKey ∈ x.dek merchantId
  | .lookupEntity entityId, reply => ∀ value, reply = some value →
    value.encKeyId ∈ x.identifier entityId
  | _, _ => True

end Calls

section Step

variable {σ : Type} {state : TenantState} {service : KeyService σ} {dataService : DataService σ}
  {s : KeyStore σ}

theorem merchantRow_exec {merchantId : String} {row : MerchantInner}
    (h : s.tables.merchantRow merchantId = some row) (c : KeyCmd) :
    (s.exec service c).2.tables.merchantRow merchantId = some row := by
  cases c with
  | insertMerchant new =>
    change (insertRow new.fits (new.row s.now) s.tables.merchant).2.get _ merchantId = some row
    by_cases heq : new.merchantId = merchantId
    · exact get_insertRow_of_some (fun _ _ h => h) (fun _ => heq) h
    · have hne : ∀ n, (new.row s.now n).merchantId ≠ merchantId := fun _ => heq
      exact (get_insertRow_of_ne hne).trans h
  | selectMerchantsExcludingEntities pool limit =>
    simp only [KeyStore.exec]
    split_ifs <;> exact h
  | createKey identifier =>
    simp only [KeyStore.exec]
    split <;> exact h
  | transferKey identifier key =>
    simp only [KeyStore.exec]
    split <;> exact h
  | _ => exact h

theorem opened_exec (hcrypto : Cryptography state service dataService) {identifier : String}
    {data plain : Bytes} (h : dataService.decrypt s.service identifier data = .ok plain)
    (c : KeyCmd) :
    dataService.decrypt (s.exec service c).2.service identifier data = .ok plain := by
  cases c with
  | createKey identifier =>
    simp only [KeyStore.exec]
    split
    · rename_i identifier' service' hcreate
      exact hcrypto.create hcreate h
    · exact h
  | transferKey identifier text =>
    simp only [KeyStore.exec]
    split
    · rename_i identifier' service' htransfer
      exact hcrypto.transfer htransfer h
    · exact h
  | selectMerchantsExcludingEntities pool limit =>
    simp only [KeyStore.exec]
    split_ifs <;> exact h
  | _ => exact h

/-- Keys are never lost. -/
theorem holders_exec (hcrypto : Cryptography state service dataService) (c : KeyCmd) :
    s.holders state dataService ≤ (s.exec service c).2.holders state dataService :=
  holders_le (fun _ _ h => merchantRow_exec h c) (fun _ _ h => KeyStore.entityRow_exec h c)
    fun _ _ _ h => opened_exec hcrypto h c

theorem holders_envStep (e : KeyStore.EnvStep) :
    (s.envStep e).holders state dataService = s.holders state dataService := by
  unfold KeyStore.holders
  rw [KeyStore.tables_envStep, KeyStore.service_envStep]

section InsertRow

variable {ρ : Type} {Clash : ρ → ρ → Prop} [DecidableRel Clash] {fits : Bool} {mk : ℕ → ρ}
  {table : Table ρ Clash}

/-- An INSERT leaves the rows there are. -/
theorem mem_insertRow_of_mem {row : ρ} (h : row ∈ table.rows) :
    row ∈ (insertRow fits mk table).2.rows := by
  cases hreply : (insertRow fits mk table).1 with
  | error e => rwa [insertRow_of_error hreply]
  | ok row' =>
    rw [(Table.insert_eq_some_iff.1 (insertRow_of_ok hreply)).2.2.1]
    exact List.mem_append_left _ h

/-- A row is there after an INSERT that was there, or is the new one. -/
theorem mem_of_mem_insertRow {row : ρ} (h : row ∈ (insertRow fits mk table).2.rows) :
    row ∈ table.rows ∨ row = mk table.serial := by
  cases hreply : (insertRow fits mk table).1 with
  | error e =>
    rw [insertRow_of_error hreply] at h
    exact Or.inl h
  | ok row' =>
    rw [(Table.insert_eq_some_iff.1 (insertRow_of_ok hreply)).2.2.1] at h
    exact (List.mem_append.1 h).imp_right List.mem_singleton.1

/-- The row that an INSERT answers is there. -/
theorem mem_insertRow_of_ok {row : ρ} (h : (insertRow fits mk table).1 = .ok row) :
    row ∈ (insertRow fits mk table).2.rows := by
  obtain ⟨-, rfl, hrows, -⟩ := Table.insert_eq_some_iff.1 (insertRow_of_ok h)
  rw [hrows]
  exact List.mem_append_right _ (List.mem_singleton_self _)

end InsertRow

/-- The merchant behind a new row. -/
theorem merchant_row {new : MerchantNewInner} {key : Bytes}
    (h : (⟨state.masterKey⟩ : GcmAes256).decrypt state.openWithin new.encKey = .ok key)
    (now : PrimitiveDateTime) (id : ℕ) :
    state.merchant (new.row now id) = .ok ⟨new.merchantId, key, now.toTimestamp⟩ := by
  have hrow : (⟨state.masterKey⟩ : GcmAes256).decrypt state.openWithin (new.row now id).encKey =
      .ok key := h
  rw [TenantState.merchant, MerchantInner.decrypt, hrow]
  rfl

/-- A call that changes no table and no cache. -/
theorem KeyStore.Coherent.setService (h : s.Coherent state dataService)
    (hcrypto : Cryptography state service dataService) {c : KeyCmd}
    (htables : (s.exec service c).2.tables = s.tables)
    (hreplica : (s.exec service c).2.replica = s.replica)
    (hmerchant : (s.exec service c).2.merchantCache = s.merchantCache)
    (hentity : (s.exec service c).2.entityCache = s.entityCache) :
    (s.exec service c).2.Coherent state dataService where
  opens := by rw [htables]; exact h.opens
  replica := by rw [htables, hreplica]; exact h.replica
  merchantCache id merchant hcache := by
    rw [hmerchant] at hcache
    exact KeyHolders.dek_mono (holders_exec hcrypto c) (h.merchantCache id merchant hcache)
  entityCache id entity hcache := by
    rw [hentity] at hcache
    exact KeyHolders.identifier_mono (holders_exec hcrypto c) (h.entityCache id entity hcache)

/-- One call. -/
theorem KeyStore.Coherent.exec (h : s.Coherent state dataService)
    (hcrypto : Cryptography state service dataService) {c : KeyCmd}
    (hc : c.Stores state (s.holders state dataService)) :
    (s.exec service c).2.Coherent state dataService ∧
      KeyReply.Tells state ((s.exec service c).2.holders state dataService) c
        (s.exec service c).1 := by
  have hle := holders_exec (s := s) hcrypto c
  have hmerchant : ∀ id merchant, s.merchantCache id = some merchant →
      merchant.encKey ∈ ((s.exec service c).2.holders state dataService).dek id :=
    fun id merchant hcache => KeyHolders.dek_mono hle (h.merchantCache id merchant hcache)
  have hentity : ∀ id entity, s.entityCache id = some entity →
      entity.encKeyId ∈ ((s.exec service c).2.holders state dataService).identifier id :=
    fun id entity hcache => KeyHolders.identifier_mono hle (h.entityCache id entity hcache)
  cases c with
  | selectMerchant pool merchantId =>
    refine ⟨h.setService hcrypto rfl rfl rfl rfl, fun row hrow => ?_⟩
    change oneRow ((s.shown pool).merchantRow merchantId) = .ok row at hrow
    cases hfound : (s.shown pool).merchantRow merchantId with
    | none =>
      rw [hfound] at hrow
      cases hrow
    | some found =>
      rw [hfound] at hrow
      cases hrow
      have hkey : row.merchantId = merchantId := Table.key_of_get hfound
      rw [← hkey]
      exact merchant_shown h (Table.mem_of_get hfound)
  | selectMerchantsExcludingEntities pool limit =>
    have hstore : (s.exec service (.selectMerchantsExcludingEntities pool limit)).2 = s := by
      simp only [KeyStore.exec]
      split_ifs <;> rfl
    rw [hstore]
    refine ⟨h, fun rows hrows row hrow => ?_⟩
    simp only [KeyStore.exec] at hrows
    split_ifs at hrows
    cases hrows
    exact merchant_shown h (List.mem_filter.1 (List.mem_of_mem_take hrow)).1
  | selectEntity pool entityId =>
    refine ⟨h.setService hcrypto rfl rfl rfl rfl, fun row hrow => ?_⟩
    change oneRow ((s.shown pool).entityRow entityId) = .ok row at hrow
    cases hfound : (s.shown pool).entityRow entityId with
    | none =>
      rw [hfound] at hrow
      cases hrow
    | some found =>
      rw [hfound] at hrow
      cases hrow
      exact ⟨KeyStore.entityRow_key hfound, entity_shown h hfound⟩
  | insertMerchant new =>
    obtain ⟨key, hkey⟩ := hc
    have hopens : ∀ row ∈ (s.exec service (.insertMerchant new)).2.tables.merchant.rows,
        ∃ merchant, state.merchant row = .ok merchant := by
      intro row hrow
      rcases mem_of_mem_insertRow hrow with hrow | rfl
      · exact h.opens row hrow
      · exact ⟨_, merchant_row hkey _ _⟩
    refine ⟨⟨hopens, ⟨fun row hrow => mem_insertRow_of_mem (h.replica.1 row hrow), h.replica.2⟩,
      hmerchant, hentity⟩, fun row hrow => ?_⟩
    obtain ⟨-, -, rfl⟩ := insertRow_eq_ok_iff.1 hrow
    have hbehind := merchant_row hkey s.now s.tables.merchant.serial
    refine ⟨_, hbehind, mem_dek_of_row ?_ hbehind⟩
    exact (Table.get_eq_some_iff (fun _ _ h => h) (fun _ _ h => h.symm)).2
      ⟨mem_insertRow_of_ok hrow, rfl⟩
  | insertEntity new =>
    refine ⟨⟨h.opens, ⟨h.replica.1, fun row hrow => mem_insertRow_of_mem (h.replica.2 row hrow)⟩,
      hmerchant, hentity⟩, fun row hrow => ?_⟩
    obtain ⟨-, -, rfl⟩ := insertRow_eq_ok_iff.1 hrow
    refine mem_identifier_of_row (?_ : _ = some (new.row s.now _))
    exact (Table.get_eq_some_iff (fun _ _ h => h) (fun _ _ h => h.symm)).2
      ⟨mem_insertRow_of_ok hrow, rfl⟩
  | lookupMerchant merchantId =>
    exact ⟨h.setService hcrypto rfl rfl rfl rfl, fun value hvalue => h.merchantCache _ _ hvalue⟩
  | lookupEntity entityId =>
    exact ⟨h.setService hcrypto rfl rfl rfl rfl, fun value hvalue => h.entityCache _ _ hvalue⟩
  | cacheMerchant merchantId value =>
    refine ⟨⟨h.opens, h.replica, fun id merchant hcache => ?_, h.entityCache⟩, trivial⟩
    change Function.update s.merchantCache merchantId (some value) id = some merchant at hcache
    by_cases hid : id = merchantId
    · subst hid
      rw [Function.update_self] at hcache
      cases hcache
      exact hc
    · rw [Function.update_of_ne hid] at hcache
      exact h.merchantCache id merchant hcache
  | cacheEntity entityId value =>
    refine ⟨⟨h.opens, h.replica, h.merchantCache, fun id entity hcache => ?_⟩, trivial⟩
    change Function.update s.entityCache entityId (some value) id = some entity at hcache
    by_cases hid : id = entityId
    · subst hid
      rw [Function.update_self] at hcache
      cases hcache
      exact hc
    · rw [Function.update_of_ne hid] at hcache
      exact h.entityCache id entity hcache
  | createKey identifier =>
    refine ⟨h.setService hcrypto ?_ ?_ ?_ ?_, trivial⟩ <;> simp only [KeyStore.exec] <;>
      split <;> rfl
  | transferKey identifier key =>
    refine ⟨h.setService hcrypto ?_ ?_ ?_ ?_, trivial⟩ <;> simp only [KeyStore.exec] <;>
      split <;> rfl
  | routeConn => exact ⟨h, trivial⟩
  | getConn => exact ⟨h, trivial⟩

/-- What happens around the calls. -/
theorem KeyStore.Coherent.envStep (h : s.Coherent state dataService) (e : KeyStore.EnvStep) :
    (s.envStep e).Coherent state dataService := by
  cases e with
  | tick now => exact ⟨h.opens, h.replica, h.merchantCache, h.entityCache⟩
  | evictMerchant merchantId =>
    refine ⟨h.opens, h.replica, fun id merchant hcache => ?_, h.entityCache⟩
    change Function.update s.merchantCache merchantId none id = some merchant at hcache
    by_cases hid : id = merchantId
    · rw [hid, Function.update_self] at hcache
      cases hcache
    · rw [Function.update_of_ne hid] at hcache
      exact h.merchantCache id merchant hcache
  | evictEntity entityId =>
    exact ⟨h.opens, h.replica, h.merchantCache, fun id entity hcache =>
      h.entityCache id entity (KeyStore.entityCache_envStep hcache)⟩
  | replicate tables =>
    simp only [KeyStore.envStep]
    split_ifs with hearlier
    · exact ⟨h.opens, hearlier, h.merchantCache, h.entityCache⟩
    · exact h

end Step

end CardVault
