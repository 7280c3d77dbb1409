import CardVault.Lib.Faults
import CardVault.KeyManager.Provider

/-!
# Legacy keys under the external key manager

Calls that provision entities and calls that migrate legacy keys, interleaved
step by step, where every call to the database and to the key manager may fail.

Main results:
* `Legacy.keeps_transferKeys`: `transfer_keys` stores the key of a DEK only.
* `Legacy.deks_kept`: as long as no provisioning call inserts the entity of a
  merchant, every merchant's entity row names its DEK.
* `Legacy.dek_stranded`: a provisioning call that comes first strands the DEK.
-/

namespace CardVault

open Interaction Relational

namespace Legacy

variable {σ ι : Type}

/-! ## Calls -/

/-- The calls that write the `entity` table. -/
inductive KeyCall where
  | findOrCreateEntity (nanoId entityId : String)
  | createEntity (nanoId entityId : String)
  | transferKeys (limit : ℤ) (nanoIds : ℕ → String) (schedule : List ℕ)
  | migrateKeyToKeyManager (entityId : String) (requestBody : DataKeyTransferRequest)

section Programs

variable (aead : Aead) (masterKey : Bytes)

/-- The program of a call; what it answers is left out. -/
def KeyCall.program : KeyCall → KeyApp Unit
  | .findOrCreateEntity nanoId entityId =>
    (CardVault.findOrCreateEntity nanoId entityId).mapResult fun _ => ()
  | .createEntity nanoId entityId =>
    (CardVault.createEntity nanoId entityId).mapResult fun _ => ()
  | .transferKeys limit nanoIds schedule =>
    (CardVault.transferKeys aead masterKey limit nanoIds schedule).mapResult fun _ => ()
  | .migrateKeyToKeyManager entityId requestBody =>
    (CardVault.migrateKeyToKeyManager entityId requestBody).mapResult fun _ => ()

/-- The call is one of the two that provision an entity. -/
def KeyCall.provisions : KeyCall → Bool
  | .findOrCreateEntity .. | .createEntity .. => true
  | .transferKeys .. | .migrateKeyToKeyManager .. => false

/-- The DEK in a merchant row. -/
def dek (row : MerchantInner) : Option Bytes :=
  match row.decrypt aead.openWithin ⟨masterKey⟩ with
  | .ok merchant => some merchant.encKey
  | .error _ => none

/-- A migration carries the DEK of the merchant it is for. -/
def KeyCall.CarriesDek (tables : KeyTables) : KeyCall → Prop
  | .migrateKeyToKeyManager entityId requestBody =>
    ∀ row, tables.merchantRow entityId = some row →
      ∃ key, dek aead masterKey row = some key ∧ requestBody.key = base64Encode key
  | _ => True

end Programs

/-- How each call fails. The caches do not. -/
def KeyFailure : (c : KeyCmd) → KeyReply c → Prop
  | .routeConn, reply => ∃ e : StorageError, reply = Except.error e
  | .getConn, reply => ∃ e : StorageError, reply = Except.error e
  | .selectMerchant .., reply => ∃ e : DieselError, reply = Except.error e
  | .insertMerchant _, reply => ∃ e : DieselError, reply = Except.error e
  | .selectMerchantsExcludingEntities .., reply => ∃ e : DieselError, reply = Except.error e
  | .selectEntity .., reply => ∃ e : DieselError, reply = Except.error e
  | .insertEntity _, reply => ∃ e : DieselError, reply = Except.error e
  | .createKey _, reply => ∃ e : KeyManagerError, reply = Except.error e
  | .transferKey .., reply => ∃ e : KeyManagerError, reply = Except.error e
  | .lookupMerchant _, _ => False
  | .cacheMerchant .., _ => False
  | .lookupEntity _, _ => False
  | .cacheEntity .., _ => False

/-- The key manager keeps the keys it has, and a transferred key is the key of the
    identifier in the response. -/
structure KeepsKeys (service : KeyService σ) : Prop where
  create : ∀ {s s' identifier identifier' id key},
    service.create s identifier = some (identifier', s') → service.key s id = some key →
      service.key s' id = some key
  transfer : ∀ {s s' identifier text identifier' id key},
    service.transfer s identifier text = some (identifier', s') → service.key s id = some key →
      service.key s' id = some key
  transferred : ∀ {s s' identifier key identifier'},
    service.transfer s identifier (base64Encode key) = some (identifier', s') →
      service.key s' identifier' = some key

theorem key_exec {service : KeyService σ} (hkeys : KeepsKeys service) {s : KeyStore σ}
    {id : String} {key : Bytes} (h : service.key s.service id = some key) (c : KeyCmd) :
    service.key (s.exec service c).2.service id = some key := by
  cases c with
  | createKey identifier =>
    simp only [KeyStore.exec]
    split
    · rename_i identifier' service' hcreate
      exact hkeys.create hcreate h
    · exact h
  | transferKey identifier text =>
    simp only [KeyStore.exec]
    split
    · rename_i identifier' service' htransfer
      exact hkeys.transfer htransfer h
    · exact h
  | selectMerchantsExcludingEntities pool limit =>
    simp only [KeyStore.exec]
    split_ifs <;> exact h
  | _ => exact h

/-! ## One call -/

section Calls

variable (aead : Aead) (masterKey : Bytes) (merchants : Table MerchantInner merchantClash)

/-- `keys` gives the identifier the DEK of the merchant, if there is a merchant
    row. -/
def NamesDek (keys : String → Option Bytes) (entityId identifier : String) : Prop :=
  ∀ row, merchants.get MerchantInner.merchantId entityId = some row →
    ∃ key, dek aead masterKey row = some key ∧ keys identifier = some key

/-- The commands of a call. Only a call that provisions may insert an entity
    whose key is not the DEK. -/
def Issued (provisions : Bool) (keys : String → Option Bytes) : KeyCmd → Prop
  | .insertMerchant _ => False
  | .insertEntity new =>
    provisions = true ∨ NamesDek aead masterKey merchants keys new.entityId new.encKeyId
  | _ => True

/-- The answers to a call, when `keys` has every key the key manager has. -/
def Answered (keys : String → Option Bytes) : (c : KeyCmd) → KeyReply c → Prop
  | .selectMerchantsExcludingEntities .., reply =>
    ∀ rows, reply = Except.ok rows → ∀ row ∈ rows, row ∈ merchants.rows
  | .transferKey _ text, reply =>
    ∀ key identifier, text = base64Encode key → reply = Except.ok identifier →
      keys identifier = some key
  | _, _ => True

/-- A program of the call under these commands and answers. -/
abbrev Keeps (provisions : Bool) (keys : String → Option Bytes) {α : Type} (p : KeyApp α)
    (Q : α → Prop) : Prop :=
  p.Meets (Issued aead masterKey merchants provisions keys) (Answered merchants keys) Q

variable {aead masterKey merchants} {provisions : Bool} {keys : String → Option Bytes}

theorem keeps_findByEntityId (entityId : String) :
    Keeps aead masterKey merchants provisions keys (Caching.findByEntityId entityId)
      fun _ => True := by
  refine Prog.Meets.bind (Q := fun _ => True) ⟨trivial, fun _ _ => trivial⟩ fun found _ => ?_
  cases found with
  | some value => trivial
  | none =>
    refine Prog.Meets.andThen (Q := fun _ => True) ?_ (fun _ _ => trivial) fun output _ =>
      Prog.Meets.mapResult ⟨trivial, fun _ _ => trivial⟩
    refine Prog.Meets.andThen (Q := fun _ => True)
      (Prog.Meets.mapResult ⟨trivial, fun _ _ => trivial⟩) (fun _ _ => trivial) fun pool _ => ?_
    exact Prog.Meets.mapResult ⟨trivial, fun _ _ => trivial⟩

theorem keeps_insertEntity {entityId identifier : String}
    (h : provisions = true ∨ NamesDek aead masterKey merchants keys entityId identifier) :
    Keeps aead masterKey merchants provisions keys (Caching.insertEntity entityId identifier)
      fun _ => True := by
  refine Prog.Meets.andThen (Q := fun _ => True) ?_ (fun _ _ => trivial) fun output _ =>
    Prog.Meets.mapResult ⟨trivial, fun _ _ => trivial⟩
  refine Prog.Meets.andThen (Q := fun _ => True)
    (Prog.Meets.mapResult ⟨trivial, fun _ _ => trivial⟩) (fun _ _ => trivial) fun pool _ => ?_
  exact Prog.Meets.mapResult ⟨h, fun _ _ => trivial⟩

theorem keeps_findOrCreateEntity (nanoId entityId : String) :
    Keeps aead masterKey merchants true keys (findOrCreateEntity nanoId entityId)
      fun _ => True := by
  refine (keeps_findByEntityId entityId).bind fun reply _ => ?_
  cases reply with
  | ok entity => trivial
  | error innerErr =>
    dsimp only
    split_ifs
    · refine Prog.Meets.andThen (Q := fun _ => True)
        (Prog.Meets.mapResult ⟨trivial, fun _ _ => trivial⟩) (fun _ _ => trivial)
        fun identifier _ => ?_
      exact Prog.Meets.mapResult (keeps_insertEntity (Or.inl rfl))
    · trivial

/-- A migration of the DEK stores the identifier of the DEK. -/
theorem keeps_migrateKeyToKeyManager {entityId : String} {requestBody : DataKeyTransferRequest}
    (h : ∀ row, merchants.get MerchantInner.merchantId entityId = some row →
      ∃ key, dek aead masterKey row = some key ∧ requestBody.key = base64Encode key) :
    Keeps aead masterKey merchants provisions keys (migrateKeyToKeyManager entityId requestBody)
      fun _ => True := by
  refine Prog.Meets.andThen
    (Q := fun reply => ∀ identifier, reply = .ok identifier →
      NamesDek aead masterKey merchants keys entityId identifier)
    ⟨trivial, fun reply hreply identifier hok row hrow => ?_⟩ (fun _ _ => trivial)
    fun identifier hidentifier =>
      Prog.Meets.mapResult (keeps_insertEntity (Or.inr (hidentifier identifier rfl)))
  obtain ⟨key, hdek, htext⟩ := h row hrow
  exact ⟨key, hdek, hreply key identifier htext hok⟩

theorem exists_of_decryptAll {rows : List MerchantInner} :
    ∀ {decrypted : List Merchant},
      decryptAll aead.openWithin ⟨masterKey⟩ rows = .ok decrypted →
      ∀ merchant ∈ decrypted, ∃ row ∈ rows,
        row.decrypt aead.openWithin ⟨masterKey⟩ = .ok merchant := by
  induction rows with
  | nil =>
    intro decrypted h merchant hmem
    cases h
    cases hmem
  | cons row rows ih =>
    intro decrypted h merchant hmem
    rw [decryptAll] at h
    split at h
    · cases h
    · cases h
    · rename_i first hfirst
      split at h
      · rename_i others hothers
        cases h
        rcases List.mem_cons.1 hmem with rfl | hmem
        · exact ⟨row, List.mem_cons_self, hfirst⟩
        · obtain ⟨row', hrow', hdecrypt⟩ := ih hothers merchant hmem
          exact ⟨row', List.mem_cons_of_mem row hrow', hdecrypt⟩
      · cases h

/-- The merchants to migrate are decrypted rows of the merchant table. -/
theorem keeps_findAllKeys (limit : ℤ) :
    Keeps aead masterKey merchants provisions keys
      (findAllKeysExcludingEntityKeys aead ⟨masterKey⟩ limit)
      fun reply => ∀ decrypted, reply = .ok decrypted → ∀ merchant ∈ decrypted,
        ∃ row ∈ merchants.rows, row.decrypt aead.openWithin ⟨masterKey⟩ = .ok merchant := by
  refine Prog.Meets.andThen (Q := fun _ => True)
    (Prog.Meets.mapResult ⟨trivial, fun _ _ => trivial⟩) (fun e _ _ h => nomatch h)
    fun pool _ => ?_
  refine Prog.Meets.andThen
    (Q := fun reply => ∀ rows, reply = .ok rows → ∀ row ∈ rows, row ∈ merchants.rows)
    (Prog.Meets.mapResult ⟨trivial, fun reply hreply rows hrows => ?_⟩)
    (fun e _ _ h => nomatch h) fun rows hrows decrypted hdecrypted merchant hmem => ?_
  · cases reply with
    | ok stored =>
      cases hrows
      exact hreply rows rfl
    | error e => cases hrows
  · obtain ⟨row, hrow, hdecrypt⟩ := exists_of_decryptAll hdecrypted merchant hmem
    exact ⟨row, hrows rows rfl row hrow, hdecrypt⟩

theorem dek_of_decrypt {row : MerchantInner} {merchant : Merchant}
    (h : row.decrypt aead.openWithin ⟨masterKey⟩ = .ok merchant) :
    row.merchantId = merchant.merchantId ∧ dek aead masterKey row = some merchant.encKey := by
  refine ⟨?_, by rw [dek, h]⟩
  unfold MerchantInner.decrypt at h
  split at h
  · cases h
    rfl
  · cases h
  · cases h

/-- `transfer_keys` uploads DEKs only, and stores the identifiers of these. -/
theorem keeps_transferKeys (limit : ℤ) (nanoIds : ℕ → String) (schedule : List ℕ) :
    Keeps aead masterKey merchants provisions keys
      (transferKeys aead masterKey limit nanoIds schedule) fun _ => True := by
  refine (keeps_findAllKeys limit).bind fun reply hreply => ?_
  split
  · trivial
  · trivial
  · rename_i merchantKeys
    refine Prog.Meets.mapResult (Prog.Meets.mapResult (Prog.meets_tryJoinAll schedule ?_))
    intro p hp
    obtain ⟨⟨merchant, i⟩, hmem, rfl⟩ := List.mem_map.1 hp
    obtain ⟨row, hrow, hdecrypt⟩ := hreply merchantKeys rfl merchant
      (List.fst_mem_of_mem_zipIdx hmem)
    obtain ⟨hkey, hdek⟩ := dek_of_decrypt hdecrypt
    refine (keeps_migrateKeyToKeyManager fun row' hrow' => ?_).mono fun _ _ => trivial
    have hself : merchants.get MerchantInner.merchantId merchant.merchantId = some row :=
      (Table.get_eq_some_iff (fun _ _ h => h) fun _ _ h => h.symm).2 ⟨hrow, hkey⟩
    rw [hself] at hrow'
    cases hrow'
    exact ⟨merchant.encKey, hdek, rfl⟩

/-- Every call keeps to its commands. -/
theorem keeps_program {call : KeyCall} {tables : KeyTables}
    (h : call.CarriesDek aead masterKey tables) :
    Keeps aead masterKey tables.merchant call.provisions keys (call.program aead masterKey)
      fun _ => True := by
  cases call with
  | findOrCreateEntity nanoId entityId =>
    exact Prog.Meets.mapResult (keeps_findOrCreateEntity nanoId entityId)
  | createEntity nanoId entityId =>
    exact Prog.Meets.mapResult
      ((keeps_findOrCreateEntity nanoId entityId).andThen (fun _ _ => trivial) fun _ _ => trivial)
  | transferKeys limit nanoIds schedule =>
    exact Prog.Meets.mapResult (keeps_transferKeys limit nanoIds schedule)
  | migrateKeyToKeyManager entityId requestBody =>
    exact Prog.Meets.mapResult (keeps_migrateKeyToKeyManager h)

end Calls

/-! ## Calls side by side -/

/-- The key store, every call to which may fail. -/
abbrev FaultyStore (σ : Type) : Type := Unreliable (KeyStore σ) KeyFailure

/-- What happens around the calls, outages included. -/
abbrev KeyWeather : Type := Weather KeyStore.EnvStep KeyFailure

/-- The calls in flight over the shared state. -/
abbrev KeyPool (σ ι : Type) : Type := Pool (FaultyStore σ) ι KeyCmd KeyReply Unit

/-- No call has taken a step. -/
def start (aead : Aead) (masterKey : Bytes) (calls : ι → KeyCall) (s : FaultyStore σ) :
    KeyPool σ ι :=
  { store := s, threads := fun i => (calls i).program aead masterKey, history := [] }

section Run

variable [DecidableEq ι]

/-- One turn: a call takes its next step, or the surroundings do. -/
abbrev turn (service : KeyService σ) (p : KeyPool σ ι) (t : Turn ι KeyWeather) : KeyPool σ ι :=
  p.step (Unreliable.exec (KeyStore.exec service)) (Unreliable.envStep KeyStore.envStep) t

/-- The pool after a list of turns. -/
def run (service : KeyService σ) (turns : List (Turn ι KeyWeather)) (p : KeyPool σ ι) :
    KeyPool σ ι := runActs (turn service) turns p

end Run

/-- A command does not make the entity row of a merchant. -/
def sparesMerchants (s : KeyStore σ) : KeyCmd → Bool
  | .insertEntity new =>
    (s.tables.merchantRow new.entityId).isNone || (s.tables.entityRow new.entityId).isSome
  | _ => true

/-- If the turn is a command of a call that provisions, it does not make the
    entity row of a merchant. -/
def ProvisionsOthers (calls : ι → KeyCall) (p : KeyPool σ ι) : Turn ι KeyWeather → Prop
  | .env _ => True
  | .thread i =>
    (!(calls i).provisions || (p.nextCommand i).all (sparesMerchants p.store.store)) = true

instance (calls : ι → KeyCall) (p : KeyPool σ ι) :
    ∀ t : Turn ι KeyWeather, Decidable (ProvisionsOthers calls p t)
  | .env _ => isTrue trivial
  | .thread _ => inferInstanceAs (Decidable (_ = true))

/-- Every merchant that has an entity row keeps its DEK there. -/
def DeksKept (service : KeyService σ) (aead : Aead) (masterKey : Bytes) (s : KeyStore σ) : Prop :=
  ∀ entityId entity, s.tables.entityRow entityId = some entity →
    NamesDek aead masterKey s.tables.merchant (service.key s.service) entityId entity.encKeyId

/-- `keys` has every key that the key manager has. -/
def HasKeys (service : KeyService σ) (s : KeyStore σ) (keys : String → Option Bytes) : Prop :=
  ∀ id key, service.key s.service id = some key → keys id = some key

/-- What holds between the turns. The calls keep to their commands whatever keys
    the key manager gets later. -/
structure Inv (service : KeyService σ) (aead : Aead) (masterKey : Bytes)
    (merchants : Table MerchantInner merchantClash) (calls : ι → KeyCall) (p : KeyPool σ ι) :
    Prop where
  merchant : p.store.store.tables.merchant = merchants
  replica : ∀ row ∈ p.store.store.replica.merchant.rows, row ∈ merchants.rows
  kept : DeksKept service aead masterKey p.store.store
  keeps : ∀ keys, HasKeys service p.store.store keys → ∀ i,
    Keeps aead masterKey merchants (calls i).provisions keys (p.threads i) fun _ => True

section Step

variable {service : KeyService σ} {aead : Aead} {masterKey : Bytes}
variable {merchants : Table MerchantInner merchantClash} {calls : ι → KeyCall} {p : KeyPool σ ι}
variable {provisions : Bool} {keys : String → Option Bytes}

/-- The reliable answer to a call is as expected of the keys there are
    afterwards. -/
theorem answered_exec (hkeys : KeepsKeys service) {s : KeyStore σ}
    (hmerchant : s.tables.merchant = merchants)
    (hreplica : ∀ row ∈ s.replica.merchant.rows, row ∈ merchants.rows) {c : KeyCmd}
    (hhas : HasKeys service (s.exec service c).2 keys) :
    Answered merchants keys c (s.exec service c).1 := by
  cases c with
  | selectMerchantsExcludingEntities pool limit =>
    intro rows hrows row hrow
    simp only [KeyStore.exec] at hrows
    split_ifs at hrows
    cases hrows
    have hshown := (List.mem_filter.1 (List.mem_of_mem_take hrow)).1
    cases pool with
    | primary => exact hmerchant ▸ hshown
    | replica => exact hreplica row hshown
  | transferKey identifier text =>
    intro key identifier' htext hreply
    subst htext
    simp only [KeyStore.exec] at hreply hhas
    split at hreply
    · rename_i identifier'' service' htransfer
      cases hreply
      rw [htransfer] at hhas
      exact hhas _ _ (hkeys.transferred htransfer)
    · cases hreply
  | _ => trivial

/-- A failure is as expected as well. -/
theorem answered_of_failure {c : KeyCmd} {reply : KeyReply c} (h : KeyFailure c reply) :
    Answered merchants keys c reply := by
  cases c with
  | selectMerchantsExcludingEntities pool limit =>
    obtain ⟨e, rfl⟩ := h
    exact fun rows hrows => nomatch hrows
  | transferKey identifier text =>
    obtain ⟨e, rfl⟩ := h
    exact fun key identifier' _ hreply => nomatch hreply
  | _ => trivial

/-- A command of a call, when it takes effect, leaves the DEKs where they are. -/
theorem deksKept_exec (hkeys : KeepsKeys service) {s : KeyStore σ} {c : KeyCmd}
    (hkept : DeksKept service aead masterKey s)
    (hissued : Issued aead masterKey s.tables.merchant provisions (service.key s.service) c)
    (hspares : provisions = true → sparesMerchants s c = true) :
    DeksKept service aead masterKey (s.exec service c).2 := by
  have hmerchant : (s.exec service c).2.tables.merchant = s.tables.merchant :=
    KeyStore.merchant_exec fun new hc => by
      subst hc
      exact hissued
  intro entityId entity hentity row hrow
  rw [hmerchant] at hrow
  have hold : s.tables.entityRow entityId = some entity →
      ∃ key, dek aead masterKey row = some key ∧
        service.key (s.exec service c).2.service entity.encKeyId = some key := by
    intro hentity'
    obtain ⟨key, hdek, hkey⟩ := hkept entityId entity hentity' row hrow
    exact ⟨key, hdek, key_exec hkeys hkey c⟩
  rcases KeyStore.entityRow_of_exec hentity with hbefore | rfl
  · exact hold hbefore
  · rcases hissued with hprovisions | hdek
    · have hcase := hspares hprovisions
      simp only [sparesMerchants, Bool.or_eq_true, Option.isNone_iff_eq_none] at hcase
      rcases hcase with hnone | hsome
      · rw [KeyTables.merchantRow, hrow] at hnone
        cases hnone
      · obtain ⟨stored, hstored⟩ := Option.isSome_iff_exists.1 hsome
        have hsame := @KeyStore.entityRow_exec _ service _ _ _ hstored
          (.insertEntity { entityId, encKeyId := entity.encKeyId })
        rw [hentity] at hsame
        cases hsame
        exact hold hstored
    · obtain ⟨key, hrowdek, hkey⟩ := hdek row hrow
      exact ⟨key, hrowdek, hkey⟩

variable [DecidableEq ι]

theorem inv_envStep (h : Inv service aead masterKey merchants calls p) (e : KeyWeather) :
    Inv service aead masterKey merchants calls (turn service p (.env e)) := by
  cases e with
  | deliver delivery => exact ⟨h.merchant, h.replica, h.kept, h.keeps⟩
  | env e =>
    have htables : (p.store.store.envStep e).tables = p.store.store.tables :=
      KeyStore.tables_envStep e
    have hservice : (p.store.store.envStep e).service = p.store.store.service :=
      KeyStore.service_envStep e
    refine ⟨?_, fun row hrow => ?_, ?_, fun keys hhas => h.keeps keys ?_⟩
    · exact (congrArg KeyTables.merchant htables).trans h.merchant
    · rcases KeyStore.replica_envStep p.store.store e with hsame | hearlier
      · exact h.replica row (hsame ▸ hrow)
      · exact h.merchant ▸ hearlier.1 row hrow
    · intro entityId entity hentity
      change NamesDek _ _ (p.store.store.envStep e).tables.merchant
        (service.key (p.store.store.envStep e).service) _ _
      rw [htables, hservice]
      exact h.kept entityId entity (htables ▸ hentity)
    · intro id key hkey
      refine hhas id key ?_
      change service.key (p.store.store.envStep e).service id = some key
      rw [hservice]
      exact hkey

theorem inv_step (hkeys : KeepsKeys service) (h : Inv service aead masterKey merchants calls p)
    {t : Turn ι KeyWeather} (hothers : ProvisionsOthers calls p t) :
    Inv service aead masterKey merchants calls (turn service p t) := by
  cases t with
  | env e => exact inv_envStep h e
  | thread i =>
    cases hi : p.threads i with
    | pure a =>
      have hstep : turn service p (.thread i) = p := Pool.step_ended hi
      rw [hstep]
      exact h
    | call c k =>
      have hstep : turn service p (.thread i) = _ := Pool.step_thread hi
      have hnext : p.nextCommand i = some c := by simp only [Pool.nextCommand, hi]
      have hstore : (turn service p (.thread i)).store =
          (p.store.exec (KeyStore.exec service) c).2 := by rw [hstep]
      -- the command keeps to what the call may issue with the keys there are now
      have hissued := Pool.meets_nextCommand (h.keeps _ (fun _ _ hkey => hkey) i) hnext
      have hspares : (calls i).provisions = true → sparesMerchants p.store.store c = true := by
        intro hprovisions
        have hcond : (!(calls i).provisions ||
          (p.nextCommand i).all (sparesMerchants p.store.store)) = true := hothers
        rw [hprovisions, hnext] at hcond
        simpa using hcond
      have hkept : DeksKept service aead masterKey (p.store.store.exec service c).2 := by
        rw [← h.merchant] at hissued
        exact deksKept_exec hkeys h.kept hissued hspares
      have hmerchant : (p.store.store.exec service c).2.tables.merchant = merchants := by
        refine (KeyStore.merchant_exec fun new hc => ?_).trans h.merchant
        subst hc
        exact hissued
      have hbefore : ∀ keys, HasKeys service (turn service p (.thread i)).store.store keys →
          HasKeys service p.store.store keys := by
        intro keys hhas id key hkey
        refine hhas id key ?_
        rw [hstore]
        rcases p.store.exec_store (KeyStore.exec service) c with hsame | hdone
        · rw [hsame]
          exact hkey
        · rw [hdone]
          exact key_exec hkeys hkey c
      refine ⟨?_, ?_, ?_, fun keys hhas => ?_⟩
      · rw [hstore]
        rcases p.store.exec_store (KeyStore.exec service) c with hsame | hdone
        · exact hsame ▸ h.merchant
        · exact hdone ▸ hmerchant
      · rw [hstore]
        rcases p.store.exec_store (KeyStore.exec service) c with hsame | hdone
        · exact hsame ▸ h.replica
        · rw [hdone, KeyStore.replica_exec]
          exact h.replica
      · rw [hstore]
        rcases p.store.exec_store (KeyStore.exec service) c with hsame | hdone
        · exact hsame ▸ h.kept
        · exact hdone ▸ hkept
      · have hkeeps := h.keeps keys (hbefore keys hhas)
        refine Pool.meets_step hkeeps (.thread i) fun j c' hj hc' => ?_
        cases hj
        rw [hnext] at hc'
        cases hc'
        rw [hstore] at hhas
        rcases p.store.exec_cases (KeyStore.exec service) c with ⟨hreply, hdone⟩ | ⟨hfailed, _⟩
        · rw [hreply]
          rw [hdone] at hhas
          exact answered_exec hkeys h.merchant h.replica hhas
        · exact answered_of_failure hfailed

end Step

/-- As long as no call that provisions makes the entity row of a merchant, every
    entity row of a merchant names the merchant's DEK, whatever fails. -/
theorem deks_kept [DecidableEq ι] (service : KeyService σ) (hkeys : KeepsKeys service)
    (aead : Aead) (masterKey : Bytes) (calls : ι → KeyCall) (s : FaultyStore σ)
    (hcarries : ∀ i, (calls i).CarriesDek aead masterKey s.store.tables)
    (hreplica : s.store.replica.Earlier s.store.tables)
    (hkept : DeksKept service aead masterKey s.store) (turns : List (Turn ι KeyWeather))
    (hothers : Good (turn service) (ProvisionsOthers calls) turns
      (start aead masterKey calls s)) :
    DeksKept service aead masterKey
      (run service turns (start aead masterKey calls s)).store.store := by
  have hstart : Inv service aead masterKey s.store.tables.merchant calls
      (start aead masterKey calls s) :=
    ⟨rfl, hreplica.1, hkept, fun _ _ i => keeps_program (hcarries i)⟩
  have hend : Inv service aead masterKey s.store.tables.merchant calls
      (run service turns (start aead masterKey calls s)) :=
    run_invariant (I := Inv service aead masterKey s.store.tables.merchant calls)
      (fun _ _ hp hgood => inv_step hkeys hp hgood) turns _ hstart hothers
  exact hend.kept

/-! ### A merchant with a DEK -/

/-- A service with the keys it was given. -/
def keyService : KeyService (String → Option Bytes) := KeyStore.mapService base64Decode

theorem keepsKeys_keyService : KeepsKeys keyService where
  create {s s' identifier identifier' id key} hcreate hkey := by
    simp only [keyService, KeyStore.mapService] at hcreate hkey ⊢
    split at hcreate
    · cases hcreate
      exact hkey
    · rename_i hnone
      cases hcreate
      have hne : id ≠ identifier := fun hid => by
        rw [hid, hnone] at hkey
        cases hkey
      rw [Function.update_of_ne hne]
      exact hkey
  transfer {s s' identifier text identifier' id key} htransfer hkey := by
    simp only [keyService, KeyStore.mapService] at htransfer hkey ⊢
    split at htransfer
    · rename_i hnone _
      cases htransfer
      have hne : id ≠ identifier := fun hid => by
        rw [hid, hnone] at hkey
        cases hkey
      rw [Function.update_of_ne hne]
      exact hkey
    · cases htransfer
  transferred {s s' identifier key identifier'} htransfer := by
    simp only [keyService, KeyStore.mapService, base64Decode_encode] at htransfer ⊢
    split at htransfer
    · rename_i hkey
      cases htransfer
      rw [Function.update_self, ← Option.some.inj hkey]
    · cases htransfer

/-- Ciphertexts are the nonce and the plaintext. -/
def clearAead : Aead :=
  { openWithin := fun _ _ input => some input, sealInPlace := fun _ _ input => some input
    nonce := some (List.replicate nonceLen 0) }

/-- The row of a merchant whose DEK is `[7]`. -/
def legacyMerchant : MerchantInner :=
  { id := 1, merchantId := "merchant", encKey := List.replicate nonceLen 0 ++ [7]
    createdAt := ⟨0⟩ }

/-- One legacy merchant, no entities, and no outage yet. -/
def legacyStore : FaultyStore (String → Option Bytes) :=
  let tables : KeyTables := ⟨⟨[legacyMerchant], 2, List.pairwise_singleton _ _⟩, Table.empty⟩
  { store := { KeyStore.emptyKeyStore fun _ => none with tables, replica := tables }
    delivery := fun _ => .answered }

/-- The tenant's master key. -/
def legacyMasterKey : Bytes := List.replicate 32 1

/-- An add and a migration. -/
def addAndMigrate : Fin 2 → KeyCall
  | 0 => .findOrCreateEntity "fresh" "merchant"
  | 1 => .transferKeys 10 (fun _ => "moved") []

/-- The migration comes first. -/
def migrateFirst : List (Turn (Fin 2) KeyWeather) :=
  List.replicate 6 (.thread 1) ++ List.replicate 8 (.thread 0)

/-- The add comes first, and the migration then finds nothing to migrate. -/
def addFirst : List (Turn (Fin 2) KeyWeather) :=
  List.replicate 8 (.thread 0) ++ List.replicate 6 (.thread 1)

/-- The DEK is kept when the migration comes first. -/
theorem deks_kept_migrateFirst :
    DeksKept keyService clearAead legacyMasterKey
      (run keyService migrateFirst
        (start clearAead legacyMasterKey addAndMigrate legacyStore)).store.store :=
  deks_kept keyService keepsKeys_keyService clearAead legacyMasterKey addAndMigrate legacyStore
    (fun | 0 => trivial | 1 => trivial) ⟨fun _ h => h, fun _ h => h⟩
    (fun _ _ hentity => nomatch hentity) migrateFirst (by decide +kernel)

/-- An add that comes first gives the merchant's entity a fresh key, and the
    migration leaves it at that. -/
theorem dek_stranded :
    ¬ ∀ (service : KeyService (String → Option Bytes)), KeepsKeys service →
      ∀ (aead : Aead) (masterKey : Bytes) (calls : Fin 2 → KeyCall)
        (s : FaultyStore (String → Option Bytes)),
        (∀ i, (calls i).CarriesDek aead masterKey s.store.tables) →
        s.store.replica.Earlier s.store.tables → DeksKept service aead masterKey s.store →
        ∀ turns, DeksKept service aead masterKey
          (run service turns (start aead masterKey calls s)).store.store := by
  intro h
  have hkept := h keyService keepsKeys_keyService clearAead legacyMasterKey addAndMigrate
    legacyStore (fun | 0 => trivial | 1 => trivial) ⟨fun _ h => h, fun _ h => h⟩
    (fun _ _ hentity => nomatch hentity) addFirst
  obtain ⟨key, hdek, hkey⟩ := hkept "merchant" ⟨1, "merchant", "fresh", ⟨0⟩⟩ (by decide +kernel)
    legacyMerchant (by decide +kernel)
  have hlegacy : dek clearAead legacyMasterKey legacyMerchant = some [7] := by decide +kernel
  have hfresh : keyService.key (run keyService addFirst
      (start clearAead legacyMasterKey addAndMigrate legacyStore)).store.store.service "fresh" =
    some [0] := by decide +kernel
  rw [hlegacy] at hdek
  rw [hfresh] at hkey
  cases hdek
  cases hkey

end Legacy

end CardVault
