import CardVault.KeyManager.Provider

/-!
# Provisioning one entity at a time

Calls that provision the same entity, interleaved step by step, with the external
key manager answering every request and every read on the primary.

Main results:
* `Provision.keeps_program`: what a call does if the entity row it meets, or
  writes, is `row`.
* `Provision.calls_agree`: as long as no INSERT meets a row, every call ends with
  the one stored row.
* `Provision.calls_race`: two calls whose INSERTs meet do not.
-/

namespace CardVault

open Interaction Relational

namespace Provision

variable {σ ι : Type}

/-! ## Calls -/

/-- A call that provisions the entity, with the nano id of its request body. -/
inductive ProvisionCall where
  | findOrCreateEntity (nanoId : String)
  | createEntity (nanoId : String)
  /-- `POST /entity` -/
  | route (nanoId : String)
  deriving DecidableEq, Repr

/-- What a call answers when it succeeds. -/
inductive Provisioned where
  | manager (entity : Entity)
  | created (created : CreatedEntity)
  deriving DecidableEq, Repr

/-- The answer carries the key id and the time of the row, as far as it carries
    them at all. -/
def Provisioned.RefersTo (row : Entity) : Provisioned → Prop
  | .manager entity => entity = row
  | .created answer => answer.entityId = row.entityId ∧ answer.createdAt = row.createdAt

/-- The program of a call. -/
def ProvisionCall.program (entityId : String) :
    ProvisionCall → KeyApp (Except ApiError Provisioned)
  | .findOrCreateEntity nanoId =>
    (CardVault.findOrCreateEntity nanoId entityId).mapResult (Except.map .manager)
  | .createEntity nanoId =>
    (CardVault.createEntity nanoId entityId).mapResult (Except.map .created)
  | .route nanoId => (createEntityRoute nanoId ⟨entityId⟩).mapResult (Except.map .created)

/-- `POST /entity` got past its validation. -/
def ProvisionCall.Accepted (entityId : String) : ProvisionCall → Prop
  | .route _ => (CreateEntityRequest.mk entityId).validate = .ok ()
  | _ => True

/-! ## One call -/

/-- The commands of a call, as far as they concern the entity. -/
def Issued (row : Entity) : KeyCmd → Prop
  | .selectEntity pool _ => pool = .primary
  | .insertEntity new => new.entityId = row.entityId
  | .cacheEntity entityId value => entityId = row.entityId → value = row
  | _ => True

/-- The answers to a call, when `row` is the row that is or will be stored. -/
def Answered (row : Entity) : (c : KeyCmd) → KeyReply c → Prop
  | .routeConn, reply => reply = Except.ok DbPool.primary
  | .getConn, reply => reply = Except.ok DbPool.primary
  | .lookupEntity entityId, reply => entityId = row.entityId → reply = none ∨ reply = some row
  | .selectEntity _ entityId, reply =>
    entityId = row.entityId → reply = Except.error DieselError.notFound ∨ reply = Except.ok row
  | .insertEntity new, reply => new.entityId = row.entityId → reply = Except.ok row
  | .createKey _, reply => ∃ identifier : String, reply = Except.ok identifier
  | _, _ => True

/-- A program of the call under these commands and answers. -/
abbrev Keeps {α : Type} (row : Entity) (p : KeyApp α) (Q : α → Prop) : Prop :=
  p.Meets (Issued row) (Answered row) Q

variable {row : Entity}

theorem keeps_insertEntity (identifier : String) :
    Keeps row (Caching.insertEntity row.entityId identifier) fun reply => reply = .ok row := by
  have hconn : Keeps row (changeError StorageError.toEntityDBError keyGetConn)
      fun reply => reply = .ok .primary := by
    refine Prog.Meets.mapResult ⟨trivial, fun r hr => ?_⟩
    change r = _ at hr
    subst hr
    rfl
  have hinsert : Keeps row (CardVault.insertEntity row.entityId identifier)
      fun reply => reply = .ok row := by
    refine hconn.andThen (fun e he => nomatch he) fun pool _ =>
      Prog.Meets.mapResult ⟨rfl, fun r hr => ?_⟩
    have hreply : r = Except.ok row := hr rfl
    subst hreply
    rfl
  refine hinsert.andThen (fun e he => nomatch he) fun output houtput => ?_
  cases houtput
  exact Prog.Meets.mapResult ⟨fun _ => rfl, fun _ _ => rfl⟩

theorem keeps_findByEntityId :
    Keeps row (Caching.findByEntityId row.entityId)
      fun reply => reply = .error .notFoundError ∨ reply = .ok row := by
  have hconn : Keeps row (changeError StorageError.toEntityDBError keyRouteConn)
      fun reply => reply = .ok .primary := by
    refine Prog.Meets.mapResult ⟨trivial, fun r hr => ?_⟩
    change r = _ at hr
    subst hr
    rfl
  have hfind : Keeps row (CardVault.findByEntityId row.entityId)
      fun reply => reply = .error .notFoundError ∨ reply = .ok row := by
    refine hconn.andThen (fun e he => nomatch he) fun pool hpool => ?_
    cases hpool
    refine Prog.Meets.mapResult ⟨rfl, fun r hr => ?_⟩
    rcases hr rfl with hreply | hreply
    · exact Or.inl (by rw [hreply]; rfl)
    · exact Or.inr (by rw [hreply]; rfl)
  refine Prog.Meets.bind (Q := fun found : Option Entity => found = none ∨ found = some row)
    ⟨trivial, fun r hr => hr rfl⟩ fun found hfound => ?_
  rcases hfound with rfl | rfl
  · refine hfind.andThen (fun e he => ?_) fun output houtput => ?_
    · rcases he with he | he
      · cases he
        exact Or.inl rfl
      · cases he
    · rcases houtput with houtput | houtput
      · cases houtput
      · cases houtput
        exact Prog.Meets.mapResult ⟨fun _ => rfl, fun _ _ => Or.inr rfl⟩
  · exact Or.inr rfl

theorem keeps_findOrCreateEntity (nanoId : String) :
    Keeps row (findOrCreateEntity nanoId row.entityId) fun reply => reply = .ok row := by
  refine keeps_findByEntityId.bind fun reply hreply => ?_
  rcases hreply with rfl | rfl
  · dsimp only
    rw [if_pos rfl]
    refine Prog.Meets.andThen (Q := fun reply => ∃ identifier, reply = .ok identifier)
      (Prog.Meets.mapResult ⟨trivial, fun r hr => ?_⟩) (fun e he => ?_) fun identifier _ => ?_
    · obtain ⟨identifier, hreply⟩ := hr
      subst hreply
      exact ⟨identifier, rfl⟩
    · obtain ⟨_, he⟩ := he
      cases he
    · refine Prog.Meets.mapResult ((keeps_insertEntity identifier).mono fun reply hreply => ?_)
      rw [hreply]
      rfl
  · rfl

theorem keeps_createEntity (nanoId : String) :
    Keeps row (createEntity nanoId row.entityId)
      fun reply => reply = .ok { entityId := row.entityId, createdAt := row.createdAt } := by
  refine (keeps_findOrCreateEntity nanoId).andThen (fun e he => nomatch he) fun entity hentity => ?_
  cases hentity
  rfl

/-- A call ends with the row that it meets or writes. -/
theorem keeps_program {call : ProvisionCall} (h : call.Accepted row.entityId) :
    Keeps row (call.program row.entityId) fun reply => ∃ r, reply = .ok r ∧ r.RefersTo row := by
  cases call with
  | findOrCreateEntity nanoId =>
    refine Prog.Meets.mapResult ((keeps_findOrCreateEntity nanoId).mono fun reply hreply => ?_)
    subst hreply
    exact ⟨_, rfl, rfl⟩
  | createEntity nanoId =>
    refine Prog.Meets.mapResult ((keeps_createEntity nanoId).mono fun reply hreply => ?_)
    subst hreply
    exact ⟨_, rfl, rfl, rfl⟩
  | route nanoId =>
    have haccepted : (CreateEntityRequest.mk row.entityId).validate = .ok () := h
    have hroute : createEntityRoute nanoId ⟨row.entityId⟩ = createEntity nanoId row.entityId := by
      unfold createEntityRoute
      rw [haccepted]
      rfl
    refine Prog.Meets.mapResult ?_
    rw [hroute]
    refine (keeps_createEntity nanoId).mono fun reply hreply => ?_
    subst hreply
    exact ⟨_, rfl, rfl, rfl⟩

/-! ## Length of a call -/

theorem within_findByEntityId (entityId : String) :
    (Caching.findByEntityId entityId).Within 4 := by
  have hfind : (CardVault.findByEntityId entityId).Within 2 :=
    Prog.Within.andThen (m := 1) (n := 1) (Prog.Within.mapResult (Prog.within_perform _) _) fun _ =>
      Prog.Within.mapResult (Prog.within_perform _) _
  refine Prog.Within.bind (m := 1) (n := 3) (Prog.within_perform _) fun found => ?_
  cases found with
  | some value => exact Prog.within_pure 3 _
  | none =>
    exact Prog.Within.andThen (m := 2) (n := 1) hfind fun _ =>
      Prog.Within.mapResult (Prog.within_perform _) _

theorem within_insertEntity (entityId identifier : String) :
    (Caching.insertEntity entityId identifier).Within 3 :=
  Prog.Within.andThen (m := 2) (n := 1)
    (Prog.Within.andThen (m := 1) (n := 1) (Prog.Within.mapResult (Prog.within_perform _) _)
      fun _ => Prog.Within.mapResult (Prog.within_perform _) _)
    fun _ => Prog.Within.mapResult (Prog.within_perform _) _

theorem within_findOrCreateEntity (nanoId entityId : String) :
    (findOrCreateEntity nanoId entityId).Within 8 := by
  refine Prog.Within.bind (m := 4) (n := 4) (within_findByEntityId entityId) fun reply => ?_
  cases reply with
  | ok entity => exact Prog.within_pure 4 _
  | error innerErr =>
    dsimp only
    split_ifs
    · exact Prog.Within.andThen (m := 1) (n := 3) (Prog.Within.mapResult (Prog.within_perform _) _)
        fun identifier => Prog.Within.mapResult (within_insertEntity entityId identifier) _
    · exact Prog.within_pure 4 _

/-- A call takes at most 8 steps. -/
theorem within_program (entityId : String) (call : ProvisionCall) :
    (call.program entityId).Within 8 := by
  have hcreate : ∀ nanoId, (createEntity nanoId entityId).Within 8 := fun nanoId =>
    Prog.Within.andThen (m := 8) (n := 0) (within_findOrCreateEntity nanoId entityId) fun _ =>
      Prog.within_pure 0 _
  cases call with
  | findOrCreateEntity nanoId => exact (within_findOrCreateEntity nanoId entityId).mapResult _
  | createEntity nanoId => exact (hcreate nanoId).mapResult _
  | route nanoId =>
    refine Prog.Within.mapResult ?_ _
    exact Prog.Within.andThen (m := 0) (n := 8) (Prog.within_pure 0 _) fun _ => hcreate nanoId

/-! ## Calls side by side -/

/-- The calls in flight over the shared state. -/
abbrev ProvisionPool (σ ι : Type) : Type :=
  Pool (KeyStore σ) ι KeyCmd KeyReply (Except ApiError Provisioned)

/-- No call has taken a step. -/
def start (s : KeyStore σ) (entityId : String) (calls : ι → ProvisionCall) : ProvisionPool σ ι :=
  { store := s, threads := fun i => (calls i).program entityId, history := [] }

variable [DecidableEq ι]

/-- One turn: a call takes its next step, or the surroundings do. -/
abbrev turn (service : KeyService σ) (p : ProvisionPool σ ι) (t : Turn ι KeyStore.EnvStep) :
    ProvisionPool σ ι := p.step (KeyStore.exec service) KeyStore.envStep t

/-- The pool after a list of turns. -/
def run (service : KeyService σ) (turns : List (Turn ι KeyStore.EnvStep))
    (p : ProvisionPool σ ι) : ProvisionPool σ ι := runActs (turn service) turns p

/-- An INSERT meets no row, and its values fit. -/
def meetsNoRow (s : KeyStore σ) : KeyCmd → Bool
  | .insertEntity new => (s.tables.entityRow new.entityId).isNone && new.fits
  | _ => true

/-- If the turn is an INSERT, it meets no row. -/
def InsertsOnce (p : ProvisionPool σ ι) : Turn ι KeyStore.EnvStep → Prop
  | .env _ => True
  | .thread i => (p.nextCommand i).all (meetsNoRow p.store) = true

instance (p : ProvisionPool σ ι) : ∀ t : Turn ι KeyStore.EnvStep, Decidable (InsertsOnce p t)
  | .env _ => isTrue trivial
  | .thread _ => inferInstanceAs (Decidable (_ = true))

/-- `row` is the stored row, or there is none yet. -/
def Agrees (s : KeyStore σ) (row : Entity) : Prop :=
  ∀ stored, s.tables.entityRow row.entityId = some stored → stored = row

/-- What holds of every row that agrees with the store, and of one row at most,
    holds of the stored row. -/
theorem exists_stored {s : KeyStore σ} {entityId : String} {P : Entity → Prop}
    (h : ∀ row, row.entityId = entityId → Agrees s row → P row)
    (hone : ∀ a b, P a → P b → a.createdAt = b.createdAt) :
    ∃ row, s.tables.entityRow entityId = some row ∧ P row := by
  cases hrow : s.tables.entityRow entityId with
  | some row =>
    have hkey := KeyStore.entityRow_key hrow
    refine ⟨row, rfl, h row hkey fun stored hstored => ?_⟩
    rw [hkey, hrow] at hstored
    exact (Option.some.inj hstored).symm
  | none =>
    have hany : ∀ t : PrimitiveDateTime, P ⟨0, entityId, "", t⟩ := fun t =>
      h _ rfl fun stored hstored => by
        rw [hrow] at hstored
        cases hstored
    have htime := hone _ _ (hany ⟨0⟩) (hany ⟨1⟩)
    cases htime

/-- What holds between the turns: cached rows are stored, and every call is on
    its way to the row that agrees with the store. -/
structure Inv (entityId : String) (p : ProvisionPool σ ι) : Prop where
  routed : p.store.routedPool = .primary
  cached : ∀ value, p.store.entityCache entityId = some value →
    p.store.tables.entityRow entityId = some value
  keeps : ∀ row, row.entityId = entityId → Agrees p.store row → ∀ i,
    Keeps row (p.threads i) fun reply => ∃ r, reply = .ok r ∧ r.RefersTo row

variable {service : KeyService σ} {entityId : String} {p : ProvisionPool σ ι}

omit [DecidableEq ι] in
/-- The store's answer to a call is as expected of every row that agrees with the
    store afterwards. -/
theorem answered_exec (h : Inv entityId p)
    (hservice : ∀ s identifier, (service.create s identifier).isSome)
    {c : KeyCmd} (hinsert : ∀ new, c = .insertEntity new →
      p.store.tables.entityRow new.entityId = none ∧ new.fits = true)
    (hrow : row.entityId = entityId) (hissued : Issued row c)
    (hagrees : Agrees (p.store.exec service c).2 row) :
    Answered row c (p.store.exec service c).1 := by
  have hbefore : Agrees p.store row := fun stored hstored =>
    hagrees stored (KeyStore.entityRow_exec hstored c)
  cases c with
  | routeConn => exact congrArg Except.ok h.routed
  | getConn => rfl
  | lookupEntity id =>
    intro hid
    change p.store.entityCache id = none ∨ p.store.entityCache id = some row
    cases hcache : p.store.entityCache id with
    | none => exact Or.inl rfl
    | some value =>
      rw [hid, hrow] at hcache
      have hvalue := hbefore value (hrow ▸ h.cached value hcache)
      exact Or.inr (congrArg some hvalue)
  | selectEntity pool id =>
    intro hid
    have hpool : pool = .primary := hissued
    subst hpool
    change oneRow (p.store.tables.entityRow id) = _ ∨ oneRow (p.store.tables.entityRow id) = _
    cases hstored : p.store.tables.entityRow id with
    | none => exact Or.inl rfl
    | some stored => exact Or.inr (congrArg Except.ok (hbefore stored (hid ▸ hstored)))
  | insertEntity new =>
    intro hid
    obtain ⟨hnone, hfits⟩ := hinsert new rfl
    obtain ⟨stored, hreply, hstored, _⟩ :=
      @KeyStore.exec_insertEntity _ service _ _ hfits hnone
    rw [hid] at hstored
    rw [hreply, hagrees stored hstored]
  | createKey identifier =>
    obtain ⟨⟨identifier', service'⟩, hcreate⟩ :=
      Option.isSome_iff_exists.1 (hservice p.store.service identifier)
    refine ⟨identifier', ?_⟩
    simp only [KeyStore.exec, hcreate]
    rfl
  | selectMerchant => trivial
  | insertMerchant => trivial
  | selectMerchantsExcludingEntities => trivial
  | transferKey => trivial
  | lookupMerchant => trivial
  | cacheMerchant => trivial
  | cacheEntity => trivial

theorem inv_step (h : Inv entityId p)
    (hservice : ∀ s identifier, (service.create s identifier).isSome)
    {t : Turn ι KeyStore.EnvStep} (honce : InsertsOnce p t) : Inv entityId (turn service p t) := by
  cases t with
  | env e =>
    refine ⟨(KeyStore.routedPool_envStep e).trans h.routed, fun value hvalue => ?_,
      fun row hrow hagrees => h.keeps row hrow fun stored hstored =>
        hagrees stored (KeyStore.entityRow_envStep hstored e)⟩
    exact KeyStore.entityRow_envStep (h.cached value (KeyStore.entityCache_envStep hvalue)) e
  | thread i =>
    cases hi : p.threads i with
    | pure a =>
      have hstep : turn service p (.thread i) = p := Pool.step_ended hi
      rw [hstep]
      exact h
    | call c k =>
      have hstep : turn service p (.thread i) = _ := Pool.step_thread hi
      have hnext : p.nextCommand i = some c := by simp only [Pool.nextCommand, hi]
      have hinsert : ∀ new, c = .insertEntity new →
          p.store.tables.entityRow new.entityId = none ∧ new.fits = true := by
        intro new hc
        have hmeets : (p.nextCommand i).all (meetsNoRow p.store) = true := honce
        rw [hnext, hc] at hmeets
        simpa [meetsNoRow] using hmeets
      have hissued : ∀ row, row.entityId = entityId → Agrees p.store row → Issued row c :=
        fun row hrow hagrees => Pool.meets_nextCommand (h.keeps row hrow hagrees i) hnext
      have hstore : (turn service p (.thread i)).store = (p.store.exec service c).2 := by
        rw [hstep]
      refine ⟨?_, ?_, ?_⟩
      · rw [hstore, KeyStore.routedPool_exec]
        exact h.routed
      · rw [hstore]
        intro value hvalue
        refine KeyStore.entityRow_exec ?_ c
        by_cases hcache : ∃ v, c = .cacheEntity entityId v
        · obtain ⟨v, rfl⟩ := hcache
          -- a call only caches the stored row
          obtain ⟨stored, hstored, hv⟩ := exists_stored
            (fun row hrow hagrees => hissued row hrow hagrees hrow.symm)
            fun a b ha hb => congrArg Entity.createdAt (ha.symm.trans hb)
          have hself := (Function.update_self ..).symm.trans hvalue
          cases hself
          rw [hstored, hv]
        · refine h.cached value ?_
          rw [← hvalue]
          by_cases hother : ∃ id v, c = .cacheEntity id v
          · obtain ⟨id, v, rfl⟩ := hother
            have hid : entityId ≠ id := fun hid => hcache ⟨v, by rw [hid]⟩
            exact (Function.update_of_ne hid ..).symm
          · have hkeep : (p.store.exec service c).2.entityCache = p.store.entityCache :=
              KeyStore.entityCache_exec c fun id v hc => hother ⟨id, v, hc⟩
            rw [hkeep]
      · intro row hrow hagrees
        rw [hstore] at hagrees
        have hbefore : Agrees p.store row := fun stored hstored =>
          hagrees stored (KeyStore.entityRow_exec hstored c)
        refine Pool.meets_step (h.keeps row hrow hbefore) (.thread i) fun j c' hj hc' => ?_
        cases hj
        rw [hnext] at hc'
        cases hc'
        exact answered_exec h hservice hinsert hrow (hissued row hrow hbefore) hagrees

omit [DecidableEq ι] in
theorem inv_start {s : KeyStore σ} {calls : ι → ProvisionCall}
    (haccepted : ∀ i, (calls i).Accepted entityId) (hrouted : s.routedPool = .primary)
    (hcached : ∀ value, s.entityCache entityId = some value →
      s.tables.entityRow entityId = some value) : Inv entityId (start s entityId calls) where
  routed := hrouted
  cached := hcached
  keeps row hrow _ i := by
    subst hrow
    exact keeps_program (haccepted i)

/-- As long as no INSERT meets a row or breaks a column limit, every call ends
    after at most 8 steps, successfully, with the one stored row. -/
theorem calls_agree (service : KeyService σ)
    (hservice : ∀ s identifier, (service.create s identifier).isSome) (entityId : String)
    (calls : ι → ProvisionCall) (haccepted : ∀ i, (calls i).Accepted entityId) (s : KeyStore σ)
    (hrouted : s.routedPool = .primary)
    (hcached : ∀ value, s.entityCache entityId = some value →
      s.tables.entityRow entityId = some value)
    (turns : List (Turn ι KeyStore.EnvStep))
    (honce : Good (turn service) InsertsOnce turns (start s entityId calls)) :
    (∀ i, 8 ≤ Turn.countThread i turns →
      ∃ a, (run service turns (start s entityId calls)).threads i = .pure a) ∧
    ∀ i a, (run service turns (start s entityId calls)).threads i = .pure a →
      ∃ row r, (run service turns (start s entityId calls)).store.tables.entityRow entityId =
        some row ∧ a = .ok r ∧ r.RefersTo row := by
  constructor
  · exact fun i => Pool.ended_of_turns turns (within_program entityId (calls i))
  · intro i a ha
    have hinv : Inv entityId (run service turns (start s entityId calls)) :=
      run_invariant (I := Inv entityId) (fun _ _ hp hgood => inv_step hp hservice hgood) turns _
        (inv_start haccepted hrouted hcached) honce
    obtain ⟨row, hrow, r, rfl, hr⟩ := exists_stored
      (P := fun row => ∃ r, a = .ok r ∧ r.RefersTo row)
      (fun row hrow hagrees => by
        have hend := hinv.keeps row hrow hagrees i
        rwa [ha] at hend)
      fun row₁ row₂ h₁ h₂ => by
        obtain ⟨r, hr, href₁⟩ := h₁
        obtain ⟨r', hr', href₂⟩ := h₂
        rw [hr] at hr'
        cases hr'
        cases r with
        | manager entity => exact congrArg Entity.createdAt (href₁.symm.trans href₂)
        | created answer => exact href₁.2.symm.trans href₂.2
    exact ⟨row, r, hrow, rfl, hr⟩

/-! ### Two calls -/

/-- Two calls of different kinds. -/
def twoCalls : Fin 2 → ProvisionCall
  | 0 => .findOrCreateEntity "a"
  | 1 => .createEntity "b"

/-- One call after the other. -/
def oneByOne : List (Turn (Fin 2) KeyStore.EnvStep) :=
  List.replicate 8 (.thread 0) ++ List.replicate 8 (.thread 1)

/-- Both calls look for the entity before either has inserted it. -/
def sideBySide : List (Turn (Fin 2) KeyStore.EnvStep) :=
  List.replicate 5 (.thread 0) ++ List.replicate 5 (.thread 1) ++ List.replicate 3 (.thread 0) ++
    List.replicate 3 (.thread 1)

/-- One call after the other, on an empty store. -/
def twoCallsPool : ProvisionPool (String → Option Bytes) (Fin 2) :=
  start (KeyStore.emptyKeyStore fun _ => none) "merchant" twoCalls

/-- The calls agree when one comes after the other. -/
theorem calls_agree_one_by_one :
    ∃ row r, (run (KeyStore.mapService fun _ => none) oneByOne twoCallsPool).store.tables.entityRow
      "merchant" = some row ∧
      (Except.ok (.created ⟨"merchant", ⟨0⟩⟩) : Except ApiError Provisioned) = .ok r ∧
      r.RefersTo row :=
  (calls_agree (KeyStore.mapService fun _ => none)
    (KeyStore.mapService_create_isSome _)
    "merchant" twoCalls (fun | 0 => trivial | 1 => trivial)
    (KeyStore.emptyKeyStore fun _ => none) rfl (fun _ h => nomatch h) oneByOne
    (by decide +kernel)).2 1 (.ok (.created ⟨"merchant", ⟨0⟩⟩))
    (Prog.eq_pure_of_result (by decide +kernel))

/-- Side by side, the later INSERT fails, and so does its call. -/
theorem calls_race :
    ¬ ∀ (service : KeyService (String → Option Bytes)),
      (∀ s identifier, (service.create s identifier).isSome) →
      ∀ (entityId : String) (calls : Fin 2 → ProvisionCall),
      (∀ i, (calls i).Accepted entityId) → ∀ (s : KeyStore (String → Option Bytes)),
      s.routedPool = .primary →
      (∀ value, s.entityCache entityId = some value →
        s.tables.entityRow entityId = some value) →
      ∀ turns i a, (run service turns (start s entityId calls)).threads i = .pure a →
        ∃ r, a = .ok r := by
  intro h
  obtain ⟨r, hr⟩ := h (KeyStore.mapService fun _ => none)
    (KeyStore.mapService_create_isSome _)
    "merchant" twoCalls (fun | 0 => trivial | 1 => trivial)
    (KeyStore.emptyKeyStore fun _ => none) rfl (fun _ h => nomatch h) sideBySide 1
    (.error (.databaseInsertFailed "entity")) (Prog.eq_pure_of_result (by decide +kernel))
  cases hr

end Provision

end CardVault
