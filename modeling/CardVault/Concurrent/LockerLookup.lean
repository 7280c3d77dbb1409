import CardVault.Concurrent.Writes
import CardVault.System

/-!
# A live locker keeps its lookup record

Inserts and deletes of lockers of one customer, interleaved command by command. A
delete removes the lookup record of the row it has read, late, and without looking
at whom the record belongs to by then. Where it always finds its own, a locker that
nobody has begun to delete is found by its hash.

Main results:

* `LockerCall.follows`: what an insert and a delete write.
* `LookupInv.step`: what Redis holds of the lockers that nobody deletes.
* `lookup_kept`: the runs in which no live locker loses its lookup.
* `lookup_lost`: a run in which one does.
-/

namespace CardVault

open Interaction

/-! ## The calls -/

/-- A call on the lockers of one customer. -/
inductive LockerCall where
  | insert (new : LockerNew)
  | delete (lockerId : String)
  deriving DecidableEq

@[simp] theorem LockerNew.lookup_partitionKey (new : LockerNew) :
    new.lookup.toReverseLookup.partitionKey = new.primaryKey.getPartitionKey.display := rfl

namespace LockerCall

variable (ctx : KvStoreContext) (merchantId customerId : String)

/-- The call's program; only whether it succeeds is kept. -/
def app : LockerCall → App (Except VaultDBError Unit)
  | .insert new => (insertLocker ctx new).mapResult (Except.map fun _ => ())
  | .delete lockerId =>
    (CardVault.deleteLocker ctx lockerId merchantId customerId).mapResult (Except.map fun _ => ())

/-- The writes of a lookup record. -/
def lookupWrites (new : LockerNew) : List Cmd :=
  setNxAndQueue ctx new.lookupKey (.reverseLookup new.lookup.toReverseLookup) new.lookupQuery

/-- The writes of a locker. -/
def rowWrites (new : LockerNew) : List Cmd :=
  setNxAndQueue ctx new.primaryKey.getPartitionKey (.locker new.redisRow) new.lockerQuery

/-- The writes that take a locker away. -/
def rowRemoval (pk : LockerPrimaryKeyType) : List Cmd :=
  deleteAndQueue ctx pk.getPartitionKey ⟨.deleteLocker pk, Resource.locker.entityType, .delete⟩

/-- The writes that take a lookup record away. -/
def lookupRemoval (lookupId : String) : List Cmd :=
  deleteAndQueue ctx (.reverseLookup lookupId)
    ⟨.deleteReverseLookup lookupId, Resource.reverseLookup.entityType, .delete⟩

/-- What a call writes, in order. A delete that has found no row leaves the
    lookup records alone. -/
def plan : LockerCall → List Cmd → Prop
  | .insert new, writes => writes = lookupWrites ctx new ++ rowWrites ctx new
  | .delete lockerId, writes =>
    let removal := rowRemoval ctx { lockerId, merchantId, customerId }
    writes = removal ∨ ∃ lookupId, writes = removal ++ lookupRemoval ctx lookupId

variable {ctx merchantId customerId}

theorem follows_insert (new : LockerNew) :
    Writes .enabled (plan ctx merchantId customerId (.insert new))
      (app ctx merchantId customerId (.insert new))
      (Completes (plan ctx merchantId customerId (.insert new))) [] := by
  have herr : ∀ (e : VaultDBError) (done : List Cmd), Completes
      (plan ctx merchantId customerId (.insert new)) (Except.map (fun _ => ())
        (Except.map LockerInner.toLocker (.error e))) done := fun _ _ _ h => nomatch h
  have hplan : plan ctx merchantId customerId (.insert new)
      (lookupWrites ctx new ++ rowWrites ctx new) := rfl
  refine Prog.Follows.mapResult (Prog.Follows.mapResult
    (writes_insertResourceInner Locker.spec herr (fun hmode => ?_) fun hno => absurd rfl hno))
  refine Prog.Follows.mapResult (Prog.Follows.mapResult (writes_insertResourceInner
    ReverseLookup.spec (fun e done h => nomatch h) (fun _ => ?_) fun hno => absurd rfl hno))
  intro _ _
  refine ⟨rowWrites ctx new, hplan, fun _ => ⟨[], ?_, fun _ _ => hplan⟩⟩
  rw [List.append_nil]
  exact hplan

theorem follows_delete (lockerId : String) :
    Writes .enabled (plan ctx merchantId customerId (.delete lockerId))
      (app ctx merchantId customerId (.delete lockerId))
      (Completes (plan ctx merchantId customerId (.delete lockerId))) [] := by
  have herr : ∀ (e : VaultDBError) (done : List Cmd), Completes
      (plan ctx merchantId customerId (.delete lockerId)) (Except.map (fun _ => ())
        (.error e : Except VaultDBError ℕ)) done := fun _ _ _ h => nomatch h
  refine Prog.Follows.mapResult (Prog.Follows.andThen (Prog.Issues.quietly
    (Prog.Issues.mapResult (reads_findResourceById ctx reads_findLocker _)) fun found => ?_))
  cases found with
  | error e => exact herr e _
  | ok found =>
    have hrow : plan ctx merchantId customerId (.delete lockerId)
        (rowRemoval ctx { lockerId, merchantId, customerId }) := Or.inl rfl
    have hboth : ∀ lookupId, plan ctx merchantId customerId (.delete lockerId)
        (rowRemoval ctx { lockerId, merchantId, customerId } ++ lookupRemoval ctx lookupId) :=
      fun lookupId => Or.inr ⟨lookupId, rfl⟩
    refine Prog.Follows.andThen ?_
    cases found with
    | none =>
      refine writes_deleteResourceByIdInner Locker.deletableSpec [] (fun e _ => herr e _)
        (fun _ => ⟨hrow, fun count _ _ => hrow⟩) fun hno => absurd rfl hno
    | some resource =>
      refine writes_deleteResourceByIdInner Locker.deletableSpec
        (lookupRemoval ctx (Locker.getReverseLookupKeyFromResource resource).lookupId)
        (fun e _ => herr e _) (fun _ => ⟨hboth _, fun count => ?_⟩) fun hno => absurd rfl hno
      refine Prog.Follows.andThen (Prog.Follows.mapResult
        (writes_deleteResourceByIdInner ReverseLookup.deletableSpec []
          (fun e _ => herr _ _) (fun _ => ⟨hboth _, fun count _ _ => hboth _⟩)
          fun hno => absurd rfl hno))

/-- A call writes what its plan says, and all of it if it succeeds. -/
theorem follows (call : LockerCall) :
    Writes .enabled (plan ctx merchantId customerId call) (app ctx merchantId customerId call)
      (Completes (plan ctx merchantId customerId call)) [] := by
  cases call with
  | insert new => exact follows_insert new
  | delete lockerId => exact follows_delete lockerId

/-- An insert takes nothing away. -/
theorem insert_keeps {new : LockerNew} {done rest : List Cmd} {c : Cmd}
    (h : plan ctx merchantId customerId (.insert new) (done ++ c :: rest)) :
    c.isHset = false ∧ ∀ key field, c ≠ .deleteHashFields key field := by
  have hmem : c ∈ lookupWrites ctx new ++ rowWrites ctx new := by
    rw [← show done ++ c :: rest = _ from h]
    simp
  simp only [lookupWrites, rowWrites, setNxAndQueue, List.cons_append, List.nil_append,
    List.mem_cons, List.not_mem_nil, or_false] at hmem
  rcases hmem with rfl | rfl | rfl | rfl <;> exact ⟨rfl, fun _ _ h => by cases h⟩

/-- A delete takes away its locker, or a lookup record, or queues an entry. -/
theorem delete_writes {lockerId : String} {done rest : List Cmd} {c : Cmd}
    (h : plan ctx merchantId customerId (.delete lockerId) (done ++ c :: rest)) :
    c.isAppend = true ∨
      c = .deleteHashFields (PartitionKey.locker merchantId customerId lockerId).display
        (PartitionKey.locker merchantId customerId lockerId).display ∨
      ∃ lookupId, c = .deleteHashFields (PartitionKey.reverseLookup lookupId).display
        (PartitionKey.reverseLookup lookupId).display := by
  have hmem : ∃ lookupId, c ∈ rowRemoval ctx { lockerId, merchantId, customerId } ++
      lookupRemoval ctx lookupId := by
    have hc : c ∈ done ++ c :: rest := by simp
    rcases h with h | ⟨lookupId, h⟩
    · exact ⟨"", List.mem_append_left _ (h ▸ hc)⟩
    · exact ⟨lookupId, h ▸ hc⟩
  obtain ⟨lookupId, hmem⟩ := hmem
  simp only [rowRemoval, lookupRemoval, deleteAndQueue, List.cons_append, List.nil_append,
    List.mem_cons, List.not_mem_nil, or_false] at hmem
  rcases hmem with rfl | rfl | rfl | rfl
  · exact Or.inr (Or.inl rfl)
  · exact Or.inl rfl
  · exact Or.inr (Or.inr ⟨lookupId, rfl⟩)
  · exact Or.inl rfl

theorem obeys (call : LockerCall) :
    Obeys ctx (app ctx merchantId customerId call) fun _ => True := by
  cases call with
  | insert new => exact Obeys.discard (obeys_insertLocker ctx new)
  | delete lockerId => exact Obeys.discard (obeys_deleteLocker ctx lockerId _ _)

end LockerCall

/-! ## Pools of calls -/

section Pool

variable {ι : Type} [DecidableEq ι] (ctx : KvStoreContext) (merchantId customerId : String)
  (calls : ι → LockerCall)

/-- Calls on the lockers of one customer over a shared store. -/
abbrev LockerPool (ι : Type) : Type := Interaction.Pool Store ι Cmd Reply (Except VaultDBError Unit)

/-- No call has begun. -/
def LockerPool.start (s : Store) : LockerPool ι :=
  ⟨s, fun i => (calls i).app ctx merchantId customerId, []⟩

/-- A turn of the drainer on a stream is a step of the environment. -/
def drainTurn : Turn ι String → Turn ι EnvStep
  | .thread i => .thread i
  | .env stream => .env (.drain stream)

/-- One turn: a call's next command, or the drainer's replay of an entry. -/
abbrev LockerPool.next (p : LockerPool ι) (turn : Turn ι String) : LockerPool ι :=
  Interaction.Pool.step Store.exec (Store.envStep ctx) p (drainTurn turn)

/-- A delete that names the locker has begun. -/
def Named (p : LockerPool ι) (lockerId : String) : Prop :=
  ∃ e ∈ p.history, calls e.1 = .delete lockerId

instance (p : LockerPool ι) (lockerId : String) : Decidable (Named calls p lockerId) :=
  inferInstanceAs (Decidable (∃ e ∈ p.history, calls e.1 = .delete lockerId))

/-- The command does not take away a lookup record that points to a locker other
    than `pk`. -/
def ownsLookup (pk : LockerPrimaryKeyType) (s : Store) : Cmd → Bool
  | .deleteHashFields key field =>
    match s.redis key field with
    | some (.reverseLookup lookup) => lookup.partitionKey == pk.getPartitionKey.display
    | _ => true
  | _ => true

/-- The same, of a call's command. -/
def LockerCall.ownsLookup (s : Store) (c : Cmd) : LockerCall → Bool
  | .insert _ => true
  | .delete lockerId => CardVault.ownsLookup { lockerId, merchantId, customerId } s c

/-- A delete takes away no lookup record but its own locker's. -/
def OwnLookups (p : LockerPool ι) : Turn ι String → Prop
  | .env _ => True
  | .thread i => ∀ c ∈ p.nextCommand i,
    (calls i).ownsLookup merchantId customerId p.store c = true

instance (p : LockerPool ι) : (turn : Turn ι String) →
    Decidable (OwnLookups merchantId customerId calls p turn)
  | .env _ => isTrue trivial
  | .thread _ => inferInstanceAs (Decidable (∀ c ∈ p.nextCommand _, _))

/-- A locker that was inserted, and that no delete names, is found by its hash. -/
def LookupsKept (p : LockerPool ι) : Prop :=
  ∀ i new, calls i = .insert new → p.threads i = .pure (.ok ()) →
    ¬Named calls p new.lockerId →
      ((findOptionalByHashIdMerchantIdCustomerId ctx new.hashId merchantId customerId).run
        Store.exec p.store).1 = .ok (some new.redisRow.toLocker)

/-- What Redis holds of the lockers that no delete names, between any two turns. -/
structure LookupInv (p : LockerPool ι) (done : ι → List Cmd) : Prop where
  running : Running ctx .enabled (fun i => (calls i).plan ctx merchantId customerId)
    (fun i => Completes ((calls i).plan ctx merchantId customerId)) p done
  lookup : ∀ i new, calls i = .insert new → ¬Named calls p new.lockerId →
    hsetnxLookup ctx new ∈ done i →
      p.store.cached new.lookupKey = some (.reverseLookup new.lookup.toReverseLookup)
  row : ∀ i new, calls i = .insert new → ¬Named calls p new.lockerId →
    hsetnxLocker ctx new ∈ done i →
      p.store.cached new.primaryKey.getPartitionKey = some (.locker new.redisRow)

variable {ctx merchantId customerId calls} {p p' : LockerPool ι} {done : ι → List Cmd}
  {lockerId : String}

omit [DecidableEq ι] in
/-- A locker that no delete names now was named by none before. -/
theorem not_named (h : ¬Named calls p' lockerId)
    (hhistory : ∀ e ∈ p.history, e ∈ p'.history) : ¬Named calls p lockerId :=
  fun ⟨e, he, hcall⟩ => h ⟨e, hhistory e he, hcall⟩

/-- An insert writes. -/
theorem LookupInv.insert (h : LookupInv ctx merchantId customerId calls p done) {i : ι} {c : Cmd}
    {rest : List Cmd} {new : LockerNew} (hcall : calls i = .insert new)
    (hplan : (calls i).plan ctx merchantId customerId (done i ++ c :: rest))
    (hloud : c.quiet (p.store.exec c).1 = false)
    (hstore : p'.store = (p.store.exec c).2) (hhistory : p'.history = (i, c) :: p.history)
    (hrunning : Running ctx .enabled (fun i => (calls i).plan ctx merchantId customerId)
      (fun i => Completes ((calls i).plan ctx merchantId customerId)) p'
      (Function.update done i (done i ++ [c]))) :
    LookupInv ctx merchantId customerId calls p' (Function.update done i (done i ++ [c])) := by
  obtain ⟨hset, hdel⟩ := LockerCall.insert_keeps (hcall ▸ hplan)
  have hheld : ∀ j (key : PartitionKey) row,
      (Cmd.setHashFieldIfNotExist key.display key.display row ctx.kvConfig.ttlForKv ∈ done j →
        p.store.cached key = some row) →
      Cmd.setHashFieldIfNotExist key.display key.display row ctx.kvConfig.ttlForKv ∈
        Function.update done i (done i ++ [c]) j → p'.store.cached key = some row := by
    intro j key row hold hmem
    rw [hstore]
    by_cases hj : j = i
    · subst hj
      rw [Function.update_self] at hmem
      rcases List.mem_append.1 hmem with hmem | hmem
      · exact cached_exec (hold hmem) hloud hset (hdel _)
      · obtain rfl := List.mem_singleton.1 hmem
        exact cached_exec_setNx hloud
    · rw [Function.update_of_ne hj] at hmem
      exact cached_exec (hold hmem) hloud hset (hdel _)
  have hold : ∀ e ∈ p.history, e ∈ p'.history := fun e he => by
    rw [hhistory]
    exact List.mem_cons_of_mem _ he
  exact ⟨hrunning,
    fun j new hj hno => hheld j _ _ (h.lookup j new hj (not_named hno hold)),
    fun j new hj hno => hheld j _ _ (h.row j new hj (not_named hno hold))⟩

/-- A delete writes. -/
theorem LookupInv.delete (h : LookupInv ctx merchantId customerId calls p done)
    (hcust : ∀ i new, calls i = .insert new →
      new.merchantId = merchantId ∧ new.customerId = customerId) {i : ι} {c : Cmd}
    {rest : List Cmd} (hcall : calls i = .delete lockerId)
    (hplan : (calls i).plan ctx merchantId customerId (done i ++ c :: rest))
    (hloud : c.quiet (p.store.exec c).1 = false)
    (howns : ownsLookup { lockerId, merchantId, customerId } p.store c = true)
    (hstore : p'.store = (p.store.exec c).2) (hhistory : p'.history = (i, c) :: p.history)
    (hrunning : Running ctx .enabled (fun i => (calls i).plan ctx merchantId customerId)
      (fun i => Completes ((calls i).plan ctx merchantId customerId)) p'
      (Function.update done i (done i ++ [c]))) :
    LookupInv ctx merchantId customerId calls p' (Function.update done i (done i ++ [c])) := by
  have hdone : ∀ j new, calls j = .insert new →
      Function.update done i (done i ++ [c]) j = done j := by
    intro j new hj
    refine Function.update_of_ne (fun he => ?_) _ _
    rw [he, hcall] at hj
    cases hj
  have hold : ∀ e ∈ p.history, e ∈ p'.history := fun e he => by
    rw [hhistory]
    exact List.mem_cons_of_mem _ he
  -- the locker of an insert that counts is not the one deleted
  have hother : ∀ j new, calls j = .insert new → ¬Named calls p' new.lockerId →
      new.primaryKey.getPartitionKey.display ≠
        (LockerPrimaryKeyType.getPartitionKey { lockerId, merchantId, customerId }).display := by
    intro j new hj hno he
    obtain ⟨rfl, rfl⟩ := hcust j new hj
    obtain rfl : new.lockerId = lockerId := (String.append_right_inj _).1 he
    exact hno ⟨(i, c), by rw [hhistory]; exact List.mem_cons_self, hcall⟩
  rcases LockerCall.delete_writes (hcall ▸ hplan) with happend | rfl | ⟨lookupId, rfl⟩
  · have hset : c.isHset = false := by cases c <;> first | rfl | cases happend
    have hdel : ∀ key field, c ≠ .deleteHashFields key field := by
      rintro key field rfl
      cases happend
    refine ⟨hrunning, fun j new hj hno hmem => ?_, fun j new hj hno hmem => ?_⟩
    · rw [hdone j new hj] at hmem
      rw [hstore]
      exact cached_exec (h.lookup j new hj (not_named hno hold) hmem) hloud hset (hdel _)
    · rw [hdone j new hj] at hmem
      rw [hstore]
      exact cached_exec (h.row j new hj (not_named hno hold) hmem) hloud hset (hdel _)
  · refine ⟨hrunning, fun j new hj hno hmem => ?_, fun j new hj hno hmem => ?_⟩
    · rw [hdone j new hj] at hmem
      rw [hstore]
      refine cached_exec (h.lookup j new hj (not_named hno hold) hmem) hloud rfl fun field he => ?_
      have hkey := (Cmd.deleteHashFields.inj he).1
      exact display_locker_ne_reverseLookup { lockerId, merchantId, customerId } _ hkey
    · rw [hdone j new hj] at hmem
      rw [hstore]
      refine cached_exec (h.row j new hj (not_named hno hold) hmem) hloud rfl fun field he => ?_
      exact hother j new hj hno (Cmd.deleteHashFields.inj he).1.symm
  · refine ⟨hrunning, fun j new hj hno hmem => ?_, fun j new hj hno hmem => ?_⟩
    · rw [hdone j new hj] at hmem
      have hheld := h.lookup j new hj (not_named hno hold) hmem
      rw [hstore]
      refine cached_exec hheld hloud rfl fun field he => ?_
      have hkey := (Cmd.deleteHashFields.inj he).1
      rw [Store.cached, ← hkey] at hheld
      simp only [ownsLookup, hheld, beq_iff_eq, LockerNew.lookup_partitionKey] at howns
      exact hother j new hj hno howns
    · rw [hdone j new hj] at hmem
      rw [hstore]
      refine cached_exec (h.row j new hj (not_named hno hold) hmem) hloud rfl fun field he => ?_
      have hkey := (Cmd.deleteHashFields.inj he).1
      exact display_locker_ne_reverseLookup new.primaryKey lookupId hkey.symm

/-- A turn keeps what Redis holds of the lockers that no delete names. -/
theorem LookupInv.step (h : LookupInv ctx merchantId customerId calls p done)
    (hcust : ∀ i new, calls i = .insert new →
      new.merchantId = merchantId ∧ new.customerId = customerId) (turn : Turn ι String)
    (hown : OwnLookups merchantId customerId calls p turn) :
    ∃ done', LookupInv ctx merchantId customerId calls (p.next ctx turn) done' := by
  rcases h.running.step (drainTurn turn) with ⟨e, hturn, hstore, hhistory, hrunning⟩ |
    ⟨hstore, hhistory, hrunning⟩ |
    ⟨i, c, rest, hturn, hc, hloud, hplan, hstore, hhistory, hrunning⟩
  · have hcached : ∀ key, (p.next ctx turn).store.cached key = p.store.cached key := by
      intro key
      rw [hstore]
      cases turn with
      | thread i => cases hturn
      | env stream =>
        cases hturn
        rfl
    have hold : ∀ e ∈ p.history, e ∈ (p.next ctx turn).history := fun e he => by
      rwa [hhistory]
    exact ⟨done, hrunning,
      fun j new hj hno hmem => (hcached _).trans (h.lookup j new hj (not_named hno hold) hmem),
      fun j new hj hno hmem => (hcached _).trans (h.row j new hj (not_named hno hold) hmem)⟩
  · have hold : ∀ e ∈ p.history, e ∈ (p.next ctx turn).history := fun e he => by
      rcases hhistory with hsame | ⟨i, c, hcons, -⟩
      · rwa [hsame]
      · rw [hcons]
        exact List.mem_cons_of_mem _ he
    exact ⟨done, hrunning,
      fun j new hj hno hmem => by
        rw [hstore]
        exact h.lookup j new hj (not_named hno hold) hmem,
      fun j new hj hno hmem => by
        rw [hstore]
        exact h.row j new hj (not_named hno hold) hmem⟩
  · cases turn with
    | env stream => cases hturn
    | thread k =>
      cases hturn
      have howns := hown c hc
      cases hcall : calls i with
      | insert new => exact ⟨_, h.insert hcall hplan hloud hstore hhistory hrunning⟩
      | delete lockerId =>
        rw [hcall] at howns
        exact ⟨_, h.delete hcust hcall hplan hloud howns hstore hhistory hrunning⟩

omit [DecidableEq ι] in
/-- A find by the hash answers what Redis holds. -/
theorem LookupInv.lookupsKept (h : LookupInv ctx merchantId customerId calls p done)
    (hcust : ∀ i new, calls i = .insert new →
      new.merchantId = merchantId ∧ new.customerId = customerId) :
    LookupsKept ctx merchantId customerId calls p := by
  intro i new hcall hended hno
  have hplan := h.running.follows.ended hended () rfl
  rw [hcall] at hplan
  have hlookup := h.lookup i new hcall hno (by rw [hplan]; simp [LockerCall.lookupWrites,
    hsetnxLookup, setNxAndQueue])
  have hrow := h.row i new hcall hno (by rw [hplan]; simp [LockerCall.rowWrites,
    hsetnxLocker, setNxAndQueue])
  obtain ⟨rfl, rfl⟩ := hcust i new hcall
  have hvisible : p.store.visibleByLookup new.hashKey = some (.locker new.redisRow) := by
    have hrecord : p.store.visible (.reverseLookup new.hashKey.getLookupKey.lookupId) =
        some (.reverseLookup new.lookup.toReverseLookup) := by
      unfold Store.visible
      rw [h.running.mode_eq]
      simp only [show p.store.cached (.reverseLookup new.hashKey.getLookupKey.lookupId) = _ from
        hlookup]
    unfold Store.visibleByLookup
    rw [h.running.mode_eq]
    simp only [hrecord]
    rw [show p.store.redis new.lookup.toReverseLookup.partitionKey
      new.lookup.toReverseLookup.partitionKey = _ from hrow]
  have hfind := run_findOptionalByHashIdMerchantIdCustomerId ctx p.store h.running.wellFormed
    new.hashKey
  rw [hvisible] at hfind
  exact congrArg Prod.fst hfind

variable (ctx merchantId customerId calls) in
/-- Where no delete takes away the lookup record of another locker, a locker that
    was inserted and that no delete names is found by its hash. -/
theorem lookup_kept
    (hcust : ∀ i new, calls i = .insert new →
      new.merchantId = merchantId ∧ new.customerId = customerId) {s : Store}
    (hs : s.WellFormed ctx) (hmode : s.mode = .enabled) (turns : List (Turn ι String))
    (hgood : Good (LockerPool.next ctx) (OwnLookups merchantId customerId calls) turns
      (LockerPool.start ctx merchantId customerId calls s)) :
    LookupsKept ctx merchantId customerId calls
      (runActs (LockerPool.next ctx) turns
        (LockerPool.start ctx merchantId customerId calls s)) := by
  have hstart : LookupInv ctx merchantId customerId calls
      (LockerPool.start ctx merchantId customerId calls s) fun _ => [] :=
    ⟨⟨hs, hmode, fun i => (calls i).obeys,
        Interaction.Pool.follows_start fun i => (calls i).follows⟩,
      fun _ _ _ _ hmem => (nomatch hmem), fun _ _ _ _ hmem => (nomatch hmem)⟩
  obtain ⟨done, hinv⟩ := run_invariant
    (I := fun p => ∃ done, LookupInv ctx merchantId customerId calls p done)
    (fun p turn hp hown => hp.elim fun done hinv => hinv.step hcust turn hown) turns _
    ⟨_, hstart⟩ hgood
  exact hinv.lookupsKept hcust

end Pool

/-! ## Two deletes of one locker -/

/-- A card is added, deleted twice, and added again under a new id. -/
def reAdded : Fin 4 → LockerCall
  | 0 => .insert (Store.lockerOf "first" "hash")
  | 1 => .delete "first"
  | 2 => .delete "first"
  | 3 => .insert (Store.lockerOf "second" "hash")

theorem reAdded_customer (i : Fin 4) (new : LockerNew) (h : reAdded i = .insert new) :
    new.merchantId = "merchant" ∧ new.customerId = "customer" := by
  revert h
  exact match i with
  | 0 => fun h => LockerCall.insert.inj h ▸ ⟨rfl, rfl⟩
  | 1 => fun h => nomatch h
  | 2 => fun h => nomatch h
  | 3 => fun h => LockerCall.insert.inj h ▸ ⟨rfl, rfl⟩

/-- What the four calls come to on the empty store. -/
def reAddedAfter (turns : List (Turn (Fin 4) String)) : LockerPool (Fin 4) :=
  runActs (LockerPool.next .default) turns
    (LockerPool.start .default "merchant" "customer" reAdded Store.emptyStore)

/-- One delete runs to its end before the card is added again. -/
def oneAfterTheOther : List (Turn (Fin 4) String) :=
  List.replicate 10 (.thread 0) ++ List.replicate 13 (.thread 1) ++ List.replicate 10 (.thread 3)

theorem lookup_kept_oneAfterTheOther :
    ((findOptionalByHashIdMerchantIdCustomerId .default "hash" "merchant" "customer").run Store.exec
      (reAddedAfter oneAfterTheOther).store).1 =
        .ok (some (Store.lockerOf "second" "hash").redisRow.toLocker) := by
  have hkept : LookupsKept .default "merchant" "customer" reAdded (reAddedAfter oneAfterTheOther) :=
    lookup_kept .default "merchant" "customer" reAdded reAdded_customer
      (Store.fresh_wellFormed _ _ _) rfl oneAfterTheOther (by decide +kernel)
  exact hkept 3 (Store.lockerOf "second" "hash") rfl (Prog.eq_pure_of_result (by decide +kernel))
    (by decide +kernel)

/-- Both deletes read the row; one runs to its end, the card is added again, and
    then the other one takes away the lookup record. -/
def slowDelete : List (Turn (Fin 4) String) :=
  List.replicate 10 (.thread 0) ++ List.replicate 3 (.thread 1) ++ List.replicate 13 (.thread 2) ++
    List.replicate 10 (.thread 3) ++ List.replicate 10 (.thread 1)

/-- Not every live locker keeps its lookup record. -/
theorem lookup_lost :
    ¬ ∀ (ctx : KvStoreContext) (merchantId customerId : String) (calls : Fin 4 → LockerCall)
      (s : Store) (turns : List (Turn (Fin 4) String)),
      (∀ i new, calls i = .insert new →
        new.merchantId = merchantId ∧ new.customerId = customerId) →
      s.Reachable ctx .enabled →
        LookupsKept ctx merchantId customerId calls (runActs (LockerPool.next ctx) turns
          (LockerPool.start ctx merchantId customerId calls s)) := by
  intro h
  have hkept : LookupsKept .default "merchant" "customer" reAdded (reAddedAfter slowDelete) :=
    h .default "merchant" "customer" reAdded Store.emptyStore slowDelete reAdded_customer
      (Store.reachable_of_acts [] (by simp))
  have hfind := hkept 3 (Store.lockerOf "second" "hash") rfl
    (Prog.eq_pure_of_result (by decide +kernel)) (by decide +kernel)
  have hnone : ((findOptionalByHashIdMerchantIdCustomerId .default "hash" "merchant"
      "customer").run Store.exec (reAddedAfter slowDelete).store).1 = .ok none := by
    decide +kernel
  cases hnone.symm.trans hfind

end CardVault
