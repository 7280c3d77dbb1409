import CardVault.Api.App
import CardVault.Expiry.Stale
import CardVault.System

/-!
# Retrieves and the deletions they spawn

`retrieve_card` and `retrieve_data` find the row, compare its expiry with the clock, and
for an expired row spawn a task that deletes the row by its key. Of the handlers this is
what touches the rows; the calls of the key managers before and between are left out.
Adds, upserts and deletes are their storage calls. All run command by command over one
store, with the drainer and the expiry of Redis keys in between.

Main results:
* `TtlPool.step`: one turn.
* `TtlPool.SparesFresh`: a turn in which no spawned deletion removes a fresh row.
* `TtlPool.Undisturbed`: a turn that leaves the rows of spawned deletions alone.
* `drops_find`, `drops_delete`: retrieves and deletions store nothing.
-/

namespace CardVault

open Interaction Stream

/-! ## Retrieves and what they spawn -/

namespace TtlDeletion

/-- The key of the row. -/
def key : TtlDeletion → PartitionKey
  | .locker lockerId merchantId customerId => .locker merchantId customerId lockerId
  | .vault vaultId entityId => .vault entityId vaultId

variable (ctx : KvStoreContext)

/-- The find of `retrieve_card` and `retrieve_data`; of the row only its expiry is kept. -/
def find : TtlDeletion → App (Option PrimitiveDateTime)
  | .locker lockerId merchantId customerId =>
    (findByLockerIdMerchantIdCustomerId ctx lockerId merchantId customerId).mapResult fun
      | .ok row => row.ttl
      | .error _ => none
  | .vault vaultId entityId =>
    (findByVaultIdEntityId ctx vaultId entityId).mapResult fun
      | .ok row => row.expiresAt
      | .error _ => none

/-- The call of a delete, and of the task that a retrieve spawns. -/
def delete : TtlDeletion → App (Option PrimitiveDateTime)
  | .locker lockerId merchantId customerId =>
    (deleteLocker ctx lockerId merchantId customerId).mapResult fun _ => none
  | .vault vaultId entityId => (deleteFromVault ctx vaultId entityId).mapResult fun _ => none

end TtlDeletion

section Commands

variable {ctx : KvStoreContext}

/-- A program of finds and deletes. -/
abbrev Drops {α : Type} (p : App α) : Prop := p.Issues fun c => c.drops = true

theorem Drops.of_reads {α : Type} {p : App α} (h : Reads p) : Drops p :=
  h.mono fun _ => Cmd.drops_of_quiet

theorem drops_executeOnPrimary {E : Type} [StorageErrorExt E] {stmt : Statement}
    (h : stmt.isDelete = true) :
    Drops (executeOnPrimary E stmt) :=
  Prog.Issues.andThen (Drops.of_reads reads_getConn) fun _ =>
    Prog.Issues.mapResult (Prog.issues_perform h)

theorem drops_kvWrapper_hDel {T : Type} (deserialize : Row → Option T) (key : PartitionKey)
    {query : SerializableQuery} (h : query.statement.isDelete = true) :
    Drops (kvWrapper ctx deserialize (.hDel key.display query) key) := by
  have hpush : Drops (pushToDrainerStream ctx query key) :=
    Prog.Issues.andThen (Drops.of_reads reads_getRedisConn) fun _ =>
      Prog.Issues.mapResult (Prog.issues_perform h)
  refine Prog.Issues.andThen (Drops.of_reads reads_getRedisConn) fun _ => ?_
  refine Prog.Issues.andThen (Prog.Issues.mapResult (Prog.issues_perform rfl)) fun _ => ?_
  exact Prog.Issues.andThen hpush fun _ => trivial

theorem drops_deleteResourceByIdInner {M : KvDeletableResource} (hM : M.Spec)
    (pk : M.PrimaryKeyType) (hdelete : Drops (M.storageDelete pk)) :
    Drops (deleteResourceByIdInner ctx M pk) := by
  refine Prog.Issues.andThen (Drops.of_reads (reads_decideStorageSchemeForMutateOperation _ _))
    fun decision => ?_
  obtain ⟨scheme, cached⟩ := decision
  cases scheme with
  | postgresOnly => exact hdelete
  | redisKv =>
    have heffect : (hM.deleteStatement pk).isDelete = true := by
      rw [Statement.isDelete, hM.deleteStatement_effect]
    simp only [hM.generateDeleteDrainerQuery_eq, mapKvError, Prog.pure_ok_andThen]
    exact Prog.Issues.andThen (Prog.Issues.mapResult (drops_kvWrapper_hDel _ _ heffect))
      fun _ => trivial

theorem drops_deleteFromVault (vaultId entityId : String) :
    Drops (deleteFromVault ctx vaultId entityId) :=
  drops_deleteResourceByIdInner Vault.deletableSpec _ (drops_executeOnPrimary rfl)

theorem drops_deleteLocker (lockerId merchantId customerId : String) :
    Drops (deleteLocker ctx lockerId merchantId customerId) := by
  refine Prog.Issues.andThen (Drops.of_reads (Prog.Issues.mapResult
    (reads_findResourceById ctx reads_findLocker _))) fun found => ?_
  refine Prog.Issues.andThen (drops_deleteResourceByIdInner Locker.deletableSpec _
    (drops_executeOnPrimary rfl)) fun count => ?_
  cases found with
  | none => trivial
  | some resource =>
    exact Prog.Issues.andThen (Prog.Issues.mapResult (drops_deleteResourceByIdInner
      ReverseLookup.deletableSpec _ (drops_executeOnPrimary rfl))) fun _ => trivial

namespace TtlDeletion

theorem drops_find (target : TtlDeletion) : Drops (target.find ctx) := by
  cases target with
  | locker =>
    exact Drops.of_reads (Prog.Issues.mapResult (reads_findResourceById ctx reads_findLocker _))
  | vault =>
    exact Drops.of_reads (Prog.Issues.mapResult (Prog.Issues.mapResult (Prog.Issues.mapResult
      (reads_findResourceById ctx reads_findVault _))))

theorem drops_delete (target : TtlDeletion) : Drops (target.delete ctx) := by
  cases target with
  | locker => exact Prog.Issues.mapResult (drops_deleteLocker _ _ _)
  | vault => exact Prog.Issues.mapResult (drops_deleteFromVault _ _)

theorem obeys_find (target : TtlDeletion) : Obeys ctx (target.find ctx) fun _ => True := by
  cases target with
  | locker => exact Obeys.discard (obeys_findByLockerIdMerchantIdCustomerId ctx _ _ _)
  | vault => exact Obeys.discard (obeys_findByVaultIdEntityId ctx _ _)

theorem obeys_delete (target : TtlDeletion) : Obeys ctx (target.delete ctx) fun _ => True := by
  cases target with
  | locker => exact Obeys.discard (obeys_deleteLocker ctx _ _ _)
  | vault => exact Obeys.discard (obeys_deleteFromVault ctx _ _)

end TtlDeletion

theorem Obeys.onDuplicate {E α : Type} [StorageErrorExt E] {insert recover : App (Except E α)}
    (hinsert : Obeys ctx insert fun _ => True) (hrecover : Obeys ctx recover fun _ => True) :
    Obeys ctx (CardVault.onDuplicate insert recover) fun _ => True := by
  refine Obeys.bind hinsert fun reply _ => ?_
  cases reply with
  | ok a => exact Obeys.pure trivial
  | error err =>
    dsimp only
    split_ifs
    · exact hrecover
    · exact Obeys.pure trivial

end Commands

/-- The row a retrieve is after, and what the clock says when it has found it. -/
structure Expiry where
  target : TtlDeletion
  now : PrimitiveDateTime
  deriving DecidableEq, Repr

/-- A call on the rows with an expiry. -/
inductive RowCall where
  /-- `retrieve_card`, `retrieve_data` -/
  | retrieve (expiry : Expiry)
  /-- the insert of `add_card` -/
  | addCard (new : LockerNew)
  /-- the insert of `add_data` -/
  | insertData (new : VaultNew)
  /-- the upsert of `add_data` -/
  | upsertData (new : VaultNew)
  /-- `delete_card`, `delete_data` -/
  | delete (target : TtlDeletion)

/-- What a thread is at. -/
inductive Phase where
  | request
  | retrieve (expiry : Expiry)
  | delete (expiry : Expiry)
  deriving DecidableEq, Repr

/-- A call in the middle of its run. -/
structure Task where
  phase : Phase
  program : App (Option PrimitiveDateTime)

/-- A call that has not begun. -/
def RowCall.task (ctx : KvStoreContext) : RowCall → Task
  | .retrieve expiry => ⟨.retrieve expiry, expiry.target.find ctx⟩
  | .addCard new => ⟨.request, (getOrInsertLocker ctx new).mapResult fun _ => none⟩
  | .insertData new => ⟨.request, (getOrInsertVault ctx new).mapResult fun _ => none⟩
  | .upsertData new => ⟨.request, (upsertVault ctx new).mapResult fun _ => none⟩
  | .delete target => ⟨.request, target.delete ctx⟩

/-- The deletion that the task has come to owe: the row was found expired, and the
    deletion has not ended. -/
def Task.pending : Task → Option Expiry
  | ⟨.retrieve expiry, .pure ttl⟩ => if expired ttl expiry.now then some expiry else none
  | ⟨.delete expiry, .call ..⟩ => some expiry
  | _ => none

/-- The DELETE of a spawned deletion, in a stream behind `ahead` entries. -/
structure Waiting where
  expiry : Expiry
  stream : String
  ahead : ℕ
  deriving DecidableEq, Repr

/-- A step of the environment: an entry replayed moves the others of its stream up. -/
def Waiting.advance (w : Waiting) : EnvStep → Option Waiting
  | .drain stream =>
    if w.stream = stream then
      match w.ahead with
      | 0 => none
      | ahead + 1 => some { w with ahead }
    else some w
  | .expire _ => some w

/-- The entry a spawned deletion queues for its row. -/
def Phase.queues (s : Store) (c : Cmd) : Phase → List Waiting
  | .delete expiry =>
    match c with
    | .streamAppendEntry stream entry =>
      if entry.query.statement.partitionKey = expiry.target.key then
        [⟨expiry, stream, (s.streams stream).length⟩]
      else []
    | _ => []
  | .request | .retrieve _ => []

/-- Calls interleaved command by command over one store. -/
structure TtlPool (ι : Type) where
  store : Store
  tasks : ι → Task
  waiting : List Waiting

namespace TtlPool

variable {ι : Type} [DecidableEq ι] (ctx : KvStoreContext)

omit [DecidableEq ι] in
/-- Calls that have not begun. -/
def start (s : Store) (calls : ι → RowCall) : TtlPool ι := ⟨s, fun i => (calls i).task ctx, []⟩

/-- One turn. A retrieve that has found its row expired spawns the deletion. -/
def step (p : TtlPool ι) : Turn ι EnvStep → TtlPool ι
  | .env e =>
    { p with
      store := p.store.envStep ctx e
      waiting := p.waiting.filterMap fun w => w.advance e }
  | .thread i =>
    match p.tasks i with
    | ⟨phase, .call c k⟩ =>
      { store := (p.store.exec c).2
        tasks := Function.update p.tasks i ⟨phase, k (p.store.exec c).1⟩
        waiting := phase.queues p.store c ++ p.waiting }
    | ⟨.retrieve expiry, .pure ttl⟩ =>
      if expired ttl expiry.now then
        { p with tasks := Function.update p.tasks i ⟨.delete expiry, expiry.target.delete ctx⟩ }
      else p
    | ⟨.request, .pure _⟩ | ⟨.delete _, .pure _⟩ => p

/-- A row of `key` is gone from Redis or from Postgres. -/
def Gone (key : PartitionKey) (row : Row) (s s' : Store) : Prop :=
  s.cached key = some row ∧ s'.cached key = none ∨
    s.pg.rowAt key = some row ∧ s'.pg.rowAt key = none

/-- The turn belongs to the spawned deletion: one of its commands, or its DELETE replayed. -/
def Deletes (p : TtlPool ι) (expiry : Expiry) : Turn ι EnvStep → Prop
  | .thread i => (p.tasks i).phase = .delete expiry
  | .env (.drain stream) => ∃ w ∈ p.waiting, w.expiry = expiry ∧ w.stream = stream ∧ w.ahead = 0
  | .env (.expire _) => False

/-- No spawned deletion removes a row whose expiry is `None` or in the future, whatever
    the time is by then. -/
def SparesFresh (p : TtlPool ι) (turn : Turn ι EnvStep) : Prop :=
  ∀ (expiry : Expiry) (row : Row), p.Deletes expiry turn →
    Gone expiry.target.key row p.store (p.step ctx turn).store →
      ∀ later : PrimitiveDateTime, expiry.now.nanos ≤ later.nanos → ¬ row.FreshAt later

/-- What the next command of a task leaves alone. -/
def LeavesAlone (p : TtlPool ι) : Task → Prop
  | ⟨.request, .call c _⟩ =>
    (∀ j, ∀ expiry ∈ (p.tasks j).pending, c.stores p.store expiry.target.key = false) ∧
      ∀ w ∈ p.waiting, c.storesNow p.store w.expiry.target.key = false
  | ⟨.retrieve expiry, .call c k⟩ =>
    ∀ ttl ∈ (k (p.store.exec c).1).result, expired ttl expiry.now = true →
      p.store.Stale ctx expiry.target.key expiry.now
  | ⟨.delete expiry, .call c _⟩ =>
    c.deletesNow expiry.target.key = true → p.store.queued ctx expiry.target.key = []
  | ⟨_, .pure _⟩ => True

instance {n : ℕ} (p : TtlPool (Fin n)) : ∀ t, Decidable (p.LeavesAlone ctx t)
  | ⟨.request, .call c _⟩ => inferInstanceAs (Decidable
    ((∀ j, ∀ expiry ∈ (p.tasks j).pending, c.stores p.store expiry.target.key = false) ∧
      ∀ w ∈ p.waiting, c.storesNow p.store w.expiry.target.key = false))
  | ⟨.retrieve expiry, .call c k⟩ => inferInstanceAs (Decidable
    (∀ ttl ∈ (k (p.store.exec c).1).result, expired ttl expiry.now = true →
      p.store.Stale ctx expiry.target.key expiry.now))
  | ⟨.delete expiry, .call c _⟩ => inferInstanceAs (Decidable
    (c.deletesNow expiry.target.key = true → p.store.queued ctx expiry.target.key = []))
  | ⟨.request, .pure _⟩ | ⟨.retrieve _, .pure _⟩ | ⟨.delete _, .pure _⟩ => isTrue trivial

/-- From the find of an expired row to the end of its deletion nothing stores the row,
    and nothing stores it in Postgres at once while the DELETE waits; the find meets no
    version of the row that is not expired; a DELETE that runs at once meets nothing of
    its row in the stream. -/
def Undisturbed (p : TtlPool ι) : Turn ι EnvStep → Prop
  | .env _ => True
  | .thread i => p.LeavesAlone ctx (p.tasks i)

instance {n : ℕ} (p : TtlPool (Fin n)) : ∀ turn, Decidable (p.Undisturbed ctx turn)
  | .env _ => isTrue trivial
  | .thread i => inferInstanceAs (Decidable (p.LeavesAlone ctx (p.tasks i)))

end TtlPool

end CardVault
