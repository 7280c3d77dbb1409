import CardVault.Concurrent.Writes
import CardVault.System

/-!
# Updates and deletes of one vault row

Any number of `update_vault_data` and `delete_from_vault` calls on the vault key
`pk`, interleaved command by command with each other, with the drainer and with
the expiry of Redis keys.

Main results:

* `VaultCall.follows`: what a call writes.
* `start_running`: calls that have not begun.
* `settled_queueEntry`, `settled_query`: what a write does to the row of the key
  once everything queued is replayed.
-/

namespace CardVault

open Interaction

/-- A call on the vault key. -/
inductive VaultCall where
  | update (change : VaultUpdate)
  | delete

namespace VaultCall

variable (ctx : KvStoreContext) (pk : VaultPrimaryKey)

/-- The call's program; of the row answered only that there is one is kept. -/
def app : VaultCall → App (Except VaultDBError Unit)
  | .update change =>
    (updateVaultData ctx pk.vaultId pk.entityId change).mapResult (Except.map fun _ => ())
  | .delete => (deleteFromVault ctx pk.vaultId pk.entityId).mapResult (Except.map fun _ => ())

/-- The UPDATE that an update runs or queues. -/
def updateStatement (change : VaultUpdate) (scheme : StorageScheme) : Statement :=
  .updateVault pk { change with updatedBy := scheme }

/-- The UPDATE queued. -/
def updateQuery (change : VaultUpdate) : SerializableQuery :=
  ⟨updateStatement pk change .redisKv, Resource.vault.entityType, .update⟩

/-- The DELETE queued. -/
def deleteQuery : SerializableQuery := ⟨.deleteVault pk, Resource.vault.entityType, .delete⟩

/-- What an update makes of the row it has read. -/
def updatedRow (change : VaultUpdate) (current : VaultInner) : Row :=
  .vault (VaultInner.fromUpdate { change with updatedBy := .redisKv } current)

/-- What a call writes, in order. -/
def plan (mode : KvState) : VaultCall → List Cmd → Prop
  | .update change, writes =>
    (mode ≠ .disabled ∧ ∃ current, writes =
      setAndQueue ctx pk.getPartitionKey (updatedRow change current) (updateQuery pk change)) ∨
    mode ≠ .enabled ∧
      writes = [.query .primary (.execute (updateStatement pk change .postgresOnly))]
  | .delete, writes =>
    (mode ≠ .disabled ∧ writes = deleteAndQueue ctx pk.getPartitionKey (deleteQuery pk)) ∨
    mode ≠ .enabled ∧ writes = [.query .primary (.execute (.deleteVault pk))]

variable {ctx pk} {mode : KvState}

/-- A call writes what its plan says, and all of it if it succeeds. -/
theorem follows (call : VaultCall) :
    Writes mode (call.plan ctx pk mode) (call.app ctx pk)
      (Completes (call.plan ctx pk mode)) [] := by
  have herr : ∀ (plan : List Cmd → Prop) (e : VaultDBError) (done : List Cmd),
      Completes plan (Except.map (fun _ => ()) (.error e : Except VaultDBError Vault)) done :=
    fun _ _ _ a h => nomatch h
  have herr' : ∀ (plan : List Cmd → Prop) (e : VaultDBError) (done : List Cmd),
      Completes plan (Except.map (fun _ => ()) (.error e : Except VaultDBError ℕ)) done :=
    fun _ _ _ a h => nomatch h
  cases call with
  | update change =>
    refine Prog.Follows.mapResult (writes_updateResourceById Vault.updatableSpec reads_findVault
      (fun e done => herr _ e done) (fun hmode current => ?_) fun hmode => ?_)
    · have hplan : plan ctx pk mode (.update change)
          (setAndQueue ctx pk.getPartitionKey (updatedRow change current)
            (updateQuery pk change)) := Or.inl ⟨hmode, current, rfl⟩
      exact ⟨hplan, fun model _ _ => hplan⟩
    · have hplan : plan ctx pk mode (.update change)
          [.query .primary (.execute (updateStatement pk change .postgresOnly))] :=
        Or.inr ⟨hmode, rfl⟩
      refine Prog.Follows.mapResult (writes_executeOnPrimary hplan (fun e done => herr _ e done)
        fun out _ _ => hplan)
  | delete =>
    refine Prog.Follows.mapResult (writes_deleteResourceByIdInner Vault.deletableSpec []
      (fun e done => herr' _ e done) (fun hmode => ?_) fun hmode => ?_)
    · have hplan : plan ctx pk mode .delete
          (deleteAndQueue ctx pk.getPartitionKey (deleteQuery pk)) := Or.inl ⟨hmode, rfl⟩
      exact ⟨hplan, fun count _ _ => hplan⟩
    · have hplan : plan ctx pk mode .delete [.query .primary (.execute (.deleteVault pk))] :=
        Or.inr ⟨hmode, rfl⟩
      refine writes_executeOnPrimary hplan (fun e done => herr' _ e done) fun out _ _ => hplan

theorem obeys (call : VaultCall) : Obeys ctx (call.app ctx pk) fun _ => True := by
  cases call with
  | update change => exact Obeys.discard (obeys_updateVaultData ctx _ _ change)
  | delete => exact Obeys.discard (obeys_deleteFromVault ctx _ _)

end VaultCall

/-! ## Pools of calls -/

section Pool

variable {ι : Type} [DecidableEq ι] {ctx : KvStoreContext} {pk : VaultPrimaryKey}
  {calls : ι → VaultCall} {s : Store}

/-- Calls on one vault key over a shared store. -/
abbrev VaultPool (ι : Type) : Type := Interaction.Pool Store ι Cmd Reply (Except VaultDBError Unit)

/-- No call has begun. -/
def VaultPool.start (ctx : KvStoreContext) (pk : VaultPrimaryKey) (calls : ι → VaultCall)
    (s : Store) : VaultPool ι := ⟨s, fun i => (calls i).app ctx pk, []⟩

/-- One turn: a call's next command, or a step of the environment. -/
abbrev VaultPool.next (ctx : KvStoreContext) (p : VaultPool ι) (turn : Turn ι EnvStep) :
    VaultPool ι := Interaction.Pool.step Store.exec (Store.envStep ctx) p turn

/-- Calls in the middle of their runs. -/
abbrev CallsRun (ctx : KvStoreContext) (pk : VaultPrimaryKey) (mode : KvState)
    (calls : ι → VaultCall) (p : VaultPool ι) (done : ι → List Cmd) : Prop :=
  Running ctx mode (fun i => (calls i).plan ctx pk mode)
    (fun i => Completes ((calls i).plan ctx pk mode)) p done

omit [DecidableEq ι] in
theorem start_running (hs : s.WellFormed ctx) :
    CallsRun ctx pk s.mode calls (VaultPool.start ctx pk calls s) fun _ => [] where
  wellFormed := hs
  mode_eq := rfl
  obeys i := (calls i).obeys
  follows := Interaction.Pool.follows_start fun i => (calls i).follows

end Pool

/-! ## What a write does to the row of the key -/

section Settled

variable {ctx : KvStoreContext} {s : Store} {key : PartitionKey} {query : SerializableQuery}

theorem queued_queueEntry (hquery : query.statement.partitionKey = key) :
    (s.exec (queueEntry ctx key query)).2.queued ctx key =
      s.queued ctx key ++ [query.statement] := by
  simp [queueEntry, Store.exec, Store.queued, entryOf, hquery]

/-- A statement queued last acts on the row settled so far. -/
theorem settled_queueEntry (hquery : query.statement.partitionKey = key) :
    (s.exec (queueEntry ctx key query)).2.settled ctx key =
      query.statement.act (s.settled ctx key) := by
  rw [Store.settled, queued_queueEntry hquery, List.foldl_append]
  rfl

/-- A statement run at once acts before all that are queued. -/
theorem settled_query (hkey : key.soleKey = true) {stmt : Statement}
    (hstmt : stmt.partitionKey = key) (pool : DbPool) :
    (s.exec (.query pool (.execute stmt))).2.settled ctx key =
      (s.queued ctx key).foldl (fun row stmt => stmt.act row) (stmt.act (s.pg.view key)) := by
  have hview : (s.pg.apply stmt).view key = stmt.act (s.pg.view key) := by
    rw [Pg.view_apply hkey, if_pos hstmt]
  rw [← hview]
  rfl

/-- Where statements leave no row of one row, they leave none of no row. -/
theorem foldl_act_none {stmts : List Statement} {row row' : Option Row}
    (hrow : row = none → row' = none)
    (h : stmts.foldl (fun row stmt => stmt.act row) row = none) :
    stmts.foldl (fun row stmt => stmt.act row) row' = none := by
  induction stmts generalizing row row' with
  | nil => exact hrow h
  | cons stmt stmts ih =>
    refine ih (fun hact => ?_) h
    change stmt.act row = none at hact
    change stmt.act row' = none
    unfold Statement.act at hact ⊢
    cases heffect : stmt.effect with
    | insert mk =>
      rw [heffect] at hact
      cases row with
      | some r => cases hact
      | none =>
        rw [hrow rfl]
        exact hact
    | update f =>
      rw [heffect] at hact
      dsimp only at hact ⊢
      rw [hrow (Option.map_eq_none_iff.1 hact)]
      rfl
    | delete => rfl

end Settled

/-! ## A row to work on -/

/-- A vault row that has been drained and is still in Redis. -/
def storedCard : Store :=
  runActs (Store.step .default) [.request (.insertVault (Store.recordOf 1)), Store.drainRecord]
    Store.emptyStore

theorem storedCard_reachable : Store.Reachable .default .enabled storedCard :=
  Store.reachable_of_acts _ (by simp [Store.drainRecord])

/-- Two turns of the drainer on the stream of that row. -/
def drainCard {ι : Type} : List (Turn ι EnvStep) :=
  List.replicate 2 (.env (.drain (KvStoreContext.default.stream (.vault "merchant" "card"))))

end CardVault
