import CardVault.System

/-!
# Inserts of keys that are found already

In the mode that writes to Redis, the duplicate check of an insert asks Redis
alone, while a find falls back to Postgres. A row that only Postgres holds is
found, and an insert of its key shadows it.

Main results:
* `getOrInsertVault_keeps_iff`, `getOrInsertLocker_keeps_iff`: when a row that is
  found stays the row that is found.
* `getOrInsert_keeps_iff`: both.
-/

namespace CardVault

open Interaction

namespace Store

variable (ctx : KvStoreContext)

/-- An insert of the key of `new` answers a duplicate, and `get_or_insert` answers
    the row `r`, which is found afterwards too. -/
structure VaultKept (s : Store) (new : VaultNew) (r : Vault) : Prop where
  insert : ((insertVault ctx new).run exec s).1 = .error .duplicate
  getOrInsert : ((getOrInsertVault ctx new).run exec s).1 = .ok r
  find : ((findByVaultIdEntityId ctx new.vaultId new.entityId).run exec
    ((getOrInsertVault ctx new).run exec s).2).1 = .ok r

/-- An insert of the key of `new` answers a duplicate, and `get_or_insert` answers
    the row `r`, which is found afterwards too. -/
structure LockerKept (s : Store) (new : LockerNew) (r : Locker) : Prop where
  insert : ((CardVault.insertLocker ctx new).run exec s).1 = .error .duplicate
  getOrInsert : ((getOrInsertLocker ctx new).run exec s).1 = .ok r
  find : ((findByLockerIdMerchantIdCustomerId ctx new.lockerId new.merchantId
    new.customerId).run exec ((getOrInsertLocker ctx new).run exec s).2).1 = .ok r

variable {ctx} {s : Store}

/-- A vault row that is found is kept exactly when Redis holds its key. -/
theorem getOrInsertVault_keeps_iff (hs : s.WellFormed ctx) (hmode : s.mode = .enabled)
    {new : VaultNew} {r : Vault}
    (hfind : ((findByVaultIdEntityId ctx new.vaultId new.entityId).run exec s).1 = .ok r) :
    s.VaultKept ctx new r ↔ s.cached new.primaryKey.getPartitionKey ≠ none := by
  have hinsert := run_insertVault_enabled ctx s hmode new
  have hrun := run_getOrInsertVault ctx hmode new
  have hsame := run_findByVaultIdEntityId ctx s hs new.primaryKey
  cases hc : s.cached new.primaryKey.getPartitionKey with
  | none =>
    rw [hc] at hinsert
    refine iff_of_false (fun h => ?_) (by simp)
    cases (congrArg Prod.fst hinsert).symm.trans h.insert
  | some row =>
    rw [hc] at hinsert hrun
    have hstore : ((getOrInsertVault ctx new).run exec s).2 = s :=
      (congrArg Prod.snd hrun).trans (congrArg Prod.snd hsame)
    refine iff_of_true ⟨congrArg Prod.fst hinsert, ?_, ?_⟩ (by simp)
    · exact (congrArg Prod.fst hrun).trans hfind
    · rw [hstore]
      exact hfind

/-- A locker that is found is kept exactly when Redis holds its key and not the
    lookup id of the new row. -/
theorem getOrInsertLocker_keeps_iff (hmode : s.mode = .enabled) {new : LockerNew} {r : Locker}
    (hfind : ((findByLockerIdMerchantIdCustomerId ctx new.lockerId new.merchantId
      new.customerId).run exec s).1 = .ok r) :
    s.LockerKept ctx new r ↔
      s.cached new.primaryKey.getPartitionKey ≠ none ∧
        s.cached (.reverseLookup new.hashKey.getLookupKey.lookupId) = none := by
  have hinsert : (CardVault.insertLocker ctx new).run exec s = _ :=
    run_insertLocker_enabled ctx s hmode new
  have hrun := run_getOrInsertLocker ctx hmode new
  cases hl : s.cached (.reverseLookup new.hashKey.getLookupKey.lookupId) with
  | some row =>
    rw [hl] at hinsert
    refine iff_of_false (fun h => ?_) (by simp)
    cases (congrArg Prod.fst hinsert).symm.trans h.insert
  | none =>
    rw [hl] at hinsert hrun
    cases hc : s.cached new.primaryKey.getPartitionKey with
    | none =>
      rw [hc] at hinsert
      refine iff_of_false (fun h => ?_) (by simp)
      cases (congrArg Prod.fst hinsert).symm.trans h.insert
    | some row =>
      rw [hc] at hinsert hrun
      have hsame : ∀ s', s'.visible new.primaryKey.getPartitionKey =
          s.visible new.primaryKey.getPartitionKey →
            ((findByLockerIdMerchantIdCustomerId ctx new.lockerId new.merchantId
              new.customerId).run exec s').1 = .ok r := fun s' hv => by
        have hrun' :=
          congrArg Prod.fst (run_findByLockerIdMerchantIdCustomerId ctx s' new.primaryKey)
        rw [hv] at hrun'
        exact hrun'.trans ((congrArg Prod.fst (run_findByLockerIdMerchantIdCustomerId ctx s
          new.primaryKey)).symm.trans hfind)
      have hstore : ((getOrInsertLocker ctx new).run exec s).2 = s.writeLookup ctx new :=
        (congrArg Prod.snd hrun).trans
          (congrArg Prod.snd (run_findByLockerIdMerchantIdCustomerId ctx (s.writeLookup ctx new)
            new.primaryKey))
      have hvisible := writeLookup_visible ctx s new new.primaryKey
      refine iff_of_true ⟨congrArg Prod.fst hinsert, ?_, ?_⟩ (by simp)
      · exact (congrArg Prod.fst hrun).trans (hsame _ hvisible)
      · rw [hstore]
        exact hsame _ hvisible

/-- Which rows that are found an insert of their key leaves alone: vault rows
    that Redis holds, and lockers that Redis holds where it does not hold the
    lookup id of the new row. -/
theorem getOrInsert_keeps_iff (hs : Reachable ctx .enabled s) :
    (∀ (new : VaultNew) (r : Vault),
      ((findByVaultIdEntityId ctx new.vaultId new.entityId).run exec s).1 = .ok r →
        (s.VaultKept ctx new r ↔ s.cached new.primaryKey.getPartitionKey ≠ none)) ∧
    ∀ (new : LockerNew) (r : Locker),
      ((findByLockerIdMerchantIdCustomerId ctx new.lockerId new.merchantId
          new.customerId).run exec s).1 = .ok r →
        (s.LockerKept ctx new r ↔
          s.cached new.primaryKey.getPartitionKey ≠ none ∧
            s.cached (.reverseLookup new.hashKey.getLookupKey.lookupId) = none) :=
  ⟨fun _ _ hfind => getOrInsertVault_keeps_iff hs.wellFormed hs.mode_eq hfind,
    fun _ _ hfind => getOrInsertLocker_keeps_iff hs.mode_eq hfind⟩

theorem getOrInsert_keeps_emptyStore :
    (runActs (step .default) [.request (.insertVault (recordOf 1))] emptyStore).VaultKept .default
        (recordOf 2) ⟨"card", "merchant", .encrypted [1], ⟨0⟩, none, some .redisKv⟩ ↔
      (runActs (step .default) [.request (.insertVault (recordOf 1))] emptyStore).cached
        (recordOf 2).primaryKey.getPartitionKey ≠ none :=
  (getOrInsert_keeps_iff (reachable_of_acts [.request (.insertVault (recordOf 1))]
    (by simp))).1 (recordOf 2) _ (by decide +kernel)

/-- A vault row that has left Redis is found, and `get_or_insert` answers the new
    row all the same; and `get_or_insert` of a locker that was just inserted fails
    on the lookup id. -/
theorem getOrInsert_not_kept :
    (¬ ∀ (ctx : KvStoreContext) (s : Store) (new : VaultNew) (r : Vault),
      Reachable ctx .enabled s →
        ((findByVaultIdEntityId ctx new.vaultId new.entityId).run exec s).1 = .ok r →
          ((getOrInsertVault ctx new).run exec s).1 = .ok r) ∧
    ¬ ∀ (ctx : KvStoreContext) (s : Store) (new : LockerNew) (r : Locker),
      Reachable ctx .enabled s →
        ((findByLockerIdMerchantIdCustomerId ctx new.lockerId new.merchantId
            new.customerId).run exec s).1 = .ok r →
          ((getOrInsertLocker ctx new).run exec s).1 = .ok r := by
  constructor
  · intro h
    have hsame := h .default (runActs (step .default) expiredActs emptyStore) (recordOf 2)
      ⟨"card", "merchant", .encrypted [1], ⟨0⟩, none, some .redisKv⟩
      (reachable_of_acts expiredActs (by simp [expiredActs, drainRecord])) (by decide +kernel)
    have hnew : ((getOrInsertVault .default (recordOf 2)).run exec
        (runActs (step .default) expiredActs emptyStore)).1 =
        .ok ⟨"card", "merchant", .encrypted [2], ⟨0⟩, none, some .redisKv⟩ := by decide +kernel
    cases hnew.symm.trans hsame
  · intro h
    have hsame := h .default
      (runActs (step .default) [.request (.insertLocker (lockerOf "card" "hash"))] emptyStore)
      (lockerOf "card" "hash")
      ⟨"card", "merchant", "customer", .encrypted [1], ⟨0⟩, "hash", none, some .redisKv⟩
      (reachable_of_acts _ (by simp)) (by decide +kernel)
    have herror : ((getOrInsertLocker .default (lockerOf "card" "hash")).run exec
        (runActs (step .default) [.request (.insertLocker (lockerOf "card" "hash"))]
          emptyStore)).1 = .error .unknownError := by decide +kernel
    cases herror.symm.trans hsame

end Store

end CardVault
