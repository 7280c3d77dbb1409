import CardVault.KeyManager.Provider

/-!
# Merchants on a lagging replica

The `merchant` table with a read replica of its own, as `CardVault.Replica` has it
for the tables of the KV layer, and `domain::merchant::find_or_create` on it.

Main results:
* `KeyReplicated.run_findByMerchantId`: a read through the cache.
* `KeyReplicated.returned_findOrCreateMerchant_iff`: when the merchant of a
  committed row is answered.
-/

namespace CardVault

open Interaction Relational

/-! ## Reads -/

/-- The calls that a read replica answers. -/
def KeyCmd.onReplica : KeyCmd → Bool
  | .selectMerchant .replica _ | .selectMerchantsExcludingEntities .replica _
  | .selectEntity .replica _ => true
  | _ => false

/-- The key tables and what their replica shows, read by read. -/
structure KeyReplicated (σ : Type) where
  store : KeyStore σ
  lag : ℕ → KeyTables

namespace KeyReplicated

variable {σ : Type} (service : KeyService σ)

/-- Answer one call. -/
def exec (u : KeyReplicated σ) (c : KeyCmd) : KeyReply c × KeyReplicated σ :=
  let answer := { u.store with replica := u.lag 0 }.exec service c
  (answer.1,
    { store := { answer.2 with replica := u.store.replica }
      lag := if c.onReplica then fun n => u.lag (n + 1) else u.lag })

variable (aead : Aead) (u : KeyReplicated σ)

/-- The merchant row that the next routed read is answered with. -/
def shownMerchant (merchantId : String) : Option MerchantInner :=
  match u.store.routedPool with
  | .primary => u.store.tables.merchantRow merchantId
  | .replica => (u.lag 0).merchantRow merchantId

/-- A routed read of a merchant has been answered. -/
def afterRead : KeyReplicated σ :=
  match u.store.routedPool with
  | .primary => u
  | .replica => { u with lag := fun n => u.lag (n + 1) }

/-- A read through the cache. -/
theorem run_findByMerchantId (merchantId : String) (key : GcmAes256) :
    ∃ u', (Caching.findByMerchantId aead merchantId key).run (exec service) u =
        (match u.store.merchantCache merchantId with
          | some cached => .ok cached
          | none =>
            match u.shownMerchant merchantId with
            | some shown => shown.decrypt aead.openWithin key
            | none => .error (.error .notFoundError), u') ∧
      (u.store.merchantCache merchantId = none → u.shownMerchant merchantId = none →
        u' = u.afterRead) := by
  have hlookup : (lookupMerchant merchantId).run (exec service) u =
      (u.store.merchantCache merchantId, u) := rfl
  have hroute : (changeError (fun e => .error e.toMerchantDBError) keyRouteConn :
      KeyApp (Except (Fault MerchantDBError) DbPool)).run (exec service) u =
        (.ok u.store.routedPool, u) := rfl
  cases hc : u.store.merchantCache merchantId with
  | some cached =>
    rw [hc] at hlookup
    exact ⟨u, Prog.run_bind_of hlookup _, fun h => nomatch h⟩
  | none =>
    rw [hc] at hlookup
    have hselect : (selectMerchant u.store.routedPool merchantId).run (exec service) u =
        (oneRow (u.shownMerchant merchantId), u.afterRead) := by
      unfold shownMerchant afterRead
      cases u.store.routedPool <;> rfl
    have hchanged := Prog.run_mapResult_of hselect (Except.mapError fun e : DieselError =>
      (.error e.toMerchantDBError : Fault MerchantDBError))
    cases hs : u.shownMerchant merchantId with
    | none =>
      rw [hs] at hchanged
      have hfind : (findByMerchantId aead merchantId key).run (exec service) u =
          (.error (.error .notFoundError), u.afterRead) :=
        (Prog.run_andThen_ok hroute _).trans (Prog.run_andThen_error hchanged _)
      exact ⟨u.afterRead, (Prog.run_bind_of hlookup _).trans (Prog.run_andThen_error hfind _),
        fun _ _ => rfl⟩
    | some shown =>
      rw [hs] at hchanged
      have hfind : (findByMerchantId aead merchantId key).run (exec service) u =
          (shown.decrypt aead.openWithin key, u.afterRead) :=
        (Prog.run_andThen_ok hroute _).trans (Prog.run_andThen_ok hchanged _)
      dsimp only
      cases hd : shown.decrypt aead.openWithin key with
      | error e =>
        rw [hd] at hfind
        exact ⟨u.afterRead, (Prog.run_bind_of hlookup _).trans (Prog.run_andThen_error hfind _),
          fun _ h => nomatch h⟩
      | ok merchant =>
        rw [hd] at hfind
        refine ⟨((cacheMerchant merchantId merchant).run (exec service) u.afterRead).2,
          (Prog.run_bind_of hlookup _).trans ((Prog.run_andThen_ok hfind _).trans ?_),
          fun _ h => nomatch h⟩
        exact Prog.run_mapResult_of rfl _

/-! ## Inserts -/

@[simp] theorem afterRead_store : u.afterRead.store = u.store := by
  unfold afterRead
  cases u.store.routedPool <;> rfl

/-- An INSERT of a merchant that has a row. -/
theorem exec_insertMerchant_committed {new : MerchantNewInner} {row : MerchantInner}
    (hrow : u.store.tables.merchantRow new.merchantId = some row) :
    u.exec service (.insertMerchant new) =
      (Except.error (if new.fits then .uniqueViolation else .other), u) := by
  have hclash : ∃ a ∈ u.store.tables.merchant.rows,
      merchantClash a (new.row u.store.now u.store.tables.merchant.serial) := by
    refine Table.insert_eq_none_iff.1 (Table.insert_eq_none_of_get (fun _ _ h => h) hrow ?_)
    rfl
  have herror : (insertRow new.fits (new.row u.store.now) u.store.tables.merchant).1 =
      .error (if new.fits then .uniqueViolation else .other) := by
    cases hfits : new.fits with
    | false => exact insertRow_error_iff.2 (Or.inl ⟨rfl, rfl⟩)
    | true => exact insertRow_error_iff.2 (Or.inr ⟨rfl, rfl, hclash⟩)
  have hsame := insertRow_of_error herror
  simp only [exec, KeyStore.exec, KeyCmd.onReplica]
  rw [herror, hsame]
  rfl

/-- Without the nonce or a key of 32 bytes nothing is sealed; that is no
    duplicate. -/
theorem encrypt_ne_duplicate {sealInPlace : SealInPlace} {nonce : Option Bytes} {key : GcmAes256}
    {new : MerchantNew} {e : MerchantDBError} (h : new.encrypt sealInPlace nonce key = .error e) :
    e ≠ .duplicate := by
  unfold MerchantNew.encrypt at h
  cases henc : key.encrypt sealInPlace nonce new.encKey with
  | ok encKey =>
    rw [henc] at h
    cases h
  | error err =>
    rw [henc] at h
    cases h
    cases err <;> exact fun h => nomatch h

/-- A row that cannot be opened is not taken for a missing one. -/
theorem decrypt_ne_notFound {openWithin : OpenWithin} {key : GcmAes256} {row : MerchantInner}
    {err : Fault MerchantDBError} (h : row.decrypt openWithin key = .error err) :
    err ≠ .error .notFoundError := by
  unfold MerchantInner.decrypt at h
  cases hdec : key.decrypt openWithin row.encKey with
  | ok encKey =>
    rw [hdec] at h
    cases h
  | error fault =>
    rw [hdec] at h
    cases fault with
    | panicked =>
      cases h
      exact fun h => nomatch h
    | error e =>
      cases h
      cases e <;> exact fun h => nomatch h

/-- An insert of a merchant that has a row fails, and leaves everything as it was. -/
theorem run_insertMerchant_committed (generatedKey : Bytes) {merchantId : String} (key : GcmAes256)
    {row : MerchantInner} (hrow : u.store.tables.merchantRow merchantId = some row) :
    ∃ err, (Caching.insertMerchant aead { merchantId, encKey := generatedKey } key).run
        (exec service) u = (.error err, u) ∧
      (err = .error .duplicate ↔ ∃ new : MerchantNewInner, MerchantNew.encrypt aead.sealInPlace
        aead.nonce key { merchantId, encKey := generatedKey } = .ok new ∧ new.fits = true) := by
  have hconn : (changeError (fun e => .error e.toMerchantDBError) keyGetConn :
      KeyApp (Except (Fault MerchantDBError) DbPool)).run (exec service) u =
        (.ok .primary, u) := rfl
  cases henc : MerchantNew.encrypt aead.sealInPlace aead.nonce key
      { merchantId, encKey := generatedKey } with
  | error e =>
    refine ⟨.error e, Prog.run_andThen_error ((Prog.run_andThen_ok hconn _).trans ?_) _, ?_⟩
    · rw [henc]
      rfl
    · refine iff_of_false (fun h => encrypt_ne_duplicate henc (Fault.error.inj h)) ?_
      rintro ⟨new, hnew, -⟩
      cases hnew
  | ok new =>
    have hid : new.merchantId = merchantId := by
      unfold MerchantNew.encrypt at henc
      cases hkey : key.encrypt aead.sealInPlace aead.nonce generatedKey with
      | error e => simp [hkey] at henc
      | ok encKey =>
        simp only [hkey, Except.ok.injEq] at henc
        rw [← henc]
    have hinsert : (runInsertMerchant new).run (exec service) u = (_, u) :=
      exec_insertMerchant_committed service u (hid ▸ hrow)
    have hchanged := Prog.run_mapResult_of hinsert (Except.mapError fun e : DieselError =>
      (.error e.toMerchantDBError : Fault MerchantDBError))
    refine ⟨.error (DieselError.toMerchantDBError
        (if new.fits then .uniqueViolation else .other)),
      Prog.run_andThen_error ((Prog.run_andThen_ok hconn _).trans ?_) _, ?_⟩
    · rw [henc]
      exact Prog.run_andThen_error hchanged _
    · cases hfits : new.fits with
      | true => exact iff_of_true rfl ⟨new, rfl, hfits⟩
      | false =>
        refine iff_of_false (fun h => nomatch h) ?_
        rintro ⟨new', hnew', hfits'⟩
        cases hnew'
        rw [hfits] at hfits'
        cases hfits'

/-! ## `find_or_create` -/

/-- `find_or_create` answered the merchant of the committed row. -/
def ReturnedMerchant (key : GcmAes256) (row : MerchantInner)
    (reply : Except (Fault MerchantDBError) Merchant) : Prop :=
  ∃ merchant, row.decrypt aead.openWithin key = .ok merchant ∧ reply = .ok merchant

/-- When `find_or_create` answers the merchant of the committed row: the cache holds
    it, or the row that the first read shows is opened to it, or that read shows
    no row, the INSERT meets the committed row, and the second read shows one
    that is opened to it. -/
def HoldsMerchant (generatedKey : Bytes) (merchantId : String) (key : GcmAes256)
    (row : MerchantInner) : Prop :=
  ∃ merchant, row.decrypt aead.openWithin key = .ok merchant ∧
    match u.store.merchantCache merchantId with
    | some cached => cached = merchant
    | none =>
      match u.shownMerchant merchantId with
      | some shown => shown.decrypt aead.openWithin key = .ok merchant
      | none =>
        (∃ new : MerchantNewInner, MerchantNew.encrypt aead.sealInPlace aead.nonce key
          { merchantId, encKey := generatedKey } = .ok new ∧ new.fits = true) ∧
        ∃ shown, u.afterRead.shownMerchant merchantId = some shown ∧
          shown.decrypt aead.openWithin key = .ok merchant

/-- When the merchant of a committed row is answered. -/
theorem returned_findOrCreateMerchant_iff (generatedKey : Bytes) {merchantId : String}
    (key : GcmAes256) {row : MerchantInner}
    (hrow : u.store.tables.merchantRow merchantId = some row) :
    ReturnedMerchant aead key row
        ((findOrCreateMerchant aead generatedKey merchantId key).run (exec service) u).1 ↔
      u.HoldsMerchant aead generatedKey merchantId key row := by
  obtain ⟨u', hfirst, hend⟩ := run_findByMerchantId service aead u merchantId key
  unfold HoldsMerchant ReturnedMerchant
  refine exists_congr fun merchant => and_congr_right fun _ => ?_
  cases hc : u.store.merchantCache merchantId with
  | some cached =>
    rw [hc] at hfirst
    rw [findOrCreateMerchant, Prog.run_bind_of hfirst]
    exact ⟨fun h => Except.ok.inj h, fun h => congrArg _ h⟩
  | none =>
    rw [hc] at hfirst
    cases hs : u.shownMerchant merchantId with
    | some shown =>
      rw [hs] at hfirst
      cases hd : shown.decrypt aead.openWithin key with
      | ok found =>
        simp only [hd] at hfirst ⊢
        rw [findOrCreateMerchant, Prog.run_bind_of hfirst]
        rfl
      | error err =>
        simp only [hd] at hfirst ⊢
        rw [findOrCreateMerchant, Prog.run_bind_of hfirst]
        simp [decrypt_ne_notFound hd]
    | none =>
      rw [hs] at hfirst
      obtain rfl := hend hc hs
      obtain ⟨err, hinsert, hdup⟩ := run_insertMerchant_committed service aead u.afterRead
        generatedKey key (by rwa [afterRead_store])
      obtain ⟨u'', hsecond, -⟩ := run_findByMerchantId service aead u.afterRead merchantId key
      rw [afterRead_store, hc] at hsecond
      rw [findOrCreateMerchant, Prog.run_bind_of hfirst]
      dsimp only
      rw [if_pos rfl, Prog.run_bind_of hinsert]
      dsimp only
      rw [← hdup]
      by_cases herr : err = .error .duplicate
      · rw [if_pos herr, hsecond]
        simp only [herr, true_and]
        cases hs' : u.afterRead.shownMerchant merchantId with
        | none => simp
        | some shown => simp
      · rw [if_neg herr]
        simp [herr]

end KeyReplicated

end CardVault
