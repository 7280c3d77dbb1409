import CardVault.Api.App

/-!
# Key holders are found again

A merchant or an entity that a key provider hands out is in the cache from then on,
so the next call hands out the same crypto manager.

Main results:
* `findKeyHolder_of_findOrCreate`: a key holder that was found or created is found
  again.
-/

namespace CardVault

open Interaction

section Caches

variable {σ : Type} {service : KeyService σ} {s s' : KeyStore σ} {aead : Aead} {key : GcmAes256}

/-! ## Merchants -/

theorem run_cachedMerchant {merchantId : String} {merchant : Merchant}
    (h : s.merchantCache merchantId = some merchant) :
    (Caching.findByMerchantId aead merchantId key).run (KeyStore.exec service) s =
      (.ok merchant, s) := by
  have hlookup : (lookupMerchant merchantId).run (KeyStore.exec service) s = (some merchant, s) :=
    congrArg (·, s) h
  exact Prog.run_bind_of hlookup _

theorem merchantCache_of_find {merchantId : String} {merchant : Merchant}
    (h : (Caching.findByMerchantId aead merchantId key).run (KeyStore.exec service) s =
      (.ok merchant, s')) : s'.merchantCache merchantId = some merchant := by
  have hlookup : (lookupMerchant merchantId).run (KeyStore.exec service) s =
      (s.merchantCache merchantId, s) := rfl
  have hrun := (Prog.run_bind_of hlookup _).symm.trans h
  cases hc : s.merchantCache merchantId with
  | some value =>
    rw [hc] at hrun
    cases hrun
    exact hc
  | none =>
    rw [hc] at hrun
    obtain ⟨found, t, -, hcache⟩ := Prog.run_andThen_eq_ok hrun
    cases hcache
    exact Function.update_self ..

theorem merchantCache_of_insert {new : MerchantNew} {merchant : Merchant}
    (h : (Caching.insertMerchant aead new key).run (KeyStore.exec service) s =
      (.ok merchant, s')) : s'.merchantCache new.merchantId = some merchant := by
  obtain ⟨output, t, -, hcache⟩ := Prog.run_andThen_eq_ok h
  cases hcache
  exact Function.update_self ..

theorem merchantCache_of_findOrCreate {generatedKey : Bytes} {merchantId : String}
    {merchant : Merchant}
    (h : (findOrCreateMerchant aead generatedKey merchantId key).run (KeyStore.exec service) s =
      (.ok merchant, s')) : s'.merchantCache merchantId = some merchant := by
  unfold findOrCreateMerchant at h
  rw [Prog.run_bind] at h
  generalize hfind : (Caching.findByMerchantId aead merchantId key).run _ s = found at h
  obtain ⟨found | found, t⟩ := found
  · dsimp only at h
    split_ifs at h
    · rw [Prog.run_bind] at h
      generalize hinsert : (Caching.insertMerchant aead _ key).run _ t = inserted at h
      obtain ⟨inserted | inserted, t'⟩ := inserted
      · dsimp only at h
        split_ifs at h
        · exact merchantCache_of_find h
        · cases h
      · cases h
        exact merchantCache_of_insert hinsert
    · cases h
  · cases h
    exact merchantCache_of_find hfind

/-! ## Entities -/

theorem run_cachedEntity {entityId : String} {entity : Entity}
    (h : s.entityCache entityId = some entity) :
    (Caching.findByEntityId entityId).run (KeyStore.exec service) s = (.ok entity, s) := by
  have hlookup : (lookupEntity entityId).run (KeyStore.exec service) s = (some entity, s) :=
    congrArg (·, s) h
  exact Prog.run_bind_of hlookup _

/-- An entity that is found has the id asked for. -/
theorem entityId_of_find {entityId : String} {entity : Entity}
    (h : (findByEntityId entityId).run (KeyStore.exec service) s = (.ok entity, s')) :
    entity.entityId = entityId := by
  obtain ⟨pool, t, hroute, hselect⟩ := Prog.run_andThen_eq_ok h
  have hrow : (oneRow ((t.shown pool).entityRow entityId)).mapError DieselError.toEntityDBError =
      .ok entity := congrArg Prod.fst hselect
  cases hfound : (t.shown pool).entityRow entityId with
  | none =>
    rw [hfound] at hrow
    cases hrow
  | some row =>
    rw [hfound] at hrow
    cases hrow
    exact KeyStore.entityRow_key hfound

theorem entityCache_of_find {entityId : String} {entity : Entity}
    (h : (Caching.findByEntityId entityId).run (KeyStore.exec service) s = (.ok entity, s')) :
    s'.entityCache entityId = some entity := by
  have hlookup : (lookupEntity entityId).run (KeyStore.exec service) s =
      (s.entityCache entityId, s) := rfl
  have hrun := (Prog.run_bind_of hlookup _).symm.trans h
  cases hc : s.entityCache entityId with
  | some value =>
    rw [hc] at hrun
    cases hrun
    exact hc
  | none =>
    rw [hc] at hrun
    obtain ⟨found, t, hfind, hcache⟩ := Prog.run_andThen_eq_ok hrun
    rw [← entityId_of_find hfind]
    cases hcache
    exact Function.update_self ..

theorem entityCache_of_findOrCreate {nanoId entityId : String} {entity : Entity}
    (h : (findOrCreateEntity nanoId entityId).run (KeyStore.exec service) s =
      (.ok entity, s')) : s'.entityCache entityId = some entity := by
  unfold findOrCreateEntity at h
  rw [Prog.run_bind] at h
  generalize hfind : (Caching.findByEntityId entityId).run _ s = found at h
  obtain ⟨found | found, t⟩ := found
  · dsimp only at h
    split_ifs at h
    · obtain ⟨identifier, t', -, hchanged⟩ := Prog.run_andThen_eq_ok h
      obtain ⟨output, u, -, hcache⟩ := Prog.run_andThen_eq_ok (Prog.run_mapError_eq_ok hchanged)
      cases hcache
      exact Function.update_self ..
    · cases h
  · cases h
    exact entityCache_of_find hfind

end Caches

/-! ## Key providers -/

section Providers

variable {σ : Type} {service : KeyService σ} {dataService : DataService σ} {s s' : ApiState σ}
  {state : TenantState} {drawn : Drawn} {entityId : String}
  {manager : CryptoOperationsManager}

/-- A key call changes its part of the state only. -/
theorem run_liftKey_eq {α : Type} {p : KeyApp α} {a : α}
    (h : (liftKey p).run (ApiState.exec service dataService) s = (a, s')) :
    p.run (KeyStore.exec service) s.keys = (a, s'.keys) ∧ s' = { s with keys := s'.keys } := by
  rw [run_liftKey] at h
  cases h
  exact ⟨rfl, rfl⟩

/-- A key call that changes nothing. -/
theorem run_liftKey_of {α : Type} {p : KeyApp α} {a : α}
    (h : p.run (KeyStore.exec service) s.keys = (a, s.keys)) :
    (liftKey p).run (ApiState.exec service dataService) s = (a, s) := by
  rw [run_liftKey, h]

/-- The key holder that is handed out is in the cache. -/
theorem findKeyHolder_of_findOrCreate
    (h : (findOrCreateKeyHolder state drawn entityId).run (ApiState.exec service dataService) s =
      (.ok manager, s')) :
    s' = { s with keys := s'.keys } ∧ ∀ t : ApiState σ, t.keys = s'.keys →
      (findKeyHolder state entityId).run (ApiState.exec service dataService) t =
        (.ok manager, t) := by
  unfold findOrCreateKeyHolder at h
  unfold findKeyHolder
  split_ifs at h with hexternal
  · rw [if_pos hexternal]
    obtain ⟨entity, u, hchanged, hpure⟩ := Prog.run_andThen_eq_ok h
    obtain ⟨hrun, hframe⟩ := run_liftKey_eq (run_orApiError_eq_ok hchanged)
    cases hpure
    refine ⟨hframe, fun t ht => ?_⟩
    have hcached : (Caching.findByEntityId entityId).run (KeyStore.exec service) t.keys =
        (.ok entity, t.keys) :=
      run_cachedEntity (by rw [ht]; exact entityCache_of_findOrCreate hrun)
    exact Prog.run_andThen_ok (run_orApiError_ok (run_liftKey_of hcached)) _
  · rw [if_neg hexternal]
    have hagain : ∀ {merchant : Merchant} (t : ApiState σ),
        t.keys.merchantCache entityId = some merchant →
        (internalFindByEntityId state entityId).run (ApiState.exec service dataService) t =
          (.ok (internalManager merchant), t) := by
      intro merchant t ht
      have hcached : (Caching.findByMerchantId (state.aead none) entityId ⟨state.masterKey⟩).run
          (KeyStore.exec service) t.keys = (.ok merchant, t.keys) := run_cachedMerchant ht
      exact Prog.run_andThen_ok (run_orApiFault_ok (run_liftKey_of hcached)) _
    unfold internalFindOrCreateEntity at h
    rw [Prog.run_bind] at h
    generalize hfind : (liftKey (Caching.findByMerchantId (state.aead none) entityId
      ⟨state.masterKey⟩)).run (ApiState.exec service dataService) s = found at h
    obtain ⟨found | found, u⟩ := found
    · dsimp only at h
      split_ifs at h
      · obtain ⟨merchant, v, hchanged, hpure⟩ := Prog.run_andThen_eq_ok h
        obtain ⟨hrun, hframe⟩ := run_liftKey_eq (run_orApiFault_eq_ok hchanged)
        obtain ⟨-, hframe'⟩ := run_liftKey_eq hfind
        cases hpure
        refine ⟨by rw [hframe, hframe'], fun t ht => hagain t ?_⟩
        rw [ht]
        exact merchantCache_of_findOrCreate hrun
      · cases congrArg Prod.fst h
    · obtain ⟨hrun, hframe⟩ := run_liftKey_eq hfind
      cases h
      refine ⟨hframe, fun t ht => hagain t ?_⟩
      rw [ht]
      exact merchantCache_of_find hrun

end Providers

end CardVault
