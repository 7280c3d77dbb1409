import CardVault.Lib.Traces
import CardVault.SoftKill

/-!
# Absence is not invented

An optional find of `src/src/storage/kv/resource.rs` answers `Ok(None)` for the
errors that a table sees as not-found. No failure of a call is one of them, on any
of the paths: the read of Redis, the nested read of the lookup record, and the
query of Postgres.

Main results:
* `Reports`, `Prepares`: what a find, and a step on its way, makes of the replies.
* `findResourceByIdInner_reports`: a find by key.
* `find_optional_none`: the optional finds, for every reply of every call.
-/

namespace CardVault

open Interaction

/-! ## Calls that fail -/

/-- The exchanges of one call of a helper with its surroundings. -/
abbrev Trace : Type := List (Exchange Cmd Reply)

/-- `Storage::get_redis_conn` has one error. -/
def Honest : (c : Cmd) → Reply c → Prop
  | .getRedisConn, r => r = (.ok () : Except RedisError Unit) ∨
      r = (.error .redisConnectionError : Except RedisError Unit)
  | _, _ => True

/-- A call that did not do what it was asked to; a value that Redis answered is read
    as a row of `M`. A row that is not there is no failure. -/
def Failed (M : KvResource) : Exchange Cmd Reply → Prop
  | ⟨.getConn _, r⟩ => (r : Except Unit Unit) = .error ()
  | ⟨.getRedisConn, r⟩ => ∃ e, (r : Except RedisError Unit) = .error e
  | ⟨.getHashField .., r⟩ =>
    (∃ e, (r : Except RedisError Row) = .error e ∧ e ≠ .notFound) ∨
      ∃ row, (r : Except RedisError Row) = .ok row ∧ M.deserialize row = none
  | ⟨.query _ q, r⟩ => ∃ e, (r : Except DieselError q.Output) = .error e ∧ e ≠ .notFound
  | ⟨.setHashFields .., r⟩ => ∃ e, (r : Except RedisError Unit) = .error e
  | ⟨.setHashFieldIfNotExist .., r⟩ => ∃ e, (r : Except RedisError HsetnxReply) = .error e
  | ⟨.deleteHashFields .., r⟩ => ∃ e, (r : Except RedisError ℕ) = .error e
  | ⟨.streamAppendEntry .., r⟩ => ∃ e, (r : Except RedisError Unit) = .error e
  | _ => False

/-- Some call failed. -/
def AnyFailed (M : KvResource) (t : Trace) : Prop := ∃ x ∈ t, Failed M x

/-- A read of Redis answered that the field is not there. -/
def Missed : Exchange Cmd Reply → Prop
  | ⟨.getHashField .., r⟩ => r = (.error .notFound : Except RedisError Row)
  | _ => True

/-- Every read of Redis answered that the field is not there. -/
def ReadsMissed (t : Trace) : Prop := ∀ x ∈ t, Missed x

/-- The last call was the query `q`, which answered no row. -/
def EndsWithout (q : Query) (t : Trace) : Prop :=
  ∃ pool, t.getLast? = some ⟨.query pool q, (.error .notFound : Except DieselError q.Output)⟩

section Lists

variable {M : KvResource} {t t' : Trace} {q : Query}

@[simp] theorem not_anyFailed_nil : ¬ AnyFailed M [] := by simp [AnyFailed]

@[simp] theorem readsMissed_nil : ReadsMissed [] := by simp [ReadsMissed]

theorem anyFailed_append : AnyFailed M (t ++ t') ↔ AnyFailed M t ∨ AnyFailed M t' := by
  simp only [AnyFailed, List.mem_append, or_and_right, exists_or]

theorem readsMissed_append : ReadsMissed (t ++ t') ↔ ReadsMissed t ∧ ReadsMissed t' := by
  simp only [ReadsMissed, List.mem_append, or_imp, forall_and]

theorem EndsWithout.append (h : EndsWithout q t') (t : Trace) : EndsWithout q (t ++ t') := by
  obtain ⟨pool, h⟩ := h
  exact ⟨pool, by rw [List.getLast?_append, h]; rfl⟩

end Lists

/-! ## What a program makes of the replies -/

/-- Of the errors of the pools, none is seen as not-found. -/
class LawfulPoolError (E : Type) [StorageErrorExt E] : Prop where
  poolClientFailure :
    StorageErrorExt.isNotFound (StorageErrorExt.fromStorageError .poolClientFailure : E) = false
  replicaPoolNotConfigured : StorageErrorExt.isNotFound
    (StorageErrorExt.fromStorageError .replicaPoolNotConfigured : E) = false

instance : LawfulPoolError VaultDBError := ⟨by decide, by decide⟩

instance : LawfulPoolError FingerprintDBError := ⟨by decide, by decide⟩

instance : LawfulPoolError HashDBError := ⟨by decide, by decide⟩

instance : LawfulPoolError ReverseLookupDBError := ⟨by decide, by decide⟩

section Reports

variable {E α β : Type} [StorageErrorExt E]

/-- A step on the way of a find: a failure is an error, and no error is seen as
    not-found; after a value in `miss`, Redis has held nothing. -/
structure Prepares (M : KvResource) (miss : α → Prop) (a : Except E α) (t : Trace) : Prop where
  failed : AnyFailed M t → ∃ e, a = .error e
  loud : ∀ e, a = .error e → StorageErrorExt.isNotFound e = false
  missed : ∀ v, a = .ok v → miss v → ReadsMissed t

/-- A find that ends with the query `q`: a failure is an error that is not seen as
    not-found; an error that is says that Redis and Postgres have no row. -/
structure Reports (M : KvResource) (q : Query) (a : Except E α) (t : Trace) : Prop where
  failed : AnyFailed M t → ∃ e, a = .error e ∧ StorageErrorExt.isNotFound e = false
  absent : ∀ e, a = .error e → StorageErrorExt.isNotFound e = true →
    ReadsMissed t ∧ EndsWithout q t

variable {M : KvResource} {miss : α → Prop} {q : Query} {t t' : Trace}

/-- An error on the way is what the find answers. -/
theorem Prepares.reports_error {e : E} (h : Prepares M miss (.error e : Except E α) t) :
    Reports M q (.error e : Except E β) t where
  failed _ := ⟨e, rfl, h.loud e rfl⟩
  absent e' he' hfound := by
    cases he'
    rw [h.loud e rfl] at hfound
    cases hfound

/-- A find after a step that found nothing. -/
theorem Prepares.reports {v : α} {a : Except E β}
    (h : Prepares M miss (.ok v : Except E α) t) (hv : miss v) (h' : Reports M q a t') :
    Reports M q a (t ++ t') where
  failed hfailed := by
    rcases anyFailed_append.1 hfailed with hfailed | hfailed
    · obtain ⟨e, he⟩ := h.failed hfailed
      cases he
    · exact h'.failed hfailed
  absent e he hfound := by
    obtain ⟨hmissed, hends⟩ := h'.absent e he hfound
    exact ⟨readsMissed_append.2 ⟨h.missed v rfl hv, hmissed⟩, hends.append t⟩

/-- A find that ends with a value already read. -/
theorem Prepares.reports_ok {v : α} {b : β} (h : Prepares M miss (.ok v : Except E α) t) :
    Reports M q (.ok b : Except E β) t where
  failed hfailed := by
    obtain ⟨e, he⟩ := h.failed hfailed
    cases he
  absent _ he := by cases he

theorem Reports.map {a : Except E α} (h : Reports M q a t) (f : α → β) :
    Reports M q (a.map f) t where
  failed hfailed := by
    obtain ⟨e, rfl, he⟩ := h.failed hfailed
    exact ⟨e, rfl, he⟩
  absent e he hfound := by
    cases a with
    | ok v => cases he
    | error e' =>
      cases he
      exact h.absent e rfl hfound

end Reports

/-! ## Steps on the way -/

section Steps

variable {E : Type} [StorageErrorExt E] (M : KvResource)

/-- A connection is there, or its absence is an error. -/
theorem getConn_prepares [LawfulPoolError E] :
    (getConn : App (Except E DbPool)).Always Honest (Prepares M fun _ => True) := by
  intro r _
  cases (r : Except Unit Unit) with
  | ok _ => exact ⟨by simp [AnyFailed, Failed], by simp, by simp [ReadsMissed, Missed]⟩
  | error _ =>
    refine ⟨fun _ => ⟨_, rfl⟩, fun e he => ?_, by simp [ReadsMissed, Missed]⟩
    cases he
    exact LawfulPoolError.poolClientFailure

theorem getReplicaConn_prepares [LawfulPoolError E] :
    (getReplicaConn : App (Except E DbPool)).Always Honest (Prepares M fun _ => True) := by
  intro has _
  cases (has : Bool) with
  | false =>
    refine ⟨fun _ => ⟨_, rfl⟩, fun e he => ?_, by simp [ReadsMissed, Missed]⟩
    cases he
    exact LawfulPoolError.replicaPoolNotConfigured
  | true =>
    intro r _
    cases (r : Except Unit Unit) with
    | ok _ => exact ⟨by simp [AnyFailed, Failed], by simp, by simp [ReadsMissed, Missed]⟩
    | error _ =>
      refine ⟨fun _ => ⟨_, rfl⟩, fun e he => ?_, by simp [ReadsMissed, Missed]⟩
      cases he
      exact LawfulPoolError.poolClientFailure

/-- Nothing fails while the pool is chosen. -/
theorem shouldUseReplica_always :
    shouldUseReplica.Always Honest fun _ t => ¬ AnyFailed M t ∧ ReadsMissed t := by
  intro has _
  cases (has : Bool) with
  | false => exact ⟨by simp [AnyFailed, Failed], by simp [ReadsMissed, Missed]⟩
  | true => exact fun r _ => ⟨by simp [AnyFailed, Failed], by simp [ReadsMissed, Missed]⟩

theorem routeConn_prepares [LawfulPoolError E] :
    (routeConn : App (Except E DbPool)).Always Honest (Prepares M fun _ => True) := by
  refine (shouldUseReplica_always M).bind fun use t ht => ?_
  have hafter : ∀ {p : App (Except E DbPool)}, p.Always Honest (Prepares M fun _ => True) →
      p.Always Honest fun a t' => Prepares M (fun _ => True) a (t ++ t') := fun h =>
    h.mono fun a t' hp => ⟨fun hfailed => hp.failed
      ((anyFailed_append.1 hfailed).resolve_left ht.1), hp.loud, fun v hv hmiss =>
        readsMissed_append.2 ⟨ht.2, hp.missed v hv hmiss⟩⟩
  cases use with
  | true => exact hafter (getReplicaConn_prepares M)
  | false => exact hafter (getConn_prepares M)

/-- A query that fails is an error that is not seen as not-found. -/
theorem runQuery_reports [LawfulStorageError E] (pool : DbPool) (q : Query) :
    (runQuery pool q : App (Except E q.Output)).Always Honest (Reports M q) := by
  intro r _
  cases hr : (r : Except DieselError q.Output) with
  | ok row => exact ⟨by simp [AnyFailed, Failed], by simp⟩
  | error e =>
    refine ⟨fun hfailed => ⟨_, rfl, ?_⟩, fun e' he' hfound => ?_⟩
    · have hne : e ≠ .notFound := by
        rintro rfl
        obtain ⟨x, hx, hfailed⟩ := hfailed
        obtain rfl := List.mem_singleton.1 hx
        obtain ⟨e, he, hne⟩ := hfailed
        cases he
        exact hne rfl
      rw [Bool.eq_false_iff]
      exact fun h => hne ((LawfulStorageError.isNotFound_fromDieselError e).1 h)
    · cases he'
      obtain rfl := (LawfulStorageError.isNotFound_fromDieselError e).1 hfound
      exact ⟨by simp [ReadsMissed, Missed], pool, rfl⟩

theorem findOnRouted_reports [LawfulStorageError E] [LawfulPoolError E] (q : Query) :
    (findOnRouted E q).Always Honest (Reports M q) :=
  (routeConn_prepares M).andThen (fun _ _ h => h.reports_error) fun pool _ h =>
    (runQuery_reports M pool q).mono fun _ _ h' => h.reports trivial h'

theorem findOnPrimary_reports [LawfulStorageError E] [LawfulPoolError E] (q : Query) :
    (findOnPrimary E q).Always Honest (Reports M q) :=
  (getConn_prepares M).andThen (fun _ _ h => h.reports_error) fun pool _ h =>
    (runQuery_reports M pool q).mono fun _ _ h' => h.reports trivial h'

/-- What a read of Redis makes of the reply. -/
def decoded : Except RedisError Row → Except RedisError M.DieselEntity
  | .error e => .error e
  | .ok value => (M.deserialize value).elim (.error .jsonDeserializationFailed) .ok

theorem getHashFieldAndDeserialize_eq (key field : String) :
    getHashFieldAndDeserialize M.deserialize key field =
      .call (.getHashField key field) fun r => .pure (decoded M r) := by
  refine congrArg (Prog.call _) (funext fun r => congrArg Prog.pure ?_)
  change (Except RedisError Row) at r
  cases r with
  | error e => rfl
  | ok row =>
    dsimp only [decoded]
    cases M.deserialize row <;> rfl

/-- A read of Redis that answers a row, or that there is none, has not failed. -/
theorem getHashField_always (key field : String) :
    (getHashFieldAndDeserialize M.deserialize key field).Always Honest fun a t =>
      ((∃ v, a = .ok v) → ¬ AnyFailed M t) ∧
        (a = .error .notFound → ¬ AnyFailed M t ∧ ReadsMissed t) := by
  have hfailed : ∀ r, AnyFailed M [⟨.getHashField key field, r⟩] → ∃ e, decoded M r = .error e ∧
      e ≠ .notFound := by
    rintro r ⟨x, hx, h⟩
    obtain rfl := List.mem_singleton.1 hx
    rcases h with ⟨e, rfl, he⟩ | ⟨row, rfl, hrow⟩
    · exact ⟨e, rfl, he⟩
    · exact ⟨.jsonDeserializationFailed, by simp [decoded, hrow], by simp⟩
  rw [getHashFieldAndDeserialize_eq]
  refine fun r _ => ⟨fun ⟨v, hv⟩ h => ?_, fun hmiss => ⟨fun h => ?_, ?_⟩⟩
  · obtain ⟨e, he, -⟩ := hfailed r h
    cases hv.symm.trans he
  · obtain ⟨e, he, hne⟩ := hfailed r h
    cases hmiss.symm.trans he
    exact hne rfl
  · intro x hx
    obtain rfl := List.mem_singleton.1 hx
    change (Except RedisError Row) at r
    cases r with
    | error e =>
      cases hmiss
      exact rfl
    | ok row =>
      dsimp only [decoded] at hmiss
      cases hd : M.deserialize row <;> rw [hd] at hmiss <;> cases hmiss

/-- An `HGet` answers a row, or that there is none, or an error. -/
theorem hGet_prepares [LawfulStorageError E] (ctx : KvStoreContext) (keyStr : String)
    (key : PartitionKey) :
    ((kvWrapper ctx M.deserialize (.hGet keyStr) key).mapResult
      (hGetResult (E := E) keyStr)).Always Honest (Prepares M (· = none)) := by
  have hloud : ∀ e : RedisError, e ≠ .notFound → StorageErrorExt.isNotFound
      (kvBackendError (e.toRedisFailedResponse keyStr) : E) = false := by
    intro e he
    rw [Bool.eq_false_iff]
    intro h
    obtain ⟨message, h⟩ := (LawfulStorageError.isNotFound_fromKvError (E := E) _).1 h
    cases e <;> first | exact he rfl | cases h
  have herror : ∀ (e : RedisError) (t : Trace), e ≠ .notFound →
      Prepares M (· = none) (hGetResult keyStr (.error e : Except RedisError
        (KvResult M.DieselEntity)) : Except E (Option M.DieselEntity)) t := by
    intro e t he
    have hresult : hGetResult keyStr (.error e : Except RedisError (KvResult M.DieselEntity)) =
        (.error (kvBackendError (e.toRedisFailedResponse keyStr)) : Except E _) := by
      cases e <;> first | rfl | exact absurd rfl he
    rw [hresult]
    refine ⟨fun _ => ⟨_, rfl⟩, fun e' he' => ?_, fun v hv => ?_⟩
    · cases he'
      exact hloud e he
    · cases hv
  refine Prog.Always.mapResult ?_
  -- the connection
  have hconn : getRedisConn.Always Honest fun a t =>
      (a = .ok () ∧ ¬ AnyFailed M t ∧ ReadsMissed t) ∨ a = .error .redisConnectionError := by
    intro r hr
    rcases hr with rfl | rfl
    · exact Or.inl ⟨rfl, by simp [AnyFailed, Failed], by simp [ReadsMissed, Missed]⟩
    · exact Or.inr rfl
  refine hconn.andThen (fun e t h => ?_) fun _ t h => ?_
  · rcases h with ⟨h, -⟩ | h
    · cases h
    · cases h
      exact herror _ t (by simp)
  · obtain ⟨-, hclean, hmissed⟩ := h.resolve_right (by simp)
    refine Prog.Always.andThen (Q := fun a t' => (∃ v, a = .ok v ∧ ¬ AnyFailed M t') ∨
      (a = .error .notFound ∧ ¬ AnyFailed M t' ∧ ReadsMissed t') ∨
        ∃ e, a = .error e ∧ e ≠ .notFound) ?_ (fun e t' h => ?_) fun v t' h => ?_
    · refine Prog.Always.mapResult
        ((getHashField_always M key.display keyStr).mono fun a t' h => ?_)
      cases a with
      | ok v => exact Or.inl ⟨v, rfl, h.1 ⟨v, rfl⟩⟩
      | error e =>
        by_cases he : e = .notFound
        · subst he
          exact Or.inr (Or.inl ⟨rfl, h.2 rfl⟩)
        · refine Or.inr (Or.inr ⟨redisErrorFromRef e, rfl, ?_⟩)
          cases e <;> first | exact absurd rfl he | simp [redisErrorFromRef]
    · rcases h with ⟨v, h, -⟩ | ⟨h, hclean', hmissed'⟩ | ⟨e', h, he⟩
      · cases h
      · cases h
        refine ⟨fun hfailed => ?_, fun e he => ?_, fun v _ _ => ?_⟩
        · exact absurd (anyFailed_append.1 hfailed) (by simp [hclean, hclean'])
        · cases he
        · exact readsMissed_append.2 ⟨hmissed, hmissed'⟩
      · cases h
        exact herror e _ he
    · have hclean' : ¬ AnyFailed M t' := by
        rcases h with ⟨w, -, h⟩ | ⟨h, -⟩ | ⟨e, h, -⟩
        · exact h
        · cases h
        · cases h
      change Prepares M (· = none) (.ok (some v) : Except E _) (t ++ (t' ++ []))
      rw [List.append_nil]
      refine ⟨fun hfailed => ?_, fun e he => ?_, fun w hw hmiss => ?_⟩
      · exact absurd (anyFailed_append.1 hfailed) (by simp [hclean, hclean'])
      · cases he
      · cases hw
        cases hmiss

/-- Nothing fails while the scheme is chosen. -/
theorem decideStorageSchemeForFindOperation_always :
    decideStorageSchemeForFindOperation.Always Honest fun _ t =>
      ¬ AnyFailed M t ∧ ReadsMissed t :=
  Prog.Always.mapResult (Prog.Always.mapResult fun _ _ =>
    ⟨by simp [AnyFailed, Failed], by simp [ReadsMissed, Missed]⟩)

end Steps

/-! ## Finds -/

/-- The query of a find by key. -/
def Resource.findQuery : (t : Resource) → t.kvResource.PrimaryKeyType → Query
  | .fingerprint, fingerprintHash => .findFingerprint fingerprintHash
  | .hashTable, dataHash => .findHashTable dataHash
  | .locker, pk => .findLocker pk
  | .reverseLookup, lookupId => .findReverseLookup lookupId
  | .vault, pk => .findVault pk

section Finds

variable (ctx : KvStoreContext)

theorem storageFind_reports (M : KvResource) (t : Resource) (pk : t.kvResource.PrimaryKeyType) :
    (t.kvResource.storageFind pk).Always Honest (Reports M (t.findQuery pk)) := by
  cases t with
  | fingerprint => exact findOnRouted_reports M (.findFingerprint pk)
  | hashTable => exact findOnRouted_reports M (.findHashTable pk)
  | locker => exact findOnRouted_reports M (.findLocker pk)
  | reverseLookup => exact findOnPrimary_reports M (.findReverseLookup pk)
  | vault => exact findOnRouted_reports M (.findVault pk)

/-- A step that changes nothing of what a find reports. -/
theorem Reports.after {E α : Type} [StorageErrorExt E] {M : KvResource} {q : Query}
    {a : Except E α} {t t' : Trace} (ht : ¬ AnyFailed M t ∧ ReadsMissed t)
    (h : Reports M q a t') : Reports M q a (t ++ t') where
  failed hfailed := h.failed ((anyFailed_append.1 hfailed).resolve_left ht.1)
  absent e he hfound :=
    ⟨readsMissed_append.2 ⟨ht.2, (h.absent e he hfound).1⟩, (h.absent e he hfound).2.append t⟩

/-- A find by key. -/
theorem findResourceByIdInner_reports (t : Resource) (pk : t.kvResource.PrimaryKeyType) :
    (findResourceByIdInner ctx t.kvResource pk).Always Honest
      (Reports t.kvResource (t.findQuery pk)) := by
  refine (decideStorageSchemeForFindOperation_always t.kvResource).bind fun scheme trace ht => ?_
  cases scheme with
  | postgresOnly => exact (storageFind_reports _ t pk).mono fun _ _ h => h.after ht
  | redisKv =>
    have hlawful : LawfulStorageError t.kvResource.Error := t.spec.lawfulError
    refine (hGet_prepares t.kvResource ctx _ _).andThen (fun e t' h => h.reports_error.after ht)
      fun found t' h => ?_
    cases found with
    | some v =>
      change Reports _ _ _ (trace ++ (t' ++ []))
      rw [List.append_nil]
      exact h.reports_ok.after ht
    | none => exact (storageFind_reports _ t pk).mono fun _ _ h' => (h.reports rfl h').after ht

theorem findResourceById_reports (t : Resource) (pk : t.kvResource.PrimaryKeyType) :
    (findResourceById ctx t.kvResource pk).Always Honest
      (Reports t.kvResource (t.findQuery pk)) :=
  Prog.Always.mapResult ((findResourceByIdInner_reports ctx t pk).mono fun _ _ h => h.map _)

/-- An optional find passes every failure on, and answers `Ok(None)` only for what
    the find reports as absent. -/
theorem Reports.optionalResult {E α : Type} [StorageErrorExt E] {M : KvResource} {q : Query}
    {a : Except E α} {t : Trace} (h : Reports M q a t) :
    (AnyFailed M t → ∃ e, optionalResult a = .error e) ∧
      (CardVault.optionalResult a = .ok none → ReadsMissed t ∧ EndsWithout q t) := by
  constructor
  · intro hfailed
    obtain ⟨e, rfl, he⟩ := h.failed hfailed
    exact ⟨e, by simp [CardVault.optionalResult, he]⟩
  · intro hnone
    cases a with
    | ok v => cases hnone
    | error e =>
      by_cases he : StorageErrorExt.isNotFound e = true
      · exact h.absent e rfl he
      · simp [CardVault.optionalResult, he] at hnone

/-- A read of Redis is a read of `key`. -/
def ReadsAt (key : String) : Cmd → Prop
  | .getHashField k _ => k = key
  | _ => True

theorem readsAt_findByLookupId (lookupId : String) :
    (findByLookupId ctx lookupId).Issues
      (ReadsAt (PartitionKey.reverseLookup lookupId).display) := by
  have hfind : (ReverseLookup.kvResource.storageFind lookupId).Issues
      (ReadsAt (PartitionKey.reverseLookup lookupId).display) :=
    Prog.Issues.andThen (Prog.Issues.mapResult (Prog.issues_perform trivial)) fun _ =>
      Prog.Issues.mapResult (Prog.issues_perform trivial)
  refine Prog.Issues.mapResult (Prog.Issues.bind (Prog.Issues.mapResult (Prog.Issues.mapResult
    (Prog.issues_perform trivial))) fun scheme => ?_)
  cases scheme with
  | postgresOnly => exact hfind
  | redisKv =>
    refine Prog.Issues.andThen (Prog.Issues.mapResult (Prog.Issues.andThen
      (Prog.issues_perform trivial) fun _ => Prog.Issues.andThen (Prog.Issues.mapResult
        (Prog.Issues.mapResult (Prog.issues_perform rfl))) fun _ => trivial)) fun found => ?_
    cases found with
    | some v => trivial
    | none => exact hfind

/-- A find by lookup key: `nested` is what the nested read of the lookup record was
    told, `own` what the find itself was. -/
theorem findResourceByLookupId_reports (key : LockerHashLookupKey) :
    (findResourceByLookupId ctx Locker.kvSecondaryLookupResource key).Always Honest
      fun a t => ∃ nested own, t = nested ++ own ∧
        (∀ x ∈ nested, ReadsAt (PartitionKey.reverseLookup key.getLookupKey.lookupId).display x.1) ∧
        (AnyFailed ReverseLookup.kvResource nested →
          ∃ e, a = .error e ∧ StorageErrorExt.isNotFound e = false) ∧
        Reports Locker.kvResource (.findLockerByHash key) a own := by
  have hissued : decideStorageSchemeForFindOperation.Issues
      (ReadsAt (PartitionKey.reverseLookup key.getLookupKey.lookupId).display) :=
    Prog.Issues.mapResult (Prog.Issues.mapResult (Prog.issues_perform trivial))
  have hconfig :=
    (decideStorageSchemeForFindOperation_always ReverseLookup.kvResource).issues hissued
  have hquery : (Locker.storageFindByLookup key).Always Honest
      (Reports Locker.kvResource (.findLockerByHash key)) :=
    Prog.Always.mapResult ((findOnRouted_reports Locker.kvResource (.findLockerByHash key)).mono
      fun _ _ h => h.map _)
  refine hconfig.bind fun scheme t ht => ?_
  cases scheme with
  | postgresOnly =>
    exact hquery.mono fun a own h => ⟨t, own, rfl, ht.2, fun hfailed => absurd hfailed ht.1.1, h⟩
  | redisKv =>
    have hnested := (findResourceById_reports ctx .reverseLookup key.getLookupKey.lookupId).issues
      (readsAt_findByLookupId ctx key.getLookupKey.lookupId)
    have hreads : ∀ {t' : Trace}, (∀ x ∈ t', ReadsAt
        (PartitionKey.reverseLookup key.getLookupKey.lookupId).display x.1) →
          ∀ x ∈ t ++ t', ReadsAt
            (PartitionKey.reverseLookup key.getLookupKey.lookupId).display x.1 :=
      fun h x hx => (List.mem_append.1 hx).elim (ht.2 x) (h x)
    have hclean : ∀ {t' : Trace}, AnyFailed ReverseLookup.kvResource (t ++ t') →
        AnyFailed ReverseLookup.kvResource t' := fun h =>
      (anyFailed_append.1 h).resolve_left ht.1.1
    have hlookup : ((findByLookupId ctx key.getLookupKey.lookupId).mapResult
        (lookupResult (E := VaultDBError))).Always Honest fun found t' =>
          (AnyFailed ReverseLookup.kvResource t' → found = .error .unknownError) ∧
          (∀ e, found = .error e → e = .unknownError) ∧
          ∀ x ∈ t', ReadsAt
            (PartitionKey.reverseLookup key.getLookupKey.lookupId).display x.1 := by
      refine Prog.Always.mapResult (hnested.mono fun found t' h => ⟨fun hfailed => ?_, ?_, h.2⟩)
      · obtain ⟨e, rfl, he⟩ := h.1.failed hfailed
        cases e <;> first | rfl | cases he
      · intro e he
        cases found with
        | ok lookup => cases he
        | error e' => cases e' <;> cases he <;> rfl
    refine hlookup.andThen (fun e t' h => ?_) fun found t' h => ?_
    · obtain rfl := h.2.1 e rfl
      refine ⟨t ++ t', [], by simp, hreads h.2.2, fun _ => ⟨_, rfl, rfl⟩, ?_, fun e he hfound => ?_⟩
      · exact fun hfailed => absurd hfailed (by simp)
      · cases he
        cases hfound
    · have hgone : ¬ AnyFailed ReverseLookup.kvResource (t ++ t') := fun hfailed =>
        nomatch h.1 (hclean hfailed)
      have hsplit : ∀ {p : App (Except VaultDBError Locker)},
          p.Always Honest (Reports Locker.kvResource (.findLockerByHash key)) →
          p.Always Honest fun a own => ∃ nested own', t ++ (t' ++ own) = nested ++ own' ∧
            (∀ x ∈ nested, ReadsAt
              (PartitionKey.reverseLookup key.getLookupKey.lookupId).display x.1) ∧
            (AnyFailed ReverseLookup.kvResource nested →
              ∃ e, a = .error e ∧ StorageErrorExt.isNotFound e = false) ∧
            Reports Locker.kvResource (.findLockerByHash key) a own' := fun hp =>
        hp.mono fun a own hown => ⟨t ++ t', own, (List.append_assoc ..).symm, hreads h.2.2,
          fun hfailed => absurd hfailed hgone, hown⟩
      cases found with
      | none => exact hsplit hquery
      | some keyStr =>
        refine hsplit ((hGet_prepares Locker.kvResource ctx keyStr
          (.combinationKey keyStr)).andThen (fun e t'' h' => h'.reports_error) fun row t'' h' => ?_)
        cases row with
        | some v =>
          change Reports _ _ _ (t'' ++ [])
          rw [List.append_nil]
          exact h'.reports_ok
        | none => exact hquery.mono fun _ _ h'' => h'.reports rfl h''

/-- Absence is not invented, whatever every call answers. An optional find by key
    answers an error when a call fails, and `Ok(None)` only after Redis held no row
    and the query for it answered none. So does an optional find by lookup key,
    where `nested` is the nested read of the lookup record. -/
theorem find_optional_none (t : Resource) (pk : t.kvResource.PrimaryKeyType)
    (key : LockerHashLookupKey) :
    ((findOptionalResourceById ctx t.kvResource pk).Always Honest fun answer trace =>
      (AnyFailed t.kvResource trace → ∃ e, answer = .error e) ∧
        (answer = .ok none → ReadsMissed trace ∧ EndsWithout (t.findQuery pk) trace)) ∧
    (findOptionalResourceByLookupId ctx Locker.kvSecondaryLookupResource key).Always Honest
      fun answer trace => ∃ nested own, trace = nested ++ own ∧
        (∀ x ∈ nested, ReadsAt (PartitionKey.reverseLookup key.getLookupKey.lookupId).display x.1) ∧
        (AnyFailed ReverseLookup.kvResource nested ∨ AnyFailed Locker.kvResource own →
          ∃ e, answer = .error e) ∧
        (answer = .ok none → ReadsMissed own ∧ EndsWithout (.findLockerByHash key) own) := by
  constructor
  · exact Prog.Always.mapResult ((findResourceById_reports ctx t pk).mono fun _ _ h =>
      h.optionalResult)
  · refine Prog.Always.mapResult ((findResourceByLookupId_reports ctx key).mono ?_)
    rintro a _ ⟨nested, own, rfl, hreads, hnested, hown⟩
    refine ⟨nested, own, rfl, hreads, ?_, hown.optionalResult.2⟩
    rintro (hfailed | hfailed)
    · obtain ⟨e, rfl, he⟩ := hnested hfailed
      exact ⟨e, by simp [optionalResult, he]⟩
    · exact hown.optionalResult.1 hfailed

end Finds

end CardVault
