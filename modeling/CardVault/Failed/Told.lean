import CardVault.Absence
import CardVault.Domain

/-!
# Rows that a call is told of

In the mode that writes to Redis, the row that a get-or-insert of `src/src/domain`
answers was shown to it: Redis, a cache or Postgres answered it, or the call's own
`HSETNX` set it.

Main results:
* `told_findResourceByIdInner`, `told_insertResourceInner`: the helpers.
* `told_getOrInsertVault`, `told_getOrInsertLocker`, `told_insertOrGetHash`,
  `told_getOrInsertFingerprint`: the compositions.
-/

namespace CardVault

open Interaction

/-! ## What calls tell -/

/-- A call of a find, or of an insert that goes through Redis. It caches rows in `B`. -/
def Cmd.Inserts (B : Row → Prop) : Cmd → Prop
  | .query _ (.execute _) => False
  | .setHashFields .. => False
  | .deleteHashFields .. => False
  | .streamAppendEntry _ entry => ∃ mk, entry.query.statement.effect = .insert mk
  | .cacheFingerprint _ value => B (.fingerprint value)
  | .cacheHashTable _ value => B (.hashTable value)
  | _ => True

/-- An answer in the mode that writes to Redis, which shows rows in `B` only. An
    `HSETNX` that sets the field shows the row it was given. -/
def Reply.Shows (B : Row → Prop) : (c : Cmd) → Reply c → Prop
  | .runtimeConfig, reply => ∃ values : RuntimeConfigValues,
    reply = some values ∧ values.enableKv = .enabled
  | .query _ q, reply => ∀ out, reply = Except.ok out → ∀ row, q.outputRow out = some row → B row
  | .getHashField .., reply => ∀ row, reply = Except.ok row → B row
  | .setHashFieldIfNotExist _ _ value _, reply => reply = Except.ok HsetnxReply.keySet → B value
  | .lookupFingerprint _, reply => ∀ value, reply = some value → B (.fingerprint value)
  | .lookupHashTable _, reply => ∀ value, reply = some value → B (.hashTable value)
  | _, _ => True

/-- Told of rows in `B`, the program ends with a value in `Q`. -/
abbrev Told (B : Row → Prop) {α : Type} (p : App α) (Q : α → Prop) : Prop :=
  p.Meets (Cmd.Inserts B) (Reply.Shows B) Q

/-- An answer with a row in `B`. -/
def KvResource.In (M : KvResource) (B : Row → Prop) (reply : Except M.Error M.DieselEntity) :
    Prop := ∀ e, reply = .ok e → B (M.serialize e)

theorem KvResource.in_error {M : KvResource} {B : Row → Prop} (err : M.Error) :
    M.In B (.error err) := by
  intro e he
  cases he

section Told

variable {B : Row → Prop} (ctx : KvStoreContext)

theorem told_kvSettings : Told B kvSettings (· = .enabled) := by
  refine Prog.Meets.mapResult ⟨trivial, ?_⟩
  rintro _ ⟨values, rfl, henabled⟩
  exact henabled

theorem told_getRedisConn : Told B getRedisConn fun _ => True := ⟨trivial, fun _ _ => trivial⟩

theorem told_pushToDrainerStream {query : SerializableQuery} {mk : ℕ → Row}
    (hquery : query.statement.effect = .insert mk) (key : PartitionKey) :
    Told B (pushToDrainerStream ctx query key) fun _ => True :=
  Prog.Meets.andThen told_getRedisConn (fun _ _ => trivial) fun _ _ =>
    Prog.Meets.mapResult ⟨⟨mk, hquery⟩, fun _ _ => trivial⟩

/-- An `HSETNX` whose entry is queued. -/
theorem told_kvWrapper_hSetNx {T : Type} (deserialize : Row → Option T) (field : String)
    (value : Row) {query : SerializableQuery} {mk : ℕ → Row}
    (hquery : query.statement.effect = .insert mk) (key : PartitionKey) :
    Told B (kvWrapper ctx deserialize (.hSetNx field value query) key)
      fun reply => reply = .ok (.hSetNx .keySet) → B value := by
  refine Prog.Meets.andThen told_getRedisConn (fun _ _ h => nomatch h) fun _ _ => ?_
  refine Prog.Meets.andThen (Q := fun reply => reply = .ok .keySet → B value)
    (Prog.Meets.mapResult ⟨trivial, fun reply hreply h => hreply ?_⟩) (fun _ _ h => nomatch h)
    fun reply hreply => ?_
  · cases (reply : Except RedisError HsetnxReply) with
    | ok v => cases h; rfl
    | error e => cases h
  · cases reply with
    | keySet =>
      exact Prog.Meets.andThen (told_pushToDrainerStream ctx hquery key) (fun _ _ h => nomatch h)
        fun _ _ _ => hreply rfl
    | keyNotSet => exact fun h => nomatch h

/-- An `HGET`, as a find reads its answer. -/
theorem told_hGet {M : KvResource} (hM : M.Spec) (key : PartitionKey) :
    Told B ((kvWrapper ctx M.deserialize (.hGet key.display) key).mapResult
      (hGetResult (E := M.Error) key.display))
      fun reply => ∀ e, reply = .ok (some e) → B (M.serialize e) := by
  have hget : Told B (kvWrapper ctx M.deserialize (.hGet key.display) key)
      fun reply => ∀ e, reply = .ok (.hGet e) → B (M.serialize e) := by
    refine Prog.Meets.andThen told_getRedisConn (fun _ _ _ h => nomatch h) fun _ _ => ?_
    refine Prog.Meets.andThen (Q := fun reply => ∀ e, reply = .ok e → B (M.serialize e))
      (Prog.Meets.mapResult (Prog.Meets.mapResult ⟨trivial, fun reply hreply e he => ?_⟩))
      (fun _ _ _ h => nomatch h) fun e he e' h => by cases h; exact he e rfl
    cases (reply : Except RedisError Row) with
    | error err => cases he
    | ok row =>
      dsimp only at he
      cases hd : M.deserialize row with
      | none =>
        rw [hd] at he
        cases he
      | some e' =>
        rw [hd] at he
        cases he
        rw [hM.serialize_of_deserialize row e hd]
        exact hreply row rfl
  refine Prog.Meets.mapResult (hget.mono fun reply hreply e he => ?_)
  cases reply with
  | error err => cases err <;> cases he
  | ok result =>
    cases result with
    | hGet v =>
      cases he
      exact hreply e rfl
    | _ => cases he

theorem told_routeConn {E : Type} [StorageErrorExt E] :
    Told B (routeConn : App (Except E DbPool)) fun _ => True := by
  refine Prog.Meets.bind (Q := fun _ => True) ⟨trivial, fun reply _ => ?_⟩ fun use _ => ?_
  · cases (reply : Bool) with
    | false => trivial
    | true => exact Prog.Meets.mapResult ⟨trivial, fun _ _ => trivial⟩
  · cases use with
    | false => exact Prog.Meets.mapResult ⟨trivial, fun _ _ => trivial⟩
    | true =>
      refine ⟨trivial, fun reply _ => ?_⟩
      cases (reply : Bool) with
      | false => trivial
      | true => exact Prog.Meets.mapResult ⟨trivial, fun _ _ => trivial⟩

theorem told_runQuery {E : Type} [StorageErrorExt E] (pool : DbPool) {q : Query}
    (hq : ∀ stmt, q ≠ .execute stmt) :
    Told B (runQuery pool q : App (Except E q.Output))
      fun reply => ∀ out, reply = .ok out → ∀ row, q.outputRow out = some row → B row := by
  refine Prog.Meets.mapResult ⟨?_, fun reply hreply out hout => hreply out ?_⟩
  · cases q with
    | execute stmt => exact hq stmt rfl
    | _ => trivial
  · cases (reply : Except DieselError q.Output) with
    | ok out' =>
      cases hout
      rfl
    | error e => cases hout

/-- A read of one row on either pool. -/
theorem told_storageFind (t : Resource) (pk : t.kvResource.PrimaryKeyType) :
    Told B (t.kvResource.storageFind pk) (t.kvResource.In B) := by
  have hrouted : ∀ {E : Type} [StorageErrorExt E] {q : Query}, (∀ stmt, q ≠ .execute stmt) →
      Told B (findOnRouted E q)
        fun reply => ∀ out, reply = .ok out → ∀ row, q.outputRow out = some row → B row :=
    fun hq => Prog.Meets.andThen told_routeConn (fun _ _ _ h => nomatch h)
      fun pool _ => told_runQuery pool hq
  have hconn : Told B (getConn : App (Except ReverseLookupDBError DbPool)) fun _ => True :=
    Prog.Meets.mapResult ⟨trivial, fun _ _ => trivial⟩
  cases t with
  | fingerprint =>
    exact (hrouted (q := .findFingerprint pk) fun _ => Query.noConfusion).mono
      fun _ h e he => h e he _ rfl
  | hashTable =>
    exact (hrouted (q := .findHashTable pk) fun _ => Query.noConfusion).mono
      fun _ h e he => h e he _ rfl
  | locker =>
    exact (hrouted (q := .findLocker pk) fun _ => Query.noConfusion).mono
      fun _ h e he => h e he _ rfl
  | reverseLookup =>
    exact Prog.Meets.andThen hconn (fun _ _ _ h => nomatch h) fun pool _ =>
      (told_runQuery pool (q := .findReverseLookup pk) fun _ => Query.noConfusion).mono
        fun _ h e he => h e he _ rfl
  | vault =>
    exact (hrouted (q := .findVault pk) fun _ => Query.noConfusion).mono
      fun _ h e he => h e he _ rfl

theorem told_findResourceByIdInner (t : Resource) (pk : t.kvResource.PrimaryKeyType) :
    Told B (findResourceByIdInner ctx t.kvResource pk) (t.kvResource.In B) := by
  refine Prog.Meets.bind (Q := fun _ => True) (Prog.Meets.mapResult
    (told_kvSettings.mono fun _ _ => trivial)) fun scheme _ => ?_
  cases scheme with
  | postgresOnly => exact told_storageFind t pk
  | redisKv =>
    refine Prog.Meets.andThen (told_hGet ctx t.spec _) (fun err _ => KvResource.in_error err)
      fun found hfound => ?_
    cases found with
    | none => exact told_storageFind t pk
    | some v =>
      intro e he
      cases he
      exact hfound v rfl

/-- An insert, after what it does first. -/
theorem told_insertResourceInner {M : KvResource} (hM : M.Spec) (new : M.DieselNew)
    (key : PartitionKey) {insertLookup : M.DieselNew → StorageScheme → App (Except M.Error Unit)}
    (hlookup : ∀ new scheme, Told B (insertLookup new scheme) fun _ => True) :
    Told B (insertResourceInner ctx M new key insertLookup) (M.In B) := by
  refine Prog.Meets.bind (Q := (· = .redisKv)) (Prog.Meets.mapResult
    (told_kvSettings.mono fun mode hmode => by rw [hmode])) ?_
  rintro _ rfl
  obtain ⟨mk, hmk, -⟩ := hM.insertStatement_effect (M.setStorageScheme new .redisKv)
  simp only [hM.generateInsertDrainerQuery_eq, mapKvError, Prog.pure_ok_andThen]
  refine Prog.Meets.andThen (hlookup _ _) (fun err _ => KvResource.in_error err) fun _ _ => ?_
  refine Prog.Meets.andThen (Q := fun reply => reply = .ok (.hSetNx .keySet) →
      B (M.serialize (M.intoEntity (M.setStorageScheme new .redisKv))))
    (Prog.Meets.mapResult ((told_kvWrapper_hSetNx ctx _ _ _ hmk key).mono
      fun reply hreply h => hreply ?_)) (fun err _ => KvResource.in_error err)
      fun reply hreply => ?_
  · cases reply with
    | ok v => cases h; rfl
    | error e => cases h
  · cases reply with
    | hSetNx v =>
      cases v with
      | keySet =>
        intro e he
        cases he
        exact hreply rfl
      | keyNotSet => exact KvResource.in_error _
    | _ => exact KvResource.in_error _

/-! ## The calls -/

/-- An answer of a model that is read from a row in `B`. -/
def KvResource.Models (M : KvResource) (B : Row → Prop) (reply : Except M.Error M.Model) : Prop :=
  ∀ m, reply = .ok m → ∃ e, M.intoModel e = m ∧ B (M.serialize e)

theorem KvResource.In.models {M : KvResource} {reply : Except M.Error M.DieselEntity}
    (h : M.In B reply) : M.Models B (reply.map M.intoModel) := by
  intro m hm
  cases reply with
  | error e => cases hm
  | ok e =>
    cases hm
    exact ⟨e, rfl, h e rfl⟩

theorem told_findResourceById (t : Resource) (pk : t.kvResource.PrimaryKeyType) :
    Told B (findResourceById ctx t.kvResource pk) (t.kvResource.Models B) :=
  Prog.Meets.mapResult ((told_findResourceByIdInner ctx t pk).mono fun _ h => h.models)

/-- A find that takes no row for an answer. -/
theorem told_findOptionalResourceById (t : Resource) (pk : t.kvResource.PrimaryKeyType) :
    Told B (findOptionalResourceById ctx t.kvResource pk)
      fun reply => ∀ m, reply = .ok (some m) →
        ∃ e, t.kvResource.intoModel e = m ∧ B (t.kvResource.serialize e) := by
  refine Prog.Meets.mapResult ((told_findResourceById ctx t pk).mono fun reply h m hm => ?_)
  cases reply with
  | ok m' =>
    cases hm
    exact h m rfl
  | error e =>
    rw [optionalResult] at hm
    split_ifs at hm
    cases hm

theorem told_insertResource {M : KvResource} (hM : M.Spec) (new : M.DieselNew)
    (key : PartitionKey) : Told B (insertResource ctx M new key) (M.Models B) := by
  refine Prog.Meets.mapResult ((told_insertResourceInner ctx hM new key ?_).mono
    fun _ h => h.models)
  exact fun _ _ => trivial

theorem told_insertLocker (new : LockerNew) :
    Told B (insertLocker ctx new) (Locker.kvResource.Models B) := by
  refine Prog.Meets.mapResult ((told_insertResourceInner ctx Locker.spec new _ ?_).mono
    fun _ h => h.models)
  intro new scheme
  exact Prog.Meets.mapResult ((told_insertResource ctx ReverseLookup.spec _ _).mono
    fun _ _ => trivial)

/-- The frame of every composition. -/
theorem told_onDuplicate {E α : Type} [StorageErrorExt E] {insert recover : App (Except E α)}
    {Q : Except E α → Prop} (hinsert : Told B insert Q) (hrecover : Told B recover Q) :
    Told B (onDuplicate insert recover) Q := by
  refine Prog.Meets.bind hinsert fun reply hreply => ?_
  cases reply with
  | ok a => exact hreply
  | error err =>
    dsimp only
    split_ifs
    · exact hrecover
    · exact hreply

theorem told_getOrInsertVault (new : VaultNew) :
    Told B (getOrInsertVault ctx new) (Vault.kvResource.Models B) := by
  refine told_onDuplicate (told_insertResource ctx Vault.spec _ _) ?_
  refine Prog.Meets.mapResult ((told_findOptionalResourceById ctx .vault _).mono
    fun reply h m hm => ?_)
  cases reply with
  | error e => cases hm
  | ok found =>
    cases found with
    | none => cases hm
    | some m' =>
      cases hm
      exact h m rfl

theorem told_getOrInsertLocker (new : LockerNew) :
    Told B (getOrInsertLocker ctx new) (Locker.kvResource.Models B) :=
  told_onDuplicate (told_insertLocker ctx new) (told_findResourceById ctx .locker _)

/-- `Ok(Some(row))` of a row in `B`. -/
def Finds {E α : Type} (B : Row → Prop) (row : α → Row) (reply : Except E (Option α)) : Prop :=
  ∀ a, reply = .ok (some a) → B (row a)

/-- A find behind a cache: `hit` goes on after the lookup, `store` after the find. -/
theorem told_findBehindCache {E α : Type} {row : α → Row} {lookup : App (Option α)}
    {find : App (Except E (Option α))} {hit store : Option α → App (Except E (Option α))}
    (hlookup : Told B lookup fun found => ∀ a, found = some a → B (row a))
    (hfind : Told B find (Finds B row)) (hsome : ∀ a, hit (some a) = .pure (.ok (some a)))
    (hnone : hit none = find.andThen store) (hmiss : store none = .pure (.ok none))
    (hstore : ∀ a, B (row a) → Told B (store (some a)) fun reply => reply = .ok (some a)) :
    Told B (lookup.bind hit) (Finds B row) := by
  refine Prog.Meets.bind hlookup fun found hfound => ?_
  cases found with
  | some a =>
    rw [hsome]
    exact fun a' ha => by cases ha; exact hfound _ rfl
  | none =>
    rw [hnone]
    refine Prog.Meets.andThen hfind (fun _ _ _ h => nomatch h) fun found hfound => ?_
    cases found with
    | none =>
      rw [hmiss]
      exact fun _ h => nomatch h
    | some a =>
      refine (hstore a (hfound a rfl)).mono ?_
      rintro _ rfl a' ha
      cases ha
      exact hfound _ rfl

/-- An insert behind a cache. -/
theorem told_insertBehindCache {E α : Type} {row : α → Row} {insert : App (Except E α)}
    {cache : α → App Unit} (hinsert : Told B insert fun reply => ∀ a, reply = .ok a → B (row a))
    (hcache : ∀ a, B (row a) → Told B (cache a) fun _ => True) :
    Told B (insert.andThen fun a => (cache a).mapResult fun _ => .ok a)
      fun reply => ∀ a, reply = .ok a → B (row a) := by
  refine Prog.Meets.andThen hinsert (fun _ _ _ h => nomatch h) fun a ha => ?_
  exact Prog.Meets.mapResult ((hcache a (ha a rfl)).mono fun _ _ a' ha' => by
    cases ha'; exact ha _ rfl)

theorem told_findOptionalByFingerprintHash (fingerprintHash : Bytes) :
    Told B (Caching.findOptionalByFingerprintHash ctx fingerprintHash)
      (Finds B Row.fingerprint) := by
  have hlookup : Told B (Caching.lookupFingerprint fingerprintHash)
      fun found => ∀ a, found = some a → B (.fingerprint a) := ⟨trivial, fun _ hreply => hreply⟩
  have hfind : Told B (findOptionalByFingerprintHash ctx fingerprintHash)
      (Finds B Row.fingerprint) := by
    refine (told_findOptionalResourceById ctx .fingerprint fingerprintHash).mono fun _ h a ha => ?_
    obtain ⟨e, rfl, he⟩ := h a ha
    exact he
  exact told_findBehindCache hlookup hfind (fun _ => rfl) rfl rfl fun _ ha => ⟨ha, fun _ _ => rfl⟩

theorem told_findOptionalByDataHash (dataHash : Bytes) :
    Told B (Caching.findOptionalByDataHash ctx dataHash) (Finds B Row.hashTable) := by
  have hlookup : Told B (Caching.lookupHashTable dataHash)
      fun found => ∀ a, found = some a → B (.hashTable a) := ⟨trivial, fun _ hreply => hreply⟩
  have hfind : Told B (findOptionalByDataHash ctx dataHash) (Finds B Row.hashTable) := by
    refine (told_findOptionalResourceById ctx .hashTable dataHash).mono fun _ h a ha => ?_
    obtain ⟨e, rfl, he⟩ := h a ha
    exact he
  exact told_findBehindCache hlookup hfind (fun _ => rfl) rfl rfl fun _ ha => ⟨ha, fun _ _ => rfl⟩

theorem Finds.orInsertError {E α : Type} {row : α → Row} {reply : Except E (Option α)}
    (h : Finds B row reply) (err : E) : ∀ a, orInsertError err reply = .ok a → B (row a) := by
  intro a ha
  cases reply with
  | error e => cases ha
  | ok found =>
    cases found with
    | none => cases ha
    | some a' =>
      cases ha
      exact h a rfl

theorem told_insertOrGetHash (uuid : String) (now : PrimitiveDateTime) (dataHash : Bytes) :
    Told B (insertOrGetHash ctx uuid now dataHash)
      fun reply => ∀ row, reply = .ok row → B (.hashTable row) := by
  have hinsert : Told B (Caching.insertHash ctx uuid now dataHash)
      fun reply => ∀ row, reply = .ok row → B (.hashTable row) :=
    told_insertBehindCache ((told_insertResource ctx HashTable.spec _ _).mono fun _ h a ha => by
      obtain ⟨e, rfl, he⟩ := h a ha; exact he) fun _ ha => ⟨ha, fun _ _ => trivial⟩
  exact told_onDuplicate hinsert (Prog.Meets.mapResult
    ((told_findOptionalByDataHash ctx dataHash).mono fun _ h => h.orInsertError _))

theorem told_getOrInsertFingerprint (sign : Bytes → Bytes → Bytes) (nanoId data key : String)
    (fingerprintId : Option String) :
    Told B (getOrInsertFingerprint ctx sign nanoId data key fingerprintId)
      fun reply => ∀ row, reply = .ok row → B (.fingerprint row) := by
  have hinsert : ∀ fingerprintHash fingerprintId,
      Told B (Caching.insertFingerprint ctx fingerprintHash fingerprintId)
        fun reply => ∀ row, reply = .ok row → B (.fingerprint row) := fun _ _ =>
    told_insertBehindCache ((told_insertResource ctx Fingerprint.spec _ _).mono fun _ h a ha => by
      obtain ⟨e, rfl, he⟩ := h a ha; exact he) fun _ ha => ⟨ha, fun _ _ => trivial⟩
  refine Prog.Meets.andThen (told_findOptionalByFingerprintHash ctx _)
    (fun _ _ _ h => nomatch h) fun found hfound => ?_
  cases found with
  | some value => exact fun a ha => by cases ha; exact hfound _ rfl
  | none =>
    exact told_onDuplicate (hinsert _ _) (Prog.Meets.mapResult
      ((told_findOptionalByFingerprintHash ctx _).mono fun _ h => h.orInsertError _))

end Told

end CardVault
