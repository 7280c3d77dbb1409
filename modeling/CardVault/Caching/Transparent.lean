import CardVault.Caching.Wrappers
import CardVault.Lib.Histories

/-!
# Caching is transparent

Calls through `Caching<T>`, interleaved with each other, with the writes of other
processes and with evictions, over any storage `T` whose rows stay once they are
there. Whatever `T` fails with, a call returns a row that `T` has.

Main results:
* `guarantee`: the cache holds rows of `T` only.
* `call_keeps`: what a wrapped method returns, by what it was told.
* `caching_transparent`: the answers of the calls in every history.
-/

namespace CardVault

open Interaction

namespace Cached

/-! ## The inner storage -/

/-- A storage behind the interfaces, under one master key. Its answers and the moves of
    other processes are relations: it may fail at any time, and have stored a row
    all the same. A row stays, up to its serial number. -/
structure InnerStore (T : Interfaces) where
  State : Type
  masterKey : T.Algorithm
  row : State → (key : Key) → Option key.Value
  answers : State → (method : Method T) → method.Answer → State → Prop
  others : State → State → Prop
  row_names : ∀ s key value, row s key = some value → key.Names value
  row_answers : ∀ s method answer s' key value, answers s method answer s' →
    row s key = some value → ∃ value', row s' key = some value' ∧
      key.ignoreId value' = key.ignoreId value
  row_others : ∀ s s' key value, others s s' → row s key = some value →
    ∃ value', row s' key = some value' ∧ key.ignoreId value' = key.ignoreId value
  answers_row : ∀ s method answer s', method.Uses masterKey → answers s method answer s' →
    ∀ x ∈ method.rows answer, ∃ value, row s' x.1 = some value ∧
      x.1.ignoreId value = x.1.ignoreId x.2

variable {T : Interfaces} (inner : InnerStore T)

/-- The storage has this row, up to its serial number. -/
def InnerStore.Has (s : inner.State) (x : Method.Row) : Prop :=
  ∃ value, inner.row s x.1 = some value ∧ x.1.ignoreId value = x.1.ignoreId x.2

/-- A process with its cache. -/
structure State where
  inner : inner.State
  cache : (key : Key) → Option key.Value

/-- How a command is answered. -/
def Answers (s : State inner) : (c : Cmd T) → Reply c → State inner → Prop
  | .lookup key, reply, s' => reply = s.cache key ∧ s' = s
  | .cacheData key value, _, s' => s' = { s with cache := Function.update s.cache key (some value) }
  | .inner method, answer, s' =>
    ∃ t, inner.answers s.inner method answer t ∧ s' = { s with inner := t }

/-- What happens in between: an eviction, or a move of another process. -/
inductive Others : State inner → State inner → Prop
  | evict (s : State inner) (key : Key) :
      Others s { s with cache := Function.update s.cache key none }
  | write (s : State inner) (t : inner.State) (hmove : inner.others s.inner t) :
      Others s { s with inner := t }

/-! ## Obligations -/

/-- A row of an exchange: a hit of the cache, or a row that the storage answered. -/
def told : Exchange (Cmd T) Reply → List Method.Row
  | ⟨.lookup key, reply⟩ => (reply : Option key.Value).toList.map fun value => ⟨key, value⟩
  | ⟨.cacheData .., _⟩ => []
  | ⟨.inner method, answer⟩ => method.rows answer

/-- The storage is asked under its master key, and a row is cached under the key it
    was told for. -/
def Allowed (trace : List (Exchange (Cmd T) Reply)) : Cmd T → Prop
  | .lookup _ => True
  | .cacheData key value => ∃ x ∈ trace, ⟨key, value⟩ ∈ told x
  | .inner method => method.Uses inner.masterKey

/-- The rows of a reply have the key they are told for. -/
def Honest (c : Cmd T) (reply : Reply c) : Prop :=
  ∀ x ∈ told (⟨c, reply⟩ : Exchange (Cmd T) Reply), x.1.Names x.2

/-- The cache holds rows of the storage only. -/
def Coherent (s : State inner) : Prop :=
  ∀ key value, s.cache key = some value → inner.Has s.inner ⟨key, value⟩

/-- The storage has the rows of the exchange. -/
def Fact (s : State inner) (x : Exchange (Cmd T) Reply) : Prop :=
  ∀ row ∈ told x, inner.Has s.inner row

variable {inner}

/-- A row stays while the storage is asked. -/
theorem has_of_answers {s t : inner.State} {method : Method T} {answer : method.Answer}
    {x : Method.Row} (h : inner.answers s method answer t) (hx : inner.Has s x) :
    inner.Has t x := by
  obtain ⟨value, hrow, hsame⟩ := hx
  obtain ⟨value', hrow', hsame'⟩ := inner.row_answers _ _ _ _ _ _ h hrow
  exact ⟨value', hrow', hsame'.trans hsame⟩

/-- A row stays while other processes move. -/
theorem has_of_others {s t : inner.State} {x : Method.Row} (h : inner.others s t)
    (hx : inner.Has s x) : inner.Has t x := by
  obtain ⟨value, hrow, hsame⟩ := hx
  obtain ⟨value', hrow', hsame'⟩ := inner.row_others _ _ _ _ h hrow
  exact ⟨value', hrow', hsame'.trans hsame⟩

/-- A row of the storage has the key it is stored under. -/
theorem names_of_has {s : inner.State} {x : Method.Row} (hx : inner.Has s x) :
    x.1.Names x.2 := by
  obtain ⟨value, hrow, hsame⟩ := hx
  exact (Key.names_iff_of_ignoreId hsame).1 (inner.row_names _ _ _ hrow)

/-- The inner storage of one answer, by its own answer or as it was. -/
theorem has_answers {s s' : State inner} {c : Cmd T} {reply : Reply c}
    (h : Answers inner s c reply s') {x : Method.Row} (hx : inner.Has s.inner x) :
    inner.Has s'.inner x := by
  cases c with
  | lookup key =>
    rw [h.2]
    exact hx
  | cacheData key value =>
    have hs : s' = _ := h
    rw [hs]
    exact hx
  | inner method =>
    obtain ⟨t, hanswer, rfl⟩ := h
    exact has_of_answers hanswer hx

/-- What the storage or the coherent cache has just answered is there. -/
theorem fact_answers {s s' : State inner} {c : Cmd T} {reply : Reply c}
    {trace : List (Exchange (Cmd T) Reply)} (hs : Coherent inner s)
    (hok : Allowed inner trace c) (h : Answers inner s c reply s') :
    Fact inner s' ⟨c, reply⟩ := by
  intro row hrow
  cases c with
  | lookup key =>
    obtain ⟨hreply, rfl⟩ := h
    subst hreply
    simp only [told, List.mem_map, Option.mem_toList] at hrow
    obtain ⟨value, hvalue, rfl⟩ := hrow
    exact hs key value hvalue
  | cacheData key value => exact nomatch hrow
  | inner method =>
    obtain ⟨t, hanswer, rfl⟩ := h
    exact inner.answers_row _ _ _ _ hok hanswer row hrow

/-- A row of the storage may be cached. -/
theorem Coherent.cacheData {s : State inner} (hs : Coherent inner s) {key : Key}
    {value : key.Value} (h : inner.Has s.inner ⟨key, value⟩) :
    Coherent inner { s with cache := Function.update s.cache key (some value) } := by
  intro key' value' hvalue
  by_cases hkey : key' = key
  · subst hkey
    simp only [Function.update_self, Option.some.injEq] at hvalue
    rw [← hvalue]
    exact h
  · simp only [Function.update_of_ne hkey] at hvalue
    exact hs key' value' hvalue

theorem Coherent.evict {s : State inner} (hs : Coherent inner s) (key : Key) :
    Coherent inner { s with cache := Function.update s.cache key none } := by
  intro key' value' hvalue
  by_cases hkey : key' = key
  · subst hkey
    simp only [Function.update_self] at hvalue
    cases hvalue
  · simp only [Function.update_of_ne hkey] at hvalue
    exact hs key' value' hvalue

/-- The cache holds rows of the storage only, whatever the calls do. -/
theorem guarantee : Threads.Guarantee (Answers inner) (Others inner) (Allowed inner) Honest
    (Coherent inner) (Fact inner) where
  honest_answer s t c reply s' hs hok h x hx := names_of_has (fact_answers hs hok h x hx)
  fact_answer s t c reply s' hs hok h := fact_answers hs hok h
  stable_answer s c reply s' x hs h hx := fun row hrow => has_answers h (hx row hrow)
  inv_answer s t c reply s' hs hfacts hok h := by
    cases c with
    | lookup key =>
      rw [h.2]
      exact hs
    | cacheData key value =>
      obtain ⟨x, hx, htold⟩ := hok
      have hs' : s' = _ := h
      rw [hs']
      exact hs.cacheData (hfacts x hx _ htold)
    | inner method =>
      obtain ⟨t, hanswer, rfl⟩ := h
      exact fun key value hvalue => has_of_answers hanswer (hs key value hvalue)
  inv_others s s' hs h := by
    cases h with
    | evict key => exact hs.evict key
    | write t hmove => exact fun key value hvalue => has_of_others hmove (hs key value hvalue)
  stable_others s s' x hs h hx := by
    intro row hrow
    cases h with
    | evict => exact hx row hrow
    | write t hmove => exact has_of_others hmove (hx row hrow)

/-! ## What a call returns -/

/-- The exchange caches nothing. -/
def CachesNothing : Exchange (Cmd T) Reply → Prop
  | ⟨.cacheData .., _⟩ => False
  | _ => True

/-- The rows returned were told; where there is none, the storage has answered the same
    in this call, and an insert has cached nothing. -/
structure Vouched (rows : List Method.Row) (asked : Exchange (Cmd T) Reply) (inserts : Prop)
    (trace : List (Exchange (Cmd T) Reply)) : Prop where
  told : ∀ row ∈ rows, ∃ x ∈ trace, row ∈ told x
  asked : rows = [] → asked ∈ trace
  cachesNothing : rows = [] → inserts → ∀ x ∈ trace, CachesNothing x

variable (inner) in
/-- The obligation of a program of the wrapper. -/
abbrev Keeps {α : Type} (p : App T α) (Q : α → List (Exchange (Cmd T) Reply) → Prop)
    (trace : List (Exchange (Cmd T) Reply)) : Prop :=
  Threads.Keeps (Allowed inner) Honest p Q trace

theorem keeps_inner {method : Method T} (huses : method.Uses inner.masterKey)
    {Q : method.Answer → List (Exchange (Cmd T) Reply) → Prop}
    {trace : List (Exchange (Cmd T) Reply)}
    (h : ∀ answer, (∀ x ∈ method.rows answer, x.1.Names x.2) →
      Q answer (trace ++ [⟨.inner method, answer⟩])) :
    Keeps inner (Cached.inner method) Q trace := by
  refine ⟨huses, fun answer t hnext => ?_⟩
  obtain ⟨hhonest, rfl⟩ := hnext
  exact h answer hhonest

theorem keeps_cacheData {key : Key} {value : key.Value}
    {trace : List (Exchange (Cmd T) Reply)} (htold : ∃ x ∈ trace, ⟨key, value⟩ ∈ told x)
    {Q : Unit → List (Exchange (Cmd T) Reply) → Prop}
    (h : Q () (trace ++ [⟨.cacheData key value, ()⟩])) :
    Keeps inner (Cached.cacheData key value) Q trace := by
  refine ⟨htold, fun _ t hnext => ?_⟩
  obtain ⟨-, rfl⟩ := hnext
  exact h

section Through

variable {E α : Type} (key : Key)

/-- A wrapped find: `rows` and `asked` are the rows and the exchange of an answer. -/
theorem keeps_findThrough (hit : key.Value → α) (found : α → Option key.Value)
    {find : App T (Except E α)} {cache : key.Value → App T Unit}
    {rows : Except E α → List Method.Row} {asked : Except E α → Exchange (Cmd T) Reply}
    (hfind : ∀ trace Q, (∀ reply, (∀ x ∈ rows reply, x.1.Names x.2) →
      Q reply (trace ++ [asked reply])) → Keeps inner find Q trace)
    (hasked : ∀ reply, told (asked reply) = rows reply)
    (hhit : ∀ value, rows (.ok (hit value)) = [⟨key, value⟩])
    (hfound : ∀ output, rows (.ok output) = (found output).toList.map fun value => ⟨key, value⟩)
    (hcache : ∀ value, key.Names value → cache value = cacheData key value) :
    Keeps inner (findThrough (lookup key) hit find found cache)
      (fun reply trace => Vouched (rows reply) (asked reply) False trace) [] := by
  refine ⟨trivial, fun reply t hnext => ?_⟩
  obtain ⟨-, rfl⟩ := hnext
  cases (reply : Option key.Value) with
  | some value =>
    -- a hit
    refine ⟨fun row hrow => ⟨⟨.lookup key, some value⟩, List.mem_singleton_self _, ?_⟩,
      fun hnone => ?_, fun _ h => h.elim⟩
    · rw [hhit] at hrow
      exact hrow
    · rw [hhit] at hnone
      cases hnone
  | none =>
    have hvouched : ∀ (reply : Except E α) (more : List (Exchange (Cmd T) Reply)),
        Vouched (rows reply) (asked reply) False ([⟨.lookup key, none⟩] ++ [asked reply] ++ more) :=
      fun reply more =>
        { told := fun row hrow => ⟨asked reply, by simp, by rwa [hasked]⟩
          asked := fun _ => by simp
          cachesNothing := fun _ h => h.elim }
    refine (Prog.wp_andThen ..).2 (hfind _ _ fun reply hnames => ?_)
    cases reply with
    | error e =>
      have h := hvouched (.error e) []
      rwa [List.append_nil] at h
    | ok output =>
      cases hrow : found output with
      | none =>
        have h := hvouched (.ok output) []
        rw [List.append_nil] at h
        simp only [hrow]
        exact h
      | some value =>
        have hmem : ⟨key, value⟩ ∈ rows (.ok output) := by
          rw [hfound, hrow]
          exact List.mem_singleton_self _
        have hkeeps : Keeps inner ((cache value).mapResult fun _ => Except.ok (ε := E) output)
            (fun reply trace => Vouched (rows reply) (asked reply) False trace)
            ([⟨.lookup key, none⟩] ++ [asked (.ok output)]) := by
          rw [hcache value (hnames _ hmem)]
          refine (Prog.wp_mapResult ..).2 (keeps_cacheData ?_ (hvouched (.ok output) _))
          exact ⟨asked (.ok output), by simp, by rwa [hasked]⟩
        simp only [hrow]
        exact hkeeps

/-- A wrapped insert. -/
theorem keeps_insertThrough {insert : App T (Except E key.Value)} {cache : key.Value → App T Unit}
    {rows : Except E key.Value → List Method.Row}
    {asked : Except E key.Value → Exchange (Cmd T) Reply}
    (hinsert : ∀ trace Q, (∀ reply, (∀ x ∈ rows reply, x.1.Names x.2) →
      Q reply (trace ++ [asked reply])) → Keeps inner insert Q trace)
    (hasked : ∀ reply, told (asked reply) = rows reply)
    (hquiet : ∀ reply, CachesNothing (asked reply))
    (hrows : ∀ value, rows (.ok value) = [⟨key, value⟩])
    (hcache : ∀ value, key.Names value → cache value = cacheData key value) :
    Keeps inner (insertThrough insert cache)
      (fun reply trace => Vouched (rows reply) (asked reply) True trace) [] := by
  refine (Prog.wp_andThen ..).2 (hinsert _ _ fun reply hnames => ?_)
  cases reply with
  | error e =>
    refine ⟨fun row hrow => ⟨asked (.error e), by simp, by rwa [hasked]⟩, fun _ => by simp,
      fun _ _ x hx => ?_⟩
    rw [List.mem_singleton.1 hx]
    exact hquiet _
  | ok value =>
    have hmem : ⟨key, value⟩ ∈ rows (.ok value) := by
      rw [hrows]
      exact List.mem_singleton_self _
    have hkeeps : Keeps inner ((cache value).mapResult fun _ => Except.ok (ε := E) value)
        (fun reply trace => Vouched (rows reply) (asked reply) True trace)
        ([] ++ [asked (.ok value)]) := by
      rw [hcache value (hnames _ hmem)]
      refine (Prog.wp_mapResult ..).2 (keeps_cacheData ⟨asked (.ok value), by simp, by
        rwa [hasked]⟩ ⟨fun row hrow => ?_, fun hnone => ?_, fun hnone => ?_⟩)
      · exact ⟨asked (.ok value), by simp, by rwa [hasked]⟩
      · rw [hrows] at hnone
        cases hnone
      · rw [hrows] at hnone
        cases hnone
    exact hkeeps

end Through

/-- A method called through the wrapper. -/
theorem call_keeps {method : Method T} (huses : method.Uses inner.masterKey) :
    Keeps inner (call method) (fun answer trace =>
      Vouched (method.rows answer) ⟨.inner method, answer⟩ method.Inserts trace) [] := by
  cases method with
  | findAllKeysExcludingEntityKeys key limit =>
    exact keeps_inner huses fun answer _ =>
      ⟨fun row hrow => ⟨_, List.mem_singleton_self _, hrow⟩, fun _ => List.mem_singleton_self _,
        fun _ h => h.elim⟩
  | findByMerchantId merchantId key =>
    exact keeps_findThrough (.merchant merchantId) id some (fun _ _ h => keeps_inner huses h)
      (fun _ => rfl) (fun _ => rfl) (fun _ => rfl) fun _ _ => rfl
  | findOptionalByDataHash dataHash =>
    refine keeps_findThrough (.hashTable dataHash) some id (fun _ _ h => keeps_inner huses h)
      (fun _ => rfl) (fun _ => rfl) (fun output => ?_) fun _ _ => rfl
    cases output <;> rfl
  | findOptionalByFingerprintHash hash =>
    refine keeps_findThrough (.fingerprint hash) some id (fun _ _ h => keeps_inner huses h)
      (fun _ => rfl) (fun _ => rfl) (fun output => ?_) fun _ _ => rfl
    cases output <;> rfl
  | findByEntityId entityId =>
    -- cached under the id of the row, which is the one asked for
    refine keeps_findThrough (.entity entityId) id some (fun _ _ h => keeps_inner huses h)
      (fun _ => rfl) (fun _ => rfl) (fun _ => rfl) fun (value : Entity) hnames => ?_
    rw [show value.entityId = entityId from hnames]
  | insertMerchant new key =>
    exact keeps_insertThrough (.merchant new.merchantId) (fun _ _ h => keeps_inner huses h)
      (fun _ => rfl) (fun _ => trivial) (fun _ => rfl) fun _ _ => rfl
  | insertHash dataHash =>
    exact keeps_insertThrough (.hashTable dataHash) (fun _ _ h => keeps_inner huses h)
      (fun _ => rfl) (fun _ => trivial) (fun _ => rfl) fun _ _ => rfl
  | insertFingerprint hash fingerprintId =>
    refine keeps_insertThrough (.fingerprint hash) (fun _ _ h => keeps_inner huses h)
      (fun _ => rfl) (fun _ => trivial) (fun _ => rfl) fun (value : Fingerprint) hnames => ?_
    rw [show value.fingerprintHash = hash from hnames]
  | insertEntity entityId identifier =>
    exact keeps_insertThrough (.entity entityId) (fun _ _ h => keeps_inner huses h)
      (fun _ => rfl) (fun _ => trivial) (fun _ => rfl) fun _ _ => rfl

/-! ## Histories -/

/-- A process with an empty cache, about to make these calls. -/
def begin {ι : Type} (s : inner.State) (calls : ι → Method T) :
    Threads (State inner) ι (Cmd T) Reply (Exchange (Method T) Method.Answer) :=
  Threads.fresh { inner := s, cache := fun _ => none } fun i =>
    (call (calls i)).mapResult fun answer => ⟨calls i, answer⟩

/-- Caching is transparent: in every history, the rows that a call has returned are rows
    of the storage, an answer without one has been given by the storage in this call,
    and an insert that failed has cached nothing. -/
theorem caching_transparent {ι : Type} [DecidableEq ι] {calls : ι → Method T} {s : inner.State}
    {p : Threads (State inner) ι (Cmd T) Reply (Exchange (Method T) Method.Answer)}
    (hkey : ∀ i, (calls i).Uses inner.masterKey)
    (hrun : Threads.History (Answers inner) (Others inner) (begin s calls) p) {i : ι}
    {answer : Exchange (Method T) Method.Answer} (hended : p.thread i = .pure answer) :
    answer.1 = calls i ∧
      (∀ row ∈ answer.1.rows answer.2, inner.Has p.store.inner row) ∧
      (answer.1.rows answer.2 = [] →
        ⟨.inner answer.1, answer.2⟩ ∈ p.trace i ∧
          (answer.1.Inserts → ∀ x ∈ p.trace i, CachesNothing x)) := by
  have hfresh : (begin s calls).Invariant (Allowed inner) Honest (Coherent inner) (Fact inner)
      fun i answer trace => answer.1 = calls i ∧
        Vouched (answer.1.rows answer.2) ⟨.inner answer.1, answer.2⟩ answer.1.Inserts trace := by
    refine Threads.invariant_fresh (fun _ _ h => nomatch h) fun i => ?_
    refine (Prog.wp_mapResult ..).2 (Prog.wp_mono (call_keeps (hkey i)) ?_)
    exact fun _ _ h => ⟨rfl, h⟩
  have hinv := Threads.invariant_of_history guarantee hfresh hrun
  obtain ⟨hcall, hvouched⟩ := hinv.ended hended
  refine ⟨hcall, fun row hrow => ?_, fun hnone => ⟨hvouched.asked hnone,
    hvouched.cachesNothing hnone⟩⟩
  obtain ⟨x, hx, htold⟩ := hvouched.told row hrow
  exact hinv.facts i x hx row htold

/-! ## A find -/

/-- Interfaces with one master key and one error. -/
def plainInterfaces : Interfaces where
  Algorithm := Unit
  MerchantError := Unit
  HashError := Unit
  FingerprintError := Unit
  EntityError := Unit

/-- Rows under their keys; a method may add rows and answers rows that are there. -/
def growingStore : InnerStore plainInterfaces where
  State := { rows : (key : Key) → Option key.Value //
    ∀ key value, rows key = some value → key.Names value }
  masterKey := ()
  row s := s.1
  answers s method answer s' := (∀ key value, s.1 key = some value → s'.1 key = some value) ∧
    ∀ x ∈ method.rows answer, s'.1 x.1 = some x.2
  others s s' := ∀ key value, s.1 key = some value → s'.1 key = some value
  row_names s := s.2
  row_answers _ _ _ _ key value h hrow := ⟨value, h.1 key value hrow, rfl⟩
  row_others _ _ key value h hrow := ⟨value, h key value hrow, rfl⟩
  answers_row _ _ _ _ _ h x hx := ⟨x.2, h.2 x hx, rfl⟩

/-- The fingerprint row of a hash. -/
def fingerprintRow : Fingerprint :=
  { id := 1, fingerprintHash := [1], fingerprintId := "fingerprint", updatedBy := none }

/-- A storage with that row. -/
def oneFingerprint : growingStore.State :=
  ⟨fun
    | .fingerprint hash => if hash = [1] then some fingerprintRow else none
    | _ => none, fun key value hrow => by
      cases key with
      | fingerprint hash =>
        dsimp only at hrow
        split_ifs at hrow with hhash
        cases hrow
        exact hhash.symm
      | _ => cases hrow⟩

/-- The same find, made by two requests. -/
def twoFinds : Bool → Method plainInterfaces := fun _ => .findOptionalByFingerprintHash [1]

/-- The first find has cached the row, and the second has answered it from the cache. -/
theorem exists_twoFinds : ∃ p, Threads.History (Answers growingStore) (Others growingStore)
    (begin oneFingerprint twoFinds) p ∧
      p.thread false = .pure ⟨twoFinds false, .ok (some fingerprintRow)⟩ ∧
      ⟨.lookup (.fingerprint [1]), some fingerprintRow⟩ ∈ p.trace false := by
  have hthere : growingStore.answers oneFingerprint (twoFinds true) (.ok (some fingerprintRow))
      oneFingerprint := ⟨fun _ _ h => h, fun x hx => by
    rw [List.mem_singleton.1 hx]
    rfl⟩
  let empty : State growingStore := ⟨oneFingerprint, fun _ => none⟩
  let cached : State growingStore :=
    ⟨oneFingerprint, Function.update empty.cache (.fingerprint [1]) (some fingerprintRow)⟩
  have hmiss : Answers growingStore empty (.lookup (.fingerprint [1])) none empty := ⟨rfl, rfl⟩
  have hfound : Answers growingStore empty (.inner (twoFinds true)) (.ok (some fingerprintRow))
      empty := ⟨oneFingerprint, hthere, rfl⟩
  have hcached : Answers growingStore empty (.cacheData (.fingerprint [1]) fingerprintRow) ()
      cached := rfl
  have hhit : Answers growingStore cached (.lookup (.fingerprint [1])) (some fingerprintRow)
      cached := ⟨rfl, rfl⟩
  refine ⟨_, .tail (.tail (.tail (.tail .refl (.thread (i := true) rfl hmiss))
    (.thread (i := true) rfl hfound)) (.thread (i := true) rfl hcached))
    (.thread (i := false) rfl hhit), rfl, ?_⟩
  exact List.mem_singleton_self _

/-- A row that the cache has answered is in the storage. -/
theorem caching_transparent_find : ∃ p, Threads.History (Answers growingStore)
    (Others growingStore) (begin oneFingerprint twoFinds) p ∧
      InnerStore.Has growingStore p.store.inner ⟨.fingerprint [1], fingerprintRow⟩ := by
  obtain ⟨p, hrun, hended, -⟩ := exists_twoFinds
  have hkey : ∀ i, (twoFinds i).Uses growingStore.masterKey := fun _ => trivial
  exact ⟨p, hrun, (caching_transparent hkey hrun hended).2.1 _ (List.mem_singleton_self _)⟩

end Cached

end CardVault
