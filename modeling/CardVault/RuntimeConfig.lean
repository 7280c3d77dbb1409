import CardVault.Kv.Resource
import CardVault.Lib.Json
import CardVault.Lib.Runs

/-!
# Runtime configuration

`RuntimeConfigManager` (`src/src/runtime_config.rs`): a task fetches the endpoint
again and again and keeps the body of the last response that is JSON; `get` decodes
that body whenever the configuration is read. The test at the fetch and the decoder
at the read are two different ones: `serde_json` as a document of any shape, and
`serde_json` as `RuntimeConfigValues`.

Main results:
* `get_eq_lastGood_iff`: the histories in which `get` always answers the last fetched
  value that decodes.
* `get_lost`: a response that makes the configuration disappear.
-/

namespace CardVault

open Interaction

/-! ## Documents -/

/-- The variants of `KvState` in snake case. -/
def KvState.ofVariant : String → Option KvState
  | "disabled" => some .disabled
  | "enabled" => some .enabled
  | "soft_kill" => some .softKill
  | _ => none

/-- `KvState::deserialize`: the name of a variant, or an object with that name and
    `null`. -/
def KvState.deserialize : Json → Option KvState
  | .string name => ofVariant name
  | .object [(name, .null)] => ofVariant name
  | _ => none

/-- `RuntimeConfigValues::deserialize`: an object, or the fields one after the other;
    what is missing is the default. -/
def RuntimeConfigValues.deserialize : Json → Option RuntimeConfigValues
  | .object members => do
    let enableKv ← Json.field KvState.deserialize (some .disabled) "enable_kv" members
    let useReplica ← Json.field Json.toBool (some false) "use_replica" members
    return { enableKv, useReplica }
  | .array [] => some { enableKv := .disabled, useReplica := false }
  | .array [enableKv] => do
    return { enableKv := ← KvState.deserialize enableKv, useReplica := false }
  | .array [enableKv, useReplica] => do
    return { enableKv := ← KvState.deserialize enableKv, useReplica := ← useReplica.toBool }
  | _ => none

/-- `RuntimeConfigResponse`. -/
structure RuntimeConfigResponse where
  value : String
  deriving DecidableEq, Repr

/-- `RuntimeConfigResponse::deserialize`. -/
def RuntimeConfigResponse.deserialize : Json → Option RuntimeConfigResponse
  | .object members => do
    return { value := ← Json.field Json.toText none "value" members }
  | .array [value] => do
    return { value := ← value.toText }
  | _ => none

/-- The `serde_json` crate. A typed deserializer skips what it ignores without looking
    at it, so it may read a text that `from_str::<Value>` refuses. -/
structure SerdeJson where
  /-- `from_str::<Value>` accepts the text. -/
  isValue : String → Bool
  /-- The document that a typed deserializer reads from a text. -/
  fromStr : String → Option Json
  /-- The document that a typed deserializer reads from a body. -/
  fromSlice : Bytes → Option Json

/-! ## The manager -/

/-- What became of a request to the endpoint. -/
inductive HttpOutcome where
  | transportError
  | response (status : ℕ) (body : Bytes)
  deriving DecidableEq, Repr

/-- `StatusCode::is_success`. -/
def isSuccess (status : ℕ) : Bool := 200 ≤ status && status < 300

/-- The errors of `fetch_config`; their texts go to the log. -/
inductive FetchError where
  | requestFailed
  | nonSuccessStatus (status : ℕ)
  | badEnvelope
  | valueNotJson
  deriving DecidableEq, Repr

/-- `RuntimeConfigState`; `cache` is the last body that was kept. -/
inductive RuntimeConfigManager where
  | disabled
  | enabled (cache : Option String)
  deriving DecidableEq, Repr

namespace RuntimeConfigManager

variable (serde : SerdeJson)

/-- The value in the envelope of a response. -/
def envelope : HttpOutcome → Except FetchError String
  | .transportError => .error .requestFailed
  | .response status body =>
    if isSuccess status then
      match (serde.fromSlice body).bind RuntimeConfigResponse.deserialize with
      | some { value } => .ok value
      | none => .error .badEnvelope
    else .error (.nonSuccessStatus status)

/-- `fetch_config`. -/
def fetchConfig (outcome : HttpOutcome) : Except FetchError String :=
  match envelope serde outcome with
  | .ok value => if serde.isValue value then .ok value else .error .valueNotJson
  | .error e => .error e

/-- `prefetch`. -/
def prefetch (manager : RuntimeConfigManager) (outcome : HttpOutcome) : RuntimeConfigManager :=
  match manager with
  | .disabled => .disabled
  | .enabled cache =>
    match fetchConfig serde outcome with
    | .ok body => .enabled (some body)
    | .error _ => .enabled cache

/-- `get::<T>`, where `decode` is the `Deserialize` of `T`. -/
def get {T : Type} (decode : Json → Option T) : RuntimeConfigManager → Option T
  | .disabled => none
  | .enabled none => none
  | .enabled (some raw) => (serde.fromStr raw).bind decode

/-- `Storage::kv_settings`. -/
def kvSettings (manager : RuntimeConfigManager) : KvState :=
  ((get serde RuntimeConfigValues.deserialize manager).map RuntimeConfigValues.enableKv).getD
    .disabled

/-- The storage calls see the configuration through `get`. -/
theorem kvSettings_eq_mode (manager : RuntimeConfigManager) (s : Store)
    (h : s.runtimeConfig = get serde RuntimeConfigValues.deserialize manager) :
    kvSettings serde manager = s.mode := by
  rw [kvSettings, Store.mode, h]
  cases get serde RuntimeConfigValues.deserialize manager <;> rfl

/-! ## The last good value -/

section LastGood

variable {T : Type} (decode : Json → Option T)

/-- The fetched value, if it decodes. -/
def goodValue (outcome : HttpOutcome) : Option T :=
  match envelope serde outcome with
  | .ok value => (serde.fromStr value).bind decode
  | .error _ => none

/-- The last fetched value that decodes. -/
def lastGood (outcomes : List HttpOutcome) : Option T :=
  (outcomes.filterMap (goodValue serde decode)).getLast?

/-- The test at the fetch agrees with the decoder, as far as it shows: a value that is
    JSON decodes, or nothing is lost by it; a value that is not JSON does not decode, or
    says what is known already. -/
def Agrees (manager : RuntimeConfigManager) (outcome : HttpOutcome) : Prop :=
  match envelope serde outcome with
  | .ok value =>
    if serde.isValue value then
      ((serde.fromStr value).bind decode).isSome ∨ get serde decode manager = none
    else
      (serde.fromStr value).bind decode = none ∨
        (serde.fromStr value).bind decode = get serde decode manager
  | .error _ => True

/-- One response: `get` moves to the good value, or stays, exactly when the test agrees
    with the decoder. -/
theorem get_prefetch_iff (cache : Option String) (outcome : HttpOutcome) :
    get serde decode (prefetch serde (.enabled cache) outcome) =
        (goodValue serde decode outcome).or (get serde decode (.enabled cache)) ↔
      Agrees serde decode (.enabled cache) outcome := by
  unfold Agrees goodValue prefetch fetchConfig
  cases envelope serde outcome with
  | error e => simp
  | ok value =>
    generalize hknown : get serde decode (.enabled cache) = known
    by_cases hvalue : serde.isValue value = true
    · have hnew : get serde decode (.enabled (some value)) =
          (serde.fromStr value).bind decode := rfl
      simp only [hvalue, if_true, hnew]
      cases (serde.fromStr value).bind decode <;> simp [eq_comm]
    · simp only [hvalue, if_false, hknown, Bool.false_eq_true]
      cases (serde.fromStr value).bind decode <;> simp [eq_comm]

/-- The manager after these responses. -/
def prefetched (manager : RuntimeConfigManager) (outcomes : List HttpOutcome) :
    RuntimeConfigManager := runActs (prefetch serde) outcomes manager

/-- From a manager that serves `known`: `get` answers the last good value after every
    response exactly when the test agrees with the decoder at every response. -/
theorem get_prefetched_iff (outcomes : List HttpOutcome) :
    ∀ (cache : Option String) (known : Option T), get serde decode (.enabled cache) = known →
      ((∀ seen, seen <+: outcomes → get serde decode (prefetched serde (.enabled cache) seen) =
          (lastGood serde decode seen).or known) ↔
        Good (prefetch serde) (Agrees serde decode) outcomes (.enabled cache)) := by
  induction outcomes with
  | nil =>
    intro cache known hknown
    refine ⟨fun _ => trivial, fun _ seen hseen => ?_⟩
    rw [List.prefix_nil.1 hseen]
    exact hknown
  | cons outcome outcomes ih =>
    intro cache known hknown
    obtain ⟨cache', hcache'⟩ : ∃ cache', prefetch serde (.enabled cache) outcome =
        .enabled cache' := by
      unfold prefetch
      cases fetchConfig serde outcome <;> exact ⟨_, rfl⟩
    have hstep := get_prefetch_iff serde decode cache outcome
    rw [hknown, hcache'] at hstep
    have hlast : ∀ seen, (lastGood serde decode (outcome :: seen)).or known =
        (lastGood serde decode seen).or ((goodValue serde decode outcome).or known) := by
      intro seen
      unfold lastGood
      cases hgood : goodValue serde decode outcome with
      | none => simp [hgood]
      | some value =>
        cases h : (List.filterMap (goodValue serde decode) seen).getLast? <;>
          simp [hgood, List.getLast?_cons, h]
    constructor
    · intro h
      have hfirst := h [outcome] ⟨outcomes, rfl⟩
      rw [hlast, prefetched, runActs_cons, hcache'] at hfirst
      refine ⟨hstep.1 hfirst, ?_⟩
      rw [hcache']
      refine (ih cache' _ hfirst).1 fun seen hseen => ?_
      have hmore := h (outcome :: seen) ((List.prefix_cons_inj outcome).2 hseen)
      rw [hlast, prefetched, runActs_cons, hcache'] at hmore
      exact hmore
    · rintro ⟨hagrees, hgood⟩ seen hseen
      rw [hcache'] at hgood
      cases seen with
      | nil => exact hknown
      | cons first seen =>
        obtain ⟨rfl, hrest⟩ := List.cons_prefix_cons.1 hseen
        rw [hlast, prefetched, runActs_cons, hcache']
        exact (ih cache' _ (hstep.2 hagrees)).2 hgood seen hrest

/-- After every response, `get` answers the last fetched value that decodes. -/
def KeepsLastGood (outcomes : List HttpOutcome) : Prop :=
  ∀ seen, seen <+: outcomes →
    get serde decode (prefetched serde (.enabled none) seen) = lastGood serde decode seen

end LastGood

/-- No response without a good value changes the mode of the KV layer. -/
def KeepsMode (outcomes : List HttpOutcome) : Prop :=
  ∀ seen outcome, seen ++ [outcome] <+: outcomes →
    goodValue serde RuntimeConfigValues.deserialize outcome = none →
    kvSettings serde (prefetched serde (.enabled none) (seen ++ [outcome])) =
      kvSettings serde (prefetched serde (.enabled none) seen)

theorem keepsMode_of_keepsLastGood {outcomes : List HttpOutcome}
    (h : KeepsLastGood serde RuntimeConfigValues.deserialize outcomes) :
    KeepsMode serde outcomes := by
  intro seen outcome hseen hnone
  have hafter := h _ hseen
  have hbefore := h seen ((List.prefix_append seen [outcome]).trans hseen)
  have hsame : lastGood serde RuntimeConfigValues.deserialize (seen ++ [outcome]) =
      lastGood serde RuntimeConfigValues.deserialize seen := by
    simp [lastGood, hnone]
  rw [kvSettings, kvSettings, hafter, hbefore, hsame]

/-- The histories in which the last known good configuration is served, and a malformed
    response never changes the mode. -/
theorem get_eq_lastGood_iff (outcomes : List HttpOutcome) :
    KeepsLastGood serde RuntimeConfigValues.deserialize outcomes ∧ KeepsMode serde outcomes ↔
      Good (prefetch serde) (Agrees serde RuntimeConfigValues.deserialize) outcomes
        (.enabled none) := by
  have hiff := get_prefetched_iff serde RuntimeConfigValues.deserialize outcomes none none rfl
  simp only [Option.or_none] at hiff
  refine ⟨fun h => hiff.1 h.1, fun h => ?_⟩
  have hkeeps : KeepsLastGood serde RuntimeConfigValues.deserialize outcomes := hiff.2 h
  exact ⟨hkeeps, keepsMode_of_keepsLastGood serde hkeeps⟩

/-! ## A value of another shape -/

/-- `{"enable_kv":"enabled"}`. -/
def enabledText : String := "\x7b\"enable_kv\":\"enabled\"\x7d"

/-- `{"enable_kv":true}`. -/
def mistypedText : String := "\x7b\"enable_kv\":true\x7d"

/-- The envelope of `enabledText`. -/
def enabledBody : Bytes :=
  "\x7b\"value\":\"\x7b\\\"enable_kv\\\":\\\"enabled\\\"\x7d\"\x7d".toUTF8.data.toList

/-- The envelope of `mistypedText`. -/
def mistypedBody : Bytes :=
  "\x7b\"value\":\"\x7b\\\"enable_kv\\\":true\x7d\"\x7d".toUTF8.data.toList

/-- `serde_json` on these texts and bodies. -/
def sampleSerde : SerdeJson where
  isValue text := text = enabledText ∨ text = mistypedText
  fromStr text :=
    if text = enabledText then some (.object [("enable_kv", .string "enabled")])
    else if text = mistypedText then some (.object [("enable_kv", .bool true)])
    else none
  fromSlice body :=
    if body = enabledBody then some (.object [("value", .string enabledText)])
    else if body = mistypedBody then some (.object [("value", .string mistypedText)])
    else none

/-- A value that is JSON of another shape takes the place of the good one, and the mode
    falls back. -/
theorem get_lost :
    ¬ KeepsLastGood sampleSerde RuntimeConfigValues.deserialize
        [.response 200 enabledBody, .response 200 mistypedBody] ∧
      kvSettings sampleSerde
        (prefetched sampleSerde (.enabled none) [.response 200 enabledBody]) = .enabled ∧
      kvSettings sampleSerde (prefetched sampleSerde (.enabled none)
        [.response 200 enabledBody, .response 200 mistypedBody]) = .disabled := by
  refine ⟨fun h => ?_, by decide +kernel, by decide +kernel⟩
  have hlast := h _ (List.prefix_refl _)
  revert hlast
  decide +kernel

end RuntimeConfigManager

end CardVault
