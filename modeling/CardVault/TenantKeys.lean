import CardVault.Custodian
import CardVault.Storage.PartitionKey
import Mathlib.Data.List.Nodup

/-!
# Redis keys of the tenants

All tenants share one Redis pool. Each has a handle onto it that puts the tenant's
`redis_key_prefix` in front of every key (`src/src/app.rs`, `src/src/storage/redis.rs`), and
`GlobalConfig::validate` (`src/src/config.rs`) refuses prefixes that are empty or equal.

`redis_interface` is a parameter.

Main results:
* `validateKvTenantPrefixes_ok`: what an accepted configuration says of the prefixes.
* `tenants_separate_iff`: which prefixes keep the keys of two tenants apart.
* `vault_keys_shared`: the rows that two tenants share otherwise.
-/

namespace CardVault

/-! ## Configuration -/

/-- `ConfigurationError::InvalidConfigurationValueError`. -/
structure InvalidConfigurationValueError where
  message : String
  deriving DecidableEq, Repr

/-- An error unless the condition holds. -/
def require (condition : Bool) (message : String) : Except InvalidConfigurationValueError Unit :=
  if condition then .ok () else .error ⟨message⟩

/-- `SecretsManagementConfig` (`src/src/crypto/secrets_manager/secrets_management.rs`). -/
inductive SecretsManagementConfig where
  | awsKms (keyId region : String)
  | hashiCorpVault (url token : String)
  | noEncryption
  deriving DecidableEq, Repr

/-- `SecretsManagementConfig::validate`. -/
def SecretsManagementConfig.validate :
    SecretsManagementConfig → Except InvalidConfigurationValueError Unit
  | .awsKms keyId region => do
    require (!Text.isBlank keyId) "AWS KMS key ID must not be empty"
    require (!Text.isBlank region) "AWS KMS region must not be empty"
  | .hashiCorpVault url token => do
    require (!Text.isBlank url) "HashiCorp vault url must not be empty"
    require (!Text.isBlank token) "HashiCorp vault token must not be empty"
  | .noEncryption => .ok ()

/-- `RuntimeConfig`, with the fields of the endpoint that are checked. -/
inductive RuntimeConfig where
  | disabled
  | enabled (baseUrl apiKey : String)
  deriving DecidableEq, Repr

/-- `RuntimeConfig::validate`. -/
def RuntimeConfig.validate : RuntimeConfig → Except InvalidConfigurationValueError Unit
  | .disabled => .ok ()
  | .enabled baseUrl apiKey => do
    require (!Text.isBlank baseUrl)
      "runtime_config.endpoint.base_url is required when mode is \"enabled\""
    require (!Text.isBlank apiKey)
      "runtime_config.endpoint.api_key is required when mode is \"enabled\""

/-- `KvConfig` as the configuration file has it. -/
structure KvConfigValues where
  drainerStreamSuffix : String
  drainerNumPartitions : UInt8
  ttlForKv : UInt32
  deriving DecidableEq, Repr

/-- `KvConfig::validate`. -/
def KvConfigValues.validate (self : KvConfigValues) : Except InvalidConfigurationValueError Unit :=
  require (self.drainerNumPartitions ≠ 0) "kv.drainer_num_partitions must be greater than 0"

theorem KvConfigValues.partitions_pos (self : KvConfigValues) (h : self.validate = .ok ()) :
    0 < self.drainerNumPartitions.toNat := by
  unfold validate require at h
  split_ifs at h with hne
  have hpos : self.drainerNumPartitions ≠ 0 := of_decide_eq_true hne
  have hval : self.drainerNumPartitions.toNat ≠ 0 := fun hzero =>
    hpos (UInt8.toNat_inj.1 hzero)
  omega

/-- `ExternalKeyManagerConfig`. -/
inductive ExternalKeyManagerConfig where
  | disabled
  | enabled (url : String)
  | enabledWithMtls (url caCert : String)
  deriving DecidableEq, Repr

/-- `ExternalKeyManagerConfig::is_mtls_enabled`. -/
def ExternalKeyManagerConfig.isMtlsEnabled : ExternalKeyManagerConfig → Bool
  | .enabledWithMtls .. => true
  | _ => false

/-- `ExternalKeyManagerConfig::validate`. -/
def ExternalKeyManagerConfig.validate :
    ExternalKeyManagerConfig → Except InvalidConfigurationValueError Unit
  | .disabled => .ok ()
  | .enabled url =>
    require (!Text.isBlank url)
      "external_key_manager.url is required when external key manager is enabled"
  | .enabledWithMtls url caCert => do
    require (!Text.isBlank url)
      "external_key_manager.url is required when external key manager is enabled"
    require (!Text.isBlank caCert) "external_key_manager.ca_cert is required when mTLS is enabled"

/-- `ApiClientConfig::validate_for_mtls` (`src/src/api_client.rs`), of its `identity`. -/
def validateForMtls (identity : String) (externalKeyManager : ExternalKeyManagerConfig) :
    Except InvalidConfigurationValueError Unit :=
  require (!(externalKeyManager.isMtlsEnabled && identity.isEmpty))
    "api_client.identity is required when mTLS is enabled"

/-- `MetricsConfig` (`src/src/observability.rs`), with the fields that are checked. -/
inductive MetricsConfig where
  | disabled
  | otlp (endpoint : String)
  | prometheus (host : String) (port : UInt16)
  deriving DecidableEq, Repr

/-- `MetricsConfig::validate`; `isIpAddr` says which text parses as an `IpAddr`. -/
def MetricsConfig.validate (isIpAddr : String → Bool) :
    MetricsConfig → Except InvalidConfigurationValueError Unit
  | .disabled => .ok ()
  | .otlp endpoint =>
    require (!Text.isBlank endpoint) "metrics.endpoint is required when mode is \"otlp\""
  | .prometheus host port => do
    require (isIpAddr host)
      "metrics.host must be a valid IP address when mode is \"prometheus\""
    require (port ≠ 0) "metrics.port must be a non-zero value when mode is \"prometheus\""

/-- `TenantsSecrets`: a hash map, in the order in which it is iterated. -/
structure TenantsSecrets where
  entries : List (String × TenantSecrets)
  nodup : (entries.map Prod.fst).Nodup

/-- `GlobalConfig`, with the fields that `validate` reads. -/
structure GlobalConfigValues where
  secretsManagement : SecretsManagementConfig
  runtimeConfig : RuntimeConfig
  kv : KvConfigValues
  externalKeyManager : ExternalKeyManagerConfig
  apiClientIdentity : String
  metrics : MetricsConfig
  tenantSecrets : TenantsSecrets
  /-- whether `redis` is configured -/
  redis : Bool

/-- The loop over the tenants, with the prefixes `seen` so far. -/
def checkTenantPrefixes : List (String × TenantSecrets) → List String →
    Except InvalidConfigurationValueError Unit
  | [], _ => .ok ()
  | (tenantId, secrets) :: entries, seen =>
    let keyPrefix := Text.trim secrets.redisKeyPrefix
    if keyPrefix = "" then
      .error ⟨"tenant `" ++ tenantId ++ "`: redis_key_prefix required with kv + multi-tenant"⟩
    else if keyPrefix ∈ seen then
      .error ⟨"duplicate redis_key_prefix `" ++ keyPrefix ++ "`"⟩
    else checkTenantPrefixes entries (keyPrefix :: seen)

namespace GlobalConfigValues

/-- `validate_kv_tenant_prefixes`. -/
def validateKvTenantPrefixes (self : GlobalConfigValues) :
    Except InvalidConfigurationValueError Unit :=
  if self.redis = false ∨ self.tenantSecrets.entries.length ≤ 1 then .ok ()
  else checkTenantPrefixes self.tenantSecrets.entries []

/-- `GlobalConfig::validate`. -/
def validate (isIpAddr : String → Bool) (self : GlobalConfigValues) :
    Except InvalidConfigurationValueError Unit := do
  self.secretsManagement.validate
  self.runtimeConfig.validate
  self.kv.validate
  self.validateKvTenantPrefixes
  self.externalKeyManager.validate
  validateForMtls self.apiClientIdentity self.externalKeyManager
  self.metrics.validate isIpAddr

/-- The part of the configuration that a tenant is configured from. -/
def toGlobalConfig (self : GlobalConfigValues) : GlobalConfig :=
  ⟨fun tenantId => self.tenantSecrets.entries.lookup tenantId⟩

end GlobalConfigValues

/-! ## Accepted configurations -/

/-- The rule for `?` in a check. -/
theorem ok_of_bind {ε β : Type} {check : Except ε Unit} {rest : Unit → Except ε β} {b : β}
    (h : check.bind rest = .ok b) : check = .ok () ∧ rest () = .ok b := by
  cases check with
  | error e => cases h
  | ok _ => exact ⟨rfl, h⟩

/-- Every prefix is checked against those in front of it. -/
theorem checkTenantPrefixes_ok {entries : List (String × TenantSecrets)} {seen : List String}
    (h : checkTenantPrefixes entries seen = .ok ()) :
    (∀ entry ∈ entries, Text.trim entry.2.redisKeyPrefix ≠ "" ∧
        Text.trim entry.2.redisKeyPrefix ∉ seen) ∧
      (entries.map fun entry => Text.trim entry.2.redisKeyPrefix).Nodup := by
  induction entries generalizing seen with
  | nil => exact ⟨fun _ hentry => absurd hentry List.not_mem_nil, List.nodup_nil⟩
  | cons entry entries ih =>
    obtain ⟨tenantId, secrets⟩ := entry
    unfold checkTenantPrefixes at h
    dsimp only at h
    split_ifs at h with hempty hseen
    obtain ⟨hrest, hnodup⟩ := ih h
    constructor
    · intro entry hentry
      rcases List.mem_cons.1 hentry with rfl | hentry
      · exact ⟨hempty, hseen⟩
      · exact ⟨(hrest entry hentry).1, fun hmem =>
          (hrest entry hentry).2 (List.mem_cons_of_mem _ hmem)⟩
    · rw [List.map_cons, List.nodup_cons]
      refine ⟨fun hmem => ?_, hnodup⟩
      obtain ⟨entry, hentry, heq⟩ := List.mem_map.1 hmem
      have hfresh := (hrest entry hentry).2
      rw [heq] at hfresh
      exact hfresh List.mem_cons_self

namespace GlobalConfigValues

variable {isIpAddr : String → Bool} {config : GlobalConfigValues}

theorem kv_of_validate (h : config.validate isIpAddr = .ok ()) : config.kv.validate = .ok () :=
  (ok_of_bind (ok_of_bind (ok_of_bind h).2).2).1

theorem prefixes_of_validate (h : config.validate isIpAddr = .ok ()) :
    config.validateKvTenantPrefixes = .ok () :=
  (ok_of_bind (ok_of_bind (ok_of_bind (ok_of_bind h).2).2).2).1

theorem mem_entries {tenantId : String} {tenant : TenantConfig}
    (h : TenantConfig.fromGlobalConfig config.toGlobalConfig tenantId = some tenant) :
    ∃ secrets, (tenantId, secrets) ∈ config.tenantSecrets.entries ∧
      tenant.redisKeyPrefix = secrets.redisKeyPrefix := by
  obtain ⟨secrets, hsecrets, rfl⟩ := Option.map_eq_some_iff.1 h
  obtain ⟨before, after, hsplit, -⟩ := List.lookup_eq_some_iff.1 hsecrets
  refine ⟨secrets, ?_, rfl⟩
  rw [hsplit]
  simp

/-- Two tenants have two prefixes, neither of them empty. -/
theorem validateKvTenantPrefixes_ok (h : config.validateKvTenantPrefixes = .ok ())
    (hredis : config.redis = true) {tenantId tenantId' : String} (hne : tenantId ≠ tenantId')
    {tenant tenant' : TenantConfig}
    (htenant : TenantConfig.fromGlobalConfig config.toGlobalConfig tenantId = some tenant)
    (htenant' : TenantConfig.fromGlobalConfig config.toGlobalConfig tenantId' = some tenant') :
    Text.trim tenant.redisKeyPrefix ≠ "" ∧ Text.trim tenant'.redisKeyPrefix ≠ "" ∧
      Text.trim tenant.redisKeyPrefix ≠ Text.trim tenant'.redisKeyPrefix := by
  obtain ⟨secrets, hmem, hpre⟩ := mem_entries htenant
  obtain ⟨secrets', hmem', hpre'⟩ := mem_entries htenant'
  have hentries : (tenantId, secrets) ≠ (tenantId', secrets') := fun heq =>
    hne (congrArg Prod.fst heq)
  have hmany : ¬ (config.redis = false ∨ config.tenantSecrets.entries.length ≤ 1) := by
    rintro (hnone | hone)
    · rw [hredis] at hnone
      cases hnone
    · -- a list of at most one entry has no two different ones
      rcases hlist : config.tenantSecrets.entries with _ | ⟨entry, _ | ⟨entry', rest⟩⟩
      · rw [hlist] at hmem
        cases hmem
      · rw [hlist, List.mem_singleton] at hmem hmem'
        exact hentries (hmem.trans hmem'.symm)
      · rw [hlist, List.length_cons, List.length_cons] at hone
        omega
  rw [validateKvTenantPrefixes, if_neg hmany] at h
  obtain ⟨hall, hnodup⟩ := checkTenantPrefixes_ok h
  rw [hpre, hpre']
  refine ⟨(hall _ hmem).1, (hall _ hmem').1, fun heq => hentries ?_⟩
  exact List.inj_on_of_nodup_map hnodup hmem hmem' heq

/-- The configuration that the KV layer works with. -/
def kvConfig (config : GlobalConfigValues) (h : config.validate isIpAddr = .ok ()) :
    KvConfig where
  drainerStreamSuffix := config.kv.drainerStreamSuffix
  drainerNumPartitions := config.kv.drainerNumPartitions.toNat
  ttlForKv := config.kv.ttlForKv.toNat
  validate := config.kv.partitions_pos (kv_of_validate h)

end GlobalConfigValues

/-! ## Handles -/

/-- `RedisStore`: a handle onto the pool, with the prefix of its keys. -/
structure RedisStore where
  keyPrefix : String
  deriving DecidableEq, Repr

/-- `RedisStore::clone_with_prefix`. -/
def RedisStore.cloneWithPrefix (_self : RedisStore) (keyPrefix : String) : RedisStore :=
  ⟨keyPrefix⟩

/-- The handle that `TenantAppState::new` makes of the shared one. -/
def tenantRedis (tenantConfig : TenantConfig) (sharedRedis : RedisStore) : RedisStore :=
  sharedRedis.cloneWithPrefix (Text.trim tenantConfig.redisKeyPrefix)

/-- What `redis_interface` says of the keys it is given: the prefix and a colon are put in
    front of them, if there is a prefix. -/
def PutsInFront (addPrefix : String → String → String) : Prop :=
  ∀ keyPrefix key, keyPrefix ≠ "" → addPrefix keyPrefix key = keyPrefix ++ ":" ++ key

/-- The key that is sent to Redis. -/
def RedisStore.namespacedKey (addPrefix : String → String → String) (self : RedisStore)
    (key : String) : String := addPrefix self.keyPrefix key

/-- The keys of the KV layer: the hash of a row, and the stream of its statements. -/
inductive KvKey where
  | hash (key : PartitionKey)
  | stream (key : PartitionKey)
  deriving DecidableEq, Repr

/-- A key before its prefix. -/
def KvKey.text (store : KvStoreContext) : KvKey → String
  | .hash key => key.display
  | .stream key => store.stream key

/-- The namespace of one tenant lies in that of the other. -/
def Nested (tenant tenant' : TenantConfig) : Prop :=
  (Text.trim tenant.redisKeyPrefix).toList ++ [':'] <+: (Text.trim tenant'.redisKeyPrefix).toList

instance (tenant tenant' : TenantConfig) : Decidable (Nested tenant tenant') :=
  inferInstanceAs (Decidable (_ <+: _))

/-! ## Keys of two tenants -/

section Tenants

variable {addPrefix : String → String → String} (shared : RedisStore)

theorem toList_namespacedKey (hpool : PutsInFront addPrefix) {tenant : TenantConfig}
    (h : Text.trim tenant.redisKeyPrefix ≠ "") (key : String) :
    ((tenantRedis tenant shared).namespacedKey addPrefix key).toList =
      (Text.trim tenant.redisKeyPrefix).toList ++ ':' :: key.toList := by
  have hkey : (tenantRedis tenant shared).namespacedKey addPrefix key =
      Text.trim tenant.redisKeyPrefix ++ ":" ++ key := hpool _ _ h
  rw [hkey]
  simp [String.toList_append]

/-- In an accepted configuration, the keys of two tenants are apart exactly when neither
    prefix starts with the other one and a colon. -/
theorem tenants_separate_iff (hpool : PutsInFront addPrefix) {isIpAddr : String → Bool}
    {config : GlobalConfigValues}
    (hvalid : config.validate isIpAddr = .ok ()) (hredis : config.redis = true)
    {tenantId tenantId' : String} (hne : tenantId ≠ tenantId') {tenant tenant' : TenantConfig}
    (htenant : TenantConfig.fromGlobalConfig config.toGlobalConfig tenantId = some tenant)
    (htenant' : TenantConfig.fromGlobalConfig config.toGlobalConfig tenantId' = some tenant')
    (crc32fastHash : Bytes → UInt32) :
    (∀ k k' : KvKey,
      (tenantRedis tenant shared).namespacedKey addPrefix
          (k.text ⟨config.kvConfig hvalid, crc32fastHash⟩) ≠
        (tenantRedis tenant' shared).namespacedKey addPrefix
          (k'.text ⟨config.kvConfig hvalid, crc32fastHash⟩)) ↔
      ¬ Nested tenant tenant' ∧ ¬ Nested tenant' tenant := by
  obtain ⟨hpre, hpre', hdistinct⟩ := GlobalConfigValues.validateKvTenantPrefixes_ok
    (GlobalConfigValues.prefixes_of_validate hvalid) hredis hne htenant htenant'
  have hlists : (Text.trim tenant.redisKeyPrefix).toList ≠
      (Text.trim tenant'.redisKeyPrefix).toList := fun heq =>
    hdistinct (String.toList_inj.1 heq)
  rw [Nested, Nested, ← Text.append_separator_ne_iff hlists]
  constructor
  · -- every text is the text of a combination key
    intro h k k' heq
    refine h (.hash (.combinationKey (String.ofList k)))
      (.hash (.combinationKey (String.ofList k'))) ?_
    rw [← String.toList_inj, toList_namespacedKey shared hpool hpre,
      toList_namespacedKey shared hpool hpre']
    simpa [KvKey.text, PartitionKey.display] using heq
  · intro h k k' heq
    rw [← String.toList_inj, toList_namespacedKey shared hpool hpre,
      toList_namespacedKey shared hpool hpre'] at heq
    exact h _ _ heq

/-- Where a prefix is one of vault keys of another tenant, every vault row of the one tenant
    is a vault row of the other. -/
theorem vault_keys_shared (hpool : PutsInFront addPrefix) {tenant tenant' : TenantConfig}
    {rest : String} (h : Text.trim tenant.redisKeyPrefix ≠ "")
    (hnested : Text.trim tenant'.redisKeyPrefix =
      Text.trim tenant.redisKeyPrefix ++ ":vault_" ++ rest) (pk : VaultPrimaryKey) :
    (tenantRedis tenant' shared).namespacedKey addPrefix pk.getPartitionKey.display =
      (tenantRedis tenant shared).namespacedKey addPrefix
        (PartitionKey.vault (rest ++ ":vault") (pk.entityId ++ "_" ++ pk.vaultId)).display := by
  have h' : Text.trim tenant'.redisKeyPrefix ≠ "" := by
    rw [hnested, ← String.toList_inj.ne]
    simp [String.toList_append]
  rw [← String.toList_inj, toList_namespacedKey shared hpool h',
    toList_namespacedKey shared hpool h, hnested]
  simp [VaultPrimaryKey.getPartitionKey, PartitionKey.display, String.toList_append]

end Tenants

/-! ## Configurations with two tenants -/

/-- `RedisConnectionPool::add_prefix` of `redis_interface`. -/
def addPrefix (keyPrefix key : String) : String :=
  if keyPrefix = "" then key else keyPrefix ++ ":" ++ key

theorem putsInFront_addPrefix : PutsInFront addPrefix := fun _ _ h => if_neg h

/-- A shop and its branch, with these prefixes. -/
def twoTenants (shop branch : String) : GlobalConfigValues where
  secretsManagement := .noEncryption
  runtimeConfig := .enabled "https://config" "key"
  kv := ⟨"DRAINER_STREAM", 16, 900⟩
  externalKeyManager := .disabled
  apiClientIdentity := ""
  metrics := .prometheus "127.0.0.1" 9090
  tenantSecrets.entries := [("shop", ⟨[], "shop", shop⟩), ("branch", ⟨[], "branch", branch⟩)]
  tenantSecrets.nodup := by simp
  redis := true

/-- One of the two. -/
def tenantOf (tenantId keyPrefix : String) : TenantConfig :=
  ⟨tenantId, ⟨[], tenantId, keyPrefix⟩, keyPrefix⟩

/-- The address of the local host is an address. -/
def isLocalHost (host : String) : Bool := host = "127.0.0.1"

/-- Prefixes that are compared without the white space around them. -/
theorem tenants_separate_twoTenants :
    ∃ hvalid : (twoTenants " shop " "branch:").validate isLocalHost = .ok (), ∀ k k' : KvKey,
      (tenantRedis (tenantOf "shop" " shop ") ⟨""⟩).namespacedKey addPrefix
          (k.text ⟨GlobalConfigValues.kvConfig _ hvalid, crc32⟩) ≠
        (tenantRedis (tenantOf "branch" "branch:") ⟨""⟩).namespacedKey addPrefix
          (k'.text ⟨GlobalConfigValues.kvConfig _ hvalid, crc32⟩) := by
  have hvalid : (twoTenants " shop " "branch:").validate isLocalHost = .ok () := by decide +kernel
  have hne : "shop" ≠ "branch" := by decide
  exact ⟨hvalid, (tenants_separate_iff ⟨""⟩ putsInFront_addPrefix hvalid rfl hne rfl rfl crc32).2
    (by decide +kernel)⟩

/-- An accepted configuration in which a vault row of the branch is a vault row of the
    shop. -/
theorem tenants_share_keys :
    ¬ ∀ (config : GlobalConfigValues) (hvalid : config.validate isLocalHost = .ok ()),
      config.redis = true → ∀ (tenantId tenantId' : String) (tenant tenant' : TenantConfig),
        tenantId ≠ tenantId' →
        TenantConfig.fromGlobalConfig config.toGlobalConfig tenantId = some tenant →
        TenantConfig.fromGlobalConfig config.toGlobalConfig tenantId' = some tenant' →
        ∀ k k' : KvKey,
          (tenantRedis tenant ⟨""⟩).namespacedKey addPrefix
              (k.text ⟨config.kvConfig hvalid, crc32⟩) ≠
            (tenantRedis tenant' ⟨""⟩).namespacedKey addPrefix
              (k'.text ⟨config.kvConfig hvalid, crc32⟩) := by
  intro h
  have hvalid : (twoTenants "shop" "shop:vault_branch").validate isLocalHost = .ok () := by
    decide +kernel
  have hne : "shop" ≠ "branch" := by decide
  have hnested : Text.trim (tenantOf "branch" "shop:vault_branch").redisKeyPrefix =
      Text.trim (tenantOf "shop" "shop").redisKeyPrefix ++ ":vault_" ++ "branch" := by
    decide +kernel
  have hkey := vault_keys_shared ⟨""⟩ putsInFront_addPrefix
    (by decide +kernel : Text.trim (tenantOf "shop" "shop").redisKeyPrefix ≠ "") hnested
    ⟨"entity", "id"⟩
  exact h (twoTenants "shop" "shop:vault_branch") hvalid rfl "shop" "branch"
    (tenantOf "shop" "shop") (tenantOf "branch" "shop:vault_branch") hne rfl rfl
    (.hash (.vault ("branch" ++ ":vault") ("entity" ++ "_" ++ "id")))
    (.hash (.vault "entity" "id")) hkey.symm

end CardVault
