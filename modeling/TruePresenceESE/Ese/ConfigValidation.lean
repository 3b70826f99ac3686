import TruePresenceESE.Ese.ConfigModel

/-! # Validating a config

Every section is read field by field and written back field by field. What `validate_config`
returns is the written config, and `load_config` reads one from a file.
-/

namespace TruePresenceESE.Ese

open PyText Records Checked

/-! ## Reading -/

section
variable (host : ModelHost) (fields : Fields)

def ProviderConfig.read : Checked ProviderConfig :=
  ProviderConfig.mk <$> required fields "name" (cleanString host)
    <*> required fields "model" (cleanString host)
    <*> optional fields "api_key_env" (cleanString host)
    <*> optional fields "base_url" (cleanString host)
    <*> Extra.read providerKnownFields fields

def RoleConfig.read : Checked RoleConfig :=
  RoleConfig.mk <$> optional fields "provider" (cleanString host)
    <*> optional fields "model" (cleanString host)
    <*> optional fields "temperature" host.pydantic.float
    <*> optional fields "prompt" (cleanString host)
    <*> Extra.read roleKnownFields fields

def ConstraintsConfig.read : Checked ConstraintsConfig :=
  ConstraintsConfig.mk
    <$> defaulted fields "disallow_same_model_pairs" []
      (fun value => validated (normalizeRolePairs value))
    <*> defaulted fields "require_roles" ⟨[], List.nodup_nil⟩
      (fun value => validated (normalizeRoleList value))
    <*> optional fields "minimum_distinct_models" (positiveInt host)
    <*> optional fields "minimum_specialist_roles" (nonNegativeInt host)
    <*> defaulted fields "disallow_same_provider_pairs" []
      (fun value => validated (normalizeRolePairs value))
    <*> defaulted fields "require_json_for_roles" ⟨[], List.nodup_nil⟩
      (fun value => validated (normalizeRoleList value))
    <*> Extra.read constraintKnownFields fields

def InputConfig.read : Checked InputConfig :=
  InputConfig.mk <$> optional fields "scope" (cleanString host)
    <*> optional fields "prompt" (cleanString host)
    <*> Extra.read inputKnownFields fields

theorem strip_artifacts : strip "artifacts" = "artifacts" := by decide

theorem artifacts_ne_empty : "artifacts" ≠ "" := by decide

def defaultArtifactsDir : CleanText := ⟨"artifacts", strip_artifacts, artifacts_ne_empty⟩

def OutputConfig.read : Checked OutputConfig :=
  OutputConfig.mk <$> defaulted fields "artifacts_dir" defaultArtifactsDir (cleanString host)
    <*> defaulted fields "enforce_json" true host.pydantic.bool
    <*> Extra.read outputKnownFields fields

def GatingConfig.read : Checked GatingConfig :=
  GatingConfig.mk <$> defaulted fields "fail_on_high" true host.pydantic.bool
    <*> Extra.read gatingKnownFields fields

def openAIBaseUrl : CleanText := ⟨"https://api.openai.com/v1", by decide, by decide⟩

def OpenAIRuntimeConfig.read : Checked OpenAIRuntimeConfig :=
  OpenAIRuntimeConfig.mk <$> defaulted fields "base_url" openAIBaseUrl (cleanString host)
    <*> Extra.read openAIKnownFields fields

def CustomAPIRuntimeConfig.read : Checked CustomAPIRuntimeConfig :=
  CustomAPIRuntimeConfig.mk <$> optional fields "base_url" (cleanString host)
    <*> Extra.read customAPIKnownFields fields

def localBaseUrl : CleanText := ⟨"http://localhost:11434/v1", by decide, by decide⟩

def LocalRuntimeConfig.read : Checked LocalRuntimeConfig :=
  LocalRuntimeConfig.mk <$> defaulted fields "base_url" localBaseUrl (cleanString host)
    <*> defaulted fields "use_openai_compat_auth" true host.pydantic.bool
    <*> Extra.read localKnownFields fields

end

/-! ## Default sections -/

def noExtra (names : List String) : Extra names := ⟨[], by simp⟩

def defaultConstraints : ConstraintsConfig :=
  ⟨[], ⟨[], List.nodup_nil⟩, none, none, [], ⟨[], List.nodup_nil⟩, noExtra _⟩

def defaultInput : InputConfig := ⟨none, none, noExtra _⟩

def defaultOutput : OutputConfig := ⟨defaultArtifactsDir, true, noExtra _⟩

def defaultGating : GatingConfig := ⟨true, noExtra _⟩

def defaultOpenAI : OpenAIRuntimeConfig := ⟨openAIBaseUrl, noExtra _⟩

def defaultLocal : LocalRuntimeConfig := ⟨localBaseUrl, true, noExtra _⟩

def defaultAdapter : AdapterName := ⟨⟨"dry-run", by decide, by decide⟩, by decide⟩

def defaultRuntime : RuntimeConfig where
  adapter := defaultAdapter
  timeoutSeconds := ⟨.finite 60, by decide⟩
  maxRetries := ⟨2, by decide⟩
  retryBackoffSeconds := ⟨.finite 1, by decide⟩
  maxOutputTokens := none
  reviewIsolation := .scopeAndImplementation
  openai := defaultOpenAI
  customApi := none
  «local» := defaultLocal
  extra := noExtra _

/-! ## The whole config -/

section
variable (host : ModelHost)

def RuntimeConfig.read (fields : Fields) : Checked RuntimeConfig :=
  RuntimeConfig.mk <$> defaulted fields "adapter" defaultAdapter (validateAdapter host)
    <*> defaulted fields "timeout_seconds" defaultRuntime.timeoutSeconds (positiveFloat host)
    <*> defaulted fields "max_retries" defaultRuntime.maxRetries (nonNegativeInt host)
    <*> defaulted fields "retry_backoff_seconds" defaultRuntime.retryBackoffSeconds
      (positiveFloat host)
    <*> optional fields "max_output_tokens" (positiveInt host)
    <*> defaulted fields "review_isolation" .scopeAndImplementation (validateReviewIsolation host)
    <*> defaulted fields "openai" defaultOpenAI
      (record "OpenAIRuntimeConfig" (OpenAIRuntimeConfig.read host))
    <*> optional fields "custom_api"
      (record "CustomAPIRuntimeConfig" (CustomAPIRuntimeConfig.read host))
    <*> defaulted fields "local" defaultLocal
      (record "LocalRuntimeConfig" (LocalRuntimeConfig.read host))
    <*> Extra.read runtimeKnownFields fields

def validateVersion (value : PyData) : Checked { n : ℤ // n = configVersion } :=
  (host.pydantic.int value).also fun n =>
    if h : n = configVersion then .ok ⟨n, h⟩
    else valueError ("unsupported version " ++ toString n ++ "; expected " ++
      toString configVersion)

/-- A key of `roles` and the role under it. -/
def readRole (entry : PyKey × PyData) : Checked (String × RoleConfig) :=
  let key : Checked String :=
    match entry.1 with
    | .text name => .ok name
    | .other _ => within "[key]" (fail "Input should be a valid string")
  Prod.mk <$> key <*> record "RoleConfig" (RoleConfig.read host) entry.2

def readRolesField : PyData → Checked (List (String × RoleConfig))
  | .dict fields => (traverse (fun entry => entry.1.shown) (readRole host) fields).also fun roles =>
      if roles = [] then valueError "must include at least one configured role" else .ok roles
  | _ => fail "Input should be a valid dictionary"

def readRoleOrder (value : PyData) : Checked RoleNames :=
  ((host.pydantic.list value).also fun items =>
      traverse (fun item => toString item.2) (fun item => host.pydantic.str item.1) items.zipIdx).also
    fun texts => validated (validateRoleOrderShape texts)

def ESEConfig.read (fields : Fields) : Checked ESEConfig :=
  ESEConfig.mk <$> defaulted fields "version" ⟨configVersion, rfl⟩ (validateVersion host)
    <*> defaulted fields "mode" .ensemble (normalizeMode host)
    <*> defaulted fields "strict_config" false host.pydantic.bool
    <*> required fields "provider" (record "ProviderConfig" (ProviderConfig.read host))
    <*> defaulted fields "roles" [] (readRolesField host)
    <*> optional fields "role_order" (readRoleOrder host)
    <*> defaulted fields "constraints" defaultConstraints
      (record "ConstraintsConfig" (ConstraintsConfig.read host))
    <*> defaulted fields "input" defaultInput (record "InputConfig" (InputConfig.read host))
    <*> defaulted fields "output" defaultOutput (record "OutputConfig" (OutputConfig.read host))
    <*> defaulted fields "gating" defaultGating (record "GatingConfig" (GatingConfig.read host))
    <*> defaulted fields "runtime" defaultRuntime (record "RuntimeConfig" (RuntimeConfig.read host))
    <*> Extra.read configKnownFields fields

end

/-! ## What the sections have to agree on -/

def ESEConfig.roleKeys (config : ESEConfig) : List String := config.roles.map Prod.fst

def sortedNames {names : List String} (extra : Extra names) : List String :=
  (extra.items.map Prod.fst).mergeSort fun a b => a ≤ b

def strictRoleKeys : List String := ["provider", "model", "temperature", "prompt"]

/-- The keys of a role that a strict config does not allow. -/
def RoleConfig.disallowed (role : RoleConfig) : List String :=
  (sortedNames role.extra).filter fun key => key ∉ strictRoleKeys

section
variable (config : ESEConfig)

def checkEnforceJson : Except String Unit :=
  let required := (config.constraints.requireJsonForRoles.names.map CleanText.text).filter
    fun role => role ∈ config.roleKeys
  if config.gating.failOnHigh ∧ config.output.enforceJson = false then
    .error "gating.fail_on_high requires output.enforce_json for deterministic severity parsing"
  else if required ≠ [] ∧ config.output.enforceJson = false then
    .error ("constraints.require_json_for_roles requires output.enforce_json=true when " ++
      "configured roles are present (found " ++ String.intercalate ", " required ++ ")")
  else .ok ()

def checkStrictConfig : Except String Unit :=
  let invalid := config.roles.filter fun entry => entry.2.disallowed ≠ []
  if config.strictConfig = false then .ok ()
  else if config.extra.items ≠ [] then
    .error ("strict_config rejects unknown top-level keys: " ++
      String.intercalate ", " (sortedNames config.extra))
  else if invalid ≠ [] then
    .error ("strict_config rejects unknown per-role keys outside " ++
      "['model', 'prompt', 'provider', 'temperature'] (found " ++
      String.intercalate "; " (invalid.map fun entry =>
        entry.1 ++ "=" ++ String.intercalate ", " entry.2.disallowed) ++ ")")
  else .ok ()

def checkRoleOrder : Except String Unit :=
  match config.roleOrder with
  | none => .ok ()
  | some order =>
      let texts := order.names.map CleanText.text
      let unknown := texts.filter fun role => role ∉ config.roleKeys
      let missing := config.roleKeys.filter fun role => role ∉ texts
      if unknown ≠ [] then
        .error ("role_order references unknown configured roles: " ++
          String.intercalate ", " unknown)
      else if missing ≠ [] then
        .error ("role_order omits configured roles: " ++ String.intercalate ", " missing)
      else .ok ()

variable (py : Interpreter)

def ESEConfig.providerName : String := py.lower (strip config.provider.name.text)

def ESEConfig.roleProviders : List (String × String) :=
  config.roles.map fun entry =>
    (entry.1, py.lower (strip (entry.2.provider.getD config.provider.name).text))

/-- The roles whose provider is another one, as they are listed. -/
def incompatibleRoles (expected : String) : List String :=
  ((config.roleProviders py).filter fun entry => entry.2 ≠ expected).map fun entry =>
    entry.1 ++ "=" ++ entry.2

/-- A built-in adapter of one provider. -/
def checkSameProvider (adapter : String) : Except String Unit :=
  if config.providerName py ≠ adapter then
    .error ("runtime.adapter=" ++ adapter ++ " requires provider.name='" ++ adapter ++ "'")
  else if incompatibleRoles config py adapter ≠ [] then
    .error ("runtime.adapter=" ++ adapter ++ " requires all role providers to resolve to '" ++
      adapter ++ "' (found " ++ String.intercalate ", " (incompatibleRoles config py adapter) ++ ")")
  else .ok ()

def checkCustomApi : Except String Unit :=
  let provider := config.providerName py
  let runtimeBaseUrl := config.runtime.customApi.bind CustomAPIRuntimeConfig.baseUrl
  if provider = "openai" then
    .error "runtime.adapter=custom_api requires provider.name to be a custom provider"
  else if config.provider.apiKeyEnv.isNone then
    .error "runtime.adapter=custom_api requires provider.api_key_env"
  else if config.provider.baseUrl.isNone ∧ runtimeBaseUrl.isNone then
    .error "runtime.adapter=custom_api requires provider.base_url or runtime.custom_api.base_url"
  else if incompatibleRoles config py provider ≠ [] then
    .error ("runtime.adapter=custom_api requires all role providers to match provider.name='" ++
      provider ++ "' (found " ++
      String.intercalate ", " (incompatibleRoles config py provider) ++ ")")
  else .ok ()

def checkAdapter : Except String Unit :=
  match py.lower (strip config.runtime.adapter.val.text) with
  | "openai" => checkSameProvider config py "openai"
  | "local" => checkSameProvider config py "local"
  | "custom_api" => checkCustomApi config py
  | _ => .ok ()

def validateAdapterContract : Except String Unit := do
  checkEnforceJson config
  checkStrictConfig config
  checkRoleOrder config
  checkAdapter config py

end

/-! ## Writing -/

def ProviderConfig.known (provider : ProviderConfig) : List (String × PyData) :=
  [("name", provider.name.data), ("model", provider.model.data),
    ("api_key_env", optionalData CleanText.data provider.apiKeyEnv),
    ("base_url", optionalData CleanText.data provider.baseUrl)]

def RoleConfig.known (role : RoleConfig) : List (String × PyData) :=
  [("provider", optionalData CleanText.data role.provider),
    ("model", optionalData CleanText.data role.model),
    ("temperature", optionalData PyData.float role.temperature),
    ("prompt", optionalData CleanText.data role.prompt)]

def ConstraintsConfig.known (constraints : ConstraintsConfig) : List (String × PyData) :=
  [("disallow_same_model_pairs", pairsData constraints.disallowSameModelPairs),
    ("require_roles", constraints.requireRoles.data),
    ("minimum_distinct_models",
      optionalData (fun n => PyData.int n.val) constraints.minimumDistinctModels),
    ("minimum_specialist_roles",
      optionalData (fun n => PyData.int n.val) constraints.minimumSpecialistRoles),
    ("disallow_same_provider_pairs", pairsData constraints.disallowSameProviderPairs),
    ("require_json_for_roles", constraints.requireJsonForRoles.data)]

def InputConfig.known (input : InputConfig) : List (String × PyData) :=
  [("scope", optionalData CleanText.data input.scope),
    ("prompt", optionalData CleanText.data input.prompt)]

def OutputConfig.known (output : OutputConfig) : List (String × PyData) :=
  [("artifacts_dir", output.artifactsDir.data), ("enforce_json", .bool output.enforceJson)]

def GatingConfig.known (gating : GatingConfig) : List (String × PyData) :=
  [("fail_on_high", .bool gating.failOnHigh)]

def OpenAIRuntimeConfig.known (runtime : OpenAIRuntimeConfig) : List (String × PyData) :=
  [("base_url", runtime.baseUrl.data)]

def CustomAPIRuntimeConfig.known (runtime : CustomAPIRuntimeConfig) : List (String × PyData) :=
  [("base_url", optionalData CleanText.data runtime.baseUrl)]

def LocalRuntimeConfig.known (runtime : LocalRuntimeConfig) : List (String × PyData) :=
  [("base_url", runtime.baseUrl.data), ("use_openai_compat_auth", .bool runtime.useOpenaiCompatAuth)]

def CustomAPIRuntimeConfig.data (runtime : CustomAPIRuntimeConfig) : PyData :=
  dump runtime.known runtime.extra

def RuntimeConfig.known (runtime : RuntimeConfig) : List (String × PyData) :=
  [("adapter", runtime.adapter.val.data), ("timeout_seconds", .float runtime.timeoutSeconds.val),
    ("max_retries", .int runtime.maxRetries.val),
    ("retry_backoff_seconds", .float runtime.retryBackoffSeconds.val),
    ("max_output_tokens", optionalData (fun n => PyData.int n.val) runtime.maxOutputTokens),
    ("review_isolation", .str runtime.reviewIsolation.text),
    ("openai", dump runtime.openai.known runtime.openai.extra),
    ("custom_api", optionalData CustomAPIRuntimeConfig.data runtime.customApi),
    ("local", dump runtime.local.known runtime.local.extra)]

def rolesData (roles : List (String × RoleConfig)) : PyData :=
  .dict (roles.map fun entry => (.text entry.1, dump entry.2.known entry.2.extra))

def ESEConfig.known (config : ESEConfig) : List (String × PyData) :=
  [("version", .int config.version.val), ("mode", .str config.mode.text),
    ("strict_config", .bool config.strictConfig),
    ("provider", dump config.provider.known config.provider.extra),
    ("roles", rolesData config.roles),
    ("role_order", optionalData RoleNames.data config.roleOrder),
    ("constraints", dump config.constraints.known config.constraints.extra),
    ("input", dump config.input.known config.input.extra),
    ("output", dump config.output.known config.output.extra),
    ("gating", dump config.gating.known config.gating.extra),
    ("runtime", dump config.runtime.known config.runtime.extra)]

/-- `model.model_dump(mode="python", exclude_none=True)` -/
def ESEConfig.data (config : ESEConfig) : PyData := dump config.known config.extra

/-! ## Validating and loading -/

inductive ConfigFault where
  /-- `ConfigValidationError` -/
  | validation (message : String)
  | escaped (exception : String)

/-- The text of one error. -/
def errorDetail (item : ErrorItem) : String :=
  (if item.loc = [] then "<root>" else String.intercalate "." item.loc) ++ ": " ++ item.msg

section
variable (host : ModelHost)

def ESEConfig.validate (cfg : Fields) : Checked ESEConfig :=
  (ESEConfig.read host cfg).also fun config =>
    (fun _ => config) <$> validated (validateAdapterContract config host.py)

def validateConfig (cfg : Fields) (source : String) : Except ConfigFault PyData :=
  match ESEConfig.validate host cfg with
  | .ok config => .ok config.data
  | .wrong items => .error (.validation ("Invalid ESE config at " ++ source ++ ": " ++
      String.intercalate "; " (items.map errorDetail)))

end

/-- How configs get to files and back. -/
structure ConfigFiles where
  host : ModelHost
  /-- `yaml.safe_dump(payload, sort_keys=False)` -/
  safeDump : PyData → String
  /-- `yaml.safe_load`, or what it raises. -/
  safeLoad : String → Except String PyData

section
variable (files : ConfigFiles)

/-- `load_config(path)`, where there may be a text at the path. -/
def loadConfig (path : String) : Option String → Except ConfigFault PyData
  | none => .error (.validation ("Config file not found: " ++ path))
  | some text =>
      match files.safeLoad text with
      | .error exception => .error (.escaped exception)
      | .ok loaded =>
          match if loaded.truthy then loaded else .dict [] with
          | .dict fields => validateConfig files.host fields path
          | _ => .error (.validation ("Invalid ESE config at " ++ path ++
              ": root must be a mapping"))

/-- `_write_yaml(path, payload)` on the texts of files. -/
def writeYaml (disk : String → Option String) (path : String) (payload : PyData) :
    String → Option String :=
  fun other => if other = path then some (files.safeDump payload) else disk other

end

end TruePresenceESE.Ese
