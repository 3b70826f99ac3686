import TruePresenceESE.Ese.Doctor
import TruePresenceESE.Ese.ModelDiversity

/-! # Configs from a task description

A task is turned into a config from a built-in template, an installed pack or a bundle: the
roles come from there, the models from the provider, the adapter from the execution mode.
-/

namespace TruePresenceESE.Ese

open PyText PyValue

/-! ## Templates -/

structure TaskTemplate where
  key : String
  title : String
  preset : String
  goalProfile : String
  roles : List String
  failOnHigh : Bool := true

def taskTemplates : List TaskTemplate :=
  [{ key := "feature-delivery"
     title := "Feature Delivery"
     preset := "balanced"
     goalProfile := "balanced"
     roles := ["architect", "implementer", "adversarial_reviewer", "security_auditor",
       "test_generator", "performance_analyst"] },
    { key := "release-readiness"
      title := "Release Readiness"
      preset := "paranoid"
      goalProfile := "security-heavy"
      roles := ["architect", "implementer", "adversarial_reviewer", "security_auditor",
        "test_generator", "performance_analyst", "documentation_writer", "devops_sre",
        "release_manager"] },
    { key := "security-hardening"
      title := "Security Hardening"
      preset := "paranoid"
      goalProfile := "security-heavy"
      roles := ["architect", "implementer", "adversarial_reviewer", "security_auditor",
        "test_generator", "performance_analyst", "devops_sre", "database_engineer",
        "release_manager"] },
    { key := "performance-pass"
      title := "Performance Pass"
      preset := "strict"
      goalProfile := "high-quality"
      roles := ["architect", "implementer", "adversarial_reviewer", "test_generator",
        "performance_analyst"] },
    { key := "documentation-refresh"
      title := "Documentation Refresh"
      preset := "strict"
      goalProfile := "high-quality"
      roles := ["architect", "implementer", "adversarial_reviewer", "documentation_writer",
        "release_manager"]
      failOnHigh := false },
    { key := "pr-review"
      title := "Pull Request Review"
      preset := "paranoid"
      goalProfile := "security-heavy"
      roles := ["adversarial_reviewer", "security_auditor", "test_generator",
        "performance_analyst", "release_manager"] }]

/-- The templates that words of a task point to, in the order they are looked for. -/
def templateKeywords : List (String × List String) :=
  [("release-readiness", ["release", "rollout", "launch", "deploy", "go live"]),
    ("security-hardening", ["security", "auth", "permission", "threat", "vulnerability"]),
    ("performance-pass", ["performance", "latency", "throughput", "scale", "memory"]),
    ("documentation-refresh", ["docs", "documentation", "readme", "migration guide", "runbook"]),
    ("pr-review", ["pr", "pull request", "diff review", "code review"])]

def recommendTemplateForScope (py : Interpreter) (scope : String) : String :=
  let text := py.lower (strip scope)
  match templateKeywords.find? fun entry =>
      entry.2.any fun keyword => Text.contains keyword.toList text.toList with
  | some entry => entry.1
  | none => "feature-delivery"

def resolveTaskTemplate (py : Interpreter) (templateKey : String) : Except String TaskTemplate :=
  match taskTemplates.find? (·.key = py.lower (strip templateKey)) with
  | some template => .ok template
  | none => .error ("Unknown task template '" ++ templateKey ++ "'. Choose one of: " ++
      String.intercalate ", " ((taskTemplates.map TaskTemplate.key).mergeSort fun a b => a ≤ b))

/-! ## Providers -/

structure RuntimeCapability where
  defaultApiKeyEnv : String
  supportsBuiltinLive : Bool
  builtinRuntimeAdapter : Option String
  preferLiveWhenSelected : Bool := false

def runtimeCapabilities : List (String × RuntimeCapability) :=
  [("openai", ⟨"OPENAI_API_KEY", true, some "openai", false⟩),
    ("anthropic", ⟨"ANTHROPIC_API_KEY", false, none, false⟩),
    ("google", ⟨"GOOGLE_API_KEY", false, none, false⟩),
    ("xai", ⟨"XAI_API_KEY", false, none, false⟩),
    ("openrouter", ⟨"OPENROUTER_API_KEY", false, none, false⟩),
    ("huggingface", ⟨"HF_TOKEN", false, none, false⟩),
    ("local", ⟨"LOCAL_MODEL", true, some "local", true⟩),
    ("custom_api", ⟨"CUSTOM_API_KEY", true, some "custom_api", false⟩)]

def runtimeCapability (py : Interpreter) (provider : String) : RuntimeCapability :=
  (runtimeCapabilities.lookup (py.lower (strip provider))).getD ⟨"MODEL_TOKEN", false, none, false⟩

/-! ## A task -/

/-- `(text or "").strip()` -/
def cleanText (text : Option String) : String := strip (text.getD "")

structure TaskRequest where
  scope : String
  templateKey : Option String := none
  packKey : Option String := none
  bundleKey : Option String := none
  provider : Option String := some "openai"
  executionMode : Option String := some "auto"
  artifactsDir : String := "artifacts"
  model : Option String := none
  apiKeyEnv : Option String := none
  runtimeAdapter : Option String := none
  providerName : Option String := none
  baseUrl : Option String := none
  repoPath : Option String := none
  enforceJson : Bool := true
  failOnHigh : Option Bool := none

/-- What a config takes from a template, a pack or a bundle. -/
structure TaskSource where
  preset : String
  goalProfile : String
  roles : Dict String TaskRole
  roleOrder : List String
  failOnHigh : Bool
  /-- The keys that say where the config comes from. -/
  profile : List (String × Json)

/-- What the context of a repository adds to the input. -/
structure RepoContext where
  repoPath : String
  prompt : String
  payload : Json

/-- What a task is built with: the environment, the installed packs and bundles, and the
repository at a path. -/
structure TaskHost extends DoctorHost where
  environ : String → Option String
  packSource : String → Except String TaskSource
  bundleSource : String → Except String TaskSource
  repoContext : String → Except String RepoContext

def templateSource (template : TaskTemplate) : TaskSource where
  preset := template.preset
  goalProfile := template.goalProfile
  roles := rolesForPreset template.preset template.roles
  roleOrder := template.roles
  failOnHigh := template.failOnHigh
  profile := [("install_profile", .obj [("kind", .str "template"),
      ("template", .str template.key)]),
    ("template_key", .str template.key), ("template_title", .str template.title)]

/-- A config before it is validated. -/
structure TaskConfig where
  providerName : String
  model : String
  source : TaskSource
  roles : Dict String TaskRole
  pairs : List (String × String)
  scope : String
  repoContext : Option RepoContext
  artifactsDir : String
  enforceJson : Bool
  failOnHigh : Bool
  adapter : String
  apiKeyEnv : Option String
  providerBaseUrl : Option String
  /-- The base URL of the adapter's own section. -/
  runtimeBaseUrl : Option String

section
variable (host : TaskHost) (request : TaskRequest)

/-- The template that is named, or else recommended for the scope. -/
def taskTemplate : Except String TaskTemplate :=
  resolveTaskTemplate host.py (orDefault (cleanText request.templateKey)
    (recommendTemplateForScope host.py request.scope))

def taskSource : Except String TaskSource :=
  let template := cleanText request.templateKey
  let pack := cleanText request.packKey
  let bundle := cleanText request.bundleKey
  if 1 < ([template, pack, bundle].filter (· ≠ "")).length then
    .error "Choose only one task source: template, installed pack, or application bundle."
  else if bundle ≠ "" then host.bundleSource bundle
  else if pack ≠ "" then host.packSource pack
  else (taskTemplate host request).map templateSource

def isSet (value : Option String) : Bool := value.getD "" ≠ ""

def cleanProvider : String := host.py.lower (strip (orDefault (request.provider.getD "") "openai"))

/-- Whether the run is live: asked for, or found out from the environment. -/
def resolveExecutionMode (provider : String) : Except String String :=
  let requested := orDefault (request.executionMode.getD "") "auto"
  let mode := host.py.lower (strip requested)
  let capability := runtimeCapability host.py provider
  let keyPresent := isSet (host.environ capability.defaultApiKeyEnv)
  if mode ∉ ["auto", "demo", "live"] then
    .error ("Unsupported execution mode '" ++ requested ++ "'. Choose one of: auto, demo, live")
  else if mode ≠ "auto" then .ok mode
  else if capability.preferLiveWhenSelected then .ok "live"
  else if provider = "custom_api" then
    .ok (if keyPresent ∧ isSet request.baseUrl then "live" else "demo")
  else if capability.supportsBuiltinLive ∧ keyPresent then .ok "live"
  else if isSet request.runtimeAdapter then .ok "live"
  else .ok "demo"

def selectedModel (provider goalProfile : String) : String :=
  orDefault (cleanText request.model) (defaultModelFor provider goalProfile)

def taskRepoContext : Except String (Option RepoContext) :=
  if cleanText request.repoPath = "" then .ok none
  else match host.repoContext (request.repoPath.getD "") with
    | .ok context => .ok (some context)
    | .error message => .error ("Could not collect repo context: " ++ message)

def runtimeAdapterFor (provider mode : String) : Except String String :=
  if mode = "demo" then .ok "dry-run"
  else if isSet request.runtimeAdapter then .ok (cleanText request.runtimeAdapter)
  else match (runtimeCapability host.py provider).builtinRuntimeAdapter with
    | some adapter => .ok adapter
    | none => .error ("Live execution for provider '" ++ provider ++
        "' requires runtime_adapter in module:function format.")

/-- The base URL of the section that the adapter has of its own. -/
def adapterBaseUrl (adapter : String) : Except String (Option String) :=
  match adapter with
  | "openai" => .ok (some "https://api.openai.com/v1")
  | "local" => .ok (some (strip (orDefault (request.baseUrl.getD "") "http://localhost:11434/v1")))
  | "custom_api" =>
      if isSet request.baseUrl then .ok (some (cleanText request.baseUrl))
      else .error "custom_api live runs require base_url."
  | _ => .ok none

/-- The config that is handed to validation. -/
def draftTaskConfig : Except String TaskConfig := do
  if strip request.scope = "" then throw "Task scope is required."
  let source ← taskSource host request
  let provider := cleanProvider host request
  let mode ← resolveExecutionMode host request provider
  let model := selectedModel request provider source.goalProfile
  let context ← taskRepoContext host request
  let adapter ← runtimeAdapterFor host request provider mode
  let runtimeBaseUrl ← adapterBaseUrl request adapter
  let custom := provider = "custom_api"
  return { providerName := if custom then strip (orDefault (request.providerName.getD "") provider)
             else provider
           model := model
           source := source
           roles := applySimpleModeModelDiversity provider model source.roleOrder source.roles
           pairs := ensembleConstraints source.roleOrder
           scope := strip request.scope
           repoContext := context
           artifactsDir := request.artifactsDir
           enforceJson := request.enforceJson
           failOnHigh := request.failOnHigh.getD source.failOnHigh
           adapter := adapter
           apiKeyEnv := if adapter = "openai" ∨ adapter = "custom_api" ∨ custom then
             some (strip (orDefault (request.apiKeyEnv.getD "")
               (runtimeCapability host.py provider).defaultApiKeyEnv)) else none
           providerBaseUrl := if (custom ∧ isSet request.baseUrl) ∨ adapter = "custom_api" then
             some (cleanText request.baseUrl) else none
           runtimeBaseUrl := runtimeBaseUrl }

end

/-! ## Validation -/

def builtinAdapters : List String := ["dry-run", "openai", "local", "custom_api"]

/-- An adapter is built in or names a function of a module. -/
def adapterFormat (adapter : String) : Bool :=
  adapter ∈ builtinAdapters ||
    (':' ∈ adapter.toList &&
      strip (String.ofList (adapter.toList.takeWhile (· ≠ ':'))) ≠ "" &&
      strip (String.ofList (adapter.toList.dropWhile (· ≠ ':')).tail) ≠ "")

/-- The fields that have to say something, by their paths. -/
def TaskConfig.requiredTexts (task : TaskConfig) : List (String × String) :=
  [("provider.name", task.providerName), ("provider.model", task.model),
    ("input.scope", task.scope), ("output.artifacts_dir", task.artifactsDir),
    ("runtime.adapter", task.adapter)] ++
    (task.apiKeyEnv.toList.map fun text => ("provider.api_key_env", text)) ++
    (task.providerBaseUrl.toList.map fun text => ("provider.base_url", text)) ++
    (task.runtimeBaseUrl.toList.map fun text => ("runtime." ++ task.adapter ++ ".base_url", text)) ++
    (task.repoContext.toList.map fun context => ("input.prompt", context.prompt)) ++
    task.roles.items.flatMap fun entry =>
      (entry.2.prompt.toList.map fun text => ("roles." ++ entry.1 ++ ".prompt", text)) ++
        entry.2.model.toList.map fun text => ("roles." ++ entry.1 ++ ".model", text)

def TaskConfig.fieldErrors (task : TaskConfig) : List String :=
  (task.requiredTexts.filterMap fun field =>
      if strip field.2 = "" then some (field.1 ++ ": must be a non-empty string") else none) ++
    (if task.roles.items = [] then ["roles: must include at least one configured role"] else []) ++
    if strip task.adapter ≠ "" ∧ adapterFormat (strip task.adapter) = false then
      ["runtime.adapter: must be one of \x7b'dry-run', 'openai', 'local', 'custom_api'\x7d " ++
        "or use 'module:function' format"]
    else []

/-- What the sections have to agree on. -/
def TaskConfig.contractError (py : Interpreter) (task : TaskConfig) : Option String :=
  let adapter := py.lower (strip task.adapter)
  let provider := py.lower (strip task.providerName)
  if task.failOnHigh ∧ task.enforceJson = false then
    some "gating.fail_on_high requires output.enforce_json for deterministic severity parsing"
  else if adapter = "openai" ∧ provider ≠ "openai" then
    some "runtime.adapter=openai requires provider.name='openai'"
  else if adapter = "local" ∧ provider ≠ "local" then
    some "runtime.adapter=local requires provider.name='local'"
  else if adapter = "custom_api" ∧ provider = "openai" then
    some "runtime.adapter=custom_api requires provider.name to be a custom provider"
  else if adapter = "custom_api" ∧ task.apiKeyEnv.isNone then
    some "runtime.adapter=custom_api requires provider.api_key_env"
  else if adapter = "custom_api" ∧ task.providerBaseUrl.isNone ∧ task.runtimeBaseUrl.isNone then
    some "runtime.adapter=custom_api requires provider.base_url or runtime.custom_api.base_url"
  else none

def optionalText (key : String) (text : Option String) : List (String × Json) :=
  text.toList.map fun value => (key, .str (strip value))

def taskRoleJson (role : TaskRole) : Json :=
  .obj (optionalText "model" role.model ++ [("temperature", .num role.temperature)] ++
    optionalText "prompt" role.prompt)

def pairJson (pair : String × String) : Json := .arr [.str pair.1, .str pair.2]

/-- The base URL in the section of an adapter. -/
def TaskConfig.baseUrlOf (task : TaskConfig) (adapter default : String) : String :=
  if task.adapter = adapter then strip (task.runtimeBaseUrl.getD default) else default

/-- The fields of the validated config, without those that are absent. -/
def TaskConfig.fields (task : TaskConfig) : List (String × Json) :=
  [("version", .num 1), ("mode", .str "ensemble"), ("strict_config", .bool false),
    ("provider", .obj ([("name", .str (strip task.providerName)),
        ("model", .str (strip task.model))] ++ optionalText "api_key_env" task.apiKeyEnv ++
      optionalText "base_url" task.providerBaseUrl)),
    ("roles", .obj (task.roles.items.map fun entry => (entry.1, taskRoleJson entry.2))),
    ("role_order", .arr (task.source.roleOrder.map .str)),
    ("constraints", .obj [("disallow_same_model_pairs", .arr (task.pairs.map pairJson)),
      ("require_roles", .arr []), ("disallow_same_provider_pairs", .arr []),
      ("require_json_for_roles", .arr [])]),
    ("input", .obj ([("scope", .str (strip task.scope))] ++
      (task.repoContext.toList.flatMap fun context => [("prompt", .str (strip context.prompt)),
        ("repo_path", .str context.repoPath), ("repo_context", context.payload)]))),
    ("output", .obj [("artifacts_dir", .str (strip task.artifactsDir)),
      ("enforce_json", .bool task.enforceJson)]),
    ("gating", .obj [("fail_on_high", .bool task.failOnHigh)]),
    ("runtime", .obj ([("adapter", .str (strip task.adapter)), ("timeout_seconds", .num 60),
        ("max_retries", .num 2), ("retry_backoff_seconds", .num 1),
        ("review_isolation", .str "scope_and_implementation"),
        ("openai", .obj [("base_url", .str "https://api.openai.com/v1")]),
        ("local", .obj [("base_url", .str (task.baseUrlOf "local" "http://localhost:11434/v1")),
          ("use_openai_compat_auth", .bool true)])] ++
      if task.adapter = "custom_api" then
        [("custom_api", .obj [("base_url", .str (task.baseUrlOf "custom_api" ""))])] else [])),
    ("preset", .str task.source.preset)] ++ task.source.profile

def TaskConfig.toConfig (task : TaskConfig) : Config := JsonDict.ofFields task.fields

def validateTaskConfig (py : Interpreter) (task : TaskConfig) : Except String Config :=
  let invalid := fun details => "Invalid ESE config at <task>: " ++ details
  if task.fieldErrors ≠ [] then .error (invalid (String.intercalate "; " task.fieldErrors))
  else match task.contractError py with
    | some message => .error (invalid ("<root>: " ++ message))
    | none => .ok task.toConfig

def buildTaskConfig (host : TaskHost) (request : TaskRequest) : Except String Config :=
  draftTaskConfig host request >>= validateTaskConfig host.py

end TruePresenceESE.Ese
