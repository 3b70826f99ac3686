import TruePresenceESE.Ese.SavedState
import TruePresenceESE.Lib.JsonDict

/-! # From a config to a call

What the pipeline reads off a config, and in which order it checks it. The
header is read before anything is written; the adapter, the runtime section and
the saved state are looked at after the config snapshot.
-/

namespace TruePresenceESE.Ese

open PosixPath PyText PyValue

abbrev Config := JsonDict

/-! ## Sections of a config -/

/-- `cfg.get(key) or {}`, on which `get` is called next. -/
def configSection (cfg : Config) (key : String) : Except RunError JsonDict :=
  match cfg.get key with
  | .obj fields => .ok (JsonDict.ofFields fields)
  | value => if truthy value then .error (.escaped "AttributeError") else .ok Dict.empty

/-- The section, if it is a mapping. -/
def mappingSection (cfg : Config) (key : String) : Option JsonDict :=
  match cfg.get key with
  | .obj fields => some (JsonDict.ofFields fields)
  | _ => none

/-- The first candidate that says something. -/
def firstText (candidates : List Json) : String :=
  ((candidates.filterMap asString).map strip).find? (· ≠ "") |>.getD ""

def resolveScopeText (cfg : Config) : Except RunError String := do
  let input ← configSection cfg "input"
  return firstText [input.get "scope", cfg.get "scope", input.get "prompt", cfg.get "prompt"]

def resolvePromptText (cfg : Config) : String :=
  let input := (mappingSection cfg "input").getD Dict.empty
  firstText [input.get "prompt", cfg.get "prompt"]

def requireScope (cfg : Config) : Except RunError String := do
  let scope ← resolveScopeText cfg
  if scope ≠ "" then return scope
  else throw (.pipeline
    "No project scope supplied. Set input.scope in the config or pass --scope.")

/-! ## Roles -/

def pipelineOrder : List String :=
  ["architect", "implementer", "adversarial_reviewer", "security_auditor", "test_generator",
    "performance_analyst", "documentation_writer", "devops_sre", "database_engineer",
    "release_manager"]

/-- The entries of `role_order` after those seen. -/
def normalizeExplicitOrder (rolesCfg : JsonDict) (seen : List String) :
    List Json → Except RunError (List String)
  | [] => .ok []
  | entry :: rest =>
      match (asString entry).map strip with
      | none => .error (.pipeline "role_order entries must be non-empty strings")
      | some role =>
          if role = "" then .error (.pipeline "role_order entries must be non-empty strings")
          else if rolesCfg.has role = false then
            .error (.pipeline ("role_order references unknown role '" ++ role ++ "'"))
          else if role ∈ seen then
            .error (.pipeline ("role_order contains duplicate role '" ++ role ++ "'"))
          else (normalizeExplicitOrder rolesCfg (seen ++ [role]) rest).map (role :: ·)

def defaultOrder (configuredRoles : List String) : List String :=
  let ordered := pipelineOrder.filter (· ∈ configuredRoles)
  ordered ++ configuredRoles.filter (· ∉ ordered)

def normalizeRoleOrder (cfg : Config) : Except RunError (List String) :=
  let notMapping := RunError.pipeline "roles must be a mapping of role names to role configs"
  match if truthy (cfg.get "roles") then cfg.get "roles" else .obj [] with
  | .obj fields =>
      let rolesCfg := JsonDict.ofFields fields
      if rolesCfg.keys = [] then .ok []
      else match cfg.get "role_order" with
        | .null => .ok (defaultOrder rolesCfg.keys)
        | .arr entries => do
            let normalized ← normalizeExplicitOrder rolesCfg [] entries
            let missing := rolesCfg.keys.filter (· ∉ normalized)
            if missing ≠ [] then
              throw (.pipeline ("role_order omits configured roles: " ++
                String.intercalate ", " missing))
            else return normalized
        | _ => .error (.pipeline "role_order must be a list of configured role names")
  | _ => .error notMapping

theorem normalizeExplicitOrder_nodup {rolesCfg : JsonDict} {seen : List String}
    {entries : List Json} {order : List String}
    (h : normalizeExplicitOrder rolesCfg seen entries = .ok order) :
    order.Nodup ∧ ∀ role ∈ order, role ∉ seen := by
  induction entries generalizing seen order with
  | nil =>
      cases h
      simp
  | cons entry rest ih =>
      unfold normalizeExplicitOrder at h
      cases htext : (asString entry).map strip with
      | none =>
          rw [htext] at h
          cases h
      | some role =>
          simp only [htext] at h
          split at h
          · cases h
          · split at h
            · cases h
            · split at h
              · cases h
              · rename_i hseen
                obtain ⟨tail, htail, rfl⟩ := Fallible.map_eq_ok_iff.mp h
                obtain ⟨hnodup, hfresh⟩ := ih htail
                refine ⟨List.nodup_cons.mpr ⟨fun hmem => hfresh role hmem (by simp), hnodup⟩, ?_⟩
                intro other hother
                rcases List.mem_cons.mp hother with rfl | hmem
                · exact hseen
                · exact fun hin => hfresh other hmem (List.mem_append_left _ hin)

theorem defaultOrder_nodup {configuredRoles : List String} (h : configuredRoles.Nodup) :
    (defaultOrder configuredRoles).Nodup := by
  have hpipeline : pipelineOrder.Nodup := by
    decide
  refine List.Nodup.append (hpipeline.filter _) (h.filter _) fun role hleft hright => ?_
  have hfresh := (List.mem_filter.mp hright).2
  exact (decide_eq_true_eq.mp hfresh) hleft

/-- No role comes twice. -/
theorem normalizeRoleOrder_nodup {cfg : Config} {order : List String}
    (h : normalizeRoleOrder cfg = .ok order) : order.Nodup := by
  unfold normalizeRoleOrder at h
  dsimp only at h
  split at h
  · split at h
    · cases h
      simp
    · split at h
      · cases h
        exact defaultOrder_nodup (Dict.keys_nodup _)
      · obtain ⟨normalized, hnormalized, h⟩ := Fallible.bind_eq_ok_iff.mp h
        split at h
        · cases h
        · cases h
          exact (normalizeExplicitOrder_nodup hnormalized).1
      · cases h
  · cases h

/-! ## Output, gating and runtime -/

/-- A path as the pipeline takes it. -/
abbrev CleanPath := { path : String // path ≠ "" ∧ strip path = path }

def cleanPath (text : Option String) : Option CleanPath :=
  match text with
  | none => none
  | some text => if h : strip text ≠ "" then some ⟨strip text, h, strip_strip text⟩ else none

/-- `output.get("artifacts_dir") or "artifacts"` -/
def configuredArtifactsDir (cfg : Config) : Option String :=
  match mappingSection cfg "output" with
  | none => none
  | some output => asString (output.get "artifacts_dir")

def resolveArtifactsDir (cfg : Config) (artifactsDir : Option String) : CleanPath :=
  match cleanPath artifactsDir with
  | some path => path
  | none => (cleanPath (configuredArtifactsDir cfg)).getD ⟨"artifacts", by decide⟩

def sectionFlag (cfg : Config) (key flag : String) : Bool :=
  match mappingSection cfg key with
  | none => true
  | some fields => truthy (fields.getOr flag (.bool true))

def enforceJson (cfg : Config) : Bool := sectionFlag cfg "output" "enforce_json"

def failOnHigh (cfg : Config) : Bool := sectionFlag cfg "gating" "fail_on_high"

def reviewIsolationOf (py : Interpreter) (cfg : Config) : ReviewIsolation :=
  match mappingSection cfg "runtime" with
  | none => .scopeAndImplementation
  | some runtime =>
      let value := runtime.get "review_isolation"
      let text := if truthy value then str py value else "scope_and_implementation"
      match py.lower (strip text) with
      | "framed" => .framed
      | "implementation_only" => .implementationOnly
      | "scope_only" => .scopeOnly
      | _ => .scopeAndImplementation

/-- `int(value)`, with `parse` for texts. -/
def toInt (parse : String → Option ℤ) : Json → Option ℤ
  | .bool b => some (if b then 1 else 0)
  | .num q => some (if 0 ≤ q then ⌊q⌋ else ⌈q⌉)
  | .str s => parse s
  | _ => none

structure ParallelConfig where
  parallelSpecialists : Bool
  maxParallelRoles : ℕ+

def parallelCfg (parseInt : String → Option ℤ) (cfg : Config) : Except RunError ParallelConfig :=
  match mappingSection cfg "runtime" with
  | none => .ok ⟨true, 4⟩
  | some runtime =>
      match toInt parseInt (runtime.getOr "max_parallel_roles" (.num 4)) with
      | none => .error (.pipeline "runtime.max_parallel_roles must be an integer")
      | some count =>
          if h : 0 < count then
            .ok ⟨truthy (runtime.getOr "parallel_specialists" (.bool true)),
              ⟨count.toNat, by omega⟩⟩
          else .error (.pipeline "runtime.max_parallel_roles must be > 0")

/-! ## Models -/

/-- `key in role_cfg and role_cfg.get(key)`, with what it raises on a role that is
no mapping. -/
def roleOverride (roleCfg : Json) (key : String) : Except String (Option Json) :=
  match roleCfg with
  | .obj fields =>
      let value := (JsonDict.ofFields fields).get key
      .ok (if truthy value then some value else none)
  | .arr items =>
      if items.any (asString · = some key) then .error "'list' object has no attribute 'get'"
      else .ok none
  | .str text =>
      if Text.contains key.toList text.toList then .error "'str' object has no attribute 'get'"
      else .ok none
  | value =>
      if truthy value then .error "argument of type 'int' is not iterable" else .ok none

def resolveRoleModel (py : Interpreter) (cfg : Config) (role : String) : Except String String := do
  let rolesCfg := (mappingSection cfg "roles").getD Dict.empty
  let providerCfg := (mappingSection cfg "provider").getD Dict.empty
  let givenProvider ← roleOverride (rolesCfg.get role) "provider"
  let givenModel ← roleOverride (rolesCfg.get role) "model"
  let provider := str py (givenProvider.getD (providerCfg.getOr "name" (.str "unknown")))
  let model := str py (givenModel.getD (providerCfg.getOr "model" (.str "unknown")))
  if py.lower (strip provider) = "unknown" ∧ py.lower (strip model) = "unknown" then
    throw ("Cannot resolve model for role '" ++ role ++ "': provider and model are both unknown. " ++
      "Set provider.name and provider.model, or configure role-specific provider/model.")
  else return provider ++ ":" ++ model

def resolveRolePromptText (cfg : Config) (role : String) : String :=
  match ((mappingSection cfg "roles").getD Dict.empty).get role with
  | .obj fields => firstText [(JsonDict.ofFields fields).get "prompt"]
  | _ => ""

/-! ## Adapters -/

/-- What calling an adapter's healthcheck on the config comes to, unless its signature
cannot be read. -/
inductive Healthcheck where
  | absent
  | notCallable
  | unreadable (exception : String)
  | raised (message : String)
  | returned (value : Json)

structure CustomAdapter where
  callable : Bool
  healthcheck : Config → Healthcheck
  call : Config → Adapter

/-- What importing a module finds. -/
inductive Imported where
  | notFound
  | raised (exception : String)
  | loaded (member : String → Option CustomAdapter)

/-- Where the pipeline runs: the host, how it writes configs and reads integers, and
the adapters there are. -/
structure Site where
  host : Host
  yaml : Config → String
  parseInt : String → Option ℤ
  builtinAdapter : String → Option (Config → Adapter)
  importModule : String → Imported

def loadCustomAdapter (site : Site) (reference : String) : Except RunError CustomAdapter :=
  if ':' ∉ reference.toList then
    .error (.pipeline ("runtime.adapter must be one of \x7b'dry-run', 'openai', 'local', " ++
      "'custom_api'\x7d or a Python reference in 'module:function' format"))
  else
    let moduleName := String.ofList (reference.toList.takeWhile (· ≠ ':'))
    let objectName := String.ofList (reference.toList.dropWhile (· ≠ ':')).tail
    match site.importModule moduleName with
    | .notFound => .error (.pipeline ("Could not import adapter module '" ++ moduleName ++ "'"))
    | .raised exception => .error (.escaped exception)
    | .loaded member =>
        match (member objectName).filter CustomAdapter.callable with
        | none => .error (.pipeline ("Adapter '" ++ reference ++ "' is not callable"))
        | some adapter => .ok adapter

def runAdapterHealthcheck (adapter : CustomAdapter) (cfg : Config) (reference : String) :
    Except RunError Unit :=
  match adapter.healthcheck cfg with
  | .absent => .ok ()
  | .notCallable =>
      .error (.pipeline ("Adapter '" ++ reference ++ "' exposes a non-callable healthcheck"))
  | .unreadable exception => .error (.escaped exception)
  | .raised message =>
      .error (.pipeline ("Adapter healthcheck failed for '" ++ reference ++ "': " ++ message))
  | .returned (.bool false) =>
      .error (.pipeline ("Adapter healthcheck failed for '" ++ reference ++ "'"))
  | .returned _ => .ok ()

def adapterReference (runtime : JsonDict) : Except RunError String :=
  let value := runtime.get "adapter"
  if truthy value then
    match asString value with
    | none => .error (.escaped "AttributeError")
    | some text => .ok (orDefault (strip text) "dry-run")
  else .ok "dry-run"

def resolveAdapter (site : Site) (cfg : Config) : Except RunError (String × Adapter) := do
  let runtime ← configSection cfg "runtime"
  let reference ← adapterReference runtime
  match site.builtinAdapter reference with
  | some builtin => return (reference, builtin cfg)
  | none =>
      let adapter ← loadCustomAdapter site reference
      runAdapterHealthcheck adapter cfg reference
      return (reference, adapter.call cfg)

/-! ## Starting -/

/-- What is read and checked before anything is written. -/
structure Header where
  artifactsDir : CleanPath
  provider : String
  mode : String
  scope : String
  roleOrder : List String
  roleOrder_ne_nil : roleOrder ≠ []
  roleOrder_nodup : roleOrder.Nodup

def readHeader (py : Interpreter) (cfg : Config) (artifactsDir : Option String) :
    Except RunError Header := do
  let provider ← configSection cfg "provider"
  let scope ← requireScope cfg
  match h : normalizeRoleOrder cfg with
  | .error error => throw error
  | .ok order =>
      if hne : order = [] then
        throw (.pipeline "No roles configured. Add at least one role under roles.")
      else return ⟨resolveArtifactsDir cfg artifactsDir,
        str py (provider.getOr "name" (.str "unknown")),
        str py (cfg.getOr "mode" (.str "ensemble")), scope, order, hne, normalizeRoleOrder_nodup h⟩

/-- What a run reads off the config once the checks have passed. -/
def runSettings (site : Site) (cfg : Config) (header : Header) (adapterName : String)
    (parallel : ParallelConfig) : RunSettings where
  artifactsDir := header.artifactsDir
  provider := header.provider
  mode := header.mode
  adapterName := adapterName
  scope := header.scope
  promptText := resolvePromptText cfg
  roleOrder := header.roleOrder
  configText := site.yaml cfg
  roleModel := resolveRoleModel site.host.py cfg
  rolePromptText := resolveRolePromptText cfg
  reviewIsolation := reviewIsolationOf site.host.py cfg
  enforceJson := enforceJson cfg
  failOnHigh := failOnHigh cfg
  parallelSpecialists := parallel.parallelSpecialists
  maxParallelRoles := parallel.maxParallelRoles
  artifactsDir_ne_empty := header.artifactsDir.2.1
  artifactsDir_stripped := header.artifactsDir.2.2
  roleOrder_ne_nil := header.roleOrder_ne_nil
  roleOrder_nodup := header.roleOrder_nodup
  maxParallelRoles_pos := parallel.maxParallelRoles.2

/-- The call with the adapter its config names. -/
def RunRequest.resolved (request : RunRequest) (adapter : Adapter) : RunRequest :=
  { request with adapter := .ok adapter }

/-- What is checked after the config snapshot has been written. -/
def readRuntime (site : Site) (cfg : Config) (header : Header) (request : RunRequest) :
    Except RunError (RunSettings × RunRequest) := do
  let (adapterName, adapter) ← resolveAdapter site cfg
  let parallel ← parallelCfg site.parseInt cfg
  return (runSettings site cfg header adapterName parallel, request.resolved adapter)

def Header.snapshot (site : Site) (header : Header) : Location :=
  site.host.locate (join header.artifactsDir configSnapshotName)

/-- The prologue of a call, up to its first role. -/
def startCall (site : Site) (cfg : Config) (artifactsDir : Option String) (request : RunRequest)
    (fs : FileSystem) : Except Halt (RunEnv × Resume) :=
  match readHeader site.host.py cfg artifactsDir with
  | .error error => .error ⟨fs, error, []⟩
  | .ok header =>
      match readRuntime site cfg header request with
      | .error error =>
          .error ⟨fs.write (header.snapshot site) (.text (site.yaml cfg)), error, []⟩
      | .ok (s, request) => startRun site.host s request fs

/-- The whole call, from its config. -/
def callPipeline (site : Site) (cfg : Config) (artifactsDir : Option String) (request : RunRequest)
    (fs : FileSystem) : FileSystem × Except RunError String :=
  match readHeader site.host.py cfg artifactsDir with
  | .error error => (fs, .error error)
  | .ok header =>
      match readRuntime site cfg header request with
      | .error error =>
          (fs.write (header.snapshot site) (.text (site.yaml cfg)), .error error)
      | .ok (s, request) => runPipeline site.host s request fs

end TruePresenceESE.Ese
