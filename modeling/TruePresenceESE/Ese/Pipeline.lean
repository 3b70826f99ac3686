import TruePresenceESE.Ese.DerivedArtifacts
import TruePresenceESE.Ese.Prompts

/-! # The pipeline

Roles run in order, specialists in batches when that is enabled. Every exit
after a role has run writes the state file and the artifacts derived from it,
so what is on disk is carried along with each error.
-/

namespace TruePresenceESE.Ese

open PosixPath PyText

/-! ## What a call of the pipeline is given -/

structure Host where
  py : Interpreter
  workingDir : Location
  workingDir_names : ∀ segment ∈ workingDir, IsName segment

/-- What a run reads off its config. -/
structure RunSettings where
  artifactsDir : String
  provider : String
  mode : String
  adapterName : String
  scope : String
  promptText : String
  roleOrder : List String
  configText : String
  roleModel : String → Except String String
  rolePromptText : String → String
  reviewIsolation : ReviewIsolation
  enforceJson : Bool
  failOnHigh : Bool
  parallelSpecialists : Bool
  maxParallelRoles : Nat
  artifactsDir_ne_empty : artifactsDir ≠ ""
  artifactsDir_stripped : strip artifactsDir = artifactsDir
  roleOrder_ne_nil : roleOrder ≠ []
  roleOrder_nodup : roleOrder.Nodup
  maxParallelRoles_pos : 0 < maxParallelRoles

structure AdapterCall where
  role : String
  model : String
  prompt : String
  context : Dict String String

inductive AdapterResult where
  | output (text : String)
  | raised (message : String)
  | notString

/-- The adapter has the config it was resolved with. -/
abbrev Adapter := AdapterCall → AdapterResult

structure Stamps where
  startedAt : String
  completedAt : String
  durationMs : ℤ

abbrev Pending := String × Nat

/-- What one call has of its own. -/
structure RunRequest where
  startRole : Option String
  runId : String
  /-- The adapter, unless it cannot be resolved. -/
  adapter : Except String Adapter
  stamps : String → Stamps
  /-- The order in which the futures of a batch complete. -/
  completionOrder : List Pending → List Pending
  completionOrder_perm : ∀ batch, (completionOrder batch).Perm batch
  /-- The earlier run next to this one that a comparison picks. -/
  previousRunDir : Option String

inductive RunError where
  /-- `PipelineError` -/
  | pipeline (message : String)
  /-- Any other exception, by its class. -/
  | escaped (exception : String)

/-- An error with what is on disk when it is raised and the role artifacts
written until then. -/
structure Halt where
  fs : FileSystem
  error : RunError
  written : List (String × Location)

/-- A call under way. -/
structure RunEnv where
  host : Host
  settings : RunSettings
  request : RunRequest
  adapter : Adapter
  inputs : PromptInputs
  parentRunId : Option String

/-- What a run has gathered. The last two fields only record what it passed to
the adapter and where it wrote. -/
structure RunState where
  fs : FileSystem
  outputs : Dict String String := Dict.empty
  artifacts : Dict String String := Dict.empty
  models : Dict String String := Dict.empty
  execution : List Json := []
  calls : List AdapterCall := []
  written : List (String × Location) := []

def Host.reader (host : Host) (fs : FileSystem) : Reader := ⟨host.py, fs, host.workingDir⟩

def Host.locate (host : Host) (path : String) : Location := resolve host.workingDir path

/-! ## One role -/

structure RoleResult where
  role : String
  index : Nat
  call : AdapterCall
  artifactPath : String
  content : FileContent
  renderedOutput : String
  structuredReport : Option Report
  execution : Json

def invokeAdapter (adapter : Adapter) (call : AdapterCall) : Except String String :=
  match adapter call with
  | .output text => .ok text
  | .raised message =>
      .error ("Adapter execution failed for role '" ++ call.role ++ "': " ++ message)
  | .notString => .error ("Adapter output for role '" ++ call.role ++ "' must be a string")

structure Rendered where
  extension : String
  content : FileContent
  text : String
  report : Option Report

def renderRoleOutput (py : Interpreter) (role model output : String) (enforceJson : Bool) :
    Except String Rendered :=
  if enforceJson then
    (normalizeJsonReport role py model output).map fun report =>
      ⟨"json", .json (.obj report.items), py.dumps (.obj report.items) ++ "\n", some report⟩
  else .ok ⟨"md", .text output, output, none⟩

def artifactName (index : Nat) (role extension : String) : String :=
  pad2 index ++ "_" ++ role ++ "." ++ extension

def roleCall (env : RunEnv) (role model : String) (outputs : Dict String String) : AdapterCall where
  role := role
  model := model
  prompt := rolePrompt env.inputs role (env.settings.rolePromptText role) outputs
  context := roleContext role outputs env.inputs.reviewIsolation

def executionRecord (stamps : Stamps) (role model artifact strategy : String) : Json :=
  .obj [("role", .str role), ("model", .str model), ("artifact", .str artifact),
    ("strategy", .str strategy), ("started_at", .str stamps.startedAt),
    ("completed_at", .str stamps.completedAt), ("duration_ms", .num stamps.durationMs)]

def executeRole (env : RunEnv) (strategy : String) (outputs : Dict String String)
    (next : Pending) : Except String RoleResult := do
  let (role, index) := next
  let model ← env.settings.roleModel role
  let call := roleCall env role model outputs
  let output ← invokeAdapter env.adapter call
  let rendered ← renderRoleOutput env.host.py role model output env.inputs.enforceJson
  let path := join env.settings.artifactsDir (artifactName index role rendered.extension)
  return ⟨role, index, call, path, rendered.content, rendered.text, rendered.report,
    executionRecord (env.request.stamps role) role model path strategy⟩

def writeResult (env : RunEnv) (fs : FileSystem) (result : RoleResult) : FileSystem :=
  fs.write (env.host.locate result.artifactPath) result.content

def applyRoleResult (env : RunEnv) (st : RunState) (result : RoleResult) : RunState :=
  { st with
    outputs := st.outputs.set result.role result.renderedOutput
    artifacts := st.artifacts.set result.role result.artifactPath
    models := st.models.set result.role result.call.model
    execution := st.execution ++ [result.execution]
    calls := st.calls ++ [result.call]
    written := st.written ++ [(result.role, env.host.locate result.artifactPath)] }

/-! ## Summary and state -/

/-- How a run ends. -/
structure Ending where
  status : String
  failedRoles : List String := []
  failure : Option String := none

def summaryName : String := "ese_summary.md"
def configSnapshotName : String := "ese_config.snapshot.yaml"
def suggestionsMarkdownName : String := "code_suggestions.md"
def suggestionsJsonName : String := "code_suggestions.json"
def releaseName : String := "release_simulation.json"

def assuranceLevel (py : Interpreter) (mode : String) : String :=
  if py.lower (strip (orDefault mode "ensemble")) = "solo" then "degraded" else "standard"

/-- A start role that counts as given. -/
def RunRequest.givenStartRole (request : RunRequest) : Option String :=
  request.startRole.filter (· ≠ "")

def memberText (mapping : Json) (key : String) : String :=
  ((mapping.get? key).bind asString).getD ""

def summaryText (env : RunEnv) (st : RunState) (ending : Ending) : String :=
  let s := env.settings
  let note label text := ["", label ++ ": " ++ text]
  let lines :=
    ["# ESE Summary", "", "Run ID: " ++ env.request.runId, "Status: " ++ ending.status,
      "Assurance Level: " ++ assuranceLevel env.host.py s.mode, "Mode: " ++ s.mode,
      "Provider: " ++ s.provider, "Adapter: " ++ s.adapterName, "", "Executed roles:"]
    ++ st.execution.map (fun item => "- " ++ memberText item "role" ++ " (" ++
      memberText item "model" ++ ") -> " ++ memberText item "artifact")
    ++ (env.parentRunId.elim [] (note "Parent Run ID"))
    ++ (env.request.givenStartRole.elim [] (note "Start Role"))
    ++ (if ending.failedRoles.isEmpty then []
      else note "Failed Roles" (String.intercalate ", " ending.failedRoles))
    ++ (ending.failure.elim [] (note "Failure"))
  String.intercalate "\n" lines ++ "\n"

def textMap (texts : Dict String String) : Json :=
  .obj (texts.items.map fun p => (p.1, .str p.2))

def optionalMember (key : String) (text : Option String) : List (String × Json) :=
  text.elim [] fun text => [(key, .str text)]

def stateJson (env : RunEnv) (st : RunState) (ending : Ending) : Json :=
  let s := env.settings
  .obj ([("run_id", .str env.request.runId), ("status", .str ending.status),
      ("assurance_level", .str (assuranceLevel env.host.py s.mode)), ("mode", .str s.mode),
      ("provider", .str s.provider), ("adapter", .str s.adapterName), ("scope", .str s.scope),
      ("config_snapshot", .str (join s.artifactsDir configSnapshotName)),
      ("state_contract_version", .num 2), ("report_contract_version", .num 2),
      ("role_models", textMap st.models), ("artifacts", textMap st.artifacts),
      ("execution", .arr st.execution)]
    ++ optionalMember "parent_run_id" env.parentRunId
    ++ optionalMember "start_role" env.request.givenStartRole
    ++ (if ending.failedRoles.isEmpty then []
      else [("failed_roles", strings ending.failedRoles)])
    ++ optionalMember "failure" ending.failure)

/-! ## Derived artifacts -/

/-- The file of that name in the artifacts directory. -/
def RunEnv.fileNamed (env : RunEnv) (name : String) : Location :=
  env.host.locate (join env.settings.artifactsDir name)

def RunEnv.collect (env : RunEnv) (fs : FileSystem) : Except ReportError RunReport :=
  collectRunReport (env.host.reader fs) env.request.previousRunDir env.settings.artifactsDir

/-- A step that needs the report and is left out where there is none. -/
def withReport (env : RunEnv) (fs : FileSystem) (f : RunReport → FileSystem) :
    Except String FileSystem :=
  match env.collect fs with
  | .ok report => .ok (f report)
  | .error (.runReport _) => .ok fs
  | .error (.escaped exception) => .error exception

def writeCodeSuggestionArtifacts (env : RunEnv) (fs : FileSystem) : Except String FileSystem :=
  withReport env fs fun report =>
    let suggestions := codeSuggestions env.host.py report.roles
    if suggestions.isEmpty then fs
    else (fs.write (env.fileNamed suggestionsMarkdownName)
        (.text (renderCodeSuggestionsMarkdown report suggestions))).write
      (env.fileNamed suggestionsJsonName) (.json (renderCodeSuggestionsJson report suggestions))

def writeReleaseSimulationArtifact (env : RunEnv) (fs : FileSystem) :
    Except String FileSystem :=
  withReport env fs fun report =>
    if releaseEnabled report then
      fs.write (env.fileNamed releaseName) (.json (buildReleaseSimulation env.host.py report))
    else fs

def writeSummaryAndState (env : RunEnv) (st : RunState) (ending : Ending) : FileSystem :=
  (st.fs.write (env.fileNamed summaryName) (.text (summaryText env st ending))).write
    (env.fileNamed stateName) (.json (stateJson env st ending))

/-- What is on disk then, and the path of the summary. -/
def persistRunOutputs (env : RunEnv) (st : RunState) (ending : Ending) :
    FileSystem × Except RunError String :=
  let saved := writeSummaryAndState env st ending
  match writeCodeSuggestionArtifacts env saved with
  | .error exception => (saved, .error (.escaped exception))
  | .ok suggested =>
      match writeReleaseSimulationArtifact env suggested with
      | .error exception => (suggested, .error (.escaped exception))
      | .ok released => (released, .ok (join env.settings.artifactsDir summaryName))

/-- Ending a run early: what persisting raises takes the place of the failure. -/
def haltWith (env : RunEnv) (st : RunState) (ending : Ending) : Halt :=
  let persisted := persistRunOutputs env st ending
  match persisted.2 with
  | .ok summaryPath =>
      ⟨persisted.1, .pipeline (ending.failure.getD "" ++ ". Summary: " ++ summaryPath), st.written⟩
  | .error error => ⟨persisted.1, error, st.written⟩

/-! ## The gate -/

def blockerChunk (result : RoleResult) : Option String :=
  match result.structuredReport with
  | none => none
  | some report =>
      let findings := highSeverityFindings (.obj report.items)
      if findings.isEmpty then none
      else some (result.role ++ ": " ++
        String.intercalate ", " (findings.map (memberText · "title")))

def gateFailure (failOnHigh : Bool) (results : List RoleResult) : Option String :=
  let chunks := results.filterMap blockerChunk
  if failOnHigh ∧ chunks ≠ [] then
    some ("Pipeline gated by HIGH severity findings in " ++ String.intercalate "; " chunks)
  else none

def maybeGatePipeline (env : RunEnv) (st : RunState) (results : List RoleResult) :
    Except Halt RunState :=
  match gateFailure env.settings.failOnHigh results with
  | none => .ok st
  | some failure => .error (haltWith env st { status := "failed", failure := some failure })

/-! ## Turns -/

inductive Turn where
  | serial (next : Pending)
  | batch (batch : List Pending)

/-- A maximal run of specialists is one batch. -/
def turns (parallel : Bool) : List Pending → List Turn
  | [] => []
  | next :: rest =>
      if parallel && isSpecialist next.1 then
        .batch (next :: rest.takeWhile (isSpecialist ·.1)) ::
          turns parallel (rest.dropWhile (isSpecialist ·.1))
      else .serial next :: turns parallel rest
  termination_by pending => pending.length
  decreasing_by
    · exact Nat.lt_succ_of_le (List.length_dropWhile_le _ _)
    · exact Nat.lt_succ_self _

def runSerial (env : RunEnv) (st : RunState) (next : Pending) : Except Halt RunState :=
  match executeRole env "serial" st.outputs next with
  | .error message =>
      .error (haltWith env st
        { status := "failed"
          failedRoles := [next.1]
          failure := some ("Role '" ++ next.1 ++ "' failed: " ++ message) })
  | .ok result =>
      maybeGatePipeline env (applyRoleResult env { st with fs := writeResult env st.fs result } result)
        [result]

/-- What the batch failed with, in role order. -/
def batchFailure (results : List RoleResult) (failures : List (Pending × String)) : Ending :=
  let failedRoles := failures.map (·.1.1)
  let details := String.intercalate "; " (failures.map fun p => p.1.1 ++ ": " ++ p.2)
  let completed := orDefault (String.intercalate ", " (results.map (·.role))) "none"
  { status := "failed"
    failedRoles := failedRoles
    failure := some ("Parallel specialist batch failed. Completed roles: " ++ completed ++
      ". Failed roles: " ++ String.intercalate ", " failedRoles ++ ". Details: " ++ details) }

/-- Every role of the batch sees the outputs from before it. -/
def batchOutcomes (env : RunEnv) (st : RunState) (batch : List Pending) :
    List (Pending × Except String RoleResult) :=
  (env.request.completionOrder batch).map fun next =>
    (next, executeRole env "parallel" st.outputs next)

def completedResults (outcomes : List (Pending × Except String RoleResult)) : List RoleResult :=
  outcomes.filterMap fun outcome => outcome.2.toOption

def failedOutcomes (outcomes : List (Pending × Except String RoleResult)) :
    List (Pending × String) :=
  outcomes.filterMap fun outcome => match outcome.2 with
    | .ok _ => none
    | .error message => some (outcome.1, message)

def runBatch (env : RunEnv) (st : RunState) (batch : List Pending) : Except Halt RunState :=
  let outcomes := batchOutcomes env st batch
  let completed := completedResults outcomes
  let results := completed.mergeSort fun p q => p.index ≤ q.index
  let applied := results.foldl (applyRoleResult env)
    { st with fs := completed.foldl (writeResult env) st.fs }
  let failures := (failedOutcomes outcomes).mergeSort fun p q => p.1.2 ≤ q.1.2
  if failures.isEmpty then maybeGatePipeline env applied results
  else .error (haltWith env applied (batchFailure results failures))

def runTurn (env : RunEnv) (st : RunState) : Turn → Except Halt RunState
  | .serial next => runSerial env st next
  | .batch batch => runBatch env st batch

/-! ## Resuming -/

/-- What `_load_resume_state` hands to the run. -/
structure Resume where
  startIndex : Nat
  state : RunState
  parentRunId : Option String

def isMapping : Json → Bool
  | .obj _ => true
  | _ => false

/-- The path, if it stays inside the artifacts directory. -/
def ensureArtifactWithinDir (host : Host) (artifactsDir path : String) :
    Except RunError String :=
  let resolved := host.locate path
  if (host.locate artifactsDir).isPrefixOf resolved then .ok (render resolved)
  else .error (.pipeline ("Artifact path escapes artifacts_dir: " ++ render resolved))

/-- Of several records of one role the last counts. -/
def executionByRole (py : Interpreter) (state : Json) : Dict String Report :=
  (listOrEmpty (state.get? "execution")).foldl
    (fun byRole item => match item with
      | .obj fields =>
          let role := PyValue.textField py item "role"
          if role = "" then byRole else byRole.set role (fieldsOf fields)
      | _ => byRole)
    Dict.empty

def seededRecord (prior : Report) (role model artifact : String) : Json :=
  .obj ((((prior.set "role" (.str role)).set "model" (.str model)).set "artifact"
    (.str artifact)).set "strategy" (.str "seeded")).items

/-- The saved artifact a role is resumed from. -/
def resumedArtifact (host : Host) (s : RunSettings) (cleanRole : String) (artifacts : Json)
    (role : String) : Except RunError String :=
  let missing := RunError.pipeline ("Cannot rerun from role '" ++ cleanRole ++
    "' because prior role '" ++ role ++ "' has no saved artifact")
  match (artifacts.get? role).bind asString with
  | none => .error missing
  | some artifact =>
      if strip artifact = "" then .error missing
      else ensureArtifactWithinDir host s.artifactsDir (reportArtifactPath s.artifactsDir artifact)

def resumedModel (s : RunSettings) (state : Json) (role : String) : Except RunError String :=
  match s.roleModel role with
  | .error _ => .error (.escaped "ConfigValidationError")
  | .ok model =>
      .ok ((((state.get? "role_models").bind (·.get? role)).bind asString).getD model)

def seedRole (host : Host) (s : RunSettings) (cleanRole : String) (state artifacts : Json)
    (st : RunState) (role : String) : Except RunError RunState := do
  let path ← resumedArtifact host s cleanRole artifacts role
  match st.fs (host.locate path) with
  | none =>
      throw (.pipeline ("Cannot rerun from role '" ++ cleanRole ++
        "' because prior artifact is missing: " ++ path))
  | some content => do
      let model ← resumedModel s state role
      let prior := ((executionByRole host.py state).get? role).getD Dict.empty
      return { st with
        outputs := st.outputs.set role (content.read host.py)
        artifacts := st.artifacts.set role path
        models := st.models.set role model
        execution := st.execution ++ [seededRecord prior role model path] }

/-- The saved state and its artifacts map. -/
def loadSavedState (host : Host) (s : RunSettings) (cleanRole : String) (fs : FileSystem) :
    Except RunError (Json × Json) :=
  let path := join s.artifactsDir stateName
  match fs (host.locate path) with
  | none =>
      .error (.pipeline ("Cannot rerun from role '" ++ cleanRole ++
        "' without existing pipeline_state.json in " ++ s.artifactsDir))
  | some content =>
      match content.load host.py with
      | none => .error (.pipeline ("Could not parse existing pipeline state at " ++ path))
      | some state =>
          if ¬isMapping state then
            .error (.pipeline ("Existing pipeline state at " ++ path ++ " must be a JSON object"))
          else match state.get? "artifacts" with
            | some (.obj artifacts) => .ok (state, .obj artifacts)
            | _ => .error (.pipeline ("Existing pipeline state at " ++ path ++
                " is missing an artifacts map"))

def loadResumeState (host : Host) (s : RunSettings) (request : RunRequest) (fs : FileSystem) :
    Except RunError Resume :=
  match request.givenStartRole with
  | none => .ok ⟨0, { fs := fs }, none⟩
  | some startRole =>
      let cleanRole := strip startRole
      if cleanRole ∉ s.roleOrder then
        .error (.pipeline ("Unknown start role '" ++ startRole ++ "'. Choose one of: " ++
          String.intercalate ", " s.roleOrder))
      else if s.roleOrder.idxOf cleanRole = 0 then .ok ⟨0, { fs := fs }, none⟩
      else do
        let startIndex := s.roleOrder.idxOf cleanRole
        let (state, artifacts) ← loadSavedState host s cleanRole fs
        let seeded ← (s.roleOrder.take startIndex).foldlM
          (seedRole host s cleanRole state artifacts) { fs := fs }
        let parent := PyValue.textField host.py state "run_id"
        return ⟨startIndex, seeded, if parent = "" then none else some parent⟩

/-! ## The run -/

def promptInputs (host : Host) (s : RunSettings) (fs : FileSystem) : PromptInputs where
  scope := s.scope
  additionalContext := s.promptText
  operatorFeedback := feedbackPromptGuidance host.py fs host.workingDir s.artifactsDir
  enforceJson := s.enforceJson
  reviewIsolation := s.reviewIsolation

/-- The prologue, which leaves the config snapshot behind. -/
def startRun (host : Host) (s : RunSettings) (request : RunRequest) (fs : FileSystem) :
    Except Halt (RunEnv × Resume) :=
  let fs := fs.write (host.locate (join s.artifactsDir configSnapshotName)) (.text s.configText)
  match request.adapter with
  | .error message => .error ⟨fs, .pipeline message, []⟩
  | .ok adapter =>
      match loadResumeState host s request fs with
      | .error error => .error ⟨fs, error, []⟩
      | .ok resume =>
          .ok (⟨host, s, request, adapter, promptInputs host s fs, resume.parentRunId⟩, resume)

def pendingRoles (s : RunSettings) (startIndex : Nat) : List Pending :=
  (s.roleOrder.zipIdx 1).drop startIndex

def runTurns (env : RunEnv) (st : RunState) (pending : List Pending) : Except Halt RunState :=
  (turns env.settings.parallelSpecialists pending).foldlM (runTurn env) st

/-- Everything up to the final writing of summary and state. -/
def runRoles (host : Host) (s : RunSettings) (request : RunRequest) (fs : FileSystem) :
    Except Halt (RunEnv × RunState) := do
  let (env, resume) ← startRun host s request fs
  let st ← runTurns env resume.state (pendingRoles s resume.startIndex)
  return (env, st)

/-- What is on disk after the call, and what it returns or raises. -/
def runPipeline (host : Host) (s : RunSettings) (request : RunRequest) (fs : FileSystem) :
    FileSystem × Except RunError String :=
  match runRoles host s request fs with
  | .error halt => (halt.fs, .error halt.error)
  | .ok (env, st) => persistRunOutputs env st { status := "completed" }

end TruePresenceESE.Ese
