import TruePresenceESE.Ese.Collecting
import TruePresenceESE.Ese.Registries

/-! # Publishing the evidence of a run

The command hands the report of a run to an installed integration and records the wanted
evidence state once the integration says that it has published. The states that are recorded
make up a history, which is read back and written again with every one of them.
-/

namespace TruePresenceESE.Ese

open PosixPath PyText PyValue

/-! ## Results -/

def publishedStatus : String := "published"

def publishStatuses : List String := ["dry-run", publishedStatus, "skipped"]

def normalizePublishStatus (py : Interpreter) (value : Json) : Except String String := do
  let clean ← normalizeNonEmpty "integration publish status" value
  if py.lower clean.text ∈ publishStatuses then return py.lower clean.text
  else throw ("integration publish status must be one of: " ++
    String.intercalate ", " publishStatuses)

def normalizeOutputs : Json → Except String (List CleanText)
  | .null => .ok []
  | .str s => (normalizeNonEmpty "integration output" (.str s)).map ([·])
  | value =>
      match iterate value with
      | none => .error "integration outputs must be an iterable of strings"
      | some items => items.mapM (normalizeNonEmpty "integration output")

/-- `str(value).strip()` of a value that counts, `None` otherwise. -/
def strippedOrNone (py : Interpreter) (value : Json) : Option String :=
  if truthy value then some (strip (str py value)) else none

/-- The fields of a result, as the integration gives them. -/
structure RawPublishResult where
  integrationKey : Json
  status : Json
  location : Json
  message : Json
  outputs : Json

/-- What an integration returns. -/
inductive PublishValue where
  | result (raw : RawPublishResult)
  | mapping (fields : JsonDict)
  | location (s : String)
  | other

structure PublishResult where
  integrationKey : CleanText
  status : String
  location : Option String
  message : Option String
  outputs : List CleanText

def textOrNull : Option String → Json
  | none => .null
  | some text => .str text

def textItemsJson (items : List CleanText) : Json := .arr (items.map fun item => .str item.text)

def rawPublishResult (py : Interpreter) (key : CleanText) :
    PublishValue → Except String RawPublishResult
  | .result raw => .ok raw
  | .mapping fields => do
      let integrationKey ← normalizeNonEmpty "integration key"
        (JsonDict.orElse (fields.get "integration_key") (.str key.text))
      let status ← normalizePublishStatus py (fields.getOr "status" (.str publishedStatus))
      let outputs ← normalizeOutputs (fields.get "outputs")
      return { integrationKey := .str integrationKey.text
               status := .str status
               location := textOrNull (strippedOrNone py (fields.get "location"))
               message := textOrNull (strippedOrNone py (fields.get "message"))
               outputs := textItemsJson outputs }
  | .location s => do
      let clean ← normalizeNonEmpty "integration publish location" (.str s)
      return { integrationKey := .str key.text
               status := .str publishedStatus
               location := .str clean.text
               message := .null
               outputs := textItemsJson [clean] }
  | .other => .error
      "Integrations must return IntegrationPublishResult, a mapping, or a publish-location string"

def normalizePublishResult (py : Interpreter) (key : CleanText) (value : PublishValue) :
    Except String PublishResult := do
  let raw ← rawPublishResult py key value
  let integrationKey ← normalizeNonEmpty "integration key" raw.integrationKey
  let status ← normalizePublishStatus py raw.status
  let outputs ← normalizeOutputs raw.outputs
  return { integrationKey := integrationKey
           status := status
           location := (strippedOrNone py raw.location).filter (· ≠ "")
           message := (strippedOrNone py raw.message).filter (· ≠ "")
           outputs := outputs }

/-! ## Integrations -/

structure IntegrationContext where
  artifactsDir : Location
  report : RunReport
  pipelineState : Json

structure IntegrationRequest where
  target : Option String
  options : JsonDict
  dryRun : Bool

/-- The callable of an integration may change files. -/
abbrev Publisher := IntegrationContext → IntegrationRequest → FileSystem →
  Outcome PublishValue × FileSystem

/-! ## Evidence states -/

def unknownStateMessage : String :=
  "evidence state must be one of: " ++ String.intercalate ", " evidenceStates

def normalizeEvidenceState (py : Interpreter) (value : String) : Except String String :=
  if py.lower (strip value) ∈ evidenceStates then .ok (py.lower (strip value))
  else .error unknownStateMessage

/-- The texts of `fields` that are not blank, trimmed. -/
def trimmedTexts (entry : Json) (fields : List String) : List (String × Json) :=
  fields.filterMap fun key => match entry.get? key with
    | some (.str s) => if strip s = "" then none else some (key, .str (strip s))
    | _ => none

def normalizeHistoryEntry (py : Interpreter) (entry : Json) : Except String (Option Json) :=
  match coerceEvidenceState py entry "state" with
  | .error _ => .error unknownStateMessage
  | .ok none => .ok none
  | .ok (some state) => .ok (some (.obj (("state", .str state) :: trimmedTexts entry
      ["previous_state", "actor", "note", "reason", "source", "updated_at"])))

def normalizeEvidenceHistory (py : Interpreter) : Option Json → Except String (List Json)
  | some (.arr entries) =>
      ((entries.filter isObject).mapM (normalizeHistoryEntry py)).map List.reduceOption
  | _ => .ok []

/-- What is recorded about a new state. -/
structure StateMark where
  previousState : Option String
  actor : Option String
  note : Option String
  reason : Option String
  source : String
  updatedAt : String

def optionalEntry (key : String) (value : Option String) : List (String × Json) :=
  match value with
  | some text => if strip text = "" then [] else [(key, .str (strip text))]
  | none => []

def historyEntry (cleanState : String) (mark : StateMark) : Json :=
  .obj ([("state", .str cleanState), ("source", .str (orDefault (strip mark.source) "manual")),
      ("updated_at", .str mark.updatedAt)] ++
    (mark.previousState.toList.filterMap fun text =>
      if text = "" then none else some ("previous_state", .str text)) ++
    optionalEntry "actor" mark.actor ++ optionalEntry "note" mark.note ++
    optionalEntry "reason" mark.reason)

/-- The state as it is written back. -/
def markedState (py : Interpreter) (fields : List (String × Json)) (cleanState : String)
    (mark : StateMark) : Except String Json := do
  let history ← normalizeEvidenceHistory py ((Json.obj fields).get? "evidence_state_history")
  let payload := (JsonDict.ofFields fields).set "evidence_state" (.str cleanState)
  return JsonDict.toJson (payload.set "evidence_state_history"
    (.arr (history ++ [historyEntry cleanState mark])))

inductive RefusalCause where
  | options
  | integrationKey
  | markState
  /-- The report or the stored state. -/
  | run
  | discovery
  /-- The integration raised, or returned no result. -/
  | integration
  deriving DecidableEq

inductive PublishFailure where
  /-- A message and exit code 2. -/
  | refused (cause : RefusalCause) (message : String)
  | escaped (exception : String)

/-- The reading and writing of `update_pipeline_evidence_state`. -/
def writeMarkedState (reader : Reader) (artifactsDir : String) (cleanState : String)
    (mark : StateMark) : Except String FileSystem :=
  let path := join artifactsDir stateName
  match reader.open path with
  | none => .error ("Run artifacts not found: " ++ pathText path)
  | some content =>
      match content.load reader.py with
      | none => .error ("Run state is not valid JSON: " ++ pathText path)
      | some (.obj fields) =>
          (markedState reader.py fields cleanState mark).map fun payload =>
            reader.fs.write (resolve reader.workingDir path) (.json payload)
      | some _ => .error ("Run state must be a JSON object: " ++ pathText path)

def updatePipelineEvidenceState (reader : Reader) (artifactsDir : String) (state : String)
    (mark : StateMark) : Except PublishFailure FileSystem := do
  let cleanState ← (normalizeEvidenceState reader.py state).mapError (.refused .markState)
  (writeMarkedState reader artifactsDir cleanState mark).mapError (.refused .run)

/-! ## The command -/

structure PublishHost extends ExtensionHost where
  workingDir : Location
  /-- The text of a `JSONDecodeError`. -/
  decodeError : String → String
  now : String

def PublishHost.reader (host : PublishHost) (fs : FileSystem) : Reader :=
  ⟨host.py, fs, host.workingDir⟩

structure PublishCommand where
  integration : String
  artifactsDir : String
  target : Option String
  options : Option String
  markState : Option String
  actor : Option String
  note : Option String
  dryRun : Bool

section
variable (host : PublishHost) (entries : List (EntryPoint Publisher)) (previous : Option String)
  (command : PublishCommand)

def parseOptions : Except PublishFailure JsonDict :=
  match command.options.filter (· ≠ "") with
  | none => .ok Dict.empty
  | some text =>
      match host.py.loads text with
      | none => .error (.refused .options ("options must be valid JSON: " ++ host.decodeError text))
      | some (.obj fields) => .ok (JsonDict.ofFields fields)
      | some _ => .error (.refused .options "options must decode to a JSON object.")

def reportFailure : ReportError → PublishFailure
  | .runReport message => .refused .run message
  | .escaped exception =>
      if exception = "ValueError" then .refused .run unknownStateMessage else .escaped exception

def lookupFailure : LookupError → PublishFailure
  | .invalidKey message => .refused .integrationKey message
  | .discovery (.invalidEntryPoint message) => .refused .discovery message
  | .discovery (.exits exception) => .escaped exception

/-- `--mark-state`, unless it is empty. -/
def PublishCommand.mark? : Option String := command.markState.filter (· ≠ "")

/-- The state of the run before it is marked. -/
def markedPreviousState (fs : FileSystem) : Except PublishFailure (Option String) :=
  match command.mark? with
  | none => .ok none
  | some _ => do
      let report ← (collectRunReport (host.reader fs) previous command.artifactsDir).mapError
        reportFailure
      return some (strip report.evidenceState) |>.filter (· ≠ "")

def buildIntegrationContext (fs : FileSystem) : Except PublishFailure IntegrationContext := do
  let report ← (collectRunReport (host.reader fs) previous command.artifactsDir).mapError
    reportFailure
  let pipelineState ← (loadPipelineState (host.reader fs) command.artifactsDir).mapError
    reportFailure
  return ⟨resolve host.workingDir command.artifactsDir, report, pipelineState⟩

def integrationRequest (options : JsonDict) : IntegrationRequest where
  target := (command.target.map strip).filter (· ≠ "")
  options := options
  dryRun := command.dryRun

/-- What is known when the integration is called. -/
structure PreparedPublish where
  previousState : Option String
  integration : Definition Publisher
  context : IntegrationContext
  request : IntegrationRequest

/-- Everything before the call, which only reads. -/
def preparePublish (fs : FileSystem) : Except PublishFailure PreparedPublish := do
  let options ← parseOptions host command
  let previousState ← markedPreviousState host previous command fs
  let integration ← (resolveIntegration host.toExtensionHost entries command.integration).mapError
    lookupFailure
  let context ← buildIntegrationContext host previous command fs
  return ⟨previousState, integration, context, integrationRequest command options⟩

def publishedResult (integration : Definition Publisher) :
    Outcome PublishValue → Except PublishFailure PublishResult
  | .exits exception => .error (.escaped exception)
  | .raises message => .error (.refused .integration
      ("Integration '" ++ integration.key.text ++ "' failed: " ++ message))
  | .returns value =>
      (normalizePublishResult host.py integration.key value).mapError fun message =>
        .refused .integration ("Integration '" ++ integration.key.text ++
          "' returned an invalid publish result: " ++ message)

def publishMark (previousState : Option String) : StateMark where
  previousState := previousState
  actor := command.actor
  note := command.note
  reason := some "Evidence state updated after a successful publish."
  source := "publish"
  updatedAt := host.now

/-- Recording the wanted state, on the disk that the integration left. -/
def recordMark (prepared : PreparedPublish) (result : PublishResult) (fs : FileSystem) :
    Except PublishFailure FileSystem :=
  match command.mark? with
  | none => .ok fs
  | some state =>
      if command.dryRun = false ∧ result.status = publishedStatus then
        updatePipelineEvidenceState (host.reader fs) command.artifactsDir state
          (publishMark host command prepared.previousState)
      else .ok fs

structure PublishRun where
  exit : Except PublishFailure PublishResult
  /-- Whether the integration was called. -/
  invoked : Bool
  fs : FileSystem

def publish (fs : FileSystem) : PublishRun :=
  match preparePublish host entries previous command fs with
  | .error failure => ⟨.error failure, false, fs⟩
  | .ok prepared =>
      let called := prepared.integration.callable prepared.context prepared.request fs
      match publishedResult host prepared.integration called.1 with
      | .error failure => ⟨.error failure, true, called.2⟩
      | .ok result =>
          match recordMark host command prepared result called.2 with
          | .error failure => ⟨.error failure, true, called.2⟩
          | .ok saved => ⟨.ok result, true, saved⟩

end

/-! ## Failing before the call -/

/-- The exits over the options, the integration key and the wanted state. -/
def PublishFailure.InvalidInput : PublishFailure → Prop
  | .refused cause _ => cause ∈ [RefusalCause.options, .integrationKey, .markState]
  | .escaped _ => False

/-- An exit over an input comes before the call, and leaves the state file as it was. -/
def FailsBeforeActing (stateFile : Location) (fs : FileSystem) (run : PublishRun) : Prop :=
  ∀ failure, run.exit = .error failure → failure.InvalidInput →
    run.invoked = false ∧ run.fs stateFile = fs stateFile

/-- The inputs before the wanted state are accepted, and the integration says that it has
published. -/
def ReportsPublished (host : PublishHost) (entries : List (EntryPoint Publisher))
    (previous : Option String) (command : PublishCommand) (fs : FileSystem) : Prop :=
  ∃ options report state integration value result,
    parseOptions host command = .ok options ∧
    collectRunReport (host.reader fs) previous command.artifactsDir = .ok report ∧
    loadPipelineState (host.reader fs) command.artifactsDir = .ok state ∧
    resolveIntegration host.toExtensionHost entries command.integration = .ok integration ∧
    (integration.callable ⟨resolve host.workingDir command.artifactsDir, report, state⟩
      (integrationRequest command options) fs).1 = .returns value ∧
    normalizePublishResult host.py integration.key value = .ok result ∧
    result.status = publishedStatus

section
variable {host : PublishHost} {entries : List (EntryPoint Publisher)} {previous : Option String}
  {command : PublishCommand} {fs : FileSystem} {prepared : PreparedPublish}

theorem buildIntegrationContext_eq_ok_iff {context : IntegrationContext} :
    buildIntegrationContext host previous command fs = .ok context ↔
      ∃ report state,
        collectRunReport (host.reader fs) previous command.artifactsDir = .ok report ∧
        loadPipelineState (host.reader fs) command.artifactsDir = .ok state ∧
        context = ⟨resolve host.workingDir command.artifactsDir, report, state⟩ := by
  simp only [buildIntegrationContext, Fallible.bind_eq_ok_iff, Fallible.mapError_eq_ok_iff]
  constructor
  · rintro ⟨report, hreport, state, hstate, heq⟩
    cases heq
    exact ⟨report, state, hreport, hstate, rfl⟩
  · rintro ⟨report, state, hreport, hstate, rfl⟩
    exact ⟨report, hreport, state, hstate, rfl⟩

/-- The report is there when the previous state is asked for. -/
theorem exists_markedPreviousState {report : RunReport}
    (h : collectRunReport (host.reader fs) previous command.artifactsDir = .ok report) :
    ∃ previousState, markedPreviousState host previous command fs = .ok previousState := by
  unfold markedPreviousState
  cases command.mark? with
  | none => exact ⟨none, rfl⟩
  | some mark =>
      rw [h]
      exact ⟨_, rfl⟩

theorem preparePublish_eq_ok (h : preparePublish host entries previous command fs = .ok prepared) :
    ∃ options report state,
      parseOptions host command = .ok options ∧
      collectRunReport (host.reader fs) previous command.artifactsDir = .ok report ∧
      loadPipelineState (host.reader fs) command.artifactsDir = .ok state ∧
      resolveIntegration host.toExtensionHost entries command.integration =
        .ok prepared.integration ∧
      prepared.context = ⟨resolve host.workingDir command.artifactsDir, report, state⟩ ∧
      prepared.request = integrationRequest command options := by
  simp only [preparePublish, Fallible.bind_eq_ok_iff, Fallible.mapError_eq_ok_iff,
    buildIntegrationContext_eq_ok_iff] at h
  obtain ⟨options, hoptions, _, -, integration, hintegration, _, ⟨report, state, hreport, hstate,
    rfl⟩, heq⟩ := h
  cases heq
  exact ⟨options, report, state, hoptions, hreport, hstate, hintegration, rfl, rfl⟩

theorem exists_preparePublish {options : JsonDict} {report : RunReport} {state : Json}
    {integration : Definition Publisher} (hoptions : parseOptions host command = .ok options)
    (hreport : collectRunReport (host.reader fs) previous command.artifactsDir = .ok report)
    (hstate : loadPipelineState (host.reader fs) command.artifactsDir = .ok state)
    (hintegration : resolveIntegration host.toExtensionHost entries command.integration =
      .ok integration) :
    ∃ prepared, preparePublish host entries previous command fs = .ok prepared := by
  obtain ⟨previousState, hprevious⟩ := exists_markedPreviousState hreport
  have hcontext := buildIntegrationContext_eq_ok_iff.mpr ⟨report, state, hreport, hstate, rfl⟩
  unfold preparePublish
  rw [hoptions, hprevious, hintegration, hcontext]
  exact ⟨_, rfl⟩

theorem publishedResult_eq_ok_iff {integration : Definition Publisher}
    {outcome : Outcome PublishValue} {result : PublishResult} :
    publishedResult host integration outcome = .ok result ↔
      ∃ value, outcome = .returns value ∧
        normalizePublishResult host.py integration.key value = .ok result := by
  cases outcome with
  | returns value => simp [publishedResult, Fallible.mapError_eq_ok_iff]
  | raises message => simp [publishedResult]
  | exits exception => simp [publishedResult]

theorem publishedResult_not_invalidInput {integration : Definition Publisher}
    {outcome : Outcome PublishValue} {failure : PublishFailure}
    (h : publishedResult host integration outcome = .error failure) :
    ¬ failure.InvalidInput := by
  cases outcome with
  | returns value =>
      obtain ⟨message, -, rfl⟩ := Fallible.mapError_eq_error_iff.mp h
      simp [PublishFailure.InvalidInput]
  | raises message =>
      cases h
      simp [PublishFailure.InvalidInput]
  | exits exception =>
      cases h
      exact id

/-- Once everything is prepared, the integration's answer decides. -/
theorem reportsPublished_iff
    (h : preparePublish host entries previous command fs = .ok prepared) :
    ReportsPublished host entries previous command fs ↔
      ∃ result, publishedResult host prepared.integration
          (prepared.integration.callable prepared.context prepared.request fs).1 = .ok result ∧
        result.status = publishedStatus := by
  obtain ⟨options, report, state, hoptions, hreport, hstate, hintegration, hcontext, hrequest⟩ :=
    preparePublish_eq_ok h
  simp only [publishedResult_eq_ok_iff, hcontext, hrequest]
  constructor
  · rintro ⟨_, _, _, _, value, result, ho, hr, hs, hi, hvalue, hresult, hstatus⟩
    rw [hoptions] at ho
    rw [hreport] at hr
    rw [hstate] at hs
    rw [hintegration] at hi
    cases ho
    cases hr
    cases hs
    cases hi
    exact ⟨result, ⟨value, hvalue, hresult⟩, hstatus⟩
  · rintro ⟨result, ⟨value, hvalue, hresult⟩, hstatus⟩
    exact ⟨options, report, state, prepared.integration, value, result, hoptions, hreport, hstate,
      hintegration, hvalue, hresult, hstatus⟩

/-! ## Recording the state -/

def UnknownState (py : Interpreter) (mark : String) : Prop :=
  py.lower (strip mark) ∉ evidenceStates

theorem updatePipelineEvidenceState_invalidInput_iff {reader : Reader} {artifactsDir state : String}
    {mark : StateMark} :
    (∃ failure, updatePipelineEvidenceState reader artifactsDir state mark = .error failure ∧
        failure.InvalidInput) ↔ UnknownState reader.py state := by
  unfold updatePipelineEvidenceState normalizeEvidenceState UnknownState
  by_cases hknown : reader.py.lower (strip state) ∈ evidenceStates
  · rw [if_pos hknown]
    constructor
    · rintro ⟨failure, hfailure, hinvalid⟩
      obtain ⟨message, -, rfl⟩ := Fallible.mapError_eq_error_iff.mp hfailure
      simp [PublishFailure.InvalidInput] at hinvalid
    · exact fun h => absurd hknown h
  · rw [if_neg hknown]
    constructor
    · exact fun _ => hknown
    · exact fun _ => ⟨_, rfl, by simp [PublishFailure.InvalidInput]⟩

theorem recordMark_invalidInput_iff {result : PublishResult} {left : FileSystem} :
    (∃ failure, recordMark host command prepared result left = .error failure ∧
        failure.InvalidInput) ↔
      ∃ mark, command.mark? = some mark ∧ UnknownState host.py mark ∧ command.dryRun = false ∧
        result.status = publishedStatus := by
  unfold recordMark
  cases hmark : command.mark? with
  | none => simp
  | some mark =>
      dsimp only
      by_cases hacts : command.dryRun = false ∧ result.status = publishedStatus
      · rw [if_pos hacts, updatePipelineEvidenceState_invalidInput_iff]
        simp [hacts, PublishHost.reader]
      · rw [if_neg hacts]
        constructor
        · rintro ⟨failure, hfailure, -⟩
          cases hfailure
        · rintro ⟨_, _, _, hdry, hstatus⟩
          exact absurd ⟨hdry, hstatus⟩ hacts

end

theorem failsBeforeActing_invoked_iff {stateFile : Location} {fs left : FileSystem}
    {failure : PublishFailure} :
    FailsBeforeActing stateFile fs ⟨.error failure, true, left⟩ ↔ ¬ failure.InvalidInput := by
  constructor
  · intro h hinvalid
    exact Bool.noConfusion (h failure rfl hinvalid).1
  · intro h _ heq hinvalid
    cases heq
    exact absurd hinvalid h

/-- An invalid input stops the command before the integration is called, but for a wanted
state that is unknown: it is looked at after a publish that counts. -/
theorem publish_failsBeforeActing_iff (host : PublishHost) (entries : List (EntryPoint Publisher))
    (previous : Option String) (command : PublishCommand) (fs : FileSystem) :
    FailsBeforeActing (resolve host.workingDir (join command.artifactsDir stateName)) fs
        (publish host entries previous command fs) ↔
      ¬ ∃ mark, command.mark? = some mark ∧ UnknownState host.py mark ∧ command.dryRun = false ∧
        ReportsPublished host entries previous command fs := by
  unfold publish
  cases hprepare : preparePublish host entries previous command fs with
  | error failure =>
      constructor
      · rintro - ⟨mark, -, -, -, options, report, state, integration, -, -, hoptions, hreport,
          hstate, hintegration, -⟩
        obtain ⟨prepared, hprepared⟩ := exists_preparePublish hoptions hreport hstate hintegration
        rw [hprepared] at hprepare
        cases hprepare
      · intro _ _ _ _
        exact ⟨rfl, rfl⟩
  | ok prepared =>
      rw [show (∃ mark, command.mark? = some mark ∧ UnknownState host.py mark ∧
          command.dryRun = false ∧ ReportsPublished host entries previous command fs) ↔ _ from
        exists_congr fun mark => by rw [reportsPublished_iff hprepare]]
      dsimp only
      cases hresult : publishedResult host prepared.integration
          (prepared.integration.callable prepared.context prepared.request fs).1 with
      | error failure =>
          constructor
          · rintro - ⟨_, -, -, -, result, heq, -⟩
            cases heq
          · intro _ _ heq hinvalid
            cases heq
            exact absurd hinvalid (publishedResult_not_invalidInput hresult)
      | ok result =>
          simp only [Except.ok.injEq, exists_eq_left']
          rw [← @recordMark_invalidInput_iff host command prepared result
            (prepared.integration.callable prepared.context prepared.request fs).2]
          cases recordMark host command prepared result
              (prepared.integration.callable prepared.context prepared.request fs).2 with
          | ok saved =>
              constructor
              · rintro - ⟨_, heq, -⟩
                cases heq
              · intro _ _ heq
                cases heq
          | error failure => simp [failsBeforeActing_invoked_iff]

/-- A channel that takes what it is given. -/
def teamChat : Publisher := fun _ _ fs => (.returns (.location "team-chat"), fs)

def asciiPublishHost : PublishHost :=
  { asciiExtensions with workingDir := [], decodeError := id, now := "" }

def approvalTypo : PublishCommand where
  integration := "slack"
  artifactsDir := "/run"
  target := none
  options := none
  markState := some "aproved"
  actor := none
  note := none
  dryRun := false

/-- A run directory that has nothing but its state. -/
def emptyRunDisk : FileSystem := fun location =>
  if location = ["run".toList, stateName.toList] then some (.json (.obj [])) else none

def refusalCause {α : Type} : Except PublishFailure α → Option RefusalCause
  | .error (.refused cause _) => some cause
  | _ => none

theorem exists_of_refusalCause {α : Type} {exit : Except PublishFailure α} {cause : RefusalCause}
    (h : refusalCause exit = some cause) : ∃ message, exit = .error (.refused cause message) := by
  cases exit with
  | ok a => cases h
  | error failure =>
      cases failure with
      | refused _ message =>
          cases h
          exact ⟨message, rfl⟩
      | escaped exception => cases h

/-- A misspelt state is refused after the channel has been written to. -/
theorem misspelt_state_published :
    ¬ ∀ (host : PublishHost) (entries : List (EntryPoint Publisher)) (previous : Option String)
        (command : PublishCommand) (fs : FileSystem),
      FailsBeforeActing (resolve host.workingDir (join command.artifactsDir stateName)) fs
        (publish host entries previous command fs) := by
  intro hfails
  have hrun : refusalCause (publish asciiPublishHost [namedIntegration "slack" teamChat] none
        approvalTypo emptyRunDisk).exit = some .markState ∧
      (publish asciiPublishHost [namedIntegration "slack" teamChat] none
        approvalTypo emptyRunDisk).invoked = true := by
    decide +kernel
  obtain ⟨message, hexit⟩ := exists_of_refusalCause hrun.1
  have hbefore := hfails _ _ _ _ _ _ hexit (by simp [PublishFailure.InvalidInput])
  rw [hrun.2] at hbefore
  exact Bool.noConfusion hbefore.1

/-! ## The trail of states -/

/-- The calls one after the other. A call that raises leaves the files as they are. -/
def markStates (py : Interpreter) (workingDir : Location) (artifactsDir : String) (fs : FileSystem)
    (calls : List (String × StateMark)) : FileSystem :=
  calls.foldl (fun left call =>
    (updatePipelineEvidenceState ⟨py, left, workingDir⟩ artifactsDir call.1 call.2).toOption.getD
      left) fs

/-- The calls for a state there is, with the state as it is recorded. -/
def knownMarks (py : Interpreter) (calls : List (String × StateMark)) : List (String × StateMark) :=
  calls.filterMap fun call =>
    (normalizeEvidenceState py call.1).toOption.map fun state => (state, call.2)

/-- What a history that is read back says of a mark. -/
def recordedEntry (mark : String × StateMark) : Json :=
  .obj (("state", .str mark.1) :: (optionalEntry "previous_state" mark.2.previousState ++
    optionalEntry "actor" mark.2.actor ++ optionalEntry "note" mark.2.note ++
    optionalEntry "reason" mark.2.reason ++
    optionalEntry "source" (some (orDefault (strip mark.2.source) "manual")) ++
    optionalEntry "updated_at" (some mark.2.updatedAt)))

def storedFields (py : Interpreter) (stateFile : Location) (fs : FileSystem) :
    Option (List (String × Json)) :=
  match (fs stateFile).bind (·.load py) with
  | some (.obj fields) => some fields
  | _ => none

def storedHistory (py : Interpreter) (fields : List (String × Json)) : Except String (List Json) :=
  normalizeEvidenceHistory py ((Json.obj fields).get? "evidence_state_history")

/-- The stored state from before some marks to after them. -/
structure Trail (py : Interpreter) (fields fields' : List (String × Json)) (history : List Json)
    (marks : List (String × StateMark)) : Prop where
  nodup : (fields'.map Prod.fst).Nodup
  history : storedHistory py fields' = .ok (history ++ marks.map recordedEntry)
  state : (Json.obj fields').get? "evidence_state" =
    (marks.getLast?.map fun mark => Json.str mark.1).or ((Json.obj fields).get? "evidence_state")
  others : ∀ key, key ≠ "evidence_state" → key ≠ "evidence_state_history" →
    (Json.obj fields').get? key = (Json.obj fields).get? key

/-! ### Entries -/

section
variable {py : Interpreter}

theorem get?_obj_append (front back : List (String × Json)) (key : String) :
    (Json.obj (front ++ back)).get? key =
      ((Json.obj front).get? key).or ((Json.obj back).get? key) := by
  simp only [Json.get?, List.find?_append]
  cases front.find? fun p => p.1 = key <;> rfl

/-- The text of a field that is not blank. -/
def trimmedText (entry : Json) (key : String) : Option String :=
  (((entry.get? key).bind asString).map strip).filter (· ≠ "")

theorem trimmedTexts_eq (entry : Json) (keys : List String) :
    trimmedTexts entry keys = keys.filterMap fun key =>
      (trimmedText entry key).map fun text => (key, .str text) := by
  refine List.filterMap_congr fun key _ => ?_
  unfold trimmedText
  cases hget : entry.get? key with
  | none => rfl
  | some value =>
      cases value with
      | str s =>
          by_cases hblank : strip s = ""
          · simp [asString, hblank]
          · simp [asString, hblank]
      | _ => rfl

theorem strip_trimmedText {entry : Json} {key text : String}
    (h : trimmedText entry key = some text) : strip text = text ∧ text ≠ "" := by
  obtain ⟨hmap, hne⟩ := Option.filter_eq_some_iff.mp h
  obtain ⟨s, -, rfl⟩ := Option.map_eq_some_iff.mp hmap
  exact ⟨strip_strip s, by simpa using hne⟩

theorem get?_texts (texts : String → Option String) (keys : List String) (key : String) :
    (Json.obj (keys.filterMap fun key' =>
        (texts key').map fun text => (key', Json.str text))).get? key =
      if key ∈ keys then (texts key).map Json.str else none := by
  induction keys with
  | nil => rfl
  | cons first rest ih =>
      cases htext : texts first with
      | none =>
          rw [List.filterMap_cons_none (by rw [htext]; rfl), ih]
          by_cases hkey : key = first
          · rw [hkey, htext]
            simp
          · simp [hkey]
      | some text =>
          rw [List.filterMap_cons_some (by rw [htext]; rfl), ← List.singleton_append,
            get?_obj_append, ih]
          by_cases hkey : key = first
          · rw [hkey, htext]
            simp [Json.get?]
          · simp [Json.get?, hkey, Ne.symm hkey]

def historyKeys : List String :=
  ["previous_state", "actor", "note", "reason", "source", "updated_at"]

theorem coerceEvidenceState_known (hlower : ∀ state ∈ evidenceStates, py.lower state = state)
    {entry : Json} {key state : String} (hget : entry.get? key = some (.str state))
    (hstate : state ∈ evidenceStates) : coerceEvidenceState py entry key = .ok (some state) := by
  have hstrip : ∀ state ∈ evidenceStates, strip state = state ∧ state ≠ "" := by decide
  rw [coerceEvidenceState, textField_str hget, (hstrip state hstate).1, hlower state hstate]
  rw [if_neg (hstrip state hstate).2, if_pos hstate]

/-- An entry with a state there is, and of its other fields only the trimmed texts. -/
def trimmedEntry (state : String) (texts : String → Option String) : Json :=
  .obj (("state", .str state) :: historyKeys.filterMap fun key =>
    (texts key).map fun text => (key, .str text))

theorem normalizeHistoryEntry_known (hlower : ∀ state ∈ evidenceStates, py.lower state = state)
    {entry : Json} {state : String} (hget : entry.get? "state" = some (.str state))
    (hstate : state ∈ evidenceStates) :
    normalizeHistoryEntry py entry = .ok (some (trimmedEntry state (trimmedText entry))) := by
  rw [normalizeHistoryEntry, coerceEvidenceState_known hlower hget hstate]
  dsimp only
  rw [trimmedTexts_eq]
  rfl

theorem normalizeHistoryEntry_cases {entry entry' : Json}
    (h : normalizeHistoryEntry py entry = .ok (some entry')) :
    ∃ state ∈ evidenceStates, entry' = trimmedEntry state (trimmedText entry) := by
  unfold normalizeHistoryEntry at h
  split at h
  · cases h
  · cases h
  · next state hstate =>
      cases h
      refine ⟨state, ?_, by rw [trimmedTexts_eq]; rfl⟩
      unfold coerceEvidenceState at hstate
      dsimp only at hstate
      split at hstate
      · cases hstate
      · split at hstate
        · next hmem =>
            cases hstate
            exact hmem
        · cases hstate

theorem trimmedText_trimmedEntry {state : String} {texts : String → Option String}
    (htexts : ∀ key, ∀ text ∈ texts key, strip text = text ∧ text ≠ "") {key : String}
    (hkey : key ∈ historyKeys) : trimmedText (trimmedEntry state texts) key = texts key := by
  have hne : key ≠ "state" := by
    rintro rfl
    exact absurd hkey (by decide)
  unfold trimmedText trimmedEntry
  rw [← List.singleton_append, get?_obj_append, get?_texts, if_pos hkey]
  cases htext : texts key with
  | none => simp [Json.get?, Ne.symm hne]
  | some text =>
      obtain ⟨hstrip, hnonempty⟩ := htexts key text htext
      simp [Json.get?, Ne.symm hne, asString, hstrip, hnonempty]

theorem trimmedEntry_congr {state : String} {texts texts' : String → Option String}
    (h : ∀ key ∈ historyKeys, texts key = texts' key) :
    trimmedEntry state texts = trimmedEntry state texts' := by
  unfold trimmedEntry
  rw [List.filterMap_congr fun key hkey => by rw [h key hkey]]

/-- An entry that has been read back is read as it is. -/
theorem normalizeHistoryEntry_again (hlower : ∀ state ∈ evidenceStates, py.lower state = state)
    {entry entry' : Json} (h : normalizeHistoryEntry py entry = .ok (some entry')) :
    normalizeHistoryEntry py entry' = .ok (some entry') := by
  obtain ⟨state, hstate, rfl⟩ := normalizeHistoryEntry_cases h
  rw [normalizeHistoryEntry_known hlower rfl hstate]
  refine congrArg (Except.ok ∘ some) (trimmedEntry_congr fun key hkey => ?_)
  exact trimmedText_trimmedEntry (fun _ _ htext => strip_trimmedText htext) hkey

def presentText (value : Option String) : Option String := (value.map strip).filter (· ≠ "")

theorem optionalEntry_eq (key : String) (value : Option String) :
    optionalEntry key value =
      ((presentText value).map fun text => (key, Json.str text)).toList := by
  unfold optionalEntry presentText
  cases value with
  | none => rfl
  | some text =>
      rw [Option.map_some, Option.filter_some]
      by_cases hblank : strip text = ""
      · simp [hblank]
      · simp [hblank]

theorem get?_optional (key key' : String) (value : Option String) :
    (Json.obj (value.map fun text => (key, Json.str text)).toList).get? key' =
      if key = key' then value.map Json.str else none := by
  cases value with
  | none => simp [Json.get?]
  | some text =>
      by_cases hkey : key = key'
      · simp [Json.get?, hkey]
      · simp [Json.get?, hkey]

theorem presentText_presentText (value : Option String) :
    ((presentText value).map strip).filter (· ≠ "") = presentText value := by
  unfold presentText
  cases value with
  | none => rfl
  | some text =>
      rw [Option.map_some, Option.filter_some]
      by_cases hblank : strip text = ""
      · simp [hblank]
      · simp [hblank, strip_strip, Option.filter_some]

theorem presentText_filter (value : Option String) :
    ((value.filter (· ≠ "")).map strip).filter (· ≠ "") = presentText value := by
  unfold presentText
  cases value with
  | none => rfl
  | some text =>
      rw [Option.map_some, Option.filter_some]
      by_cases hempty : text = ""
      · subst hempty
        rfl
      · simp [hempty]

/-- The texts of a mark under the keys of a history. -/
def markText (mark : StateMark) (key : String) : Option String :=
  presentText <|
    if key = "previous_state" then mark.previousState
    else if key = "actor" then mark.actor
    else if key = "note" then mark.note
    else if key = "reason" then mark.reason
    else if key = "source" then some (orDefault (strip mark.source) "manual")
    else some mark.updatedAt

theorem recordedEntry_eq (mark : String × StateMark) :
    recordedEntry mark = trimmedEntry mark.1 (markText mark.2) := by
  have hcons : ∀ (key : String) (keys : List String) (texts : String → Option String),
      ((key :: keys).filterMap fun key => (texts key).map fun text => (key, Json.str text)) =
        ((texts key).map fun text => (key, Json.str text)).toList ++
          keys.filterMap fun key => (texts key).map fun text => (key, Json.str text) := by
    intro key keys texts
    cases htext : texts key with
    | none => rw [List.filterMap_cons_none (by rw [htext]; rfl)]; rfl
    | some text => rw [List.filterMap_cons_some (by rw [htext]; rfl)]; rfl
  unfold recordedEntry trimmedEntry historyKeys
  simp only [optionalEntry_eq, hcons, List.filterMap_nil, List.append_nil, List.append_assoc]
  rfl

theorem previousEntry_eq (key : String) (value : Option String) :
    (value.toList.filterMap fun text => if text = "" then none else some (key, Json.str text)) =
      ((value.filter (· ≠ "")).map fun text => (key, Json.str text)).toList := by
  cases value with
  | none => rfl
  | some text =>
      rw [Option.filter_some]
      by_cases hempty : text = ""
      · simp [hempty]
      · simp [hempty]

theorem get?_historyEntry (mark : String × StateMark) (key : String) :
    (historyEntry mark.1 mark.2).get? key =
      (((((Json.obj [("state", .str mark.1),
          ("source", .str (orDefault (strip mark.2.source) "manual")),
          ("updated_at", .str mark.2.updatedAt)]).get? key).or
        (if "previous_state" = key then (mark.2.previousState.filter (· ≠ "")).map Json.str
          else none)).or
        (if "actor" = key then (presentText mark.2.actor).map Json.str else none)).or
        (if "note" = key then (presentText mark.2.note).map Json.str else none)).or
        (if "reason" = key then (presentText mark.2.reason).map Json.str else none) := by
  rw [historyEntry, get?_obj_append, get?_obj_append, get?_obj_append, get?_obj_append,
    previousEntry_eq, optionalEntry_eq, optionalEntry_eq, optionalEntry_eq, get?_optional,
    get?_optional, get?_optional, get?_optional]

theorem trimmedText_historyEntry (mark : String × StateMark) {key : String}
    (hkey : key ∈ historyKeys) :
    trimmedText (historyEntry mark.1 mark.2) key = markText mark.2 key := by
  have hbind : ∀ value : Option String, (value.map Json.str).bind asString = value := by
    intro value
    cases value <;> rfl
  unfold trimmedText
  rw [get?_historyEntry]
  simp only [historyKeys, List.mem_cons, List.not_mem_nil, or_false] at hkey
  rcases hkey with rfl | rfl | rfl | rfl | rfl | rfl
  · simpa [Json.get?, hbind, markText] using presentText_filter mark.2.previousState
  · simpa [Json.get?, hbind, markText] using presentText_presentText mark.2.actor
  · simpa [Json.get?, hbind, markText] using presentText_presentText mark.2.note
  · simpa [Json.get?, hbind, markText] using presentText_presentText mark.2.reason
  · simp [Json.get?, asString, markText, presentText]
  · simp [Json.get?, asString, markText, presentText]

/-- What a mark is read back as. -/
theorem normalizeHistoryEntry_historyEntry
    (hlower : ∀ state ∈ evidenceStates, py.lower state = state) {mark : String × StateMark}
    (hstate : mark.1 ∈ evidenceStates) :
    normalizeHistoryEntry py (historyEntry mark.1 mark.2) = .ok (some (recordedEntry mark)) := by
  rw [normalizeHistoryEntry_known hlower rfl hstate, recordedEntry_eq]
  exact congrArg (Except.ok ∘ some)
    (trimmedEntry_congr fun _ hkey => trimmedText_historyEntry mark hkey)

/-! ### Histories -/

/-- What a history is read as is read the same way again. -/
theorem again_of_history (hlower : ∀ state ∈ evidenceStates, py.lower state = state)
    {stored : Option Json} {history : List Json}
    (h : normalizeEvidenceHistory py stored = .ok history) :
    ∀ entry ∈ history, isObject entry = true ∧
      normalizeHistoryEntry py entry = .ok (some entry) := by
  unfold normalizeEvidenceHistory at h
  split at h
  · next entries =>
      obtain ⟨outs, houts, rfl⟩ := Fallible.map_eq_ok_iff.mp h
      intro entry hentry
      rw [List.reduceOption_mem_iff] at hentry
      obtain ⟨raw, -, hraw⟩ := Fallible.exists_of_mem_mapM houts hentry
      refine ⟨?_, normalizeHistoryEntry_again hlower hraw⟩
      obtain ⟨state, -, rfl⟩ := normalizeHistoryEntry_cases hraw
      rfl
  · cases h
    exact fun _ hentry => absurd hentry List.not_mem_nil

theorem normalizeEvidenceHistory_append {history : List Json} {entry entry' : Json}
    (hagain : ∀ entry ∈ history, isObject entry = true ∧
      normalizeHistoryEntry py entry = .ok (some entry))
    (hobject : isObject entry = true)
    (hentry : normalizeHistoryEntry py entry = .ok (some entry')) :
    normalizeEvidenceHistory py (some (.arr (history ++ [entry]))) = .ok (history ++ [entry']) := by
  have hfilter : (history ++ [entry]).filter isObject = history ++ [entry] := by
    rw [List.filter_eq_self]
    simp only [List.mem_append, List.mem_singleton]
    rintro other (hother | rfl)
    · exact (hagain other hother).1
    · exact hobject
  have hmap : history.mapM (normalizeHistoryEntry py) = .ok (history.map some) := by
    clear hfilter
    induction history with
    | nil => rfl
    | cons first rest ih =>
        rw [List.forall_mem_cons] at hagain
        rw [List.mapM_cons, hagain.1.2, ih hagain.2]
        rfl
  have hlast : [entry].mapM (normalizeHistoryEntry py) = .ok [some entry'] := by
    rw [List.mapM_cons, hentry]
    rfl
  have hboth : (history ++ [entry]).mapM (normalizeHistoryEntry py) =
      .ok ((history ++ [entry']).map some) := by
    rw [List.mapM_append, hmap, hlast, List.map_append]
    rfl
  have hsome : ∀ entries : List Json, (entries.map some).reduceOption = entries := by
    intro entries
    induction entries with
    | nil => rfl
    | cons first rest ih => rw [List.map_cons, List.reduceOption_cons_of_some, ih]
  rw [normalizeEvidenceHistory, hfilter, hboth, Except.map, hsome]

/-! ### A mark -/

theorem storedFields_eq_some {stateFile : Location} {fs : FileSystem}
    {fields : List (String × Json)} (h : storedFields py stateFile fs = some fields) :
    ∃ content, fs stateFile = some content ∧ content.load py = some (.obj fields) := by
  unfold storedFields at h
  split at h
  · next fields' hload =>
      cases h
      exact Option.bind_eq_some_iff.mp hload
  · cases h

theorem storedFields_write (stateFile : Location) (fs : FileSystem) (d : JsonDict) :
    storedFields py stateFile (fs.write stateFile (.json d.toJson)) = some d.items := by
  rw [storedFields, FileSystem.write_self]
  rfl

/-- A mark for a state there is, on a state that can be read. -/
theorem markedState_trail (hlower : ∀ state ∈ evidenceStates, py.lower state = state)
    {fields : List (String × Json)} {history : List Json} (hnodup : (fields.map Prod.fst).Nodup)
    (hhistory : storedHistory py fields = .ok history) {mark : String × StateMark}
    (hstate : mark.1 ∈ evidenceStates) :
    ∃ d : JsonDict, markedState py fields mark.1 mark.2 = .ok d.toJson ∧
      Trail py fields d.items history [mark] := by
  have hagain := again_of_history hlower hhistory
  have hread : ∀ key, (JsonDict.ofFields fields).get? key = (Json.obj fields).get? key := by
    intro key
    refine Option.ext fun value => ?_
    rw [JsonDict.ofFields, Dict.get?_update_empty_iff hnodup, Json.get?_obj_iff hnodup]
  refine ⟨((JsonDict.ofFields fields).set "evidence_state" (.str mark.1)).set
    "evidence_state_history" (.arr (history ++ [historyEntry mark.1 mark.2])), ?_, ?_, ?_, ?_, ?_⟩
  · unfold storedHistory at hhistory
    rw [markedState, hhistory]
    rfl
  · exact Dict.keys_nodup _
  · rw [storedHistory, get?_report, Dict.get?_set_self]
    exact normalizeEvidenceHistory_append hagain rfl
      (normalizeHistoryEntry_historyEntry hlower hstate)
  · rw [get?_report, Dict.get?_set_ne _ _ (by decide), Dict.get?_set_self]
    rfl
  · intro key hne hne'
    rw [get?_report, Dict.get?_set_ne _ _ hne'.symm, Dict.get?_set_ne _ _ hne.symm, hread]

/-- What a call does where the state can be opened. -/
theorem updatePipelineEvidenceState_eq {workingDir : Location} {artifactsDir : String}
    {fs : FileSystem} {fields : List (String × Json)}
    (h : storedFields py (resolve workingDir (join artifactsDir stateName)) fs = some fields)
    (call : String × StateMark) :
    updatePipelineEvidenceState ⟨py, fs, workingDir⟩ artifactsDir call.1 call.2 =
      (normalizeEvidenceState py call.1).mapError (.refused .markState) >>= fun state =>
        ((markedState py fields state call.2).map fun payload =>
          fs.write (resolve workingDir (join artifactsDir stateName)) (.json payload)).mapError
            (.refused .run) := by
  obtain ⟨content, hopen, hload⟩ := storedFields_eq_some h
  have hwrite : ∀ state, writeMarkedState ⟨py, fs, workingDir⟩ artifactsDir state call.2 =
      (markedState py fields state call.2).map fun payload =>
        fs.write (resolve workingDir (join artifactsDir stateName)) (.json payload) := by
    intro state
    have hread : Reader.open ⟨py, fs, workingDir⟩ (join artifactsDir stateName) = some content :=
      hopen
    rw [writeMarkedState]
    dsimp only
    rw [hread]
    dsimp only
    rw [hload]
  rw [updatePipelineEvidenceState]
  simp only [hwrite]

end

/-! ### Marks one after the other -/

section
variable {py : Interpreter} {fields fields' fields'' : List (String × Json)} {history : List Json}

theorem Trail.nil (hnodup : (fields.map Prod.fst).Nodup)
    (hhistory : storedHistory py fields = .ok history) : Trail py fields fields history [] where
  nodup := hnodup
  history := by rw [hhistory, List.map_nil, List.append_nil]
  state := rfl
  others _ _ _ := rfl

theorem Trail.cons {mark : String × StateMark} {marks : List (String × StateMark)}
    (hfirst : Trail py fields fields' history [mark])
    (hrest : Trail py fields' fields'' (history ++ [recordedEntry mark]) marks) :
    Trail py fields fields'' history (mark :: marks) where
  nodup := hrest.nodup
  history := by rw [hrest.history, List.append_assoc, List.map_cons, List.singleton_append]
  state := by
    have hlast : (mark :: marks).getLast? = some (marks.getLast?.getD mark) := List.getLast?_cons
    rw [hrest.state, hfirst.state, hlast]
    cases marks.getLast? <;> rfl
  others key hne hne' := by rw [hrest.others key hne hne', hfirst.others key hne hne']

theorem mem_evidenceStates_of_normalize {state state' : String}
    (h : normalizeEvidenceState py state = .ok state') : state' ∈ evidenceStates := by
  unfold normalizeEvidenceState at h
  split at h
  · next hmem =>
      cases h
      exact hmem
  · cases h

end

section
variable {py : Interpreter} {workingDir : Location} {artifactsDir : String} {fs : FileSystem}

/-- What a call that succeeds has read and written. -/
theorem updatePipelineEvidenceState_ok {state : String} {mark : StateMark} {left : FileSystem}
    (h : updatePipelineEvidenceState ⟨py, fs, workingDir⟩ artifactsDir state mark = .ok left) :
    ∃ fields history payload,
      storedFields py (resolve workingDir (join artifactsDir stateName)) fs = some fields ∧
      storedHistory py fields = .ok history ∧
      left = fs.write (resolve workingDir (join artifactsDir stateName)) (.json payload) := by
  simp only [updatePipelineEvidenceState, Fallible.bind_eq_ok_iff, Fallible.mapError_eq_ok_iff] at h
  obtain ⟨state', -, hwrite⟩ := h
  unfold writeMarkedState at hwrite
  dsimp only at hwrite
  split at hwrite
  · cases hwrite
  · next content hopen =>
      split at hwrite
      · cases hwrite
      · next fields hload =>
          obtain ⟨payload, hmarked, rfl⟩ := Fallible.map_eq_ok_iff.mp hwrite
          obtain ⟨history, hhistory, -⟩ := Fallible.bind_eq_ok_iff.mp hmarked
          have hfile : fs (resolve workingDir (join artifactsDir stateName)) = some content := hopen
          refine ⟨fields, history, payload, ?_, hhistory, rfl⟩
          rw [storedFields, hfile, Option.bind_some, hload]
      · cases hwrite

theorem markStates_frame (calls : List (String × StateMark)) {location : Location}
    (hne : location ≠ resolve workingDir (join artifactsDir stateName)) :
    markStates py workingDir artifactsDir fs calls location = fs location := by
  induction calls generalizing fs with
  | nil => rfl
  | cons call rest ih =>
      refine ih.trans ?_
      cases hcall : updatePipelineEvidenceState ⟨py, fs, workingDir⟩ artifactsDir call.1 call.2 with
      | error failure =>
          dsimp only
          rw [hcall]
          rfl
      | ok left =>
          obtain ⟨_, _, payload, -, -, rfl⟩ := updatePipelineEvidenceState_ok hcall
          dsimp only
          rw [hcall]
          exact FileSystem.write_of_ne fs hne _

/-- Where the history cannot be read the files stay as they are. -/
theorem markStates_unreadable (calls : List (String × StateMark))
    (h : ∀ fields,
      storedFields py (resolve workingDir (join artifactsDir stateName)) fs = some fields →
      ∃ message, storedHistory py fields = .error message) :
    markStates py workingDir artifactsDir fs calls = fs := by
  induction calls with
  | nil => rfl
  | cons call rest ih =>
      unfold markStates at ih ⊢
      rw [List.foldl_cons]
      cases hcall : updatePipelineEvidenceState ⟨py, fs, workingDir⟩ artifactsDir call.1 call.2 with
      | error failure => exact ih
      | ok left =>
          obtain ⟨fields, history, _, hstored, hhistory, -⟩ := updatePipelineEvidenceState_ok hcall
          obtain ⟨message, herror⟩ := h fields hstored
          rw [hhistory] at herror
          cases herror

theorem markStates_trail (hlower : ∀ state ∈ evidenceStates, py.lower state = state)
    (calls : List (String × StateMark)) {fields : List (String × Json)} {history : List Json}
    (hstored : storedFields py (resolve workingDir (join artifactsDir stateName)) fs = some fields)
    (hnodup : (fields.map Prod.fst).Nodup) (hhistory : storedHistory py fields = .ok history) :
    ∃ fields', storedFields py (resolve workingDir (join artifactsDir stateName))
        (markStates py workingDir artifactsDir fs calls) = some fields' ∧
      Trail py fields fields' history (knownMarks py calls) := by
  induction calls generalizing fs fields history with
  | nil => exact ⟨fields, hstored, .nil hnodup hhistory⟩
  | cons call rest ih =>
      have hcall := updatePipelineEvidenceState_eq hstored call
      unfold markStates knownMarks at ih ⊢
      rw [List.foldl_cons]
      cases hstate : normalizeEvidenceState py call.1 with
      | error message =>
          rw [hstate] at hcall
          rw [hcall, List.filterMap_cons_none (by rw [hstate]; rfl)]
          exact ih hstored hnodup hhistory
      | ok state =>
          obtain ⟨d, hmarked, htrail⟩ := @markedState_trail py hlower fields history hnodup hhistory
            (state, call.2) (mem_evidenceStates_of_normalize hstate)
          rw [hstate] at hcall
          rw [hcall, List.filterMap_cons_some (by rw [hstate]; rfl)]
          dsimp only [Except.mapError, bind, Except.bind]
          rw [hmarked]
          obtain ⟨fields', hstored', hrest⟩ :=
            ih (storedFields_write _ fs d) htrail.nodup htrail.history
          exact ⟨fields', hstored', htrail.cons hrest⟩

end

/-- Whatever states are recorded one after the other: of the files only the state file changes.
Its history is read back as what could be read of it before, followed by the accepted states in
their order, its state is the last of them, and its other fields stay. A history that cannot be
read is left alone. -/
theorem evidence_trail {py : Interpreter}
    (hlower : ∀ state ∈ evidenceStates, py.lower state = state) (workingDir : Location)
    (artifactsDir : String) (fs : FileSystem) (calls : List (String × StateMark)) :
    let stateFile := resolve workingDir (join artifactsDir stateName)
    let left := markStates py workingDir artifactsDir fs calls
    (∀ location, location ≠ stateFile → left location = fs location) ∧
      (∀ fields history, storedFields py stateFile fs = some fields →
        (fields.map Prod.fst).Nodup → storedHistory py fields = .ok history →
        ∃ fields', storedFields py stateFile left = some fields' ∧
          Trail py fields fields' history (knownMarks py calls)) ∧
      ((∀ fields, storedFields py stateFile fs = some fields →
        ∃ message, storedHistory py fields = .error message) → left = fs) :=
  ⟨fun _ hne => markStates_frame calls hne,
    fun _ _ hstored hnodup hhistory => markStates_trail hlower calls hstored hnodup hhistory,
    markStates_unreadable calls⟩

def manualMark : StateMark where
  previousState := some "draft"
  actor := some " release "
  note := none
  reason := none
  source := "manual"
  updatedAt := "2025-01-01T12:00:00+00:00"

/-- A state that is written otherwise is recorded, one that is misspelt is not. -/
theorem evidence_trail_misspelt :
    ∃ fields', storedFields asciiPublishHost.py ["run".toList, stateName.toList]
        (markStates asciiPublishHost.py [] "/run" emptyRunDisk
          [(" Ready ", manualMark), ("aproved", manualMark)]) = some fields' ∧
      Trail asciiPublishHost.py [] fields' [] [("ready", manualMark)] :=
  (evidence_trail (by decide) [] "/run" emptyRunDisk
    [(" Ready ", manualMark), ("aproved", manualMark)]).2.1 [] [] rfl List.nodup_nil rfl

end TruePresenceESE.Ese
