import TruePresenceESE.Ese.Feedback
import TruePresenceESE.Ese.RoleReport

/-! # Collecting a run's report

The state file lists the executed roles with their artifacts; every artifact is
read again. A missing or malformed file is a report error, which callers
expect; whatever else a value of the wrong shape raises is not.
-/

namespace TruePresenceESE.Ese

open PosixPath PyValue

inductive ReportError where
  /-- `RunReportError` -/
  | runReport (message : String)
  /-- Any other exception, by its class. -/
  | escaped (exception : String)
  deriving DecidableEq

/-! ## Reading -/

/-- Where the files of a run are read from. -/
structure Reader where
  py : Interpreter
  fs : FileSystem
  workingDir : Location

def Reader.open (reader : Reader) (path : String) : Option FileContent :=
  reader.fs (resolve reader.workingDir path)

def readJson (reader : Reader) (path : String) : Except ReportError Json :=
  match reader.open path with
  | none => .error (.runReport ("Required run artifact not found: " ++ pathText path))
  | some content =>
      match content.load reader.py with
      | none => .error (.runReport ("Run artifact is not valid JSON: " ++ pathText path))
      | some (.obj fields) => .ok (.obj fields)
      | some _ => .error (.runReport ("Run artifact must be a JSON object: " ++ pathText path))

def loadPipelineState (reader : Reader) (artifactsDir : String) : Except ReportError Json :=
  readJson reader (join artifactsDir stateName)

/-- Only files with the suffix of a JSON file hold a structured report. -/
def loadRoleReport (reader : Reader) (artifactPath : String) : Except ReportError (Option Json) :=
  if PyText.lower (String.ofList (suffix artifactPath)) = ".json" then
    (readJson reader artifactPath).map some
  else .ok none

def readText (reader : Reader) (path : String) : Except ReportError String :=
  match reader.open path with
  | none => .error (.escaped "FileNotFoundError")
  | some content => .ok (content.read reader.py)

/-- `mapping.get(key, [])`, iterated over. -/
def iterateField (mapping : Json) (key : String) : Except ReportError (List Json) :=
  match mapping.get? key with
  | none => .ok []
  | some value => (iterate value).elim (.error (.escaped "TypeError")) .ok

/-- The strings of a field that are not blank. -/
def textItems (mapping : Json) (key : String) : Except ReportError (List String) :=
  (iterateField mapping key).map fun items =>
    (items.filterMap asString).filter (PyText.strip · ≠ "")

/-! ## Role entries -/

structure RoleEntry where
  role : String
  model : String
  artifact : String
  summary : String
  findings : List Json := []
  nextSteps : List String := []
  artifacts : List String := []
  confidence : String := ""
  assumptions : List String := []
  unknowns : List String := []
  evidenceBasis : List String := []
  codeSuggestions : List Json := []
  reportFormat : String

/-- A relative reference is taken from the artifacts directory. -/
def reportArtifactPath (artifactsDir artifact : String) : String :=
  if isAbs artifact then artifact else join artifactsDir artifact

def listOrEmpty : Option Json → List Json
  | some (.arr items) => items
  | _ => []

/-- The entry of a structured report. -/
def structuredEntry (py : Interpreter) (entry : RoleEntry) (report : Json) :
    Except ReportError RoleEntry := do
  let nextSteps ← textItems report "next_steps"
  let artifacts ← textItems report "artifacts"
  let assumptions ← textItems report "assumptions"
  let unknowns ← textItems report "unknowns"
  let evidenceBasis ← textItems report "evidence_basis"
  let codeSuggestions ← iterateField report "code_suggestions"
  return { entry with
    summary := textField py report "summary"
    confidence := PyText.upper (textField py report "confidence")
    findings := listOrEmpty (report.get? "findings")
    nextSteps := nextSteps
    artifacts := artifacts
    assumptions := assumptions
    unknowns := unknowns
    evidenceBasis := evidenceBasis
    codeSuggestions := codeSuggestions.filter isObject }

/-- `str(mapping.get(key) or "")` -/
def rawField (py : Interpreter) (mapping : Json) (key : String) : String :=
  match (mapping.get? key).filter truthy with
  | some value => str py value
  | none => ""

/-- The entry of one execution record; records without role or artifact have none. -/
def roleEntry (reader : Reader) (artifactsDir : String) (item : Json) :
    Except ReportError (Option RoleEntry) :=
  let role := textField reader.py item "role"
  let artifact := textField reader.py item "artifact"
  if role = "" ∨ artifact = "" then .ok none
  else do
    let path := reportArtifactPath artifactsDir artifact
    let entry : RoleEntry :=
      { role := role
        model := rawField reader.py item "model"
        artifact := pathText path
        summary := ""
        reportFormat := PyText.lower (String.ofList ((suffix path).dropWhile (· = '.'))) }
    match ← loadRoleReport reader path with
    | none => do
        let text ← readText reader path
        return some { entry with
          summary := PyText.strip (String.ofList (text.toList.take 500)) }
    | some report => (structuredEntry reader.py entry report).map some

/-! ## Blockers -/

structure Blocker where
  role : String
  severity : String
  title : String
  details : String
  confidence : String

def findingBlocker (py : Interpreter) (entry : RoleEntry) (finding : Json) : Option Blocker :=
  let severity := PyText.upper (rawField py finding "severity")
  if severity = "HIGH" ∨ severity = "CRITICAL" then
    some ⟨entry.role, severity, textField py finding "title", textField py finding "details",
      entry.confidence⟩
  else none

def entryBlockers (py : Interpreter) (entry : RoleEntry) : List Blocker :=
  (entry.findings.filter isObject).filterMap (findingBlocker py entry)

/-! ## Evidence state -/

def evidenceStates : List String := ["draft", "ready", "approved", "blocked", "released"]

/-- A blank state is none, an unknown one raises. -/
def coerceEvidenceState (py : Interpreter) (mapping : Json) (key : String) :
    Except ReportError (Option String) :=
  let cleaned := py.lower (textField py mapping key)
  if cleaned = "" then .ok none
  else if cleaned ∈ evidenceStates then .ok (some cleaned)
  else .error (.escaped "ValueError")

def deriveEvidenceState (py : Interpreter) (status : String) (blockerCount : Nat)
    (assuranceLevel : String) : String :=
  let cleanStatus := py.lower (PyText.strip status)
  let cleanAssurance := py.lower (PyText.strip assuranceLevel)
  if cleanStatus = "failed" then "blocked"
  else if 0 < blockerCount then "blocked"
  else if cleanAssurance = "degraded" then "draft"
  else if cleanStatus = "completed" then "ready"
  else "draft"

/-- The history is read for its states, each of which has to be known. -/
def checkEvidenceHistory (py : Interpreter) (state : Json) : Except ReportError Unit :=
  match state.get? "evidence_state_history" with
  | some (.arr entries) =>
      (entries.filter isObject).forM fun entry =>
        (coerceEvidenceState py entry "state").map fun _ => ()
  | _ => .ok ()

/-! ## The report -/

structure RunReport where
  artifactsDir : String
  state : Json
  status : Json
  scope : Json
  assuranceLevel : String
  evidenceState : String
  roles : List RoleEntry
  blockers : List Blocker

def orDefault (text default : String) : String := if text = "" then default else text

/-- A report without its comparison. -/
def collectRun (reader : Reader) (artifactsDir : String) : Except ReportError RunReport := do
  let state ← loadPipelineState reader artifactsDir
  let items ← iterateField state "execution"
  let entries ← (items.filter isObject).mapM (roleEntry reader artifactsDir)
  let roles := entries.reduceOption
  let blockers := roles.flatMap (entryBlockers reader.py)
  let assuranceLevel := orDefault (textField reader.py state "assurance_level") "standard"
  let derived := deriveEvidenceState reader.py (orDefault (rawField reader.py state "status")
    "unknown") blockers.length assuranceLevel
  let evidenceState ← coerceEvidenceState reader.py state "evidence_state"
  checkEvidenceHistory reader.py state
  return { artifactsDir := pathText artifactsDir
           state := state
           status := (state.get? "status").getD (.str "unknown")
           scope := (state.get? "scope").getD (.str "")
           assuranceLevel := assuranceLevel
           evidenceState := evidenceState.getD derived
           roles := roles
           blockers := blockers }

/-- The earlier run the comparison picks by its age is read as well. -/
def collectRunReport (reader : Reader) (previousRunDir : Option String) (artifactsDir : String) :
    Except ReportError RunReport := do
  let report ← collectRun reader artifactsDir
  match previousRunDir with
  | none => return report
  | some previous => do
      let _ ← collectRun reader previous
      return report

end TruePresenceESE.Ese
