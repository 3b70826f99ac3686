import TruePresenceESE.Ese.RunReport

/-! # Artifacts derived from a run report

Code suggestions are gathered from every role, first ones winning, and rendered
as text and JSON. The release simulation turns next steps of the operational
roles into a rollout plan.
-/

namespace TruePresenceESE.Ese

open PyValue

/-! ## Code suggestions -/

structure Suggestion where
  role : String
  source : String
  severity : String
  title : String
  suggestion : String
  path : String
  kind : String
  snippet : String

/-- Letters and digits, lower-cased; everything else separates words. -/
def findingTheme (py : Interpreter) (value : String) : String :=
  let cleaned := value.toList.flatMap fun c =>
    if py.isAlnum c then (py.lower (String.singleton c)).toList else [' ']
  String.ofList (List.intercalate [' '] (PyText.words cleaned))

def isPlaceholderSuggestion (py : Interpreter) (text : String) : Bool :=
  "replace dry-run with a real adapter".toList.isPrefixOf (py.lower (PyText.strip text)).toList

/-- The suggestions gathered so far and the keys they are known by. -/
structure Gathered where
  suggestions : List Suggestion := []
  seen : List (String × String × String) := []

def Gathered.add (gathered : Gathered) (key : String × String × String)
    (suggestion : Suggestion) : Gathered :=
  ⟨gathered.suggestions ++ [suggestion], key :: gathered.seen⟩

/-- `str(mapping.get(key) or default)` -/
def fieldOr (py : Interpreter) (mapping : Json) (key default : String) : String :=
  orDefault (rawField py mapping key) default

/-- The loop over explicit suggestions; the flag says whether one was kept. -/
def gatherExplicit (py : Interpreter) (role : String) (acc : Gathered × Bool) (item : Json) :
    Gathered × Bool :=
  let suggestion := textField py item "suggestion"
  let summary := PyText.strip (fieldOr py item "summary" (rawField py item "suggestion"))
  let path := textField py item "path"
  let key := (role, path, findingTheme py (orDefault summary suggestion))
  if isPlaceholderSuggestion py suggestion ∨ role = "" ∨ suggestion = "" ∨ key ∈ acc.1.seen then
    acc
  else
    (acc.1.add key
      { role := role
        source := "code_suggestion"
        severity := PyText.strip (PyText.upper (rawField py item "severity"))
        title := orDefault summary (String.ofList (suggestion.toList.take 120))
        suggestion := suggestion
        path := path
        kind := py.lower (PyText.strip (fieldOr py item "kind" "edit"))
        snippet := PyText.rstrip (rawField py item "snippet") }, true)

def gatherFinding (py : Interpreter) (role : String) (gathered : Gathered) (finding : Json) :
    Gathered :=
  let title := textField py finding "title"
  let suggestion := PyText.strip (fieldOr py finding "details" title)
  let key := (role, findingTheme py title, findingTheme py suggestion)
  if role = "" ∨ title = "" ∨ suggestion = "" ∨ isPlaceholderSuggestion py suggestion ∨
      key ∈ gathered.seen then gathered
  else gathered.add key
    { role := role
      source := "finding"
      severity := orDefault
        (PyText.strip (PyText.upper (fieldOr py finding "severity" "LOW"))) "LOW"
      title := title
      suggestion := suggestion
      path := ""
      kind := "edit"
      snippet := "" }

def gatherNextStep (py : Interpreter) (role : String) (gathered : Gathered) (step : String) :
    Gathered :=
  let suggestion := PyText.strip step
  let key := (role, "next-step", findingTheme py suggestion)
  if role = "" ∨ suggestion = "" ∨ isPlaceholderSuggestion py suggestion ∨ key ∈ gathered.seen then
    gathered
  else gathered.add key
    { role := role
      source := "next_step"
      severity := "INFO"
      title := role ++ " next step"
      suggestion := suggestion
      path := ""
      kind := if Text.contains "test".toList (py.lower suggestion).toList then "test" else "edit"
      snippet := "" }

/-- Findings and next steps count only where no explicit suggestion was kept. -/
def gatherRole (py : Interpreter) (gathered : Gathered) (entry : RoleEntry) : Gathered :=
  let role := PyText.strip entry.role
  let explicit := entry.codeSuggestions.foldl (gatherExplicit py role) (gathered, false)
  if explicit.2 then explicit.1
  else
    let withFindings :=
      (entry.findings.filter isObject).foldl (gatherFinding py role) explicit.1
    entry.nextSteps.foldl (gatherNextStep py role) withFindings

def severityOrder : List String := ["CRITICAL", "HIGH", "MEDIUM", "LOW"]

def severityRank (severity : String) : Nat := severityOrder.idxOf severity

def suggestionKey (s : Suggestion) : Nat ×ₗ Nat ×ₗ Nat ×ₗ String ×ₗ String :=
  toLex (if s.path = "" then 1 else 0,
    toLex (if s.source = "finding" then 0 else 1,
      toLex (severityRank s.severity, toLex (s.role, s.title))))

def codeSuggestions (py : Interpreter) (roles : List RoleEntry) : List Suggestion :=
  (roles.foldl (gatherRole py) {}).suggestions.mergeSort fun s t => suggestionKey s ≤ suggestionKey t

/-- The paths with their suggestions, by path. -/
def suggestionsByPath (suggestions : List Suggestion) : List (String × List Suggestion) :=
  (Dict.groupBy (fun s : Suggestion => PyText.strip s.path) id
    (suggestions.filter fun s => PyText.strip s.path ≠ "")).items.mergeSort fun p q => p.1 ≤ q.1

def unscopedSuggestions (suggestions : List Suggestion) : List Suggestion :=
  suggestions.filter fun s => PyText.strip s.path = ""

def suggestionLabel (s : Suggestion) : String :=
  let label := s.role ++ " [" ++ s.kind ++ "]"
  let severity := PyText.strip s.severity
  if severity = "" then label else label ++ " " ++ severity

def suggestionLine (s : Suggestion) : String := "- " ++ suggestionLabel s ++ ": " ++ s.suggestion

def snippetLines (s : Suggestion) : List String :=
  let snippet := PyText.strip s.snippet
  if snippet = "" then [] else ["", "```text", snippet, "```"]

def fileTargetedCount (suggestions : List Suggestion) : Nat :=
  ((suggestionsByPath suggestions).map fun p => p.2.length).sum

def renderCodeSuggestionsMarkdown (report : RunReport) (suggestions : List Suggestion) : String :=
  let unscoped := unscopedSuggestions suggestions
  let lines :=
    ["# Code Suggestions", "", "Artifacts directory: " ++ report.artifactsDir,
      "Total suggestions: " ++ toString suggestions.length,
      "File-targeted suggestions: " ++ toString (fileTargetedCount suggestions),
      "Unscoped suggestions: " ++ toString unscoped.length]
    ++ (suggestionsByPath suggestions).flatMap (fun p =>
      ["", "## " ++ p.1] ++ p.2.flatMap fun s => suggestionLine s :: snippetLines s)
    ++ (if unscoped.isEmpty then [] else ["", "## Unscoped"] ++ unscoped.map suggestionLine)
  PyText.strip (String.intercalate "\n" lines) ++ "\n"

def suggestionJson (s : Suggestion) : Json :=
  .obj [("role", .str s.role), ("source", .str s.source), ("severity", .str s.severity),
    ("title", .str s.title), ("suggestion", .str s.suggestion), ("path", .str s.path),
    ("kind", .str s.kind), ("snippet", .str s.snippet)]

def renderCodeSuggestionsJson (report : RunReport) (suggestions : List Suggestion) : Json :=
  .obj [("artifacts_dir", .str report.artifactsDir), ("scope", report.scope),
    ("count", .num suggestions.length),
    ("file_targeted_count", .num (fileTargetedCount suggestions)),
    ("unscoped_count", .num (unscopedSuggestions suggestions).length),
    ("paths", strings ((suggestionsByPath suggestions).map Prod.fst)),
    ("suggestions", .arr (suggestions.map suggestionJson))]

/-! ## Release simulation -/

def relevantRoles : List String :=
  ["devops_sre", "release_manager", "documentation_writer", "test_generator", "security_auditor"]

/-- Of two entries of one role the later counts. -/
def roleNamed (roles : List RoleEntry) (name : String) : Option RoleEntry :=
  roles.reverse.find? fun entry => entry.role = name

def stepsFor (roles : List RoleEntry) (names : List String) : List String :=
  names.flatMap fun name => match roleNamed roles name with
    | some entry => (entry.nextSteps.map PyText.strip).filter (· ≠ "")
    | none => []

def mentions (py : Interpreter) (tokens : List String) (step : String) : Bool :=
  tokens.any fun token => Text.contains token.toList (py.lower step).toList

def releaseSummary (status : Json) (blockerCount : Nat) (assuranceLevel evidenceState : String)
    (ready : Bool) : String :=
  if ¬(status matches .str "completed") then "Hold release: the run is not completed."
  else if 0 < blockerCount then "Hold release: blockers and rollout checks are still open."
  else if assuranceLevel = "degraded" then
    "Hold release: degraded assurance runs are not sufficient release evidence."
  else if evidenceState = "blocked" then "Hold release: evidence state is blocked."
  else if evidenceState = "approved" then "Approved for release."
  else if evidenceState = "released" then "Release marked as completed."
  else if evidenceState = "draft" then
    "Draft evidence: approvals or final review are still pending."
  else if ready then "Release-ready"
  else "Hold release until blockers and rollout checks are resolved."

def releaseEnabled (report : RunReport) : Bool :=
  report.roles.any fun entry => relevantRoles.contains entry.role

def buildReleaseSimulation (py : Interpreter) (report : RunReport) : Json :=
  let steps := stepsFor report.roles
  let stage name tasks := Json.obj [("stage", .str name), ("tasks", strings tasks)]
  let blockers := report.blockers.map fun blocker => blocker.role ++ ": " ++ blocker.title
  let assuranceLevel := py.lower (PyText.strip report.assuranceLevel)
  let evidenceState := py.lower (PyText.strip report.evidenceState)
  let ready := report.blockers.isEmpty && (report.status matches .str "completed")
    && assuranceLevel != "degraded" && ["ready", "approved", "released"].contains evidenceState
  .obj [("enabled", .bool (releaseEnabled report)), ("status", report.status),
    ("evidence_state", .str evidenceState), ("ready_for_release", .bool ready),
    ("rollout_stages", .arr
      [stage "preflight" (steps ["architect", "security_auditor", "test_generator"]),
        stage "rollout" (steps ["release_manager", "devops_sre"]),
        stage "verification" (steps ["performance_analyst", "test_generator", "release_manager"])]),
    ("rollback_criteria", strings (blockers ++
      (steps ["release_manager", "devops_sre"]).filter (mentions py ["rollback"]))),
    ("observability_checks", strings ((steps ["devops_sre", "performance_analyst"]).filter
      (mentions py ["metric", "observe", "telemetry", "monitor", "alert", "latency"]))),
    ("required_sign_off_roles", strings (["release_manager", "devops_sre", "security_auditor"].filter
      fun name => (roleNamed report.roles name).isSome)),
    ("blocker_count", .num report.blockers.length),
    ("summary", .str (releaseSummary report.status report.blockers.length assuranceLevel
      evidenceState ready))]

end TruePresenceESE.Ese
