import TruePresenceESE.Lib.Lists
import TruePresenceESE.Ese.SavedState

/-! # Exports of a run report

The findings of a run are rendered for code scanning and as a test report. Both renderers
classify the severities once more, after the collector has counted its blockers.
-/

namespace TruePresenceESE.Ese

open PosixPath PyText PyValue

/-! ## Code scanning -/

def sarifLevels : List (String × String) :=
  [("CRITICAL", "error"), ("HIGH", "error"), ("MEDIUM", "warning"), ("LOW", "note")]

structure SarifRule where
  id : String
  text : String
  role : String
  severity : String

structure SarifResult where
  ruleId : String
  level : String
  text : String
  role : String
  severity : String
  artifact : String

/-- The entries of `role["findings"]` that are objects. -/
def entryFindings (entry : RoleEntry) : List Json := entry.findings.filter isObject

def sarifSeverity (py : Interpreter) (finding : Json) : String :=
  strip (upper (fieldOr py finding "severity" "LOW"))

def sarifTitle (py : Interpreter) (finding : Json) : String :=
  orDefault (textField py finding "title") "Untitled finding"

def sarifRuleId (py : Interpreter) (entry : RoleEntry) (finding : Json) : String :=
  let theme := findingTheme py (sarifTitle py finding)
  strip entry.role ++ ":" ++
    orDefault (String.ofList (Text.replace (· = ' ') '-' theme.toList)) "finding"

def sarifRule (py : Interpreter) (entry : RoleEntry) (finding : Json) : SarifRule :=
  { id := sarifRuleId py entry finding
    text := sarifTitle py finding
    role := strip entry.role
    severity := sarifSeverity py finding }

def sarifResult (py : Interpreter) (entry : RoleEntry) (finding : Json) : SarifResult :=
  { ruleId := sarifRuleId py entry finding
    level := (sarifLevels.lookup (sarifSeverity py finding)).getD "warning"
    text := fieldOr py finding "details" (sarifTitle py finding)
    role := strip entry.role
    severity := sarifSeverity py finding
    artifact := strip entry.artifact }

/-- A rule is listed once, as its first finding describes it. -/
def addRule (rules : List SarifRule) (rule : SarifRule) : List SarifRule :=
  if rules.any (·.id = rule.id) then rules else rules ++ [rule]

def sarifRules (py : Interpreter) (roles : List RoleEntry) : List SarifRule :=
  (roles.flatMap fun entry => (entryFindings entry).map (sarifRule py entry)).foldl addRule []

def sarifResults (py : Interpreter) (roles : List RoleEntry) : List SarifResult :=
  roles.flatMap fun entry => (entryFindings entry).map (sarifResult py entry)

def SarifRule.json (rule : SarifRule) : Json :=
  .obj [("id", .str rule.id), ("shortDescription", .obj [("text", .str rule.text)]),
    ("properties", .obj [("role", .str rule.role), ("severity", .str rule.severity)])]

def SarifResult.json (result : SarifResult) : Json :=
  let location := Json.obj [("physicalLocation",
    .obj [("artifactLocation", .obj [("uri", .str result.artifact)])])]
  .obj ([("ruleId", .str result.ruleId), ("level", .str result.level),
      ("message", .obj [("text", .str result.text)]),
      ("properties", .obj [("role", .str result.role), ("severity", .str result.severity)])] ++
    if result.artifact = "" then [] else [("locations", .arr [location])])

def renderSarif (py : Interpreter) (roles : List RoleEntry) : String :=
  py.dumps (.obj [("$schema", .str "https://json.schemastore.org/sarif-2.1.0.json"),
    ("version", .str "2.1.0"),
    ("runs", .arr [.obj [
      ("tool", .obj [("driver", .obj [("name", .str "ESE"),
        ("rules", .arr ((sarifRules py roles).map SarifRule.json))])]),
      ("results", .arr ((sarifResults py roles).map SarifResult.json))]])]) ++ "\n"

/-! ## Test report -/

inductive CaseOutcome where
  | failure (message type text : String)
  | systemOut (text : String)

structure TestCase where
  classname : String
  name : String
  outcome : CaseOutcome

/-- The cases so far with the counts written to the suite at the end. -/
structure TestSuite where
  cases : List TestCase := []
  tests : Nat := 0
  failures : Nat := 0

def CaseOutcome.fails : CaseOutcome → Bool
  | .failure .. => true
  | .systemOut _ => false

def blockingSeverities : List String := ["HIGH", "CRITICAL"]

def findingOutcome (py : Interpreter) (finding : Json) : CaseOutcome :=
  let severity := upper (fieldOr py finding "severity" "LOW")
  let title := fieldOr py finding "title" "Untitled finding"
  let details := textField py finding "details"
  if severity ∈ blockingSeverities then .failure title severity (orDefault details title)
  else .systemOut (strip (severity ++ ": " ++ title ++ "\n" ++ details))

def addFindingCase (py : Interpreter) (roleName : String) (suite : TestSuite)
    (indexed : Json × Nat) : TestSuite :=
  let outcome := findingOutcome py indexed.1
  { cases := suite.cases ++ [⟨roleName, roleName ++ "-" ++ toString indexed.2, outcome⟩]
    tests := suite.tests + 1
    failures := if outcome.fails then suite.failures + 1 else suite.failures }

def addRoleCases (py : Interpreter) (suite : TestSuite) (entry : RoleEntry) : TestSuite :=
  let roleName := orDefault entry.role "role"
  let findings := entryFindings entry
  if findings.isEmpty then
    { suite with
      cases := suite.cases ++
        [⟨"ese", roleName, .systemOut (orDefault entry.summary "No findings.")⟩]
      tests := suite.tests + 1 }
  else (findings.zipIdx 1).foldl (addFindingCase py roleName) suite

/-- The elements of the suite that `render_junit` writes out. -/
def junitSuite (py : Interpreter) (roles : List RoleEntry) : TestSuite :=
  roles.foldl (addRoleCases py) {}

/-! ## The findings of a run -/

/-- The findings in the artifact of an execution record. -/
def artifactFindings (reader : Reader) (artifactsDir : String) (item : Json) : List Json :=
  let role := textField reader.py item "role"
  let artifact := textField reader.py item "artifact"
  if role = "" ∨ artifact = "" then []
  else match loadRoleReport reader (reportArtifactPath artifactsDir artifact) with
    | .ok (some report) => (listOrEmpty (report.get? "findings")).filter isObject
    | _ => []

def runFindings (reader : Reader) (artifactsDir : String) : List Json :=
  match loadPipelineState reader artifactsDir >>= (iterateField · "execution") with
  | .ok items => (items.filter isObject).flatMap (artifactFindings reader artifactsDir)
  | .error _ => []

theorem structuredEntry_findings {py : Interpreter} {entry entry' : RoleEntry} {report : Json}
    (h : structuredEntry py entry report = .ok entry') :
    entry'.findings = listOrEmpty (report.get? "findings") := by
  obtain ⟨nextSteps, -, h⟩ := Fallible.bind_eq_ok_iff.mp h
  obtain ⟨artifacts, -, h⟩ := Fallible.bind_eq_ok_iff.mp h
  obtain ⟨assumptions, -, h⟩ := Fallible.bind_eq_ok_iff.mp h
  obtain ⟨unknowns, -, h⟩ := Fallible.bind_eq_ok_iff.mp h
  obtain ⟨basis, -, h⟩ := Fallible.bind_eq_ok_iff.mp h
  obtain ⟨suggestions, -, h⟩ := Fallible.bind_eq_ok_iff.mp h
  cases h
  rfl

/-- An entry has the findings of the artifact it was read from. -/
theorem roleEntry_findings {reader : Reader} {artifactsDir : String} {item : Json}
    {entry : Option RoleEntry} (h : roleEntry reader artifactsDir item = .ok entry) :
    entry.elim [] entryFindings = artifactFindings reader artifactsDir item := by
  unfold roleEntry at h
  unfold artifactFindings
  dsimp only at h ⊢
  split at h
  next hskip =>
    cases h
    rw [if_pos hskip, Option.elim_none]
  next hskip =>
    obtain ⟨report, hreport, h⟩ := Fallible.bind_eq_ok_iff.mp h
    rw [if_neg hskip, hreport]
    cases report with
    | none =>
        obtain ⟨text, -, h⟩ := Fallible.bind_eq_ok_iff.mp h
        cases h
        rfl
    | some report =>
        obtain ⟨entry', hentry, rfl⟩ := Fallible.map_eq_ok_iff.mp h
        show entry'.findings.filter isObject = _
        rw [structuredEntry_findings hentry]

theorem entries_findings {reader : Reader} {artifactsDir : String} {records : List Json}
    {entries : List (Option RoleEntry)}
    (h : records.mapM (roleEntry reader artifactsDir) = .ok entries) :
    entries.reduceOption.flatMap entryFindings =
      records.flatMap (artifactFindings reader artifactsDir) := by
  have heach := Fallible.forall₂_of_mapM_ok h
  clear h
  rw [Lists.flatMap_reduceOption]
  induction heach with
  | nil => rfl
  | cons hentry _ ih => rw [List.flatMap_cons, List.flatMap_cons, ih, roleEntry_findings hentry]

/-- What a collected report says about findings and blockers. -/
theorem collectRun_findings {reader : Reader} {artifactsDir : String} {report : RunReport}
    (h : collectRun reader artifactsDir = .ok report) :
    report.blockers = report.roles.flatMap (entryBlockers reader.py) ∧
      report.roles.flatMap entryFindings = runFindings reader artifactsDir := by
  obtain ⟨state, hstate, h⟩ := Fallible.bind_eq_ok_iff.mp h
  obtain ⟨items, hitems, h⟩ := Fallible.bind_eq_ok_iff.mp h
  obtain ⟨entries, hentries, h⟩ := Fallible.bind_eq_ok_iff.mp h
  obtain ⟨evidenceState, -, h⟩ := Fallible.bind_eq_ok_iff.mp h
  obtain ⟨_, -, h⟩ := Fallible.bind_eq_ok_iff.mp h
  cases h
  refine ⟨rfl, ?_⟩
  have hread : loadPipelineState reader artifactsDir >>= (iterateField · "execution") =
      .ok items := by
    rw [hstate]
    exact hitems
  rw [runFindings, hread]
  exact entries_findings hentries

theorem collectRun_of_report {reader : Reader} {previous : Option String} {artifactsDir : String}
    {report : RunReport} (h : collectRunReport reader previous artifactsDir = .ok report) :
    collectRun reader artifactsDir = .ok report := by
  obtain ⟨collected, hcollected, h⟩ := Fallible.bind_eq_ok_iff.mp h
  cases previous with
  | none =>
      cases h
      exact hcollected
  | some run =>
      obtain ⟨_, -, h⟩ := Fallible.bind_eq_ok_iff.mp h
      cases h
      exact hcollected

/-! ## Counting -/

/-- Severities as the collector and the test report read them. -/
def isBlocking (py : Interpreter) (finding : Json) : Bool :=
  upper (rawField py finding "severity") ∈ blockingSeverities

/-- A severity that only trimming makes a blocking one. -/
def PaddedSeverity (py : Interpreter) (finding : Json) : Prop :=
  strip (upper (rawField py finding "severity")) ∈ blockingSeverities ∧
    upper (rawField py finding "severity") ∉ blockingSeverities

theorem strip_blocking {severity : String} (h : severity ∈ blockingSeverities) :
    strip severity = severity := by
  simp only [blockingSeverities, List.mem_cons, List.not_mem_nil, or_false] at h
  cases h with
  | inl hhigh => rw [hhigh]; decide
  | inr hcritical => rw [hcritical]; decide

/-- The default severity blocks nothing. -/
theorem fieldOr_severity_mem {py : Interpreter} {finding : Json} {f : String → String}
    (hempty : f (upper "") ∉ blockingSeverities) (hlow : f (upper "LOW") ∉ blockingSeverities) :
    f (upper (fieldOr py finding "severity" "LOW")) ∈ blockingSeverities ↔
      f (upper (rawField py finding "severity")) ∈ blockingSeverities := by
  rw [fieldOr, orDefault]
  split
  next hraw =>
    rw [hraw]
    exact ⟨fun h => absurd h hlow, fun h => absurd h hempty⟩
  next => rfl

theorem findingOutcome_fails (py : Interpreter) (finding : Json) :
    (findingOutcome py finding).fails = isBlocking py finding := by
  have hmem := @fieldOr_severity_mem py finding id (by decide) (by decide)
  rw [id_eq, id_eq] at hmem
  unfold findingOutcome isBlocking
  dsimp only
  split
  next h => exact (decide_eq_true (hmem.mp h)).symm
  next h => exact (decide_eq_false fun hraw => h (hmem.mpr hraw)).symm

theorem findingBlocker_isSome (py : Interpreter) (entry : RoleEntry) (finding : Json) :
    (findingBlocker py entry finding).isSome = isBlocking py finding := by
  unfold findingBlocker isBlocking blockingSeverities
  dsimp only
  split
  next h => exact (decide_eq_true (by simpa using h)).symm
  next h => exact (decide_eq_false (by simpa using h)).symm

def SarifResult.isError (result : SarifResult) : Bool := result.level = "error"

theorem sarifLevel_eq_error_iff (severity : String) :
    (sarifLevels.lookup severity).getD "warning" = "error" ↔ severity ∈ blockingSeverities := by
  by_cases hcritical : severity = "CRITICAL"
  · simp [hcritical, sarifLevels, blockingSeverities]
  by_cases hhigh : severity = "HIGH"
  · simp [hhigh, sarifLevels, blockingSeverities, List.lookup]
  · have hlevel : (sarifLevels.lookup severity).getD "warning" ≠ "error" := by
      unfold sarifLevels
      simp only [List.lookup, beq_eq_false_iff_ne.mpr hcritical, beq_eq_false_iff_ne.mpr hhigh]
      split
      · simp
      · split <;> simp
    simp [hlevel, blockingSeverities, hcritical, hhigh]

theorem sarifResult_isError (py : Interpreter) (entry : RoleEntry) (finding : Json) :
    (sarifResult py entry finding).isError = true ↔
      strip (upper (rawField py finding "severity")) ∈ blockingSeverities := by
  have hlevel := sarifLevel_eq_error_iff (sarifSeverity py finding)
  have hdefault := @fieldOr_severity_mem py finding strip (by decide) (by decide)
  unfold sarifSeverity at hlevel
  rw [SarifResult.isError, sarifResult, decide_eq_true_eq, sarifSeverity, hlevel, hdefault]

/-! ## Agreement -/

def junitFailures (suite : TestSuite) : Nat := suite.cases.countP fun c => c.outcome.fails

def sarifErrors (results : List SarifResult) : Nat := results.countP SarifResult.isError

/-- Cases of one role: the counters follow the cases. -/
theorem foldl_addFindingCase (py : Interpreter) (roleName : String) (indexed : List (Json × Nat))
    (suite : TestSuite) :
    junitFailures (indexed.foldl (addFindingCase py roleName) suite) =
      junitFailures suite + (indexed.map Prod.fst).countP (isBlocking py) := by
  induction indexed generalizing suite with
  | nil => rfl
  | cons p rest ih =>
      rw [List.foldl_cons, ih, List.map_cons, List.countP_cons]
      unfold junitFailures addFindingCase
      dsimp only
      rw [List.countP_append, List.countP_singleton, findingOutcome_fails]
      omega

theorem junitFailures_junitSuite (py : Interpreter) (roles : List RoleEntry) :
    junitFailures (junitSuite py roles) =
      (roles.flatMap entryFindings).countP (isBlocking py) := by
  have hfold : ∀ suite : TestSuite, junitFailures (roles.foldl (addRoleCases py) suite) =
      junitFailures suite + (roles.flatMap entryFindings).countP (isBlocking py) := by
    induction roles with
    | nil => intro suite; rfl
    | cons entry rest ih =>
        intro suite
        rw [List.foldl_cons, ih, List.flatMap_cons, List.countP_append]
        unfold addRoleCases
        dsimp only
        split
        next hempty =>
          rw [List.isEmpty_iff.mp hempty]
          unfold junitFailures
          dsimp only
          rw [List.countP_append]
          simp [CaseOutcome.fails]
        next =>
          rw [foldl_addFindingCase, List.zipIdx_map_fst]
          omega
  rw [junitSuite, hfold]
  exact Nat.zero_add _

theorem length_entryBlockers (py : Interpreter) (roles : List RoleEntry) :
    (roles.flatMap (entryBlockers py)).length =
      (roles.flatMap entryFindings).countP (isBlocking py) := by
  induction roles with
  | nil => rfl
  | cons entry rest ih =>
      have hentry : (entryBlockers py entry).length =
          (entryFindings entry).countP (isBlocking py) := by
        rw [entryBlockers, List.length_filterMap_eq_countP]
        apply List.countP_congr
        intro finding _
        rw [findingBlocker_isSome]
      rw [List.flatMap_cons, List.flatMap_cons, List.length_append, List.countP_append, ih, hentry]

theorem sarifErrors_sarifResults (py : Interpreter) (roles : List RoleEntry) :
    sarifErrors (sarifResults py roles) = (roles.flatMap entryFindings).countP
      fun finding => strip (upper (rawField py finding "severity")) ∈ blockingSeverities := by
  unfold sarifErrors sarifResults
  induction roles with
  | nil => rfl
  | cons entry rest ih =>
      rw [List.flatMap_cons, List.flatMap_cons, List.countP_append, List.countP_append, ih,
        List.countP_map]
      have hentry : (SarifResult.isError ∘ sarifResult py entry) = fun finding =>
          decide (strip (upper (rawField py finding "severity")) ∈ blockingSeverities) := by
        funext finding
        rw [Function.comp_apply, Bool.eq_iff_iff, sarifResult_isError, decide_eq_true_eq]
      rw [hentry]

/-- The test report always agrees with the collector; code scanning does unless a severity
is padded. -/
theorem exports_agree_iff {reader : Reader} {previous : Option String} {artifactsDir : String}
    {report : RunReport} (h : collectRunReport reader previous artifactsDir = .ok report) :
    (junitFailures (junitSuite reader.py report.roles) = report.blockers.length ∧
        sarifErrors (sarifResults reader.py report.roles) = report.blockers.length) ↔
      ∀ finding ∈ runFindings reader artifactsDir, ¬ PaddedSeverity reader.py finding := by
  obtain ⟨hblockers, hfindings⟩ := collectRun_findings (collectRun_of_report h)
  rw [junitFailures_junitSuite, sarifErrors_sarifResults, hblockers, length_entryBlockers,
    hfindings]
  have hweaker : ∀ finding, isBlocking reader.py finding = true →
      decide (strip (upper (rawField reader.py finding "severity")) ∈ blockingSeverities) = true := by
    intro finding hblocking
    have hmem : upper (rawField reader.py finding "severity") ∈ blockingSeverities :=
      of_decide_eq_true hblocking
    rw [strip_blocking hmem]
    exact decide_eq_true hmem
  rw [eq_self, true_and, Lists.countP_eq_countP_iff hweaker]
  apply forall₂_congr
  intro finding _
  simp [PaddedSeverity, isBlocking]

/-- A run of one role whose only finding has the given severity. -/
def oneFindingReader (severity : String) : Reader where
  py := sampleHost.py
  workingDir := []
  fs location :=
    if location = [['r', 'u', 'n'], stateName.toList] then
      some (.json (.obj [("execution", .arr [.obj [("role", .str "reviewer"),
        ("artifact", .str "01_reviewer.json")]])]))
    else if location = [['r', 'u', 'n'], "01_reviewer.json".toList] then
      some (.json (.obj [("findings", .arr [.obj [("title", .str "leak"),
        ("severity", .str severity)]])]))
    else none

def exportCounts (py : Interpreter) (report : RunReport) : Nat × Nat × Nat :=
  (junitFailures (junitSuite py report.roles), sarifErrors (sarifResults py report.roles),
    report.blockers.length)

theorem exportCounts_high :
    (collectRunReport (oneFindingReader "HIGH") none "/run").map
      (exportCounts (oneFindingReader "HIGH").py) = .ok (1, 1, 1) := by
  decide +kernel

theorem exports_agree_iff_high : ∃ report,
    collectRunReport (oneFindingReader "HIGH") none "/run" = .ok report ∧
      ((junitFailures (junitSuite (oneFindingReader "HIGH").py report.roles) = report.blockers.length ∧
          sarifErrors (sarifResults (oneFindingReader "HIGH").py report.roles) = report.blockers.length) ↔
        ∀ finding ∈ runFindings (oneFindingReader "HIGH") "/run",
          ¬ PaddedSeverity (oneFindingReader "HIGH").py finding) := by
  obtain ⟨report, hreport, -⟩ := Fallible.map_eq_ok_iff.mp exportCounts_high
  exact ⟨report, hreport, exports_agree_iff hreport⟩

/-- A severity of "HIGH " is an error for code scanning and blocks nothing. -/
theorem padded_severity_exported :
    ¬ ∀ (reader : Reader) (previous : Option String) (artifactsDir : String) (report : RunReport),
      collectRunReport reader previous artifactsDir = .ok report →
        junitFailures (junitSuite reader.py report.roles) = report.blockers.length ∧
          sarifErrors (sarifResults reader.py report.roles) = report.blockers.length := by
  intro hagree
  have hcounts : (collectRunReport (oneFindingReader "HIGH ") none "/run").map
      (exportCounts (oneFindingReader "HIGH ").py) = .ok (0, 1, 0) := by
    decide +kernel
  obtain ⟨report, hreport, heq⟩ := Fallible.map_eq_ok_iff.mp hcounts
  obtain ⟨-, hsarif⟩ := hagree _ _ _ _ hreport
  rw [exportCounts, Prod.mk.injEq, Prod.mk.injEq] at heq
  have herrors : sarifErrors (sarifResults (oneFindingReader "HIGH ").py report.roles) = 1 :=
    heq.2.1
  omega

end TruePresenceESE.Ese
