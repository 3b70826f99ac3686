import TruePresenceESE.Lib.Fallible
import TruePresenceESE.Lib.JsonDict
import TruePresenceESE.Scoring.Model

/-! # Scenarios

A scenario runs the detectors on the packet of a fixture, merges what they report with the
signals of the fixture and scores the result against what is expected. Of several signals
with one code the first stays, and the detectors come first.
-/

namespace TruePresenceESE.Testing

open PyValue JsonDict Sdk Detectors Scoring

/-- What is loaded of a fixture. -/
structure Fixture where
  featurePacket : InteractionFeaturePacket
  signals : List DetectorSignal
  metaFields : JsonDict
  name : String

/-! ## Merging -/

structure Merge where
  merged : List DetectorSignal := []
  seenCodes : List String := []

def Merge.add (acc : Merge) (sig : DetectorSignal) : Merge :=
  if sig.reasonCode ∈ acc.seenCodes then acc
  else ⟨acc.merged ++ [sig], sig.reasonCode :: acc.seenCodes⟩

def mergeSignals (detectorSignals fixtureSignals : List DetectorSignal) : List DetectorSignal :=
  (fixtureSignals.foldl Merge.add (detectorSignals.foldl Merge.add {})).merged

/-! ## Expectations -/

abbrev FloatRange := ℚ × ℚ

/-- What a caller expects; an expectation left out is taken from the fixture. -/
structure Expectations where
  humanPresence : Option FloatRange := none
  automation : Option FloatRange := none
  agenticControl : Option FloatRange := none
  confidence : Option FloatRange := none
  action : Option (List String) := none
  category : Option String := none

def isNumeric : Json → Bool
  | .bool _ | .num _ => true
  | _ => false

def metaRange (expected : JsonDict) (key : String) : Except PyError (Option FloatRange) :=
  match expected.get? key with
  | some (.arr [lower, upper]) =>
      if isNumeric lower && isNumeric upper then do
        let lower ← floatOperand lower
        let upper ← floatOperand upper
        return some (lower, upper)
      else .ok none
  | _ => .ok none

def textOf? : Json → Option String
  | .str s => some s
  | _ => none

def metaActions (expected : JsonDict) : Option (List String) :=
  match expected.get? "recommended_action" with
  | some (.str action) => some [action]
  | some (.arr items) =>
      let actions := items.filterMap textOf?
      if actions.isEmpty then none else some actions
  | _ => none

def metaExpected (fixture : Fixture) : JsonDict :=
  match fixture.metaFields.getOr "expected" (.obj []) with
  | .obj fields => ofFields fields
  | _ => Dict.empty

def resolveRange (expected : JsonDict) (key : String) :
    Option FloatRange → Except PyError (Option FloatRange)
  | some range => .ok (some range)
  | none => metaRange expected key

/-- An empty set of actions expects nothing of its own. -/
def resolveAction (expected : JsonDict) : Option (List String) → Option (List String)
  | some (action :: actions) => some (action :: actions)
  | _ => metaActions expected

/-- How Python writes the numbers and lists of a failure. -/
structure Writing where
  fixed4 : ℚ → String
  float : ℚ → String
  strings : List String → String

def checkRange (writing : Writing) (label : String) (value : ℚ) :
    Option FloatRange → Option Bool × List String
  | none => (none, [])
  | some (lo, hi) =>
      if lo ≤ value ∧ value ≤ hi then (some true, [])
      else (some false, [label ++ "=" ++ writing.fixed4 value ++ " is outside expected range [" ++
        writing.float lo ++ ", " ++ writing.float hi ++ "]"])

-- the order in which `sorted` lists the expected actions
local instance actionsLe_trans : IsTrans String (· ≤ ·) := inferInstance
local instance actionsLe_antisymm : @Std.Antisymm String (· ≤ ·) := inferInstance

def checkAction (writing : Writing) (actual : String) :
    Option (List String) → Option Bool × List String
  | none => (none, [])
  | some expected =>
      if actual ∈ expected then (some true, [])
      else (some false, ["recommended_action='" ++ actual ++ "' not in expected set " ++
        writing.strings (expected.toFinset.sort (· ≤ ·))])

def rangeEntry (key : String) (range : Option FloatRange) : List (String × FloatRange) :=
  (range.map fun range => (key, range)).toList

/-! ## Scenarios -/

structure ScenarioResult where
  fixtureName : String
  expectedCategory : Json
  response : TruePresenceEvaluationResponse
  humanPresencePass : Option Bool
  automationPass : Option Bool
  agenticControlPass : Option Bool
  confidencePass : Option Bool
  actionPass : Option Bool
  allSignals : List DetectorSignal
  expectedRanges : List (String × FloatRange)
  expectedActions : List String
  failures : List String

def runScenario (writing : Writing) (uuidHex : String) (enforcementMode : EnforcementMode)
    (given : Expectations) (fixture : Fixture) : Except PyError ScenarioResult := do
  let expected := metaExpected fixture
  let humanPresence ← resolveRange expected "human_presence_likelihood" given.humanPresence
  let automation ← resolveRange expected "automation_likelihood" given.automation
  let agenticControl ← resolveRange expected "agentic_control_likelihood" given.agenticControl
  let confidence ← resolveRange expected "confidence" given.confidence
  let action := resolveAction expected given.action
  let merged := mergeSignals (runHumanPlausibilityDetectors fixture.featurePacket) fixture.signals
  let response := scoreInteraction merged fixture.featurePacket enforcementMode uuidHex
  let humanPresenceCheck := checkRange writing "human_presence_likelihood"
    response.humanPresenceLikelihood.val humanPresence
  let automationCheck := checkRange writing "automation_likelihood"
    response.automationLikelihood.val automation
  let agenticControlCheck := checkRange writing "agentic_control_likelihood"
    response.agenticControlLikelihood.val agenticControl
  let confidenceCheck := checkRange writing "confidence" response.confidence.val confidence
  let actionCheck := checkAction writing response.recommendedAction.value action
  return {
    fixtureName := fixture.name
    expectedCategory := orElse (.str (given.category.getD ""))
      (orElse (expected.getOr "class" .null)
        (fixture.metaFields.getOr "expected_category" (.str "unknown")))
    response := response
    humanPresencePass := humanPresenceCheck.1
    automationPass := automationCheck.1
    agenticControlPass := agenticControlCheck.1
    confidencePass := confidenceCheck.1
    actionPass := actionCheck.1
    allSignals := merged
    expectedRanges := rangeEntry "human_presence_likelihood" humanPresence ++
      rangeEntry "automation_likelihood" automation ++
        rangeEntry "agentic_control_likelihood" agenticControl ++
          rangeEntry "confidence" confidence
    expectedActions := action.getD []
    failures := humanPresenceCheck.2 ++ automationCheck.2 ++ agenticControlCheck.2 ++
      confidenceCheck.2 ++ actionCheck.2 }

theorem runScenario_scores {writing : Writing} {uuidHex : String}
    {enforcementMode : EnforcementMode} {given : Expectations} {fixture : Fixture}
    {result : ScenarioResult}
    (h : runScenario writing uuidHex enforcementMode given fixture = .ok result) :
    result.allSignals = mergeSignals (runHumanPlausibilityDetectors fixture.featurePacket)
        fixture.signals ∧
      result.response = scoreInteraction result.allSignals fixture.featurePacket enforcementMode
        uuidHex := by
  unfold runScenario at h
  obtain ⟨_, -, h⟩ := Fallible.bind_eq_ok_iff.mp h
  obtain ⟨_, -, h⟩ := Fallible.bind_eq_ok_iff.mp h
  obtain ⟨_, -, h⟩ := Fallible.bind_eq_ok_iff.mp h
  obtain ⟨_, -, h⟩ := Fallible.bind_eq_ok_iff.mp h
  cases h
  exact ⟨rfl, rfl⟩

/-! ## What a merge keeps -/

section
variable {acc : Merge} {signals : List DetectorSignal}

theorem mem_seenCodes_foldl {code : String} :
    code ∈ (signals.foldl Merge.add acc).seenCodes ↔
      code ∈ acc.seenCodes ∨ code ∈ signals.map (·.reasonCode) := by
  induction signals generalizing acc with
  | nil => simp
  | cons sig signals ih =>
      rw [List.foldl_cons, ih, Merge.add]
      split
      · next hseen => grind
      · grind

/-- Signals with codes of their own are kept where the code was not seen before. -/
theorem merged_foldl (h : (signals.map (·.reasonCode)).Nodup) :
    (signals.foldl Merge.add acc).merged =
      acc.merged ++ signals.filter fun sig => sig.reasonCode ∉ acc.seenCodes := by
  induction signals generalizing acc with
  | nil => simp
  | cons sig signals ih =>
      rw [List.map_cons, List.nodup_cons] at h
      rw [List.foldl_cons, ih h.2, Merge.add]
      split
      · next hseen => simp [hseen]
      · next hfresh =>
          have hrest : ∀ other ∈ signals, other.reasonCode ≠ sig.reasonCode :=
            fun other hother heq => h.1 (heq ▸ List.mem_map_of_mem hother)
          have hfilter : (signals.filter fun other =>
              other.reasonCode ∉ sig.reasonCode :: acc.seenCodes) =
                signals.filter fun other => other.reasonCode ∉ acc.seenCodes := by
            refine List.filter_congr fun other hother => ?_
            simp [hrest other hother]
          rw [hfilter, List.filter_cons_of_pos (by simpa using hfresh), List.append_assoc,
            List.singleton_append]

end

section
variable {detectorSignals fixtureSignals : List DetectorSignal}

theorem mergeSignals_eq (hdetectors : (detectorSignals.map (·.reasonCode)).Nodup)
    (hfixture : (fixtureSignals.map (·.reasonCode)).Nodup) :
    mergeSignals detectorSignals fixtureSignals = detectorSignals ++
      fixtureSignals.filter fun sig => sig.reasonCode ∉ detectorSignals.map (·.reasonCode) := by
  rw [mergeSignals, merged_foldl hfixture, merged_foldl hdetectors]
  simp [mem_seenCodes_foldl]

theorem nodup_mergeSignals (hdetectors : (detectorSignals.map (·.reasonCode)).Nodup)
    (hfixture : (fixtureSignals.map (·.reasonCode)).Nodup) :
    ((mergeSignals detectorSignals fixtureSignals).map (·.reasonCode)).Nodup := by
  rw [mergeSignals_eq hdetectors hfixture, List.map_append, List.nodup_append]
  refine ⟨hdetectors, hfixture.sublist (List.filter_sublist.map _), ?_⟩
  rintro code hcode other hother rfl
  obtain ⟨sig, hsig, rfl⟩ := List.mem_map.mp hother
  exact of_decide_eq_true (List.mem_filter.mp hsig).2 hcode

end

/-- A code that occurs once picks out its signal. -/
theorem filter_reasonCode {signals : List DetectorSignal} {sig : DetectorSignal}
    (h : (signals.map (·.reasonCode)).Nodup) (hmem : sig ∈ signals) :
    (signals.filter fun other => other.reasonCode = sig.reasonCode) = [sig] := by
  induction signals with
  | nil => cases hmem
  | cons first signals ih =>
      rw [List.map_cons, List.nodup_cons] at h
      cases List.mem_cons.mp hmem with
      | inl heq =>
          subst heq
          have hnone : (signals.filter fun other => other.reasonCode = sig.reasonCode) = [] := by
            refine List.filter_eq_nil_iff.mpr fun other hother heq => h.1 ?_
            exact of_decide_eq_true heq ▸ List.mem_map_of_mem hother
          simp [hnone]
      | inr hlater =>
          have hne : first.reasonCode ≠ sig.reasonCode :=
            fun heq => h.1 (heq ▸ List.mem_map_of_mem hlater)
          simp [hne, ih h.2 hlater]

/-! ## The codes of the detectors -/

/-- A detector reports one signal at most, under its own code. -/
def ReportsOnly (code : String) (signals : List DetectorSignal) : Prop :=
  (signals.map (·.reasonCode)).Sublist [code]

theorem ReportsOnly.nil (code : String) : ReportsOnly code [] := List.nil_sublist _

theorem ReportsOnly.singleton (code : String) (severity : Severity) (confidence : ℚ)
    (target : ContributionTarget) (explanation : String) (category : SignalCategory) :
    ReportsOnly code [signal code severity confidence target explanation category] :=
  List.Sublist.refl _

theorem detector_codes (packet : InteractionFeaturePacket) :
    ((runHumanPlausibilityDetectors packet).map (·.reasonCode)).Sublist
      (["implausible_read_response_time"] ++ ["uniform_typing_cadence"] ++
        ["paste_or_instant_input"] ++ ["zero_correction_pattern"] ++
        (["model_thinking_cadence"] ++ ["burst_pause_action_loop"] ++
          ["large_instant_input_delta"] ++ ["low_exploratory_noise"] ++
          ["structured_retry_pattern"] ++ ["implausible_task_efficiency"])) := by
  simp only [runHumanPlausibilityDetectors, runAgenticControlDetectors, List.map_append]
  refine .append (.append (.append (.append ?_ ?_) ?_) ?_)
    (.append (.append (.append (.append (.append ?_ ?_) ?_) ?_) ?_) ?_)
  all_goals
    first
      | unfold implausibleReadResponseTime
      | unfold uniformTypingCadence
      | unfold pasteOrInstantInput
      | unfold zeroCorrectionPattern
      | unfold modelThinkingCadence
      | unfold burstPauseActionLoop
      | unfold largeInstantInputDelta
      | unfold lowExploratoryNoise
      | unfold structuredRetryPattern
      | unfold implausibleTaskEfficiency
    repeat' (first | split | dsimp only)
    all_goals first
      | exact ReportsOnly.nil _
      | exact ReportsOnly.singleton _ _ _ _ _ _

theorem nodup_detectors (packet : InteractionFeaturePacket) :
    ((runHumanPlausibilityDetectors packet).map (·.reasonCode)).Nodup :=
  List.Nodup.sublist (detector_codes packet) (by decide)

/-! ## Fixtures and detectors -/

/-- Signals that tell the model the same. -/
def Agree (s t : DetectorSignal) : Prop :=
  t.severity = s.severity ∧ t.confidence = s.confidence ∧ t.category = s.category

/-- A code of the fixture stands for what the fixture says, any other for what its detector
says. -/
structure Overrides (fixtureSignals detectorSignals scored : List DetectorSignal) : Prop where
  fixture : ∀ s ∈ fixtureSignals, ∃ t,
    (scored.filter fun sig => sig.reasonCode = s.reasonCode) = [t] ∧ Agree s t
  others : ∀ s ∈ detectorSignals, s.reasonCode ∉ fixtureSignals.map (·.reasonCode) →
    (scored.filter fun sig => sig.reasonCode = s.reasonCode) = [s]

theorem overrides_mergeSignals_iff {detectorSignals fixtureSignals : List DetectorSignal}
    (hdetectors : (detectorSignals.map (·.reasonCode)).Nodup)
    (hfixture : (fixtureSignals.map (·.reasonCode)).Nodup) :
    Overrides fixtureSignals detectorSignals (mergeSignals detectorSignals fixtureSignals) ↔
      ∀ s ∈ fixtureSignals, ∀ t ∈ detectorSignals, t.reasonCode = s.reasonCode → Agree s t := by
  have hmerged := mergeSignals_eq hdetectors hfixture
  have hnodup := nodup_mergeSignals hdetectors hfixture
  have hdetector : ∀ t ∈ detectorSignals, (mergeSignals detectorSignals fixtureSignals).filter
      (fun sig => sig.reasonCode = t.reasonCode) = [t] := by
    intro t ht
    refine filter_reasonCode hnodup ?_
    rw [hmerged]
    exact List.mem_append_left _ ht
  constructor
  · intro h s hs t ht hcode
    obtain ⟨kept, hkept, hagree⟩ := h.fixture s hs
    rw [← hcode, hdetector t ht] at hkept
    rw [List.head_eq_of_cons_eq hkept]
    exact hagree
  · intro h
    refine ⟨fun s hs => ?_, fun s hs _ => hdetector s hs⟩
    by_cases hcode : s.reasonCode ∈ detectorSignals.map (·.reasonCode)
    · obtain ⟨t, ht, heq⟩ := List.mem_map.mp hcode
      refine ⟨t, ?_, h s hs t ht heq⟩
      rw [← heq]
      exact hdetector t ht
    · refine ⟨s, filter_reasonCode hnodup ?_, rfl, rfl, rfl⟩
      rw [hmerged]
      exact List.mem_append_right _ (List.mem_filter.mpr ⟨hs, decide_eq_true hcode⟩)

/-- A scenario scores what the fixture says exactly where no detector says otherwise under
the same code. -/
theorem fixtures_override_iff {writing : Writing} {uuidHex : String}
    {enforcementMode : EnforcementMode} {given : Expectations} {fixture : Fixture}
    {result : ScenarioResult}
    (h : runScenario writing uuidHex enforcementMode given fixture = .ok result)
    (hcodes : (fixture.signals.map (·.reasonCode)).Nodup) :
    (result.response = scoreInteraction result.allSignals fixture.featurePacket enforcementMode
        uuidHex ∧
      Overrides fixture.signals (runHumanPlausibilityDetectors fixture.featurePacket)
        result.allSignals) ↔
      ∀ s ∈ fixture.signals, ∀ t ∈ runHumanPlausibilityDetectors fixture.featurePacket,
        t.reasonCode = s.reasonCode → Agree s t := by
  obtain ⟨hsignals, hresponse⟩ := runScenario_scores h
  rw [and_iff_right hresponse, hsignals]
  exact overrides_mergeSignals_iff (nodup_detectors _) hcodes

/-! ## A fixture that is not heard -/

/-- Typing without any variance, of which the fixture thinks little. -/
def steadyTyping (severity : Severity) (confidence : ℚ) : Fixture where
  featurePacket := { typing := some { interKeyIntervalStddevMs := some 0 } }
  signals := [signal "uniform_typing_cadence" severity confidence .automation
    "Known typist." .typingCadence]
  metaFields := Dict.empty
  name := "steady_typing"

def plainWriting : Writing := ⟨fun _ => "", fun _ => "", fun _ => ""⟩

theorem runScenario_steadyTyping (severity : Severity) (confidence : ℚ) :
    ∃ result, runScenario plainWriting "0" .observe {} (steadyTyping severity confidence) =
      .ok result := ⟨_, rfl⟩

theorem fixtures_override_iff_agreeing :
    ∃ result, runScenario plainWriting "0" .observe {} (steadyTyping .high 0.9) = .ok result ∧
      ((result.response = scoreInteraction result.allSignals
          (steadyTyping .high 0.9).featurePacket .observe "0" ∧
        Overrides (steadyTyping .high 0.9).signals
          (runHumanPlausibilityDetectors (steadyTyping .high 0.9).featurePacket)
            result.allSignals) ↔
        ∀ s ∈ (steadyTyping .high 0.9).signals,
          ∀ t ∈ runHumanPlausibilityDetectors (steadyTyping .high 0.9).featurePacket,
            t.reasonCode = s.reasonCode → Agree s t) := by
  obtain ⟨result, h⟩ := runScenario_steadyTyping .high 0.9
  exact ⟨result, h, fixtures_override_iff h (List.nodup_singleton _)⟩

/-- The fixture says low at a fifth, and high at nine tenths is scored. -/
theorem fixture_not_heard :
    ∃ result, runScenario plainWriting "0" .observe {} (steadyTyping .low 0.2) = .ok result ∧
      (steadyTyping .low 0.2).signals.map (fun s => (s.reasonCode, s.severity, s.confidence.val)) =
        [("uniform_typing_cadence", .low, 0.2)] ∧
      result.allSignals.map (fun s => (s.reasonCode, s.severity, s.confidence.val)) =
        [("uniform_typing_cadence", .high, 0.9)] :=
  ⟨_, rfl, by decide +kernel, by decide +kernel⟩

end TruePresenceESE.Testing
