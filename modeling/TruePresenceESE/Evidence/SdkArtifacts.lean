import TruePresenceESE.Lib.Dict
import TruePresenceESE.Lib.Fallible
import TruePresenceESE.Sdk.Validation
import TruePresenceESE.Scoring.Model

/-! # SDK evidence artifacts

What the evaluation keeps of a request: aggregate feature summaries, detector
signals and the score. The store runs a filter of its own on the dumped
artifact, over key names and, unlike the guard, over string values.
-/

namespace TruePresenceESE.Evidence

open Sdk Detectors

/-! ## Tables -/

def scoringModelVersion : String := "deterministic_probabilistic_v1"

def featureSummarySections : List String :=
  ["typing", "challenge", "pointer", "agentic", "environment", "session_continuity",
    "external_risk_provider", "page_context", "metadata"]

def forbiddenArtifactKeyNames : List String :=
  ["caption", "card_number", "clientx", "file_id", "file_url", "key_values", "keys", "media_url",
    "message_text", "password", "raw_input", "raw_pointer_trail", "raw_text", "raw_value", "ssn",
    "thumbnail", "typed_text"]

def forbiddenArtifactValueFragments : List String :=
  ["card_number", "file_url", "key_values", "media_url", "message_text", "private message",
    "raw pointer trail", "raw_text", "thumbnail", "typed_text"]

/-! ## The filter -/

def isForbiddenKey (key : String) : Bool := forbiddenArtifactKeyNames.contains (normalizeKey key)

/-- `value.lower().replace("-", "_")` contains a forbidden fragment. -/
def carriesFragment (value : String) : Bool :=
  let normalized := Text.replace (· = '-') '_' (Text.lower value.toList)
  forbiddenArtifactValueFragments.any fun fragment => Text.contains fragment.toList normalized

mutual

/-- The path of the first violation. It is never empty, so the truth tests of
the source on it are tests for `none`. -/
def scanForRawContent (path : String) : Json → Option String
  | .obj fields => scanFieldsForRawContent path fields
  | .arr items => scanItemsForRawContent path 0 items
  | .str value =>
      if carriesFragment value then some (if path = "" then "<value>" else path) else none
  | .null => none
  | .bool _ => none
  | .num _ => none

def scanFieldsForRawContent (path : String) : List (String × Json) → Option String
  | [] => none
  | (key, child) :: rest =>
      let childPath := if path = "" then key else path ++ "." ++ key
      if isForbiddenKey key then some childPath
      else match scanForRawContent childPath child with
        | some violation => some violation
        | none => scanFieldsForRawContent path rest

def scanItemsForRawContent (path : String) (index : Nat) : List Json → Option String
  | [] => none
  | child :: rest =>
      match scanForRawContent (path ++ "[" ++ toString index ++ "]") child with
      | some violation => some violation
      | none => scanItemsForRawContent path (index + 1) rest

end

/-- No forbidden key and no fragment-carrying string, at any depth. -/
def Minimized (value : Json) : Prop :=
  value.All (fun key => isForbiddenKey key = false) fun s => carriesFragment s = false

private theorem scanFieldsForRawContent_eq_none_iff {fields : List (String × Json)} {path : String}
    (h : ∀ p ∈ fields, ∀ path, scanForRawContent path p.2 = none ↔ Minimized p.2) :
    scanFieldsForRawContent path fields = none ↔
      ∀ p ∈ fields, isForbiddenKey p.1 = false ∧ Minimized p.2 := by
  induction fields with
  | nil => simp [scanFieldsForRawContent]
  | cons p rest ih =>
      obtain ⟨key, child⟩ := p
      have hrest := ih fun p hp => h p (List.mem_cons_of_mem _ hp)
      have hchild := h (key, child) List.mem_cons_self
      rw [List.forall_mem_cons, ← hrest, scanFieldsForRawContent]
      cases hkey : isForbiddenKey key with
      | true => simp
      | false =>
          simp only [Bool.false_eq_true, if_false, true_and]
          rw [← hchild (if path = "" then key else path ++ "." ++ key)]
          cases scanForRawContent (if path = "" then key else path ++ "." ++ key) child <;> simp

private theorem scanItemsForRawContent_eq_none_iff {items : List Json} {path : String}
    {index : Nat} (h : ∀ v ∈ items, ∀ path, scanForRawContent path v = none ↔ Minimized v) :
    scanItemsForRawContent path index items = none ↔ ∀ v ∈ items, Minimized v := by
  induction items generalizing index with
  | nil => simp [scanItemsForRawContent]
  | cons v rest ih =>
      have hrest := @ih (index + 1) fun v hv => h v (List.mem_cons_of_mem _ hv)
      have hchild := h v List.mem_cons_self (path ++ "[" ++ toString index ++ "]")
      rw [List.forall_mem_cons, ← hrest, ← hchild, scanItemsForRawContent]
      cases scanForRawContent (path ++ "[" ++ toString index ++ "]") v <;> simp

theorem scanForRawContent_eq_none_iff (path : String) (value : Json) :
    scanForRawContent path value = none ↔ Minimized value := by
  induction value using Json.tree_induction generalizing path with
  | null => simp [scanForRawContent, Minimized]
  | bool b => simp [scanForRawContent, Minimized]
  | num q => simp [scanForRawContent, Minimized]
  | str s => simp [scanForRawContent, Minimized]
  | arr items ih =>
      rw [scanForRawContent, scanItemsForRawContent_eq_none_iff fun v hv path => ih v hv path,
        Minimized, Json.all_arr_iff]
      rfl
  | obj fields ih =>
      rw [scanForRawContent, scanFieldsForRawContent_eq_none_iff fun p hp path => ih p hp path,
        Minimized, Json.all_obj_iff]
      rfl

/-! ## Artifacts -/

structure SdkEvidenceArtifact where
  evidencePacketId : String
  sessionId : String
  tenantId : String
  surface : String
  createdAt : String
  featureSummaries : List (String × Json)
  detectorSignals : List (List (String × Json))
  reasonCodes : List String
  likelihoods : List (String × UnitInterval)
  confidence : UnitInterval
  recommendedAction : RecommendedAction
  scoringMetadata : List (String × Json)

/-- `artifact.model_dump(mode="json")` -/
def SdkEvidenceArtifact.dump (m : SdkEvidenceArtifact) : Json :=
  .obj [("evidence_packet_id", .str m.evidencePacketId), ("session_id", .str m.sessionId),
    ("tenant_id", .str m.tenantId), ("surface", .str m.surface), ("created_at", .str m.createdAt),
    ("feature_summaries", .obj m.featureSummaries),
    ("detector_signals", .arr (m.detectorSignals.map .obj)),
    ("reason_codes", .arr (m.reasonCodes.map .str)),
    ("likelihoods", .obj (m.likelihoods.map fun p => (p.1, dumpUnit p.2))),
    ("confidence", dumpUnit m.confidence), ("recommended_action", .str m.recommendedAction.value),
    ("scoring_metadata", .obj m.scoringMetadata)]

def ensureSdkArtifactMinimized (artifact : SdkEvidenceArtifact) : Except String Unit :=
  match scanForRawContent "" artifact.dump with
  | some violation =>
      .error ("SDK evidence artifact contains disallowed raw-content field: " ++ violation)
  | none => .ok ()

/-- The process-local store: the artifacts by packet id. -/
abbrev InMemorySdkEvidenceArtifactStore := Dict String SdkEvidenceArtifact

def InMemorySdkEvidenceArtifactStore.put (store : InMemorySdkEvidenceArtifactStore)
    (artifact : SdkEvidenceArtifact) : Except String InMemorySdkEvidenceArtifactStore := do
  ensureSdkArtifactMinimized artifact
  return store.set artifact.evidencePacketId artifact

/-! ## Building -/

/-- Sections without content: `(None, {}, [])`. -/
def isEmptySection : Json → Bool
  | .null => true
  | .obj [] => true
  | .arr [] => true
  | _ => false

/-- `packet_dict` is the compact dump of the packet. -/
def featureSummaries (packetDict : Json) : List (String × Json) :=
  featureSummarySections.filterMap fun name =>
    match packetDict.get? name with
    | none => none
    | some content => if isEmptySection content then none else some (name, content)

/-- `text or fallback` -/
def orText (text : Option String) (fallback : String) : String :=
  match text with
  | some text => if text = "" then fallback else text
  | none => fallback

/-- `feature_packet.get(name) or fallback` of a field that is a text or absent. -/
def textOr (featurePacket : Json) (name fallback : String) : String :=
  orText ((featurePacket.get? name).bind asStr) fallback

def severityValue : Severity → String
  | .low => "low"
  | .medium => "medium"
  | .high => "high"

def contributionTargetValue : ContributionTarget → String
  | .humanPresence => "human_presence"
  | .automation => "automation"
  | .agenticControl => "agentic_control"

def signalCategoryValue : SignalCategory → String
  | .timingPlausibility => "timing_plausibility"
  | .typingCadence => "typing_cadence"
  | .inputMethod => "input_method"
  | .pointerBehavior => "pointer_behavior"
  | .sessionContinuity => "session_continuity"
  | .environment => "environment"
  | .agenticBehavior => "agentic_behavior"
  | .externalProvider => "external_provider"

/-- `signal.model_dump(mode="json")` -/
def dumpSignal (s : DetectorSignal) : List (String × Json) :=
  [("reason_code", .str s.reasonCode), ("severity", .str (severityValue s.severity)),
    ("confidence", dumpUnit s.confidence),
    ("contribution_target", .str (contributionTargetValue s.contributionTarget)),
    ("category", .str (signalCategoryValue s.category)), ("explanation", .str s.explanation)]

def buildSdkEvidenceArtifact (packet : InteractionFeaturePacket)
    (response : TruePresenceEvaluationResponse) (signals : List DetectorSignal)
    (enforcementMode : EnforcementMode) (utcNowIso : String) : SdkEvidenceArtifact :=
  let detectorSignals := signals.map dumpSignal
  let featurePacket : Json := .obj packet.compactFields
  { evidencePacketId := response.evidencePacketId
    sessionId := textOr featurePacket "session_id" ""
    tenantId := textOr featurePacket "tenant_id" "default"
    surface := textOr featurePacket "surface" "web"
    createdAt := utcNowIso
    featureSummaries := featureSummaries featurePacket
    detectorSignals := detectorSignals
    reasonCodes := response.reasonCodes
    likelihoods := [("human_presence_likelihood", response.humanPresenceLikelihood),
      ("automation_likelihood", response.automationLikelihood),
      ("agentic_control_likelihood", response.agenticControlLikelihood)]
    confidence := response.confidence
    recommendedAction := response.recommendedAction
    scoringMetadata := [("model", .str scoringModelVersion),
      ("aggregation", .str "category_aware_product_of_complements"),
      ("enforcement_mode", .str enforcementMode.value),
      ("detector_signal_count", dumpNat detectorSignals.length),
      ("reason_code_count", dumpNat response.reasonCodes.length)] }

def persistSdkEvidenceArtifact (packet : InteractionFeaturePacket)
    (response : TruePresenceEvaluationResponse) (signals : List DetectorSignal)
    (enforcementMode : EnforcementMode) (utcNowIso : String)
    (store : InMemorySdkEvidenceArtifactStore) :
    Except String (SdkEvidenceArtifact × InMemorySdkEvidenceArtifactStore) := do
  let artifact := buildSdkEvidenceArtifact packet response signals enforcementMode utcNowIso
  let store ← store.put artifact
  return (artifact, store)

/-! ## What the store takes -/

theorem ensureSdkArtifactMinimized_eq_ok_iff {artifact : SdkEvidenceArtifact} :
    ensureSdkArtifactMinimized artifact = .ok () ↔ Minimized artifact.dump := by
  rw [← scanForRawContent_eq_none_iff "", ensureSdkArtifactMinimized]
  cases scanForRawContent "" artifact.dump <;> simp

/-- The store takes exactly the minimised artifacts. -/
theorem put_eq_ok_iff {store store' : InMemorySdkEvidenceArtifactStore}
    {artifact : SdkEvidenceArtifact} :
    store.put artifact = .ok store' ↔
      Minimized artifact.dump ∧ store' = store.set artifact.evidencePacketId artifact := by
  simp only [InMemorySdkEvidenceArtifactStore.put, Fallible.bind_eq_ok_iff]
  constructor
  · rintro ⟨_, hmin, hset⟩
    cases hset
    exact ⟨ensureSdkArtifactMinimized_eq_ok_iff.mp hmin, rfl⟩
  · rintro ⟨hmin, rfl⟩
    exact ⟨(), ensureSdkArtifactMinimized_eq_ok_iff.mpr hmin, rfl⟩

end TruePresenceESE.Evidence
