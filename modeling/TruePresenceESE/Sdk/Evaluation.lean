import TruePresenceESE.Evidence.ArtifactContents
import TruePresenceESE.Sdk.Admission

/-! # Evaluating a request

The entry point behind the evaluation route: a second guard pass over the
dumped request, the detectors, the score and the persisted artifact. Each part
can raise, so the whole is an `Except`.
-/

namespace TruePresenceESE.Sdk

open Detectors Scoring Evidence

/-! ## The entry point -/

/-- Hexadecimal digits and the punctuation of a timestamp. -/
def stampChars : List Char := "0123456789abcdef-:.+T".toList

/-- What an evaluation draws from outside: a fresh id and the clock. -/
structure Stamps where
  uuidHex : String
  utcNowIso : String
  uuidHex_chars : ∀ c ∈ uuidHex.toList, c ∈ stampChars
  utcNowIso_chars : ∀ c ∈ utcNowIso.toList, c ∈ stampChars

/-- `bursts * 0.06` converts the count to a float, which overflows from here on. -/
def burstCountOverflows (features : Option AgenticBehaviorFeatures) : Bool :=
  features.any fun f =>
    burstPauseReached f && decide (2 ^ 1024 - 2 ^ 970 ≤ f.actionBurstCount.getD 0)

def runDetectors (packet : InteractionFeaturePacket) : Except String (List DetectorSignal) :=
  if burstCountOverflows packet.agentic then .error "int too large to convert to float"
  else .ok (runHumanPlausibilityDetectors packet)

/-- The packet with the request's tenant and session where its own are missing. -/
def effectivePacket (request : TruePresenceEvaluationRequest) : InteractionFeaturePacket :=
  { request.featurePacket with
    tenantId := some (orText request.featurePacket.tenantId request.tenantId)
    sessionId := some (orText request.featurePacket.sessionId request.sessionId) }

def evaluateInteractionRequest (stamps : Stamps) (store : InMemorySdkEvidenceArtifactStore)
    (request : TruePresenceEvaluationRequest) :
    Except String (TruePresenceEvaluationResponse × InMemorySdkEvidenceArtifactStore) := do
  ensurePrivacySafePayload request.dump
  let packet := effectivePacket request
  let signals ← runDetectors packet
  let response := scoreInteraction signals packet request.enforcementMode stamps.uuidHex
  let (_, store) ← persistSdkEvidenceArtifact packet response signals request.enforcementMode
    stamps.utcNowIso store
  return (response, store)

/-- The response and the artifact of an evaluation that goes through. -/
def evaluationResponse (stamps : Stamps) (request : TruePresenceEvaluationRequest) :
    TruePresenceEvaluationResponse :=
  scoreInteraction (runHumanPlausibilityDetectors (effectivePacket request))
    (effectivePacket request) request.enforcementMode stamps.uuidHex

def evaluationArtifact (stamps : Stamps) (request : TruePresenceEvaluationRequest) :
    SdkEvidenceArtifact :=
  buildSdkEvidenceArtifact (effectivePacket request) (evaluationResponse stamps request)
    (runHumanPlausibilityDetectors (effectivePacket request)) request.enforcementMode
    stamps.utcNowIso

theorem evaluateInteractionRequest_eq_ok_iff {stamps : Stamps}
    {store store' : InMemorySdkEvidenceArtifactStore} {request : TruePresenceEvaluationRequest}
    {response : TruePresenceEvaluationResponse} :
    evaluateInteractionRequest stamps store request = .ok (response, store') ↔
      RequestClean request.dump ∧ burstCountOverflows request.featurePacket.agentic = false ∧
        Minimized (evaluationArtifact stamps request).dump ∧
        response = evaluationResponse stamps request ∧
        store' = store.set (evaluationResponse stamps request).evidencePacketId
          (evaluationArtifact stamps request) := by
  rw [← ensurePrivacySafePayload_eq_ok_iff]
  simp only [evaluateInteractionRequest, persistSdkEvidenceArtifact, Fallible.bind_eq_ok_iff,
    put_eq_ok_iff, runDetectors]
  constructor
  · rintro ⟨_, hguard, signals, hsignals, _, ⟨_, ⟨hmin, rfl⟩, hpersist⟩, hreturn⟩
    split at hsignals
    · simp at hsignals
    next hbursts =>
      cases hsignals
      cases hpersist
      cases hreturn
      exact ⟨hguard, Bool.eq_false_iff.mpr hbursts, hmin, rfl, rfl⟩
  · rintro ⟨hguard, hbursts, hmin, rfl, rfl⟩
    have hnot : ¬burstCountOverflows (effectivePacket request).agentic = true :=
      Bool.eq_false_iff.mp hbursts
    exact ⟨(), hguard, _, if_neg hnot, _, ⟨_, ⟨hmin, rfl⟩, rfl⟩, rfl⟩

/-! ## The second guard pass -/

/-- A value without fields, as every dumped scalar is. -/
def FieldFree (value : Json) : Prop := value.All (fun _ => False) fun _ => True

theorem FieldFree.globalClean {value : Json} (h : FieldFree value) : GlobalClean value :=
  fun p hp => (h.1 p.1 (Json.mem_keys.mpr ⟨p.2, hp⟩)).elim

/-- A dumped model with scalar fields passes the scanner of its section. -/
theorem sectionClean_of_fieldFree {fields : List (String × Json)} {allowlist : List String}
    (hnames : fields.map Prod.fst ⊆ allowlist) (hallowed : allowlist ⊆ allowedWords)
    (hscalars : ∀ p ∈ fields, FieldFree p.2) : SectionClean allowlist (.obj fields) := by
  intro _ heq p hp
  cases heq
  have hname := hnames (List.mem_map_of_mem hp)
  rw [normalizeKey_of_allowed (hallowed hname)]
  exact ⟨hname, (hscalars p hp).globalClean⟩

theorem packetFieldClean_section {M : Type} (name : String) (x : Option M)
    {fields : M → List (String × Json)} {allowlist : List String}
    (hlookup : sectionAllowlists.lookup name = some allowlist)
    (hnames : ∀ m, (fields m).map Prod.fst ⊆ allowlist)
    (hscalars : ∀ m, ∀ p ∈ fields m, FieldFree p.2) :
    PacketFieldClean name (dumpOption (fun m => .obj (fields m)) x) := by
  rw [PacketFieldClean, hlookup]
  cases x with
  | none => simp [SectionClean, dumpOption]
  | some m =>
      exact sectionClean_of_fieldFree (hnames m) (subset_allowedWords_of_lookup hlookup) (hscalars m)

/-- A dumped packet is clean when its free dictionaries are. -/
theorem packetClean_dump {packet : InteractionFeaturePacket}
    (hpage : SectionClean allowedPageContextFields (.obj packet.pageContext))
    (hmetadata : MetadataClean (.obj packet.metadata)) : PacketClean packet.dump := by
  have hproviders : ExternalRiskClean
      (.arr (packet.externalRiskProvider.map fun s => .obj (id s.fields))) := by
    intro _ heq item hi
    cases heq
    obtain ⟨provider, -, rfl⟩ := List.mem_map.mp hi
    apply sectionClean_of_fieldFree provider.names_subset allowedExternalRiskFields_subset
    simp [ExternalRiskProviderFeatures.fields, FieldFree]
  have hfields : ∀ p ∈ packet.fields id, PacketFieldClean p.1 p.2 := by
    have hscalar : ∀ {value : Json}, FieldFree value → GlobalClean value := FieldFree.globalClean
    simp only [InteractionFeaturePacket.fields, List.forall_mem_cons, List.not_mem_nil,
      IsEmpty.forall_iff, implies_true, and_true]
    refine ⟨hscalar (by simp [FieldFree]), hscalar (by simp [FieldFree]),
      hscalar (by simp [FieldFree]), hscalar (by simp [FieldFree]), hpage, ?_, ?_, ?_, ?_, ?_, ?_,
      hproviders, hmetadata⟩
    · exact packetFieldClean_section "typing" packet.typing rfl (fun m => m.names_subset)
        (by simp [TypingCadenceFeatures.fields, FieldFree])
    · exact packetFieldClean_section "pointer" packet.pointer rfl (fun m => m.names_subset)
        (by simp [PointerBehaviorFeatures.fields, FieldFree])
    · exact packetFieldClean_section "challenge" packet.challenge rfl (fun m => m.names_subset)
        (by simp [ChallengeInteractionFeatures.fields, FieldFree])
    · exact packetFieldClean_section "agentic" packet.agentic rfl (fun m => m.names_subset)
        (by simp [AgenticBehaviorFeatures.fields, FieldFree])
    · exact packetFieldClean_section "session_continuity" packet.sessionContinuity rfl
        (fun m => m.names_subset) (by simp [SessionContinuityFeatures.fields, FieldFree])
    · exact packetFieldClean_section "environment" packet.environment rfl
        (fun m => m.names_subset) (by simp [EnvironmentFeatures.fields, FieldFree])
  intro _ heq p hp
  cases heq
  have hname := packet.names_subset id (List.mem_map_of_mem hp)
  rw [normalizeKey_of_allowed (allowedPacketTopLevel_subset hname)]
  exact ⟨hname, hfields p hp⟩

theorem requestClean_dump {request : TruePresenceEvaluationRequest}
    (hpage : SectionClean allowedPageContextFields (.obj request.featurePacket.pageContext))
    (hmetadata : MetadataClean (.obj request.featurePacket.metadata)) :
    RequestClean request.dump := by
  have hclean : ∀ name ∈ allowedRequestTopLevel, ∀ value, RequestFieldClean name value →
      normalizeKey name ∈ allowedRequestTopLevel ∧ RequestFieldClean (normalizeKey name) value := by
    intro name hname value hvalue
    rw [normalizeKey_of_allowed (allowedRequestTopLevel_subset hname)]
    exact ⟨hname, hvalue⟩
  simp only [TruePresenceEvaluationRequest.dump, RequestClean, List.forall_mem_cons,
    List.not_mem_nil, IsEmpty.forall_iff, implies_true, and_true]
  exact ⟨hclean _ (by decide) _ ((show FieldFree _ by simp [FieldFree]).globalClean),
    hclean _ (by decide) _ ((show FieldFree _ by simp [FieldFree]).globalClean),
    hclean _ (by decide) _ ((show FieldFree _ by simp [FieldFree]).globalClean),
    hclean _ (by decide) _ (packetClean_dump hpage hmetadata)⟩

/-! ## Texts without fragments -/

/-- Every forbidden fragment has one of these letters. -/
def fragmentLetters : List Char := "hikmry".toList

theorem carriesFragment_of_letters {s : String}
    (h : ∀ c ∈ s.toList, ∀ d ∈ Text.lowerChar c, d ∉ fragmentLetters) :
    carriesFragment s = false := by
  have hletter : (forbiddenArtifactValueFragments.all fun fragment =>
      fragment.toList.any fragmentLetters.contains) = true := by decide +kernel
  rw [carriesFragment, List.any_eq_false]
  intro fragment hfragment
  obtain ⟨c, hin, hc⟩ := List.any_eq_true.mp (List.all_eq_true.mp hletter fragment hfragment)
  rw [List.contains_iff_mem] at hc
  rw [Bool.not_eq_true, Text.contains_eq_false hin]
  intro hmem
  obtain ⟨d, hd, hreplace⟩ := List.mem_map.mp hmem
  obtain ⟨e, he, hlower⟩ := Text.mem_lower.mp hd
  dsimp only at hreplace
  split at hreplace
  · rw [← hreplace] at hc
    exact absurd hc (by decide)
  · rw [← hreplace] at hc
    exact h e he d hlower hc

theorem carriesFragment_of_stamp {s : String} (h : ∀ c ∈ s.toList, c ∈ 'p' :: '_' :: stampChars) :
    carriesFragment s = false := by
  have hchars : (('p' :: '_' :: stampChars).all fun c =>
      (Text.lowerChar c).all fun d => !fragmentLetters.contains d) = true := by decide +kernel
  apply carriesFragment_of_letters
  intro c hc d hd
  simpa using List.all_eq_true.mp (List.all_eq_true.mp hchars c (h c hc)) d hd

/-- Every text a detector puts into a signal. -/
def detectorTexts : List String :=
  ["implausible_read_response_time", "uniform_typing_cadence", "paste_or_instant_input",
    "zero_correction_pattern", "model_thinking_cadence", "burst_pause_action_loop",
    "large_instant_input_delta", "low_exploratory_noise", "structured_retry_pattern",
    "implausible_task_efficiency",
    "Response latency was faster than the expected human read-and-respond window.",
    "Inter-key interval variance is effectively zero.",
    "Typing cadence is unusually uniform for sustained human input.",
    "Fast input with very low cadence variation is automation-consistent.",
    "Input timing suggests pasted, injected, or immediately populated content.",
    "No corrections combined with fast, low-variance input increases automation consistency.",
    "No corrections were observed; this is only weak evidence by itself.",
    "Action bursts are separated by regular pause intervals consistent with plan/act loops.",
    "The session alternates between compact action bursts and pauses.",
    "Input length changed by a large aggregate delta in one event without storing content.",
    "The interaction path is unusually direct with little exploratory activity.",
    "Retry and validation-repair counts follow a structured correction pattern.",
    "The task path is highly direct with very low idle-to-action and submit latency."]

/-- Both tables spelled out, the fragments are looked up character by character. -/
theorem carriesFragment_of_spelled {texts : List String} {fragments spellings : List (List Char)}
    (hfragments : Text.Spelled forbiddenArtifactValueFragments fragments)
    (htexts : Text.Spelled texts spellings)
    (hsearch : (spellings.all fun cs => fragments.all fun fragment =>
      !Text.contains fragment (Text.replace (· = '-') '_' (Text.lower cs))) = true) :
    ∀ text ∈ texts, carriesFragment text = false := by
  intro text htext
  have htext' := htexts.all hsearch text htext
  rw [carriesFragment, List.any_eq_false]
  intro fragment hfragment
  simpa using hfragments.all htext' fragment hfragment

theorem carriesFragment_artifactTexts : ∀ text ∈ artifactTexts, carriesFragment text = false := by
  apply carriesFragment_of_spelled
  · repeat' constructor
  · repeat' constructor
  · decide +kernel

theorem carriesFragment_detectorTexts : ∀ text ∈ detectorTexts, carriesFragment text = false := by
  apply carriesFragment_of_spelled
  · repeat' constructor
  · repeat' constructor
  · decide +kernel

def SpeaksDetector (signals : List DetectorSignal) : Prop :=
  ∀ s ∈ signals, s.reasonCode ∈ detectorTexts ∧ s.explanation ∈ detectorTexts

theorem SpeaksDetector.nil : SpeaksDetector [] := by simp [SpeaksDetector]

theorem SpeaksDetector.singleton {reasonCode explanation : String} {severity : Severity}
    {confidence : ℚ} {target : ContributionTarget} {category : SignalCategory}
    (hcode : reasonCode ∈ detectorTexts) (hexplanation : explanation ∈ detectorTexts) :
    SpeaksDetector [signal reasonCode severity confidence target explanation category] := by
  simp [SpeaksDetector, signal, hcode, hexplanation]

theorem SpeaksDetector.append {xs ys : List DetectorSignal} (hx : SpeaksDetector xs)
    (hy : SpeaksDetector ys) : SpeaksDetector (xs ++ ys) := by
  intro s hs
  exact (List.mem_append.mp hs).elim (hx s) (hy s)

theorem speaksDetector_run (packet : InteractionFeaturePacket) :
    SpeaksDetector (runHumanPlausibilityDetectors packet) := by
  unfold runHumanPlausibilityDetectors runAgenticControlDetectors
  refine .append (.append (.append (.append ?_ ?_) ?_) ?_)
    (.append (.append (.append (.append (.append ?_ ?_) ?_) ?_) ?_) ?_)
  all_goals
    first
      | unfold implausibleReadResponseTime
      | unfold uniformTypingCadence
      | unfold pasteOrInstantInput
      | unfold zeroCorrectionPattern
      | unfold modelThinkingCadence
      | unfold burstPauseActionLoop
      | unfold largeInstantInputDelta
      | unfold lowExploratoryNoise
      | unfold structuredRetryPattern
      | unfold implausibleTaskEfficiency
    repeat' (first | split | dsimp only)
    all_goals first
      | exact .nil
      | exact .singleton (by decide) (by decide)

/-! ## Requests the evaluation answers -/

/-- The artifact's own vocabulary passes its filter. -/
theorem vocabulary_minimized (stamps : Stamps) (request : TruePresenceEvaluationRequest) :
    VocabularyAll (fun key => isForbiddenKey key = false) (fun s => carriesFragment s = false)
      (evaluationResponse stamps request)
      (runHumanPlausibilityDetectors (effectivePacket request)) stamps.utcNowIso := by
  have hnames : (artifactKeyNames.all fun name => !isForbiddenKey name) = true := by
    decide +kernel
  have hwords : (allowedWords.all fun word => !forbiddenArtifactKeyNames.contains word) = true := by
    decide +kernel
  have hspeaks := speaksDetector_run (effectivePacket request)
  have hsignals : ∀ s ∈ runHumanPlausibilityDetectors (effectivePacket request),
      carriesFragment s.reasonCode = false ∧ carriesFragment s.explanation = false := fun s hs =>
    ⟨carriesFragment_detectorTexts _ (hspeaks s hs).1,
      carriesFragment_detectorTexts _ (hspeaks s hs).2⟩
  constructor
  case words =>
    intro word hw
    rw [isForbiddenKey, normalizeKey_of_allowed hw]
    simpa using List.all_eq_true.mp hwords word hw
  case names =>
    intro name hname
    simpa using List.all_eq_true.mp hnames name hname
  case texts => exact carriesFragment_artifactTexts
  case evidencePacketId =>
    apply carriesFragment_of_stamp
    intro c hc
    simp only [evaluationResponse, scoreInteraction, String.toList_append, List.mem_append] at hc
    have hallowed : ("ep_".toList.all ('p' :: '_' :: stampChars).contains) = true := by
      decide +kernel
    rcases hc with hc | hc
    · simpa using List.all_eq_true.mp hallowed c hc
    · simp [stamps.uuidHex_chars c hc]
  case createdAt =>
    apply carriesFragment_of_stamp
    intro c hc
    simp [stamps.utcNowIso_chars c hc]
  case reasonCodes =>
    intro code hcode
    simp only [evaluationResponse, scoreInteraction, reasonCodes, Finset.mem_sort,
      List.mem_toFinset, List.mem_map] at hcode
    obtain ⟨s, hs, rfl⟩ := hcode
    exact (hsignals s hs).1
  case signals => exact hsignals

/-- What a request must avoid to be answered: a burst count no float holds, and
forbidden keys and fragments in the parts of it the artifact repeats. -/
structure Minimizable (request : TruePresenceEvaluationRequest) : Prop where
  bursts : burstCountOverflows request.featurePacket.agentic = false
  session : carriesFragment (orText request.featurePacket.sessionId request.sessionId) = false
  tenant : carriesFragment (orText request.featurePacket.tenantId request.tenantId) = false
  surface : carriesFragment request.featurePacket.surface = false
  challengeType : ∀ challenge, request.featurePacket.challenge = some challenge →
    ∀ text, challenge.challengeType = some text → carriesFragment text = false
  providers : ∀ provider ∈ request.featurePacket.externalRiskProvider,
    carriesFragment provider.providerId = false ∧
      ∀ code ∈ provider.reasonCodes, carriesFragment code = false
  pageContext : Minimized (.obj request.featurePacket.pageContext)
  metadata : Minimized (.obj request.featurePacket.metadata)

theorem carriesFragment_orText_iff {text fallback : String}
    (h : carriesFragment fallback = false) :
    carriesFragment (orText (some text) fallback) = false ↔ carriesFragment text = false := by
  unfold orText
  dsimp only
  split
  next hempty =>
    subst hempty
    exact iff_of_true h (carriesFragment_of_letters (by simp))
  next => rfl

theorem minimized_evaluationArtifact_iff (stamps : Stamps)
    (request : TruePresenceEvaluationRequest) :
    burstCountOverflows request.featurePacket.agentic = false ∧
      Minimized (evaluationArtifact stamps request).dump ↔ Minimizable request := by
  have hdefault : carriesFragment "default" = false := by decide +kernel
  have hweb : carriesFragment "web" = false := by decide +kernel
  have hempty : carriesFragment "" = false := carriesFragment_of_letters (by simp)
  rw [Minimized, evaluationArtifact,
    buildSdkEvidenceArtifact_all_iff (vocabulary_minimized stamps request)]
  constructor
  · rintro ⟨bursts, session, tenant, surface, challengeType, providers, pageContext, metadata⟩
    exact ⟨bursts, (carriesFragment_orText_iff hempty).mp session,
      (carriesFragment_orText_iff hdefault).mp tenant, (carriesFragment_orText_iff hweb).mp surface,
      challengeType, providers, pageContext, metadata⟩
  · rintro ⟨bursts, session, tenant, surface, challengeType, providers, pageContext, metadata⟩
    exact ⟨bursts, (carriesFragment_orText_iff hempty).mpr session,
      (carriesFragment_orText_iff hdefault).mpr tenant,
      (carriesFragment_orText_iff hweb).mpr surface, challengeType, providers, pageContext, metadata⟩

/-- On an admitted request the second guard pass never raises; the overflow and
the artifact filter decide. -/
theorem evaluateInteractionRequest_ok_iff {c : Coercions} {payload : Json}
    {request : TruePresenceEvaluationRequest} (hparse : c.parseRequest payload = some request)
    (stamps : Stamps) (store : InMemorySdkEvidenceArtifactStore) :
    (∃ result, evaluateInteractionRequest stamps store request = .ok result) ↔
      Minimizable request := by
  obtain ⟨fields, -, rfl, -⟩ := parseRequest_eq_some hparse
  obtain ⟨packet, -, hpacket⟩ := parseRequest_packet hparse
  obtain ⟨hpage, hmetadata⟩ := parsePacket_clean hpacket
  rw [← minimized_evaluationArtifact_iff stamps]
  constructor
  · rintro ⟨⟨response, store'⟩, hresult⟩
    obtain ⟨-, hbursts, hmin, -⟩ := evaluateInteractionRequest_eq_ok_iff.mp hresult
    exact ⟨hbursts, hmin⟩
  · rintro ⟨hbursts, hmin⟩
    exact ⟨_, evaluateInteractionRequest_eq_ok_iff.mpr
      ⟨requestClean_dump hpage hmetadata, hbursts, hmin, rfl, rfl⟩⟩

/-! ## Concrete payloads -/

/-- Numbers read as numbers and truth values as truth values. -/
def strictCoercions : Coercions where
  float
    | .num q => some q
    | _ => none
  int
    | .num q => if q.den = 1 then some q.num else none
    | _ => none
  bool
    | .bool b => some b
    | _ => none

def epochStamps : Stamps where
  uuidHex := "00000000000000000000000000000000"
  utcNowIso := "1970-01-01T00:00:00+00:00"
  uuidHex_chars := by
    have hall : ("00000000000000000000000000000000".toList.all stampChars.contains) = true := by
      decide +kernel
    intro c hc
    simpa using List.all_eq_true.mp hall c hc
  utcNowIso_chars := by
    have hall : ("1970-01-01T00:00:00+00:00".toList.all stampChars.contains) = true := by
      decide +kernel
    intro c hc
    simpa using List.all_eq_true.mp hall c hc

def minimalPayload : Json := .obj [("session_id", .str "s"), ("feature_packet", .obj [])]

def minimalRequest : TruePresenceEvaluationRequest where
  sessionId := "s"
  featurePacket := {}

theorem minimalPayload_admitted : ensurePrivacySafePayload minimalPayload = .ok () := by
  rfl

theorem minimalPayload_parse :
    strictCoercions.parseRequest minimalPayload = some minimalRequest := by
  rfl

/-! ## The evaluation on admitted payloads -/

/-- The evaluation answers an admitted request exactly when it is minimizable. -/
theorem evaluateInteractionRequest_answers_iff (c : Coercions) (stamps : Stamps)
    (store : InMemorySdkEvidenceArtifactStore) (payload : Json)
    (request : TruePresenceEvaluationRequest)
    (_hguard : ensurePrivacySafePayload payload = .ok ())
    (hparse : c.parseRequest payload = some request) :
    (∃ result, evaluateInteractionRequest stamps store request = .ok result) ↔
      Minimizable request :=
  evaluateInteractionRequest_ok_iff hparse stamps store

theorem evaluateInteractionRequest_answers_minimal :
    (∃ result, evaluateInteractionRequest epochStamps Dict.empty minimalRequest = .ok result) ↔
      Minimizable minimalRequest :=
  evaluateInteractionRequest_answers_iff strictCoercions epochStamps Dict.empty minimalPayload
    minimalRequest minimalPayload_admitted minimalPayload_parse

def thumbnailPathPayload : Json :=
  .obj [("session_id", .str "s"),
    ("feature_packet", .obj [("page_context", .obj [("pathname", .str "/thumbnail")])])]

/-- The artifact filter reads a page path the guard never looked at. -/
theorem evaluateInteractionRequest_rejects_path :
    ensurePrivacySafePayload thumbnailPathPayload = .ok () ∧
      ∃ request, strictCoercions.parseRequest thumbnailPathPayload = some request ∧
        ∀ stamps store result, evaluateInteractionRequest stamps store request ≠ .ok result := by
  have hparse : strictCoercions.parseRequest thumbnailPathPayload =
      some ⟨"s", "default", .observe, { pageContext := [("pathname", .str "/thumbnail")] }⟩ := rfl
  refine ⟨rfl, _, hparse, fun stamps store result hresult => ?_⟩
  have hmin := ((evaluateInteractionRequest_ok_iff hparse stamps store).mp ⟨result, hresult⟩).pageContext
  have hpath : carriesFragment "/thumbnail" = false := hmin.2 "/thumbnail" (by simp)
  exact absurd hpath (by decide +kernel)

/-! ## Raw keys in persisted artifacts -/

theorem keysClean_iff_all {value : Json} :
    KeysClean value ↔ value.All (fun key => isRawContentKey key = false) fun _ => True := by
  simp [KeysClean, Json.All]

/-- The artifact's own vocabulary has no raw key. -/
theorem vocabulary_keysClean (stamps : Stamps) (request : TruePresenceEvaluationRequest) :
    VocabularyAll (fun key => isRawContentKey key = false) (fun _ => True)
      (evaluationResponse stamps request)
      (runHumanPlausibilityDetectors (effectivePacket request)) stamps.utcNowIso := by
  have hnames : (artifactKeyNames.all fun name => !isRawContentKey name) = true := by
    decide +kernel
  constructor
  case words =>
    intro word hw
    apply isRawContentKey_of_allowed
    rwa [normalizeKey_of_allowed hw]
  case names =>
    intro name hname
    simpa using List.all_eq_true.mp hnames name hname
  all_goals simp

theorem keysClean_evaluationArtifact {request : TruePresenceEvaluationRequest}
    (hpage : KeysClean (.obj request.featurePacket.pageContext))
    (hmetadata : KeysClean (.obj request.featurePacket.metadata)) (stamps : Stamps) :
    KeysClean (evaluationArtifact stamps request).dump := by
  rw [keysClean_iff_all] at hpage hmetadata ⊢
  rw [evaluationArtifact, buildSdkEvidenceArtifact_all_iff (vocabulary_keysClean stamps request)]
  exact ⟨trivial, trivial, trivial, by simp, by simp, hpage, hmetadata⟩

/-- An admitted payload and the artifact persisted for it are free of raw keys
unless its typing summary is a list that has one. -/
theorem admitted_keysClean_iff (c : Coercions) (payload : Json)
    (request : TruePresenceEvaluationRequest)
    (_hguard : ensurePrivacySafePayload payload = .ok ())
    (hparse : c.parseRequest payload = some request) :
    (KeysClean payload ∧ ∀ stamps store response store',
        evaluateInteractionRequest stamps store request = .ok (response, store') →
        ∃ artifact, store'.get? response.evidencePacketId = some artifact ∧
          KeysClean artifact.dump) ↔
      ¬LeakyPayload payload := by
  rw [← parseRequest_keysClean_iff hparse]
  refine and_iff_left_of_imp fun hkeys stamps store response store' hresult => ?_
  obtain ⟨-, -, -, rfl, rfl⟩ := evaluateInteractionRequest_eq_ok_iff.mp hresult
  refine ⟨_, Dict.get?_set_self _ _ _, ?_⟩
  obtain ⟨fields, -, rfl, -⟩ := parseRequest_eq_some hparse
  obtain ⟨packet, hmem, hpacket⟩ := parseRequest_packet hparse
  have hbelow := (keysClean_obj_iff.mp hkeys _ hmem).2
  exact keysClean_evaluationArtifact (fun key hk => hbelow key (parsePacket_keys hpacket (.inl hk)))
    (fun key hk => hbelow key (parsePacket_keys hpacket (.inr hk))) stamps

theorem admitted_keysClean_minimal :
    (KeysClean minimalPayload ∧ ∀ stamps store response store',
        evaluateInteractionRequest stamps store minimalRequest = .ok (response, store') →
        ∃ artifact, store'.get? response.evidencePacketId = some artifact ∧
          KeysClean artifact.dump) ↔
      ¬LeakyPayload minimalPayload :=
  admitted_keysClean_iff strictCoercions minimalPayload minimalRequest minimalPayload_admitted
    minimalPayload_parse

def listSummaryPayload : Json :=
  .obj [("session_id", .str "s"),
    ("feature_packet", .obj [("metadata", .obj [("typing_summary", .arr [.obj [("text", .str "hi")]])])])]

/-- A typing summary given as a list passes every scanner, raw keys and all. -/
theorem listSummary_keeps_raw_key :
    ensurePrivacySafePayload listSummaryPayload = .ok () ∧
      (strictCoercions.parseRequest listSummaryPayload).isSome = true ∧
      ∃ key ∈ listSummaryPayload.keys, isRawContentKey key = true := by
  refine ⟨rfl, rfl, "text", by simp [listSummaryPayload], ?_⟩
  decide +kernel

end TruePresenceESE.Sdk
