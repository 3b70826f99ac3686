import TruePresenceESE.Evidence.SdkArtifacts

/-! # What an artifact repeats of a packet

Over any predicate on keys and strings: an artifact satisfies it throughout
exactly when its fixed vocabulary does and the texts and free dictionaries it
copies from the packet do.
-/

namespace TruePresenceESE.Evidence

open Sdk Detectors

/-! ## Vocabulary -/

/-- The keys of an artifact that no table of the guard lists. -/
def artifactKeyNames : List String :=
  ["evidence_packet_id", "created_at", "feature_summaries", "detector_signals", "reason_codes",
    "likelihoods", "confidence", "recommended_action", "scoring_metadata", "reason_code",
    "severity", "contribution_target", "category", "explanation", "human_presence_likelihood",
    "automation_likelihood", "agentic_control_likelihood", "model", "aggregation",
    "enforcement_mode", "detector_signal_count", "reason_code_count"]

/-- The texts an artifact states on its own account. -/
def artifactTexts : List String :=
  ["low", "medium", "high", "human_presence", "automation", "agentic_control",
    "timing_plausibility", "typing_cadence", "input_method", "pointer_behavior",
    "session_continuity", "environment", "agentic_behavior", "external_provider", "allow",
    "observe", "soft_challenge", "step_up_auth", "manual_review", "challenge_only",
    "review_required", "enforce", scoringModelVersion, "category_aware_product_of_complements"]

section Contents

variable {K S : String → Prop}

theorem all_dumpOption_iff {α : Type} {dump : α → Json} {x : Option α} :
    (dumpOption dump x).All K S ↔ ∀ y, x = some y → (dump y).All K S := by
  cases x with
  | none => simp [dumpOption]
  | some y => simp [dumpOption]

@[simp] theorem all_dumpOption_dumpNat {x : Option ℕ} : (dumpOption dumpNat x).All K S :=
  all_dumpOption_iff.mpr fun _ _ => Json.all_num _

@[simp] theorem all_dumpOption_dumpNonneg {x : Option ℚ≥0} : (dumpOption dumpNonneg x).All K S :=
  all_dumpOption_iff.mpr fun _ _ => Json.all_num _

@[simp] theorem all_dumpUnit {q : UnitInterval} : (dumpUnit q).All K S := Json.all_num _

@[simp] theorem all_dumpOption_dumpUnit {x : Option UnitInterval} :
    (dumpOption dumpUnit x).All K S :=
  all_dumpOption_iff.mpr fun _ _ => all_dumpUnit

@[simp] theorem all_dumpOption_str_iff {x : Option String} :
    (dumpOption .str x).All K S ↔ ∀ text, x = some text → S text := by
  simp only [all_dumpOption_iff, Json.all_str_iff]

@[simp] theorem all_dumpOption_bool {x : Option Bool} : (dumpOption .bool x).All K S :=
  all_dumpOption_iff.mpr fun _ _ => Json.all_bool _

@[simp] theorem all_dumpOption_int {x : Option ℤ} :
    (dumpOption (fun n : ℤ => .num n) x).All K S :=
  all_dumpOption_iff.mpr fun _ _ => Json.all_num _

@[simp] theorem all_strs_iff {texts : List String} :
    (Json.arr (texts.map .str)).All K S ↔ ∀ text ∈ texts, S text := by
  simp [Json.all_arr_iff]

/-! ## Sections -/

theorem mem_compact {fields : List (String × Json)} {p : String × Json} (h : p ∈ compact fields) :
    p ∈ fields := (List.mem_filter.mp h).1

/-- Under allowed keys a null field changes nothing. -/
theorem all_compact_iff {fields : List (String × Json)} {allowlist : List String}
    (hnames : fields.map Prod.fst ⊆ allowlist) (hallowed : ∀ word ∈ allowlist, K word) :
    (Json.obj (compact fields)).All K S ↔ ∀ p ∈ fields, p.2.All K S := by
  rw [Json.all_obj_iff]
  constructor
  · rintro h ⟨name, value⟩ hp
    cases value with
    | null => exact Json.all_null
    | _ => exact (h _ (List.mem_filter.mpr ⟨hp, rfl⟩)).2
  · intro h p hp
    have hmem := mem_compact hp
    exact ⟨hallowed _ (hnames (List.mem_map_of_mem hmem)), h p hmem⟩

section Sections

variable (hwords : ∀ word ∈ allowedWords, K word)

include hwords

private theorem all_section_iff (name : String) {fields : List (String × Json)}
    {allowlist : List String} (hnames : fields.map Prod.fst ⊆ allowlist)
    (hlookup : sectionAllowlists.lookup name = some allowlist) :
    (Json.obj (compact fields)).All K S ↔ ∀ p ∈ fields, p.2.All K S :=
  all_compact_iff hnames fun word hw => hwords word (subset_allowedWords_of_lookup hlookup hw)

theorem all_typing (m : TypingCadenceFeatures) : (Json.obj (compact m.fields)).All K S := by
  rw [all_section_iff hwords "typing" m.names_subset rfl]
  simp [TypingCadenceFeatures.fields]

theorem all_pointer (m : PointerBehaviorFeatures) : (Json.obj (compact m.fields)).All K S := by
  rw [all_section_iff hwords "pointer" m.names_subset rfl]
  simp [PointerBehaviorFeatures.fields]

theorem all_agentic (m : AgenticBehaviorFeatures) : (Json.obj (compact m.fields)).All K S := by
  rw [all_section_iff hwords "agentic" m.names_subset rfl]
  simp [AgenticBehaviorFeatures.fields]

theorem all_sessionContinuity (m : SessionContinuityFeatures) :
    (Json.obj (compact m.fields)).All K S := by
  rw [all_section_iff hwords "session_continuity" m.names_subset rfl]
  simp [SessionContinuityFeatures.fields]

theorem all_environment (m : EnvironmentFeatures) : (Json.obj (compact m.fields)).All K S := by
  rw [all_section_iff hwords "environment" m.names_subset rfl]
  simp [EnvironmentFeatures.fields]

theorem all_challenge_iff (m : ChallengeInteractionFeatures) :
    (Json.obj (compact m.fields)).All K S ↔ ∀ text, m.challengeType = some text → S text := by
  rw [all_section_iff hwords "challenge" m.names_subset rfl]
  simp [ChallengeInteractionFeatures.fields]

theorem all_externalRisk_iff (m : ExternalRiskProviderFeatures) :
    (Json.obj (compact m.fields)).All K S ↔ S m.providerId ∧ ∀ code ∈ m.reasonCodes, S code := by
  rw [all_compact_iff m.names_subset fun word hw => hwords word (allowedExternalRiskFields_subset hw)]
  simp [ExternalRiskProviderFeatures.fields]

end Sections

/-! ## Feature summaries -/

theorem compactFields_get?_iff {packet : InteractionFeaturePacket} {name : String} {v : Json} :
    (Json.obj packet.compactFields).get? name = some v ↔
      (name, v) ∈ packet.fields compact ∧ v ≠ .null := by
  have hnodup : (packet.compactFields.map Prod.fst).Nodup :=
    (packet.names_nodup compact).sublist (List.filter_sublist.map Prod.fst)
  rw [Json.get?_obj_iff hnodup, InteractionFeaturePacket.compactFields, compact, List.mem_filter]
  refine and_congr_right fun _ => ?_
  cases v <;> simp

private theorem get?_bind_asStr {packet : InteractionFeaturePacket} {name : String}
    {text : Option String}
    (h : ∀ v, (name, v) ∈ packet.fields compact ↔ v = dumpOption .str text) :
    ((Json.obj packet.compactFields).get? name).bind asStr = text := by
  have hget : ∀ v, (Json.obj packet.compactFields).get? name = some v ↔
      v = dumpOption .str text ∧ v ≠ .null := fun v => by
    rw [compactFields_get?_iff, h v]
  cases text with
  | none =>
      cases hread : (Json.obj packet.compactFields).get? name with
      | none => rfl
      | some v => exact absurd ((hget v).mp hread).1 ((hget v).mp hread).2
  | some text =>
      rw [(hget (.str text)).mpr ⟨rfl, by simp⟩]
      rfl

theorem textOr_sessionId (packet : InteractionFeaturePacket) (fallback : String) :
    textOr (.obj packet.compactFields) "session_id" fallback = orText packet.sessionId fallback := by
  rw [textOr, get?_bind_asStr]
  simp [InteractionFeaturePacket.fields]

theorem textOr_tenantId (packet : InteractionFeaturePacket) (fallback : String) :
    textOr (.obj packet.compactFields) "tenant_id" fallback = orText packet.tenantId fallback := by
  rw [textOr, get?_bind_asStr]
  simp [InteractionFeaturePacket.fields]

theorem textOr_surface (packet : InteractionFeaturePacket) (fallback : String) :
    textOr (.obj packet.compactFields) "surface" fallback =
      orText (some packet.surface) fallback := by
  rw [textOr, get?_bind_asStr]
  simp [InteractionFeaturePacket.fields, dumpOption]

theorem all_of_isEmptySection {v : Json} (h : isEmptySection v = true) : v.All K S := by
  unfold isEmptySection at h
  split at h
  · exact Json.all_null
  · simp [Json.all_obj_iff]
  · simp [Json.all_arr_iff]
  · simp at h

/-- Dropped sections are empty, so the kept ones decide. -/
theorem all_featureSummaries_iff {packet : InteractionFeaturePacket}
    (hnames : ∀ name ∈ featureSummarySections, K name) :
    (Json.obj (featureSummaries (.obj packet.compactFields))).All K S ↔
      ∀ p ∈ packet.fields compact, p.1 ∈ featureSummarySections → p.2.All K S := by
  simp only [Json.all_obj_iff, featureSummaries, List.mem_filterMap]
  constructor
  · rintro h ⟨name, v⟩ hmem hname
    by_cases hempty : isEmptySection v = true
    · exact all_of_isEmptySection hempty
    · have hnull : v ≠ .null := by
        rintro rfl
        exact hempty rfl
      have hget := compactFields_get?_iff.mpr ⟨hmem, hnull⟩
      exact (h (name, v) ⟨name, hname, by simp [hget, hempty]⟩).2
  · rintro h p ⟨name, hname, hkept⟩
    cases hget : (Json.obj packet.compactFields).get? name with
    | none => simp [hget] at hkept
    | some v =>
        rw [hget] at hkept
        dsimp only at hkept
        split at hkept
        · simp at hkept
        · cases hkept
          exact ⟨hnames name hname, h _ (compactFields_get?_iff.mp hget).1 hname⟩

/-! ## Whole artifacts -/

/-- The parts of a packet an artifact repeats: four texts, the providers' texts
and the two free dictionaries. -/
structure RetainedAll (K S : String → Prop) (packet : InteractionFeaturePacket) : Prop where
  session : S (orText packet.sessionId "")
  tenant : S (orText packet.tenantId "default")
  surface : S (orText (some packet.surface) "web")
  challengeType : ∀ challenge, packet.challenge = some challenge →
    ∀ text, challenge.challengeType = some text → S text
  providers : ∀ provider ∈ packet.externalRiskProvider,
    S provider.providerId ∧ ∀ code ∈ provider.reasonCodes, S code
  pageContext : (Json.obj packet.pageContext).All K S
  metadata : (Json.obj packet.metadata).All K S

/-- What an artifact says besides the packet satisfies the predicates. -/
structure VocabularyAll (K S : String → Prop) (response : TruePresenceEvaluationResponse)
    (signals : List DetectorSignal) (utcNowIso : String) : Prop where
  words : ∀ word ∈ allowedWords, K word
  names : ∀ name ∈ artifactKeyNames, K name
  texts : ∀ text ∈ artifactTexts, S text
  evidencePacketId : S response.evidencePacketId
  createdAt : S utcNowIso
  reasonCodes : ∀ code ∈ response.reasonCodes, S code
  signals : ∀ s ∈ signals, S s.reasonCode ∧ S s.explanation

theorem VocabularyAll.all_obj_iff {response : TruePresenceEvaluationResponse}
    {signals : List DetectorSignal} {utcNowIso : String}
    (h : VocabularyAll K S response signals utcNowIso) {fields : List (String × Json)}
    (hnames : fields.map Prod.fst ⊆ artifactKeyNames ++ allowedWords) :
    (Json.obj fields).All K S ↔ ∀ p ∈ fields, p.2.All K S := by
  rw [Json.all_obj_iff]
  refine forall₂_congr fun p hp => and_iff_right ?_
  rcases List.mem_append.mp (hnames (List.mem_map_of_mem hp)) with hname | hword
  · exact h.names _ hname
  · exact h.words _ hword

theorem VocabularyAll.all_dumpSignal {response : TruePresenceEvaluationResponse}
    {signals : List DetectorSignal} {utcNowIso : String}
    (h : VocabularyAll K S response signals utcNowIso) {s : DetectorSignal} (hs : s ∈ signals) :
    (Json.obj (dumpSignal s)).All K S := by
  have hseverity : S (severityValue s.severity) := by
    cases s.severity <;> exact h.texts _ (by decide)
  have htarget : S (contributionTargetValue s.contributionTarget) := by
    cases s.contributionTarget <;> exact h.texts _ (by decide)
  have hcategory : S (signalCategoryValue s.category) := by
    cases s.category <;> exact h.texts _ (by decide)
  rw [h.all_obj_iff (by simp [dumpSignal, artifactKeyNames])]
  simp [dumpSignal, hseverity, htarget, hcategory, h.signals s hs]

/-- The summaries an artifact keeps of a packet. -/
theorem all_featureSummaries_iff_retained {packet : InteractionFeaturePacket}
    (hwords : ∀ word ∈ allowedWords, K word) :
    (Json.obj (featureSummaries (.obj packet.compactFields))).All K S ↔
      (∀ challenge, packet.challenge = some challenge →
        ∀ text, challenge.challengeType = some text → S text) ∧
      (∀ provider ∈ packet.externalRiskProvider,
        S provider.providerId ∧ ∀ code ∈ provider.reasonCodes, S code) ∧
      (Json.obj packet.pageContext).All K S ∧ (Json.obj packet.metadata).All K S := by
  have hsections : featureSummarySections ⊆ allowedPacketTopLevel := by decide
  rw [all_featureSummaries_iff fun name hname =>
    hwords name (allowedPacketTopLevel_subset (hsections hname))]
  simp only [InteractionFeaturePacket.fields, List.forall_mem_cons, all_dumpOption_iff,
    all_typing hwords, all_pointer hwords, all_agentic hwords, all_sessionContinuity hwords,
    all_environment hwords, all_challenge_iff hwords, Json.all_arr_iff, List.forall_mem_map,
    all_externalRisk_iff hwords]
  simp [featureSummarySections]
  tauto

theorem buildSdkEvidenceArtifact_all_iff {packet : InteractionFeaturePacket}
    {response : TruePresenceEvaluationResponse} {signals : List DetectorSignal}
    {enforcementMode : EnforcementMode} {utcNowIso : String}
    (h : VocabularyAll K S response signals utcNowIso) :
    (buildSdkEvidenceArtifact packet response signals enforcementMode utcNowIso).dump.All K S ↔
      RetainedAll K S packet := by
  have hsignals : (Json.arr (signals.map (Json.obj ∘ dumpSignal))).All K S := by
    simp only [Json.all_arr_iff, List.forall_mem_map]
    exact fun s hs => h.all_dumpSignal hs
  have hcodes : (Json.arr (response.reasonCodes.map .str)).All K S :=
    all_strs_iff.mpr h.reasonCodes
  have haction : S response.recommendedAction.value := by
    cases response.recommendedAction <;> exact h.texts _ (by decide)
  have hmode : S enforcementMode.value := by
    cases enforcementMode <;> exact h.texts _ (by decide)
  have hmodel : S scoringModelVersion := h.texts _ (by decide)
  have haggregation : S "category_aware_product_of_complements" := h.texts _ (by decide)
  have hlikelihoods : (Json.obj [("human_presence_likelihood",
      dumpUnit response.humanPresenceLikelihood),
      ("automation_likelihood", dumpUnit response.automationLikelihood),
      ("agentic_control_likelihood", dumpUnit response.agenticControlLikelihood)]).All K S := by
    rw [h.all_obj_iff (by simp [artifactKeyNames])]
    simp
  have hscoring : (Json.obj (buildSdkEvidenceArtifact packet response signals enforcementMode
      utcNowIso).scoringMetadata).All K S := by
    rw [h.all_obj_iff (by simp [buildSdkEvidenceArtifact, artifactKeyNames])]
    simp [buildSdkEvidenceArtifact, hmodel, haggregation, hmode, dumpNat]
  have hnames : ["evidence_packet_id", "session_id", "tenant_id", "surface", "created_at",
      "feature_summaries", "detector_signals", "reason_codes", "likelihoods", "confidence",
      "recommended_action", "scoring_metadata"] ⊆ artifactKeyNames ++ allowedWords := by decide
  have hdump : (buildSdkEvidenceArtifact packet response signals enforcementMode
      utcNowIso).dump.All K S ↔ S (orText packet.sessionId "") ∧
        S (orText packet.tenantId "default") ∧ S (orText (some packet.surface) "web") ∧
        (Json.obj (featureSummaries (.obj packet.compactFields))).All K S := by
    rw [SdkEvidenceArtifact.dump, h.all_obj_iff]
    · simp only [List.forall_mem_cons, Json.all_str_iff, all_dumpUnit, hscoring, true_and]
      simp [buildSdkEvidenceArtifact, textOr_sessionId, textOr_tenantId, textOr_surface, hsignals,
        hcodes, hlikelihoods, haction, h.evidencePacketId, h.createdAt]
    · exact hnames
  rw [hdump, all_featureSummaries_iff_retained h.words]
  constructor
  · rintro ⟨session, tenant, surface, challengeType, providers, pageContext, metadata⟩
    exact ⟨session, tenant, surface, challengeType, providers, pageContext, metadata⟩
  · rintro ⟨session, tenant, surface, challengeType, providers, pageContext, metadata⟩
    exact ⟨session, tenant, surface, challengeType, providers, pageContext, metadata⟩

end Contents

end TruePresenceESE.Evidence
