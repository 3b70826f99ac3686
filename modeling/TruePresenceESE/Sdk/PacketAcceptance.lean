import TruePresenceESE.Sdk.Admission
import TruePresenceESE.Sdk.BrowserPacket
import TruePresenceESE.Sdk.TypingTimings

/-! # The server that reads the packet of a page

The request parser of the server refuses the packet for a few values only. Those are named
by the events of the page and the settings of the integrator.
-/

namespace TruePresenceESE.Sdk.BrowserSdk

open Browser

open Typing (numberOrNull)

/-! ## The server reads it -/

/-- How the parsing library reads JSON numbers and truth values. -/
structure LawfulCoercions (c : Coercions) : Prop where
  float : ∀ q, c.float (.num q) = some q
  int : ∀ n : ℤ, c.int (.num n) = some n
  bool : ∀ b, c.bool (.bool b) = some b

/-- A model parses where each of its fields does, whatever was read before. -/
theorem parseModel_isSome_iff {M : Type} {setField : M → String → Json → Option M}
    {accepts : String → Json → Prop}
    (haccepts : ∀ m name value, (setField m name value).isSome = true ↔ accepts name value)
    (defaults : M) (fields : List (String × Json)) :
    (parseModel setField defaults (.obj fields)).isSome = true ↔
      ∀ p ∈ fields, accepts p.1 p.2 := by
  rw [parseModel]
  induction fields generalizing defaults with
  | nil => simp
  | cons p rest ih =>
      obtain ⟨name, value⟩ := p
      rw [List.foldlM_cons, List.forall_mem_cons, ← haccepts defaults]
      cases hset : setField defaults name value with
      | none => simp
      | some m => simpa using ih m

section
variable {c : Coercions} (hc : LawfulCoercions c)
include hc

theorem nonneg_isSome_iff (number : Option ℚ) :
    (orNone c.nonneg (numberOrNull number)).isSome = true ↔ ∀ q ∈ number, 0 ≤ q := by
  cases number with
  | none => simp [numberOrNull, orNone]
  | some q =>
      have hread : (c.nonneg (.num q)).isSome = true ↔ 0 ≤ q := by
        rw [Coercions.nonneg, hc.float, Option.bind_some]
        split
        next hq => exact ⟨fun _ => hq, fun _ => rfl⟩
        next hq => exact ⟨fun h => absurd h Bool.false_ne_true, fun h => absurd h hq⟩
      simpa [numberOrNull, orNone] using hread

theorem unit_isSome_iff (number : Option ℚ) :
    (orNone c.unit (numberOrNull number)).isSome = true ↔ ∀ q ∈ number, 0 ≤ q ∧ q ≤ 1 := by
  cases number with
  | none => simp [numberOrNull, orNone]
  | some q =>
      have hread : (c.unit (.num q)).isSome = true ↔ 0 ≤ q ∧ q ≤ 1 := by
        rw [Coercions.unit, hc.float, Option.bind_some]
        split
        next hq => exact ⟨fun _ => hq, fun _ => rfl⟩
        next hq => exact ⟨fun h => absurd h Bool.false_ne_true, fun h => absurd h hq⟩
      simpa [numberOrNull, orNone] using hread

theorem count_isSome_iff (n : Option ℤ) :
    (orNone c.count (intOrNull n)).isSome = true ↔ ∀ k ∈ n, 0 ≤ k := by
  cases n with
  | none => simp [intOrNull, orNone]
  | some k => by_cases hk : 0 ≤ k <;> simp [intOrNull, orNone, Coercions.count, hc.int, hk]

theorem count_isSome (n : ℕ) : (orNone c.count (.num n)).isSome = true := by
  have h := (count_isSome_iff hc (some (n : ℤ))).mpr (by simp)
  simpa [intOrNull] using h

theorem bool_isSome (b : Bool) : (orNone c.bool (.bool b)).isSome = true := by
  simp [orNone, hc.bool]

end

/-! ## Sections -/

/-- Pruning takes away what is null, so it keeps a condition that null meets. -/
theorem forall_pruneFields_iff {fields : List (String × Json)} (accepts : String → Json → Prop)
    (hproto : ∀ p ∈ fields, p.1 ≠ "__proto__")
    (hnull : ∀ p ∈ fields, p.2 = .null → accepts p.1 .null) :
    (∀ p ∈ pruneFields fields, accepts p.1 p.2) ↔ ∀ p ∈ fields, accepts p.1 (pruneUndefined p.2) := by
  constructor
  · intro h p hp
    obtain ⟨name, value⟩ := p
    by_cases hvalue : value = .null
    · have htaken := hnull _ hp hvalue
      rwa [hvalue]
    · exact h (name, pruneUndefined value)
        (mem_pruneFields.mpr ⟨value, hp, hvalue, hproto _ hp, rfl⟩)
  · intro h p hp
    obtain ⟨name, value⟩ := p
    obtain ⟨child, hmem, -, -, rfl⟩ := mem_pruneFields.mp hp
    exact h _ hmem

/-- A flat section parses where each of its fields does. -/
theorem section_isSome_iff {M : Type} {setField : M → String → Json → Option M} {defaults : M}
    {allowlist : List String} {fields : List (String × Json)}
    (hsame : ∀ m name value, (setField m name value).isSome = true ↔
      (setField defaults name value).isSome = true)
    (hflat : Flat allowlist fields) (hallowed : allowlist ⊆ allowedWords)
    (hnull : ∀ name ∈ allowlist, (setField defaults name .null).isSome = true) :
    (parseModel setField defaults (.obj (pruneFields fields))).isSome = true ↔
      ∀ p ∈ fields, (setField defaults p.1 p.2).isSome = true := by
  rw [parseModel_isSome_iff hsame]
  rw [forall_pruneFields_iff (fun name value => (setField defaults name value).isSome = true)
    (fun p hp => not_proto_of_allowed (hallowed (hflat p hp).1))
    (fun p hp _ => hnull _ (hflat p hp).1)]
  apply forall₂_congr
  intro p hp
  rw [prune_of_isScalar (hflat p hp).2]

/-- Whether a field of a section is taken does not depend on the fields before it. -/
theorem set_isSome_congr (c : Coercions) (name : String) (value : Json) :
    (∀ m, (c.setTyping m name value).isSome = true ↔ (c.setTyping {} name value).isSome = true) ∧
      (∀ m, (c.setPointer m name value).isSome = true ↔
        (c.setPointer {} name value).isSome = true) ∧
      (∀ m, (c.setChallenge m name value).isSome = true ↔
        (c.setChallenge {} name value).isSome = true) ∧
      (∀ m, (c.setAgentic m name value).isSome = true ↔
        (c.setAgentic {} name value).isSome = true) ∧
      (∀ m, (c.setSessionContinuity m name value).isSome = true ↔
        (c.setSessionContinuity {} name value).isSome = true) ∧
      ∀ m, (c.setEnvironment m name value).isSome = true ↔
        (c.setEnvironment {} name value).isSome = true := by
  refine ⟨fun m => ?_, fun m => ?_, fun m => ?_, fun m => ?_, fun m => ?_, fun m => ?_⟩
  · unfold Coercions.setTyping
    split <;> simp only [Option.isSome_map]
  · unfold Coercions.setPointer
    split <;> simp only [Option.isSome_map]
  · unfold Coercions.setChallenge
    split <;> simp only [Option.isSome_map]
  · unfold Coercions.setAgentic
    split <;> simp only [Option.isSome_map]
  · unfold Coercions.setSessionContinuity
    split <;> simp only [Option.isSome_map]
  · unfold Coercions.setEnvironment
    split <;> simp only [Option.isSome_map]

section
variable {c : Coercions} (hc : LawfulCoercions c)
include hc

theorem num_nonneg_iff (q : ℚ) : (orNone c.nonneg (.num q)).isSome = true ↔ 0 ≤ q := by
  simpa [numberOrNull] using nonneg_isSome_iff hc (some q)

theorem num_unit_iff (q : ℚ) : (orNone c.unit (.num q)).isSome = true ↔ 0 ≤ q ∧ q ≤ 1 := by
  simpa [numberOrNull] using unit_isSome_iff hc (some q)

theorem typing_accepted_iff (typing : Typing.TypingSection) :
    (parseModel c.setTyping {} (.obj (pruneFields typing.fields))).isSome = true ↔
      (∀ q ∈ typing.meanInterKeyIntervalMs, 0 ≤ q) ∧ 0 ≤ typing.interKeyIntervalStddevMs ∧
      (∀ q ∈ typing.charactersPerMinute, 0 ≤ q) ∧
      (0 ≤ typing.correctionRate ∧ typing.correctionRate ≤ 1) ∧
      (∀ q ∈ typing.focusToFirstInputMs, 0 ≤ q) ∧
      (∀ q ∈ typing.promptRenderToFirstInputMs, 0 ≤ q) ∧
      (∀ q ∈ typing.typingDurationMs, 0 ≤ q) ∧ ∀ q ∈ typing.lastInputToSubmitMs, 0 ≤ q := by
  have hnull : ∀ name ∈ Sdk.allowedTypingFields, (c.setTyping {} name .null).isSome = true := by
    simp [Sdk.allowedTypingFields, Coercions.setTyping, orNone]
  rw [section_isSome_iff (fun m name value => (set_isSome_congr c name value).1 m)
    (flat_typing typing) (subset_allowedWords_of_lookup
      (show Sdk.sectionAllowlists.lookup "typing" = some Sdk.allowedTypingFields from rfl)) hnull]
  simp only [Typing.TypingSection.fields, List.forall_mem_cons, Coercions.setTyping,
    Option.isSome_map, nonneg_isSome_iff hc, count_isSome hc, num_nonneg_iff hc, num_unit_iff hc]
  simp

theorem pointer_accepted_iff (pointer : Pointer.Summary ℚ) :
    (parseModel c.setPointer {} (.obj (pruneFields (pointerFields pointer)))).isSome = true ↔
      (∀ q ∈ pointer.clickHesitationMs, 0 ≤ q) ∧ 0 ≤ pointer.pointerEntropy ∧
      ∀ q ∈ pointer.scrollCadenceScore, 0 ≤ q ∧ q ≤ 1 := by
  have hnull : ∀ name ∈ Sdk.allowedPointerFields, (c.setPointer {} name .null).isSome = true := by
    simp [Sdk.allowedPointerFields, Coercions.setPointer, orNone]
  rw [section_isSome_iff (fun m name value => (set_isSome_congr c name value).2.1 m)
    (flat_pointer pointer) (subset_allowedWords_of_lookup
      (show Sdk.sectionAllowlists.lookup "pointer" = some Sdk.allowedPointerFields from rfl)) hnull]
  simp only [pointerFields, List.forall_mem_cons, Coercions.setPointer,
    Option.isSome_map, nonneg_isSome_iff hc, count_isSome hc, num_nonneg_iff hc, unit_isSome_iff hc]
  simp

theorem challenge_accepted_iff (challenge : Option Typing.ChallengeSection) :
    (orNone (parseModel c.setChallenge {}) (pruneUndefined
      (normalizeChallengeFeatures challenge))).isSome = true ↔
      ∀ s ∈ challenge, (∀ q ∈ s.expectedReadingTimeMs, 0 ≤ q) ∧
        ∀ timing ∈ s.timings, ∀ q ∈ timing, 0 ≤ q := by
  have hnull : ∀ name ∈ Sdk.allowedChallengeFields,
      (c.setChallenge {} name .null).isSome = true := by
    simp [Sdk.allowedChallengeFields, Coercions.setChallenge, orNone]
  cases challenge with
  | none => simp [normalizeChallengeFeatures, pruneUndefined, orNone]
  | some s =>
      have hsome : (present (challengeFields s)).isEmpty = false := by
        simp [present, challengeFields, isNull]
      have hpruned : pruneFields (present (challengeFields s)) = pruneFields (challengeFields s) := by
        simp only [pruneFields_eq, present, List.filter_filter, Bool.and_self]
      have hread : ∀ fields, (orNone (parseModel c.setChallenge {}) (.obj fields)).isSome =
          (parseModel c.setChallenge {} (.obj fields)).isSome := fun fields => Option.isSome_map
      rw [normalizeChallengeFeatures, hsome, if_neg Bool.false_ne_true, pruneUndefined, hpruned, hread,
        section_isSome_iff (fun m name value => (set_isSome_congr c name value).2.2.1 m)
          (flat_challenge s) (subset_allowedWords_of_lookup
            (show Sdk.sectionAllowlists.lookup "challenge" = some Sdk.allowedChallengeFields from
              rfl)) hnull]
      simp only [challengeFields, List.forall_mem_cons, Coercions.setChallenge, Option.isSome_map,
        nonneg_isSome_iff hc, count_isSome hc]
      simp [orNone, asStr, Typing.ChallengeSection.timings]

theorem agentic_accepted_iff (sqrt : ℚ → ℚ) (pointerAgentic : Pointer.AgenticSummary ℚ)
    (startedAt : ℚ) (typingAgentic : Typing.AgenticSection) :
    (parseModel c.setAgentic {} (.obj (pruneFields
      (agenticFeatures sqrt pointerAgentic startedAt typingAgentic)))).isSome = true ↔
      (∀ q ∈ (ActionBursts.actionBurstFeatures sqrt ((typingAgentic.actionTimestamps ++
        pointerAgentic.actionTimestamps).map some) startedAt).burstIntervalStddevMs, 0 ≤ q) ∧
      (∀ q ∈ (ActionBursts.actionBurstFeatures sqrt ((typingAgentic.actionTimestamps ++
        pointerAgentic.actionTimestamps).map some) startedAt).idleToActionLatencyMs, 0 ≤ q) ∧
      (∀ q ∈ (ActionBursts.actionBurstFeatures sqrt ((typingAgentic.actionTimestamps ++
        pointerAgentic.actionTimestamps).map some) startedAt).meanBurstIntervalMs, 0 ≤ q) ∧
      (∀ q ∈ pointerAgentic.routeDirectnessScore, 0 ≤ q ∧ q ≤ 1) ∧
      ∀ q ∈ typingAgentic.submitAfterInstantInputMs, 0 ≤ q := by
  have hnull : ∀ name ∈ Sdk.allowedAgenticFields, (c.setAgentic {} name .null).isSome = true := by
    simp [Sdk.allowedAgenticFields, Coercions.setAgentic, orNone]
  rw [section_isSome_iff (fun m name value => (set_isSome_congr c name value).2.2.2.1 m)
    (flat_agentic sqrt pointerAgentic startedAt typingAgentic) (subset_allowedWords_of_lookup
      (show Sdk.sectionAllowlists.lookup "agentic" = some Sdk.allowedAgenticFields from rfl)) hnull]
  simp only [agenticFeatures, List.forall_mem_cons, Coercions.setAgentic,
    Option.isSome_map, nonneg_isSome_iff hc, count_isSome hc, unit_isSome_iff hc]
  simp

theorem sessionContinuity_accepted_iff (focusBlurCount : ℕ) (age : ℚ) :
    (parseModel c.setSessionContinuity {} (.obj (pruneFields
      [("focus_blur_count", .num focusBlurCount), ("session_age_ms", .num age)]))).isSome = true ↔
      0 ≤ age := by
  have hcount : (c.setSessionContinuity {} "focus_blur_count" (.num focusBlurCount)).isSome = true := by
    simp only [Coercions.setSessionContinuity, Option.isSome_map, count_isSome hc]
  have hage : (c.setSessionContinuity {} "session_age_ms" (.num age)).isSome = true ↔ 0 ≤ age := by
    simp only [Coercions.setSessionContinuity, Option.isSome_map, num_nonneg_iff hc]
  have hpruned : pruneFields [("focus_blur_count", Json.num focusBlurCount),
      ("session_age_ms", .num age)] =
      [("focus_blur_count", .num focusBlurCount), ("session_age_ms", .num age)] := by
    simp [pruneFields, pruneUndefined, isNull]
  rw [hpruned, parseModel_isSome_iff fun m name value =>
    (set_isSome_congr c name value).2.2.2.2.1 m]
  simp only [List.forall_mem_cons, hcount, hage]
  simp

theorem environment_accepted_iff (win : BrowserWindow) :
    (parseModel c.setEnvironment {} (.obj (pruneFields (environmentFeatures win)))).isSome = true ↔
      (∀ n ∈ win.innerHeight, 0 ≤ n) ∧ ∀ n ∈ win.innerWidth, 0 ≤ n := by
  have hnull : ∀ name ∈ Sdk.allowedEnvironmentFields,
      (c.setEnvironment {} name .null).isSome = true := by
    simp [Sdk.allowedEnvironmentFields, Coercions.setEnvironment, orNone]
  rw [section_isSome_iff (fun m name value => (set_isSome_congr c name value).2.2.2.2.2 m)
    (flat_environment win) (subset_allowedWords_of_lookup
      (show Sdk.sectionAllowlists.lookup "environment" = some Sdk.allowedEnvironmentFields from
        rfl)) hnull]
  have hint : ∀ n : ℤ, (orNone c.int (.num n)).isSome = true := by
    intro n
    simp [orNone, hc.int]
  simp only [environmentFeatures, List.forall_mem_cons, Coercions.setEnvironment,
    Option.isSome_map, bool_isSome hc, hint, count_isSome_iff hc]
  simp

end

/-! ## The whole request -/

section
variable {Field : Type} {c : Coercions} (hc : LawfulCoercions c) (reading : Reading)
  (sdk : TruePresenceBrowserSDK Field)
include hc

/-- What the sections of a packet must meet. -/
structure SectionsTaken (c : Coercions) : Prop where
  agentic : (parseModel c.setAgentic {} (.obj (pruneFields (agenticFeatures reading.sqrt
    sdk.pointerCollector.summarizeAgentic sdk.startedAt
    (sdk.typingSnapshot reading).agentic)))).isSome = true
  challenge : (orNone (parseModel c.setChallenge {}) (pruneUndefined
    (normalizeChallengeFeatures (sdk.typingSnapshot reading).challenge))).isSome = true
  environment : (parseModel c.setEnvironment {} (.obj (pruneFields
    (environmentFeatures reading.window)))).isSome = true
  pointer : (parseModel c.setPointer {} (.obj (pruneFields
    (pointerFields (sdk.pointerCollector.summarize reading.math))))).isSome = true
  sessionContinuity : (parseModel c.setSessionContinuity {} (.obj (pruneFields
    (sdk.sessionContinuity reading)))).isSome = true
  typing : (parseModel c.setTyping {} (.obj (pruneFields
    (sdk.typingSnapshot reading).typing.fields))).isSome = true

omit hc in
theorem setPacket_isSome_congr (m : InteractionFeaturePacket) (name : String) (value : Json) :
    (c.setPacket m name value).isSome = true ↔ (c.setPacket {} name value).isSome = true := by
  unfold Coercions.setPacket
  split <;> simp only [Option.isSome_map]

omit hc in
theorem parsePacket_isSome_iff : (c.parsePacket (sdk.featurePacket reading)).isSome = true ↔
    SectionsTaken reading sdk c := by
  obtain ⟨hpacket, hshape⟩ := featurePacket_shape reading sdk
  have hread : ∀ {M : Type} (setField : M → String → Json → Option M) (defaults : M) fields,
      (orNone (parseModel setField defaults) (.obj fields)).isSome =
        (parseModel setField defaults (.obj fields)).isSome :=
    fun _ _ fields => Option.isSome_map
  have htext : ∀ text, (orNone asStr (.str text)).isSome = true := fun _ => rfl
  have hproto : ∀ p ∈ sdk.packetFields reading, p.1 ≠ "__proto__" := fun p hp =>
    not_proto_of_allowed (allowedPacketTopLevel_subset (packetShape reading sdk p hp).1)
  have hnull : ∀ p ∈ sdk.packetFields reading, p.2 = .null →
      (c.setPacket {} p.1 .null).isSome = true := by
    simp [TruePresenceBrowserSDK.packetFields, Coercions.setPacket, orNone]
  rw [hpacket, Coercions.parsePacket, (ensurePrivacySafeFeaturePacket_eq_ok_iff _).mpr hshape.clean]
  dsimp only
  rw [parseModel_isSome_iff setPacket_isSome_congr,
    forall_pruneFields_iff (fun name value => (c.setPacket {} name value).isSome = true) hproto hnull]
  simp only [TruePresenceBrowserSDK.packetFields, List.forall_mem_cons, pruneUndefined,
    Coercions.setPacket, Option.isSome_map, hread, asDict, asStr, htext, Option.isSome_some]
  constructor
  · intro h
    exact ⟨h.1, h.2.1, h.2.2.1, h.2.2.2.2.2.1, h.2.2.2.2.2.2.1, h.2.2.2.2.2.2.2.2.2.2.2.1⟩
  · intro h
    exact ⟨h.agentic, h.challenge, h.environment, trivial, trivial, h.pointer, h.sessionContinuity,
      trivial, trivial, trivial, trivial, h.typing, List.forall_mem_nil _⟩

omit hc in
theorem parseRequest_isSome_iff : (c.parseRequest (sdk.payload reading)).isSome = true ↔
    (Coercions.asEnforcementMode (.str sdk.config.enforcementMode)).isSome = true ∧
      SectionsTaken reading sdk c := by
  have hclean : RequestClean (sdk.payload reading) := by
    obtain ⟨hpacket, hshape⟩ := featurePacket_shape reading sdk
    have htext : ∀ {name : String} (text : String), name ≠ "feature_packet" →
        RequestFieldClean name (.str text) := by
      intro name text hname
      rw [RequestFieldClean, if_neg hname]
      exact globalClean_of_isScalar trivial
    rw [TruePresenceBrowserSDK.payload, RequestClean]
    simp only [List.forall_mem_cons]
    rw [normalizeKey_of_allowed (by decide), normalizeKey_of_allowed (by decide),
      normalizeKey_of_allowed (by decide), normalizeKey_of_allowed (by decide), hpacket]
    refine ⟨⟨by decide, htext _ (by decide)⟩, ⟨by decide, htext _ (by decide)⟩,
      ⟨by decide, htext _ (by decide)⟩, ⟨by decide, ?_⟩, List.forall_mem_nil _⟩
    rw [RequestFieldClean, if_pos rfl]
    exact hshape.clean
  rw [← parsePacket_isSome_iff reading sdk, Coercions.parseRequest,
    (ensurePrivacySafePayload_eq_ok_iff _).mpr hclean]
  dsimp only
  rw [TruePresenceBrowserSDK.payload, parseModel]
  cases hmode : Coercions.asEnforcementMode (.str sdk.config.enforcementMode) with
  | none => simp [List.foldlM_cons, Coercions.setRequest, hmode]
  | some mode =>
      cases hpacket : c.parsePacket (sdk.featurePacket reading) with
      | none => simp [List.foldlM_cons, Coercions.setRequest, hmode, hpacket, asStr]
      | some packet =>
          simp [List.foldlM_cons, Coercions.setRequest, hmode, hpacket, asStr,
            Coercions.RequestDraft.finish]

end

/-! ## What a page collects -/

section
variable {Field : Type}

def typingEvents (events : List (PageEvent Field)) : List (Typing.Event Field) :=
  events.filterMap fun event => match event.action with
    | .typing action => some ⟨event.now, action⟩
    | _ => none

def pointerEvents (events : List (PageEvent Field)) : List (Pointer.Event ℚ) :=
  events.filterMap fun event => match event.action with
    | .pointer action => some ⟨event.now, action⟩
    | _ => none

/-- A page that has just been initialised. -/
def TruePresenceBrowserSDK.initialised (config : BrowserConfig) (sessionId : String)
    (startedAt : ℚ) : TruePresenceBrowserSDK Field where
  config := config
  sessionId := sessionId
  startedAt := startedAt

theorem typingEvents_concat (events : List (PageEvent Field)) (event : PageEvent Field) :
    typingEvents (events ++ [event]) = typingEvents events ++ typingEvents [event] :=
  List.filterMap_append

theorem pointerEvents_concat (events : List (PageEvent Field)) (event : PageEvent Field) :
    pointerEvents (events ++ [event]) = pointerEvents events ++ pointerEvents [event] :=
  List.filterMap_append

variable [DecidableEq Field]

/-- The collectors of a page each see their own events, and the settings stay. -/
theorem run_eq (math : Pointer.BrowserMath ℚ) (config : BrowserConfig) (sessionId : String)
    (startedAt : ℚ) (events : List (PageEvent Field)) :
    let sdk := TruePresenceBrowserSDK.run math (.initialised config sessionId startedAt) events
    sdk.config = config ∧ sdk.sessionId = sessionId ∧ sdk.startedAt = startedAt ∧
      sdk.typingCollector = Typing.Collector.run (typingEvents events) ∧
      sdk.pointerCollector = Pointer.Collector.run math (pointerEvents events) := by
  induction events using List.reverseRecOn with
  | nil => exact ⟨rfl, rfl, rfl, rfl, rfl⟩
  | append_singleton events event ih =>
      obtain ⟨now, action⟩ := event
      obtain ⟨hconfig, hsession, hstarted, htyping, hpointer⟩ := ih
      rw [typingEvents_concat, pointerEvents_concat, TruePresenceBrowserSDK.run, Isolation.run,
        List.foldl_append]
      cases action with
      | typing action =>
          refine ⟨hconfig, hsession, hstarted, ?_, ?_⟩
          · rw [Typing.Collector.run, Isolation.run, List.foldl_append]
            exact congrArg (fun c => (c.step ⟨now, action⟩).2) htyping
          · rw [show pointerEvents [(⟨now, .typing action⟩ : PageEvent Field)] = [] from rfl,
              List.append_nil]
            exact hpointer
      | pointer action =>
          refine ⟨hconfig, hsession, hstarted, ?_, ?_⟩
          · rw [show typingEvents [(⟨now, .pointer action⟩ : PageEvent Field)] = [] from rfl,
              List.append_nil]
            exact htyping
          · rw [Pointer.Collector.run, Isolation.run, List.foldl_append]
            exact congrArg (fun c => (c.step math ⟨now, action⟩).2) hpointer
      | focusBlur =>
          rw [show typingEvents [(⟨now, .focusBlur⟩ : PageEvent Field)] = [] from rfl,
            show pointerEvents [(⟨now, .focusBlur⟩ : PageEvent Field)] = [] from rfl,
            List.append_nil, List.append_nil]
          exact ⟨hconfig, hsession, hstarted, htyping, hpointer⟩

end

/-! ## The numbers of a page -/

/-- Roots and logarithms have the signs that the browser documents. -/
structure LawfulMath (reading : Reading) : Prop where
  sqrt_nonneg : ∀ x, 0 ≤ x → 0 ≤ reading.sqrt x
  log2_nonpos : ∀ x, 0 < x → x ≤ 1 → reading.math.log2 x ≤ 0
  log2_eight : 0 ≤ reading.math.log2 8

theorem mean_nonneg {values : List ℚ} (h : ∀ value ∈ values, 0 ≤ value) :
    ∀ m ∈ Typing.mean values, 0 ≤ m := by
  intro m hm
  rw [Typing.mean] at hm
  split at hm
  · cases hm
  · cases hm
    exact div_nonneg (List.sum_nonneg h) (Nat.cast_nonneg _)

theorem stddev_nonneg {sqrt : ℚ → ℚ} (hsqrt : ∀ x, 0 ≤ x → 0 ≤ sqrt x) (values : List ℚ) :
    0 ≤ Typing.stddev sqrt values := by
  rw [Typing.stddev]
  split
  · exact le_rfl
  · apply hsqrt
    cases hmean : Typing.mean (values.map fun value =>
        (value - (Typing.mean values).getD 0) ^ 2) with
    | none => exact le_rfl
    | some m =>
        apply mean_nonneg _ m hmean
        intro value hvalue
        obtain ⟨x, -, rfl⟩ := List.mem_map.mp hvalue
        exact sq_nonneg _

open ActionBursts in
/-- The features of the bursts are not negative where no action came before the start. -/
theorem actionBurstFeatures_nonneg {sqrt : ℚ → ℚ} (hsqrt : ∀ x, 0 ≤ x → 0 ≤ sqrt x)
    {timestamps : List ℚ} {startedAt : ℚ} (hstarted : ∀ t ∈ timestamps, startedAt ≤ t) :
    let bursts := actionBurstFeatures sqrt (timestamps.map some) startedAt
    (∀ q ∈ bursts.burstIntervalStddevMs, 0 ≤ q) ∧ (∀ q ∈ bursts.idleToActionLatencyMs, 0 ≤ q) ∧
      ∀ q ∈ bursts.meanBurstIntervalMs, 0 ≤ q := by
  have hsorted := sortedTimestamps_pairwise (timestamps.map some)
  have hmem : ∀ t ∈ sortedTimestamps (timestamps.map some), startedAt ≤ t := by
    intro t ht
    rw [mem_sortedTimestamps, List.mem_map] at ht
    obtain ⟨t', ht', hsame⟩ := ht
    exact hstarted t (Option.some.inj hsame ▸ ht')
  intro bursts
  cases htimes : sortedTimestamps (timestamps.map some) with
  | nil =>
      have hbursts : bursts = ⟨0, none, none, none⟩ := by
        simp only [bursts, actionBurstFeatures, htimes]
      rw [hbursts]
      have hnone : ∀ q ∈ (none : Option ℚ), 0 ≤ q := by simp
      exact ⟨hnone, hnone, hnone⟩
  | cons first rest =>
      rw [htimes] at hmem hsorted
      have hbursts : bursts = ⟨(burstStarts (first :: rest)).length,
          if (CloseRuns.differences (burstStarts (first :: rest))).isEmpty then none
          else some (Typing.stddev sqrt (CloseRuns.differences (burstStarts (first :: rest)))),
          some (first - startedAt),
          Typing.mean (CloseRuns.differences (burstStarts (first :: rest)))⟩ := by
        simp only [bursts, actionBurstFeatures, htimes]
      rw [hbursts]
      refine ⟨fun q hq => ?_, fun q hq => ?_, fun q hq => ?_⟩
      · split at hq
        · cases hq
        · cases hq
          exact stddev_nonneg hsqrt _
      · cases hq
        exact sub_nonneg.mpr (hmem first List.mem_cons_self)
      · apply mean_nonneg _ q hq
        intro interval hinterval
        have hgap := CloseRuns.lt_of_mem_differences (burstStarts_apart hsorted) interval hinterval
        exact le_trans (by norm_num [burstGapMs]) hgap.le

/-! ## Which pages are accepted -/

section
variable {Field : Type}

/-- The clock does not run backwards from the start over the events to the packet. -/
structure ClockRuns (startedAt : ℚ) (events : List (PageEvent Field)) (reading : Reading) :
    Prop where
  ordered : (events.map (·.now)).Pairwise (· ≤ ·)
  started : ∀ event ∈ events, startedAt ≤ event.now
  summarized : ∀ event ∈ events, event.now ≤ reading.summarizedAt
  packet : startedAt ≤ reading.packetAt

theorem mem_typingEvents {events : List (PageEvent Field)} {event : Typing.Event Field}
    (h : event ∈ typingEvents events) : ∃ source ∈ events, source.now = event.now := by
  obtain ⟨source, hsource, hevent⟩ := List.mem_filterMap.mp h
  refine ⟨source, hsource, ?_⟩
  split at hevent
  · cases hevent
    rfl
  · cases hevent

theorem mem_pointerEvents {events : List (PageEvent Field)} {event : Pointer.Event ℚ}
    (h : event ∈ pointerEvents events) : ∃ source ∈ events, source.now = event.now := by
  obtain ⟨source, hsource, hevent⟩ := List.mem_filterMap.mp h
  refine ⟨source, hsource, ?_⟩
  split at hevent
  · cases hevent
    rfl
  · cases hevent

theorem nondecreasing_typingEvents {events : List (PageEvent Field)}
    (h : (events.map (·.now)).Pairwise (· ≤ ·)) : Typing.Nondecreasing (typingEvents events) := by
  rw [Typing.Nondecreasing, List.pairwise_map]
  rw [List.pairwise_map] at h
  apply h.filterMap
  intro a a' hle b hb b' hb'
  split at hb
  · split at hb'
    · cases hb
      cases hb'
      exact hle
    · cases hb'
  · cases hb

variable [DecidableEq Field]

/-- A rate of corrections above one needs more corrections than inputs. -/
def CorrectionsWithinInputs (c : Typing.Collector Field) : Prop :=
  Typing.Collector.total c.states (·.inputEventCount) = 0 ∨
    Typing.Collector.total c.states (·.correctionCount) ≤
      Typing.Collector.total c.states (·.inputEventCount)

/-- The first reading time that a challenge field has, where a challenge had an input. -/
def ExpectedReadingValid (c : Typing.Collector Field) : Prop :=
  0 < Typing.Collector.total c.challengeStates (·.inputEventCount) →
    ∀ ms ∈ (c.challengeStates.filterMap (·.expectedReadingTimeMs)).head?, 0 ≤ ms

/-- What the server asks of a page. -/
structure Acceptable (config : BrowserConfig) (win : BrowserWindow)
    (events : List (PageEvent Field)) : Prop where
  enforcementMode : config.enforcementMode ∈
    ["observe", "challenge_only", "review_required", "enforce"]
  focusedFirst : Typing.FocusedFirst (typingEvents events)
  submittedLast : Typing.SubmittedLast (typingEvents events)
  corrections : CorrectionsWithinInputs (Typing.Collector.run (typingEvents events))
  expectedReading : ExpectedReadingValid (Typing.Collector.run (typingEvents events))
  viewportHeight : ∀ n ∈ win.innerHeight, 0 ≤ n
  viewportWidth : ∀ n ∈ win.innerWidth, 0 ≤ n

omit [DecidableEq Field] in
theorem correctionRate_mem_unit_iff (c : Typing.Collector Field) :
    (0 ≤ c.correctionRate ∧ c.correctionRate ≤ 1) ↔ CorrectionsWithinInputs c := by
  rw [Typing.Collector.correctionRate, CorrectionsWithinInputs]
  by_cases hinputs : 0 < Typing.Collector.total c.states (·.inputEventCount)
  · have hpos : (0 : ℚ) < Typing.Collector.total c.states (·.inputEventCount) := Nat.cast_pos.mpr hinputs
    rw [if_pos hinputs, div_le_one hpos, Nat.cast_le, or_iff_right hinputs.ne']
    exact and_iff_right (div_nonneg (Nat.cast_nonneg _) hpos.le)
  · rw [if_neg hinputs]
    simp only [le_refl, zero_le_one, and_self, true_iff]
    exact .inl (Nat.eq_zero_of_not_pos hinputs)

theorem asEnforcementMode_isSome_iff (mode : String) :
    (Coercions.asEnforcementMode (.str mode)).isSome = true ↔
      mode ∈ ["observe", "challenge_only", "review_required", "enforce"] := by
  unfold Coercions.asEnforcementMode
  split <;> simp_all

omit [DecidableEq Field] in
theorem foldl_or_some (kept : ℚ) (values : List (Option ℚ)) :
    values.foldl Option.or (some kept) = some kept := by
  induction values with
  | nil => rfl
  | cons value rest ih => exact ih

omit [DecidableEq Field] in
/-- The first of the values that are there. -/
theorem foldl_or_map {α : Type} (f : α → Option ℚ) (xs : List α) :
    (xs.map f).foldl Option.or none = (xs.filterMap f).head? := by
  induction xs with
  | nil => rfl
  | cons x rest ih =>
      rw [List.map_cons, List.foldl_cons, Option.none_or]
      cases hx : f x with
      | none => rw [ih, List.filterMap_cons_none hx]
      | some value => rw [foldl_or_some, List.filterMap_cons_some hx, List.head?_cons]

/-- The action times of the typing collector are those of its events. -/
theorem actionTimestamps_mem {events : List (Typing.Event Field)} {time : ℚ}
    (h : time ∈ (Typing.Collector.run events).actionTimestamps) :
    ∃ event ∈ events, event.now = time := by
  induction events using List.reverseRecOn with
  | nil => cases h
  | append_singleton events event ih =>
      obtain ⟨now, action⟩ := event
      have hbefore : time ∈ (Typing.Collector.run events).actionTimestamps →
          ∃ event ∈ events ++ [⟨now, action⟩], event.now = time := by
        intro hmem
        obtain ⟨event, hevent, htime⟩ := ih hmem
        exact ⟨event, List.mem_append_left _ hevent, htime⟩
      have hnow : time = now → ∃ event ∈ events ++ [⟨now, action⟩], event.now = time := by
        intro htime
        exact ⟨⟨now, action⟩, List.mem_append_right _ (List.mem_singleton_self _), htime.symm⟩
      rw [Typing.Collector.run, Isolation.run, List.foldl_append] at h
      change time ∈ ((Typing.Collector.run events).step ⟨now, action⟩).2.actionTimestamps at h
      cases action with
      | submit =>
          rcases List.mem_append.mp h with hmem | hmem
          · exact hbefore hmem
          · exact hnow (List.mem_singleton.mp hmem)
      | track field options =>
          simp only [Typing.Collector.step, Typing.Collector.ensureState] at h
          split at h
          · exact hbefore h
          · exact hbefore h
      | on field fieldEvent =>
          simp only [Typing.Collector.step, Typing.Collector.dispatch] at h
          split at h
          · exact hbefore h
          · rcases List.mem_append.mp h with hmem | hmem
            · exact hbefore hmem
            · split at hmem
              · exact hnow (List.mem_singleton.mp hmem)
              · cases hmem

section
variable {c : Coercions} {reading : Reading} {startedAt : ℚ} {events : List (PageEvent Field)}
  (hc : LawfulCoercions c) (hmath : LawfulMath reading)
  (htracked : Typing.EventsOnTracked (typingEvents events))
  (hclock : ClockRuns startedAt events reading)
include hc hclock

omit hc [DecidableEq Field] in
theorem typing_summarized :
    ∀ event ∈ typingEvents events, event.now ≤ reading.summarizedAt := by
  intro event hevent
  obtain ⟨source, hsource, htime⟩ := mem_typingEvents hevent
  exact htime ▸ hclock.summarized source hsource

include hmath htracked in
theorem typing_taken_iff :
    (parseModel c.setTyping {} (.obj (pruneFields ((Typing.Collector.run
      (typingEvents events)).summarize reading.sqrt reading.summarizedAt).typing.fields))).isSome =
        true ↔
      Typing.FocusedFirst (typingEvents events) ∧ Typing.SubmittedLast (typingEvents events) ∧
        CorrectionsWithinInputs (Typing.Collector.run (typingEvents events)) := by
  have hordered := nondecreasing_typingEvents hclock.ordered
  have hkeeps := Typing.keeps_run htracked hordered
  have hcadence : ∀ q ∈ (Typing.Collector.run (typingEvents events)).charactersPerMinute, 0 ≤ q := by
    intro q hq
    obtain ⟨duration, hduration, rfl⟩ := Option.map_eq_some_iff.mp hq
    have hpos := (Option.filter_eq_some_iff.mp hduration).2
    have hpos' : (0 : ℚ) < duration := by simpa using hpos
    positivity
  have hprompt : ∀ q ∈ ((Typing.Collector.run (typingEvents events)).typingSection
      reading.sqrt).promptRenderToFirstInputMs, 0 ≤ q := by
    apply Typing.elapsed_earliest_nonneg
    intro s hs
    obtain ⟨field, hkept⟩ := hkeeps.of_mem_states hs
    exact hkept.prompt_le
  rw [typing_accepted_iff hc, ← Typing.focus_nonneg_iff hkeeps hordered,
    ← Typing.submit_nonneg_iff hkeeps hordered, ← correctionRate_mem_unit_iff]
  constructor
  · intro h
    exact ⟨h.2.2.2.2.1, h.2.2.2.2.2.2.2, h.2.2.2.1⟩
  · intro h
    exact ⟨mean_nonneg (Typing.allIntervals_nonneg hordered), stddev_nonneg hmath.sqrt_nonneg _,
      hcadence, h.2.2, h.1, hprompt, Typing.duration_nonneg _, h.2.1⟩

include htracked in
theorem challenge_taken_iff :
    (orNone (parseModel c.setChallenge {}) (pruneUndefined (normalizeChallengeFeatures
      ((Typing.Collector.run (typingEvents events)).summarize reading.sqrt
        reading.summarizedAt).challenge))).isSome = true ↔
      ExpectedReadingValid (Typing.Collector.run (typingEvents events)) := by
  have hordered := nondecreasing_typingEvents hclock.ordered
  have hkeeps := Typing.keeps_run htracked hordered
  rw [challenge_accepted_iff hc, Typing.Collector.summarize]
  dsimp only
  rw [ExpectedReadingValid, ← foldl_or_map]
  by_cases hinputs : 0 < Typing.Collector.total
      (Typing.Collector.run (typingEvents events)).challengeStates (·.inputEventCount)
  · constructor
    · intro h _
      exact (h _ (if_pos hinputs)).1
    · intro h s hs
      refine ⟨?_, Typing.challenge_nonneg hkeeps hordered (typing_summarized hclock) hs⟩
      have hvalid := h hinputs
      rw [Typing.Collector.challengeSection, if_pos hinputs] at hs
      cases hs
      exact hvalid
  · constructor
    · intro _ hinputs'
      exact absurd hinputs' hinputs
    · intro _ s hs
      rw [Typing.Collector.challengeSection, if_neg hinputs] at hs
      cases hs

include hmath htracked in
/-- The agentic section asks for no more than the typing section does. -/
theorem agentic_taken (hsubmitted : Typing.SubmittedLast (typingEvents events)) :
    (parseModel c.setAgentic {} (.obj (pruneFields (agenticFeatures reading.sqrt
      (Pointer.Collector.run reading.math (pointerEvents events)).summarizeAgentic startedAt
      ((Typing.Collector.run (typingEvents events)).summarize reading.sqrt
        reading.summarizedAt).agentic)))).isSome = true := by
  have hordered := nondecreasing_typingEvents hclock.ordered
  have hkeeps := Typing.keeps_run htracked hordered
  have hstarted : ∀ t ∈ (Typing.Collector.run (typingEvents events)).actionTimestamps ++
      (Pointer.Collector.run reading.math (pointerEvents events)).actionTimestamps,
      startedAt ≤ t := by
    intro t ht
    rcases List.mem_append.mp ht with ht | ht
    · obtain ⟨event, hevent, rfl⟩ := actionTimestamps_mem ht
      obtain ⟨source, hsource, htime⟩ := mem_typingEvents hevent
      exact htime ▸ hclock.started source hsource
    · rw [(Pointer.keeps_run reading.math (pointerEvents events)).timestamps] at ht
      obtain ⟨event, hevent, rfl⟩ := List.mem_map.mp ht
      obtain ⟨source, hsource, htime⟩ := mem_pointerEvents hevent
      exact htime ▸ hclock.started source hsource
  obtain ⟨hstddev, hidle, hmean⟩ := actionBurstFeatures_nonneg hmath.sqrt_nonneg hstarted
  rw [agentic_accepted_iff hc]
  exact ⟨hstddev, hidle, hmean, Pointer.routeDirectness_mem _,
    Typing.large_nonneg hkeeps hsubmitted⟩

omit hclock [DecidableEq Field] in
include hmath in
theorem pointer_taken : (parseModel c.setPointer {} (.obj (pruneFields (pointerFields
    ((Pointer.Collector.run reading.math (pointerEvents events)).summarize
      reading.math))))).isSome = true := by
  have hkeeps := Pointer.keeps_run reading.math (pointerEvents events)
  rw [pointer_accepted_iff hc]
  refine ⟨hkeeps.hesitation_nonneg, ?_, Pointer.scrollCadence_mem _⟩
  apply Pointer.shannonEntropy_nonneg hmath.log2_nonpos
  rw [List.length_ofFn]
  exact hmath.log2_eight

end

end

/-! ## A page that is accepted -/

def plainCoercions : Coercions where
  float
    | .num q => some q
    | _ => none
  int
    | .num q => if q.den = 1 then some q.num else none
    | _ => none
  bool
    | .bool b => some b
    | _ => none

theorem lawful_plainCoercions : LawfulCoercions plainCoercions where
  float _ := rfl
  int n := by simp [plainCoercions]
  bool _ := rfl

/-- Logarithms of powers of two, roots of squares and the angle of ways to the right. -/
def plainReading : Reading where
  math := { atan2 := fun _ _ => 0, pi := 355 / 113, log2 := fun x => Int.log 2 x }
  sqrt := fun x => (Nat.sqrt x.num.toNat : ℚ) / (Nat.sqrt x.den : ℚ)
  window := { hostname := some "localhost", pathname := some "/", referrer := none,
              visibilityState := some "visible", phantom := false, webdriver := false,
              reducedMotion := false, timezoneOffset := -60, innerHeight := some 600,
              innerWidth := some 800 }
  summarizedAt := 9
  packetAt := 10

theorem lawful_plainReading : LawfulMath plainReading where
  sqrt_nonneg x _ := div_nonneg (Nat.cast_nonneg _) (Nat.cast_nonneg _)
  log2_nonpos x hx hle := by
    have h : Int.log 2 x ≤ Int.log 2 (1 : ℚ) := Int.log_mono_right hx hle
    rw [Int.log_one_right] at h
    exact Int.cast_nonpos.mpr h
  log2_eight := Int.cast_nonneg (by
    have h : Int.log 2 (1 : ℚ) ≤ Int.log 2 (8 : ℚ) := Int.log_mono_right one_pos (by norm_num)
    rwa [Int.log_one_right] at h)

/-- A challenge is typed into and submitted, with the pointer moving to the right. -/
def typedPage : List (PageEvent ℕ) :=
  [⟨1, .typing (.track 0 { isChallenge := true, expectedReadingTimeMs := some 2 })⟩,
    ⟨2, .pointer (.move 0 0)⟩, ⟨3, .pointer (.move 5 0)⟩, ⟨3, .pointer .click⟩,
    ⟨4, .typing (.on 0 (.focus 0))⟩, ⟨5, .typing (.on 0 (.keydown "a"))⟩,
    ⟨6, .typing (.on 0 (.input 1))⟩, ⟨7, .focusBlur⟩, ⟨8, .typing .submit⟩]

theorem acceptable_typedPage : Acceptable { siteKey := "site" } plainReading.window typedPage where
  enforcementMode := by decide
  focusedFirst := .inr ⟨0, 4, rfl, by decide⟩
  submittedLast := by
    rw [Typing.SubmittedLast]
    decide
  corrections := .inr (by decide)
  expectedReading := by
    rw [ExpectedReadingValid]
    decide
  viewportHeight := by decide
  viewportWidth := by decide

end TruePresenceESE.Sdk.BrowserSdk
