import TruePresenceESE.Sdk.ActionBursts
import TruePresenceESE.Sdk.GuardAgreement
import TruePresenceESE.Sdk.Pointer

/-! # The packet of a page

A page runs the typing and the pointer collector side by side. What they report goes into
one packet of flat sections, with names from the allowlists of both guards, so that the
client's guard takes nothing away from it.
-/

namespace TruePresenceESE.Sdk.BrowserSdk

open Browser

/-! ## The page -/

/-- The settings after `init`, which fixes the mode and fills in the defaults. -/
structure BrowserConfig where
  siteKey : String
  enforcementMode : String := "observe"
  tenantId : String := "default"

def BrowserConfig.mode (_ : BrowserConfig) : String := "privacy_preserving"

def sdkVersion : String := "0.2.0"

/-- What the packet reads of the window and its document. A property that is not there is
undefined. -/
structure BrowserWindow where
  hostname : Option String
  pathname : Option String
  referrer : Option String
  visibilityState : Option String
  /-- `win._phantom || win.callPhantom` -/
  phantom : Bool
  webdriver : Bool
  reducedMotion : Bool
  timezoneOffset : ℤ
  innerHeight : Option ℤ
  innerWidth : Option ℤ

/-- What a page does: an event of a form, of the pointer, or of its focus. -/
inductive PageAction (Field : Type) where
  | typing (action : Typing.Action Field)
  | pointer (action : Pointer.Action ℚ)
  | focusBlur

structure PageEvent (Field : Type) where
  now : ℚ
  action : PageAction Field

structure TruePresenceBrowserSDK (Field : Type) where
  config : BrowserConfig
  sessionId : String
  startedAt : ℚ
  focusBlurCount : ℕ := 0
  pointerCollector : Pointer.Collector ℚ := {}
  typingCollector : Typing.Collector Field := {}

section
variable {Field : Type} [DecidableEq Field]

namespace TruePresenceBrowserSDK

def step (math : Pointer.BrowserMath ℚ) (sdk : TruePresenceBrowserSDK Field)
    (event : PageEvent Field) : Unit × TruePresenceBrowserSDK Field :=
  match event.action with
  | .typing action =>
      ((), { sdk with typingCollector := (sdk.typingCollector.step ⟨event.now, action⟩).2 })
  | .pointer action =>
      ((), { sdk with pointerCollector := (sdk.pointerCollector.step math ⟨event.now, action⟩).2 })
  | .focusBlur => ((), { sdk with focusBlurCount := sdk.focusBlurCount + 1 })

def run (math : Pointer.BrowserMath ℚ) (sdk : TruePresenceBrowserSDK Field)
    (events : List (PageEvent Field)) : TruePresenceBrowserSDK Field :=
  Isolation.run (step math) sdk events

end TruePresenceBrowserSDK

end

/-! ## The sections of a packet -/

def stringOrNull (text : Option String) : Json := text.elim .null .str

def intOrNull (n : Option ℤ) : Json := n.elim .null fun n => .num n

/-- `text || undefined` -/
def orUndefined (text : Option String) : Option String := text.filter (· ≠ "")

def pageContext (win : BrowserWindow) : List (String × Json) :=
  [("hostname", stringOrNull (orUndefined win.hostname)),
    ("pathname", stringOrNull (orUndefined win.pathname)),
    ("referrer_present", .bool (orUndefined win.referrer).isSome),
    ("visibility_state", stringOrNull (orUndefined win.visibilityState))]

def environmentFeatures (win : BrowserWindow) : List (String × Json) :=
  [("automation_framework_hint", .bool win.phantom), ("headless_browser_hint", .bool win.webdriver),
    ("reduced_motion_enabled", .bool win.reducedMotion),
    ("timezone_offset_minutes", .num win.timezoneOffset),
    ("viewport_height", intOrNull win.innerHeight), ("viewport_width", intOrNull win.innerWidth),
    ("webdriver_detected", .bool win.webdriver)]

open Typing (numberOrNull)

def agenticFeatures (sqrt : ℚ → ℚ) (pointerAgentic : Pointer.AgenticSummary ℚ) (startedAt : ℚ)
    (typingAgentic : Typing.AgenticSection) : List (String × Json) :=
  let actionTimestamps := typingAgentic.actionTimestamps ++ pointerAgentic.actionTimestamps
  let bursts := ActionBursts.actionBurstFeatures sqrt (actionTimestamps.map some) startedAt
  [("action_burst_count", .num bursts.actionBurstCount),
    ("burst_interval_stddev_ms", numberOrNull bursts.burstIntervalStddevMs),
    ("idle_to_action_latency_ms", numberOrNull bursts.idleToActionLatencyMs),
    ("mean_burst_interval_ms", numberOrNull bursts.meanBurstIntervalMs),
    ("exploratory_action_count", .num pointerAgentic.exploratoryActionCount),
    ("large_instant_delta_count", .num typingAgentic.largeInstantDeltaCount),
    ("route_directness_score", numberOrNull pointerAgentic.routeDirectnessScore),
    ("structured_retry_count", .num typingAgentic.structuredRetryCount),
    ("submit_after_instant_input_ms", numberOrNull typingAgentic.submitAfterInstantInputMs),
    ("validation_repair_count", .num typingAgentic.validationRepairCount)]

/-- What is there of an object's fields. -/
def present (fields : List (String × Json)) : List (String × Json) :=
  fields.filter fun p => !isNull p.2

def challengeFields (challenge : Typing.ChallengeSection) : List (String × Json) :=
  [("challenge_type", .str challenge.challengeType),
    ("correction_count", .num challenge.correctionCount),
    ("expected_reading_time_ms", numberOrNull challenge.expectedReadingTimeMs),
    ("paste_count", .num challenge.pasteCount),
    ("prompt_render_to_first_input_ms", numberOrNull challenge.promptRenderToFirstInputMs),
    ("response_latency_ms", numberOrNull challenge.responseLatencyMs),
    ("typing_duration_ms", numberOrNull challenge.typingDurationMs)]

def normalizeChallengeFeatures (challenge : Option Typing.ChallengeSection) : Json :=
  match challenge with
  | none => .null
  | some challenge =>
      let normalized := present (challengeFields challenge)
      if normalized.isEmpty then .null else .obj normalized

def typingSummaryFields (summary : Typing.TypingSummary) : List (String × Json) :=
  [("delete_key_count", .num summary.deleteKeyCount),
    ("input_event_count", .num summary.inputEventCount),
    ("last_input_to_submit_ms", numberOrNull summary.lastInputToSubmitMs),
    ("max_inter_key_interval_ms", numberOrNull summary.maxInterKeyIntervalMs),
    ("min_inter_key_interval_ms", numberOrNull summary.minInterKeyIntervalMs),
    ("tracked_field_count", .num summary.trackedFieldCount)]

def pointerFields (pointer : Pointer.Summary ℚ) : List (String × Json) :=
  [("click_count", .num pointer.clickCount),
    ("click_hesitation_ms", numberOrNull pointer.clickHesitationMs),
    ("pointer_entropy", .num pointer.pointerEntropy),
    ("pointer_movement_count", .num pointer.pointerMovementCount),
    ("scroll_cadence_score", numberOrNull pointer.scrollCadenceScore)]

/-! ## The packet -/

/-- The mathematics of the browser, and what the clock reads where the typing summary and
where the age of the session are taken. -/
structure Reading where
  math : Pointer.BrowserMath ℚ
  sqrt : ℚ → ℚ
  window : BrowserWindow
  summarizedAt : ℚ
  packetAt : ℚ

section
variable {Field : Type} [DecidableEq Field]

namespace TruePresenceBrowserSDK

variable (reading : Reading) (sdk : TruePresenceBrowserSDK Field)

def typingSnapshot : Typing.Summary :=
  sdk.typingCollector.summarize reading.sqrt reading.summarizedAt

def metadata : List (String × Json) :=
  [("mode", .str sdk.config.mode), ("sdk_version", .str sdkVersion),
    ("tracked_field_count", .num sdk.typingCollector.fields.size),
    ("typing_summary", .obj (typingSummaryFields (sdk.typingSnapshot reading).typingSummary))]

def sessionContinuity : List (String × Json) :=
  [("focus_blur_count", .num sdk.focusBlurCount),
    ("session_age_ms", .num (reading.packetAt - sdk.startedAt))]

def packetFields : List (String × Json) :=
  [("agentic", .obj (agenticFeatures reading.sqrt sdk.pointerCollector.summarizeAgentic sdk.startedAt
      (sdk.typingSnapshot reading).agentic)),
    ("challenge", normalizeChallengeFeatures (sdk.typingSnapshot reading).challenge),
    ("environment", .obj (environmentFeatures reading.window)),
    ("metadata", .obj (sdk.metadata reading)),
    ("page_context", .obj (pageContext reading.window)),
    ("pointer", .obj (pointerFields (sdk.pointerCollector.summarize reading.math))),
    ("session_continuity", .obj (sdk.sessionContinuity reading)),
    ("session_id", .str sdk.sessionId), ("site_id", .str sdk.config.siteKey),
    ("surface", .str "web"), ("tenant_id", .str sdk.config.tenantId),
    ("typing", .obj (sdk.typingSnapshot reading).typing.fields)]

def featurePacket : Json := pruneUndefined (.obj (sdk.packetFields reading))

def payload : Json :=
  .obj [("enforcement_mode", .str sdk.config.enforcementMode), ("session_id", .str sdk.sessionId),
    ("tenant_id", .str sdk.config.tenantId), ("feature_packet", sdk.featurePacket reading)]

/-- Without a `beforeSend` hook. -/
def buildEvaluationPayload : Except String Json :=
  Browser.buildEvaluationPayload (sdk.payload reading) none

end TruePresenceBrowserSDK

end
/-! ## What the guards leave of the packet -/

theorem client_normalizeKey_of_isWord {key : String} (h : IsWord key) :
    Browser.normalizeKey key = key := by
  have hnot : ∀ c ∈ key.toList, Browser.isBlank c = false ∧ c ≠ '-' ∧ Text.lowerChar c = [c] := by
    intro c hc
    have hword := h c hc
    refine ⟨?_, ?_, ?_⟩
    · by_contra hblank
      have hfalse := (not_isWordChar_of_blank (.inr (Bool.not_eq_false _ ▸ hblank))).1
      rw [hword] at hfalse
      exact Bool.noConfusion hfalse
    · intro hdash
      rw [hdash] at hword
      exact absurd hword (by decide)
    · simp only [isWordChar, Bool.or_eq_true, Bool.and_eq_true, decide_eq_true_eq,
        beq_iff_eq] at hword
      rw [Text.lowerChar, if_neg (by omega), if_neg (by omega), if_neg (by omega)]
  have hstrip : Text.strip Browser.isBlank key.toList = key.toList :=
    Text.strip_eq_self fun c hc => (hnot c hc).1
  have hlower : Text.lower key.toList = key.toList :=
    Text.lower_eq_self fun c hc => (hnot c hc).2.2
  have hreplace : Text.replace (fun c => c = '-' || Browser.isBlank c) '_' key.toList =
      key.toList := by
    apply Text.replace_eq_self
    intro c hc
    rw [(hnot c hc).1, Bool.or_false, decide_eq_false_iff_not]
    exact (hnot c hc).2.1
  rw [Browser.normalizeKey, hstrip, hlower, hreplace, String.ofList_toList]

section
variable {key : String} (hkey : key ∈ allowedWords)
include hkey

theorem client_normalizeKey_of_allowed : Browser.normalizeKey key = key :=
  client_normalizeKey_of_isWord (isWord_of_allowed hkey)

theorem not_raw_of_allowed : Browser.isRawField key = false :=
  isRawField_of_allowed ((client_normalizeKey_of_allowed hkey).symm ▸ hkey)

theorem not_proto_of_allowed : key ≠ "__proto__" :=
  ne_proto_of_allowed ((client_normalizeKey_of_allowed hkey).symm ▸ hkey)

end

/-- A stripper keeps an object of allowed fields that its handler keeps. -/
theorem stripFields_eq_self {allowlist : List String} {handler : String → Json → Json}
    {fields : List (String × Json)} (hallowed : allowlist ⊆ allowedWords)
    (h : ∀ p ∈ fields, p.1 ∈ allowlist ∧ handler p.1 p.2 = p.2) :
    stripFields allowlist handler fields = fields := by
  have hkeep : ∀ p ∈ fields, ((fun key => !isRawField key &&
      allowlist.contains (Browser.normalizeKey key)) p.1 && p.1 ≠ "__proto__") = true := by
    intro p hp
    have hword := hallowed (h p hp).1
    simp [not_raw_of_allowed hword, client_normalizeKey_of_allowed hword, (h p hp).1,
      not_proto_of_allowed hword]
  rw [stripFields, assignKept, List.filter_eq_self.mpr hkeep]
  have hsame : ∀ p ∈ fields, (p.1, handler (Browser.normalizeKey p.1) p.2) = p := by
    intro p hp
    rw [client_normalizeKey_of_allowed (hallowed (h p hp).1), (h p hp).2]
  rw [List.map_congr_left hsame, List.map_id']

/-- Pruning twice prunes no more. -/
theorem pruneUndefined_idem (value : Json) :
    pruneUndefined (pruneUndefined value) = pruneUndefined value := by
  induction value using Json.tree_induction with
  | null => rfl
  | bool b => rfl
  | num q => rfl
  | str s => rfl
  | arr items ih =>
      simp only [pruneUndefined, pruneItems_eq, List.map_map, Json.arr.injEq]
      exact List.map_congr_left fun v hv => ih v hv
  | obj fields ih =>
      simp only [pruneUndefined, Json.obj.injEq]
      induction fields with
      | nil => rfl
      | cons p rest ihrest =>
          obtain ⟨key, child⟩ := p
          have hrest := ihrest fun q hq => ih q (List.mem_cons_of_mem _ hq)
          rw [pruneFields]
          split
          · exact hrest
          next hkept =>
            rw [Bool.or_eq_true, not_or] at hkept
            have hnull : isNull (pruneUndefined child) = false := by
              have hchild := hkept.1
              cases child <;> simp_all [isNull, pruneUndefined]
            rw [pruneFields, hnull, hrest, ih (key, child) List.mem_cons_self]
            simpa using hkept.2

/-! ## Objects of scalars -/

def IsScalar : Json → Prop
  | .arr _ => False
  | .obj _ => False
  | _ => True

/-- The fields of a section: names from its allowlist with scalars. -/
def Flat (allowlist : List String) (fields : List (String × Json)) : Prop :=
  ∀ p ∈ fields, p.1 ∈ allowlist ∧ IsScalar p.2

theorem isScalar_bool (b : Bool) : IsScalar (.bool b) := trivial

theorem isScalar_num (q : ℚ) : IsScalar (.num q) := trivial

theorem isScalar_str (s : String) : IsScalar (.str s) := trivial

theorem isScalar_numberOrNull (number : Option ℚ) : IsScalar (numberOrNull number) := by
  cases number <;> trivial

theorem isScalar_stringOrNull (text : Option String) : IsScalar (stringOrNull text) := by
  cases text <;> trivial

theorem isScalar_intOrNull (n : Option ℤ) : IsScalar (intOrNull n) := by
  cases n <;> trivial

section
variable {value : Json} (h : IsScalar value)
include h

theorem globalStrip_of_isScalar : globalStripRawContent value = value := by
  cases value <;> first | rfl | exact h.elim

theorem prune_of_isScalar : pruneUndefined value = value := by
  cases value <;> first | rfl | exact h.elim

theorem entries_of_isScalar : value.entries = [] := by
  cases value <;> first | rfl | exact h.elim

end

theorem Flat.prune {allowlist : List String} {fields : List (String × Json)}
    (h : Flat allowlist fields) : Flat allowlist (pruneFields fields) := by
  intro p hp
  obtain ⟨key, value⟩ := p
  obtain ⟨child, hmem, -, -, rfl⟩ := mem_pruneFields.mp hp
  rw [prune_of_isScalar (h _ hmem).2]
  exact h _ hmem

section
variable {allowlist : List String} {fields : List (String × Json)} (h : Flat allowlist fields)
  (hallowed : allowlist ⊆ allowedWords)
include h hallowed

theorem Flat.stripSection : Browser.stripSection (.obj fields) allowlist = .obj fields := by
  rw [Browser.stripSection, stripSectionWith]
  congr 1
  exact stripFields_eq_self hallowed fun p hp =>
    ⟨(h p hp).1, globalStrip_of_isScalar (h p hp).2⟩

theorem Flat.assertClean : AssertClean (.obj fields) := by
  rw [assertClean_obj_iff]
  intro p hp
  refine ⟨not_raw_of_allowed (hallowed (h p hp).1), ?_⟩
  rw [AssertClean, entries_of_isScalar (h p hp).2]
  exact List.forall_mem_nil _

theorem Flat.sectionClean : SectionClean allowlist (.obj fields) := by
  intro _ hfields
  cases hfields
  intro p hp
  rw [Sdk.normalizeKey_of_allowed (hallowed (h p hp).1)]
  refine ⟨(h p hp).1, ?_⟩
  rw [GlobalClean, entries_of_isScalar (h p hp).2]
  exact List.forall_mem_nil _

end

/-! ## The shape of the packet -/

/-- The metadata: scalars, and the typing summary as a flat object. -/
def MetadataShape (fields : List (String × Json)) : Prop :=
  ∀ p ∈ fields, p.1 ∈ Sdk.allowedMetadataFields ∧
    if p.1 = "typing_summary" then
      ∃ summary, p.2 = .obj summary ∧ Flat Sdk.allowedTypingSummaryFields summary
    else IsScalar p.2

/-- What a field of the packet holds: a flat section, the metadata or a scalar. -/
def FieldShape (name : String) (value : Json) : Prop :=
  match Sdk.sectionAllowlists.lookup name with
  | some allowlist => value = .null ∨ ∃ fields, value = .obj fields ∧ Flat allowlist fields
  | none =>
      if name = "metadata" then ∃ fields, value = .obj fields ∧ MetadataShape fields
      else name ≠ "external_risk_provider" ∧ IsScalar value

def PacketShape (fields : List (String × Json)) : Prop :=
  ∀ p ∈ fields, p.1 ∈ Sdk.allowedPacketTopLevel ∧ FieldShape p.1 p.2

theorem MetadataShape.prune {fields : List (String × Json)} (h : MetadataShape fields) :
    MetadataShape (pruneFields fields) := by
  intro p hp
  obtain ⟨key, value⟩ := p
  obtain ⟨child, hmem, -, -, rfl⟩ := mem_pruneFields.mp hp
  obtain ⟨hkey, hchild⟩ := h _ hmem
  refine ⟨hkey, ?_⟩
  dsimp only at hchild ⊢
  split
  next hsummary =>
    rw [if_pos hsummary] at hchild
    obtain ⟨summary, rfl, hflat⟩ := hchild
    exact ⟨_, rfl, hflat.prune⟩
  next hsummary =>
    rw [if_neg hsummary] at hchild
    rwa [prune_of_isScalar hchild]

theorem FieldShape.prune {name : String} {value : Json} (h : FieldShape name value) :
    FieldShape name (pruneUndefined value) := by
  unfold FieldShape at h ⊢
  cases hlookup : Sdk.sectionAllowlists.lookup name with
  | some allowlist =>
      rw [hlookup] at h
      rcases h with rfl | ⟨fields, rfl, hflat⟩
      · exact .inl rfl
      · exact .inr ⟨_, rfl, hflat.prune⟩
  | none =>
      rw [hlookup] at h
      dsimp only at h ⊢
      split
      next hmetadata =>
        rw [if_pos hmetadata] at h
        obtain ⟨fields, rfl, hshape⟩ := h
        exact ⟨_, rfl, hshape.prune⟩
      next hmetadata =>
        rw [if_neg hmetadata] at h
        rw [prune_of_isScalar h.2]
        exact h

theorem PacketShape.prune {fields : List (String × Json)} (h : PacketShape fields) :
    PacketShape (pruneFields fields) := by
  intro p hp
  obtain ⟨key, value⟩ := p
  obtain ⟨child, hmem, -, -, rfl⟩ := mem_pruneFields.mp hp
  exact ⟨(h _ hmem).1, (h _ hmem).2.prune⟩

/-- What the guards of both sides find in such a value. -/
structure Passes (name : String) (value : Json) : Prop where
  stripped : stripPacketField name value = value
  asserted : AssertClean value
  scanned : PacketFieldClean name value

theorem assertClean_of_isScalar {value : Json} (h : IsScalar value) : AssertClean value := by
  rw [AssertClean, entries_of_isScalar h]
  exact List.forall_mem_nil _

theorem globalClean_of_isScalar {value : Json} (h : IsScalar value) : GlobalClean value := by
  rw [GlobalClean, entries_of_isScalar h]
  exact List.forall_mem_nil _

theorem MetadataShape.strip {fields : List (String × Json)} (h : MetadataShape fields) :
    stripMetadata (.obj fields) = .obj fields := by
  rw [stripMetadata, stripSectionWith]
  congr 1
  apply stripFields_eq_self allowedMetadataFields_subset
  intro p hp
  refine ⟨(h p hp).1, ?_⟩
  have hvalue := (h p hp).2
  split at hvalue
  next hsummary =>
    obtain ⟨summary, hobj, hflat⟩ := hvalue
    rw [if_pos hsummary, hobj]
    exact hflat.stripSection allowedTypingSummaryFields_subset
  next hsummary =>
    rw [if_neg hsummary]
    exact globalStrip_of_isScalar hvalue

theorem MetadataShape.assertClean {fields : List (String × Json)} (h : MetadataShape fields) :
    AssertClean (.obj fields) := by
  rw [assertClean_obj_iff]
  intro p hp
  refine ⟨not_raw_of_allowed (allowedMetadataFields_subset (h p hp).1), ?_⟩
  have hvalue := (h p hp).2
  split at hvalue
  · obtain ⟨summary, hobj, hflat⟩ := hvalue
    rw [hobj]
    exact hflat.assertClean allowedTypingSummaryFields_subset
  · exact assertClean_of_isScalar hvalue

theorem MetadataShape.clean {fields : List (String × Json)} (h : MetadataShape fields) :
    MetadataClean (.obj fields) := by
  intro _ hfields
  cases hfields
  intro p hp
  rw [Sdk.normalizeKey_of_allowed (allowedMetadataFields_subset (h p hp).1)]
  refine ⟨(h p hp).1, ?_⟩
  have hvalue := (h p hp).2
  rw [MetadataFieldClean]
  split at hvalue
  next hsummary =>
    obtain ⟨summary, hobj, hflat⟩ := hvalue
    rw [if_pos hsummary, hobj]
    exact hflat.sectionClean allowedTypingSummaryFields_subset
  next hsummary =>
    rw [if_neg hsummary]
    exact globalClean_of_isScalar hvalue

theorem FieldShape.passes {name : String} {value : Json} (h : FieldShape name value) :
    Passes name value := by
  unfold FieldShape at h
  cases hlookup : Sdk.sectionAllowlists.lookup name with
  | some allowlist =>
      have hclient : Browser.sectionAllowlists.lookup name = some allowlist := hlookup
      have hallowed := subset_allowedWords_of_lookup hlookup
      rw [hlookup] at h
      rcases h with rfl | ⟨fields, rfl, hflat⟩
      · refine ⟨?_, List.forall_mem_nil _, ?_⟩
        · rw [stripPacketField, hclient]
          rfl
        · rw [PacketFieldClean, hlookup]
          intro fields hfields
          cases hfields
      · refine ⟨?_, hflat.assertClean hallowed, ?_⟩
        · rw [stripPacketField, hclient]
          exact hflat.stripSection hallowed
        · rw [PacketFieldClean, hlookup]
          exact hflat.sectionClean hallowed
  | none =>
      have hclient : Browser.sectionAllowlists.lookup name = none := hlookup
      rw [hlookup] at h
      dsimp only at h
      split at h
      next hmetadata =>
        obtain ⟨fields, rfl, hshape⟩ := h
        refine ⟨?_, hshape.assertClean, ?_⟩
        · rw [stripPacketField, hclient]
          dsimp only
          rw [if_pos hmetadata]
          exact hshape.strip
        · rw [PacketFieldClean, hlookup]
          dsimp only
          rw [if_pos hmetadata]
          exact hshape.clean
      next hmetadata =>
        refine ⟨?_, assertClean_of_isScalar h.2, ?_⟩
        · rw [stripPacketField, hclient]
          dsimp only
          rw [if_neg hmetadata, if_neg h.1]
          exact globalStrip_of_isScalar h.2
        · rw [PacketFieldClean, hlookup]
          dsimp only
          rw [if_neg hmetadata, if_neg h.1]
          exact globalClean_of_isScalar h.2

section
variable {fields : List (String × Json)} (h : PacketShape fields)
include h

theorem PacketShape.strip : stripFeaturePacket (.obj fields) = .obj fields := by
  rw [stripFeaturePacket]
  congr 1
  exact stripFields_eq_self allowedPacketTopLevel_subset fun p hp =>
    ⟨(h p hp).1, (h p hp).2.passes.stripped⟩

theorem PacketShape.assertClean : AssertClean (.obj fields) := by
  rw [assertClean_obj_iff]
  intro p hp
  exact ⟨not_raw_of_allowed (allowedPacketTopLevel_subset (h p hp).1),
    (h p hp).2.passes.asserted⟩

theorem PacketShape.clean : PacketClean (.obj fields) := by
  intro _ hfields
  cases hfields
  intro p hp
  rw [Sdk.normalizeKey_of_allowed (allowedPacketTopLevel_subset (h p hp).1)]
  exact ⟨(h p hp).1, (h p hp).2.passes.scanned⟩

end

/-! ## The packet has that shape -/

theorem flat_present {allowlist : List String} {fields : List (String × Json)}
    (h : Flat allowlist fields) : Flat allowlist (present fields) :=
  fun p hp => h p (List.mem_of_mem_filter hp)

theorem flat_agentic (sqrt : ℚ → ℚ) (pointerAgentic : Pointer.AgenticSummary ℚ) (startedAt : ℚ)
    (typingAgentic : Typing.AgenticSection) : Flat Sdk.allowedAgenticFields
      (agenticFeatures sqrt pointerAgentic startedAt typingAgentic) := by
  simp [Flat, agenticFeatures, Sdk.allowedAgenticFields, isScalar_num, isScalar_numberOrNull]

theorem flat_challenge (challenge : Typing.ChallengeSection) :
    Flat Sdk.allowedChallengeFields (challengeFields challenge) := by
  simp [Flat, challengeFields, Sdk.allowedChallengeFields, isScalar_str, isScalar_num,
    isScalar_numberOrNull]

theorem flat_environment (win : BrowserWindow) :
    Flat Sdk.allowedEnvironmentFields (environmentFeatures win) := by
  simp [Flat, environmentFeatures, Sdk.allowedEnvironmentFields, isScalar_bool, isScalar_num,
    isScalar_intOrNull]

theorem flat_pageContext (win : BrowserWindow) :
    Flat Sdk.allowedPageContextFields (pageContext win) := by
  simp [Flat, pageContext, Sdk.allowedPageContextFields, isScalar_bool, isScalar_stringOrNull]

theorem flat_pointer (pointer : Pointer.Summary ℚ) :
    Flat Sdk.allowedPointerFields (pointerFields pointer) := by
  simp [Flat, pointerFields, Sdk.allowedPointerFields, isScalar_num, isScalar_numberOrNull]

theorem flat_typing (typing : Typing.TypingSection) :
    Flat Sdk.allowedTypingFields typing.fields := by
  simp [Flat, Typing.TypingSection.fields, Sdk.allowedTypingFields, isScalar_num,
    isScalar_numberOrNull]

theorem flat_typingSummary (summary : Typing.TypingSummary) :
    Flat Sdk.allowedTypingSummaryFields (typingSummaryFields summary) := by
  simp [Flat, typingSummaryFields, Sdk.allowedTypingSummaryFields, isScalar_num,
    isScalar_numberOrNull]

section
variable {Field : Type} (reading : Reading) (sdk : TruePresenceBrowserSDK Field)

theorem flat_sessionContinuity :
    Flat Sdk.allowedSessionContinuityFields (sdk.sessionContinuity reading) := by
  simp [Flat, TruePresenceBrowserSDK.sessionContinuity, Sdk.allowedSessionContinuityFields,
    isScalar_num]

theorem metadataShape : MetadataShape (sdk.metadata reading) := by
  simp [MetadataShape, TruePresenceBrowserSDK.metadata, Sdk.allowedMetadataFields, isScalar_str,
    isScalar_num, flat_typingSummary]

theorem challengeShape (challenge : Option Typing.ChallengeSection) :
    normalizeChallengeFeatures challenge = .null ∨
      ∃ fields, normalizeChallengeFeatures challenge = .obj fields ∧
        Flat Sdk.allowedChallengeFields fields := by
  cases challenge with
  | none => exact .inl rfl
  | some challenge =>
      rw [normalizeChallengeFeatures]
      split
      · exact .inl rfl
      · exact .inr ⟨_, rfl, flat_present (flat_challenge challenge)⟩

theorem packetShape : PacketShape (sdk.packetFields reading) := by
  have hsections : ∀ {name : String} {allowlist : List String} {fields : List (String × Json)},
      Sdk.sectionAllowlists.lookup name = some allowlist → Flat allowlist fields →
        FieldShape name (.obj fields) := by
    intro name allowlist fields hlookup hflat
    rw [FieldShape, hlookup]
    exact .inr ⟨fields, rfl, hflat⟩
  have hscalars : ∀ {name : String} {value : Json}, Sdk.sectionAllowlists.lookup name = none →
      name ≠ "metadata" → name ≠ "external_risk_provider" → IsScalar value →
        FieldShape name value := by
    intro name value hlookup hmetadata hexternal hscalar
    rw [FieldShape, hlookup]
    dsimp only
    rw [if_neg hmetadata]
    exact ⟨hexternal, hscalar⟩
  simp only [PacketShape, TruePresenceBrowserSDK.packetFields, List.forall_mem_cons]
  refine ⟨⟨by decide, hsections rfl (flat_agentic _ _ _ _)⟩, ⟨by decide, challengeShape _⟩,
    ⟨by decide, hsections rfl (flat_environment _)⟩,
    ⟨by decide, ⟨_, rfl, metadataShape reading sdk⟩⟩,
    ⟨by decide, hsections rfl (flat_pageContext _)⟩, ⟨by decide, hsections rfl (flat_pointer _)⟩,
    ⟨by decide, hsections rfl (flat_sessionContinuity reading sdk)⟩,
    ⟨by decide, hscalars rfl (by decide) (by decide) trivial⟩,
    ⟨by decide, hscalars rfl (by decide) (by decide) trivial⟩,
    ⟨by decide, hscalars rfl (by decide) (by decide) trivial⟩,
    ⟨by decide, hscalars rfl (by decide) (by decide) trivial⟩,
    ⟨by decide, hsections rfl (flat_typing _)⟩, List.forall_mem_nil _⟩

end

/-! ## The client sends the packet as it is -/

section
variable {Field : Type} (reading : Reading) (sdk : TruePresenceBrowserSDK Field)

/-- The packet after pruning. -/
theorem featurePacket_shape :
    sdk.featurePacket reading = .obj (pruneFields (sdk.packetFields reading)) ∧
      PacketShape (pruneFields (sdk.packetFields reading)) :=
  ⟨rfl, (packetShape reading sdk).prune⟩

theorem strip_payload : Browser.stripRawContent (sdk.payload reading) = sdk.payload reading := by
  obtain ⟨hpacket, hshape⟩ := featurePacket_shape reading sdk
  have htext : ∀ {name : String} (text : String), name ≠ "feature_packet" →
      stripRequestField name (.str text) = .str text := by
    intro name text hname
    rw [stripRequestField, if_neg hname, globalStripRawContent]
  have hfields : ∀ p ∈ [("enforcement_mode", Json.str sdk.config.enforcementMode),
      ("session_id", .str sdk.sessionId), ("tenant_id", .str sdk.config.tenantId),
      ("feature_packet", sdk.featurePacket reading)],
      p.1 ∈ allowedRequestTopLevel ∧ stripRequestField p.1 p.2 = p.2 := by
    simp only [List.forall_mem_cons]
    refine ⟨⟨by decide, htext _ (by decide)⟩, ⟨by decide, htext _ (by decide)⟩,
      ⟨by decide, htext _ (by decide)⟩, ⟨by decide, ?_⟩, List.forall_mem_nil _⟩
    rw [stripRequestField, if_pos rfl, hpacket]
    exact hshape.strip
  rw [TruePresenceBrowserSDK.payload, Browser.stripRawContent,
    show allowedRequestFields = allowedRequestTopLevel from rfl,
    stripFields_eq_self allowedRequestTopLevel_subset hfields]

theorem prune_payload : pruneUndefined (sdk.payload reading) = sdk.payload reading := by
  have hpacket : pruneUndefined (sdk.featurePacket reading) = sdk.featurePacket reading :=
    pruneUndefined_idem _
  have hnull : isNull (sdk.featurePacket reading) = false := by
    rw [(featurePacket_shape reading sdk).1]
    rfl
  have htext : ∀ text, isNull (.str text) = false := fun _ => rfl
  simp [TruePresenceBrowserSDK.payload, pruneUndefined, pruneFields, hpacket, hnull, htext]

theorem assertClean_payload : AssertClean (sdk.payload reading) := by
  obtain ⟨hpacket, hshape⟩ := featurePacket_shape reading sdk
  rw [TruePresenceBrowserSDK.payload, assertClean_obj_iff]
  simp only [List.forall_mem_cons]
  refine ⟨⟨not_raw_of_allowed (by decide), List.forall_mem_nil _⟩, ⟨not_raw_of_allowed (by decide), List.forall_mem_nil _⟩,
    ⟨not_raw_of_allowed (by decide), List.forall_mem_nil _⟩, ⟨not_raw_of_allowed (by decide), ?_⟩, List.forall_mem_nil _⟩
  rw [hpacket]
  exact hshape.assertClean

/-- The guard lets the payload of a page through and takes nothing away. -/
theorem buildEvaluationPayload_ok :
    sdk.buildEvaluationPayload reading = .ok (sdk.payload reading) := by
  have hsafe : safePayload (sdk.payload reading) = .ok (sdk.payload reading) := by
    rw [safePayload, strip_payload, prune_payload,
      (assertPrivacySafePayload_eq_ok_iff "" _).mpr (assertClean_payload reading sdk)]
  rw [TruePresenceBrowserSDK.buildEvaluationPayload, Browser.buildEvaluationPayload, hsafe]
  exact hsafe

end

end TruePresenceESE.Sdk.BrowserSdk
