import TruePresenceESE.Evidence.SdkArtifacts

/-! # Community behavior detectors

Detectors over the community features of one update. Each reads a few durations and
counts, an absent count as zero, and emits at most one signal.
-/

namespace TruePresenceESE.Telegram

open Detectors Evidence

/-- Metadata-only summaries; a duration that is unknown is absent. -/
structure TelegramCommunityFeatures where
  joinToFirstMessageMs : Option ℚ := none
  joinToFirstMediaMs : Option ℚ := none
  joinToFirstLinkMs : Option ℚ := none
  messageCountWindow : Option ℕ := none
  burstCount : Option ℕ := none
  meanMessageIntervalMs : Option ℚ := none
  messageIntervalStddevMs : Option ℚ := none
  joinedWithinClusterCount : Option ℕ := none
  synchronizedPeerCount : Option ℕ := none
  groupHopCount : Option ℕ := none
  linkPresent : Bool := false
  mediaPresent : Bool := false
  deriving DecidableEq

namespace TelegramCommunityFeatures

/-- `features.model_dump(exclude_none=True)` -/
def dump (f : TelegramCommunityFeatures) : List (String × Json) :=
  let duration (name : String) (value : Option ℚ) := (value.map fun q => (name, Json.num q)).toList
  let count (name : String) (value : Option ℕ) := (value.map fun n => (name, Json.num n)).toList
  duration "join_to_first_message_ms" f.joinToFirstMessageMs ++
    duration "join_to_first_media_ms" f.joinToFirstMediaMs ++
    duration "join_to_first_link_ms" f.joinToFirstLinkMs ++
    count "message_count_window" f.messageCountWindow ++ count "burst_count" f.burstCount ++
    duration "mean_message_interval_ms" f.meanMessageIntervalMs ++
    duration "message_interval_stddev_ms" f.messageIntervalStddevMs ++
    count "joined_within_cluster_count" f.joinedWithinClusterCount ++
    count "synchronized_peer_count" f.synchronizedPeerCount ++
    count "group_hop_count" f.groupHopCount ++
    [("link_present", .bool f.linkPresent), ("media_present", .bool f.mediaPresent)]

end TelegramCommunityFeatures

/-! ## The detectors -/

/-- A signal whose severity and confidence are raised where the behavior is pronounced. -/
def telegramSignal (reasonCode : String) (pronounced : Bool) (confidence raised : ℚ)
    (contributionTarget : ContributionTarget) (category : SignalCategory) (explanation : String) :
    DetectorSignal :=
  signal reasonCode (if pronounced then .high else .medium)
    (if pronounced then raised else confidence) contributionTarget explanation category

/-- A latency that is known and at most the limit. -/
def within (limit : ℚ) (latency : Option ℚ) : Bool := latency.any (· ≤ limit)

def joinToActionPlausibility (f : TelegramCommunityFeatures) : List DetectorSignal :=
  if within 10000 f.joinToFirstMessageMs then
    [telegramSignal "join_to_action_plausibility" (within 1500 f.joinToFirstMessageMs) 0.62 0.78
      .automation .sessionContinuity
      "First observed action followed the join event unusually quickly."]
  else []

def instantPostAfterJoin (f : TelegramCommunityFeatures) : List DetectorSignal :=
  if within 3000 f.joinToFirstMessageMs then
    [telegramSignal "instant_post_after_join" (within 1000 f.joinToFirstMessageMs) 0.7 0.84
      .automation .sessionContinuity "A message was posted almost immediately after joining."]
  else []

def linkDropAfterJoin (f : TelegramCommunityFeatures) : List DetectorSignal :=
  if f.linkPresent && within 30000 f.joinToFirstLinkMs then
    [telegramSignal "link_drop_after_join" (within 5000 f.joinToFirstLinkMs) 0.68 0.82
      .automation .environment
      "A link entity appeared shortly after joining, using Telegram metadata only."]
  else []

def messageBurstPattern (f : TelegramCommunityFeatures) : List DetectorSignal :=
  let messageCount := f.messageCountWindow.getD 0
  let burstCount := f.burstCount.getD 0
  if messageCount < 5 ∨ burstCount < 4 then []
  else
    [telegramSignal "message_burst_pattern" (8 ≤ messageCount || 6 ≤ burstCount) 0.7 0.82
      .automation .sessionContinuity "Multiple messages landed in a compact timing window."]

def conversationCadenceAnomaly (f : TelegramCommunityFeatures) : List DetectorSignal :=
  let messageCount := f.messageCountWindow.getD 0
  match f.meanMessageIntervalMs, f.messageIntervalStddevMs with
  | some meanInterval, some stddev =>
      if messageCount < 4 ∨ 3000 < meanInterval ∨ 500 < stddev then []
      else
        [telegramSignal "conversation_cadence_anomaly" (6 ≤ messageCount && stddev ≤ 150) 0.64 0.76
          .automation .sessionContinuity
          "Message intervals are unusually regular over the rolling window."]
  | _, _ => []

def synchronizedPostingCluster (f : TelegramCommunityFeatures) : List DetectorSignal :=
  let peerCount := f.synchronizedPeerCount.getD 0
  if peerCount < 2 then []
  else
    [telegramSignal "synchronized_posting_cluster" (4 ≤ peerCount) 0.68 0.82
      .agenticControl .agenticBehavior "Several distinct peers posted in a tight time cluster."]

def coordinatedJoinPattern (f : TelegramCommunityFeatures) : List DetectorSignal :=
  let joinCount := f.joinedWithinClusterCount.getD 0
  if joinCount < 5 then []
  else
    [telegramSignal "coordinated_join_pattern" (10 ≤ joinCount) 0.66 0.82
      .automation .sessionContinuity
      "Several users joined the same group in a compact time cluster."]

def repeatGroupHoppingPattern (f : TelegramCommunityFeatures) : List DetectorSignal :=
  let hopCount := f.groupHopCount.getD 0
  if hopCount < 3 then []
  else
    [telegramSignal "repeat_group_hopping_pattern" (5 ≤ hopCount) 0.64 0.78
      .automation .environment "The account appears across several groups in recent metadata."]

def runTelegramCommunityDetectors (f : TelegramCommunityFeatures) : List DetectorSignal :=
  joinToActionPlausibility f ++ instantPostAfterJoin f ++ linkDropAfterJoin f ++
    messageBurstPattern f ++ conversationCadenceAnomaly f ++ synchronizedPostingCluster f ++
    coordinatedJoinPattern f ++ repeatGroupHoppingPattern f

/-! ## What the adapter makes of them -/

/-- `_community_context` -/
def communityContext (f : TelegramCommunityFeatures) (signals : List DetectorSignal) : Json :=
  .obj [("features", .obj f.dump),
    ("reason_codes", .arr (signals.map fun s => .str s.reasonCode)),
    ("detector_signals", .arr (signals.map fun s => .obj (dumpSignal s)))]

/-- Flags and numbers as scores. -/
def featureScore : Json → Option Json
  | .bool b => some (.num (if b then 1 else 0))
  | .num q => some (.num q)
  | _ => none

/-- `_community_feature_scores` -/
def communityFeatureScores (f : TelegramCommunityFeatures) : List (String × Json) :=
  f.dump.filterMap fun p => (featureScore p.2).map (("telegram_community_" ++ p.1, ·))

/-- The confidence of every signal under its code; a later signal of one code wins. -/
def communitySignalScores (signals : List DetectorSignal) : List (String × Json) :=
  signals.map fun s => ("telegram_community_" ++ s.reasonCode, .num s.confidence.val)

/-- The codes in the order of the detectors. -/
def communityReasonCodes : List String :=
  ["join_to_action_plausibility", "instant_post_after_join", "link_drop_after_join",
    "message_burst_pattern", "conversation_cadence_anomaly", "synchronized_posting_cluster",
    "coordinated_join_pattern", "repeat_group_hopping_pattern"]

theorem reasonCodes_sublist (f : TelegramCommunityFeatures) :
    ((runTelegramCommunityDetectors f).map (·.reasonCode)).Sublist communityReasonCodes := by
  have hjoin : ((joinToActionPlausibility f).map (·.reasonCode)).Sublist
      ["join_to_action_plausibility"] := by
    unfold joinToActionPlausibility
    split <;> simp [telegramSignal, signal]
  have hpost : ((instantPostAfterJoin f).map (·.reasonCode)).Sublist
      ["instant_post_after_join"] := by
    unfold instantPostAfterJoin
    split <;> simp [telegramSignal, signal]
  have hlink : ((linkDropAfterJoin f).map (·.reasonCode)).Sublist ["link_drop_after_join"] := by
    unfold linkDropAfterJoin
    split <;> simp [telegramSignal, signal]
  have hburst : ((messageBurstPattern f).map (·.reasonCode)).Sublist ["message_burst_pattern"] := by
    unfold messageBurstPattern
    dsimp only
    split <;> simp [telegramSignal, signal]
  have hcadence : ((conversationCadenceAnomaly f).map (·.reasonCode)).Sublist
      ["conversation_cadence_anomaly"] := by
    unfold conversationCadenceAnomaly
    dsimp only
    split
    · split <;> simp [telegramSignal, signal]
    · simp
  have hpeers : ((synchronizedPostingCluster f).map (·.reasonCode)).Sublist
      ["synchronized_posting_cluster"] := by
    unfold synchronizedPostingCluster
    dsimp only
    split <;> simp [telegramSignal, signal]
  have hjoins : ((coordinatedJoinPattern f).map (·.reasonCode)).Sublist
      ["coordinated_join_pattern"] := by
    unfold coordinatedJoinPattern
    dsimp only
    split <;> simp [telegramSignal, signal]
  have hhops : ((repeatGroupHoppingPattern f).map (·.reasonCode)).Sublist
      ["repeat_group_hopping_pattern"] := by
    unfold repeatGroupHoppingPattern
    dsimp only
    split <;> simp [telegramSignal, signal]
  simp only [runTelegramCommunityDetectors, List.map_append]
  exact ((((((hjoin.append hpost).append hlink).append hburst).append hcadence).append
    hpeers).append hjoins).append hhops

/-- No detector's score hides another's. -/
theorem communitySignalScores_nodup (f : TelegramCommunityFeatures) :
    ((communitySignalScores (runTelegramCommunityDetectors f)).map Prod.fst).Nodup := by
  have hnodup : (communityReasonCodes.map ("telegram_community_" ++ ·)).Nodup := by decide +kernel
  have hsub := (reasonCodes_sublist f).map ("telegram_community_" ++ ·)
  rw [communitySignalScores, List.map_map]
  rw [List.map_map] at hsub
  exact hnodup.sublist hsub

end TruePresenceESE.Telegram
