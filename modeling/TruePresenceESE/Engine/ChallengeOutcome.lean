import TruePresenceESE.Engine.ProbabilityRange

/-! # Two runs that differ in the outcome of the challenge

A passed challenge adds to the default liveness and to nothing else that the rules
look at. The average probability rises with it, but so can the disagreement of the
roles and their confidence, and these are bounds that make a state more severe.
-/

namespace TruePresenceESE.Engine

open PyValue JsonDict

/-! ## The packets of the two runs -/

/-- The events and contexts of two runs, equal but for the challenge. -/
structure SameButChallenge (event context event' context' : JsonDict) : Prop where
  event : SameOutside ["challenge_result", "challenge_response"] event event'
  context : SameOutside ["challenge_data"] context context'

section
variable {parse : String → Option ℚ} {event context event' context' : JsonDict}

theorem mergeFeatureSources_same (h : SameButChallenge event context event' context') :
    mergeFeatureSources event = mergeFeatureSources event' := by
  unfold mergeFeatureSources
  rw [h.event.get_eq "features" (by decide), h.event.get_eq "signals" (by decide)]

theorem deriveTimingFeatures_same (h : SameButChallenge event context event' context') :
    deriveTimingFeatures parse event context = deriveTimingFeatures parse event' context' := by
  unfold deriveTimingFeatures
  rw [mergeFeatureSources_same h, h.event.get_eq "payload" (by decide),
    h.context.get_eq "timing_features" (by decide)]

theorem deriveBehavioralFeatures_same (h : SameButChallenge event context event' context') :
    deriveBehavioralFeatures event context = deriveBehavioralFeatures event' context' := by
  unfold deriveBehavioralFeatures
  rw [mergeFeatureSources_same h, h.context.get_eq "behavioral_features" (by decide),
    h.context.get_eq "known_automation_fingerprint" (by decide)]

theorem derivePolicyContext_same (h : SameButChallenge event context event' context') :
    derivePolicyContext event context = derivePolicyContext event' context' := by
  unfold derivePolicyContext
  rw [h.context.get_eq "policy_context" (by decide),
    h.event.get_eq "event_type" (by decide)]

theorem deriveIdentityRefs_same {sessionId : String}
    (h : SameButChallenge event context event' context') :
    deriveIdentityRefs sessionId context = deriveIdentityRefs sessionId context' := by
  unfold deriveIdentityRefs
  rw [h.context.get_eq "identity_refs" (by decide)]

theorem directInteraction_same (h : SameButChallenge event context event' context') :
    directInteraction event = directInteraction event' := by
  unfold directInteraction
  rw [h.event.get_eq "event_type" (by decide),
    h.event.get_eq "context" (by decide)]

theorem defaultRelayRisk_same {payload : JsonDict}
    (h : SameButChallenge event context event' context') :
    defaultRelayRisk parse event payload = defaultRelayRisk parse event' payload := by
  unfold defaultRelayRisk
  rw [mergeFeatureSources_same h]

theorem defaultMediation_same {payload : JsonDict}
    (h : SameButChallenge event context event' context') :
    defaultMediation event payload = defaultMediation event' payload := by
  unfold defaultMediation
  rw [h.event.get_eq "event_type" (by decide)]

theorem directInteraction_le {direct : ℚ} (h : directInteraction event = .ok direct) :
    direct ≤ 0.8 := by
  obtain ⟨direct?, -, h⟩ := Fallible.bind_eq_ok_iff.mp h
  obtain ⟨message?, -, h⟩ := Fallible.bind_eq_ok_iff.mp h
  have hvalue : ∀ base : ℚ, base ≤ 0.8 →
      (if truthy ((ofValue (event.get "context")).get "is_bot") then 0.05 else base) ≤ (0.8 : ℚ) := by
    intro base hbase
    split
    · norm_num
    · exact hbase
  cases direct? with
  | true => exact Except.ok.inj h ▸ hvalue 0.8 le_rfl
  | false =>
      cases message? with
      | true => exact Except.ok.inj h ▸ hvalue 0.45 (by norm_num)
      | false => exact Except.ok.inj h ▸ hvalue 0.2 (by norm_num)

/-- A default liveness leaves room for the challenge. -/
theorem defaultLiveness_failed {direct : ℚ} {data : JsonDict} (hdirect : direct ≤ 0.8)
    (h : data.get "status" = .str "failed") : defaultLiveness direct data = direct := by
  simp only [defaultLiveness, h, isText]
  rw [if_neg (by decide), mul_zero, add_zero, min_eq_right (by linarith)]

theorem defaultLiveness_passed {direct : ℚ} {data : JsonDict} (hdirect : direct ≤ 0.8)
    (h : data.get "status" = .str "passed") : defaultLiveness direct data = direct + 0.2 := by
  simp only [defaultLiveness, h, isText]
  rw [if_pos (by decide), mul_one, min_eq_right (by linarith)]

theorem deriveDefaultSignals_ok {challengeData : JsonDict} {signals : DefaultSignals}
    (h : deriveDefaultSignals parse event challengeData = .ok signals) :
    ∃ direct relayRisk,
      directInteraction event = .ok direct ∧
      defaultRelayRisk parse event (ofValue (event.get "payload")) = .ok relayRisk ∧
      signals.liveness = defaultLiveness direct challengeData ∧
      signals.aiMediation = defaultMediation event (ofValue (event.get "payload")) ∧
      signals.relayRisk = relayRisk ∧
      signals.deterministicPolicyViolation =
        if truthy ((ofValue (event.get "threat_analysis")).get "threats_detected") then 1 else 0 := by
  obtain ⟨direct, hdirect, h⟩ := Fallible.bind_eq_ok_iff.mp h
  obtain ⟨relayRisk, hrelay, h⟩ := Fallible.bind_eq_ok_iff.mp h
  cases h
  exact ⟨direct, relayRisk, hdirect, hrelay, rfl, rfl, rfl, rfl⟩

end

/-! ## The signals of the two runs -/

/-- The packets of a failed and of a passed challenge. -/
structure ChallengePair (failed passed : EvidencePacket) : Prop where
  flags : failed.flags = passed.flags
  signals : SameOutside ["liveness", "challenge_verified", "cluster_risk"] failed.signals
    passed.signals
  liveness : failed.signals.get? "liveness" = passed.signals.get? "liveness" ∨
    ∃ direct ≤ 0.8, failed.signals.get? "liveness" = some (.num direct) ∧
      passed.signals.get? "liveness" = some (.num (direct + 0.2))

theorem signals_get? {packet : EvidencePacket} {key : String}
    (hkey : key ∉ ["challenge_verified", "cluster_risk"]) :
    packet.signals.get? key =
      (packet.behavioralFeatures.get? key).or (packet.timingFeatures.get? key) := by
  rw [List.mem_cons, List.mem_singleton, not_or] at hkey
  have hverified : ∀ d : JsonDict, (if isText "passed" (packet.challengeData.get "status") then
      d.setDefault "challenge_verified" (.num 1) else d).get? key = d.get? key := by
    intro d
    split
    · exact get?_setDefault_ne (Ne.symm hkey.1)
    · rfl
  unfold EvidencePacket.signals
  dsimp only
  split
  · rw [hverified, get?_merge]
  · rw [get?_setDefault_ne (Ne.symm hkey.2), hverified, get?_merge]

theorem challengePair_of_build {packets : PacketHost} {packetId' utcNowIso' : String}
    {surface tenantId : Json} {sessionId : String} {event context event' context' : JsonDict}
    {failed passed : EvidencePacket} (hsame : SameButChallenge event context event' context')
    (hfailed : buildEvidencePacket packets surface sessionId tenantId event context = .ok failed)
    (hpassed : buildEvidencePacket
      { packets with packetId := packetId', utcNowIso := utcNowIso' } surface sessionId tenantId
      event' context' = .ok passed)
    (hfail : failed.challengeData.get "status" = .str "failed")
    (hpass : passed.challengeData.get "status" = .str "passed") :
    ChallengePair failed passed := by
  obtain ⟨timing, behavioral, signals, htiming, hbehavioral, hsignals, hdata, htimed, hbehaved,
    hidentity, hpolicy⟩ := buildEvidencePacket_ok hfailed
  obtain ⟨timing', behavioral', signals', htiming', hbehavioral', hsignals', hdata', htimed',
    hbehaved', hidentity', hpolicy'⟩ := buildEvidencePacket_ok hpassed
  dsimp only at htiming' hbehavioral' hsignals'
  rw [← deriveTimingFeatures_same hsame, htiming, Except.ok.injEq] at htiming'
  rw [← deriveBehavioralFeatures_same hsame, hbehavioral, Except.ok.injEq] at hbehavioral'
  rw [← deriveIdentityRefs_same hsame, ← hidentity] at hidentity'
  rw [← derivePolicyContext_same hsame, ← hpolicy] at hpolicy'
  subst htiming'
  subst hbehavioral'
  obtain ⟨direct, relayRisk, hdirect, hrelay, hlive, hmediation, hrisk, hthreat⟩ :=
    deriveDefaultSignals_ok hsignals
  obtain ⟨direct', relayRisk', hdirect', hrelay', hlive', hmediation', hrisk',
    hthreat'⟩ :=
    deriveDefaultSignals_ok hsignals'
  have hpayload := hsame.event.get_eq "payload" (by decide)
  rw [← hpayload] at hrelay' hmediation'
  rw [← directInteraction_same hsame, hdirect, Except.ok.injEq] at hdirect'
  rw [← defaultRelayRisk_same hsame, hrelay, Except.ok.injEq] at hrelay'
  rw [← defaultMediation_same hsame, ← hmediation] at hmediation'
  rw [← hsame.event.get_eq "threat_analysis" (by decide), ← hthreat] at hthreat'
  subst hdirect'
  subst hrelay'
  have hle := directInteraction_le hdirect
  rw [← hdata, defaultLiveness_failed hle hfail] at hlive
  rw [← hdata', defaultLiveness_passed hle hpass] at hlive'
  rw [hlive] at hbehaved
  rw [hlive', hmediation', hthreat'] at hbehaved'
  rw [hrisk] at htimed
  rw [hrisk'] at htimed'
  have hbehavior : SameOutside ["liveness"] failed.behavioralFeatures passed.behavioralFeatures := by
    rw [hbehaved, hbehaved']
    exact (sameOutside_setDefault (by decide)).setDefault.setDefault
  refine ⟨?_, ?_, ?_⟩
  · rw [EvidencePacket.flags, EvidencePacket.flags, hidentity', hpolicy', htimed, htimed']
  · intro key hkey
    simp only [List.mem_cons, List.not_mem_nil, or_false, not_or] at hkey
    have hhidden : key ∉ ["challenge_verified", "cluster_risk"] := by
      simp [hkey]
    rw [signals_get? hhidden, signals_get? hhidden, htimed, htimed',
      hbehavior key (by simp [hkey])]
  · rw [signals_get? (by decide), signals_get? (by decide), htimed, htimed']
    have hliveness : ∀ value : Json, ∀ mediation violation : ℚ,
        (((behavioral.setDefault "liveness" value).setDefault "ai_mediation"
          (.num mediation)).setDefault "deterministic_policy_violation" (.num violation)).get?
            "liveness" = some ((behavioral.get? "liveness").getD value) := by
      intro value mediation violation
      rw [get?_setDefault_ne (by decide), get?_setDefault_ne (by decide), get?_setDefault_self]
    rw [hbehaved, hbehaved', hliveness, hliveness]
    cases behavioral.get? "liveness" with
    | some value => exact .inl rfl
    | none => exact .inr ⟨direct, hle, rfl, rfl⟩

/-! ## The readings of the two runs -/

/-- The indicators of a list whose second one is singled out. -/
theorem raisedIndicators_cons_cons {first second : Indicator} {rest raised : List Indicator}
    (h : raisedIndicators (first :: second :: rest) = .ok raised) :
    ∃ holds₁ holds₂ others, first.check = .ok holds₁ ∧ second.check = .ok holds₂ ∧
      raisedIndicators rest = .ok others ∧
      raised = (if holds₁ then [first] else []) ++ (if holds₂ then [second] else []) ++ others := by
  obtain ⟨holds₁, hfirst, h⟩ := Fallible.bind_eq_ok_iff.mp h
  obtain ⟨tail, htail, h⟩ := Fallible.bind_eq_ok_iff.mp h
  obtain ⟨holds₂, hsecond, htail⟩ := Fallible.bind_eq_ok_iff.mp htail
  obtain ⟨others, hothers, htail⟩ := Fallible.bind_eq_ok_iff.mp htail
  refine ⟨holds₁, holds₂, others, hfirst, hsecond, hothers, ?_⟩
  rw [← Except.ok.inj h, ← Except.ok.inj htail]
  cases holds₁ <;> cases holds₂ <;> rfl

/-- One indicator without a category adds at most its own share. -/
theorem severityOf_insert {front back : List Indicator} {indicator : Indicator}
    (h : indicator.threat = none) :
    severityOf (front ++ back) ≤ severityOf (front ++ [indicator] ++ back) ∧
      severityOf (front ++ [indicator] ++ back) ≤ severityOf (front ++ back) + 0.15 := by
  have hthreats : threatCategories (front ++ [indicator] ++ back) =
      threatCategories (front ++ back) := by
    simp [threatCategories, h]
  unfold severityOf
  rw [hthreats]
  split
  · norm_num
  · have hlength : ((front ++ [indicator] ++ back).length : ℚ) = (front ++ back).length + 1 := by
      simp only [List.length_append, List.length_singleton]
      push_cast
      ring
    rw [hlength]
    constructor
    · exact min_le_min_left 1 (by linarith)
    · rcases min_cases (1 : ℚ) ((front ++ back).length * 0.15 +
        (threatCategories (front ++ back)).length * 0.2) with ⟨hmin, -⟩ | ⟨hmin, -⟩
      · rw [hmin]
        exact (min_le_left _ _).trans (by norm_num)
      · rw [hmin]
        exact (min_le_right _ _).trans (by linarith)

/-- Liveness and mediation at odds. -/
def contradictory (signals : JsonDict) : Indicator :=
  ⟨"contradictory_presence_signals", none,
    both (exceeds signals "liveness" 0 0.8) (exceeds signals "ai_mediation" 0 0.5)⟩

section
variable {signals signals' : JsonDict} {readings readings' : Readings}

theorem adversarialIndicators_same
    (h : SameOutside ["liveness", "challenge_verified", "cluster_risk"] signals signals') :
    ∃ first rest, adversarialIndicators signals = first :: contradictory signals :: rest ∧
      adversarialIndicators signals' = first :: contradictory signals' :: rest := by
  refine ⟨_, _, rfl, ?_⟩
  simp only [adversarialIndicators, contradictory, exceeds, below,
    h.getOr_eq "optimization_risk" _ (by decide),
    h.getOr_eq "mouse_entropy" _ (by decide),
    h.getOr_eq "message_velocity" _ (by decide),
    h.getOr_eq "content_similarity" _ (by decide),
    h.getOr_eq "cpu_usage" _ (by decide),
    h.getOr_eq "network_entropy" _ (by decide),
    h.getOr_eq "copyright_indicators" _ (by decide),
    h.getOr_eq "torrent_indicators" _ (by decide),
    h.getOr_eq "p2p_pattern" _ (by decide),
    h.getOr_eq "vnc_indicators" _ (by decide),
    h.getOr_eq "remote_access_pattern" _ (by decide),
    h.getOr_eq "illegal_indicators" _ (by decide),
    h.getOr_eq "fraud_pattern" _ (by decide)]

theorem readSignals_same
    (h : SameOutside ["liveness", "challenge_verified", "cluster_risk"] signals signals')
    (hliveness : signals.get? "liveness" = signals'.get? "liveness") :
    readSignals signals = readSignals signals' := by
  obtain ⟨first, rest, hlist, hlist'⟩ := adversarialIndicators_same h
  have hmediation := h.getOr_eq "ai_mediation" (.num 0) (by decide)
  have hcontradictory : contradictory signals = contradictory signals' := by
    simp only [contradictory, exceeds, getOr_eq_of_get? hliveness, hmediation]
  rw [readSignals, readSignals, hlist, hlist', hcontradictory, getOr_eq_of_get? hliveness,
    hmediation, h.getOr_eq "relay_risk" _ (by decide)]

/-- A failed run shows no contradiction, a passed one may. -/
theorem severity_of_challenge {direct : ℚ} (hdirect : direct ≤ 0.8)
    (h : SameOutside ["liveness", "challenge_verified", "cluster_risk"] signals signals')
    (hliveness : signals.get? "liveness" = some (.num direct))
    (hread : readSignals signals = .ok readings) (hread' : readSignals signals' = .ok readings') :
    readings.severity ≤ readings'.severity ∧ readings'.severity ≤ readings.severity + 0.15 := by
  obtain ⟨raised, -, hraised, -, -, hseverity⟩ := readSignals_ok hread
  obtain ⟨raised', -, hraised', -, -, hseverity'⟩ := readSignals_ok hread'
  obtain ⟨first, rest, hlist, hlist'⟩ := adversarialIndicators_same h
  rw [hlist] at hraised
  rw [hlist'] at hraised'
  obtain ⟨holds₁, holds₂, others, hfirst, hsecond, hothers, rfl⟩ :=
    raisedIndicators_cons_cons hraised
  obtain ⟨holds₁', holds₂', others', hfirst', -, hothers', rfl⟩ :=
    raisedIndicators_cons_cons hraised'
  obtain rfl := Except.ok.inj (hfirst.symm.trans hfirst')
  obtain rfl := Except.ok.inj (hothers.symm.trans hothers')
  have hquiet : holds₂ = false := by
    have hbelow : exceeds signals "liveness" 0 0.8 = .ok false := by
      rw [exceeds, getOr, hliveness]
      simp [number, Except.map, hdirect]
    rw [contradictory, hbelow] at hsecond
    exact (Except.ok.inj hsecond).symm
  rw [hseverity, hseverity', hquiet]
  cases holds₂' with
  | false => exact ⟨le_rfl, by norm_num⟩
  | true =>
      have hinsert : (contradictory signals').threat = none := rfl
      have hshares := @severityOf_insert (if holds₁ then [first] else []) others _ hinsert
      simpa using hshares

end

/-! ## The average probability -/

/-- Passing never lowers the average. -/
theorem humanProbability_mono {failed passed : EvidencePacket} {readings readings' : Readings}
    {temporalDrift : ℚ} (hpair : ChallengePair failed passed)
    (hread : readSignals failed.signals = .ok readings)
    (hread' : readSignals passed.signals = .ok readings') :
    (readings.numbers temporalDrift).humanProbability ≤
      (readings'.numbers temporalDrift).humanProbability := by
  rcases hpair.liveness with hliveness | ⟨direct, hdirect, hliveness, hliveness'⟩
  · rw [readSignals_same hpair.signals hliveness] at hread
    rw [Except.ok.inj (hread.symm.trans hread')]
  · obtain ⟨_, hlive, -, hmediation, hrelay, -⟩ := readSignals_ok hread
    obtain ⟨_, hlive', -, hmediation', hrelay', -⟩ := readSignals_ok hread'
    rw [← hpair.signals.getOr_eq "ai_mediation" _ (by decide), hmediation,
      Except.ok.injEq] at hmediation'
    rw [← hpair.signals.getOr_eq "relay_risk" _ (by decide), hrelay,
      Except.ok.injEq] at hrelay'
    obtain ⟨-, hseverity⟩ := severity_of_challenge hdirect hpair.signals hliveness hread hread'
    have hfloat : ∀ {q q' : ℚ}, floatOperand (.num q) = .ok q' → q' = q := by
      intro q q' h
      exact (Except.ok.inj (number_of_floatOperand h)).symm
    rw [getOr, hliveness, Option.getD_some] at hlive
    rw [getOr, hliveness', Option.getD_some] at hlive'
    simp only [Readings.numbers, Readings.probabilities, List.sum_cons, List.sum_nil,
      ← hmediation', ← hrelay', hfloat hlive, hfloat hlive']
    linarith

/-! ## The states of the two runs -/

def Blocked (flags : PacketFlags) (tier : Tier) (numbers : ReportNumbers) : Prop :=
  numbers.humanProbability ≤ 0.25 ∧ (FlagsSure flags tier ∨ 0.75 ≤ numbers.roleConfidence)

/-- The failed run is not blocked, and passing lifts the disagreement over a bound
or the confidence to that of a block. -/
def PassingHurts (flags : PacketFlags) (tier : Tier) (failed passed : ReportNumbers) : Prop :=
  ¬ Blocked flags tier failed ∧
    ((failed.disagreement ≤ 0.8 ∧ 0.8 < passed.disagreement) ∨
      (flaggedState flags tier = .allow ∧ failed.disagreement ≤ 0.5 ∧
        0.5 < passed.disagreement) ∨
      Blocked flags tier passed)

section
variable {flags : PacketFlags} {tier : Tier} {numbers failed passed : ReportNumbers}

theorem settledState_of_not_blocked (h : ¬ Blocked flags tier numbers) :
    settledState flags tier numbers =
      if numbers.humanProbability ≤ 0.45 ∧
        stateUnder numbers.disagreement (flaggedState flags tier) = .allow then .observe
      else stateUnder numbers.disagreement (flaggedState flags tier) := if_neg h

theorem settledState_le_restrict (h : ¬ Blocked flags tier numbers) :
    (settledState flags tier numbers).severity ≤ DecisionState.restrict.severity := by
  rw [settledState_of_not_blocked h]
  unfold stateUnder
  rcases flaggedState_cases flags tier with hstate | hstate | hstate <;> rw [hstate] <;>
    split_ifs <;> decide

theorem settledState_lt_restrict (h : ¬ Blocked flags tier numbers)
    (hfew : numbers.disagreement ≤ 0.8) :
    (settledState flags tier numbers).severity < DecisionState.restrict.severity := by
  rw [settledState_of_not_blocked h]
  unfold stateUnder
  rw [if_neg (not_lt.mpr hfew)]
  rcases flaggedState_cases flags tier with hstate | hstate | hstate <;> rw [hstate] <;>
    split_ifs <;> decide

/-- Where the flags ask for nothing, disagreement of more than one half is observed
more closely than the lack of it. -/
theorem settledState_unflagged (h : ¬ Blocked flags tier numbers)
    (hfew : numbers.disagreement ≤ 0.8) (hflagged : flaggedState flags tier = .allow) :
    settledState flags tier numbers =
      if 0.5 < numbers.disagreement then .elevatedObserve
      else if numbers.humanProbability ≤ 0.45 then .observe else .allow := by
  rw [settledState_of_not_blocked h, hflagged]
  unfold stateUnder
  rw [if_neg (not_lt.mpr hfew)]
  by_cases hsome : 0.5 < numbers.disagreement <;> simp [hsome]

theorem settledState_passing_iff (hprobability : failed.humanProbability ≤ passed.humanProbability) :
    (settledState flags tier passed).severity ≤ (settledState flags tier failed).severity ↔
      ¬ PassingHurts flags tier failed passed := by
  by_cases hblocked : Blocked flags tier failed
  · have htop : settledState flags tier failed = .block := if_pos hblocked
    rw [htop]
    exact iff_of_true (settledState_le_block flags tier passed) fun h => h.1 hblocked
  by_cases hblocked' : Blocked flags tier passed
  · have htop : settledState flags tier passed = .block := if_pos hblocked'
    rw [htop]
    refine iff_of_false (not_le.mpr ?_) fun h => h ⟨hblocked, .inr (.inr hblocked')⟩
    exact (settledState_le_restrict hblocked).trans_lt (by decide)
  by_cases hmuch' : 0.8 < passed.disagreement
  · rw [settledState_of_disagreement hblocked' hmuch']
    by_cases hmuch : 0.8 < failed.disagreement
    · rw [settledState_of_disagreement hblocked hmuch]
      refine iff_of_true le_rfl ?_
      rintro ⟨-, ⟨hfew, -⟩ | ⟨-, hfew, -⟩ | h⟩
      · exact absurd hmuch (not_lt.mpr hfew)
      · linarith
      · exact hblocked' h
    · have hfew := not_lt.mp hmuch
      exact iff_of_false (not_le.mpr (settledState_lt_restrict hblocked hfew))
        fun h => h ⟨hblocked, .inl ⟨hfew, hmuch'⟩⟩
  have hfew' := not_lt.mp hmuch'
  have hhurts : PassingHurts flags tier failed passed ↔
      flaggedState flags tier = .allow ∧ failed.disagreement ≤ 0.5 ∧ 0.5 < passed.disagreement := by
    constructor
    · rintro ⟨-, h | h | h⟩
      · exact absurd h.2 hmuch'
      · exact h
      · exact absurd h hblocked'
    · exact fun h => ⟨hblocked, .inr (.inl h)⟩
  rw [hhurts]
  by_cases hmuch : 0.8 < failed.disagreement
  · rw [settledState_of_disagreement hblocked hmuch]
    refine iff_of_true (settledState_le_restrict hblocked') fun h => ?_
    linarith [h.2.1]
  have hfew := not_lt.mp hmuch
  by_cases hflagged : flaggedState flags tier = .allow
  · rw [settledState_unflagged hblocked hfew hflagged,
      settledState_unflagged hblocked' hfew' hflagged]
    by_cases hsome' : 0.5 < passed.disagreement
    · by_cases hsome : 0.5 < failed.disagreement
      · rw [if_pos hsome, if_pos hsome']
        exact iff_of_true le_rfl fun h => not_lt.mpr h.2.1 hsome
      · rw [if_neg hsome, if_pos hsome']
        refine iff_of_false ?_ fun h => h ⟨hflagged, not_lt.mp hsome, hsome'⟩
        split <;> decide
    · rw [if_neg hsome']
      refine iff_of_true ?_ fun h => hsome' h.2.2
      by_cases hlow : passed.humanProbability ≤ 0.45
      · rw [if_pos hlow, if_pos (hprobability.trans hlow)]
        split <;> decide
      · rw [if_neg hlow]
        exact Nat.zero_le _
  · rw [settledState_of_flagged hblocked hfew hflagged,
      settledState_of_flagged hblocked' hfew' hflagged]
    exact iff_of_true le_rfl fun h => hflagged h.1

end

/-! ## Passing against failing -/

/-- A cursor move within a fifth of a second. -/
def fastCursorMove : JsonDict :=
  ofFields [("event_type", .str "cursor_move"), ("payload", .obj [("response_time_ms", .num 200)])]

def challengeContext (status : String) : JsonDict :=
  ofFields [("challenge_data", .obj [("status", .str status)])]

def decideChallenged (event : JsonDict) (status : String) : Except PyError DecisionObject :=
  decideEvent plainPackets plainReports "decision" (.str "web_guard") "session" (.str "default")
    event (challengeContext status) 0 .tier1

theorem challengeContext_same (event : JsonDict) :
    SameButChallenge event (challengeContext "failed") event (challengeContext "passed") where
  event := fun _ _ => rfl
  context := by
    intro key hkey
    have hget : ∀ status, (challengeContext status).get? key = none := by
      intro status
      exact Dict.get?_update_of_notMem Dict.empty [_] hkey
    rw [hget, hget]

/-- Both events are decided, and the one that passed its challenge more severely. -/
def passingIsStricter : Bool :=
  match decideChallenged fastCursorMove "failed", decideChallenged fastCursorMove "passed" with
  | .ok decision, .ok decision' => decide (¬ decision'.state.severity ≤ decision.state.severity)
  | _, _ => false

end TruePresenceESE.Engine
