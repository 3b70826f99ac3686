import TruePresenceESE.Engine.Packet
import TruePresenceESE.Lib.Selection

/-! # Response times of two answers

The packet builder takes a response time of up to ten for seconds and a larger one for
milliseconds, and a zero for none at all. Two packets whose events differ in the response
time alone are compared on the relay risk and the latency pattern.
-/

namespace TruePresenceESE.Engine

open PyValue JsonDict

/-! ## Events with a response time -/

def payloadOf (event : JsonDict) : JsonDict := ofValue (event.get "payload")

/-- The event with this response time in its payload. -/
def timedEvent (event : JsonDict) (time : ℚ) : JsonDict :=
  event.set "payload" (.obj ((payloadOf event).set "response_time_ms" (.num time)).items)

section
variable {parse : String → Option ℚ} {event context : JsonDict} {time : ℚ}

theorem get_timedEvent {key : String} (h : "payload" ≠ key) :
    (timedEvent event time).get key = event.get key := by
  rw [timedEvent, get_set, if_neg h]

theorem payloadOf_timedEvent :
    payloadOf (timedEvent event time) = (payloadOf event).set "response_time_ms" (.num time) := by
  rw [payloadOf, timedEvent, get_set, if_pos rfl]
  exact Dict.update_empty_items _

theorem mergeFeatureSources_timedEvent :
    mergeFeatureSources (timedEvent event time) = mergeFeatureSources event := by
  unfold mergeFeatureSources
  rw [get_timedEvent (by decide), get_timedEvent (by decide)]

/-- A zero counts as missing. -/
theorem responseTimeMs_timedEvent : responseTimeMs (payloadOf (timedEvent event time)) =
    if time = 0 then (payloadOf event).get "response_time" else .num time := by
  rw [payloadOf_timedEvent, responseTimeMs, get_set, if_pos rfl, get_set, if_neg (by decide),
    orElse]
  by_cases hzero : time = 0
  · simp [hzero, truthy]
  · simp [hzero, truthy]

/-! ## What is left open -/

/-- Neither the event nor the context states the relay risk or the latency pattern. -/
structure TimingOpen (event context : JsonDict) : Prop where
  relayRisk : (mergeFeatureSources event).get? "relay_risk" = none ∧
    (ofValue (context.get "timing_features")).get? "relay_risk" = none
  latency : (mergeFeatureSources event).get? "constant_latency_pattern" = none ∧
    (ofValue (context.get "timing_features")).get? "constant_latency_pattern" = none

theorem TimingOpen.timed (h : TimingOpen event context) (time : ℚ) :
    TimingOpen (timedEvent event time) context := by
  constructor
  · rw [mergeFeatureSources_timedEvent]
    exact h.relayRisk
  · rw [mergeFeatureSources_timedEvent]
    exact h.latency

theorem get?_takeTimingKeys {merged taken : JsonDict} {key : String}
    (h : merged.get? key = none ∧ taken.get? key = none) :
    (takeTimingKeys merged taken).get? key = none := by
  unfold takeTimingKeys
  generalize timingKeys = keys
  induction keys generalizing taken with
  | nil => exact h.2
  | cons head rest ih =>
      rw [List.foldl_cons]
      apply ih
      refine ⟨h.1, ?_⟩
      cases hhead : merged.get? head with
      | none => exact h.2
      | some value =>
          have hne : head ≠ key := by
            rintro rfl
            rw [h.1] at hhead
            cases hhead
          rw [get?_setDefault_ne hne]
          exact h.2

/-- A similarity stands in for the relay risk. -/
def SimilarityGiven (event : JsonDict) : Prop :=
  isNone ((mergeFeatureSources event).get "content_similarity") = false

/-! ## What a packet says of the response time -/

/-- The relay risk of a response time in seconds. -/
def timedRisk (seconds : ℚ) : ℚ := if seconds < 0.3 then 0.9 else if 8 < seconds then 0.7 else 0.3

/-- The response time in seconds, where there is one. -/
inductive Measured (parse : String → Option ℚ) : Json → Option ℚ → Prop where
  | missing {value : Json} (h : isNone value = true) : Measured parse value none
  | seconds {value : Json} {t : ℚ} (h : isNone value = false)
      (ht : responseSeconds parse value = .ok t) : Measured parse value (some t)

theorem setLatencyPattern_ok {payload taken timed : JsonDict}
    (hopen : taken.get? "constant_latency_pattern" = none)
    (h : setLatencyPattern parse payload taken = .ok timed) :
    ∃ measured, Measured parse (responseTimeMs payload) measured ∧
      timed.get? "constant_latency_pattern" = measured.map (fun t => .bool (decide (t < 0.3))) ∧
      ∀ key, "constant_latency_pattern" ≠ key → timed.get? key = taken.get? key := by
  have hhas : taken.has "constant_latency_pattern" = false := by rw [has, hopen]; rfl
  unfold setLatencyPattern at h
  dsimp only at h
  rw [hhas] at h
  cases hnone : isNone (responseTimeMs payload) with
  | true =>
      rw [hnone] at h
      cases h
      exact ⟨none, .missing hnone, hopen, fun _ _ => rfl⟩
  | false =>
      rw [hnone] at h
      obtain ⟨seconds, hseconds, h⟩ := Fallible.bind_eq_ok_iff.mp h
      cases h
      refine ⟨some seconds, .seconds hnone hseconds, Dict.get?_set_self _ _ _, ?_⟩
      intro key hkey
      exact Dict.get?_set_ne _ _ hkey

theorem setRelayRisk_ok {timed timing : JsonDict} (hopen : timed.get? "relay_risk" = none)
    (h : setRelayRisk parse (mergeFeatureSources event) timed = .ok timing) :
    (SimilarityGiven event → ∃ risk,
      toFloat parse ((mergeFeatureSources event).get "content_similarity") = .ok risk ∧
        timing.get? "relay_risk" = some (.num risk)) ∧
      (¬ SimilarityGiven event → timing.get? "relay_risk" = none) ∧
      ∀ key, "relay_risk" ≠ key → timing.get? key = timed.get? key := by
  have hhas : timed.has "relay_risk" = false := by rw [has, hopen]; rfl
  unfold setRelayRisk at h
  dsimp only at h
  rw [hhas] at h
  unfold SimilarityGiven
  cases hnone : isNone ((mergeFeatureSources event).get "content_similarity") with
  | true =>
      rw [hnone] at h
      cases h
      exact ⟨fun hgiven => absurd hgiven (by simp), fun _ => hopen, fun _ _ => rfl⟩
  | false =>
      rw [hnone] at h
      obtain ⟨risk, hrisk, h⟩ := Fallible.bind_eq_ok_iff.mp h
      cases h
      refine ⟨fun _ => ⟨risk, hrisk, Dict.get?_set_self _ _ _⟩, fun hnot => absurd rfl hnot, ?_⟩
      intro key hkey
      exact Dict.get?_set_ne _ _ hkey

theorem defaultRelayRisk_ok {payload : JsonDict} {risk : ℚ} (hgiven : ¬ SimilarityGiven event)
    (h : defaultRelayRisk parse event payload = .ok risk) :
    ∃ measured, Measured parse (responseTimeMs payload) measured ∧
      risk = measured.elim 0.1 timedRisk := by
  have hsimilarity : orElse ((mergeFeatureSources event).getOr "content_similarity" (.num 0))
      (.num 0) = .num 0 := by
    have hnone : isNone ((mergeFeatureSources event).get "content_similarity") = true := by
      simpa [SimilarityGiven] using hgiven
    unfold JsonDict.get JsonDict.getOr at hnone
    unfold JsonDict.getOr orElse
    cases hget : (mergeFeatureSources event).get? "content_similarity" with
    | none => rfl
    | some value =>
        rw [hget, Option.getD_some] at hnone
        rw [Option.getD_some]
        cases value with
        | null => rfl
        | _ => cases hnone
  have hzero : ∀ timed : ℚ, 0 ≤ timed → ∀ risk, (do
      let similarity ← toFloat parse
        (orElse ((mergeFeatureSources event).getOr "content_similarity" (.num 0)) (.num 0))
      pure (max timed similarity) : Except PyError ℚ) = .ok risk → risk = timed := by
    intro timed htimed risk h
    rw [hsimilarity, toFloat_small (by norm_num)] at h
    cases h
    exact max_eq_left htimed
  unfold defaultRelayRisk at h
  dsimp only at h
  cases hnone : isNone (responseTimeMs payload) with
  | true =>
      rw [hnone] at h
      exact ⟨none, .missing hnone, hzero _ (by norm_num) _ h⟩
  | false =>
      rw [hnone] at h
      obtain ⟨seconds, hseconds, h⟩ := Fallible.bind_eq_ok_iff.mp h
      refine ⟨some seconds, .seconds hnone hseconds, hzero (timedRisk seconds) ?_ _ h⟩
      unfold timedRisk
      split_ifs <;> norm_num

theorem Measured.unique {value : Json} {m m' : Option ℚ} (h : Measured parse value m)
    (h' : Measured parse value m') : m = m' := by
  cases h with
  | missing hnone =>
      cases h' with
      | missing => rfl
      | seconds hsome => rw [hnone] at hsome; cases hsome
  | seconds hsome ht =>
      cases h' with
      | missing hnone => rw [hnone] at hsome; cases hsome
      | seconds _ ht' =>
          rw [ht] at ht'
          cases ht'
          rfl

/-- The relay risk and the latency pattern of a packet. -/
structure Reports (packet : EvidencePacket) (relayRisk : ℚ) (latency : Option Bool) : Prop where
  relayRisk : packet.timingFeatures.get? "relay_risk" = some (.num relayRisk)
  latency : packet.timingFeatures.get? "constant_latency_pattern" = latency.map .bool

theorem reports_of_built {host : PacketHost} {surface tenantId : Json} {sessionId : String}
    {packet : EvidencePacket} (hopen : TimingOpen event context)
    (h : buildEvidencePacket host surface sessionId tenantId event context = .ok packet) :
    ∃ measured risk, Measured host.parseFloat (responseTimeMs (payloadOf event)) measured ∧
      Reports packet risk (measured.map fun t => decide (t < 0.3)) ∧
      (SimilarityGiven event → toFloat host.parseFloat
        ((mergeFeatureSources event).get "content_similarity") = .ok risk) ∧
      (¬ SimilarityGiven event → risk = measured.elim 0.1 timedRisk) := by
  obtain ⟨timing, behavioral, signals, htiming, -, hsignals, -, hfeatures, -⟩ :=
    buildEvidencePacket_ok h
  unfold deriveTimingFeatures at htiming
  dsimp only at htiming
  obtain ⟨timed, htimed, htiming⟩ := Fallible.bind_eq_ok_iff.mp htiming
  obtain ⟨measured, hmeasured, hlatency, hkeep⟩ :=
    setLatencyPattern_ok (get?_takeTimingKeys hopen.latency) htimed
  have hrelay : timed.get? "relay_risk" = none := by
    rw [hkeep _ (by decide)]
    exact get?_takeTimingKeys hopen.relayRisk
  obtain ⟨hgiven, hnot, hkeep'⟩ := setRelayRisk_ok hrelay htiming
  have hpattern : packet.timingFeatures.get? "constant_latency_pattern" =
      (measured.map fun t => decide (t < 0.3)).map .bool := by
    rw [hfeatures, get?_setDefault_ne (by decide), hkeep' _ (by decide), hlatency, Option.map_map]
    rfl
  by_cases hsim : SimilarityGiven event
  · obtain ⟨risk, hrisk, hget⟩ := hgiven hsim
    refine ⟨measured, risk, hmeasured, ⟨?_, hpattern⟩, fun _ => hrisk, fun hno => absurd hsim hno⟩
    rw [hfeatures, get?_setDefault_self, hget, Option.getD_some]
  · obtain ⟨direct, -, hsignals⟩ := Fallible.bind_eq_ok_iff.mp hsignals
    obtain ⟨risk, hrisk, hsignals⟩ := Fallible.bind_eq_ok_iff.mp hsignals
    cases hsignals
    obtain ⟨measured', hmeasured', heq⟩ := defaultRelayRisk_ok hsim hrisk
    cases hmeasured.unique hmeasured'
    refine ⟨measured, risk, hmeasured, ⟨?_, hpattern⟩, fun hgiven => absurd hgiven hsim,
      fun _ => heq⟩
    rw [hfeatures, get?_setDefault_self, hnot hsim, Option.getD_none]

/-! ## Bands of response times -/

def secondsOf (time : ℚ) : ℚ := if 10 < time then time / 1000 else time

/-- The times that are read as less than 0.3 seconds. -/
def ReadFast (time : ℚ) : Prop := time < 0.3 ∨ 10 < time ∧ time < 300

theorem secondsOf_lt_iff (time : ℚ) : secondsOf time < 0.3 ↔ ReadFast time := by
  unfold secondsOf ReadFast
  split
  next hms =>
    constructor
    · intro h
      exact .inr ⟨hms, by linarith⟩
    · intro h
      rcases h with h | h <;> linarith
  next hs =>
    constructor
    · exact fun h => .inl h
    · intro h
      rcases h with h | h
      · exact h
      · exact absurd h.1 hs

theorem lt_secondsOf_iff {time : ℚ} (h : time ≤ 8000) :
    8 < secondsOf time ↔ 8 < time ∧ time ≤ 10 := by
  unfold secondsOf
  split
  next hms =>
    constructor
    · intro hslow
      linarith
    · intro hslow
      linarith [hslow.2]
  next hs => exact ⟨fun hslow => ⟨hslow, not_lt.mp hs⟩, fun hslow => hslow.1⟩

theorem timedRisk_le_iff {slow fast : ℚ} : timedRisk slow ≤ timedRisk fast ↔
    (slow < 0.3 → fast < 0.3) ∧ (8 < slow → fast < 0.3 ∨ 8 < fast) := by
  unfold timedRisk
  split_ifs <;> norm_num <;> grind

/-- What a positive response time needs to count for no less than a larger one. -/
def BandsKept (a b : ℚ) : Prop := ¬ (0.3 ≤ a ∧ a ≤ 10 ∧ 10 < b ∧ b < 300)

theorem latency_kept_iff {a b : ℚ} (hab : a < b) :
    (secondsOf b < 0.3 → secondsOf a < 0.3) ↔ BandsKept a b := by
  rw [secondsOf_lt_iff, secondsOf_lt_iff, BandsKept, ReadFast, ReadFast]
  grind

theorem relay_kept_iff {a b : ℚ} (hab : a < b) (hb : b ≤ 8000) :
    timedRisk (secondsOf b) ≤ timedRisk (secondsOf a) ↔
      BandsKept a b ∧ ¬ (0.3 ≤ a ∧ a ≤ 8 ∧ 8 < b ∧ b ≤ 10) := by
  rw [timedRisk_le_iff, latency_kept_iff hab, lt_secondsOf_iff hb,
    lt_secondsOf_iff (hab.le.trans hb), secondsOf_lt_iff, ReadFast]
  grind

theorem measured_timed {m : Option ℚ} (hpos : time ≠ 0) (hsmall : |time| ≤ 8000)
    (h : Measured parse (responseTimeMs (payloadOf (timedEvent event time))) m) :
    m = some (secondsOf time) := by
  rw [responseTimeMs_timedEvent, if_neg hpos] at h
  refine h.unique (.seconds rfl ?_)
  rw [responseSeconds, toFloat_small hsmall]
  rfl

/-! ## Faster is no less suspicious -/

/-- The packet of the faster answer is no less suspicious than that of the slower one. -/
def NoLessSuspicious (fast slow : EvidencePacket) : Prop :=
  (∃ fastRisk slowRisk, fast.timingFeatures.get? "relay_risk" = some (.num fastRisk) ∧
    slow.timingFeatures.get? "relay_risk" = some (.num slowRisk) ∧ slowRisk ≤ fastRisk) ∧
  (slow.timingFeatures.get? "constant_latency_pattern" = some (.bool true) →
    fast.timingFeatures.get? "constant_latency_pattern" = some (.bool true))

/-- The two times are read so that the faster answer is no less suspicious. A zero is replaced
by the payload's other response time, or counts as no time. -/
def SpeedKept (parse : String → Option ℚ) (event : JsonDict) (a b : ℚ) : Prop :=
  if a = 0 then
    if isNone ((payloadOf event).get "response_time") then SimilarityGiven event ∧ ¬ ReadFast b
    else ∀ t, responseSeconds parse ((payloadOf event).get "response_time") = .ok t →
      (ReadFast b → t < 0.3) ∧ (SimilarityGiven event ∨ t < 0.3 ∨ 8 < t ∨ ¬ (8 < b ∧ b ≤ 10))
  else BandsKept a b ∧ (SimilarityGiven event ∨ ¬ (0.3 ≤ a ∧ a ≤ 8 ∧ 8 < b ∧ b ≤ 10))

theorem noLessSuspicious_iff {fast slow : EvidencePacket} {fastRisk slowRisk slowSeconds : ℚ}
    {measured : Option ℚ} (hfast : Reports fast fastRisk (measured.map fun t => decide (t < 0.3)))
    (hslow : Reports slow slowRisk ((some slowSeconds).map fun t => decide (t < 0.3))) :
    NoLessSuspicious fast slow ↔ slowRisk ≤ fastRisk ∧
      (slowSeconds < 0.3 → ∃ t, measured = some t ∧ t < 0.3) := by
  unfold NoLessSuspicious
  rw [hfast.relayRisk, hslow.relayRisk, hfast.latency, hslow.latency]
  simp [Option.map_eq_some_iff]

theorem faster_no_less_iff {host host' : PacketHost} {surface tenantId : Json} {sessionId : String}
    {fast slow : EvidencePacket} {a b : ℚ} (hparse : host'.parseFloat = host.parseFloat)
    (hopen : TimingOpen event context) (ha : 0 ≤ a) (hab : a < b) (hb : b ≤ 8000)
    (hfast : buildEvidencePacket host surface sessionId tenantId (timedEvent event a) context =
      .ok fast)
    (hslow : buildEvidencePacket host' surface sessionId tenantId (timedEvent event b) context =
      .ok slow) :
    NoLessSuspicious fast slow ↔ SpeedKept host.parseFloat event a b := by
  obtain ⟨measured, fastRisk, hmeasured, hreports, hgiven, hnot⟩ :=
    reports_of_built (hopen.timed a) hfast
  obtain ⟨measured', slowRisk, hmeasured', hreports', hgiven', hnot'⟩ :=
    reports_of_built (hopen.timed b) hslow
  unfold SimilarityGiven at hgiven hnot hgiven' hnot'
  rw [mergeFeatureSources_timedEvent] at hgiven hnot hgiven' hnot'
  rw [hparse] at hgiven' hmeasured'
  have hbpos : b ≠ 0 := (ha.trans_lt hab).ne'
  have hbsmall : |b| ≤ 8000 := by rwa [abs_of_nonneg (ha.trans hab.le)]
  cases measured_timed hbpos hbsmall hmeasured'
  rw [noLessSuspicious_iff hreports hreports', secondsOf_lt_iff]
  have hrisk : slowRisk ≤ fastRisk ↔ SimilarityGiven event ∨
      timedRisk (secondsOf b) ≤ measured.elim 0.1 timedRisk := by
    by_cases hsim : SimilarityGiven event
    · have heq := hgiven hsim
      rw [hgiven' hsim, Except.ok.injEq] at heq
      simp [hsim, heq]
    · rw [hnot hsim, hnot' hsim]
      simp [hsim]
  rw [hrisk]
  unfold SpeedKept
  by_cases hzero : a = 0
  · rw [if_pos hzero]
    rw [responseTimeMs_timedEvent, if_pos hzero] at hmeasured
    cases hmeasured with
    | missing hnone =>
        rw [if_pos hnone]
        have hlow : ¬ timedRisk (secondsOf b) ≤ 0.1 := by
          unfold timedRisk
          split_ifs <;> norm_num
        simp [hlow]
    | @seconds t hsome ht =>
        rw [if_neg (by simp [hsome])]
        have hiff := @timedRisk_le_iff (secondsOf b) t
        rw [secondsOf_lt_iff, lt_secondsOf_iff hb] at hiff
        simp only [Option.elim_some, Option.some.injEq, exists_eq_left', ht, Except.ok.injEq,
          forall_eq', hiff]
        grind
  · rw [if_neg hzero]
    have hasmall : |a| ≤ 8000 := by
      rw [abs_of_nonneg ha]
      exact hab.le.trans hb
    cases measured_timed hzero hasmall hmeasured
    have hlatency := latency_kept_iff hab
    rw [secondsOf_lt_iff] at hlatency
    simp only [Option.elim_some, Option.some.injEq, exists_eq_left', relay_kept_iff hab hb]
    grind

end

/-! ## Two answers -/

def plainHost : PacketHost := ⟨fun _ => none, "packet", "2026-01-01T00:00:00+00:00"⟩

def latencyOf (packet : EvidencePacket) : Option Bool :=
  match packet.timingFeatures.get? "constant_latency_pattern" with
  | some (.bool b) => some b
  | _ => none

theorem get?_of_latencyOf {packet : EvidencePacket} {b : Bool} (h : latencyOf packet = some b) :
    packet.timingFeatures.get? "constant_latency_pattern" = some (.bool b) := by
  unfold latencyOf at h
  split at h
  · cases h
    assumption
  · cases h

/-- The packet of a bare answer after some milliseconds. -/
def answerPacket (time : ℚ) : Except PyError EvidencePacket :=
  buildEvidencePacket plainHost (.str "web") "session" .null (timedEvent Dict.empty time) Dict.empty

theorem timingOpen_empty : TimingOpen Dict.empty Dict.empty := ⟨⟨rfl, rfl⟩, ⟨rfl, rfl⟩⟩

theorem faster_no_less_hundred : ∃ fast slow, answerPacket 100 = .ok fast ∧
    answerPacket 400 = .ok slow ∧ NoLessSuspicious fast slow := by
  have hfast : (answerPacket 100).map (fun _ => ()) = .ok () := by decide +kernel
  have hslow : (answerPacket 400).map (fun _ => ()) = .ok () := by decide +kernel
  obtain ⟨fast, hfast, -⟩ := Fallible.map_eq_ok_iff.mp hfast
  obtain ⟨slow, hslow, -⟩ := Fallible.map_eq_ok_iff.mp hslow
  refine ⟨fast, slow, hfast, hslow, ?_⟩
  apply (faster_no_less_iff rfl timingOpen_empty (by norm_num) (by norm_num) (by norm_num)
    hfast hslow).mpr
  rw [SpeedKept, if_neg (by norm_num), BandsKept]
  norm_num

/-- Five milliseconds are read as five seconds. -/
theorem five_milliseconds_unsuspicious :
    ¬ ∀ (host : PacketHost) (surface tenantId : Json) (sessionId : String)
        (event context : JsonDict) (a b : ℚ) (fast slow : EvidencePacket),
      TimingOpen event context → 0 ≤ a → a < b → b ≤ 8000 →
      buildEvidencePacket host surface sessionId tenantId (timedEvent event a) context = .ok fast →
      buildEvidencePacket host surface sessionId tenantId (timedEvent event b) context = .ok slow →
      NoLessSuspicious fast slow := by
  intro hall
  have hfast : (answerPacket 5).map latencyOf = .ok (some false) := by decide +kernel
  have hslow : (answerPacket 50).map latencyOf = .ok (some true) := by decide +kernel
  obtain ⟨fast, hfast, hfast'⟩ := Fallible.map_eq_ok_iff.mp hfast
  obtain ⟨slow, hslow, hslow'⟩ := Fallible.map_eq_ok_iff.mp hslow
  have hkept := (hall plainHost _ _ _ Dict.empty Dict.empty 5 50 fast slow timingOpen_empty
    (by norm_num) (by norm_num) (by norm_num) hfast hslow).2 (get?_of_latencyOf hslow')
  rw [get?_of_latencyOf hfast'] at hkept
  cases hkept

end TruePresenceESE.Engine
