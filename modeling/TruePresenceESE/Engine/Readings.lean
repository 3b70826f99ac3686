import TruePresenceESE.Engine.SynthesisOrder

/-! # What the ensemble reads off the signals

Three numbers and a severity determine the probabilities, the confidences and the
disagreement of all five reports.
-/

namespace TruePresenceESE.Engine

open PyValue JsonDict

/-! ## Readings -/

structure Readings where
  liveness : ℚ
  severity : ℚ
  mediation : ℚ
  relay : ℚ

def readSignals (signals : JsonDict) : Except PyError Readings := do
  let liveness ← floatOperand (signals.getOr "liveness" (.num 0))
  let raised ← raisedIndicators (adversarialIndicators signals)
  let mediation ← floatOperand (signals.getOr "ai_mediation" (.num 0))
  let relay ← floatOperand (signals.getOr "relay_risk" (.num 0))
  return ⟨liveness, severityOf raised, mediation, relay⟩

theorem readSignals_ok {signals : JsonDict} {readings : Readings}
    (h : readSignals signals = .ok readings) :
    ∃ raised, floatOperand (signals.getOr "liveness" (.num 0)) = .ok readings.liveness ∧
      raisedIndicators (adversarialIndicators signals) = .ok raised ∧
      floatOperand (signals.getOr "ai_mediation" (.num 0)) = .ok readings.mediation ∧
      floatOperand (signals.getOr "relay_risk" (.num 0)) = .ok readings.relay ∧
      readings.severity = severityOf raised := by
  obtain ⟨liveness, hliveness, h⟩ := Fallible.bind_eq_ok_iff.mp h
  obtain ⟨raised, hraised, h⟩ := Fallible.bind_eq_ok_iff.mp h
  obtain ⟨mediation, hmediation, h⟩ := Fallible.bind_eq_ok_iff.mp h
  obtain ⟨relay, hrelay, h⟩ := Fallible.bind_eq_ok_iff.mp h
  cases h
  exact ⟨raised, hliveness, hraised, hmediation, hrelay, rfl⟩

namespace Readings

/-- The probabilities of the four roles. -/
def probabilities (readings : Readings) : List ℚ :=
  [readings.liveness, 1 - readings.severity, 1 - readings.mediation, 1 - readings.relay]

/-- The confidences of the four roles. -/
def confidences (readings : Readings) (temporalDrift : ℚ) : List ℚ :=
  [min 1 (readings.liveness + (if temporalDrift < 0.1 then 0.2 else 0)),
    min 1 (0.5 + readings.severity * 0.5), min 1 (0.5 + readings.mediation * 0.5),
    min 1 (0.5 + readings.relay * 0.5)]

def reviewConfidence (readings : Readings) : ℚ :=
  max 0.4 (min 0.95 (0.55 + spread readings.probabilities / 2))

def numbers (readings : Readings) (temporalDrift : ℚ) : ReportNumbers where
  humanProbability := readings.probabilities.sum / 4
  roleConfidence :=
    ((readings.confidences temporalDrift).sum + readings.reviewConfidence) / 5
  disagreement := spread readings.probabilities

end Readings

/-! ## Single reports -/

/-- What the synthesizer looks at in each report. -/
structure ReportView where
  humanProbability : Json
  confidence : Json
  disagreement : Json

def RoleReport.view (report : RoleReport) : ReportView :=
  ⟨report.humanProbability, report.confidence, report.metadata.get "disagreement_score"⟩

theorem normalizeSingleReport_ok {host : ReportHost} {role : String} {raw : JsonDict}
    {report : RoleReport} (h : normalizeSingleReport host role raw = .ok report) :
    report.humanProbability = raw.get "human_probability" ∧
      (∃ confidence, toFloat host.parseFloat (raw.getOr "confidence" (.num 0.5)) = .ok confidence ∧
        report.confidence = .num confidence) ∧
      ∃ metadata, host.dictOf (raw.getOr "metadata" (.obj [])) = .ok metadata ∧
        report.metadata.get "disagreement_score" = metadata.get "disagreement_score" := by
  obtain ⟨findings, -, h⟩ := Fallible.bind_eq_ok_iff.mp h
  obtain ⟨confidence, hconfidence, h⟩ := Fallible.bind_eq_ok_iff.mp h
  obtain ⟨metadata, hmetadata, h⟩ := Fallible.bind_eq_ok_iff.mp h
  cases h
  refine ⟨rfl, ⟨confidence, hconfidence, rfl⟩, metadata, hmetadata, ?_⟩
  dsimp only
  rw [JsonDict.get_set, if_neg (by decide)]

theorem toFloat_num {parse : String → Option ℚ} {q q' : ℚ} (h : toFloat parse (.num q) = .ok q') :
    q' = q := by
  simp only [toFloat] at h
  split at h
  · exact (Except.ok.inj h).symm
  · cases h

/-- The view that a role's answer leads to. -/
def outputView (probability : Json) (confidence : ℚ) : ReportView :=
  ⟨probability, .num confidence, .null⟩

/-- A report of a role that answers with a number for its confidence and no metadata. -/
theorem report_of_output {host : ReportHost} {role : String} {raw : JsonDict} {report : RoleReport}
    {probability : Json} {confidence : ℚ}
    (h : normalizeSingleReport host role raw = .ok report)
    (hprobability : raw.get "human_probability" = probability)
    (hconfidence : raw.getOr "confidence" (.num 0.5) = .num confidence)
    (hmetadata : raw.getOr "metadata" (.obj []) = .obj []) :
    report.view = outputView probability confidence := by
  obtain ⟨hp, ⟨c, hc, hreport⟩, metadata, hm, hscore⟩ := normalizeSingleReport_ok h
  rw [hconfidence] at hc
  rw [hmetadata] at hm
  cases hm
  rw [RoleReport.view, hp, hprobability, hreport, toFloat_num hc, hscore]
  rfl

/-! ## The five reports -/

theorem spread_nonneg (q : ℚ) (rest : List ℚ) : 0 ≤ spread (q :: rest) := by
  have hmin : ∀ (values : List ℚ) (p : ℚ), values.foldl min p ≤ p := by
    intro values
    induction values with
    | nil => exact fun p => le_rfl
    | cons value rest ih => exact fun p => (ih (min p value)).trans (min_le_left p value)
  have hmax : ∀ (values : List ℚ) (p : ℚ), p ≤ values.foldl max p := by
    intro values
    induction values with
    | nil => exact fun p => le_rfl
    | cons value rest ih => exact fun p => (le_max_left p value).trans (ih (max p value))
  exact sub_nonneg.mpr ((hmin rest q).trans (hmax rest q))

/-- The views of the reports of one run. -/
theorem ensembleReports_ok {host : ReportHost} {packet : EvidencePacket} {temporalDrift : ℚ}
    {reports : List RoleReport} (h : ensembleReports host packet temporalDrift = .ok reports) :
    ∃ readings, readSignals packet.signals = .ok readings ∧
      reports.map RoleReport.view =
        List.zipWith outputView
          [packet.signals.getOr "liveness" (.num 0), .num (1 - readings.severity),
            .num (1 - readings.mediation), .num (1 - readings.relay)]
          (readings.confidences temporalDrift) ++
        [⟨.null, .num readings.reviewConfidence, .num (spread readings.probabilities)⟩] := by
  obtain ⟨outputs, houtputs, h⟩ := Fallible.bind_eq_ok_iff.mp h
  obtain ⟨livenessOutput, hliveness, houtputs⟩ := Fallible.bind_eq_ok_iff.mp houtputs
  obtain ⟨adversarialOutput, hadversarial, houtputs⟩ := Fallible.bind_eq_ok_iff.mp houtputs
  obtain ⟨mediationOutput, hmediation, houtputs⟩ := Fallible.bind_eq_ok_iff.mp houtputs
  obtain ⟨relayOutput, hrelay, houtputs⟩ := Fallible.bind_eq_ok_iff.mp houtputs
  cases houtputs
  obtain ⟨liveness, hlive, hliveness⟩ := Fallible.bind_eq_ok_iff.mp hliveness
  obtain ⟨raised, hraised, hadversarial⟩ := Fallible.bind_eq_ok_iff.mp hadversarial
  obtain ⟨mediation, hmediate, hmediation⟩ := Fallible.bind_eq_ok_iff.mp hmediation
  obtain ⟨relay, hrel, hrelay⟩ := Fallible.bind_eq_ok_iff.mp hrelay
  have hread : readSignals packet.signals = .ok ⟨liveness, severityOf raised, mediation, relay⟩ := by
    rw [readSignals, hlive, hraised, hmediate, hrel]
    rfl
  refine ⟨_, hread, ?_⟩
  obtain ⟨normalized, hnormalized, h⟩ := Fallible.bind_eq_ok_iff.mp h
  obtain ⟨review, hreview, h⟩ := Fallible.bind_eq_ok_iff.mp h
  cases h
  rcases Fallible.forall₂_of_mapM_ok hnormalized with
    _ | @⟨_, first, _, _, hfirst, _ | @⟨_, second, _, _, hsecond, _ | @⟨_, third, _, _, hthird,
      _ | @⟨_, fourth, _, _, hfourth, _ | _⟩⟩⟩⟩
  cases hliveness
  cases hadversarial
  cases hmediation
  cases hrelay
  have hview₁ : first.view = outputView (packet.signals.getOr "liveness" (.num 0))
      (min 1 (liveness + (if temporalDrift < 0.1 then 0.2 else 0))) :=
    report_of_output hfirst rfl rfl rfl
  have hview₂ : second.view = outputView (.num (1 - severityOf raised))
      (min 1 (0.5 + severityOf raised * 0.5)) := report_of_output hsecond rfl rfl rfl
  have hview₃ : third.view = outputView (.num (1 - mediation)) (min 1 (0.5 + mediation * 0.5)) :=
    report_of_output hthird rfl rfl rfl
  have hview₄ : fourth.view = outputView (.num (1 - relay)) (min 1 (0.5 + relay * 0.5)) :=
    report_of_output hfourth rfl rfl rfl
  obtain ⟨probabilities, hprobabilities, hreview⟩ := Fallible.bind_eq_ok_iff.mp hreview
  obtain ⟨claims, -, hreview⟩ := Fallible.bind_eq_ok_iff.mp hreview
  have hnumber := number_of_floatOperand hlive
  have hgiven : givenProbabilities [first, second, third, fourth] =
      .ok [liveness, 1 - severityOf raised, 1 - mediation, 1 - relay] := by
    have hfirstProbability := congrArg ReportView.humanProbability hview₁
    have hothers : [second, third, fourth].map (·.humanProbability) =
        [.num (1 - severityOf raised), .num (1 - mediation), .num (1 - relay)] := by
      have h₂ := congrArg ReportView.humanProbability hview₂
      have h₃ := congrArg ReportView.humanProbability hview₃
      have h₄ := congrArg ReportView.humanProbability hview₄
      simp only [RoleReport.view, outputView] at h₂ h₃ h₄
      simp [h₂, h₃, h₄]
    simp only [RoleReport.view, outputView] at hfirstProbability
    rw [givenProbabilities, List.map_cons, hothers, hfirstProbability,
      List.filter_cons_of_pos (by rw [isNone_of_number hnumber]; rfl), List.mapM_cons, hnumber]
    rfl
  rw [hgiven, Except.ok.injEq] at hprobabilities
  subst hprobabilities
  cases hreview
  rw [List.map_append, List.map_cons, List.map_cons, List.map_cons, List.map_cons, hview₁, hview₂,
    hview₃, hview₄]
  rfl

/-! ## The numbers behind a decision -/

section
variable {parse : String → Option ℚ} {default q q' : ℚ}

theorem coerceFloat_num (h : coerceFloat parse default (.num q) = .ok q') : q' = q := by
  simp only [coerceFloat, toFloat] at h
  by_cases hsmall : |q| < 2 ^ 1024 - 2 ^ 970
  · rw [if_pos hsmall] at h
    exact (Except.ok.inj h).symm
  · rw [if_neg hsmall] at h
    cases h

theorem coerceFloat_of_floatOperand {value : Json} (h : floatOperand value = .ok q) :
    coerceFloat parse default value = .ok q := by
  cases value with
  | bool b =>
      cases h
      rfl
  | num p =>
      have hfloat : toFloat parse (.num p) = .ok q := h
      rw [coerceFloat, hfloat]
  | _ => cases h

theorem coerceFloat_nums {values results : List ℚ}
    (h : (values.map Json.num).mapM (coerceFloat parse default) = .ok results) :
    results = values := by
  have hall := Fallible.forall₂_of_mapM_ok h
  rw [List.forall₂_map_left_iff] at hall
  clear h
  induction hall with
  | nil => rfl
  | cons hhead _ ih => rw [coerceFloat_num hhead, ih]

end

/-- The reports of one run determine the numbers through their readings. -/
theorem reportNumbers_of_readings {host : ReportHost} {packet : EvidencePacket} {temporalDrift : ℚ}
    {reports : List RoleReport} {parse : String → Option ℚ} {numbers : ReportNumbers}
    (hreports : ensembleReports host packet temporalDrift = .ok reports)
    (h : reportNumbers parse reports = .ok numbers) :
    ∃ readings, readSignals packet.signals = .ok readings ∧
      numbers = readings.numbers temporalDrift := by
  obtain ⟨readings, hread, hviews⟩ := ensembleReports_ok hreports
  refine ⟨readings, hread, ?_⟩
  obtain ⟨hprobability, hconfidence, hdisagreement⟩ := reportNumbers_ok_iff.mp h
  obtain ⟨_, hliveness, -⟩ := readSignals_ok hread
  obtain ⟨values, hvalues, haverage⟩ := Fallible.bind_eq_ok_iff.mp hprobability
  obtain ⟨confidences, hconfidences, haverage'⟩ := Fallible.bind_eq_ok_iff.mp hconfidence
  obtain ⟨scores, hscores, hmax⟩ := Fallible.bind_eq_ok_iff.mp hdisagreement
  have hprobabilities : values = readings.probabilities := by
    have hmembers : reports.map (·.humanProbability) =
        [packet.signals.getOr "liveness" (.num 0), .num (1 - readings.severity),
          .num (1 - readings.mediation), .num (1 - readings.relay), .null] := by
      have := congrArg (List.map ReportView.humanProbability) hviews
      rwa [List.map_map] at this
    rw [hmembers, List.filter_cons_of_pos
      (by rw [isNone_of_number (number_of_floatOperand hliveness)]; rfl), List.mapM_cons,
      coerceFloat_of_floatOperand hliveness] at hvalues
    obtain ⟨first, hfirst, hvalues⟩ := Fallible.bind_eq_ok_iff.mp hvalues
    obtain ⟨rest, hrest, hvalues⟩ := Fallible.bind_eq_ok_iff.mp hvalues
    have hothers : rest = [1 - readings.severity, 1 - readings.mediation, 1 - readings.relay] :=
      coerceFloat_nums hrest
    rw [← Except.ok.inj hvalues, ← Except.ok.inj hfirst, hothers]
    rfl
  have hroleConfidences : confidences =
      readings.confidences temporalDrift ++ [readings.reviewConfidence] := by
    have hmembers : reports.map (·.confidence) =
        (readings.confidences temporalDrift ++ [readings.reviewConfidence]).map Json.num := by
      have := congrArg (List.map ReportView.confidence) hviews
      rwa [List.map_map] at this
    rw [hmembers] at hconfidences
    exact coerceFloat_nums hconfidences
  have hscore : scores = [0, 0, 0, 0, spread readings.probabilities] := by
    have hall := Fallible.forall₂_of_mapM_ok hscores
    have hall' : List.Forall₂ (fun (view : ReportView) score =>
        coerceFloat parse 0 view.disagreement = .ok score) (reports.map RoleReport.view) scores := by
      rw [List.forall₂_map_left_iff]
      exact hall
    rw [hviews] at hall'
    rcases hall' with _ | ⟨h₁, _ | ⟨h₂, _ | ⟨h₃, _ | ⟨h₄, _ | ⟨h₅, _ | _⟩⟩⟩⟩⟩
    rw [← Except.ok.inj h₁, ← Except.ok.inj h₂, ← Except.ok.inj h₃, ← Except.ok.inj h₄,
      coerceFloat_num h₅]
  have hfirst : numbers.humanProbability = readings.probabilities.sum / 4 := by
    rw [← Except.ok.inj haverage, hprobabilities]
    simp [average, Readings.probabilities]
  have hsecond : numbers.roleConfidence =
      ((readings.confidences temporalDrift).sum + readings.reviewConfidence) / 5 := by
    rw [← Except.ok.inj haverage', hroleConfidences]
    simp [average, Readings.confidences, add_assoc]
  have hthird : numbers.disagreement = spread readings.probabilities := by
    rw [← Except.ok.inj hmax, hscore]
    have hnonneg : 0 ≤ spread readings.probabilities := spread_nonneg _ _
    simp [hnonneg]
  rw [Readings.numbers, ← hfirst, ← hsecond, ← hthird]

section
variable {host : ReportHost} {decisionId : String} {packet : EvidencePacket} {temporalDrift : ℚ}
  {tier : Tier} {decision : DecisionObject}

theorem decideOn_tierZero
    (h : decideOn host decisionId packet temporalDrift .tier0 = .ok decision) :
    decision = decisionOf decisionId packet [] .tier0 (tierZeroDraft packet) 0.01 0.99 := by
  obtain ⟨reports, hreports, h⟩ := Fallible.bind_eq_ok_iff.mp h
  cases hreports
  exact (Except.ok.inj h).symm

/-- Off tier 0 the readings of the packet determine the numbers of its decision. -/
theorem decideOn_readings (htier : tier ≠ .tier0)
    (h : decideOn host decisionId packet temporalDrift tier = .ok decision) :
    ∃ reports readings, readSignals packet.signals = .ok readings ∧
      decision = decisionOf decisionId packet reports tier
        (applySynthesisRules packet.flags tier (readings.numbers temporalDrift).humanProbability
          (readings.numbers temporalDrift).roleConfidence
          (readings.numbers temporalDrift).disagreement)
        (readings.numbers temporalDrift).humanProbability
        (max 0 (min 1 (1 - (readings.numbers temporalDrift).humanProbability))) := by
  obtain ⟨reports, hreports, h⟩ := Fallible.bind_eq_ok_iff.mp h
  rw [tierReports, if_neg htier] at hreports
  obtain ⟨numbers, hnumbers, hdecision⟩ := synthesizeDecision_ok htier h
  obtain ⟨readings, hread, rfl⟩ := reportNumbers_of_readings hreports hnumbers
  exact ⟨reports, readings, hread, hdecision⟩

theorem decideOn_state (htier : tier ≠ .tier0)
    (h : decideOn host decisionId packet temporalDrift tier = .ok decision) :
    ∃ readings, readSignals packet.signals = .ok readings ∧
      decision.state = settledState packet.flags tier (readings.numbers temporalDrift) := by
  obtain ⟨reports, readings, hread, rfl⟩ := decideOn_readings htier h
  exact ⟨readings, hread, applySynthesisRules_state packet.flags tier _⟩

end

end TruePresenceESE.Engine
