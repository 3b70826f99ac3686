import TruePresenceESE.Lib.Covering
import TruePresenceESE.Telegram.SafetyPolicy

/-! # Monotonicity of the safety escalation

`Riskier f g` moves any number of features of `f` in their risky direction. Every signal of
`f` is then covered by one of `g`, so that an escalation stays one, with a risk and a
confidence that are at least as high. The same holds of a provider that is added or that
reports more.
-/

namespace TruePresenceESE.Telegram

open Sdk Covering

/-! ## The order on features and providers -/

/-- A quantity that is known and lower. An unknown one is the least risky. -/
def Earlier {α : Type} [LE α] (a b : Option α) : Prop := ∀ x ∈ a, ∃ y ∈ b, y ≤ x

structure Riskier (f g : TelegramSafetyFeatures) : Prop where
  chatId : f.chatId = g.chatId
  messageId : f.messageId = g.messageId
  senderId : f.senderId = g.senderId
  eventTimestamp : f.eventTimestamp = g.eventTimestamp
  eventType : f.eventType = g.eventType
  mediaPresent : f.mediaPresent = true → g.mediaPresent = true
  joinToFirstMediaMs : Earlier f.joinToFirstMediaMs g.joinToFirstMediaMs
  mediaCountWindow : f.mediaCountWindow ≤ g.mediaCountWindow
  mediaBurstCount : f.mediaBurstCount ≤ g.mediaBurstCount
  synchronizedMediaPeerCount : f.synchronizedMediaPeerCount ≤ g.synchronizedMediaPeerCount
  groupHopCount : f.groupHopCount ≤ g.groupHopCount
  accountAgeDays : Earlier f.accountAgeDays g.accountAgeDays
  rapidDeleteRepostCount : f.rapidDeleteRepostCount ≤ g.rapidDeleteRepostCount

/-- A provider is added, or the same reference comes with more risk and more of the
confidence it gives. -/
def ReportsMore (p q : Option ProviderRiskSignal) : Prop :=
  ∀ a ∈ p, ∃ b ∈ q, b.providerReferenceId = a.providerReferenceId ∧
    a.riskScore.val ≤ b.riskScore.val ∧
    Option.Rel (fun c d => c.val ≤ d.val) a.confidence b.confidence

/-! ## Signals are covered -/

theorem any_le_of_earlier {α : Type} [Preorder α] [DecidableLE α] {a b : Option α} {bound : α}
    (h : Earlier a b) (ha : a.any (· ≤ bound) = true) : b.any (· ≤ bound) = true := by
  rw [Option.any_eq_true] at ha ⊢
  obtain ⟨x, hx, hle⟩ := ha
  obtain ⟨y, hy, hyx⟩ := h x hx
  rw [decide_eq_true_eq] at hle
  exact ⟨y, hy, by simpa using hyx.trans hle⟩

/-- Two tiers of a confidence under a condition that stays true, the first the higher one. -/
theorem ite_le_ite {p q : Prop} [Decidable p] [Decidable q] {a b : ℚ} (hpq : p → q) (h : b ≤ a) :
    (if p then a else b) ≤ if q then a else b := by
  split
  · next hp => rw [if_pos (hpq hp)]
  · split
    · exact h
    · exact le_rfl

/-- The same with the first tier the lower one. -/
theorem ite_le_ite_of_imp {p q : Prop} [Decidable p] [Decidable q] {a b : ℚ} (hqp : q → p)
    (h : a ≤ b) : (if p then a else b) ≤ if q then a else b := by
  split
  · split
    · exact le_rfl
    · exact h
  · next hp => rw [if_neg fun hq => hp (hqp hq)]

abbrev CoveredSignals (xs ys : List SafetySignal) : Prop :=
  Covered SafetySignal.reasonCode SafetySignal.confidence xs ys

theorem policy_of_media {f : TelegramSafetyFeatures} (hmedia : f.mediaPresent = true) :
    evaluateTelegramSafetyPolicy f = mediaSignals f ++
      if f.accountAgeDays.any (· ≤ 30) = true ∧
          (mediaSignals f).any (fun s => highRiskCodes.contains s.reasonCode) = true then
        [⟨"new_account_high_risk_media_behavior", "critical", 0.86,
          "A new account is associated with high-risk media distribution metadata."⟩]
      else [] := by
  rw [evaluateTelegramSafetyPolicy, if_pos hmedia]
  dsimp only
  split
  · rfl
  · rw [List.append_nil]

section
variable {f g : TelegramSafetyFeatures} (h : Riskier f g)
include h

theorem mediaSignals_covered : CoveredSignals (mediaSignals f) (mediaSignals g) := by
  have hwindow := h.mediaCountWindow
  have hburst := h.mediaBurstCount
  have hrepost := h.rapidDeleteRepostCount
  have hpeers := h.synchronizedMediaPeerCount
  have hhops := h.groupHopCount
  have hinstant := h.joinToFirstMediaMs
  refine .append (.append (.append (.append ?_ ?_) ?_) ?_) ?_
  · refine Covered.tier (any_le_of_earlier hinstant) rfl fun _ => ?_
    exact ite_le_ite (any_le_of_earlier hinstant) (by norm_num)
  · refine Covered.tier (by omega) rfl fun _ => ?_
    exact ite_le_ite (by omega) (by norm_num)
  · refine Covered.tier (by omega) rfl fun _ => ?_
    exact ite_le_ite_of_imp (by omega) (by norm_num)
  · refine Covered.tier (by omega) rfl fun _ => ?_
    exact ite_le_ite_of_imp (by omega) (by norm_num)
  · refine Covered.tier (by omega) rfl fun _ => ?_
    exact ite_le_ite_of_imp (by omega) (by norm_num)

theorem highRisk_of_riskier
    (hrisk : (mediaSignals f).any (fun s => highRiskCodes.contains s.reasonCode) = true) :
    (mediaSignals g).any (fun s => highRiskCodes.contains s.reasonCode) = true := by
  rw [List.any_eq_true] at hrisk ⊢
  obtain ⟨s, hs, hcode⟩ := hrisk
  obtain ⟨t, ht, hsame, -⟩ := mediaSignals_covered h s hs
  refine ⟨t, ht, ?_⟩
  rw [hsame]
  exact hcode

theorem policy_covered :
    CoveredSignals (evaluateTelegramSafetyPolicy f) (evaluateTelegramSafetyPolicy g) := by
  by_cases hmedia : f.mediaPresent = true
  · rw [policy_of_media hmedia, policy_of_media (h.mediaPresent hmedia)]
    refine (mediaSignals_covered h).append (Covered.tier ?_ rfl fun _ => le_rfl)
    rintro ⟨hnew, hrisk⟩
    exact ⟨any_le_of_earlier h.accountAgeDays hnew, highRisk_of_riskier h hrisk⟩
  · rw [evaluateTelegramSafetyPolicy, if_neg hmedia]
    exact covered_nil _

end

theorem mediaSignals_nonneg (f : TelegramSafetyFeatures) :
    ∀ s ∈ mediaSignals f, 0 ≤ s.confidence := by
  have hitem (p : Prop) [Decidable p] (x : SafetySignal) (hx : 0 ≤ x.confidence) :
      ∀ s ∈ (if p then [x] else []), 0 ≤ s.confidence := by
    split <;> simp [hx]
  have happend {xs ys : List SafetySignal} (hxs : ∀ s ∈ xs, 0 ≤ s.confidence)
      (hys : ∀ s ∈ ys, 0 ≤ s.confidence) : ∀ s ∈ xs ++ ys, 0 ≤ s.confidence :=
    List.forall_mem_append.2 ⟨hxs, hys⟩
  have hite (p : Prop) [Decidable p] {a b : ℚ} (ha : 0 ≤ a) (hb : 0 ≤ b) :
      0 ≤ if p then a else b := by
    split <;> assumption
  refine happend (happend (happend (happend ?_ ?_) ?_) ?_) ?_ <;>
    exact hitem _ _ (hite _ (by norm_num) (by norm_num))

theorem policy_nonneg (f : TelegramSafetyFeatures) :
    ∀ s ∈ evaluateTelegramSafetyPolicy f, 0 ≤ s.confidence := by
  by_cases hmedia : f.mediaPresent = true
  · rw [policy_of_media hmedia, List.forall_mem_append]
    refine ⟨mediaSignals_nonneg f, ?_⟩
    split
    · simp
      norm_num
    · nofun
  · rw [evaluateTelegramSafetyPolicy, if_neg hmedia]
    nofun

/-! ## Signals of the provider -/

/-- What the provider adds to the signals. -/
def providerSignals (provider : Option ProviderRiskSignal) : List SafetySignal :=
  (provider.filter (0.65 ≤ ·.riskScore.val)).toList.map providerSafetySignal

theorem providerConfidence_nonneg (provider : Option ProviderRiskSignal) :
    0 ≤ providerAssessmentConfidence provider := by
  cases provider with
  | none => exact le_rfl
  | some provider =>
      rw [providerAssessmentConfidence]
      split
      · next confidence _ => exact confidence.2.1
      · exact le_min (by norm_num) provider.riskScore.2.1

theorem providerConfidence_mono {p q : Option ProviderRiskSignal} (h : ReportsMore p q) :
    providerAssessmentConfidence p ≤ providerAssessmentConfidence q := by
  cases p with
  | none => exact providerConfidence_nonneg q
  | some a =>
      obtain ⟨b, rfl, -, hrisk, hconfidence⟩ := h a rfl
      rw [providerAssessmentConfidence, providerAssessmentConfidence]
      generalize a.confidence = c at hconfidence ⊢
      generalize b.confidence = d at hconfidence ⊢
      cases hconfidence with
      | none => exact min_le_min le_rfl hrisk
      | some hle => exact hle

theorem providerSignals_covered {p q : Option ProviderRiskSignal} (h : ReportsMore p q) :
    CoveredSignals (providerSignals p) (providerSignals q) := by
  cases p with
  | none => exact covered_nil _
  | some a =>
      have hmore := providerConfidence_mono h
      obtain ⟨b, rfl, -, hrisk, -⟩ := h a rfl
      intro s hs
      by_cases hhigh : (0.65 : ℚ) ≤ a.riskScore.val
      · have hsame : s = providerSafetySignal a := by
          simpa [providerSignals, Option.filter, hhigh] using hs
        refine ⟨providerSafetySignal b, ?_, ?_, ?_⟩
        · simp [providerSignals, Option.filter, hhigh.trans hrisk]
        · rw [hsame]
          rfl
        · rw [hsame]
          exact hmore
      · simp [providerSignals, Option.filter, hhigh] at hs

theorem providerSignals_eq_nil {p : Option ProviderRiskSignal} :
    providerSignals p = [] ↔ ∀ a ∈ p, a.riskScore.val < 0.65 := by
  cases p with
  | none => simp [providerSignals]
  | some a =>
      by_cases hhigh : (0.65 : ℚ) ≤ a.riskScore.val <;>
        simp [providerSignals, Option.filter, hhigh]
      exact lt_of_not_ge hhigh

/-! ## The escalation -/

def escalationSignals (f : TelegramSafetyFeatures) (p : Option ProviderRiskSignal) :
    List SafetySignal :=
  evaluateTelegramSafetyPolicy f ++ providerSignals p

theorem greatestConfidence_eq (signals : List SafetySignal) :
    greatestConfidence signals = greatest 0 (signals.map SafetySignal.confidence) := by
  rw [greatestConfidence]
  cases signals <;> rfl

theorem escalation_eq_none_iff (evidenceId : String) (f : TelegramSafetyFeatures)
    (p : Option ProviderRiskSignal) :
    evaluateTelegramSafetyEscalation evidenceId f p = none ↔ escalationSignals f p = [] := by
  rw [evaluateTelegramSafetyEscalation]
  dsimp only
  rw [← providerSignals, ← escalationSignals]
  cases escalationSignals f p with
  | nil => simp
  | cons s rest => simp [List.eraseDups_cons]

/-- What an escalation is, in terms of the signals behind it. -/
theorem escalation_eq_some {evidenceId : String} {f : TelegramSafetyFeatures}
    {p : Option ProviderRiskSignal} {e : SafetyEscalation}
    (h : evaluateTelegramSafetyEscalation evidenceId f p = some e) :
    e.riskScore = max (greatestConfidence (evaluateTelegramSafetyPolicy f))
        ((p.map (·.riskScore.val)).getD 0) ∧
      e.confidence = assessmentConfidence (escalationSignals f p) p
        ((escalationSignals f p).map SafetySignal.reasonCode).eraseDups f := by
  rw [evaluateTelegramSafetyEscalation] at h
  dsimp only at h
  rw [← providerSignals, ← escalationSignals] at h
  split at h
  · cases h
  · cases h
    exact ⟨rfl, rfl⟩

theorem greatestConfidence_mono {xs ys : List SafetySignal} (h : CoveredSignals xs ys)
    (hys : ∀ s ∈ ys, 0 ≤ s.confidence) : greatestConfidence xs ≤ greatestConfidence ys := by
  rw [greatestConfidence_eq, greatestConfidence_eq]
  exact h.greatest_le hys

theorem providerRisk_mono {p q : Option ProviderRiskSignal} (h : ReportsMore p q) :
    (p.map (·.riskScore.val)).getD 0 ≤ (q.map (·.riskScore.val)).getD 0 := by
  cases p with
  | none =>
      cases q with
      | none => exact le_rfl
      | some b => exact b.riskScore.2.1
  | some a =>
      obtain ⟨b, rfl, -, hrisk, -⟩ := h a rfl
      exact hrisk

theorem sufficientMetadata_mono {f g : TelegramSafetyFeatures} {p q : Option ProviderRiskSignal}
    (hfeatures : Riskier f g) (hprovider : ReportsMore p q)
    (h : hasSufficientMetadata f p = true) : hasSufficientMetadata g q = true := by
  rw [hasSufficientMetadata, Bool.and_eq_true] at h ⊢
  refine ⟨hfeatures.mediaPresent h.1, ?_⟩
  have hreference : p.any (·.providerReferenceId ≠ "") = true →
      q.any (·.providerReferenceId ≠ "") = true := by
    cases p with
    | none => nofun
    | some a =>
        obtain ⟨b, rfl, hsame, -⟩ := hprovider a rfl
        simp [hsame]
  have hcount := h.2
  rw [hfeatures.chatId, hfeatures.messageId, hfeatures.senderId, hfeatures.eventTimestamp] at hcount
  rw [decide_eq_true_eq] at hcount ⊢
  refine hcount.trans (Nat.add_le_add_left ?_ _)
  split
  · next hp => rw [if_pos (hreference hp)]
  · exact Nat.zero_le _

theorem corroborationBonus_nonneg (codes : List String) (f : TelegramSafetyFeatures)
    (p : Option ProviderRiskSignal) : 0 ≤ reasonCorroborationBonus codes f p := by
  rw [reasonCorroborationBonus]
  split
  · exact le_min (by norm_num) (by positivity)
  · exact le_rfl

theorem corroborationBonus_mono {f g : TelegramSafetyFeatures} {p q : Option ProviderRiskSignal}
    {codes codes' : List String} (hfeatures : Riskier f g) (hprovider : ReportsMore p q)
    (hcodes : codes.eraseDups.length ≤ codes'.eraseDups.length) :
    reasonCorroborationBonus codes f p ≤ reasonCorroborationBonus codes' g q := by
  by_cases h : hasSufficientMetadata f p = true
  · rw [reasonCorroborationBonus, if_pos h, reasonCorroborationBonus,
      if_pos (sufficientMetadata_mono hfeatures hprovider h)]
    refine min_le_min le_rfl (mul_le_mul_of_nonneg_right ?_ (by norm_num))
    rw [Nat.cast_le]
    omega
  · rw [reasonCorroborationBonus, if_neg h]
    exact corroborationBonus_nonneg codes' g q

theorem signals_nonneg (f : TelegramSafetyFeatures) (p : Option ProviderRiskSignal) :
    ∀ s ∈ escalationSignals f p, 0 ≤ s.confidence := by
  rw [escalationSignals, List.forall_mem_append]
  refine ⟨policy_nonneg f, fun s hs => ?_⟩
  obtain ⟨a, -, rfl⟩ := List.mem_map.1 hs
  exact providerConfidence_nonneg (some a)

theorem signals_covered {f g : TelegramSafetyFeatures} {p q : Option ProviderRiskSignal}
    (hfeatures : Riskier f g) (hprovider : ReportsMore p q) :
    CoveredSignals (escalationSignals f p) (escalationSignals g q) :=
  (policy_covered hfeatures).append (providerSignals_covered hprovider)

theorem assessmentConfidence_mono {f g : TelegramSafetyFeatures} {p q : Option ProviderRiskSignal}
    {signals signals' : List SafetySignal} (hfeatures : Riskier f g) (hprovider : ReportsMore p q)
    (hcovered : CoveredSignals signals signals') (hnonneg : ∀ s ∈ signals', 0 ≤ s.confidence) :
    assessmentConfidence signals p (signals.map SafetySignal.reasonCode).eraseDups f ≤
      assessmentConfidence signals' q (signals'.map SafetySignal.reasonCode).eraseDups g := by
  have hcodes : (signals.map SafetySignal.reasonCode).eraseDups ⊆
      (signals'.map SafetySignal.reasonCode).eraseDups := by
    intro code hcode
    rw [List.mem_eraseDups] at hcode ⊢
    exact hcovered.key_subset hcode
  apply NoisyOr.clamp_mono
  apply add_le_add
  · exact max_le_max (greatestConfidence_mono hcovered hnonneg) (providerConfidence_mono hprovider)
  · exact corroborationBonus_mono hfeatures hprovider (length_eraseDups_le hcodes)

theorem greatestConfidence_isGreatest {signals : List SafetySignal} (hne : signals ≠ []) :
    IsGreatest {x | ∃ s ∈ signals, s.confidence = x} (greatestConfidence signals) := by
  have hconfidences : signals.map SafetySignal.confidence ≠ [] := by simpa using hne
  rw [greatestConfidence_eq]
  simpa using isGreatest_greatest 0 hconfidences

/-- The risk is the greatest of the confidences of the local signals and the risk that the
provider reports. -/
theorem riskScore_isGreatest {evidenceId : String} {f : TelegramSafetyFeatures}
    {p : Option ProviderRiskSignal} {e : SafetyEscalation}
    (h : evaluateTelegramSafetyEscalation evidenceId f p = some e) :
    IsGreatest {x | (∃ s ∈ evaluateTelegramSafetyPolicy f, s.confidence = x) ∨
      ∃ a ∈ p, a.riskScore.val = x} e.riskScore := by
  rw [(escalation_eq_some h).1]
  have hreported : ∀ a, p = some a → IsGreatest {x | ∃ a ∈ p, a.riskScore.val = x}
      ((p.map (·.riskScore.val)).getD 0) := by
    rintro a rfl
    refine ⟨⟨a, rfl, rfl⟩, ?_⟩
    rintro x ⟨b, hb, rfl⟩
    cases hb
    exact le_rfl
  by_cases hlocal : evaluateTelegramSafetyPolicy f = []
  · cases p with
    | none =>
        have hsilent : escalationSignals f none = [] := by
          rw [escalationSignals, hlocal]
          rfl
        rw [(escalation_eq_none_iff evidenceId f none).2 hsilent] at h
        cases h
    | some a =>
        have hrisk : max (greatestConfidence []) a.riskScore.val = a.riskScore.val :=
          max_eq_right a.riskScore.2.1
        rw [hlocal, Option.map_some, Option.getD_some, hrisk]
        simp
  · have hfired := greatestConfidence_isGreatest hlocal
    cases p with
    | none =>
        obtain ⟨s, hs, hscore⟩ := hfired.1
        have hnonneg : 0 ≤ greatestConfidence (evaluateTelegramSafetyPolicy f) := by
          rw [← hscore]
          exact policy_nonneg f s hs
        rw [Option.map_none, Option.getD_none, max_eq_left hnonneg]
        simpa using hfired
    | some a => exact hfired.union (hreported a rfl)

/-- The policy escalates exactly where a local signal fires or the provider reports a high
risk, with the greatest risk there is. More risk on any side keeps an escalation and lowers
neither its risk nor its confidence. -/
theorem safety_escalation_monotone :
    (∀ (evidenceId : String) (f : TelegramSafetyFeatures) (p : Option ProviderRiskSignal),
      evaluateTelegramSafetyEscalation evidenceId f p = none ↔
        evaluateTelegramSafetyPolicy f = [] ∧ ∀ a ∈ p, a.riskScore.val < 0.65) ∧
    (∀ (evidenceId : String) (f : TelegramSafetyFeatures) (p : Option ProviderRiskSignal),
      ∀ e ∈ evaluateTelegramSafetyEscalation evidenceId f p,
        IsGreatest {x | (∃ s ∈ evaluateTelegramSafetyPolicy f, s.confidence = x) ∨
          ∃ a ∈ p, a.riskScore.val = x} e.riskScore) ∧
    ∀ (evidenceId evidenceId' : String) (f g : TelegramSafetyFeatures)
      (p q : Option ProviderRiskSignal), Riskier f g → ReportsMore p q →
      ∀ e ∈ evaluateTelegramSafetyEscalation evidenceId f p,
        ∃ e' ∈ evaluateTelegramSafetyEscalation evidenceId' g q,
          e.riskScore ≤ e'.riskScore ∧ e.confidence ≤ e'.confidence := by
  refine ⟨?_, fun _ f p e h => riskScore_isGreatest h, ?_⟩
  · intro evidenceId f p
    rw [escalation_eq_none_iff, escalationSignals, List.append_eq_nil_iff, providerSignals_eq_nil]
  · intro evidenceId evidenceId' f g p q hfeatures hprovider e he
    have hcovered := signals_covered hfeatures hprovider
    have hnone : evaluateTelegramSafetyEscalation evidenceId' g q ≠ none := by
      rw [Ne, escalation_eq_none_iff]
      intro hnil
      have hsome : escalationSignals f p ≠ [] := by
        rw [Ne, ← escalation_eq_none_iff evidenceId, Option.mem_def.1 he]
        nofun
      obtain ⟨s, hs⟩ := List.exists_mem_of_ne_nil _ hsome
      obtain ⟨t, ht, -⟩ := hcovered s hs
      rw [hnil] at ht
      cases ht
    obtain ⟨e', he'⟩ := Option.ne_none_iff_exists'.1 hnone
    obtain ⟨hscore, hconfidence⟩ := escalation_eq_some he
    obtain ⟨hscore', hconfidence'⟩ := escalation_eq_some he'
    refine ⟨e', he', ?_, ?_⟩
    · rw [hscore, hscore']
      exact max_le_max (greatestConfidence_mono (policy_covered hfeatures) (policy_nonneg g))
        (providerRisk_mono hprovider)
    · rw [hconfidence, hconfidence']
      exact assessmentConfidence_mono hfeatures hprovider hcovered (signals_nonneg g q)

end TruePresenceESE.Telegram
