import TruePresenceESE.Scoring.Aggregation

/-! # Corroboration across categories

Signals of equal strength count through the residue of their category. Moving one of them
to another category takes a factor from one residue and starts another, and which of the
two weighs more depends on the weights of the categories, the strength and the number of
signals that stay.
-/

namespace TruePresenceESE.Scoring

open Sdk Detectors NoisyOr Rounding

/-! ## Signals of equal strength -/

structure EqualStrength (severity : Severity) (confidence : UnitInterval)
    (signal : DetectorSignal) : Prop where
  target : signal.contributionTarget = .automation
  severity : signal.severity = severity
  confidence : signal.confidence = confidence

/-- The signal, reported under another category. -/
def recategorised (signal : DetectorSignal) (category : SignalCategory) : DetectorSignal :=
  { signal with category := category }

section
variable {severity : Severity} {confidence : UnitInterval} {c d : SignalCategory}
  {signal : DetectorSignal} {rest : List DetectorSignal}

/-- The strength of a signal of this severity and confidence. -/
def strengthOf (severity : Severity) (confidence : UnitInterval) : ℚ :=
  severityWeight severity * confidence.val

theorem signalStrength_eq (h : EqualStrength severity confidence signal) :
    signalStrength signal = strengthOf severity confidence := by
  rw [signalStrength, strengthOf, h.severity, h.confidence]

theorem strengthOf_mem (severity : Severity) (confidence : UnitInterval) :
    0 ≤ strengthOf severity confidence ∧ strengthOf severity confidence ≤ 1 := by
  have hle : severityWeight severity ≤ 1 := by cases severity <;> norm_num [severityWeight]
  constructor
  · exact mul_nonneg (severityWeight_pos severity).le confidence.2.1
  · exact mul_le_one₀ hle confidence.2.1 confidence.2.2

theorem categoryWeight_le_one (category : SignalCategory) : categoryWeight category ≤ 1 := by
  cases category <;> norm_num [categoryWeight]

theorem strengths_cons (h : EqualStrength severity confidence signal)
    (category : SignalCategory) : strengths (signal :: rest) .automation category =
      if signal.category = category then
        strengthOf severity confidence :: strengths rest .automation category
      else strengths rest .automation category := by
  have htarget : targeted (signal :: rest) .automation = signal :: targeted rest .automation :=
    List.filter_cons_of_pos (by simpa using h.target)
  rw [strengths, htarget, Dict.bucket, List.filter_cons]
  by_cases hcategory : signal.category = category
  · simp [hcategory, signalStrength_eq h, strengths, Dict.bucket]
  · simp [hcategory, strengths, Dict.bucket]

theorem strengths_uniform (h : ∀ signal ∈ rest,
      EqualStrength severity confidence signal ∧ signal.category = c)
    (category : SignalCategory) : strengths rest .automation category =
      if c = category then List.replicate rest.length (strengthOf severity confidence) else [] := by
  induction rest with
  | nil => simp [strengths, targeted, Dict.bucket]
  | cons signal rest ih =>
      obtain ⟨hsignal, hcategory⟩ := h signal List.mem_cons_self
      rw [strengths_cons hsignal, ih fun other hother => h other (List.mem_cons_of_mem _ hother),
        hcategory]
      by_cases heq : c = category
      · simp [heq, List.replicate_succ]
      · simp [heq]

theorem targeted_eq_nil {signals : List DetectorSignal} {target : ContributionTarget}
    (h : ∀ signal ∈ signals, signal.contributionTarget = .automation) (hne : target ≠ .automation) :
    targeted signals target = [] := by
  apply List.filter_eq_nil_iff.mpr
  intro signal hsignal
  simpa [h signal hsignal] using hne.symm

theorem categoryResidue_of_nil {signals : List DetectorSignal} {category : SignalCategory}
    (h : strengths signals .automation category = []) :
    categoryResidue signals .automation category = 1 := by
  rw [categoryResidue, h]
  simp [clamp]

theorem categoryResidue_of_replicate {signals : List DetectorSignal} {category : SignalCategory}
    {n : ℕ} (h : strengths signals .automation category =
      List.replicate n (strengthOf severity confidence)) :
    categoryResidue signals .automation category =
      1 - categoryWeight category * (1 - (1 - strengthOf severity confidence) ^ n) := by
  obtain ⟨h0, h1⟩ := strengthOf_mem severity confidence
  have hnonneg := noisyOr_nonneg (List.replicate n (strengthOf severity confidence))
  have hle := noisyOr_le_one (List.replicate n (strengthOf severity confidence))
  rw [categoryResidue, h, clamp_of_mem (mul_nonneg (categoryWeight_pos category).le hnonneg)
    (mul_le_one₀ (categoryWeight_le_one category) hnonneg hle), noisyOr_replicate h0 h1]

/-! ## The risk of repeated and of spread signals -/

/-- `k` signals of strength `s` in category `c`. -/
def repeatedRisk (c : SignalCategory) (s : ℚ) (k : ℕ) : ℚ := categoryWeight c * (1 - (1 - s) ^ k)

/-- `n` signals of strength `s` in category `c` and one in category `d`. -/
def spreadRisk (c d : SignalCategory) (s : ℚ) (n : ℕ) : ℚ :=
  1 - (1 - repeatedRisk c s n) * (1 - categoryWeight d * s)

theorem automationRisk_repeated (h : ∀ signal ∈ rest,
      EqualStrength severity confidence signal ∧ signal.category = c) :
    automationRisk rest = repeatedRisk c (strengthOf severity confidence) rest.length := by
  have hstrengths := strengths_uniform h
  rw [automationRisk_eq, targetRisk, Finset.prod_eq_single c]
  · rw [categoryResidue_of_replicate (by rw [hstrengths, if_pos rfl]), repeatedRisk]
    ring
  · intro category _ hne
    exact categoryResidue_of_nil (by rw [hstrengths, if_neg (Ne.symm hne)])
  · intro hnot
    exact absurd (Finset.mem_univ c) hnot

theorem automationRisk_spread (hne : c ≠ d) (hsignal : EqualStrength severity confidence signal)
    (hcategory : signal.category = d) (h : ∀ other ∈ rest,
      EqualStrength severity confidence other ∧ other.category = c) :
    automationRisk (signal :: rest) =
      spreadRisk c d (strengthOf severity confidence) rest.length := by
  have hstrengths := @strengths_cons severity confidence signal rest hsignal
  have hrest := strengths_uniform h
  have hc : strengths (signal :: rest) .automation c =
      List.replicate rest.length (strengthOf severity confidence) := by
    rw [hstrengths, hrest, if_neg (by rw [hcategory]; exact hne.symm), if_pos rfl]
  have hd : strengths (signal :: rest) .automation d =
      List.replicate 1 (strengthOf severity confidence) := by
    rw [hstrengths, hrest, if_pos hcategory, if_neg hne]
    rfl
  have hothers : ∀ category, category ≠ c → category ≠ d →
      categoryResidue (signal :: rest) .automation category = 1 := by
    intro category hnc hnd
    apply categoryResidue_of_nil
    rw [hstrengths, hrest, if_neg (by rw [hcategory]; exact hnd.symm), if_neg hnc.symm]
  rw [automationRisk_eq, targetRisk, Finset.prod_eq_mul c d hne]
  · rw [categoryResidue_of_replicate hc, categoryResidue_of_replicate hd, spreadRisk, repeatedRisk,
      pow_one, sub_sub_cancel]
  · exact fun category _ hother => hothers category hother.1 hother.2
  · exact fun hnot => absurd (Finset.mem_univ c) hnot
  · exact fun hnot => absurd (Finset.mem_univ d) hnot

/-! ## The likelihoods -/

/-- What the human support of the packet leaves of the automation risk. -/
def supportFactor (packet : InteractionFeaturePacket) : ℚ :=
  1 - clamp (humanFeatureSupport packet) * 0.6

theorem supportFactor_mem (packet : InteractionFeaturePacket) :
    0 < supportFactor packet ∧ supportFactor packet ≤ 1 := by
  have h0 := clamp_nonneg (humanFeatureSupport packet)
  have h1 := clamp_le_one (humanFeatureSupport packet)
  unfold supportFactor
  constructor <;> linarith

/-- Signals of the automation target leave the human support to the packet. -/
theorem automationLikelihood_eq {signals : List DetectorSignal}
    (h : ∀ signal ∈ signals, signal.contributionTarget = .automation)
    (packet : InteractionFeaturePacket)
    (h0 : 0 ≤ automationRisk signals) (h1 : automationRisk signals ≤ 1) :
    automationLikelihood signals packet = automationRisk signals * supportFactor packet := by
  have hhuman : humanSignalStrength signals = 0 := by
    rw [humanSignalStrength_eq, targetRisk]
    simp [categoryResidue, strengths, targeted_eq_nil h, Dict.bucket, clamp]
  have hsupport : 1 - effectiveHuman signals packet * 0.6 = supportFactor packet := by
    rw [effectiveHuman, hhuman, zero_mul, add_zero, supportFactor]
  obtain ⟨hpos, hle⟩ := supportFactor_mem packet
  rw [automationLikelihood, hsupport,
    clamp_of_mem (mul_nonneg h0 hpos.le) (mul_le_one₀ h1 hpos.le hle)]

/-! ## When another category counts for enough -/

/-- The signal in `d` counts for at least as much as another one in `c`, beside `n` in `c`. -/
def CountsEnough (c d : SignalCategory) (s : ℚ) (n : ℕ) : Prop :=
  s = 0 ∨ categoryWeight c * (1 - categoryWeight d) * (1 - s) ^ n ≤
    categoryWeight d * (1 - categoryWeight c)

/-- The likelihoods are too close to be told apart after rounding. -/
def RoundAlike (packet : InteractionFeaturePacket) (c d : SignalCategory) (s : ℚ) (n : ℕ) : Prop :=
  roundTo 4 (repeatedRisk c s (n + 1) * supportFactor packet) =
    roundTo 4 (spreadRisk c d s n * supportFactor packet)

theorem repeatedRisk_mem {s : ℚ} (h0 : 0 ≤ s) (h1 : s ≤ 1) (k : ℕ) :
    0 ≤ repeatedRisk c s k ∧ repeatedRisk c s k ≤ 1 := by
  have hpow0 : 0 ≤ (1 - s) ^ k := pow_nonneg (sub_nonneg.mpr h1) k
  have hpow1 : (1 - s) ^ k ≤ 1 := pow_le_one₀ (sub_nonneg.mpr h1) (sub_le_self 1 h0)
  constructor
  · exact mul_nonneg (categoryWeight_pos c).le (sub_nonneg.mpr hpow1)
  · exact mul_le_one₀ (categoryWeight_le_one c) (sub_nonneg.mpr hpow1) (sub_le_self 1 hpow0)

theorem spreadRisk_mem {s : ℚ} (h0 : 0 ≤ s) (h1 : s ≤ 1) (n : ℕ) :
    0 ≤ spreadRisk c d s n ∧ spreadRisk c d s n ≤ 1 := by
  obtain ⟨hrep0, hrep1⟩ := @repeatedRisk_mem c s h0 h1 n
  have hone0 : 0 ≤ categoryWeight d * s := mul_nonneg (categoryWeight_pos d).le h0
  have hone1 : categoryWeight d * s ≤ 1 := mul_le_one₀ (categoryWeight_le_one d) h0 h1
  have hprod0 := mul_nonneg (sub_nonneg.mpr hrep1) (sub_nonneg.mpr hone1)
  have hprod1 : (1 - repeatedRisk c s n) * (1 - categoryWeight d * s) ≤ 1 :=
    mul_le_one₀ (sub_le_self 1 hrep0) (sub_nonneg.mpr hone1) (sub_le_self 1 hone0)
  unfold spreadRisk
  constructor <;> linarith

/-- A category of no smaller weight always counts for enough. -/
theorem countsEnough_of_weight_le {s : ℚ} (h0 : 0 ≤ s) (h1 : s ≤ 1) (n : ℕ)
    (hweight : categoryWeight c ≤ categoryWeight d) : CountsEnough c d s n := by
  right
  have hpow : (1 - s) ^ n ≤ 1 := pow_le_one₀ (sub_nonneg.mpr h1) (sub_le_self 1 h0)
  have hfactor : 0 ≤ categoryWeight c * (1 - categoryWeight d) :=
    mul_nonneg (categoryWeight_pos c).le (sub_nonneg.mpr (categoryWeight_le_one d))
  calc categoryWeight c * (1 - categoryWeight d) * (1 - s) ^ n
      ≤ categoryWeight c * (1 - categoryWeight d) := mul_le_of_le_one_right hfactor hpow
    _ ≤ categoryWeight d * (1 - categoryWeight c) := by
      rw [mul_one_sub, mul_one_sub, mul_comm (categoryWeight d) (categoryWeight c)]
      exact sub_le_sub_right hweight _

theorem likelihood_repeated {signals : List DetectorSignal} (h : ∀ other ∈ signals,
      EqualStrength severity confidence other ∧ other.category = c)
    (packet : InteractionFeaturePacket) : automationLikelihood signals packet =
      repeatedRisk c (strengthOf severity confidence) signals.length * supportFactor packet := by
  obtain ⟨h0, h1⟩ := strengthOf_mem severity confidence
  obtain ⟨hlow, hhigh⟩ := @repeatedRisk_mem c _ h0 h1 signals.length
  rw [← automationRisk_repeated h] at hlow hhigh ⊢
  exact automationLikelihood_eq (fun other hother => (h other hother).1.target) packet hlow hhigh

theorem likelihood_spread (hne : c ≠ d) (hsignal : EqualStrength severity confidence signal)
    (hcategory : signal.category = d) (h : ∀ other ∈ rest,
      EqualStrength severity confidence other ∧ other.category = c)
    (packet : InteractionFeaturePacket) : automationLikelihood (signal :: rest) packet =
      spreadRisk c d (strengthOf severity confidence) rest.length * supportFactor packet := by
  obtain ⟨h0, h1⟩ := strengthOf_mem severity confidence
  obtain ⟨hlow, hhigh⟩ := @spreadRisk_mem c d _ h0 h1 rest.length
  have htargets : ∀ other ∈ signal :: rest, other.contributionTarget = .automation := by
    intro other hother
    rcases List.mem_cons.mp hother with rfl | hother
    · exact hsignal.target
    · exact (h other hother).1.target
  rw [← automationRisk_spread hne hsignal hcategory h] at hlow hhigh ⊢
  exact automationLikelihood_eq htargets packet hlow hhigh

theorem automationLikelihood_perm {signals signals' : List DetectorSignal}
    (h : signals.Perm signals') (packet : InteractionFeaturePacket) :
    automationLikelihood signals packet = automationLikelihood signals' packet := by
  rw [automationLikelihood, automationLikelihood, automationRisk_eq, automationRisk_eq,
    targetRisk_perm h, effectiveHuman, effectiveHuman, humanSignalStrength_eq,
    humanSignalStrength_eq, targetRisk_perm h]

theorem rounded_le_iff {low high : ℚ} (hlow : clamp low = low) (hhigh : clamp high = high) :
    rounded low ≤ rounded high ↔ low ≤ high ∨ roundTo 4 low = roundTo 4 high := by
  have hrounded : rounded low ≤ rounded high ↔ roundTo 4 low ≤ roundTo 4 high := by
    show roundTo 4 (clamp low) ≤ roundTo 4 (clamp high) ↔ _
    rw [hlow, hhigh]
  rw [hrounded]
  constructor
  · intro hle
    rcases le_total low high with h | h
    · exact .inl h
    · exact .inr (le_antisymm hle (roundTo_mono 4 h))
  · intro h
    cases h with
    | inl hle => exact roundTo_mono 4 hle
    | inr heq => exact heq.le

/-- One of several equal automation signals under another category, against all of them under
one: it counts for at least as much exactly under the condition on weights, strength and
number, up to the rounding of the response. -/
theorem cross_category_counts_iff {before after : List DetectorSignal} (hne : c ≠ d)
    (hsame : ∀ other ∈ before ++ signal :: after,
      EqualStrength severity confidence other ∧ other.category = c)
    (packet : InteractionFeaturePacket) (mode : EnforcementMode) (uuidHex uuidHex' : String) :
    (automationLikelihood (before ++ signal :: after) packet ≤
        automationLikelihood (before ++ recategorised signal d :: after) packet ↔
      CountsEnough c d (strengthOf severity confidence) (before ++ after).length) ∧
    ((scoreInteraction (before ++ signal :: after) packet mode uuidHex).automationLikelihood ≤
        (scoreInteraction (before ++ recategorised signal d :: after) packet mode
          uuidHex').automationLikelihood ↔
      CountsEnough c d (strengthOf severity confidence) (before ++ after).length ∨
        RoundAlike packet c d (strengthOf severity confidence) (before ++ after).length) := by
  have hall : ∀ other ∈ signal :: (before ++ after),
      EqualStrength severity confidence other ∧ other.category = c :=
    fun other hother => hsame other (List.perm_middle.mem_iff.mpr hother)
  have hsignal := (hall signal List.mem_cons_self).1
  have hmoved : EqualStrength severity confidence (recategorised signal d) :=
    ⟨hsignal.target, hsignal.severity, hsignal.confidence⟩
  have hrepeated := (automationLikelihood_perm List.perm_middle packet).trans
    (likelihood_repeated hall packet)
  have hspread := (automationLikelihood_perm List.perm_middle packet).trans
    (likelihood_spread hne hmoved rfl
      (fun other hother => hall other (List.mem_cons_of_mem _ hother)) packet)
  rw [List.length_cons] at hrepeated
  have hexact : automationLikelihood (before ++ signal :: after) packet ≤
      automationLikelihood (before ++ recategorised signal d :: after) packet ↔
      CountsEnough c d (strengthOf severity confidence) (before ++ after).length := by
    rw [hrepeated, hspread, mul_le_mul_iff_left₀ (supportFactor_mem packet).1]
    exact le_moved_iff (strengthOf_mem severity confidence).1 _
  refine ⟨hexact, ?_⟩
  rw [← hexact, RoundAlike, ← hrepeated, ← hspread]
  exact rounded_le_iff (clamp_of_mem (clamp_nonneg _) (clamp_le_one _))
    (clamp_of_mem (clamp_nonneg _) (clamp_le_one _))

end

/-- A weak signal of low severity. -/
def weakSignal (category : SignalCategory) : DetectorSignal where
  reasonCode := "uniform_typing_cadence"
  severity := .low
  confidence := ⟨2 / 5, by norm_num, by norm_num⟩
  contributionTarget := .automation
  category := category
  explanation := ""

theorem cross_category_counts_two :
    (scoreInteraction [weakSignal .inputMethod, weakSignal .inputMethod] {} .observe
        "a").automationLikelihood ≤
      (scoreInteraction [recategorised (weakSignal .inputMethod) .typingCadence,
        weakSignal .inputMethod] {} .observe "b").automationLikelihood := by
  have hsame : ∀ other ∈ [] ++ weakSignal .inputMethod :: [weakSignal .inputMethod],
      EqualStrength .low ⟨2 / 5, by norm_num, by norm_num⟩ other ∧
        other.category = .inputMethod := by
    intro other hother
    have heq : other = weakSignal .inputMethod := by simpa using hother
    rw [heq]
    exact ⟨⟨rfl, rfl, rfl⟩, rfl⟩
  refine (cross_category_counts_iff (by decide) hsame {} .observe "a" "b").2.mpr (.inl ?_)
  obtain ⟨h0, h1⟩ := strengthOf_mem .low ⟨2 / 5, by norm_num, by norm_num⟩
  exact countsEnough_of_weight_le h0 h1 _ (by norm_num [categoryWeight])

/-- Two weak signals count for more in the category of the larger weight. -/
theorem weak_signals_count_for_less :
    ¬ ∀ (packet : InteractionFeaturePacket) (c d : SignalCategory) (severity : Severity)
        (confidence : UnitInterval) (before after : List DetectorSignal) (signal : DetectorSignal)
        (mode : EnforcementMode) (uuidHex uuidHex' : String), c ≠ d → before ++ after ≠ [] →
      (∀ other ∈ before ++ signal :: after,
        EqualStrength severity confidence other ∧ other.category = c) →
      (scoreInteraction (before ++ signal :: after) packet mode uuidHex).automationLikelihood ≤
        (scoreInteraction (before ++ recategorised signal d :: after) packet mode
          uuidHex').automationLikelihood := by
  intro hall
  have hle := hall {} .typingCadence .inputMethod .low ⟨2 / 5, by norm_num, by norm_num⟩ []
    [weakSignal .typingCadence] (weakSignal .typingCadence) .observe "a" "b" (by decide) (by simp) (by
      intro other hother
      have heq : other = weakSignal .typingCadence := by simpa using hother
      rw [heq]
      exact ⟨⟨rfl, rfl, rfl⟩, rfl⟩)
  revert hle
  decide +kernel

end TruePresenceESE.Scoring
