import TruePresenceESE.Lib.Selection
import TruePresenceESE.Memory.IdentityGraph

/-! # The order of features

Features are cut to the unit interval, large numbers after they were scaled down. What is
scaled down may end up below what was cut.
-/

namespace TruePresenceESE.Memory.IdentityGraph

open PyValue JsonDict

/-! ## Raw features -/

inductive RawFeature where
  | duration
  | eventCount
  | avgInterval
  | mouseVariance
  | typingSpeed
  | timingConsistency

namespace RawFeature

def key : RawFeature → String
  | duration => "duration"
  | eventCount => "event_count"
  | avgInterval => "avg_interval"
  | mouseVariance => "mouse_variance"
  | typingSpeed => "typing_speed"
  | timingConsistency => "timing_consistency"

/-- The place of the feature in the vector. -/
def index : RawFeature → ℕ
  | duration => 0
  | eventCount => 1
  | avgInterval => 2
  | mouseVariance => 3
  | typingSpeed => 4
  | timingConsistency => 5

def isBehavior : RawFeature → Bool
  | duration | eventCount | avgInterval => false
  | mouseVariance | typingSpeed | timingConsistency => true

/-- The session with another value of the feature. -/
def put (feature : RawFeature) (session : JsonDict) (value : ℚ) : JsonDict :=
  if feature.isBehavior then
    let behavior := (mappingOf (session.getOr "behavior" (.obj []))).toOption.getD Dict.empty
    session.set "behavior" (toJson (behavior.set feature.key (.num value)))
  else session.set feature.key (.num value)

end RawFeature

/-- What the features of a session are read from. -/
def rawFeatures (session behavior detection : JsonDict) : List Json :=
  [session.getOr "duration" (.num 0), session.getOr "event_count" (.num 0),
    session.getOr "avg_interval" (.num 1), behavior.getOr "mouse_variance" (.num 0.5),
    behavior.getOr "typing_speed" (.num 0.5), behavior.getOr "timing_consistency" (.num 0.5),
    detection.getOr "human_probability" (.num 0.5),
    detection.getOr "confidence" (.num 0.5)]

section
variable {session : JsonDict} {features : List ℚ}

theorem extractFeatures_ok (h : extractFeatures session = .ok features) :
    ∃ behavior detection, mappingOf (session.getOr "behavior" (.obj [])) = .ok behavior ∧
      (rawFeatures session behavior detection).mapM normalizeFeature = .ok features := by
  obtain ⟨behavior, hbehavior, h⟩ := Fallible.bind_eq_ok_iff.mp h
  obtain ⟨detection, -, h⟩ := Fallible.bind_eq_ok_iff.mp h
  exact ⟨behavior, detection, hbehavior, h⟩

theorem mappingOf_toJson (d : JsonDict) : mappingOf (toJson d) = .ok d :=
  congrArg Except.ok (Dict.update_empty_items d)

/-- The value that was put in place is what the feature is read from. -/
theorem rawFeatures_put (feature : RawFeature) (value : ℚ) {behavior detection : JsonDict}
    (h : mappingOf ((feature.put session value).getOr "behavior" (.obj [])) = .ok behavior) :
    (rawFeatures (feature.put session value) behavior detection)[feature.index]? =
      some (.num value) := by
  cases feature with
  | duration => simp [rawFeatures, RawFeature.index, RawFeature.put, RawFeature.isBehavior,
      RawFeature.key, getOr]
  | eventCount => simp [rawFeatures, RawFeature.index, RawFeature.put, RawFeature.isBehavior,
      RawFeature.key, getOr]
  | avgInterval => simp [rawFeatures, RawFeature.index, RawFeature.put, RawFeature.isBehavior,
      RawFeature.key, getOr]
  | mouseVariance =>
      simp only [RawFeature.put, RawFeature.isBehavior, if_true, getOr, Dict.get?_set_self,
        Option.getD_some, mappingOf_toJson] at h
      cases h
      simp [rawFeatures, RawFeature.index, RawFeature.key, getOr]
  | typingSpeed =>
      simp only [RawFeature.put, RawFeature.isBehavior, if_true, getOr, Dict.get?_set_self,
        Option.getD_some, mappingOf_toJson] at h
      cases h
      simp [rawFeatures, RawFeature.index, RawFeature.key, getOr]
  | timingConsistency =>
      simp only [RawFeature.put, RawFeature.isBehavior, if_true, getOr, Dict.get?_set_self,
        Option.getD_some, mappingOf_toJson] at h
      cases h
      simp [rawFeatures, RawFeature.index, RawFeature.key, getOr]

end

/-! ## Scaling -/

/-- What becomes of a number where nothing fails. -/
def scaled (q : ℚ) : ℚ := if 1000 < q then min (q / 10000) 1 else min (max q 0) 1

theorem normalizeFeature_num {q c : ℚ} (h : normalizeFeature (.num q) = .ok c) : c = scaled q := by
  rw [normalizeFeature] at h
  rw [scaled]
  split at h
  · next hlarge =>
      rw [if_pos hlarge]
      rw [floatOperand] at h
      split at h
      · exact (Except.ok.inj h).symm
      · cases h
  · next hsmall =>
      rw [if_neg hsmall]
      exact (Except.ok.inj h).symm

theorem scaled_mem_unit (q : ℚ) : 0 ≤ scaled q ∧ scaled q ≤ 1 := by
  rw [scaled]
  split
  · next hlarge => exact ⟨le_min (by linarith) zero_le_one, min_le_right _ _⟩
  · exact ⟨le_min (le_max_right _ _) zero_le_one, min_le_right _ _⟩

theorem normalizeFeature_mem_unit {value : Json} {c : ℚ} (h : normalizeFeature value = .ok c) :
    0 ≤ c ∧ c ≤ 1 := by
  cases value with
  | bool b =>
      cases h
      cases b <;> norm_num
  | num q =>
      rw [normalizeFeature_num h]
      exact scaled_mem_unit q
  | null | str _ | arr _ | obj _ =>
      cases h
      norm_num

theorem extractFeatures_mem_unit {session : JsonDict} {features : List ℚ} {c : ℚ}
    (h : extractFeatures session = .ok features) (hc : c ∈ features) : 0 ≤ c ∧ c ≤ 1 := by
  obtain ⟨behavior, detection, -, hfeatures⟩ := extractFeatures_ok h
  obtain ⟨value, -, hvalue⟩ := Fallible.exists_of_mem_mapM hfeatures hc
  exact normalizeFeature_mem_unit hvalue

/-- On either side of the switch the order is kept; across it the larger number has to be
large enough to make up for the scale. -/
theorem scaled_le_scaled_iff {x y : ℚ} (h : x ≤ y) :
    scaled x ≤ scaled y ↔ (x ≤ 1000 → 1000 < y → 10000 * min x 1 ≤ y) := by
  by_cases hx : 1000 < x
  · have hy : 1000 < y := lt_of_lt_of_le hx h
    refine iff_of_true ?_ fun hsmall => absurd hx (not_lt.mpr hsmall)
    rw [scaled, scaled, if_pos hx, if_pos hy]
    exact min_le_min_right _ (by linarith)
  · by_cases hy : 1000 < y
    · rw [scaled, scaled, if_neg hx, if_pos hy]
      have hpos : 0 ≤ y / 10000 := by linarith
      have hcut : min (max x 0) 1 ≤ y / 10000 ↔ min x 1 ≤ y / 10000 := by
        rcases le_total 0 x with h0 | h0
        · rw [max_eq_left h0]
        · rw [max_eq_right h0]
          refine iff_of_true ((min_le_left _ _).trans hpos) ?_
          exact (min_le_left _ _).trans (h0.trans hpos)
      have hone : min (max x 0) 1 ≤ 1 := min_le_right _ _
      rw [le_min_iff, and_iff_left hone, hcut, le_div_iff₀ (by norm_num)]
      constructor
      · intro hle _ _
        linarith
      · intro hle
        linarith [hle (not_lt.mp hx) hy]
    · refine iff_of_true ?_ fun _ hlarge => absurd hlarge hy
      rw [scaled, scaled, if_neg hx, if_neg hy]
      exact min_le_min_right _ (max_le_max_right _ h)

/-! ## Features -/

section
variable {session : JsonDict} {feature : RawFeature} {value : ℚ} {features : List ℚ}

theorem extractFeatures_put (h : extractFeatures (feature.put session value) = .ok features) :
    features[feature.index]? = some (scaled value) := by
  obtain ⟨behavior, detection, hbehavior, hfeatures⟩ := extractFeatures_ok h
  have hraw : (rawFeatures (feature.put session value) behavior detection)[feature.index]? =
      some (.num value) :=
    rawFeatures_put feature value hbehavior
  have hall := Fallible.forall₂_of_mapM_ok hfeatures
  have hlength := hall.length_eq
  obtain ⟨hlt, hget⟩ := List.getElem?_eq_some_iff.mp hraw
  have hlt' : feature.index < features.length := hlength ▸ hlt
  have hnormal := hall.get hlt hlt'
  rw [List.get_eq_getElem, List.get_eq_getElem, hget] at hnormal
  rw [List.getElem?_eq_getElem hlt', normalizeFeature_num hnormal]

end

/-- Whatever the session, a larger feature keeps its component from falling exactly where it
does not pass the switch of the scale without making up for it. -/
theorem feature_order_iff (session : JsonDict) (feature : RawFeature) {x y : ℚ} {v w : List ℚ}
    (hxy : x ≤ y) (hv : extractFeatures (feature.put session x) = .ok v)
    (hw : extractFeatures (feature.put session y) = .ok w) :
    ((∃ c d, v[feature.index]? = some c ∧ w[feature.index]? = some d ∧ c ≤ d) ∧
      ∀ c ∈ v ++ w, 0 ≤ c ∧ c ≤ 1) ↔
        (x ≤ 1000 → 1000 < y → 10000 * min x 1 ≤ y) := by
  have hunit : ∀ c ∈ v ++ w, 0 ≤ c ∧ c ≤ 1 := by
    intro c hc
    cases List.mem_append.mp hc with
    | inl hc => exact extractFeatures_mem_unit hv hc
    | inr hc => exact extractFeatures_mem_unit hw hc
  rw [and_iff_left hunit, extractFeatures_put hv, extractFeatures_put hw,
    ← scaled_le_scaled_iff hxy]
  constructor
  · rintro ⟨c, d, hc, hd, hle⟩
    cases hc
    cases hd
    exact hle
  · intro hle
    exact ⟨_, _, rfl, rfl, hle⟩

theorem feature_order_iff_typing_speed :
    (1 / 2 : ℚ) ≤ 3 / 4 ∧
      (((∃ c d, ([0, 0, 1, 1 / 2, 1 / 2, 1 / 2, 1 / 2, 1 / 2] : List ℚ)[4]? = some c ∧
        ([0, 0, 1, 1 / 2, 3 / 4, 1 / 2, 1 / 2, 1 / 2] : List ℚ)[4]? = some d ∧ c ≤ d) ∧
        ∀ c ∈ ([0, 0, 1, 1 / 2, 1 / 2, 1 / 2, 1 / 2, 1 / 2] : List ℚ) ++
          [0, 0, 1, 1 / 2, 3 / 4, 1 / 2, 1 / 2, 1 / 2], 0 ≤ c ∧ c ≤ 1) ↔
          ((1 / 2 : ℚ) ≤ 1000 → (1000 : ℚ) < 3 / 4 → 10000 * min (1 / 2) 1 ≤ (3 / 4 : ℚ))) :=
  ⟨by norm_num, feature_order_iff Dict.empty .typingSpeed (by norm_num)
    (by decide +kernel) (by decide +kernel)⟩

/-- One event more, and the count falls from the top to a tenth of the scale. -/
theorem larger_count_smaller_feature :
    ∃ v w : List ℚ, extractFeatures (RawFeature.eventCount.put Dict.empty 1000) = .ok v ∧
      extractFeatures (RawFeature.eventCount.put Dict.empty 1001) = .ok w ∧
        v[RawFeature.eventCount.index]? = some 1 ∧
          w[RawFeature.eventCount.index]? = some 0.1001 ∧ (0.1001 : ℚ) < 1 :=
  ⟨[0, 1, 1, 1 / 2, 1 / 2, 1 / 2, 1 / 2, 1 / 2],
    [0, 0.1001, 1, 1 / 2, 1 / 2, 1 / 2, 1 / 2, 1 / 2], by decide +kernel, by decide +kernel,
    by decide +kernel, by decide +kernel, by norm_num⟩

end TruePresenceESE.Memory.IdentityGraph
