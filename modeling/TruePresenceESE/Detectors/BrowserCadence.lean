import TruePresenceESE.Detectors.HumanPlausibility
import TruePresenceESE.Sdk.GuardAgreement
import TruePresenceESE.Sdk.Typing
import TruePresenceESE.Sdk.Validation

/-! # Cadence without key intervals

The browser reports a deviation of zero for fewer than two key intervals. The detector
takes an absent deviation for too little to go by, and zero for a machine.
-/

namespace TruePresenceESE.Detectors

open Sdk Sdk.Typing Sdk.Browser

/-- The packet of the browser: the typing section comes last. -/
def featurePacket (others : List (String × Json)) (typing : TypingSection) : Json :=
  pruneUndefined (.obj (others ++ [("typing", .obj typing.fields)]))

/-- What the detector makes of a packet that is sent; a refused one reaches no detector. -/
def cadenceSignals (c : Coercions) (packet : Json) : List DetectorSignal :=
  match c.parsePacket packet with
  | some features => uniformTypingCadence features.typing
  | none => []

/-! ## Reading the packet -/

section
variable {c : Coercions}

theorem pruneFields_append (front back : List (String × Json)) :
    pruneFields (front ++ back) = pruneFields front ++ pruneFields back := by
  induction front with
  | nil => rfl
  | cons p rest ih =>
      obtain ⟨key, child⟩ := p
      rw [List.cons_append, pruneFields, pruneFields, ih]
      split <;> rfl

/-- The section that is read last is the one that stays. -/
theorem parsePacket_typing {others : List (String × Json)} {typing : TypingSection}
    {features : InteractionFeaturePacket}
    (h : c.parsePacket (featurePacket others typing) = some features) :
    ∃ cadence, features.typing = some cadence ∧
      (pruneFields typing.fields).foldlM (fun m p => c.setTyping m p.1 p.2) {} = some cadence := by
  rw [featurePacket, pruneUndefined, pruneFields_append] at h
  have htyping : pruneFields [("typing", .obj typing.fields)] =
      [("typing", .obj (pruneFields typing.fields))] := by
    simp [pruneFields, pruneUndefined, isNull]
  rw [htyping, Coercions.parsePacket] at h
  split at h
  · cases h
  · rw [parseModel, List.foldlM_append] at h
    obtain ⟨before, -, hlast⟩ := Option.bind_eq_some_iff.mp h
    obtain ⟨after, hafter, hdone⟩ := Option.bind_eq_some_iff.mp hlast
    obtain rfl : after = features := Option.some.inj hdone
    obtain ⟨read, hread, rfl⟩ := Option.map_eq_some_iff.mp hafter
    obtain ⟨cadence, hcadence, rfl⟩ := Option.map_eq_some_iff.mp hread
    exact ⟨cadence, rfl, hcadence⟩

theorem setTyping_other {m m' : TypingCadenceFeatures} {name : String} {value : Json}
    (h : c.setTyping m name value = some m') (hname : name ≠ "inter_key_interval_stddev_ms") :
    m'.interKeyIntervalStddevMs = m.interKeyIntervalStddevMs := by
  unfold Coercions.setTyping at h
  split at h
  all_goals first
    | exact absurd rfl hname
    | cases h
    | (obtain ⟨x, -, rfl⟩ := Option.map_eq_some_iff.mp h; rfl)

/-- A deviation that is there, and is always read alike, is the one of the features. -/
theorem foldlM_setTyping {deviation : ℚ≥0} {fields : List (String × Json)}
    {m cadence : TypingCadenceFeatures}
    (hfields : ∀ p ∈ fields, p.1 = "inter_key_interval_stddev_ms" →
      orNone c.nonneg p.2 = some (some deviation))
    (hsome : m.interKeyIntervalStddevMs = some deviation ∨
      ∃ p ∈ fields, p.1 = "inter_key_interval_stddev_ms")
    (h : fields.foldlM (fun m p => c.setTyping m p.1 p.2) m = some cadence) :
    cadence.interKeyIntervalStddevMs = some deviation := by
  induction fields generalizing m with
  | nil =>
      cases h
      rcases hsome with hsome | ⟨p, hp, -⟩
      · exact hsome
      · cases hp
  | cons p rest ih =>
      obtain ⟨next, hnext, hrest⟩ := Option.bind_eq_some_iff.mp h
      change c.setTyping m p.1 p.2 = some next at hnext
      refine ih (fun q hq => hfields q (List.mem_cons_of_mem p hq)) ?_ hrest
      by_cases hname : p.1 = "inter_key_interval_stddev_ms"
      · left
        have hvalue := hfields p List.mem_cons_self hname
        rw [hname] at hnext
        obtain ⟨value, hread, rfl⟩ := Option.map_eq_some_iff.mp hnext
        rw [hvalue] at hread
        exact (Option.some.inj hread).symm
      · rw [setTyping_other hnext hname]
        rcases hsome with hsome | ⟨q, hq, hqname⟩
        · exact .inl hsome
        · rcases List.mem_cons.mp hq with rfl | hq
          · exact absurd hqname hname
          · exact .inr ⟨q, hq, hqname⟩

end

/-! ## Too few intervals -/

section
variable {Field : Type} [DecidableEq Field]

theorem stddev_of_short {sqrt : ℚ → ℚ} {values : List ℚ} (h : values.length < 2) :
    stddev sqrt values = 0 := if_pos h

/-- The verdict on a deviation of zero, at any pace. -/
theorem uniformTypingCadence_zero {cadence : TypingCadenceFeatures}
    (h : cadence.interKeyIntervalStddevMs = some 0) :
    uniformTypingCadence (some cadence) =
      [signal "uniform_typing_cadence" .high 0.9 .automation
        "Inter-key interval variance is effectively zero." .typingCadence] := by
  simp only [uniformTypingCadence, h]
  rw [if_pos zero_le_one]

theorem deviation_mem {typing : TypingSection} :
    ∃ p ∈ pruneFields typing.fields, p.1 = "inter_key_interval_stddev_ms" := by
  refine ⟨("inter_key_interval_stddev_ms", .num typing.interKeyIntervalStddevMs), ?_, rfl⟩
  rw [mem_pruneFields]
  exact ⟨.num typing.interKeyIntervalStddevMs, by simp [TypingSection.fields], nofun,
    by decide, rfl⟩

theorem deviation_read {c : Coercions} (hfloat : ∀ q, c.float (.num q) = some q)
    {typing : TypingSection} (hzero : typing.interKeyIntervalStddevMs = 0) :
    ∀ p ∈ pruneFields typing.fields, p.1 = "inter_key_interval_stddev_ms" →
      orNone c.nonneg p.2 = some (some 0) := by
  intro p hp hname
  obtain ⟨name, value⟩ := p
  obtain rfl : name = "inter_key_interval_stddev_ms" := hname
  obtain ⟨child, hchild, -, -, rfl⟩ := mem_pruneFields.mp hp
  have hnum : child = .num 0 := by simpa [TypingSection.fields, hzero] using hchild
  have hread : c.nonneg (.num 0) = some 0 := by
    rw [Coercions.nonneg, hfloat, Option.bind_some, dif_pos le_rfl]
    rfl
  rw [hnum, pruneUndefined, orNone, hread]
  · rfl
  · intro h
    cases h

/-- Fewer than two key intervals are a verdict on every packet that the backend takes. -/
theorem cadence_unjudged_iff {c : Coercions} (hfloat : ∀ q, c.float (.num q) = some q)
    {events : List (Event Field)} (hshort : (Collector.run events).allIntervals.length < 2)
    (sqrt : ℚ → ℚ) (others : List (String × Json)) :
    let packet := featurePacket others ((Collector.run events).typingSection sqrt)
    cadenceSignals c packet = [] ↔ c.parsePacket packet = none := by
  intro packet
  cases hparse : c.parsePacket packet with
  | none => simp [cadenceSignals, hparse]
  | some features =>
      obtain ⟨cadence, htyping, hfold⟩ := parsePacket_typing hparse
      have hzero : cadence.interKeyIntervalStddevMs = some 0 :=
        foldlM_setTyping (deviation_read hfloat (stddev_of_short hshort)) (.inr deviation_mem) hfold
      simp [cadenceSignals, hparse, htyping, uniformTypingCadence_zero hzero]

end

/-- Numbers read as they stand. -/
def plainCoercions : Coercions where
  float value := match value with
    | .num q => some q
    | _ => none
  int value := match value with
    | .num q => if q.den = 1 then some q.num else none
    | _ => none
  bool value := match value with
    | .bool b => some b
    | _ => none

/-- A page that has been loaded, and no more. -/
def pageLoad : List (Event ℕ) := [⟨0, .track 1 ⟨false, none, none, none⟩⟩]

theorem page_load_unjudged_iff :
    let packet := featurePacket [("surface", .str "web")]
      ((Collector.run pageLoad).typingSection id)
    cadenceSignals plainCoercions packet = [] ↔ plainCoercions.parsePacket packet = none :=
  cadence_unjudged_iff (fun _ => rfl) (by decide +kernel) id [("surface", .str "web")]

/-- It is taken for a machine at work. -/
theorem page_load_judged : (Collector.run pageLoad).allIntervals.length < 2 ∧
    (cadenceSignals plainCoercions (featurePacket [("surface", .str "web")]
      ((Collector.run pageLoad).typingSection id))).map (·.reasonCode) =
        ["uniform_typing_cadence"] := by
  decide +kernel

end TruePresenceESE.Detectors
