import Mathlib

/-! # The entropy of a tally

A tally counts how often each of finitely many kinds occurred. Its entropy is measured
against that of the tally with equal counts, so it lies in the unit interval: it is zero
where at most one kind occurred, and one where every kind occurred equally often.
-/

namespace Entropy

open Real

variable {ι : Type*} [Fintype ι]

/-! ## Distributions -/

noncomputable def entropy (p : ι → ℝ) : ℝ := ∑ i, negMulLog (p i)

section
variable {p : ι → ℝ} (hp : p ∈ stdSimplex ℝ ι)
include hp

theorem entropy_nonneg : 0 ≤ entropy p := by
  apply Finset.sum_nonneg
  intro i _
  exact negMulLog_nonneg (hp.1 i) (mem_Icc_of_mem_stdSimplex hp i).2

/-- Only a certain kind, or one that never occurs, adds nothing. -/
theorem negMulLog_eq_zero_iff (i : ι) : negMulLog (p i) = 0 ↔ p i = 0 ∨ p i = 1 := by
  have hnonneg := hp.1 i
  rw [negMulLog, neg_mul, neg_eq_zero, mul_eq_zero, log_eq_zero]
  constructor
  · intro h
    rcases h with h | h | h | h
    · exact .inl h
    · exact .inl h
    · exact .inr h
    · linarith
  · intro h
    rcases h with h | h
    · exact .inl h
    · exact .inr (.inr (.inl h))

theorem entropy_eq_zero_iff : entropy p = 0 ↔ ∀ i, p i = 0 ∨ p i = 1 := by
  rw [entropy, Finset.sum_eq_zero_iff_of_nonneg fun i _ =>
    negMulLog_nonneg (hp.1 i) (mem_Icc_of_mem_stdSimplex hp i).2]
  simp only [Finset.mem_univ, forall_true_left, negMulLog_eq_zero_iff hp]

/-- The mean of the logarithmic terms against the term of the mean. -/
theorem negMulLog_mean :
    negMulLog (∑ i, (Fintype.card ι : ℝ)⁻¹ • p i) = (Fintype.card ι : ℝ)⁻¹ * log (Fintype.card ι) := by
  rw [← Finset.smul_sum, hp.2, smul_eq_mul, mul_one, negMulLog, log_inv]
  ring

omit hp in
theorem sum_weighted (p : ι → ℝ) :
    ∑ i, (Fintype.card ι : ℝ)⁻¹ • negMulLog (p i) = (Fintype.card ι : ℝ)⁻¹ * entropy p := by
  rw [← Finset.smul_sum, smul_eq_mul, entropy]

variable [Nonempty ι]

omit hp in
theorem card_cast_pos : (0 : ℝ) < Fintype.card ι := Nat.cast_pos.mpr Fintype.card_pos

omit hp in
theorem sum_weights : ∑ _i : ι, (Fintype.card ι : ℝ)⁻¹ = 1 := by
  rw [Finset.sum_const, Finset.card_univ, nsmul_eq_mul, mul_inv_cancel₀ card_cast_pos.ne']

theorem entropy_le_log_card : entropy p ≤ log (Fintype.card ι) := by
  have hjensen := concaveOn_negMulLog.le_map_sum (t := Finset.univ)
    (w := fun _ : ι => (Fintype.card ι : ℝ)⁻¹) (p := p)
    (fun _ _ => inv_nonneg.mpr card_cast_pos.le) sum_weights (fun i _ => hp.1 i)
  rw [negMulLog_mean hp, sum_weighted] at hjensen
  exact le_of_mul_le_mul_left hjensen (inv_pos.mpr card_cast_pos)

theorem entropy_eq_log_card_iff : entropy p = log (Fintype.card ι) ↔ ∀ i j, p i = p j := by
  have hjensen := strictConcaveOn_negMulLog.map_sum_eq_iff_of_pos (t := Finset.univ)
    (w := fun _ : ι => (Fintype.card ι : ℝ)⁻¹) (p := p)
    (fun _ _ => inv_pos.mpr card_cast_pos) sum_weights (fun i _ => hp.1 i)
  rw [negMulLog_mean hp, sum_weighted, mul_right_inj' (inv_ne_zero card_cast_pos.ne')] at hjensen
  rw [eq_comm, hjensen]
  simp only [Finset.mem_univ, forall_true_left]

end

/-! ## Tallies -/

noncomputable def frequency (counts : ι → ℕ) (i : ι) : ℝ := counts i / (∑ j, counts j : ℕ)

/-- The entropy of a tally, against the greatest there is. -/
noncomputable def normalized (counts : ι → ℕ) : ℝ :=
  entropy (frequency counts) / log (Fintype.card ι)

section
variable {counts : ι → ℕ}

theorem frequency_mem (htotal : ∑ i, counts i ≠ 0) : frequency counts ∈ stdSimplex ℝ ι := by
  constructor
  · intro i
    exact div_nonneg (Nat.cast_nonneg _) (Nat.cast_nonneg _)
  · simp only [frequency]
    rw [← Finset.sum_div, ← Nat.cast_sum, div_self (Nat.cast_ne_zero.mpr htotal)]

theorem frequency_eq_zero_iff (htotal : ∑ i, counts i ≠ 0) (i : ι) :
    frequency counts i = 0 ↔ counts i = 0 := by
  rw [frequency, div_eq_zero_iff, Nat.cast_eq_zero, Nat.cast_eq_zero, or_iff_left htotal]

theorem frequency_eq_iff (htotal : ∑ i, counts i ≠ 0) (i j : ι) :
    frequency counts i = frequency counts j ↔ counts i = counts j := by
  rw [frequency, frequency, div_left_inj' (Nat.cast_ne_zero.mpr htotal), Nat.cast_inj]

theorem frequency_eq_one_iff (htotal : ∑ i, counts i ≠ 0) (i : ι) :
    frequency counts i = 1 ↔ ∀ j, j ≠ i → counts j = 0 := by
  classical
  have hsplit := Finset.add_sum_erase Finset.univ counts (Finset.mem_univ i)
  rw [frequency, div_eq_one_iff_eq (Nat.cast_ne_zero.mpr htotal), Nat.cast_inj]
  have hrest : counts i = ∑ j, counts j ↔ ∑ j ∈ Finset.univ.erase i, counts j = 0 := by omega
  rw [hrest, Finset.sum_eq_zero_iff]
  simp

theorem normalized_of_total_eq_zero (htotal : ∑ i, counts i = 0) : normalized counts = 0 := by
  have hzero : ∀ i, frequency counts i = 0 := fun i => by simp [frequency, htotal]
  rw [normalized, entropy, Finset.sum_eq_zero fun i _ => by rw [hzero, negMulLog_zero], zero_div]

theorem normalized_nonneg : 0 ≤ normalized counts := by
  by_cases htotal : ∑ i, counts i = 0
  · rw [normalized_of_total_eq_zero htotal]
  · exact div_nonneg (entropy_nonneg (frequency_mem htotal)) (log_natCast_nonneg _)

theorem normalized_le_one [Nonempty ι] : normalized counts ≤ 1 := by
  by_cases htotal : ∑ i, counts i = 0
  · rw [normalized_of_total_eq_zero htotal]
    exact zero_le_one
  · exact div_le_one_of_le₀ (entropy_le_log_card (frequency_mem htotal)) (log_natCast_nonneg _)

variable [Nontrivial ι]

theorem log_card_pos : 0 < log (Fintype.card ι) :=
  log_pos (Nat.one_lt_cast.mpr Fintype.one_lt_card)

/-- No entropy means at most one kind. -/
theorem normalized_eq_zero_iff :
    normalized counts = 0 ↔ ∀ i j, counts i ≠ 0 → counts j ≠ 0 → i = j := by
  by_cases htotal : ∑ i, counts i = 0
  · have hzero : ∀ i, counts i = 0 := by simpa using htotal
    rw [normalized_of_total_eq_zero htotal]
    exact ⟨fun _ i _ hi => absurd (hzero i) hi, fun _ => rfl⟩
  · rw [normalized, div_eq_zero_iff, or_iff_left (log_card_pos (ι := ι)).ne',
      entropy_eq_zero_iff (frequency_mem htotal)]
    simp only [frequency_eq_zero_iff htotal, frequency_eq_one_iff htotal]
    constructor
    · intro h i j hi hj
      by_contra hne
      exact hj ((h i).resolve_left hi j (Ne.symm hne))
    · intro h i
      by_cases hi : counts i = 0
      · exact .inl hi
      · refine .inr fun j hne => ?_
        by_contra hj
        exact hne (h j i hj hi)

/-- Full entropy means that every kind occurred equally often. -/
theorem normalized_eq_one_iff :
    normalized counts = 1 ↔ ∑ i, counts i ≠ 0 ∧ ∀ i j, counts i = counts j := by
  by_cases htotal : ∑ i, counts i = 0
  · rw [normalized_of_total_eq_zero htotal]
    simp [htotal]
  · rw [normalized, div_eq_one_iff_eq (log_card_pos (ι := ι)).ne',
      entropy_eq_log_card_iff (frequency_mem htotal)]
    simp only [frequency_eq_iff htotal]
    exact ⟨fun h => ⟨htotal, h⟩, fun h => h.2⟩

end

end Entropy
