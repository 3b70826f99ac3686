import Mathlib

/-! # Rounding to a fixed number of decimals, ties to even

`roundHalfEven q` is the nearest integer, an exact tie going to the even
neighbour. `roundTo digits q` moves the decimal point first and back after, as
a two-argument rounding call does. Both are monotone.
-/

namespace Rounding

def roundHalfEven (q : ℚ) : ℤ :=
  if q - ⌊q⌋ < 1 / 2 then ⌊q⌋
  else if 1 / 2 < q - ⌊q⌋ then ⌊q⌋ + 1
  else if ⌊q⌋ % 2 = 0 then ⌊q⌋ else ⌊q⌋ + 1

def roundTo (digits : Nat) (q : ℚ) : ℚ := roundHalfEven (q * 10 ^ digits) / 10 ^ digits

theorem floor_le_roundHalfEven (q : ℚ) : ⌊q⌋ ≤ roundHalfEven q := by
  unfold roundHalfEven
  split
  · exact le_rfl
  · split
    · omega
    · split <;> omega

theorem roundHalfEven_le_floor_add_one (q : ℚ) : roundHalfEven q ≤ ⌊q⌋ + 1 := by
  unfold roundHalfEven
  split
  · omega
  · split
    · exact le_rfl
    · split <;> omega

/-- Inside one unit interval the fraction decides, so the order is kept there;
across an integer the two neighbours already separate the results. -/
theorem roundHalfEven_mono {p q : ℚ} (h : p ≤ q) : roundHalfEven p ≤ roundHalfEven q := by
  have hfloor : ⌊p⌋ ≤ ⌊q⌋ := Int.floor_le_floor h
  rcases hfloor.lt_or_eq with hlt | heq
  · calc
      roundHalfEven p ≤ ⌊p⌋ + 1 := roundHalfEven_le_floor_add_one p
      _ ≤ ⌊q⌋ := hlt
      _ ≤ roundHalfEven q := floor_le_roundHalfEven q
  · have hfrac : p - ⌊p⌋ ≤ q - ⌊q⌋ := by
      rw [heq]
      linarith
    unfold roundHalfEven
    rw [heq] at hfrac ⊢
    split_ifs <;> first | omega | linarith

theorem roundTo_mono (digits : Nat) {p q : ℚ} (h : p ≤ q) : roundTo digits p ≤ roundTo digits q := by
  have hpow : (0 : ℚ) < 10 ^ digits := by positivity
  have hmul : p * 10 ^ digits ≤ q * 10 ^ digits := mul_le_mul_of_nonneg_right h hpow.le
  unfold roundTo
  gcongr
  exact roundHalfEven_mono hmul

@[simp] theorem roundHalfEven_intCast (n : ℤ) : roundHalfEven n = n := by
  simp [roundHalfEven]

theorem roundTo_zero (digits : Nat) : roundTo digits 0 = 0 := by
  have h := roundHalfEven_intCast 0
  simp only [Int.cast_zero] at h
  simp [roundTo, h]

theorem roundTo_one (digits : Nat) : roundTo digits 1 = 1 := by
  have h := roundHalfEven_intCast (10 ^ digits)
  push_cast at h
  simp [roundTo, h]

/-- Rounding keeps the unit interval. -/
theorem roundTo_mem_unit (digits : Nat) {q : ℚ} (h0 : 0 ≤ q) (h1 : q ≤ 1) :
    0 ≤ roundTo digits q ∧ roundTo digits q ≤ 1 := by
  have hlow := roundTo_mono digits h0
  have hhigh := roundTo_mono digits h1
  rw [roundTo_zero] at hlow
  rw [roundTo_one] at hhigh
  exact ⟨hlow, hhigh⟩

end Rounding
