import Mathlib.Data.List.Basic

/-! # Loops that try again

A call is made a bounded number of times. Each reply either settles the matter or asks for
another attempt after a delay, and waiting may itself go wrong.
-/

namespace Retrying

variable {δ ν ρ : Type}

inductive Reply (δ ν ρ : Type) where
  | finish (result : ρ)
  | again (delay : δ) (note : ν)

def Reply.IsAgain : Reply δ ν ρ → Prop
  | .finish _ => False
  | .again _ _ => True

/-- What happens over a loop: the calls, the delays that were asked for, and the end. -/
structure Run (δ ρ : Type) where
  requests : ℕ
  delays : List δ
  result : ρ

section
variable (reply : ℕ → Reply δ ν ρ) (wait : δ → Option ρ) (exhausted : Option ν → ρ)

/-- So many attempts, counted on from one; the note of the last is kept for the end. -/
def run : ℕ → ℕ → Option ν → Run δ ρ
  | 0, _, last => ⟨0, [], exhausted last⟩
  | remaining + 1, attempt, _ =>
      match reply attempt with
      | .finish result => ⟨1, [], result⟩
      | .again delay note =>
          match wait delay with
          | some raised => ⟨1, [delay], raised⟩
          | none =>
              let later := run remaining (attempt + 1) (some note)
              ⟨later.requests + 1, delay :: later.delays, later.result⟩

end

/-- The first attempt and, where it is followed by others, the later ones. -/
theorem forall_attempts_succ (again settled : ℕ → Prop) {remaining attempt : ℕ} :
    (∀ i < remaining + 1, (∀ j < i, again (attempt + j)) → settled (attempt + i)) ↔
      settled attempt ∧ (again attempt → ∀ i < remaining,
        (∀ j < i, again (attempt + 1 + j)) → settled (attempt + 1 + i)) := by
  have hshift : ∀ i, attempt + 1 + i = attempt + (i + 1) := fun i => by omega
  simp only [hshift]
  constructor
  · intro h
    refine ⟨h 0 (Nat.succ_pos _) fun j hj => absurd hj (Nat.not_lt_zero j), ?_⟩
    intro hagain i hi hlater
    refine h (i + 1) (Nat.succ_lt_succ hi) fun j hj => ?_
    cases j with
    | zero => exact hagain
    | succ j => exact hlater j (Nat.lt_of_succ_lt_succ hj)
  · intro h i hi hlater
    cases i with
    | zero => exact h.1
    | succ i =>
        exact h.2 (hlater 0 (Nat.succ_pos i)) i (Nat.lt_of_succ_lt_succ hi)
          fun j hj => hlater (j + 1) (Nat.succ_lt_succ hj)

section
variable {reply : ℕ → Reply δ ν ρ} {wait : δ → Option ρ} {exhausted : Option ν → ρ}

theorem run_of_finish {remaining attempt : ℕ} {last : Option ν} {result : ρ}
    (h : reply attempt = .finish result) :
    run reply wait exhausted (remaining + 1) attempt last = ⟨1, [], result⟩ := by
  rw [run, h]

theorem run_of_raised {remaining attempt : ℕ} {last : Option ν} {delay : δ} {note : ν}
    {raised : ρ} (h : reply attempt = .again delay note) (hwait : wait delay = some raised) :
    run reply wait exhausted (remaining + 1) attempt last = ⟨1, [delay], raised⟩ := by
  rw [run, h]
  dsimp only
  rw [hwait]

theorem run_of_again {remaining attempt : ℕ} {last : Option ν} {delay : δ} {note : ν}
    (h : reply attempt = .again delay note) (hwait : wait delay = none) :
    run reply wait exhausted (remaining + 1) attempt last =
      ⟨(run reply wait exhausted remaining (attempt + 1) (some note)).requests + 1,
        delay :: (run reply wait exhausted remaining (attempt + 1) (some note)).delays,
        (run reply wait exhausted remaining (attempt + 1) (some note)).result⟩ := by
  rw [run, h]
  dsimp only
  rw [hwait]

theorem requests_run_le (remaining attempt : ℕ) (last : Option ν) :
    (run reply wait exhausted remaining attempt last).requests ≤ remaining := by
  induction remaining generalizing attempt last with
  | zero => exact Nat.le_refl 0
  | succ remaining ih =>
      cases h : reply attempt with
      | finish result =>
          rw [run_of_finish h]
          exact Nat.succ_le_succ (Nat.zero_le _)
      | again delay note =>
          cases hwait : wait delay with
          | some raised =>
              rw [run_of_raised h hwait]
              exact Nat.succ_le_succ (Nat.zero_le _)
          | none =>
              rw [run_of_again h hwait]
              exact Nat.succ_le_succ (ih _ _)

variable {good : ρ → Prop} {fine : δ → Prop}

/-- A reply after which nothing has gone wrong. -/
def Settled (wait : δ → Option ρ) (good : ρ → Prop) (fine : δ → Prop) : Reply δ ν ρ → Prop
  | .finish result => good result
  | .again delay _ => fine delay ∧ wait delay = none

/-- A loop ends well exactly when every attempt that is reached is settled. -/
theorem run_good_iff (hraised : ∀ delay raised, wait delay = some raised → ¬ good raised)
    (hexhausted : ∀ last, good (exhausted last)) (remaining attempt : ℕ) (last : Option ν) :
    (good (run reply wait exhausted remaining attempt last).result ∧
        ∀ delay ∈ (run reply wait exhausted remaining attempt last).delays, fine delay) ↔
      ∀ i < remaining, (∀ j < i, (reply (attempt + j)).IsAgain) →
        Settled wait good fine (reply (attempt + i)) := by
  induction remaining generalizing attempt last with
  | zero => simp [run, hexhausted]
  | succ remaining ih =>
      rw [forall_attempts_succ (fun i => (reply i).IsAgain)
        fun i => Settled wait good fine (reply i)]
      cases h : reply attempt with
      | finish result =>
          rw [run_of_finish h]
          simp [Settled, Reply.IsAgain]
      | again delay note =>
          have hsettled : Settled wait good fine (.again delay note : Reply δ ν ρ) ↔
              fine delay ∧ wait delay = none := Iff.rfl
          have hagain : (Reply.again delay note : Reply δ ν ρ).IsAgain := trivial
          rw [hsettled, imp_iff_right hagain]
          cases hwait : wait delay with
          | some raised =>
              rw [run_of_raised h hwait]
              simp [hraised delay raised hwait]
          | none =>
              rw [run_of_again h hwait, ← ih (attempt + 1) (some note)]
              simp only [List.forall_mem_cons, and_true]
              exact and_left_comm

end

end Retrying
