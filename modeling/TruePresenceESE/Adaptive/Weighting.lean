import TruePresenceESE.Lib.Dict

/-! # Adaptive role weights

Every update moves the weights of the scored roles along the error and then divides all
weights by their sum. The sum stays one; a weight that a move takes below zero stays there.
-/

namespace TruePresenceESE.Adaptive

/-- What an update remembers. -/
structure WeightRecord where
  weights : Dict String ℚ
  scores : Dict String ℚ
  outcome : ℚ

structure AdaptiveWeights where
  learningRate : ℚ
  weights : Dict String ℚ
  history : List WeightRecord

namespace AdaptiveWeights

def defaultWeights : Dict String ℚ :=
  Dict.empty.update [("liveness", 0.4), ("adversarial", 0.3), ("mediation", 0.3)]

/-- `AdaptiveWeights()` -/
def initial : AdaptiveWeights := ⟨0.05, defaultWeights, []⟩

def total (weights : Dict String ℚ) : ℚ := weights.values.sum

def normalize (weights : Dict String ℚ) : Dict String ℚ :=
  if 0 < total weights then weights.mapWithKey fun _ weight => weight / total weights else weights

/-- The weight of a role with a score. -/
def moved (learningRate outcome score weight : ℚ) : ℚ :=
  weight + learningRate * (outcome - score) * score

/-- Roles without a weight are passed over. -/
def reweigh (learningRate outcome : ℚ) (roleScores : Dict String ℚ) (weights : Dict String ℚ) :
    Dict String ℚ :=
  roleScores.items.foldl
    (fun weights scored => weights.adjust scored.1 (moved learningRate outcome scored.2)) weights

def update (a : AdaptiveWeights) (roleScores : Dict String ℚ) (outcome : ℚ) : AdaptiveWeights :=
  if roleScores.items.isEmpty then a
  else
    { a with
      history := a.history ++ [⟨a.weights, roleScores, outcome⟩]
      weights := normalize (reweigh a.learningRate outcome roleScores a.weights) }

/-! ## Feedback and runs -/

/-- Scores are shares, and the outcome is a reward, a penalty or neither. -/
structure Feedback where
  roleScores : Dict String ℚ
  outcome : ℚ
  scores_unit : ∀ scored ∈ roleScores.items, 0 ≤ scored.2 ∧ scored.2 ≤ 1
  outcome_mem : outcome = -1 ∨ outcome = 0 ∨ outcome = 1

def updateAll (a : AdaptiveWeights) (feedback : List Feedback) : AdaptiveWeights :=
  feedback.foldl (fun a f => a.update f.roleScores f.outcome) a

def IsDistribution (a : AdaptiveWeights) : Prop :=
  (∀ weighed ∈ a.weights.items, 0 ≤ weighed.2) ∧ total a.weights = 1

/-- No weight is moved below zero. -/
def KeepsNonneg (a : AdaptiveWeights) (f : Feedback) : Prop :=
  ∀ role weight score, a.weights.get? role = some weight → f.roleScores.get? role = some score →
    0 ≤ moved a.learningRate f.outcome score weight

/-- Every update of a run meets the condition in the state it finds. -/
def AllKeepNonneg : AdaptiveWeights → List Feedback → Prop
  | _, [] => True
  | a, f :: rest => KeepsNonneg a f ∧ AllKeepNonneg (a.update f.roleScores f.outcome) rest

/-! ## One update -/

/-- All weights after the moves, at once. -/
def movedBy (learningRate outcome : ℚ) (roleScores : Dict String ℚ) (role : String) (weight : ℚ) :
    ℚ :=
  ((roleScores.get? role).map fun score => moved learningRate outcome score weight).getD weight

theorem reweigh_eq (learningRate outcome : ℚ) (roleScores weights : Dict String ℚ) :
    reweigh learningRate outcome roleScores weights =
      weights.mapWithKey (movedBy learningRate outcome roleScores) :=
  Dict.foldl_adjust (moved learningRate outcome) roleScores.nodup weights

/-- The learning rate is the initial one, and so are the roles. -/
structure Tuned (a : AdaptiveWeights) : Prop where
  rate : a.learningRate = 0.05
  roles : a.weights.keys = defaultWeights.keys

theorem initial_tuned : initial.Tuned := ⟨rfl, rfl⟩

theorem keys_mapWithKey (f : String → ℚ → ℚ) (weights : Dict String ℚ) :
    (weights.mapWithKey f).keys = weights.keys := by
  unfold Dict.keys
  rw [Dict.items_mapWithKey, List.map_map]
  rfl

theorem total_div (weights : Dict String ℚ) (q : ℚ) :
    total (weights.mapWithKey fun _ weight => weight / q) = total weights / q := by
  unfold total Dict.values
  rw [Dict.items_mapWithKey, List.map_map, div_eq_mul_inv, ← List.sum_map_mul_right]
  simp only [Function.comp_def, div_eq_mul_inv]

section
variable {a : AdaptiveWeights} {f : Feedback}

theorem update_tuned (ha : a.Tuned) : (a.update f.roleScores f.outcome).Tuned := by
  unfold update
  split
  · exact ha
  · refine ⟨ha.rate, ?_⟩
    dsimp only
    rw [reweigh_eq, normalize]
    split
    · rw [keys_mapWithKey, keys_mapWithKey, ha.roles]
    · rw [keys_mapWithKey, ha.roles]

/-- A move takes at most a tenth off a weight. -/
theorem le_movedBy (role : String) (weight : ℚ) :
    weight + -(1 / 10) ≤ movedBy 0.05 f.outcome f.roleScores role weight := by
  unfold movedBy
  cases hscore : f.roleScores.get? role with
  | none =>
      rw [Option.map_none, Option.getD_none]
      linarith
  | some score =>
      obtain ⟨hnonneg, hone⟩ := f.scores_unit _ (Dict.get?_eq_some_iff.mp hscore)
      dsimp only at hnonneg hone
      have houtcome : -1 ≤ f.outcome := by
        rcases f.outcome_mem with h | h | h <;> norm_num [h]
      have hmove : -2 ≤ (f.outcome - score) * score := by
        have hfirst : -2 ≤ f.outcome - score := by linarith
        nlinarith
      rw [Option.map_some, Option.getD_some, moved]
      linarith

/-- The moves leave something to divide by. -/
theorem total_reweigh_pos (ha : a.Tuned) (hsum : total a.weights = 1) :
    0 < total (reweigh a.learningRate f.outcome f.roleScores a.weights) := by
  have hlength : a.weights.items.length = 3 := by
    have hkeys := congrArg List.length ha.roles
    rw [Dict.keys, List.length_map] at hkeys
    exact hkeys
  have hle : (a.weights.items.map fun weighed => weighed.2 + -(1 / 10)).sum ≤
      (a.weights.items.map fun weighed =>
        movedBy 0.05 f.outcome f.roleScores weighed.1 weighed.2).sum :=
    List.sum_le_sum fun weighed _ => le_movedBy weighed.1 weighed.2
  have hshift : (a.weights.items.map fun weighed => weighed.2 + -(1 / 10)).sum =
      total a.weights - 3 / 10 := by
    rw [List.sum_map_add, List.map_const', List.sum_replicate, hlength,
      nsmul_eq_mul, total, Dict.values]
    push_cast
    ring
  rw [hshift, hsum] at hle
  have htotal : total (reweigh a.learningRate f.outcome f.roleScores a.weights) =
      (a.weights.items.map fun weighed =>
        movedBy 0.05 f.outcome f.roleScores weighed.1 weighed.2).sum := by
    rw [reweigh_eq, ha.rate, total, Dict.values, Dict.items_mapWithKey, List.map_map]
    rfl
  rw [htotal]
  linarith

/-- Dividing by the sum makes it one again. -/
theorem total_update (ha : a.Tuned) (hsum : total a.weights = 1) :
    total (a.update f.roleScores f.outcome).weights = 1 := by
  unfold update
  split
  · exact hsum
  · have hpos := @total_reweigh_pos a f ha hsum
    dsimp only
    rw [normalize, if_pos hpos, total_div]
    exact div_self hpos.ne'

theorem keepsNonneg_iff (a : AdaptiveWeights) (f : Feedback)
    (hnonneg : ∀ weighed ∈ a.weights.items, 0 ≤ weighed.2) :
    KeepsNonneg a f ↔ ∀ weighed ∈ a.weights.items,
      0 ≤ movedBy a.learningRate f.outcome f.roleScores weighed.1 weighed.2 := by
  constructor
  · rintro h ⟨role, weight⟩ hmem
    dsimp only
    unfold movedBy
    cases hscore : f.roleScores.get? role with
    | none => exact hnonneg _ hmem
    | some score => exact h role weight score (Dict.get?_eq_some_iff.mpr hmem) hscore
  · intro h role weight score hweight hscore
    have hmoved := h _ (Dict.get?_eq_some_iff.mp hweight)
    rw [movedBy, hscore] at hmoved
    exact hmoved

/-- From a distribution, an update leads to one exactly when it moves no weight below zero. -/
theorem isDistribution_update_iff (ha : a.Tuned) (hdist : a.IsDistribution) :
    (a.update f.roleScores f.outcome).IsDistribution ↔ KeepsNonneg a f := by
  rw [keepsNonneg_iff a f hdist.1, IsDistribution, and_iff_left (total_update ha hdist.2)]
  unfold update
  split
  · rename_i hempty
    have hnone : ∀ role, f.roleScores.get? role = none := by
      intro role
      rw [Dict.get?_eq_none_iff, Dict.keys, List.isEmpty_iff.mp hempty]
      exact List.not_mem_nil
    simp only [movedBy, hnone, Option.map_none, Option.getD_none]
  · have hpos := @total_reweigh_pos a f ha hdist.2
    dsimp only
    rw [normalize, if_pos hpos]
    generalize hsum : total (reweigh a.learningRate f.outcome f.roleScores a.weights) = sum at hpos
    rw [reweigh_eq]
    simp only [Dict.items_mapWithKey, List.map_map, List.forall_mem_map, Function.comp_apply]
    refine forall₂_congr fun weighed _ => ?_
    exact ⟨fun h => by simpa [hpos.ne'] using mul_nonneg h hpos.le, fun h => div_nonneg h hpos.le⟩

end

/-! ## Runs -/

theorem initial_isDistribution : initial.IsDistribution := by
  unfold IsDistribution
  decide +kernel

theorem isDistribution_run_iff {feedback : List Feedback} {a : AdaptiveWeights} (ha : a.Tuned)
    (hdist : a.IsDistribution) :
    (∀ done, done <+: feedback → (a.updateAll done).IsDistribution) ↔ AllKeepNonneg a feedback := by
  induction feedback generalizing a with
  | nil =>
      refine iff_of_true (fun done hdone => ?_) trivial
      rw [List.prefix_nil.mp hdone]
      exact hdist
  | cons f rest ih =>
      have hstep := @isDistribution_update_iff a f ha hdist
      have hrest := @ih _ (@update_tuned a f ha)
      constructor
      · intro h
        have hnext := h [f] (List.prefix_append [f] rest)
        refine ⟨hstep.mp hnext, (hrest hnext).mp fun done hdone => ?_⟩
        exact h (f :: done) ((List.prefix_cons_inj f).mpr hdone)
      · rintro ⟨hkeeps, hlater⟩ done hdone
        rcases List.prefix_cons_iff.mp hdone with rfl | ⟨others, rfl, hothers⟩
        · exact hdist
        · exact (hrest (hstep.mpr hkeeps)).mpr hlater others hothers

/-- Starting from the defaults the sum of the weights never leaves one. -/
theorem total_updateAll (feedback : List Feedback) : total (initial.updateAll feedback).weights = 1 := by
  have hrun : ∀ (feedback : List Feedback) (a : AdaptiveWeights), a.Tuned → total a.weights = 1 →
      total (a.updateAll feedback).weights = 1 := by
    intro feedback
    induction feedback with
    | nil => exact fun a _ hsum => hsum
    | cons f rest ih => exact fun a ha hsum => ih _ (update_tuned ha) (total_update ha hsum)
  exact hrun feedback initial initial_tuned initial_isDistribution.2

/-- Starting from the defaults the weights are a distribution after every update exactly
when no update moves a weight below zero. -/
theorem weights_stay_distribution_iff (feedback : List Feedback) :
    (∀ done, done <+: feedback → (initial.updateAll done).IsDistribution) ↔
      AllKeepNonneg initial feedback :=
  isDistribution_run_iff initial_tuned initial_isDistribution

/-- One role is certain and wrong. -/
def wrongAdversary : Feedback where
  roleScores := Dict.empty.set "adversarial" 1
  outcome := -1
  scores_unit := by decide +kernel
  outcome_mem := by decide +kernel

theorem four_penalties_leave_negative_weight :
    ¬ (initial.updateAll (List.replicate 4 wrongAdversary)).IsDistribution := by
  unfold IsDistribution
  decide +kernel

end AdaptiveWeights

end TruePresenceESE.Adaptive
