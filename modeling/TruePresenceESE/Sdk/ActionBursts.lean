import TruePresenceESE.Lib.CloseRuns
import TruePresenceESE.Sdk.Typing

/-! # Bursts of actions

The action times of all collectors are put in order without their repetitions. One pass
over them counts the bursts: runs of at least two times with gaps of at most a quarter of a
second.
-/

namespace TruePresenceESE.Sdk.ActionBursts

open CloseRuns Typing

/-! ## The pass over the times -/

def burstGapMs : ℚ := 250

/-- The members of a `Set`, in the order of their first insertion. -/
def distinct (xs : List (Option ℚ)) : List (Option ℚ) :=
  xs.foldl (fun kept x => if x ∈ kept then kept else kept ++ [x]) []

/-- The finite timestamps in order. A timestamp that is not a finite number is none. -/
def sortedTimestamps (actionTimestamps : List (Option ℚ)) : List ℚ :=
  (distinct actionTimestamps).reduceOption.mergeSort (· ≤ ·)

/-- The loop over the timestamps that follow one of a burst. -/
def burstLoop (previous currentBurstStart : ℚ) (currentBurstSize : ℕ) (burstStarts : List ℚ) :
    List ℚ → List ℚ
  | [] => if 2 ≤ currentBurstSize then burstStarts ++ [currentBurstStart] else burstStarts
  | timestamp :: rest =>
      if timestamp - previous ≤ burstGapMs then
        burstLoop timestamp currentBurstStart (currentBurstSize + 1) burstStarts rest
      else
        burstLoop timestamp timestamp 1
          (if 2 ≤ currentBurstSize then burstStarts ++ [currentBurstStart] else burstStarts) rest

def burstStarts : List ℚ → List ℚ
  | [] => []
  | first :: rest => burstLoop first first 1 [] rest

structure BurstFeatures where
  actionBurstCount : ℕ
  burstIntervalStddevMs : Option ℚ
  idleToActionLatencyMs : Option ℚ
  meanBurstIntervalMs : Option ℚ

def actionBurstFeatures (sqrt : ℚ → ℚ) (actionTimestamps : List (Option ℚ)) (startedAt : ℚ) :
    BurstFeatures :=
  match sortedTimestamps actionTimestamps with
  | [] =>
      { actionBurstCount := 0
        burstIntervalStddevMs := none
        idleToActionLatencyMs := none
        meanBurstIntervalMs := none }
  | first :: rest =>
      let starts := burstStarts (first :: rest)
      let burstIntervals := differences starts
      { actionBurstCount := starts.length
        burstIntervalStddevMs :=
          if burstIntervals.isEmpty then none else some (stddev sqrt burstIntervals)
        idleToActionLatencyMs := some (first - startedAt)
        meanBurstIntervalMs := mean burstIntervals }

/-! ## Distinct timestamps in order -/

theorem distinct_loop (kept xs : List (Option ℚ)) (hkept : kept.Nodup) :
    (xs.foldl (fun kept x => if x ∈ kept then kept else kept ++ [x]) kept).Nodup ∧
      ∀ x, x ∈ xs.foldl (fun kept x => if x ∈ kept then kept else kept ++ [x]) kept ↔
        x ∈ kept ∨ x ∈ xs := by
  induction xs generalizing kept with
  | nil => exact ⟨hkept, by simp⟩
  | cons y rest ih =>
      rw [List.foldl_cons]
      by_cases hy : y ∈ kept
      · rw [if_pos hy]
        refine ⟨(ih kept hkept).1, fun x => ?_⟩
        rw [(ih kept hkept).2 x]
        grind
      · rw [if_neg hy]
        have hnew : (kept ++ [y]).Nodup := by
          rw [List.nodup_append]
          exact ⟨hkept, List.nodup_singleton y, by grind⟩
        refine ⟨(ih _ hnew).1, fun x => ?_⟩
        rw [(ih _ hnew).2 x]
        grind

theorem mem_sortedTimestamps {timestamps : List (Option ℚ)} {t : ℚ} :
    t ∈ sortedTimestamps timestamps ↔ some t ∈ timestamps := by
  rw [sortedTimestamps, List.mem_mergeSort, List.reduceOption_mem_iff, distinct,
    (distinct_loop [] timestamps List.nodup_nil).2]
  simp

theorem sortedTimestamps_pairwise (timestamps : List (Option ℚ)) :
    (sortedTimestamps timestamps).Pairwise (· < ·) := by
  have hle := @List.pairwise_mergeSort _ (fun a b : ℚ => decide (a ≤ b))
    (fun a b c hab hbc => by simpa using le_trans (by simpa using hab) (by simpa using hbc))
    (fun a b => by simpa using le_total a b) (distinct timestamps).reduceOption
  have hnodup : (sortedTimestamps timestamps).Nodup := by
    rw [sortedTimestamps, (List.mergeSort_perm _ _).nodup_iff]
    have h := (distinct_loop [] timestamps List.nodup_nil).1
    exact h.filterMap fun a b x ha hb => by simp_all
  refine (hle.and hnodup).imp fun {a b} h => ?_
  exact lt_of_le_of_ne (by simpa using h.1) h.2

/-- The timestamps in order depend on no order and on no multiplicity. -/
theorem sortedTimestamps_congr {timestamps timestamps' : List (Option ℚ)}
    (hsame : ∀ t, some t ∈ timestamps ↔ some t ∈ timestamps') :
    sortedTimestamps timestamps = sortedTimestamps timestamps' := by
  apply (sortedTimestamps_pairwise timestamps).eq_of_mem_iff (sortedTimestamps_pairwise timestamps')
  intro t
  rw [mem_sortedTimestamps, mem_sortedTimestamps, hsame]

/-! ## Bursts -/

/-- The runs of at least two timestamps. -/
def bursts (timestamps : List ℚ) : List (List ℚ) :=
  (runs burstGapMs timestamps).filter fun run => 2 ≤ run.length

theorem bursts_of_isChain {run : List ℚ} (hne : run ≠ [])
    (hclose : run.IsChain fun a b => b - a ≤ burstGapMs) :
    bursts run = if 2 ≤ run.length then [run] else [] := by
  rw [bursts, runs_of_isChain hne hclose, List.filter_singleton]
  simp

/-- What the loop does with a run that ends. -/
theorem flush_eq (starts : List ℚ) {run : List ℚ} (hne : run ≠ [])
    (hclose : run.IsChain fun a b => b - a ≤ burstGapMs) :
    (if 2 ≤ run.length then starts ++ [run.head hne] else starts) =
      starts ++ (bursts run).map List.headI := by
  rw [bursts_of_isChain hne hclose]
  split
  · cases run with
    | nil => exact absurd rfl hne
    | cons first rest => rfl
  · rw [List.map_nil, List.append_nil]

/-- A pending run is flushed as the first run of what is left. -/
theorem burstLoop_eq (starts run rest : List ℚ) (hne : run ≠ [])
    (hclose : run.IsChain fun a b => b - a ≤ burstGapMs) :
    burstLoop (run.getLast hne) (run.head hne) run.length starts rest =
      starts ++ (bursts (run ++ rest)).map List.headI := by
  induction rest generalizing starts run with
  | nil => rw [burstLoop, List.append_nil, flush_eq starts hne hclose]
  | cons t rest ih =>
      rw [burstLoop]
      by_cases hgap : t - run.getLast hne ≤ burstGapMs
      · rw [if_pos hgap]
        have hnext : (run ++ [t]).IsChain fun a b => b - a ≤ burstGapMs := by
          apply hclose.append (List.isChain_singleton t)
          intro x hx y hy
          rw [List.getLast?_eq_some_getLast hne, Option.mem_some_iff] at hx
          rw [List.head?_cons, Option.mem_some_iff] at hy
          rwa [← hx, ← hy]
        have h := ih starts (run ++ [t]) (by simp) hnext
        simpa [List.head_append, hne] using h
      · rw [if_neg hgap, flush_eq starts hne hclose]
        have hsplit : bursts (run ++ t :: rest) = bursts run ++ bursts (t :: rest) := by
          rw [bursts, runs_append_cons, List.filter_append, ← bursts, ← bursts]
          intro x hx
          rw [List.getLast?_eq_some_getLast hne, Option.mem_some_iff] at hx
          rw [← hx]
          exact not_le.1 hgap
        have h := ih (starts ++ (bursts run).map List.headI) [t] (by simp)
          (List.isChain_singleton t)
        rw [hsplit, List.map_append, ← List.append_assoc]
        exact h

/-- The starts that the loop collects are those of the bursts. -/
theorem burstStarts_eq (timestamps : List ℚ) :
    burstStarts timestamps = (bursts timestamps).map List.headI := by
  cases timestamps with
  | nil => rfl
  | cons first rest =>
      have h := burstLoop_eq [] [first] rest (by simp) (List.isChain_singleton first)
      rw [List.nil_append] at h
      exact h

section
variable {timestamps : List ℚ} (hsorted : timestamps.Pairwise (· < ·))
include hsorted

theorem mem_bursts_iff {run : List ℚ} :
    run ∈ bursts timestamps ↔
      MaximalRun burstGapMs {t | t ∈ timestamps} run ∧ 2 ≤ run.length := by
  rw [bursts, List.mem_filter, mem_runs_iff (by norm_num [burstGapMs]) hsorted, decide_eq_true_eq]

theorem nodup_bursts : (bursts timestamps).Nodup :=
  (nodup_runs (by norm_num [burstGapMs]) hsorted).filter _

/-- The starts of two bursts are further apart than the gap within one. -/
theorem burstStarts_apart :
    (burstStarts timestamps).Pairwise fun a b => burstGapMs < b - a := by
  rw [burstStarts_eq, List.pairwise_map]
  have happart : (bursts timestamps).Pairwise (Apart burstGapMs) :=
    (runs_apart (by norm_num [burstGapMs]) hsorted).filter _
  refine (List.Pairwise.and_mem.1 happart).imp fun {l m} h => ?_
  obtain ⟨hl, hm, hapart⟩ := h
  have hhead : ∀ run ∈ bursts timestamps, run.headI ∈ run := by
    intro run hrun
    have hne := ((mem_bursts_iff hsorted).1 hrun).1.nonempty
    cases run with
    | nil => exact absurd rfl hne
    | cons first rest => exact List.mem_cons_self
  exact hapart _ (hhead l hl) _ (hhead m hm)

end

/-! ## Features -/

theorem actionBurstCount_eq (sqrt : ℚ → ℚ) (timestamps : List (Option ℚ)) (startedAt : ℚ) :
    (actionBurstFeatures sqrt timestamps startedAt).actionBurstCount =
      (burstStarts (sortedTimestamps timestamps)).length := by
  rw [actionBurstFeatures]
  cases sortedTimestamps timestamps with
  | nil => rfl
  | cons first rest => rfl

theorem meanBurstIntervalMs_eq (sqrt : ℚ → ℚ) (timestamps : List (Option ℚ)) (startedAt : ℚ) :
    (actionBurstFeatures sqrt timestamps startedAt).meanBurstIntervalMs =
      mean (differences (burstStarts (sortedTimestamps timestamps))) := by
  rw [actionBurstFeatures]
  cases sortedTimestamps timestamps with
  | nil => rfl
  | cons first rest => rfl

/-- The mean interval times the number of intervals is the way from the first start to the
last. -/
theorem mean_differences {starts : List ℚ} (htwo : 2 ≤ starts.length) :
    ∃ ms, mean (differences starts) = some ms ∧
      ms * (starts.length - 1 : ℕ) = starts.getLastI - starts.headI := by
  have hlength := length_differences starts
  have hne : starts ≠ [] := by
    rw [← List.length_pos_iff]
    omega
  have hsome : differences starts ≠ [] := by
    rw [← List.length_pos_iff, hlength]
    omega
  have hlast : starts.getLastI = starts.getLast hne := by
    rw [List.getLastI_eq_getLast?_getD, List.getLast?_eq_some_getLast hne, Option.getD_some]
  have hhead : starts.headI = starts.head hne := by
    cases starts with
    | nil => exact absurd rfl hne
    | cons first rest => rfl
  refine ⟨(differences starts).sum / (differences starts).length, ?_, ?_⟩
  · rw [mean, if_neg (by simpa using hsome)]
  · rw [hlast, hhead, ← sum_differences, ← hlength, div_mul_cancel₀]
    rw [Nat.cast_ne_zero, hlength]
    omega

/-- The features depend on the set of timestamps alone. The bursts are the maximal runs of
at least two timestamps, all intervals between them are longer than the gap, and the mean
interval spreads the way from the first start to the last. -/
theorem burst_segmentation (sqrt : ℚ → ℚ) (timestamps : List (Option ℚ)) (startedAt : ℚ) :
    (∀ timestamps' : List (Option ℚ), (∀ t, some t ∈ timestamps ↔ some t ∈ timestamps') →
      actionBurstFeatures sqrt timestamps' startedAt =
        actionBurstFeatures sqrt timestamps startedAt) ∧
    ∃ runs : List (List ℚ), runs.Nodup ∧
      (∀ run, run ∈ runs ↔
        MaximalRun burstGapMs {t | some t ∈ timestamps} run ∧ 2 ≤ run.length) ∧
      (actionBurstFeatures sqrt timestamps startedAt).actionBurstCount = runs.length ∧
      (runs.map List.headI).Pairwise (· < ·) ∧
      (∀ interval ∈ differences (runs.map List.headI), burstGapMs < interval) ∧
      (2 ≤ runs.length →
        ∃ ms, (actionBurstFeatures sqrt timestamps startedAt).meanBurstIntervalMs = some ms ∧
          ms * (runs.length - 1 : ℕ) =
            (runs.map List.headI).getLastI - (runs.map List.headI).headI) := by
  have hsorted := sortedTimestamps_pairwise timestamps
  constructor
  · intro timestamps' hsame
    rw [actionBurstFeatures, actionBurstFeatures, sortedTimestamps_congr hsame]
  · refine ⟨bursts (sortedTimestamps timestamps), nodup_bursts hsorted, ?_, ?_, ?_, ?_, ?_⟩
    · intro run
      rw [mem_bursts_iff hsorted]
      simp only [mem_sortedTimestamps]
    · rw [actionBurstCount_eq, burstStarts_eq, List.length_map]
    · rw [← burstStarts_eq]
      refine (burstStarts_apart hsorted).imp fun {a b} h => ?_
      have hgap : (0 : ℚ) < burstGapMs := by norm_num [burstGapMs]
      linarith
    · rw [← burstStarts_eq]
      exact lt_of_mem_differences (burstStarts_apart hsorted)
    · intro htwo
      rw [← List.length_map List.headI, ← burstStarts_eq] at htwo ⊢
      rw [meanBurstIntervalMs_eq]
      exact mean_differences htwo

end TruePresenceESE.Sdk.ActionBursts
