import Mathlib

/-! # Runs of close values

Values in order fall into runs: a value joins the run before it where no more than a bound
lies between the two. The runs are the maximal ones, they are apart by more than the bound,
and the differences of values in order add up to the last less the first.
-/

namespace CloseRuns

variable {α : Type*} [AddCommGroup α] [LinearOrder α]

/-- A run of values in order with gaps of at most `δ`, which no other value is close to. -/
structure MaximalRun (δ : α) (values : Set α) (run : List α) : Prop where
  nonempty : run ≠ []
  ordered : run.Pairwise (· < ·)
  close : run.IsChain fun a b => b - a ≤ δ
  inside : ∀ a ∈ run, a ∈ values
  closed : ∀ a ∈ run, ∀ b ∈ values, |b - a| ≤ δ → b ∈ run

/-- The runs of a list of values in order. -/
def runs (δ : α) (values : List α) : List (List α) := values.splitBy fun a b => b - a ≤ δ

/-- All of the first list is before all of the second, by more than `δ`. -/
def Apart (δ : α) (earlier later : List α) : Prop := ∀ a ∈ earlier, ∀ b ∈ later, δ < b - a

def differences : List α → List α
  | a :: b :: rest => (b - a) :: differences (b :: rest)
  | _ => []

variable [IsOrderedAddMonoid α] {δ : α}

/-! ## Maximal runs -/

/-- Along a chain of equivalences either all are true or none is. -/
theorem forall_of_isChain_iff {β : Type*} {p : β → Prop} {xs : List β}
    (hchain : xs.IsChain fun a b => p a ↔ p b) {a : β} (ha : a ∈ xs) (hp : p a) :
    ∀ b ∈ xs, p b := by
  have : IsTrans β fun a b => p a ↔ p b := ⟨fun _ _ _ hab hbc => hab.trans hbc⟩
  have : Std.Symm fun a b : β => p a ↔ p b := ⟨fun _ _ h => h.symm⟩
  have hpairs := List.isChain_iff_pairwise.1 hchain
  intro b hb
  have hall := List.Pairwise.forall_of_forall (R := fun a b => p a ↔ p b)
    (fun _ _ => Iff.rfl) hpairs
  exact (hall ha hb).1 hp

/-- A run with a value of a maximal run lies in it. -/
theorem MaximalRun.subset {values : Set α} {run other : List α}
    (h : MaximalRun δ values run) (hother : MaximalRun δ values other) {a : α} (ha : a ∈ run)
    (hmem : a ∈ other) : ∀ b ∈ run, b ∈ other := by
  refine forall_of_isChain_iff ?_ ha hmem
  have hlt := h.ordered.isChain
  rw [List.isChain_iff_getElem] at hlt
  have hclose := h.close
  rw [List.isChain_iff_getElem] at hclose ⊢
  intro i hi
  have hnear : |run[i + 1] - run[i]| ≤ δ := by
    rw [abs_of_pos (sub_pos.2 (hlt i hi))]
    exact hclose i hi
  constructor
  · intro hthis
    exact hother.closed _ hthis _ (h.inside _ (List.getElem_mem _)) hnear
  · intro hnext
    rw [abs_sub_comm] at hnear
    exact hother.closed _ hnext _ (h.inside _ (List.getElem_mem _)) hnear

/-- Maximal runs with a value in common are the same. -/
theorem MaximalRun.eq_of_mem {values : Set α} {run other : List α}
    (h : MaximalRun δ values run) (hother : MaximalRun δ values other) {a : α} (ha : a ∈ run)
    (hmem : a ∈ other) : run = other := by
  refine h.ordered.eq_of_mem_iff hother.ordered fun b => ⟨?_, ?_⟩
  · exact h.subset hother ha hmem b
  · exact hother.subset h hmem ha b

/-! ## The runs of a list -/

section
variable {values : List α}

omit [IsOrderedAddMonoid α] in
@[simp] theorem flatten_runs : (runs δ values).flatten = values := by
  rw [runs, List.flatten_splitBy]

omit [IsOrderedAddMonoid α] in
theorem exists_run_of_mem {a : α} (ha : a ∈ values) : ∃ run ∈ runs δ values, a ∈ run := by
  rw [← List.mem_flatten, flatten_runs]
  exact ha

omit [IsOrderedAddMonoid α] in
theorem runs_of_isChain (hne : values ≠ []) (hclose : values.IsChain fun a b => b - a ≤ δ) :
    runs δ values = [values] := by
  rw [runs]
  apply List.splitBy_of_isChain hne
  simpa using hclose

omit [IsOrderedAddMonoid α] in
theorem runs_append_cons {run rest : List α} {a : α} (hfar : ∀ x ∈ run.getLast?, δ < a - x) :
    runs δ (run ++ a :: rest) = runs δ run ++ runs δ (a :: rest) := by
  apply List.splitBy_append_cons
  intro x hx
  simpa using hfar x hx

omit [IsOrderedAddMonoid α] in
theorem ordered_of_mem_runs (hsorted : values.Pairwise (· < ·)) {run : List α}
    (hrun : run ∈ runs δ values) : run.Pairwise (· < ·) := by
  have hsub : run.Sublist (runs δ values).flatten := List.sublist_flatten_of_mem hrun
  rw [flatten_runs] at hsub
  exact hsorted.sublist hsub

/-- Runs that follow one another are apart. -/
theorem apart_of_gap {earlier later : List α} (hearlier : earlier.Pairwise (· < ·))
    (hlater : later.Pairwise (· < ·)) (hne : earlier ≠ []) (hne' : later ≠ [])
    (hgap : δ < later.head hne' - earlier.getLast hne) : Apart δ earlier later := by
  intro a ha b hb
  have hle : a ≤ earlier.getLast hne :=
    (hearlier.imp le_of_lt).rel_getLast_of_rel_getLast_getLast ha le_rfl
  have hle' : later.head hne' ≤ b := (hlater.imp le_of_lt).rel_head_of_rel_head_head hb le_rfl
  exact hgap.trans_le (sub_le_sub hle' hle)

theorem runs_apart (hδ : 0 ≤ δ) (hsorted : values.Pairwise (· < ·)) :
    (runs δ values).Pairwise (Apart δ) := by
  have hchain := List.isChain_getLast_head_splitBy (fun a b : α => decide (b - a ≤ δ)) values
  have hnear : (runs δ values).IsChain fun l m => m ≠ [] ∧ Apart δ l m := by
    rw [List.IsChain.iff_mem] at hchain
    refine hchain.imp fun l m h => ?_
    obtain ⟨hl, hm, hne, hne', hgap⟩ := h
    refine ⟨hne', apart_of_gap (ordered_of_mem_runs hsorted hl) (ordered_of_mem_runs hsorted hm)
      hne hne' ?_⟩
    exact not_le.1 (of_decide_eq_false hgap)
  have : IsTrans (List α) fun l m => m ≠ [] ∧ Apart δ l m := by
    refine ⟨fun l m n hlm hmn => ⟨hmn.1, fun a ha c hc => ?_⟩⟩
    obtain ⟨b, hb⟩ := List.exists_mem_of_ne_nil m hlm.1
    have hab := hlm.2 a ha b hb
    have hbc := hmn.2 b hb c hc
    calc δ ≤ δ + δ := le_add_of_nonneg_left hδ
      _ < (c - b) + (b - a) := add_lt_add hbc hab
      _ = c - a := sub_add_sub_cancel c b a
  exact (List.isChain_iff_pairwise.1 hnear).imp fun h => h.2

/-- What is close to a value of a run lies in the run. -/
theorem closed_of_mem_runs (hδ : 0 ≤ δ) (hsorted : values.Pairwise (· < ·)) {run : List α}
    (hrun : run ∈ runs δ values) {a b : α} (ha : a ∈ run) (hb : b ∈ values)
    (hclose : |b - a| ≤ δ) : b ∈ run := by
  obtain ⟨other, hother, hb⟩ := exists_run_of_mem (δ := δ) hb
  by_contra hnot
  have hne : run ≠ other := fun h => hnot (h ▸ hb)
  have happart := runs_apart hδ hsorted
  have : Std.Symm fun l m : List α => Apart δ l m ∨ Apart δ m l := ⟨fun _ _ h => h.symm⟩
  have hall := List.Pairwise.forall (R := fun l m => Apart δ l m ∨ Apart δ m l)
    (happart.imp fun h => Or.inl h)
  rcases hall hrun hother hne with h | h
  · exact absurd (h a ha b hb) (not_lt.2 ((le_abs_self _).trans hclose))
  · rw [abs_sub_comm] at hclose
    exact absurd (h b hb a ha) (not_lt.2 ((le_abs_self _).trans hclose))

theorem maximalRun_of_mem_runs (hδ : 0 ≤ δ) (hsorted : values.Pairwise (· < ·)) {run : List α}
    (hrun : run ∈ runs δ values) : MaximalRun δ {a | a ∈ values} run where
  nonempty := List.ne_nil_of_mem_splitBy hrun
  ordered := ordered_of_mem_runs hsorted hrun
  close := by simpa using List.isChain_of_mem_splitBy hrun
  inside a ha := by
    have hflat := List.mem_flatten_of_mem hrun ha
    rwa [flatten_runs] at hflat
  closed a ha b hb hclose := closed_of_mem_runs hδ hsorted hrun ha hb hclose

/-- The runs of a list are the maximal ones. -/
theorem mem_runs_iff (hδ : 0 ≤ δ) (hsorted : values.Pairwise (· < ·)) {run : List α} :
    run ∈ runs δ values ↔ MaximalRun δ {a | a ∈ values} run := by
  constructor
  · exact maximalRun_of_mem_runs hδ hsorted
  · intro h
    obtain ⟨a, ha⟩ := List.exists_mem_of_ne_nil run h.nonempty
    have hmem : a ∈ values := h.inside a ha
    obtain ⟨other, hother, haother⟩ := exists_run_of_mem (δ := δ) hmem
    rw [h.eq_of_mem (maximalRun_of_mem_runs hδ hsorted hother) ha haother]
    exact hother

theorem nodup_runs (hδ : 0 ≤ δ) (hsorted : values.Pairwise (· < ·)) : (runs δ values).Nodup := by
  have hpairs := List.Pairwise.and_mem.1 (runs_apart hδ hsorted)
  refine hpairs.imp fun {l m} h heq => ?_
  obtain ⟨hl, -, happart⟩ := h
  subst heq
  obtain ⟨a, ha⟩ := List.exists_mem_of_ne_nil l (List.ne_nil_of_mem_splitBy hl)
  have hlt := happart a ha a ha
  rw [sub_self] at hlt
  exact absurd hlt (not_lt.2 hδ)

end

/-! ## Differences -/

omit [LinearOrder α] [IsOrderedAddMonoid α] in
theorem length_differences (values : List α) :
    (differences values).length = values.length - 1 := by
  induction values with
  | nil => rfl
  | cons a rest ih =>
      cases rest with
      | nil => rfl
      | cons b rest =>
          rw [differences, List.length_cons, ih]
          simp

omit [LinearOrder α] [IsOrderedAddMonoid α] in
/-- The differences add up to the last value less the first. -/
theorem sum_differences (values : List α) (hne : values ≠ []) :
    (differences values).sum = values.getLast hne - values.head hne := by
  induction values with
  | nil => exact absurd rfl hne
  | cons a rest ih =>
      cases rest with
      | nil => simp [differences]
      | cons b rest =>
          rw [differences, List.sum_cons, ih (List.cons_ne_nil b rest)]
          simp

omit [IsOrderedAddMonoid α] in
theorem lt_of_mem_differences {values : List α} (hfar : values.Pairwise fun a b => δ < b - a) :
    ∀ d ∈ differences values, δ < d := by
  induction values with
  | nil => nofun
  | cons a rest ih =>
      cases rest with
      | nil => nofun
      | cons b rest =>
          rw [List.pairwise_cons] at hfar
          intro d hd
          rw [differences, List.mem_cons] at hd
          cases hd with
          | inl hhead =>
              rw [hhead]
              exact hfar.1 b List.mem_cons_self
          | inr hrest => exact ih hfar.2 d hrest

end CloseRuns
