import Mathlib

/-! # Findings that cover one another

A finding has a key and a strength. A list of findings is covered by another one where each
of its findings has a counterpart of the same key that is at least as strong. The covering
list then has at least the greatest strength and at least as many distinct keys.
-/

namespace Covering

variable {α κ K : Type*} [LinearOrder K] {key : α → κ} {strength : α → K}

def Covered (key : α → κ) (strength : α → K) (xs ys : List α) : Prop :=
  ∀ x ∈ xs, ∃ y ∈ ys, key y = key x ∧ strength x ≤ strength y

/-- The greatest of some values, with a default where there is none. -/
def greatest (default : K) : List K → K
  | [] => default
  | first :: rest => rest.foldl max first

/-! ## Covering -/

theorem covered_nil (ys : List α) : Covered key strength [] ys := nofun

theorem Covered.refl (xs : List α) : Covered key strength xs xs :=
  fun x hx => ⟨x, hx, rfl, le_rfl⟩

theorem Covered.append {xs xs' ys ys' : List α} (h : Covered key strength xs ys)
    (h' : Covered key strength xs' ys') : Covered key strength (xs ++ xs') (ys ++ ys') := by
  intro x hx
  rw [List.mem_append] at hx
  cases hx with
  | inl hleft =>
      obtain ⟨y, hy, hpair⟩ := h x hleft
      exact ⟨y, List.mem_append_left _ hy, hpair⟩
  | inr hright =>
      obtain ⟨y, hy, hpair⟩ := h' x hright
      exact ⟨y, List.mem_append_right _ hy, hpair⟩

/-- A finding under a condition is covered where the condition stays true. -/
theorem Covered.tier {p q : Prop} [Decidable p] [Decidable q] {x y : α} (hpq : p → q)
    (hkey : key y = key x) (hstrength : p → strength x ≤ strength y) :
    Covered key strength (if p then [x] else []) (if q then [y] else []) := by
  split
  · next hp =>
      rw [if_pos (hpq hp)]
      intro z hz
      rw [List.mem_singleton] at hz
      rw [hz]
      exact ⟨y, List.mem_singleton_self y, hkey, hstrength hp⟩
  · exact covered_nil _

theorem Covered.key_subset {xs ys : List α} (h : Covered key strength xs ys) :
    xs.map key ⊆ ys.map key := by
  intro k hk
  obtain ⟨x, hx, hkx⟩ := List.mem_map.1 hk
  obtain ⟨y, hy, hkey, -⟩ := h x hx
  exact List.mem_map.2 ⟨y, hy, hkey.trans hkx⟩

/-! ## The greatest strength -/

theorem isGreatest_foldl_max (first : K) (rest : List K) :
    IsGreatest {x | x ∈ first :: rest} (rest.foldl max first) := by
  induction rest generalizing first with
  | nil =>
      refine ⟨List.mem_singleton_self first, fun x hx => ?_⟩
      exact (List.mem_singleton.1 hx).le
  | cons y rest ih =>
      rw [List.foldl_cons]
      obtain ⟨hmem, hle⟩ := ih (max first y)
      constructor
      · show rest.foldl max (max first y) ∈ first :: y :: rest
        cases List.mem_cons.1 hmem with
        | inl hmax =>
            rw [hmax]
            rcases max_choice first y with h | h <;> rw [h] <;> simp
        | inr hrest => exact List.mem_cons_of_mem _ (List.mem_cons_of_mem _ hrest)
      · intro x hx
        have hhead : max first y ≤ rest.foldl max (max first y) := hle List.mem_cons_self
        rcases List.mem_cons.1 hx with rfl | hx
        · exact (le_max_left _ _).trans hhead
        · rcases List.mem_cons.1 hx with rfl | hx
          · exact (le_max_right _ _).trans hhead
          · exact hle (List.mem_cons_of_mem _ hx)

theorem isGreatest_greatest (default : K) {xs : List K} (hne : xs ≠ []) :
    IsGreatest {x | x ∈ xs} (greatest default xs) := by
  cases xs with
  | nil => exact absurd rfl hne
  | cons first rest => exact isGreatest_foldl_max first rest

theorem default_le_greatest {default : K} {xs : List K} (h : ∀ x ∈ xs, default ≤ x) :
    default ≤ greatest default xs := by
  cases xs with
  | nil => exact le_rfl
  | cons first rest =>
      have hgreatest := isGreatest_foldl_max first rest
      exact h _ hgreatest.1

theorem Covered.greatest_le {default : K} {xs ys : List α} (h : Covered key strength xs ys)
    (hdefault : ∀ y ∈ ys, default ≤ strength y) :
    greatest default (xs.map strength) ≤ greatest default (ys.map strength) := by
  by_cases hxs : xs.map strength = []
  · rw [hxs]
    show default ≤ greatest default (ys.map strength)
    apply default_le_greatest
    simpa using hdefault
  · obtain ⟨x, hx, hxs⟩ := List.mem_map.1 (isGreatest_greatest default hxs).1
    obtain ⟨y, hy, -, hle⟩ := h x hx
    rw [← hxs]
    have hmem : strength y ∈ ys.map strength := List.mem_map_of_mem hy
    exact hle.trans ((isGreatest_greatest default (List.ne_nil_of_mem hmem)).2 hmem)

/-! ## Distinct keys -/

variable [DecidableEq κ]

theorem nodup_eraseDups (ks : List κ) : ks.eraseDups.Nodup := by
  induction hn : ks.length using Nat.strong_induction_on generalizing ks with
  | h n ih =>
      cases ks with
      | nil => exact List.nodup_nil
      | cons k rest =>
          rw [List.eraseDups_cons, List.nodup_cons, List.mem_eraseDups]
          have hshort : (rest.filter fun b => !b == k).length < n := by
            have hle := List.length_filter_le (fun b => !b == k) rest
            rw [List.length_cons] at hn
            omega
          exact ⟨by simp, ih _ hshort _ rfl⟩

theorem eraseDups_of_nodup {ks : List κ} (h : ks.Nodup) : ks.eraseDups = ks := by
  induction ks with
  | nil => rfl
  | cons k rest ih =>
      rw [List.nodup_cons] at h
      have hkept : rest.filter (fun b => !b == k) = rest := by
        rw [List.filter_eq_self]
        intro other hother
        have hne : other ≠ k := by
          rintro rfl
          exact h.1 hother
        simp [hne]
      rw [List.eraseDups_cons, hkept, ih h.2]

theorem length_eraseDups_le {ks ls : List κ} (h : ks ⊆ ls) :
    ks.eraseDups.length ≤ ls.eraseDups.length := by
  apply List.Subperm.length_le
  apply (nodup_eraseDups ks).subperm
  intro k hk
  rw [List.mem_eraseDups] at hk ⊢
  exact h hk

end Covering
