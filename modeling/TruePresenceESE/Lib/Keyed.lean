import TruePresenceESE.Lib.Dict

/-! # Values under keys of their own

A dictionary that indexes values by a key computed from them. Of several values with one
key the last stays when each is written, and the first when only missing keys are.
-/

namespace Dict

variable {κ α : Type*} [DecidableEq κ]

/-- `d.setdefault(key, value)` -/
def setNew (d : Dict κ α) (k : κ) (v : α) : Dict κ α := if (d.get? k).isSome then d else d.set k v

/-- `{key(x): x for x in xs}` -/
def lastBy (key : α → κ) (xs : List α) : Dict κ α := xs.foldl (fun d x => d.set (key x) x) empty

/-- The first value of each key. -/
def firstBy (key : α → κ) (xs : List α) : Dict κ α := xs.foldl (fun d x => d.setNew (key x) x) empty

section
variable (key : α → κ)

theorem get?_setNew (d : Dict κ α) (k j : κ) (v : α) :
    (d.setNew k v).get? j = (d.get? j).or (if k = j then some v else none) := by
  unfold setNew
  split
  next hsome =>
    by_cases hkey : k = j
    · subst hkey
      obtain ⟨w, hw⟩ := Option.isSome_iff_exists.mp hsome
      rw [hw, Option.some_or]
    · rw [if_neg hkey, Option.or_none]
  next hnone =>
    rw [get?_set]
    by_cases hkey : k = j
    · subst hkey
      rw [if_pos rfl, if_pos rfl, Option.not_isSome_iff_eq_none.mp hnone, Option.none_or]
    · rw [if_neg hkey, if_neg hkey, Option.or_none]

theorem get?_lastBy (xs : List α) (k : κ) :
    (lastBy key xs).get? k = xs.reverse.find? fun x => key x = k := by
  induction xs using List.reverseRecOn with
  | nil => rfl
  | append_singleton xs x ih =>
      rw [lastBy, List.foldl_append, List.foldl_cons, List.foldl_nil, get?_set,
        List.reverse_append, List.reverse_singleton, List.singleton_append, List.find?_cons]
      unfold lastBy at ih
      by_cases hkey : key x = k
      · simp [hkey]
      · simpa [hkey] using ih

theorem get?_firstBy (xs : List α) (k : κ) :
    (firstBy key xs).get? k = xs.find? fun x => key x = k := by
  induction xs using List.reverseRecOn with
  | nil => rfl
  | append_singleton xs x ih =>
      rw [firstBy, List.foldl_append, List.foldl_cons, List.foldl_nil, get?_setNew,
        List.find?_append]
      congr 1
      by_cases hkey : key x = k
      · simp [hkey]
      · simp [hkey]

theorem get?_isSome_iff (d : Dict κ α) (k : κ) : (d.get? k).isSome = true ↔ k ∈ d.keys := by
  rw [← Option.ne_none_iff_isSome, ne_eq, get?_eq_none_iff, not_not]

theorem mem_keys_lastBy {xs : List α} {k : κ} :
    k ∈ (lastBy key xs).keys ↔ ∃ x ∈ xs, key x = k := by
  rw [← get?_isSome_iff, get?_lastBy, List.find?_isSome]
  simp

theorem mem_keys_firstBy {xs : List α} {k : κ} :
    k ∈ (firstBy key xs).keys ↔ ∃ x ∈ xs, key x = k := by
  rw [← get?_isSome_iff, get?_firstBy, List.find?_isSome]
  simp

theorem of_get?_lastBy {xs : List α} {k : κ} {x : α} (h : (lastBy key xs).get? k = some x) :
    x ∈ xs ∧ key x = k := by
  rw [get?_lastBy] at h
  exact ⟨List.mem_reverse.mp (List.mem_of_find?_eq_some h), by simpa using List.find?_some h⟩

theorem of_get?_firstBy {xs : List α} {k : κ} {x : α} (h : (firstBy key xs).get? k = some x) :
    x ∈ xs ∧ key x = k := by
  rw [get?_firstBy] at h
  exact ⟨List.mem_of_find?_eq_some h, by simpa using List.find?_some h⟩

/-- There is one entry for each key that occurs. -/
theorem length_keys_lastBy (xs : List α) :
    (lastBy key xs).keys.length = (xs.map key).dedup.length := by
  have hperm : (lastBy key xs).keys.Perm (xs.map key).dedup := by
    rw [List.perm_ext_iff_of_nodup (lastBy key xs).keys_nodup (List.nodup_dedup _)]
    intro k
    rw [List.mem_dedup, List.mem_map]
    exact mem_keys_lastBy key
  exact hperm.length_eq

end

/-! ## Values in the order of their keys -/

section
variable [LinearOrder κ]

/-- `[d[key] for key in sorted(keys)]` -/
def sortedValues (d : Dict κ α) (keys : List κ) : List α :=
  (keys.mergeSort fun j k => decide (j ≤ k)).filterMap d.get?

theorem mem_sortedValues {d : Dict κ α} {keys : List κ} {v : α} :
    v ∈ d.sortedValues keys ↔ ∃ k ∈ keys, d.get? k = some v := by
  rw [sortedValues, List.mem_filterMap]
  simp only [List.mem_mergeSort]

/-- Values that know their key are listed key by key. -/
theorem map_sortedValues {d : Dict κ α} {key : α → κ} {keys : List κ}
    (hkey : ∀ k v, d.get? k = some v → key v = k) (hkeys : ∀ k ∈ keys, k ∈ d.keys) :
    ((d.sortedValues keys).map key).Perm keys := by
  have hvalues : ∀ ks : List κ, (∀ k ∈ ks, k ∈ d.keys) → (ks.filterMap d.get?).map key = ks := by
    intro ks
    induction ks with
    | nil => intro _; rfl
    | cons k rest ih =>
        intro hmem
        have hfirst := hmem k List.mem_cons_self
        rw [← get?_isSome_iff, Option.isSome_iff_exists] at hfirst
        obtain ⟨v, hv⟩ := hfirst
        rw [List.filterMap_cons_some hv, List.map_cons, hkey k v hv,
          ih fun j hj => hmem j (List.mem_cons_of_mem _ hj)]
  rw [sortedValues, hvalues]
  · exact List.mergeSort_perm _ _
  · intro k hk
    exact hkeys k (List.mem_mergeSort.mp hk)

end

end Dict
