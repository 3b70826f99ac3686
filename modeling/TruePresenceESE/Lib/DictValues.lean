import TruePresenceESE.Lib.Dict

/-! # The values of a dictionary

What a loop over the values of a dictionary meets, what a write does to a total over them,
and what is read after all of them have been changed.
-/

namespace Dict

variable {κ α : Type*} [DecidableEq κ] {d : Dict κ α} {k : κ} {v w : α}

theorem mem_values : v ∈ d.values ↔ ∃ k, d.get? k = some v := by
  simp only [values, List.mem_map, get?_eq_some_iff]
  constructor
  · intro h
    obtain ⟨p, hp, rfl⟩ := h
    exact ⟨p.1, hp⟩
  · intro h
    obtain ⟨k, hk⟩ := h
    exact ⟨(k, v), hk, rfl⟩

theorem sum_values_set_of_none (count : α → ℕ) (h : d.get? k = none) :
    ((d.set k v).values.map count).sum = (d.values.map count).sum + count v := by
  show ((setIn k v d.items).map Prod.snd |>.map count).sum =
    (d.items.map Prod.snd |>.map count).sum + count v
  have hfresh : k ∉ d.items.map Prod.fst := get?_eq_none_iff.mp h
  generalize d.items = items at hfresh
  induction items with
  | nil => simp [setIn]
  | cons p rest ih =>
      obtain ⟨j, u⟩ := p
      rw [List.map_cons, List.mem_cons, not_or] at hfresh
      rw [setIn, if_neg (Ne.symm hfresh.1)]
      simp only [List.map_cons, List.sum_cons, ih hfresh.2]
      omega

theorem sum_values_set_of_some (count : α → ℕ) (h : d.get? k = some w) :
    ((d.set k v).values.map count).sum + count w = (d.values.map count).sum + count v := by
  show ((setIn k v d.items).map Prod.snd |>.map count).sum + count w =
    (d.items.map Prod.snd |>.map count).sum + count v
  rw [Dict.get?] at h
  generalize d.items = items at h
  induction items with
  | nil => cases h
  | cons p rest ih =>
      obtain ⟨j, u⟩ := p
      rw [lookupIn] at h
      rw [setIn]
      split at h
      next hj =>
        cases h
        rw [if_pos hj]
        simp only [List.map_cons, List.sum_cons]
        omega
      next hj =>
        rw [if_neg hj]
        simp only [List.map_cons, List.sum_cons]
        have hrest := ih h
        omega

/-! ## Changing all values -/

/-- Of two writes under one key the second counts. -/
theorem set_set (d : Dict κ α) (k : κ) (v w : α) : (d.set k v).set k w = d.set k w := by
  apply ext
  show setIn k w (setIn k v d.items) = setIn k w d.items
  induction d.items with
  | nil => simp [setIn]
  | cons p rest ih =>
      obtain ⟨j, u⟩ := p
      by_cases hj : j = k
      · simp [setIn, hj]
      · simp [setIn, hj, ih]

/-- To store what is there already changes nothing. -/
theorem set_eq_self (h : d.get? k = some v) : d.set k v = d := by
  apply ext
  replace h : lookupIn k d.items = some v := h
  show setIn k v d.items = d.items
  generalize d.items = items at h ⊢
  induction items with
  | nil => cases h
  | cons p rest ih =>
      obtain ⟨j, w⟩ := p
      rw [lookupIn] at h
      rw [setIn]
      split
      next hj =>
        rw [if_pos hj, Option.some.injEq] at h
        rw [h]
      next hj =>
        rw [if_neg hj] at h
        rw [ih h]

variable (f : κ → α → α)

theorem get?_mapWithKey (d : Dict κ α) (k : κ) :
    (d.mapWithKey f).get? k = (d.get? k).map (f k) := by
  show lookupIn k (d.items.map fun p => (p.1, f p.1 p.2)) = (lookupIn k d.items).map (f k)
  induction d.items with
  | nil => rfl
  | cons p rest ih =>
      obtain ⟨j, w⟩ := p
      rw [List.map_cons, lookupIn, lookupIn, ih]
      split
      next hj => rw [hj, Option.map_some]
      next => rfl

theorem mapWithKey_set (d : Dict κ α) (k : κ) (v : α) :
    (d.set k v).mapWithKey f = (d.mapWithKey f).set k (f k v) := by
  apply ext
  show (setIn k v d.items).map (fun p => (p.1, f p.1 p.2)) =
    setIn k (f k v) (d.items.map fun p => (p.1, f p.1 p.2))
  induction d.items with
  | nil => rfl
  | cons p rest ih =>
      obtain ⟨j, w⟩ := p
      rw [setIn, List.map_cons, setIn]
      dsimp only
      by_cases hj : j = k
      · rw [if_pos hj, if_pos hj, List.map_cons, hj]
      · rw [if_neg hj, if_neg hj, List.map_cons, ih]

end Dict
