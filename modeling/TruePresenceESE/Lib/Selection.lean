import TruePresenceESE.Lib.Dict

/-! # Selections from keyed tables

A table with a primary key is a dictionary of rows; a query reads the entries that pass
a test, in the order of the table. A write shows in a selection only where the entry it
puts there, or the one it replaces, passes the test.
-/

namespace Dict

variable {κ α : Type*} [DecidableEq κ]

/-- The entries that satisfy a test, in their order. -/
def selected (d : Dict κ α) (test : κ × α → Bool) : List (κ × α) := d.items.filter test

theorem mem_selected {d : Dict κ α} {test : κ × α → Bool} {p : κ × α} :
    p ∈ d.selected test ↔ d.get? p.1 = some p.2 ∧ test p = true := by
  rw [selected, List.mem_filter, get?_eq_some_iff]

/-- A write that neither replaces nor adds a selected entry. -/
theorem selected_set_of_false {d : Dict κ α} {test : κ × α → Bool} {k : κ} {v : α}
    (hnew : test (k, v) = false) (hold : ∀ w, d.get? k = some w → test (k, w) = false) :
    (d.set k v).selected test = d.selected test := by
  have hitems : ∀ items : List (κ × α), (∀ w, lookupIn k items = some w → test (k, w) = false) →
      (setIn k v items).filter test = items.filter test := by
    intro items
    induction items with
    | nil => intro _; simp [setIn, hnew]
    | cons p rest ih =>
        intro hrest
        obtain ⟨j, w⟩ := p
        by_cases hj : j = k
        · subst hj
          have hw : test (j, w) = false := hrest w (by simp [lookupIn])
          simp [setIn, hnew, hw]
        · have hskip := ih fun u hu => hrest u (by simpa [lookupIn, hj] using hu)
          simp only [setIn, if_neg hj, List.filter_cons, hskip]
  exact hitems d.items hold

/-- A write that replaces or adds a selected entry. -/
theorem selected_set_of_true {d : Dict κ α} {test : κ × α → Bool} {k : κ} {v : α}
    (hnew : test (k, v) = true) (hold : ∀ w, d.get? k = some w → test (k, w) = true) :
    (d.set k v).selected test = setIn k v (d.selected test) := by
  have hitems : ∀ items : List (κ × α), (∀ w, lookupIn k items = some w → test (k, w) = true) →
      (setIn k v items).filter test = setIn k v (items.filter test) := by
    intro items
    induction items with
    | nil => intro _; simp [setIn, hnew]
    | cons p rest ih =>
        intro hrest
        obtain ⟨j, w⟩ := p
        by_cases hj : j = k
        · subst hj
          have hw : test (j, w) = true := hrest w (by simp [lookupIn])
          simp [setIn, hnew, hw]
        · have hskip := ih fun u hu => hrest u (by simpa [lookupIn, hj] using hu)
          simp only [setIn, if_neg hj, List.filter_cons, hskip]
          split
          · simp [setIn, hj]
          · rfl
  exact hitems d.items hold

omit [DecidableEq κ] in
theorem nodup_keys_selected (d : Dict κ α) (test : κ × α → Bool) :
    ((d.selected test).map Prod.fst).Nodup :=
  d.nodup.sublist (List.filter_sublist.map Prod.fst)

/-- Selections of the same keys are of one length. -/
theorem length_selected_eq {β : Type*} {d : Dict κ α} {e : Dict κ β} {test : κ × α → Bool}
    {test' : κ × β → Bool}
    (h : ∀ k, (∃ v, d.get? k = some v ∧ test (k, v) = true) ↔
      ∃ w, e.get? k = some w ∧ test' (k, w) = true) :
    (d.selected test).length = (e.selected test').length := by
  have hmem : ∀ k, k ∈ (d.selected test).map Prod.fst ↔ k ∈ (e.selected test').map Prod.fst := by
    simpa [mem_selected] using h
  have hperm := (List.perm_ext_iff_of_nodup (d.nodup_keys_selected test)
    (e.nodup_keys_selected test')).mpr hmem
  simpa using hperm.length_eq

theorem get?_erase_ne (d : Dict κ α) {k j : κ} (h : k ≠ j) : (d.erase k).get? j = d.get? j := by
  ext v
  rw [get?_eq_some_iff, get?_eq_some_iff, erase, List.mem_filter]
  simp [h.symm]

theorem get?_erase_self (d : Dict κ α) (k : κ) : (d.erase k).get? k = none := by
  rw [get?_eq_none_iff, keys, erase]
  simp

theorem setIn_of_notMem {k : κ} {v : α} {items : List (κ × α)} (h : k ∉ items.map Prod.fst) :
    setIn k v items = items ++ [(k, v)] := by
  induction items with
  | nil => rfl
  | cons p rest ih =>
      obtain ⟨j, w⟩ := p
      rw [List.map_cons, List.mem_cons, not_or] at h
      rw [setIn, if_neg (Ne.symm h.1), ih h.2, List.cons_append]

/-- A new key stands last. -/
theorem items_set_of_notMem {d : Dict κ α} {k : κ} (v : α) (h : k ∉ d.keys) :
    (d.set k v).items = d.items ++ [(k, v)] :=
  setIn_of_notMem h

theorem items_update_of_nodup {d : Dict κ α} {items : List (κ × α)}
    (h : ((d.items ++ items).map Prod.fst).Nodup) : (d.update items).items = d.items ++ items := by
  induction items generalizing d with
  | nil =>
      rw [List.append_nil]
      rfl
  | cons p rest ih =>
      have hfresh : p.1 ∉ d.keys := by
        rw [List.map_append, List.map_cons, List.nodup_append] at h
        intro hmem
        exact h.2.2 _ hmem _ List.mem_cons_self rfl
      have hset : (d.set p.1 p.2).items = d.items ++ [p] := items_set_of_notMem p.2 hfresh
      have hrest := ih (d := d.set p.1 p.2) (by
        rw [hset, List.append_assoc]
        exact h)
      rw [hset, List.append_assoc] at hrest
      exact hrest

/-- The entries of a dictionary, written in turn, give the dictionary. -/
theorem update_empty_items (d : Dict κ α) : (empty : Dict κ α).update d.items = d :=
  ext (items_update_of_nodup (d := empty) d.nodup)

theorem mem_keys_update {d : Dict κ α} {items : List (κ × α)} {k : κ} :
    k ∈ (d.update items).keys ↔ k ∈ d.keys ∨ k ∈ items.map Prod.fst := by
  induction items generalizing d with
  | nil => simp [update]
  | cons p rest ih =>
      show k ∈ ((d.set p.1 p.2).update rest).keys ↔ _
      rw [ih, mem_keys_set, List.map_cons, List.mem_cons]
      tauto

/-- A list of entries is written in full exactly if no key comes twice. -/
theorem size_update_eq_iff (items : List (κ × α)) :
    ((empty : Dict κ α).update items).size = items.length ↔ (items.map Prod.fst).Nodup := by
  constructor
  · intro h
    have hkeys := ((empty : Dict κ α).update items).keys_nodup
    have hsub : ((empty : Dict κ α).update items).keys ⊆ items.map Prod.fst := by
      intro k hk
      rw [mem_keys_update] at hk
      exact hk.resolve_left List.not_mem_nil
    have hle : (items.map Prod.fst).length ≤ ((empty : Dict κ α).update items).keys.length := by
      rw [List.length_map, keys, List.length_map]
      exact h.ge
    exact ((hkeys.subperm hsub).perm_of_length_le hle).nodup_iff.1 hkeys
  · intro h
    rw [size, items_update_of_nodup (d := empty) h]
    rfl

end Dict
