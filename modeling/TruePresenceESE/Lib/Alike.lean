import TruePresenceESE.Lib.Dict

/-! # Dictionaries kept alike

Two programs that write the same keys in the same order keep dictionaries of one shape.
Their values may differ as long as the values of a key stay related.
-/

namespace Dict

variable {κ α β : Type*} {R : κ → α → β → Prop}

/-- The same keys in the same order, and related values. -/
def Alike (R : κ → α → β → Prop) (d : Dict κ α) (e : Dict κ β) : Prop :=
  List.Forall₂ (fun p q => p.1 = q.1 ∧ R p.1 p.2 q.2) d.items e.items

theorem alike_empty : Alike R (empty : Dict κ α) (empty : Dict κ β) := List.Forall₂.nil

section
variable {d : Dict κ α} {e : Dict κ β}

theorem Alike.keys_eq (h : Alike R d e) : d.keys = e.keys := by
  rw [keys, keys]
  unfold Alike at h
  generalize d.items = ps, e.items = qs at h
  induction h with
  | nil => rfl
  | cons hp _ ih => rw [List.map_cons, List.map_cons, hp.1, ih]

variable [DecidableEq κ] {k : κ} {v : α} {w : β}

theorem Alike.get? (h : Alike R d e) (k : κ) : Option.Rel (R k) (d.get? k) (e.get? k) := by
  rw [Dict.get?, Dict.get?]
  unfold Alike at h
  generalize d.items = ps, e.items = qs at h
  induction h with
  | nil => exact .none
  | @cons p q _ _ hp _ ih =>
      obtain ⟨j, v⟩ := p
      obtain ⟨j', w⟩ := q
      obtain ⟨rfl, hvalue⟩ := hp
      rw [lookupIn, lookupIn]
      split
      next hj => exact .some (hj ▸ hvalue)
      next => exact ih

theorem Alike.set (h : Alike R d e) (hvalue : R k v w) : Alike R (d.set k v) (e.set k w) := by
  show List.Forall₂ _ (setIn k v d.items) (setIn k w e.items)
  unfold Alike at h
  generalize d.items = ps, e.items = qs at h
  induction h with
  | nil => exact .cons ⟨rfl, hvalue⟩ .nil
  | @cons p q _ _ hp hrest ih =>
      obtain ⟨j, v'⟩ := p
      obtain ⟨j', w'⟩ := q
      obtain ⟨rfl, hold⟩ := hp
      dsimp only [setIn]
      split
      next hj => exact .cons ⟨rfl, hj ▸ hvalue⟩ hrest
      next => exact .cons ⟨rfl, hold⟩ ih

theorem Alike.erase (h : Alike R d e) (k : κ) : Alike R (d.erase k) (e.erase k) := by
  show List.Forall₂ _ (d.items.filter (·.1 ≠ k)) (e.items.filter (·.1 ≠ k))
  unfold Alike at h
  generalize d.items = ps, e.items = qs at h
  induction h with
  | nil => exact .nil
  | @cons p q ps qs hp hrest ih =>
      by_cases hk : p.1 = k
      · rw [List.filter_cons_of_neg (by simpa using hk),
          List.filter_cons_of_neg (by simpa [hp.1] using hk)]
        exact ih
      · rw [List.filter_cons_of_pos (by simpa using hk),
          List.filter_cons_of_pos (by simpa [hp.1] using hk)]
        exact .cons hp ih

end

/-! ## Equal up to one key -/

section
variable [DecidableEq κ] {d e : Dict κ α} {k j : κ} {v w : α}

theorem erase_set_self : (d.set k v).erase k = d.erase k := by
  apply Dict.ext
  show (setIn k v d.items).filter (·.1 ≠ k) = d.items.filter (·.1 ≠ k)
  induction d.items with
  | nil => simp [setIn]
  | cons p rest ih =>
      obtain ⟨j, u⟩ := p
      by_cases hj : j = k
      · simp [setIn, hj]
      · simp only [setIn, if_neg hj, List.filter_cons, ih]

theorem erase_set_ne (h : j ≠ k) : (d.set j v).erase k = (d.erase k).set j v := by
  apply Dict.ext
  show (setIn j v d.items).filter (·.1 ≠ k) = setIn j v (d.items.filter (·.1 ≠ k))
  induction d.items with
  | nil => simp [setIn, h]
  | cons p rest ih =>
      obtain ⟨i, u⟩ := p
      by_cases hi : i = j
      · subst hi
        simp [setIn, h]
      · rw [setIn, if_neg hi, List.filter_cons, List.filter_cons, ih]
        split
        · rw [setIn, if_neg hi]
        · rfl

/-- The dictionaries differ in one key at most. -/
def SameBut (k : κ) (d e : Dict κ α) : Prop := d.erase k = e.erase k

theorem SameBut.refl (k : κ) (d : Dict κ α) : SameBut k d d := rfl

theorem SameBut.set (h : SameBut k d e) (j : κ) (v : α) : SameBut k (d.set j v) (e.set j v) := by
  unfold SameBut at *
  by_cases hj : j = k
  · rw [hj, erase_set_self, erase_set_self, h]
  · rw [erase_set_ne hj, erase_set_ne hj, h]

theorem SameBut.set_left (h : SameBut k d e) (v : α) : SameBut k (d.set k v) e := by
  rw [SameBut, erase_set_self]
  exact h

theorem SameBut.set_right (h : SameBut k d e) (w : α) : SameBut k d (e.set k w) := by
  rw [SameBut, erase_set_self]
  exact h

end

end Dict
