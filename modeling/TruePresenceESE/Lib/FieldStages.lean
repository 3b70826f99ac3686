import TruePresenceESE.Lib.DictValues
import TruePresenceESE.Lib.Fallible

/-! # Normalising a dictionary field by field

A stage reads one field of a dictionary and rewrites it, leaves it or fails. Stages with
different fields do not see one another, so that a run of them can be repeated without a
change exactly if each of the stages can.
-/

namespace FieldStages

variable {ε κ α : Type} [DecidableEq κ]

/-- A stage that depends on one field and stores nothing but that field. -/
def OnField (key : κ) (f : Dict κ α → Except ε (Dict κ α)) : Prop :=
  ∃ run : Option α → Except ε (Option α),
    ∀ d, f d = (run (d.get? key)).map fun v => v.elim d (d.set key)

/-- Stages next to their fields, one after the other. -/
def runAll : List (κ × (Dict κ α → Except ε (Dict κ α))) → Dict κ α → Except ε (Dict κ α)
  | [], d => .ok d
  | s :: rest, d => s.2 d >>= runAll rest

/-! ## One stage -/

section
variable {key : κ} {f : Dict κ α → Except ε (Dict κ α)} {d e : Dict κ α}

theorem OnField.frame (hon : OnField key f) (h : f d = .ok e) {k : κ} (hk : k ≠ key) :
    e.get? k = d.get? k := by
  obtain ⟨run, hrun⟩ := hon
  rw [hrun, Fallible.map_eq_ok_iff] at h
  obtain ⟨v, -, rfl⟩ := h
  cases v with
  | none => rfl
  | some v => exact Dict.get?_set_ne d v (Ne.symm hk)

/-- A stage leaves the dictionary as it is where the value it stores is there already. -/
theorem OnField.eq_ok_self_iff (hon : OnField key f) :
    f d = .ok d ↔ ∃ e, f d = .ok e ∧ e.get? key = d.get? key := by
  constructor
  · intro h
    exact ⟨d, h, rfl⟩
  · rintro ⟨e, h, hsame⟩
    obtain ⟨run, hrun⟩ := hon
    rw [h]
    rw [hrun, Fallible.map_eq_ok_iff] at h
    obtain ⟨v, -, rfl⟩ := h
    cases v with
    | none => rfl
    | some v =>
        rw [Option.elim_some, Dict.get?_set_self] at hsame
        rw [Option.elim_some, Dict.set_eq_self hsame.symm]

/-- Two dictionaries with the same field go through the stage alike. -/
theorem OnField.congr (hon : OnField key f) (hsame : d.get? key = e.get? key) {d' : Dict κ α}
    (h : f d = .ok d') : ∃ e', f e = .ok e' ∧ e'.get? key = d'.get? key := by
  obtain ⟨run, hrun⟩ := hon
  rw [hrun, Fallible.map_eq_ok_iff] at h
  obtain ⟨v, hv, rfl⟩ := h
  rw [hsame] at hv
  refine ⟨v.elim e (e.set key), ?_, ?_⟩
  · rw [hrun, hv]
    rfl
  · cases v with
    | none => exact hsame.symm
    | some v => rw [Option.elim_some, Option.elim_some, Dict.get?_set_self, Dict.get?_set_self]

theorem OnField.eq_ok_self_congr (hon : OnField key f) (hsame : d.get? key = e.get? key) :
    f d = .ok d ↔ f e = .ok e := by
  constructor
  · intro h
    obtain ⟨e', he', hkey⟩ := hon.congr hsame h
    exact hon.eq_ok_self_iff.2 ⟨e', he', hkey.trans hsame⟩
  · intro h
    obtain ⟨d', hd', hkey⟩ := hon.congr hsame.symm h
    exact hon.eq_ok_self_iff.2 ⟨d', hd', hkey.trans hsame.symm⟩

end

/-! ## A run of stages -/

section
variable {stages : List (κ × (Dict κ α → Except ε (Dict κ α)))} {d out : Dict κ α}

/-- Each stage has done to its field what it does to the dictionary at the start. -/
theorem runAll_ok (hon : ∀ s ∈ stages, OnField s.1 s.2) (hkeys : (stages.map Prod.fst).Nodup)
    (h : runAll stages d = .ok out) :
    (∀ s ∈ stages, ∃ e, s.2 d = .ok e ∧ out.get? s.1 = e.get? s.1) ∧
      ∀ k ∉ stages.map Prod.fst, out.get? k = d.get? k := by
  induction stages generalizing d with
  | nil =>
      cases h
      exact ⟨nofun, fun _ _ => rfl⟩
  | cons s rest ih =>
      rw [List.forall_mem_cons] at hon
      rw [List.map_cons, List.nodup_cons] at hkeys
      obtain ⟨next, hnext, hrest⟩ := Fallible.bind_eq_ok_iff.mp h
      obtain ⟨hdone, hframe⟩ := ih hon.2 hkeys.2 hrest
      rw [List.forall_mem_cons]
      refine ⟨⟨⟨next, hnext, hframe _ hkeys.1⟩, fun t ht => ?_⟩, fun k hk => ?_⟩
      · have hne : t.1 ≠ s.1 := fun heq => hkeys.1 (heq ▸ List.mem_map_of_mem ht)
        obtain ⟨e, he, hout⟩ := hdone t ht
        obtain ⟨e', he', hsame⟩ := (hon.2 t ht).congr (hon.1.frame hnext hne) he
        exact ⟨e', he', hout.trans hsame.symm⟩
      · rw [List.map_cons, List.mem_cons, not_or] at hk
        rw [hframe k hk.2, hon.1.frame hnext hk.1]

/-- A run changes nothing where no stage does. -/
theorem runAll_eq_ok_self_iff (hon : ∀ s ∈ stages, OnField s.1 s.2)
    (hkeys : (stages.map Prod.fst).Nodup) :
    runAll stages d = .ok d ↔ ∀ s ∈ stages, s.2 d = .ok d := by
  constructor
  · intro h s hs
    obtain ⟨e, he, hsame⟩ := (runAll_ok hon hkeys h).1 s hs
    exact (hon s hs).eq_ok_self_iff.2 ⟨e, he, hsame.symm⟩
  · intro h
    clear hon hkeys
    induction stages with
    | nil => rfl
    | cons s rest ih =>
        rw [List.forall_mem_cons] at h
        rw [runAll, h.1]
        exact ih h.2

/-- A run can be repeated without a change exactly if each of its stages can. -/
theorem runAll_repeat_iff (hon : ∀ s ∈ stages, OnField s.1 s.2)
    (hkeys : (stages.map Prod.fst).Nodup) (h : runAll stages d = .ok out) :
    runAll stages out = .ok out ↔ ∀ s ∈ stages, ∀ e, s.2 d = .ok e → s.2 e = .ok e := by
  rw [runAll_eq_ok_self_iff hon hkeys]
  refine forall₂_congr fun s hs => ?_
  obtain ⟨e, he, hsame⟩ := (runAll_ok hon hkeys h).1 s hs
  rw [(hon s hs).eq_ok_self_congr hsame]
  constructor
  · intro hrepeat e' he'
    rw [he] at he'
    cases he'
    exact hrepeat
  · intro hrepeat
    exact hrepeat e he

end

end FieldStages
