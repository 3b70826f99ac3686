import TruePresenceESE.Ese.DerivedArtifacts

/-! # What can be collected

The collector iterates over six fields of a report without looking at their
types. Reports that pass validation have lists there, except that a null
evidence basis passes as well.
-/

namespace TruePresenceESE.Ese

open PosixPath PyText PyValue

/-! ## Reports -/

def iteratedFields : List String :=
  ["next_steps", "artifacts", "assumptions", "unknowns", "evidence_basis", "code_suggestions"]

/-- Every field the collector iterates over can be iterated over. -/
def Reportable (report : Json) : Prop :=
  ∀ key ∈ iteratedFields, ∀ value, report.get? key = some value → (iterate value).isSome

theorem iterateField_ok {mapping : Json} {key : String}
    (h : ∀ value, mapping.get? key = some value → (iterate value).isSome) :
    ∃ items, iterateField mapping key = .ok items := by
  unfold iterateField
  cases hvalue : mapping.get? key with
  | none => exact ⟨[], rfl⟩
  | some value =>
      obtain ⟨items, hitems⟩ := Option.isSome_iff_exists.mp (h value hvalue)
      exact ⟨items, by simp only [hitems]; rfl⟩

theorem textItems_ok {mapping : Json} {key : String}
    (h : ∀ value, mapping.get? key = some value → (iterate value).isSome) :
    ∃ items, textItems mapping key = .ok items := by
  obtain ⟨items, hitems⟩ := iterateField_ok h
  exact ⟨_, by rw [textItems, hitems]; rfl⟩

theorem structuredEntry_ok {report : Json} (h : Reportable report) (py : Interpreter)
    (entry : RoleEntry) :
    ∃ entry', structuredEntry py entry report = .ok entry' ∧ entry'.role = entry.role := by
  obtain ⟨nextSteps, hnextSteps⟩ := textItems_ok (h "next_steps" (by simp [iteratedFields]))
  obtain ⟨artifacts, hartifacts⟩ := textItems_ok (h "artifacts" (by simp [iteratedFields]))
  obtain ⟨assumptions, hassumptions⟩ := textItems_ok (h "assumptions" (by simp [iteratedFields]))
  obtain ⟨unknowns, hunknowns⟩ := textItems_ok (h "unknowns" (by simp [iteratedFields]))
  obtain ⟨basis, hbasis⟩ := textItems_ok (h "evidence_basis" (by simp [iteratedFields]))
  obtain ⟨suggestions, hsuggestions⟩ :=
    iterateField_ok (h "code_suggestions" (by simp [iteratedFields]))
  unfold structuredEntry
  rw [hnextSteps, hartifacts, hassumptions, hunknowns, hbasis, hsuggestions]
  exact ⟨_, rfl, rfl⟩

/-! ## Records -/

/-- A file the collector can read a record's artifact from. -/
def Readable (reader : Reader) (path : String) : Prop :=
  ∃ content, reader.open path = some content ∧
    (PyText.lower (String.ofList (suffix path)) = ".json" →
      ∃ fields, content.load reader.py = some (.obj fields) ∧ Reportable (.obj fields))

/-- A record whose artifact can be read has an entry if it names a role. -/
theorem roleEntry_ok {reader : Reader} {artifactsDir role ref : String} {item : Json}
    (hrole : item.get? "role" = some (.str role)) (href : item.get? "artifact" = some (.str ref))
    (hstrip : strip ref = ref) (hreadable : Readable reader (reportArtifactPath artifactsDir ref)) :
    ∃ entry, roleEntry reader artifactsDir item = .ok entry ∧
      (strip role ≠ "" → ref ≠ "" → ∃ e, entry = some e ∧ e.role = strip role) := by
  obtain ⟨content, hopen, hjson⟩ := hreadable
  unfold roleEntry
  dsimp only
  rw [textField_str hrole, textField_str href, hstrip]
  split
  · rename_i hblank
    refine ⟨none, rfl, fun hrole href => ?_⟩
    rcases hblank with hblank | hblank
    · exact absurd hblank hrole
    · exact absurd hblank href
  · simp only [loadRoleReport, readJson, readText, hopen]
    split
    · rename_i hsuffix
      obtain ⟨fields, hload, hreportable⟩ := hjson hsuffix
      rw [hload]
      simp only [Except.map, bind, Except.bind]
      obtain ⟨entry, hentry, hname⟩ := structuredEntry_ok hreportable reader.py
        { role := strip role
          model := rawField reader.py item "model"
          artifact := pathText (reportArtifactPath artifactsDir ref)
          summary := ""
          reportFormat := PyText.lower (String.ofList
            ((suffix (reportArtifactPath artifactsDir ref)).dropWhile (· = '.'))) }
      rw [hentry]
      exact ⟨some entry, rfl, fun _ _ => ⟨entry, rfl, hname⟩⟩
    · exact ⟨_, rfl, fun _ _ => ⟨_, rfl, rfl⟩⟩

/-! ## Reports that pass validation -/

theorem get?_items {α : Type} (d : Dict String α) (f : α → Json) (key : String) :
    (Json.obj (d.items.map fun p => (p.1, f p.2))).get? key = (d.get? key).map f := by
  rw [Json.get?, Dict.get?, List.find?_map]
  induction d.items with
  | nil => rfl
  | cons p rest ih =>
      by_cases hkey : p.1 = key
      · simp [Dict.lookupIn, hkey]
      · simpa [Dict.lookupIn, hkey] using ih

theorem get?_report (report : Report) (key : String) :
    (Json.obj report.items).get? key = report.get? key := by
  simpa using get?_items report id key

section
variable {role : String} {py : Interpreter} {report out : Report}

theorem normalizeRequiredStrings_ok {key : String}
    (h : normalizeRequiredStrings role key report = .ok out) :
    ∃ items, out = report.set key (.arr items) := by
  obtain ⟨texts, -, h⟩ := Fallible.bind_eq_ok_iff.mp h
  cases h
  exact ⟨_, rfl⟩

theorem normalizeOptionalStrings_ok {key : String}
    (h : normalizeOptionalStrings role key report = .ok out) :
    ∃ items, out = report.set key (.arr items) := by
  obtain ⟨texts, -, h⟩ := Fallible.bind_eq_ok_iff.mp h
  cases h
  exact ⟨_, rfl⟩

/-- The one field that may stay as it is. -/
theorem normalizeEvidenceBasis_ok (h : normalizeEvidenceBasis role report = .ok out) :
    (∀ key ≠ "evidence_basis", out.get? key = report.get? key) ∧
      ∀ value, out.get? "evidence_basis" = some value → value = .null ∨ ∃ items, value = .arr items := by
  unfold normalizeEvidenceBasis at h
  split at h
  · rename_i hnone
    cases h
    exact ⟨fun _ _ => rfl, by simp [hnone]⟩
  · rename_i hnull
    cases h
    exact ⟨fun _ _ => rfl, by simp [hnull]⟩
  · obtain ⟨texts, -, h⟩ := Fallible.bind_eq_ok_iff.mp h
    cases h
    refine ⟨fun key hkey => Dict.get?_set_ne _ _ (Ne.symm hkey), fun value hvalue => .inr ?_⟩
    rw [Dict.get?_set_self, Option.some.injEq] at hvalue
    exact ⟨_, hvalue.symm⟩

theorem normalizeFindings_ok (h : normalizeFindings role report = .ok out) :
    ∃ items, out = report.set "findings" (.arr items) := by
  unfold normalizeFindings at h
  split at h
  · obtain ⟨items, -, h⟩ := Fallible.bind_eq_ok_iff.mp h
    cases h
    exact ⟨_, rfl⟩
  · cases h

theorem normalizeCodeSuggestions_ok (h : normalizeCodeSuggestions role py report = .ok out) :
    ∃ items, out = report.set "code_suggestions" (.arr items) := by
  unfold normalizeCodeSuggestions at h
  split at h
  · obtain ⟨items, -, h⟩ := Fallible.bind_eq_ok_iff.mp h
    cases h
    exact ⟨_, rfl⟩
  · cases h

/-- A report that passes validation can be collected unless its evidence basis
is null. -/
theorem normalizeReport_reportable {model : String}
    (h : normalizeReport role py model report = .ok out)
    (hbasis : out.get? "evidence_basis" ≠ some .null) : Reportable (.obj out.items) := by
  obtain ⟨r₁, h₁, h⟩ := Fallible.bind_eq_ok_iff.mp h
  obtain ⟨r₂, h₂, h⟩ := Fallible.bind_eq_ok_iff.mp h
  obtain ⟨r₃, h₃, h⟩ := Fallible.bind_eq_ok_iff.mp h
  obtain ⟨r₄, h₄, h⟩ := Fallible.bind_eq_ok_iff.mp h
  obtain ⟨r₅, h₅, h⟩ := Fallible.bind_eq_ok_iff.mp h
  obtain ⟨r₆, h₆, h⟩ := Fallible.bind_eq_ok_iff.mp h
  obtain ⟨r₇, h₇, h⟩ := Fallible.bind_eq_ok_iff.mp h
  obtain ⟨r₈, h₈, h⟩ := Fallible.bind_eq_ok_iff.mp h
  obtain ⟨r₉, h₉, h⟩ := Fallible.bind_eq_ok_iff.mp h
  cases h
  obtain ⟨assumptions, rfl⟩ := normalizeRequiredStrings_ok h₃
  obtain ⟨unknowns, rfl⟩ := normalizeRequiredStrings_ok h₄
  obtain ⟨findings, rfl⟩ := normalizeFindings_ok h₆
  obtain ⟨artifacts, rfl⟩ := normalizeOptionalStrings_ok h₇
  obtain ⟨nextSteps, rfl⟩ := normalizeOptionalStrings_ok h₈
  obtain ⟨suggestions, rfl⟩ := normalizeCodeSuggestions_ok h₉
  obtain ⟨hkept, hfield⟩ := normalizeEvidenceBasis_ok h₅
  have hlists : ∀ key ∈ ["assumptions", "unknowns"], ∃ items, r₅.get? key = some (.arr items) := by
    intro key hkey
    simp only [List.mem_cons, List.not_mem_nil, or_false] at hkey
    rcases hkey with rfl | rfl
    · exact ⟨assumptions, by rw [hkept _ (by decide)]; simp [Dict.get?_set]⟩
    · exact ⟨unknowns, by rw [hkept _ (by decide)]; simp⟩
  intro key hkey value hvalue
  rw [get?_report] at hvalue
  simp only [iteratedFields, List.mem_cons, List.not_mem_nil, or_false] at hkey
  rcases hkey with rfl | rfl | rfl | rfl | rfl | rfl
  · simp [Dict.get?_set] at hvalue
    simp [← hvalue, iterate]
  · simp [Dict.get?_set] at hvalue
    simp [← hvalue, iterate]
  · obtain ⟨items, hitems⟩ := hlists "assumptions" (by simp)
    simp [Dict.get?_set, hitems] at hvalue
    simp [← hvalue, iterate]
  · obtain ⟨items, hitems⟩ := hlists "unknowns" (by simp)
    simp [Dict.get?_set, hitems] at hvalue
    simp [← hvalue, iterate]
  · simp [Dict.get?_set] at hvalue hbasis
    rcases hfield value hvalue with rfl | ⟨items, rfl⟩
    · exact absurd hvalue hbasis
    · rfl
  · simp [Dict.get?_set] at hvalue
    simp [← hvalue, iterate]

end

theorem normalizeJsonReport_reportable {role model output : String} {py : Interpreter}
    {report : Report} (h : normalizeJsonReport role py model output = .ok report)
    (hbasis : report.get? "evidence_basis" ≠ some .null) : Reportable (.obj report.items) := by
  unfold normalizeJsonReport at h
  split at h
  · cases h
  · exact normalizeReport_reportable h hbasis
  · cases h

end TruePresenceESE.Ese
