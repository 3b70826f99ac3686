import TruePresenceESE.Sdk.Privacy

/-! # Stripping raw content

`strip_raw_content` deletes what the global scan reports. Its values are the
clean ones, and the clean ones are what it leaves alone.
-/

namespace TruePresenceESE.Sdk

mutual

/-- Keys are strings already, so `stripped[str(key)]` keeps them and their order. -/
def stripRawContent : Json → Json
  | .obj fields => .obj (stripRawContentFields fields)
  | .arr items => .arr (stripRawContentItems items)
  | payload => payload

def stripRawContentFields : List (String × Json) → List (String × Json)
  | [] => []
  | (key, value) :: rest =>
      if isRawContentKey key || isSensitiveFieldDescriptor key value then
        stripRawContentFields rest
      else (key, stripRawContent value) :: stripRawContentFields rest

def stripRawContentItems : List Json → List Json
  | [] => []
  | item :: rest => stripRawContent item :: stripRawContentItems rest

end

theorem stripRawContentItems_eq_map (items : List Json) :
    stripRawContentItems items = items.map stripRawContent := by
  induction items with
  | nil => rfl
  | cons item rest ih => rw [stripRawContentItems, ih, List.map_cons]

theorem stripRawContentFields_eq_map (fields : List (String × Json)) :
    stripRawContentFields fields =
      (fields.filter fun p => !rejectsField p.1 p.2).map fun p => (p.1, stripRawContent p.2) := by
  induction fields with
  | nil => rfl
  | cons p rest ih =>
      obtain ⟨key, value⟩ := p
      rw [stripRawContentFields, ih, ← rejectsField, List.filter_cons]
      cases rejectsField key value with
      | true => rfl
      | false => rfl

/-- The test beside a key looks at strings only, and stripping leaves those alone. -/
theorem rejectsField_stripRawContent (key : String) (value : Json) :
    rejectsField key (stripRawContent value) = rejectsField key value := by
  cases value with
  | obj fields => simp [stripRawContent, rejectsField, isSensitiveFieldDescriptor]
  | arr items => simp [stripRawContent, rejectsField, isSensitiveFieldDescriptor]
  | _ => rfl

/-! ## Strip against scan -/

theorem globalClean_stripRawContent (value : Json) : GlobalClean (stripRawContent value) := by
  induction value using Json.tree_induction with
  | null => simp [stripRawContent, GlobalClean]
  | bool b => simp [stripRawContent, GlobalClean]
  | num q => simp [stripRawContent, GlobalClean]
  | str s => simp [stripRawContent, GlobalClean]
  | arr items ih =>
      rw [stripRawContent, stripRawContentItems_eq_map, globalClean_arr_iff]
      intro v hv
      obtain ⟨item, hitem, rfl⟩ := List.mem_map.mp hv
      exact ih item hitem
  | obj fields ih =>
      rw [stripRawContent, stripRawContentFields_eq_map, globalClean_obj_iff]
      intro p hp
      obtain ⟨⟨key, v⟩, hfield, rfl⟩ := List.mem_map.mp hp
      obtain ⟨hmem, hkept⟩ := List.mem_filter.mp hfield
      rw [Bool.not_eq_true'] at hkept
      exact ⟨(rejectsField_stripRawContent key v).trans hkept, ih _ hmem⟩

theorem stripRawContent_of_globalClean {value : Json} (h : GlobalClean value) :
    stripRawContent value = value := by
  induction value using Json.tree_induction with
  | null => rfl
  | bool b => rfl
  | num q => rfl
  | str s => rfl
  | arr items ih =>
      rw [globalClean_arr_iff] at h
      have hitems : items.map stripRawContent = items.map id :=
        List.map_congr_left fun v hv => ih v hv (h v hv)
      rw [stripRawContent, stripRawContentItems_eq_map, hitems, List.map_id]
  | obj fields ih =>
      rw [globalClean_obj_iff] at h
      have hkept : fields.filter (fun p => !rejectsField p.1 p.2) = fields := by
        rw [List.filter_eq_self]
        intro p hp
        rw [(h p hp).1]
        rfl
      have hvalues : (fields.map fun p => (p.1, stripRawContent p.2)) = fields.map id := by
        apply List.map_congr_left
        intro p hp
        rw [ih p hp (h p hp).2]
        rfl
      rw [stripRawContent, stripRawContentFields_eq_map, hkept, hvalues, List.map_id]

/-- What stripping returns passes the scan and is left alone by a second pass, and
only what passes the scan is returned unchanged. The order of fields is kept, so
equality of trees is the equality of the source. -/
theorem stripRawContent_agrees_with_scan (value : Json) (path : String) :
    globalScan path (stripRawContent value) = [] ∧
      stripRawContent (stripRawContent value) = stripRawContent value ∧
      (stripRawContent value = value ↔ globalScan path value = []) := by
  have hclean := globalClean_stripRawContent value
  refine ⟨(globalScan_eq_nil_iff path _).mpr hclean, stripRawContent_of_globalClean hclean, ?_⟩
  rw [globalScan_eq_nil_iff]
  constructor
  · intro hsame
    rw [← hsame]
    exact hclean
  · exact stripRawContent_of_globalClean

end TruePresenceESE.Sdk
