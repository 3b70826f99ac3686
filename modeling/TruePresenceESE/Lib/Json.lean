import Mathlib

/-! # JSON trees

A value is a scalar, a list, or an ordered list of fields. `entries` collects
every field at every nesting depth and `strings` every string leaf; properties
of a whole tree are stated through membership in these two lists.
-/

inductive Json where
  | null
  | bool (b : Bool)
  | num (q : ℚ)
  | str (s : String)
  | arr (items : List Json)
  | obj (fields : List (String × Json))
  deriving Inhabited, Repr

namespace Json

/-! ## Induction over trees -/

/-- Tree induction with the hypotheses a traversal needs: every list item and
every field value. -/
@[elab_as_elim] theorem tree_induction {motive : Json → Prop}
    (null : motive .null) (bool : ∀ b, motive (.bool b)) (num : ∀ q, motive (.num q))
    (str : ∀ s, motive (.str s))
    (arr : ∀ items, (∀ v ∈ items, motive v) → motive (.arr items))
    (obj : ∀ fields, (∀ p ∈ fields, motive p.2) → motive (.obj fields))
    (value : Json) : motive value := by
  refine Json.rec (motive_1 := motive) (motive_2 := fun items => ∀ v ∈ items, motive v)
    (motive_3 := fun fields => ∀ p ∈ fields, motive p.2) (motive_4 := fun p => motive p.2)
    null bool num str arr obj ?_ ?_ ?_ ?_ ?_ value
  · intro v hv
    exact absurd hv List.not_mem_nil
  · intro head tail hhead htail v hv
    rcases List.mem_cons.mp hv with rfl | hmem
    · exact hhead
    · exact htail v hmem
  · intro p hp
    exact absurd hp List.not_mem_nil
  · intro head tail hhead htail p hp
    rcases List.mem_cons.mp hp with rfl | hmem
    · exact hhead
    · exact htail p hmem
  · intro key v hv
    exact hv

/-! ## Fields and strings at every depth -/

mutual

def entries : Json → List (String × Json)
  | .null => []
  | .bool _ => []
  | .num _ => []
  | .str _ => []
  | .arr items => entriesItems items
  | .obj fields => entriesFields fields

def entriesItems : List Json → List (String × Json)
  | [] => []
  | v :: rest => entries v ++ entriesItems rest

def entriesFields : List (String × Json) → List (String × Json)
  | [] => []
  | (key, v) :: rest => (key, v) :: (entries v ++ entriesFields rest)

end

mutual

def strings : Json → List String
  | .null => []
  | .bool _ => []
  | .num _ => []
  | .str s => [s]
  | .arr items => stringsItems items
  | .obj fields => stringsFields fields

def stringsItems : List Json → List String
  | [] => []
  | v :: rest => strings v ++ stringsItems rest

def stringsFields : List (String × Json) → List String
  | [] => []
  | (_, v) :: rest => strings v ++ stringsFields rest

end

def keys (value : Json) : List String := value.entries.map Prod.fst

theorem mem_entriesItems {p : String × Json} {items : List Json} :
    p ∈ entriesItems items ↔ ∃ v ∈ items, p ∈ v.entries := by
  induction items with
  | nil => simp [entriesItems]
  | cons v rest ih => simp [entriesItems, ih]

theorem mem_entriesFields {p : String × Json} {fields : List (String × Json)} :
    p ∈ entriesFields fields ↔ ∃ f ∈ fields, p = f ∨ p ∈ f.2.entries := by
  induction fields with
  | nil => simp [entriesFields]
  | cons f rest ih =>
      obtain ⟨key, v⟩ := f
      simp [entriesFields, ih, or_assoc]

@[simp] theorem mem_entries_arr {p : String × Json} {items : List Json} :
    p ∈ (arr items).entries ↔ ∃ v ∈ items, p ∈ v.entries := by
  rw [entries, mem_entriesItems]

@[simp] theorem mem_entries_obj {p : String × Json} {fields : List (String × Json)} :
    p ∈ (obj fields).entries ↔ ∃ f ∈ fields, p = f ∨ p ∈ f.2.entries := by
  rw [entries, mem_entriesFields]

theorem mem_stringsItems {s : String} {items : List Json} :
    s ∈ stringsItems items ↔ ∃ v ∈ items, s ∈ v.strings := by
  induction items with
  | nil => simp [stringsItems]
  | cons v rest ih => simp [stringsItems, ih]

theorem mem_stringsFields {s : String} {fields : List (String × Json)} :
    s ∈ stringsFields fields ↔ ∃ f ∈ fields, s ∈ f.2.strings := by
  induction fields with
  | nil => simp [stringsFields]
  | cons f rest ih =>
      obtain ⟨key, v⟩ := f
      simp [stringsFields, ih]

@[simp] theorem mem_strings_arr {s : String} {items : List Json} :
    s ∈ (arr items).strings ↔ ∃ v ∈ items, s ∈ v.strings := by
  rw [strings, mem_stringsItems]

@[simp] theorem mem_strings_obj {s : String} {fields : List (String × Json)} :
    s ∈ (obj fields).strings ↔ ∃ f ∈ fields, s ∈ f.2.strings := by
  rw [strings, mem_stringsFields]

theorem mem_keys {key : String} {value : Json} :
    key ∈ value.keys ↔ ∃ v, (key, v) ∈ value.entries := by
  simp [keys]

@[simp] theorem mem_keys_arr {key : String} {items : List Json} :
    key ∈ (arr items).keys ↔ ∃ v ∈ items, key ∈ v.keys := by
  simp only [mem_keys, mem_entries_arr]
  constructor
  · rintro ⟨w, v, hv, hw⟩
    exact ⟨v, hv, w, hw⟩
  · rintro ⟨v, hv, w, hw⟩
    exact ⟨w, v, hv, hw⟩

@[simp] theorem mem_keys_obj {key : String} {fields : List (String × Json)} :
    key ∈ (obj fields).keys ↔ ∃ f ∈ fields, key = f.1 ∨ key ∈ f.2.keys := by
  simp only [mem_keys, mem_entries_obj]
  constructor
  · rintro ⟨w, f, hf, rfl | hw⟩
    · exact ⟨_, hf, Or.inl rfl⟩
    · exact ⟨f, hf, Or.inr ⟨w, hw⟩⟩
  · rintro ⟨f, hf, rfl | ⟨w, hw⟩⟩
    · exact ⟨f.2, f, hf, Or.inl rfl⟩
    · exact ⟨w, f, hf, Or.inr hw⟩

@[simp] theorem keys_null : keys .null = [] := rfl
@[simp] theorem keys_bool (b : Bool) : (bool b).keys = [] := rfl
@[simp] theorem keys_num (q : ℚ) : (num q).keys = [] := rfl
@[simp] theorem keys_str (s : String) : (str s).keys = [] := rfl
@[simp] theorem entries_null : entries .null = [] := rfl
@[simp] theorem entries_bool (b : Bool) : (bool b).entries = [] := rfl
@[simp] theorem entries_num (q : ℚ) : (num q).entries = [] := rfl
@[simp] theorem entries_str (s : String) : (str s).entries = [] := rfl
@[simp] theorem strings_null : strings .null = [] := rfl
@[simp] theorem strings_bool (b : Bool) : (bool b).strings = [] := rfl
@[simp] theorem strings_num (q : ℚ) : (num q).strings = [] := rfl
@[simp] theorem strings_str (s : String) : (str s).strings = [s] := rfl

/-! ## Predicates on whole trees -/

/-- Every key satisfies `K` and every string leaf satisfies `S`, at every depth. -/
def All (K S : String → Prop) (value : Json) : Prop :=
  (∀ key ∈ value.keys, K key) ∧ ∀ s ∈ value.strings, S s

section All

variable {K S : String → Prop}

@[simp] theorem all_null : All K S .null := by simp [All]
@[simp] theorem all_bool (b : Bool) : All K S (.bool b) := by simp [All]
@[simp] theorem all_num (q : ℚ) : All K S (.num q) := by simp [All]
@[simp] theorem all_str_iff {s : String} : All K S (.str s) ↔ S s := by simp [All]

theorem all_arr_iff {items : List Json} : All K S (.arr items) ↔ ∀ v ∈ items, All K S v := by
  simp only [All, mem_keys_arr, mem_strings_arr]
  constructor
  · rintro ⟨hkeys, hstrings⟩ v hv
    exact ⟨fun key hk => hkeys key ⟨v, hv, hk⟩, fun s hs => hstrings s ⟨v, hv, hs⟩⟩
  · intro h
    exact ⟨fun key ⟨v, hv, hk⟩ => (h v hv).1 key hk, fun s ⟨v, hv, hs⟩ => (h v hv).2 s hs⟩

theorem all_obj_iff {fields : List (String × Json)} :
    All K S (.obj fields) ↔ ∀ p ∈ fields, K p.1 ∧ All K S p.2 := by
  simp only [All, mem_keys_obj, mem_strings_obj]
  constructor
  · rintro ⟨hkeys, hstrings⟩ p hp
    exact ⟨hkeys p.1 ⟨p, hp, .inl rfl⟩, fun key hk => hkeys key ⟨p, hp, .inr hk⟩,
      fun s hs => hstrings s ⟨p, hp, hs⟩⟩
  · intro h
    constructor
    · rintro key ⟨p, hp, rfl | hk⟩
      · exact (h p hp).1
      · exact (h p hp).2.1 key hk
    · rintro s ⟨p, hp, hs⟩
      exact (h p hp).2.2 s hs

end All

/-! ## Reading -/

/-- The value of a named field; absent for anything that is not an object. -/
def get? (value : Json) (key : String) : Option Json :=
  match value with
  | .obj fields => (fields.find? fun p => p.1 = key).map Prod.snd
  | _ => none

theorem mem_of_get?_obj {fields : List (String × Json)} {key : String} {v : Json}
    (h : (obj fields).get? key = some v) : (key, v) ∈ fields := by
  obtain ⟨⟨key', v'⟩, hfind, rfl⟩ := Option.map_eq_some_iff.mp h
  have hkey := List.find?_some hfind
  rw [decide_eq_true_eq] at hkey
  rw [← hkey]
  exact List.mem_of_find?_eq_some hfind

/-- Under distinct keys a field is what its key reads. -/
theorem get?_obj_iff {fields : List (String × Json)} (hnodup : (fields.map Prod.fst).Nodup)
    {key : String} {v : Json} : (obj fields).get? key = some v ↔ (key, v) ∈ fields := by
  refine ⟨mem_of_get?_obj, fun hmem => ?_⟩
  cases hget : (obj fields).get? key with
  | none =>
      rw [get?, Option.map_eq_none_iff, List.find?_eq_none] at hget
      exact absurd (decide_eq_true rfl) (hget _ hmem)
  | some w =>
      have heq := List.inj_on_of_nodup_map hnodup (mem_of_get?_obj hget) hmem rfl
      cases heq
      rfl

end Json
