import TruePresenceESE.Lib.Dict
import TruePresenceESE.Lib.PyValue

/-! # Dictionaries of decoded JSON

A dictionary from names to JSON values under the reading idioms of the code:
`get` with and without a default, `setdefault`, and the conversion of an
arbitrary value into a dictionary.
-/

abbrev JsonDict := Dict String Json

namespace JsonDict

open PyValue

def ofFields (fields : List (String × Json)) : JsonDict := Dict.empty.update fields

def toJson (d : JsonDict) : Json := .obj d.items

def has (d : JsonDict) (key : String) : Bool := (d.get? key).isSome

/-- `d.get(key, default)` -/
def getOr (d : JsonDict) (key : String) (default : Json) : Json := (d.get? key).getD default

/-- `d.get(key)` -/
def get (d : JsonDict) (key : String) : Json := d.getOr key .null

def setDefault (d : JsonDict) (key : String) (value : Json) : JsonDict :=
  if d.has key then d else d.set key value

/-- `d.update(e)` -/
def merge (d e : JsonDict) : JsonDict := d.update e.items

/-- `_to_dict`: a value that is no mapping stands under a key of its own. -/
def ofValue : Json → JsonDict
  | .null => Dict.empty
  | .obj fields => ofFields fields
  | value => Dict.empty.set "value" value

section
variable {d e : JsonDict} {key other : String} {value : Json}

theorem get_eq_of_get? (h : d.get? key = e.get? key) : d.get key = e.get key := by
  rw [get, get, getOr, getOr, h]

theorem getOr_eq_of_get? {default : Json} (h : d.get? key = e.get? key) :
    d.getOr key default = e.getOr key default := by
  rw [getOr, getOr, h]

theorem has_eq_of_get? (h : d.get? key = e.get? key) : d.has key = e.has key := by
  rw [has, has, h]

@[simp] theorem get_empty : get Dict.empty key = .null := rfl

@[simp] theorem has_empty : has Dict.empty key = false := rfl

theorem get?_setDefault : (d.setDefault key value).get? other =
    if key = other then some ((d.get? key).getD value) else d.get? other := by
  unfold setDefault has
  cases hget : d.get? key with
  | none =>
      rw [if_neg (by simp), Dict.get?_set]
      rfl
  | some old =>
      rw [if_pos (by simp)]
      split
      · rename_i heq
        rw [← heq, hget]
        rfl
      · rfl

theorem get?_setDefault_ne (h : key ≠ other) : (d.setDefault key value).get? other = d.get? other := by
  rw [get?_setDefault, if_neg h]

theorem get?_setDefault_self :
    (d.setDefault key value).get? key = some ((d.get? key).getD value) := by
  rw [get?_setDefault, if_pos rfl]

theorem get_set : get (Dict.set d key value) other = if key = other then value else d.get other := by
  rw [get, getOr, Dict.get?_set]
  split <;> rfl

/-- Later entries win. -/
theorem get?_merge : (d.merge e).get? key = (e.get? key).or (d.get? key) := by
  cases hget : e.get? key with
  | none => exact d.get?_update_of_notMem e.items (Dict.get?_eq_none_iff.mp hget)
  | some value => exact d.get?_update_of_mem e.nodup (Dict.get?_eq_some_iff.mp hget)

theorem get?_ofFields_items : (ofFields d.items).get? key = d.get? key := by
  have h := @get?_merge Dict.empty d key
  rwa [Dict.get?_empty, Option.or_none] at h

end

/-! ## Agreement outside some keys -/

def SameOutside (hidden : List String) (d e : JsonDict) : Prop :=
  ∀ key ∉ hidden, d.get? key = e.get? key

section
variable {hidden : List String} {d e : JsonDict} {key : String}

theorem SameOutside.get_eq (h : SameOutside hidden d e) (key : String) (hkey : key ∉ hidden) :
    d.get key = e.get key :=
  get_eq_of_get? (h key hkey)

theorem SameOutside.getOr_eq (h : SameOutside hidden d e) (key : String) (default : Json)
    (hkey : key ∉ hidden) : d.getOr key default = e.getOr key default :=
  getOr_eq_of_get? (h key hkey)

theorem SameOutside.setDefault {value : Json} (h : SameOutside hidden d e) :
    SameOutside hidden (d.setDefault key value) (e.setDefault key value) := by
  intro other hother
  rw [get?_setDefault, get?_setDefault]
  split
  · rename_i heq
    rw [heq, h other hother]
  · exact h other hother

/-- A default under a hidden key does not show. -/
theorem sameOutside_setDefault {value value' : Json} (hkey : key ∈ hidden) :
    SameOutside hidden (d.setDefault key value) (d.setDefault key value') := by
  intro other hother
  have hne : key ≠ other := fun heq => hother (heq ▸ hkey)
  rw [get?_setDefault_ne hne, get?_setDefault_ne hne]

end

/-! ## Numbers -/

def isNone : Json → Bool
  | .null => true
  | _ => false

/-- An operand of a comparison. -/
def number : Json → Except PyError ℚ
  | .bool b => .ok (if b then 1 else 0)
  | .num q => .ok q
  | _ => .error .typeError

/-- An operand of arithmetic with a float: huge integers do not fit into one. -/
def floatOperand : Json → Except PyError ℚ
  | .bool b => .ok (if b then 1 else 0)
  | .num q => if |q| < 2 ^ 1024 - 2 ^ 970 then .ok q else .error .overflowError
  | _ => .error .typeError

/-- `x or y` -/
def orElse (x y : Json) : Json := if truthy x then x else y

/-- `x in {..}` over a set of strings, which asks `x` for its hash. -/
def memberOf (names : List String) : Json → Except PyError Bool
  | .str s => .ok (names.contains s)
  | .arr _ => .error .typeError
  | .obj _ => .error .typeError
  | _ => .ok false

def isText (text : String) : Json → Bool
  | .str s => s = text
  | _ => false

/-- A value that is asked for its `get`. -/
def mappingOf : Json → Except PyError JsonDict
  | .obj fields => .ok (ofFields fields)
  | _ => .error .attributeError

/-- `list(value)` -/
def listOf (value : Json) : Except PyError (List Json) :=
  (iterate value).elim (.error .typeError) .ok

theorem isText_iff {text : String} {value : Json} : isText text value = true ↔ value = .str text := by
  cases value <;> simp [isText]

theorem isNone_of_number {value : Json} {q : ℚ} (h : number value = .ok q) :
    isNone value = false := by
  cases value <;> first | rfl | cases h

theorem number_of_floatOperand {value : Json} {q : ℚ} (h : floatOperand value = .ok q) :
    number value = .ok q := by
  cases value with
  | bool b => exact h
  | num p =>
      simp only [floatOperand] at h
      split at h
      · exact h
      · cases h
  | _ => cases h

theorem get?_ofFields_map {α : Type} (d : Dict String α) (f : α → Json) (key : String) :
    (JsonDict.ofFields (d.items.map fun entry => (entry.1, f entry.2))).get? key =
      (d.get? key).map f := by
  have hkeys : (d.items.map fun entry => (entry.1, f entry.2)).map Prod.fst = d.keys := by
    rw [List.map_map]
    rfl
  have hnodup : ((d.items.map fun entry => (entry.1, f entry.2)).map Prod.fst).Nodup := by
    rw [hkeys]
    exact d.keys_nodup
  cases hget : d.get? key with
  | some value =>
      rw [JsonDict.ofFields, Option.map_some, Dict.get?_update_empty_iff hnodup]
      exact List.mem_map.mpr ⟨(key, value), Dict.get?_eq_some_iff.mp hget, rfl⟩
  | none =>
      rw [JsonDict.ofFields, Dict.get?_update_of_notMem]
      · rfl
      · rw [hkeys]
        exact Dict.get?_eq_none_iff.mp hget

end JsonDict
