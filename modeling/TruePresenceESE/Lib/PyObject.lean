import TruePresenceESE.Lib.JsonDict

/-! # Values that need not be JSON

Dictionaries whose values may be instants. The encoder gives up on a value with an
instant anywhere in it.
-/

inductive PyObject where
  | json (value : Json)
  | datetime (instant : ℚ)
  | dict (fields : List (String × PyObject))

namespace PyObject

mutual

/-- What `json.dumps` writes, read back; it raises on an instant. -/
def encode : PyObject → Option Json
  | .json value => some value
  | .datetime _ => none
  | .dict fields => (encodeFields fields).map .obj

def encodeFields : List (String × PyObject) → Option (List (String × Json))
  | [] => some []
  | (key, value) :: rest =>
      match encode value, encodeFields rest with
      | some encoded, some others => some ((key, encoded) :: others)
      | _, _ => none

end

theorem encodeFields_of_mem {fields : List (String × PyObject)} {key : String} {value : PyObject}
    (h : (key, value) ∈ fields) (hvalue : encode value = none) : encodeFields fields = none := by
  induction fields with
  | nil => cases h
  | cons field rest ih =>
      obtain ⟨name, first⟩ := field
      rw [encodeFields]
      rcases List.mem_cons.mp h with heq | hrest
      · cases heq
        rw [hvalue]
      · rw [ih hrest]
        split
        · rename_i heq
          cases heq
        · rfl

/-- One member without an encoding leaves the dictionary without one. -/
theorem encode_dict_of_mem {fields : List (String × PyObject)} {key : String} {value : PyObject}
    (h : (key, value) ∈ fields) (hvalue : encode value = none) : encode (.dict fields) = none := by
  rw [encode, encodeFields_of_mem h hvalue]
  rfl

end PyObject
