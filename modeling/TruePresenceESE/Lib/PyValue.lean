import TruePresenceESE.Lib.Json
import TruePresenceESE.Lib.PyText

/-! # JSON values as Python values

Truth, `str` and the defaulting idioms `x or default` on decoded JSON. What
`str` makes of anything but a string is the interpreter's, as are decoding and
encoding and the Unicode tables behind `isalnum` and `lower`.
-/

structure Interpreter where
  /-- `json.loads`; a decode error is `none`. -/
  loads : String → Option Json
  /-- `json.dumps(value, indent=2)` -/
  dumps : Json → String
  /-- `str(value)` where the value is no string. -/
  repr : Json → String
  isAlnum : Char → Bool
  lower : String → String
  lower_empty : lower "" = ""

namespace PyValue

def truthy : Json → Bool
  | .null => false
  | .bool b => b
  | .num q => q ≠ 0
  | .str s => s ≠ ""
  | .arr items => !items.isEmpty
  | .obj fields => !fields.isEmpty

def str (py : Interpreter) : Json → String
  | .str s => s
  | value => py.repr value

/-- `str(mapping.get(key) or "").strip()` -/
def textField (py : Interpreter) (mapping : Json) (key : String) : String :=
  match mapping.get? key with
  | some value => if truthy value then PyText.strip (str py value) else ""
  | none => ""

theorem textField_str {py : Interpreter} {mapping : Json} {key text : String}
    (h : mapping.get? key = some (.str text)) :
    textField py mapping key = PyText.strip text := by
  rw [textField, h]
  by_cases hempty : text = ""
  · subst hempty
    rfl
  · simp [truthy, hempty, str]

/-! ## Conversions that raise -/

inductive PyError where
  | typeError
  | valueError
  | overflowError
  | attributeError
  | keyError
  deriving DecidableEq, Repr

/-- `float(value)`, with `parse` for texts: integers from `2 ^ 1024 - 2 ^ 970` on
have no nearest float. -/
def toFloat (parse : String → Option ℚ) : Json → Except PyError ℚ
  | .bool b => .ok (if b then 1 else 0)
  | .num q => if |q| < 2 ^ 1024 - 2 ^ 970 then .ok q else .error .overflowError
  | .str s => (parse s).elim (.error .valueError) .ok
  | _ => .error .typeError

/-- Small numbers have a float. -/
theorem toFloat_small {parse : String → Option ℚ} {q : ℚ} (h : |q| ≤ 8000) :
    toFloat parse (.num q) = .ok q := by
  have hbound : |q| < (2 : ℚ) ^ 1024 - 2 ^ 970 := by
    have hlow : (2 : ℚ) ^ 13 ≤ 2 ^ 970 := pow_le_pow_right₀ (by norm_num) (by norm_num)
    have hhigh : (2 : ℚ) ^ 970 + 2 ^ 970 ≤ 2 ^ 1024 := by
      rw [← two_mul, ← pow_succ']
      exact pow_le_pow_right₀ (by norm_num) (by norm_num)
    have hlow' : (8192 : ℚ) ≤ 2 ^ 970 := le_trans (by norm_num) hlow
    generalize (2 : ℚ) ^ 970 = small at hlow' hhigh ⊢
    generalize (2 : ℚ) ^ 1024 = large at hhigh ⊢
    linarith only [h, hlow', hhigh]
  rw [toFloat, if_pos hbound]

/-- What hashable values are told apart by; `True` is `1`. -/
inductive HashKey where
  | none
  | number (q : ℚ)
  | text (s : String)
  deriving DecidableEq

def hashKey : Json → Option HashKey
  | .null => some .none
  | .bool b => some (.number (if b then 1 else 0))
  | .num q => some (.number q)
  | .str s => some (.text s)
  | _ => none

/-- `list(dict.fromkeys(values))`: the first of equal values stays. -/
def fromKeys (values : List Json) : Except PyError (List Json) := go [] values
where
  go (seen : List HashKey) : List Json → Except PyError (List Json)
    | [] => .ok []
    | value :: rest =>
        match hashKey value with
        | none => .error .typeError
        | some key =>
            if key ∈ seen then go seen rest
            else (go (key :: seen) rest).map (value :: ·)

def asText : Json → Except PyError String
  | .str s => .ok s
  | _ => .error .typeError

/-- `", ".join(values)` -/
def joinTexts (values : List Json) : Except PyError String :=
  (values.mapM asText).map (String.intercalate ", ")

/-- Iterating over a value: items, keys or characters; scalars are not iterable. -/
def iterate : Json → Option (List Json)
  | .arr items => some items
  | .obj fields => some (fields.map fun p => .str p.1)
  | .str s => some (s.toList.map fun c => .str (String.singleton c))
  | _ => none

end PyValue
