import Mathlib

/-! # Values of a script

Texts are lists of UTF-16 code units, lone surrogates included, and are trimmed as scripts
trim them. A number is finite, a negative zero, infinite or not a number.
-/

/-! ## Texts -/

abbrev JsString := List UInt16

namespace JsString

/-- The code units of a character. -/
def unitsOf (c : Char) : JsString :=
  let n := c.toNat
  if n < 0x10000 then [UInt16.ofNat n]
  else
    [UInt16.ofNat (0xd800 + (n - 0x10000) / 0x400), UInt16.ofNat (0xdc00 + (n - 0x10000) % 0x400)]

def ofText (text : String) : JsString := text.toList.flatMap unitsOf

/-- White space and line terminators. -/
def isSpace (unit : UInt16) : Bool :=
  let n := unit.toNat
  (9 ≤ n && n ≤ 13) || n == 32 || n == 0xa0 || n == 0x1680 || (0x2000 ≤ n && n ≤ 0x200a) ||
    n == 0x2028 || n == 0x2029 || n == 0x202f || n == 0x205f || n == 0x3000 || n == 0xfeff

def trim (text : JsString) : JsString := (text.dropWhile isSpace).rdropWhile isSpace

theorem trim_eq_self {text : JsString} (h : ∀ unit ∈ text, isSpace unit = false) :
    trim text = text := by
  have hfront : text.dropWhile isSpace = text := by
    cases text with
    | nil => rfl
    | cons unit rest => exact List.dropWhile_cons_of_neg (by simp [h unit List.mem_cons_self])
  rw [trim, hfront]
  refine List.rdropWhile_eq_self_iff.mpr fun hne => ?_
  simp [h _ (List.getLast_mem hne)]

/-- A trimmed text starts with no space. -/
theorem dropWhile_trim (text : JsString) : (trim text).dropWhile isSpace = trim text := by
  obtain ⟨back, hback⟩ := List.rdropWhile_prefix (p := isSpace) (l := text.dropWhile isSpace)
  cases htrim : trim text with
  | nil => rfl
  | cons unit rest =>
      have hfront : text.dropWhile isSpace = unit :: (rest ++ back) := by
        rw [← hback, ← List.cons_append, ← htrim, trim]
      have hne : text.dropWhile isSpace ≠ [] := by
        rw [hfront]
        exact List.cons_ne_nil _ _
      have hunit : isSpace ((text.dropWhile isSpace).head hne) = false :=
        List.head_dropWhile_not _ hne
      simp only [hfront, List.head_cons] at hunit
      exact List.dropWhile_cons_of_neg (by simp [hunit])

theorem trim_trim (text : JsString) : trim (trim text) = trim text := by
  rw [trim, dropWhile_trim, trim, List.rdropWhile_idempotent]

end JsString

/-! ## Numbers and values -/

inductive JsNumber where
  | finite (q : ℚ)
  | negativeZero
  | infinite (negative : Bool)
  | nan
  deriving DecidableEq

/-- The number as comparisons see it, where it is finite. -/
def JsNumber.real : JsNumber → Option ℚ
  | .finite q => some q
  | .negativeZero => some 0
  | .infinite _ => none
  | .nan => none

inductive JsValue where
  | undefined
  | null
  | boolean (b : Bool)
  | number (x : JsNumber)
  | string (text : JsString)
  /-- Symbols, big integers and functions, by what is shown of them. -/
  | other (shown : String)
  | array (items : List JsValue)
  | object (fields : List (JsString × JsValue))

namespace JsValue

/-- `value[name]` of an object, by its own properties. -/
def get (fields : List (JsString × JsValue)) (name : JsString) : JsValue :=
  (fields.lookup name).getD .undefined

end JsValue
