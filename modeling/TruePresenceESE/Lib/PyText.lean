import TruePresenceESE.Lib.Text

/-! # Python's text methods

`str.strip`, `str.upper` and `str.splitlines` on Unicode text, and the
formatting of small numbers. `upper` spells out the characters whose upper case
has an ASCII letter in it and leaves every other one alone.
-/

namespace PyText

/-! ## Blanks -/

/-- What `str.isspace` accepts, the default of `strip`. -/
def isSpace (c : Char) : Bool :=
  let n := c.toNat
  (0x09 ≤ n && n ≤ 0x0d) || (0x1c ≤ n && n ≤ 0x20) || n == 0x85 || n == 0xa0 || n == 0x1680
    || (0x2000 ≤ n && n ≤ 0x200a) || n == 0x2028 || n == 0x2029 || n == 0x202f || n == 0x205f
    || n == 0x3000

def strip (s : String) : String := String.ofList (Text.strip isSpace s.toList)

def rstrip (s : String) : String := String.ofList (s.toList.rdropWhile isSpace)

/-! ## Case -/

def upperChar (c : Char) : List Char :=
  if 0x61 ≤ c.toNat ∧ c.toNat ≤ 0x7a then [Char.ofNat (c.toNat - 0x20)]
  else match c.toNat with
    | 0xdf => ['S', 'S']
    | 0x131 => ['I']
    | 0x149 => [Char.ofNat 0x2bc, 'N']
    | 0x17f => ['S']
    | 0x1f0 => ['J', Char.ofNat 0x30c]
    | 0x1e96 => ['H', Char.ofNat 0x331]
    | 0x1e97 => ['T', Char.ofNat 0x308]
    | 0x1e98 => ['W', Char.ofNat 0x30a]
    | 0x1e99 => ['Y', Char.ofNat 0x30a]
    | 0x1e9a => ['A', Char.ofNat 0x2be]
    | 0xfb00 => ['F', 'F']
    | 0xfb01 => ['F', 'I']
    | 0xfb02 => ['F', 'L']
    | 0xfb03 => ['F', 'F', 'I']
    | 0xfb04 => ['F', 'F', 'L']
    | 0xfb05 => ['S', 'T']
    | 0xfb06 => ['S', 'T']
    | _ => [c]

def upper (s : String) : String := String.ofList (s.toList.flatMap upperChar)

def lower (s : String) : String := String.ofList (Text.lower s.toList)

/-! ## Lines -/

def isLineBreak (c : Char) : Bool :=
  let n := c.toNat
  (0x0a ≤ n && n ≤ 0x0d) || (0x1c ≤ n && n ≤ 0x1e) || n == 0x85 || n == 0x2028 || n == 0x2029

/-- A carriage return and the line feed after it are one break, and a break at
the end opens no further line. -/
def splitLines : List Char → List (List Char)
  | [] => []
  | '\r' :: '\n' :: rest => [] :: splitLines rest
  | c :: rest =>
      if isLineBreak c then [] :: splitLines rest
      else match splitLines rest with
        | [] => [[c]]
        | line :: lines => (c :: line) :: lines

/-- `text.split()` -/
def words (cs : List Char) : List (List Char) :=
  (cs.splitOnP isSpace).filter (· ≠ [])

/-! ## Numbers -/

/-- `f"{n:02d}"` -/
def pad2 (n : Nat) : String := if n < 10 then "0" ++ toString n else toString n

theorem isDigit_of_mem_pad2 {n : Nat} {c : Char} (h : c ∈ (pad2 n).toList) : c.isDigit := by
  have hdigits : ∀ c ∈ (toString n).toList, c.isDigit := by
    intro c hc
    refine Nat.isDigit_of_mem_toDigits (b := 10) (n := n) (by omega) (by omega) ?_
    simpa [Nat.toString_eq_repr, Nat.repr] using hc
  unfold pad2 at h
  split at h
  · rw [String.toList_append, List.mem_append] at h
    rcases h with h | h
    · rw [show c = '0' by simpa using h]
      rfl
    · exact hdigits c h
  · exact hdigits c h

theorem strip_strip (text : String) : strip (strip text) = strip text := by
  rw [strip, strip, String.toList_ofList, Text.strip_strip]

/-- Trimming takes no character away that is not blank. -/
theorem count_strip {c : Char} (h : isSpace c = false) (text : String) :
    (strip text).toList.count c = text.toList.count c := by
  obtain ⟨front, back, heq, hfront, hback⟩ := Text.exists_strip isSpace text.toList
  have hnone : ∀ cs : List Char, (∀ d ∈ cs, isSpace d = true) → cs.count c = 0 := by
    intro cs hblank
    apply List.count_eq_zero_of_not_mem
    intro hmem
    rw [hblank c hmem] at h
    cases h
  rw [strip, String.toList_ofList]
  conv_rhs => rw [heq]
  rw [List.count_append, List.count_append, hnone front hfront, hnone back hback]
  omega

end PyText
