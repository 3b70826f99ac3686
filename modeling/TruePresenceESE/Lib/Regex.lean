import Mathlib

/-! # Regular expressions without groups

Literals, the dot, greedy stars and the end of the text, with alternatives at the top. A
backtracking matcher gives the ends of the matches at a place in the order in which it finds
them. An alternative with anything else of the syntax matches nothing.
-/

namespace Regex

/-! ## Syntax -/

def prepend (c : Char) : List (List Char) → List (List Char)
  | [] => [[c]]
  | first :: rest => (c :: first) :: rest

/-- The alternatives of a pattern: it is split at the bars that are not escaped. -/
def alternatives : (escaped : Bool) → List Char → List (List Char)
  | _, [] => [[]]
  | false, c :: cs =>
      if c = '|' then [] :: alternatives false cs else prepend c (alternatives (c = '\\') cs)
  | true, c :: cs => prepend c (alternatives false cs)

/-- Whether the character after a text is escaped. -/
def escapes (escaped : Bool) (cs : List Char) : Bool :=
  cs.foldl (fun escaped c => !escaped && c = '\\') escaped

inductive Token where
  | lit (c : Char)
  | dot
  | star
  | dollar

/-- Characters whose meaning is not read here. -/
def reserved : List Char := "()[]{}+?^\\".toList

def tokenOf (c : Char) : Option Token :=
  if c = '.' then some .dot
  else if c = '*' then some .star
  else if c = '$' then some .dollar
  else if c ∈ reserved then none
  else some (.lit c)

/-- An escaped letter or digit stands for more than itself, and is not read either. -/
def lex : (escaped : Bool) → List Char → Option (List Token)
  | false, [] => some []
  | true, [] => none
  | false, c :: cs =>
      if c = '\\' then lex true cs
      else (tokenOf c).bind fun t => (lex false cs).map (t :: ·)
  | true, c :: cs => if c.isAlphanum then none else (lex false cs).map (.lit c :: ·)

/-- What one character of the text is tested for. -/
inductive Test where
  | any
  | exact (c : Char)

inductive Item where
  | one (test : Test)
  | many (test : Test)
  | finish

def items : List Token → Option (List Item)
  | [] => some []
  | .lit c :: .star :: ts => (items ts).map (.many (.exact c) :: ·)
  | .dot :: .star :: ts => (items ts).map (.many .any :: ·)
  | .lit c :: ts => (items ts).map (.one (.exact c) :: ·)
  | .dot :: ts => (items ts).map (.one .any :: ·)
  | .dollar :: ts => (items ts).map (.finish :: ·)
  | .star :: _ => none

def parse (alternative : List Char) : Option (List Item) := (lex false alternative).bind items

/-! ## Matching -/

/-- Case is ignored; the dot stops at the end of a line. -/
def Test.holds : Test → Char → Bool
  | .any, c => c ≠ '\n'
  | .exact c, d => c.toLower = d.toLower

/-- The longest run first, then shorter ones. -/
def greedy (holds : Char → Bool) (rest : List Char → Nat → List Nat) : List Char → Nat → List Nat
  | [], place => rest [] place
  | c :: cs, place =>
      (if holds c then greedy holds rest cs (place + 1) else []) ++ rest (c :: cs) place

/-- The ends of the matches of a text that begins at a place. -/
def itemEnds : List Item → List Char → Nat → List Nat
  | [], _, place => [place]
  | .one _ :: _, [], _ => []
  | .one test :: rest, c :: cs, place => if test.holds c then itemEnds rest cs (place + 1) else []
  | .many test :: rest, cs, place => greedy test.holds (itemEnds rest) cs place
  | .finish :: rest, cs, place => if cs = [] ∨ cs = ['\n'] then itemEnds rest cs place else []

def ends (pattern text : List Char) (place : Nat) : List Nat :=
  (alternatives false pattern).flatMap fun alternative =>
    match parse alternative with
    | some read => itemEnds read (text.drop place) place
    | none => []

/-! ## Joined patterns -/

theorem alternatives_ne_nil (escaped : Bool) (cs : List Char) : alternatives escaped cs ≠ [] := by
  cases cs with
  | nil => exact List.cons_ne_nil _ _
  | cons c cs =>
      have hprepend (all : List (List Char)) : prepend c all ≠ [] := by
        cases all <;> exact List.cons_ne_nil _ _
      cases escaped with
      | true => exact hprepend _
      | false =>
          rw [alternatives]
          split
          · exact List.cons_ne_nil _ _
          · exact hprepend _

theorem prepend_append (c : Char) {front : List (List Char)} (h : front ≠ [])
    (back : List (List Char)) : prepend c (front ++ back) = prepend c front ++ back := by
  cases front with
  | nil => exact absurd rfl h
  | cons first rest => rfl

theorem alternatives_append_bar {escaped : Bool} {left : List Char} (right : List Char)
    (h : escapes escaped left = false) : alternatives escaped (left ++ '|' :: right) =
      alternatives escaped left ++ alternatives false right := by
  induction left generalizing escaped with
  | nil =>
      cases h
      rfl
  | cons c cs ih =>
      cases escaped with
      | true =>
          have hrest : escapes false cs = false := h
          rw [List.cons_append, alternatives, alternatives, ih hrest,
            prepend_append c (alternatives_ne_nil _ _)]
      | false =>
          have hrest : escapes (c = '\\') cs = false := by simpa [escapes] using h
          rw [List.cons_append, alternatives, alternatives]
          split
          · next hc =>
              have hplain : escapes false cs = false := by simpa [hc] using hrest
              rw [ih hplain]
              rfl
          · rw [ih hrest, prepend_append c (alternatives_ne_nil _ _)]

/-- A pattern before a bar is tried first. -/
theorem ends_append_bar {left : List Char} (right text : List Char)
    (h : escapes false left = false) (place : Nat) :
    ends (left ++ '|' :: right) text place = ends left text place ++ ends right text place := by
  rw [ends, alternatives_append_bar right h, List.flatMap_append]
  rfl

end Regex
