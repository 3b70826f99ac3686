import Mathlib

/-! # Quoted texts

A quoted text stands between double quotes in one line, or between three of them in several.
A backslash begins an escape, and no escape denotes as many characters as it is long. So a
text between two quotes denotes itself exactly if nothing in it ends the line or the quoted
text and no escape begins in it.
-/

namespace QuotedText

/-- Where the formats differ. -/
structure Format where
  /-- The characters that stand for themselves in one line. -/
  inLine : Char → Bool
  inBlock : Char → Bool
  /-- The characters before which a backslash stands for itself. -/
  keepsBackslash : Char → Bool
  /-- What the escape behind a backslash denotes, and what is behind the escape. The flag
  tells whether it stands in a block. -/
  escape : Bool → List Char → Option (List Char × List Char)
  /-- The quotes before the end of a block that may belong to it. -/
  quotesAtEnd : ℕ
  skipsFirstBreak : Bool
  escape_short : ∀ {block : Bool} {text value rest : List Char},
    escape block text = some (value, rest) → value.length + rest.length ≤ text.length

/-! ## Reading -/

section
variable (format : Format)

/-- What a backslash and the characters behind it denote. -/
def afterBackslash (block : Bool) : List Char → Option (List Char × List Char)
  | [] => none
  | c :: rest =>
      if format.keepsBackslash c then some (['\\', c], rest) else format.escape block (c :: rest)

def prepend (front : List Char) (scanned : Option (List Char × List Char)) :
    Option (List Char × List Char) :=
  scanned.map fun p => (front ++ p.1, p.2)

/-- Up to the closing quote. -/
def scanLine : ℕ → List Char → Option (List Char × List Char)
  | 0, _ => none
  | _ + 1, [] => none
  | n + 1, c :: rest =>
      if c = '"' then some ([], rest)
      else if c = '\\' then
        match afterBackslash format false rest with
        | some (value, rest') => prepend value (scanLine n rest')
        | none => none
      else if format.inLine c then prepend [c] (scanLine n rest)
      else none

/-- What is behind three quotes. -/
def threeQuotes : List Char → Option (List Char)
  | a :: b :: c :: rest => if a = '"' ∧ b = '"' ∧ c = '"' then some rest else none
  | _ => none

/-- Up to the three closing quotes. -/
def scanBlock : ℕ → List Char → Option (List Char × List Char)
  | 0, _ => none
  | n + 1, text =>
      match threeQuotes text with
      | some rest =>
          let quotes := (rest.takeWhile (· = '"')).take format.quotesAtEnd
          some (quotes, rest.drop quotes.length)
      | none =>
          match text with
          | [] => none
          | c :: rest =>
              if c = '\\' then
                match afterBackslash format true rest with
                | some (value, rest') => prepend value (scanBlock n rest')
                | none => none
              else if format.inBlock c then prepend [c] (scanBlock n rest)
              else none

def withoutFirstBreak : List Char → List Char
  | [] => []
  | c :: rest => if c = '\n' then rest else c :: rest

/-- The text that a quoted text denotes, and what is behind it. -/
def read (text : List Char) : Option (List Char × List Char) :=
  match threeQuotes text with
  | some rest =>
      scanBlock format rest.length (if format.skipsFirstBreak then withoutFirstBreak rest else rest)
  | none =>
      match text with
      | [] => none
      | c :: rest => if c = '"' then scanLine format rest.length rest else none

/-- Nothing in the text ends the line or the quoted text, and no escape begins in it. The
flag tells whether a backslash stands before the text. -/
def plainFrom : Bool → List Char → Bool
  | escaped, [] => !escaped
  | true, c :: rest => format.keepsBackslash c && plainFrom false rest
  | false, c :: rest =>
      if c = '"' then false
      else if c = '\\' then plainFrom true rest
      else format.inLine c && plainFrom false rest

def plain (text : List Char) : Bool := plainFrom format false text

end

/-! ## What is read -/

section
variable {format : Format}

theorem prepend_eq_some_iff {front value tail : List Char}
    {scanned : Option (List Char × List Char)} :
    prepend front scanned = some (value, tail) ↔
      ∃ inner, scanned = some (inner, tail) ∧ value = front ++ inner := by
  rw [prepend, Option.map_eq_some_iff]
  constructor
  · rintro ⟨⟨inner, rest⟩, hscanned, heq⟩
    rw [Prod.mk.injEq] at heq
    obtain ⟨rfl, rfl⟩ := heq
    exact ⟨inner, hscanned, rfl⟩
  · rintro ⟨inner, hscanned, rfl⟩
    exact ⟨(inner, tail), hscanned, rfl⟩

theorem afterBackslash_length {block : Bool} {text value rest : List Char}
    (h : afterBackslash format block text = some (value, rest)) :
    (∃ c, format.keepsBackslash c = true ∧ value = ['\\', c] ∧ text = c :: rest) ∨
      value.length + rest.length ≤ text.length := by
  cases text with
  | nil => cases h
  | cons c tail =>
      rw [afterBackslash] at h
      split at h
      · next hkept =>
          rw [Option.some.injEq, Prod.mk.injEq] at h
          obtain ⟨rfl, rfl⟩ := h
          exact .inl ⟨c, hkept, rfl, rfl⟩
      · exact .inr (format.escape_short h)

/-- A line denotes itself, or less than stands in it. -/
theorem scanLine_spec {n : ℕ} {text value tail : List Char}
    (h : scanLine format n text = some (value, tail)) :
    (text = value ++ '"' :: tail ∧ plain format value = true) ∨
      value.length + tail.length + 1 < text.length := by
  induction n generalizing text value with
  | zero => cases h
  | succ n ih =>
      cases text with
      | nil => cases h
      | cons c rest =>
          rw [scanLine] at h
          split at h
          · next hquote =>
              rw [Option.some.injEq, Prod.mk.injEq] at h
              obtain ⟨rfl, rfl⟩ := h
              exact .inl ⟨by rw [hquote, List.nil_append], rfl⟩
          · next hquote =>
              split at h
              · next hbackslash =>
                  split at h
                  · next front rest' hfront =>
                      obtain ⟨inner, hinner, rfl⟩ := prepend_eq_some_iff.mp h
                      have hlength : inner.length + tail.length + 1 ≤ rest'.length := by
                        rcases ih hinner with ⟨heq, -⟩ | hless
                        · rw [heq, List.length_append, List.length_cons]
                          omega
                        · omega
                      rcases afterBackslash_length hfront with ⟨d, hkept, rfl, rfl⟩ | hshort
                      · rcases ih hinner with ⟨rfl, hplain⟩ | hless
                        · refine .inl ⟨by rw [hbackslash]; rfl, ?_⟩
                          show plainFrom format false ('\\' :: d :: inner) = true
                          rw [plainFrom, if_neg (by decide), if_pos rfl, plainFrom, hkept]
                          exact hplain
                        · right
                          simp only [List.length_append, List.length_cons, List.length_nil]
                          omega
                      · right
                        simp only [List.length_append, List.length_cons]
                        omega
                  · cases h
              · next hbackslash =>
                  split at h
                  · next hline =>
                      obtain ⟨inner, hinner, rfl⟩ := prepend_eq_some_iff.mp h
                      rcases ih hinner with ⟨rfl, hplain⟩ | hless
                      · refine .inl ⟨rfl, ?_⟩
                        rw [List.singleton_append, plain, plainFrom, if_neg hquote,
                          if_neg hbackslash, hline]
                        exact hplain
                      · right
                        simp only [List.length_append, List.length_cons, List.length_nil]
                        omega
                  · cases h

theorem scanLine_plain {n : ℕ} {text tail : List Char} (hplain : plain format text = true)
    (hn : text.length < n) : scanLine format n (text ++ '"' :: tail) = some (text, tail) := by
  induction n using Nat.strong_induction_on generalizing text with
  | _ n ih =>
      obtain ⟨m, rfl⟩ := Nat.exists_eq_succ_of_ne_zero (Nat.ne_zero_of_lt hn)
      cases text with
      | nil =>
          rw [List.nil_append, scanLine, if_pos rfl]
      | cons c rest =>
          rw [List.length_cons] at hn
          rw [plain, plainFrom] at hplain
          split at hplain
          · cases hplain
          · next hquote =>
              rw [List.cons_append, scanLine, if_neg hquote]
              split at hplain
              · next hbackslash =>
                  rw [if_pos hbackslash]
                  cases rest with
                  | nil => cases hplain
                  | cons d rest' =>
                      rw [List.length_cons] at hn
                      rw [plainFrom, Bool.and_eq_true] at hplain
                      rw [List.cons_append, afterBackslash, if_pos hplain.1]
                      dsimp only
                      rw [ih m (by omega) hplain.2 (by omega), prepend, hbackslash]
                      rfl
              · next hbackslash =>
                  rw [Bool.and_eq_true] at hplain
                  rw [if_neg hbackslash, if_pos hplain.1, ih m (by omega) hplain.2 (by omega),
                    prepend]
                  rfl

theorem threeQuotes_eq_some {text rest : List Char} (h : threeQuotes text = some rest) :
    text = '"' :: '"' :: '"' :: rest := by
  match text with
  | [] => cases h
  | [_] => cases h
  | [_, _] => cases h
  | a :: b :: c :: tail =>
      rw [threeQuotes] at h
      split at h
      · next hquotes =>
          cases h
          rw [hquotes.1, hquotes.2.1, hquotes.2.2]
      · cases h

/-- A block denotes less than stands in it. -/
theorem scanBlock_length {n : ℕ} {text value tail : List Char}
    (h : scanBlock format n text = some (value, tail)) :
    value.length + tail.length + 3 ≤ text.length := by
  induction n generalizing text value with
  | zero => cases h
  | succ n ih =>
      unfold scanBlock at h
      split at h
      · next rest hquotes =>
          rw [Option.some.injEq, Prod.mk.injEq] at h
          obtain ⟨rfl, rfl⟩ := h
          have hle : ((rest.takeWhile (· = '"')).take format.quotesAtEnd).length ≤ rest.length :=
            (List.length_take_le' _ _).trans (List.takeWhile_prefix _).length_le
          rw [threeQuotes_eq_some hquotes, List.length_drop]
          simp only [List.length_cons]
          omega
      · split at h
        · cases h
        · next c rest =>
            rw [List.length_cons]
            split at h
            · split at h
              · next front rest' hfront =>
                  obtain ⟨inner, hinner, rfl⟩ := prepend_eq_some_iff.mp h
                  have hlength := ih hinner
                  rw [List.length_append]
                  rcases afterBackslash_length hfront with ⟨d, -, rfl, rfl⟩ | hshort
                  · simp only [List.length_cons, List.length_nil]
                    omega
                  · omega
              · cases h
            · split at h
              · obtain ⟨inner, hinner, rfl⟩ := prepend_eq_some_iff.mp h
                have hlength := ih hinner
                simp only [List.length_append, List.length_cons, List.length_nil]
                omega
              · cases h

/-- Where as much is read as stands between the quotes, it stands there and is plain. -/
theorem read_quoted_eq_some {shown text tail : List Char}
    (hle : shown.length ≤ text.length)
    (h : read format ('"' :: (shown ++ '"' :: tail)) = some (text, tail)) :
    shown = text ∧ plain format text = true := by
  have hlength : (shown ++ '"' :: tail).length = shown.length + tail.length + 1 := by
    rw [List.length_append, List.length_cons]
    omega
  unfold read at h
  split at h
  · next rest hquotes =>
      -- three quotes open a block, which denotes less
      have heq := List.cons.inj (threeQuotes_eq_some hquotes)
      have hblock := scanBlock_length h
      have hskip : (if format.skipsFirstBreak = true then withoutFirstBreak rest else rest).length ≤
          rest.length := by
        split
        · cases rest with
          | nil => exact le_rfl
          | cons c more =>
              rw [withoutFirstBreak]
              split
              · exact Nat.le_succ _
              · exact le_rfl
        · exact le_rfl
      have htotal := congrArg List.length heq.2
      rw [hlength, List.length_cons, List.length_cons] at htotal
      omega
  · dsimp only at h
    rw [if_pos rfl] at h
    rcases scanLine_spec h with ⟨heq, hplain⟩ | hless
    · exact ⟨List.append_cancel_right heq, hplain⟩
    · rw [hlength] at hless
      omega

theorem read_quoted_plain {text tail : List Char} (hne : text ≠ [])
    (hplain : plain format text = true) :
    read format ('"' :: (text ++ '"' :: tail)) = some (text, tail) := by
  unfold read
  split
  · next rest hquotes =>
      cases text with
      | nil => exact absurd rfl hne
      | cons c more =>
          have heq := (List.cons.inj (threeQuotes_eq_some hquotes)).2
          rw [List.cons_append, List.cons.injEq] at heq
          rw [plain, plainFrom, if_pos heq.1] at hplain
          cases hplain
  · show (if '"' = '"' then scanLine format _ (text ++ '"' :: tail) else none) = _
    rw [if_pos rfl]
    refine scanLine_plain hplain ?_
    rw [List.length_append, List.length_cons]
    omega

/-- A character that is never plain is not in a plain text. -/
theorem notMem_of_plainFrom {escaped : Bool} {text : List Char} {c : Char} (hbackslash : c ≠ '\\')
    (hline : format.inLine c = false) (hkeeps : format.keepsBackslash c = false)
    (h : plainFrom format escaped text = true) : c ∉ text := by
  induction text generalizing escaped with
  | nil => exact List.not_mem_nil
  | cons d rest ih =>
      intro hmem
      cases escaped with
      | true =>
          rw [plainFrom, Bool.and_eq_true] at h
          rcases List.mem_cons.mp hmem with rfl | hrest
          · rw [hkeeps] at h
            exact Bool.noConfusion h.1
          · exact ih h.2 hrest
      | false =>
          rw [plainFrom] at h
          split at h
          · cases h
          · split at h
            · next hd =>
                rcases List.mem_cons.mp hmem with rfl | hrest
                · exact hbackslash hd
                · exact ih h hrest
            · rw [Bool.and_eq_true] at h
              rcases List.mem_cons.mp hmem with rfl | hrest
              · rw [hline] at h
                exact Bool.noConfusion h.1
              · exact ih h.2 hrest

/-- What follows a blank changes nothing. -/
theorem plainFrom_append {escaped : Bool} {text word : List Char}
    (hword : ∀ c ∈ word, c ≠ '"' ∧ c ≠ '\\' ∧ format.inLine c = true) :
    plainFrom format escaped (text ++ ' ' :: word) = plainFrom format escaped (text ++ [' ']) := by
  have hsimple : plainFrom format false word = true := by
    induction word with
    | nil => rfl
    | cons c rest ih =>
        rw [List.forall_mem_cons] at hword
        rw [plainFrom, if_neg hword.1.1, if_neg hword.1.2.1, hword.1.2.2, ih hword.2]
        rfl
  induction text generalizing escaped with
  | nil =>
      cases escaped with
      | true =>
          rw [List.nil_append, List.nil_append, plainFrom, plainFrom, hsimple]
          rfl
      | false =>
          rw [List.nil_append, List.nil_append, plainFrom, plainFrom, hsimple, if_neg (by decide),
            if_neg (by decide), if_neg (by decide), if_neg (by decide)]
          rfl
  | cons c rest ih =>
      rw [List.cons_append, List.cons_append]
      cases escaped with
      | true => rw [plainFrom, plainFrom, ih]
      | false => rw [plainFrom, plainFrom, ih, ih]

end

/-! ## Escapes -/

def hexDigit (c : Char) : Option ℕ :=
  let n := c.toNat
  if 48 ≤ n ∧ n ≤ 57 then some (n - 48)
  else if 97 ≤ n ∧ n ≤ 102 then some (n - 87)
  else if 65 ≤ n ∧ n ≤ 70 then some (n - 55)
  else none

/-- The number that exactly so many digits stand for, and what is behind them. -/
def hexNumber : ℕ → ℕ → List Char → Option (ℕ × List Char)
  | 0, number, text => some (number, text)
  | _ + 1, _, [] => none
  | digits + 1, number, c :: rest =>
      match hexDigit c with
      | some d => hexNumber digits (16 * number + d) rest
      | none => none

/-- A character by its number in hexadecimal digits; a surrogate is no character. -/
def hexEscape (digits : ℕ) (text : List Char) : Option (List Char × List Char) :=
  match hexNumber digits 0 text with
  | some (number, rest) => if number.isValidChar then some ([Char.ofNat number], rest) else none
  | none => none

theorem hexNumber_length {digits number number' : ℕ} {text rest : List Char}
    (h : hexNumber digits number text = some (number', rest)) :
    digits + rest.length = text.length := by
  induction digits generalizing number text with
  | zero =>
      cases h
      exact Nat.zero_add _
  | succ digits ih =>
      cases text with
      | nil => cases h
      | cons c tail =>
          rw [hexNumber] at h
          split at h
          · rw [List.length_cons, ← ih h]
            omega
          · cases h

theorem hexEscape_length {digits : ℕ} {text value rest : List Char}
    (h : hexEscape digits text = some (value, rest)) :
    value.length = 1 ∧ digits + rest.length = text.length := by
  unfold hexEscape at h
  split at h
  · next number rest' hnumber =>
      split at h
      · cases h
        exact ⟨rfl, hexNumber_length hnumber⟩
      · cases h
  · cases h

/-! ## TOML -/

def isTomlChar (c : Char) : Bool := (32 ≤ c.toNat && c.toNat ≠ 127) || c = '\t'

/-- The characters that one character after a backslash denotes. -/
def tomlEscapes : List (Char × Char) :=
  [('b', Char.ofNat 8), ('t', '\t'), ('n', '\n'), ('f', Char.ofNat 12), ('r', '\r'), ('"', '"'),
    ('\\', '\\')]

/-- A line of a block that ends in a backslash goes on with the next text. -/
def joinedLines (text : List Char) : Option (List Char × List Char) :=
  match text.dropWhile fun c => c = ' ' || c = '\t' with
  | '\n' :: rest => some ([], rest.dropWhile fun c => c = ' ' || c = '\t' || c = '\n')
  | _ => none

def tomlEscape (block : Bool) : List Char → Option (List Char × List Char)
  | [] => none
  | c :: rest =>
      match tomlEscapes.lookup c with
      | some d => some ([d], rest)
      | none =>
          if c = 'u' then hexEscape 4 rest
          else if c = 'U' then hexEscape 8 rest
          else if block then joinedLines (c :: rest)
          else none

theorem tomlEscape_short {block : Bool} {text value rest : List Char}
    (h : tomlEscape block text = some (value, rest)) :
    value.length + rest.length ≤ text.length := by
  cases text with
  | nil => cases h
  | cons c tail =>
      rw [tomlEscape] at h
      rw [List.length_cons]
      split at h
      · cases h
        rw [List.length_singleton]
        omega
      · split at h
        · have hlength := hexEscape_length h
          omega
        · split at h
          · have hlength := hexEscape_length h
            omega
          · split at h
            · unfold joinedLines at h
              split at h
              · next behind hbehind =>
                  cases h
                  have hskipped := (List.dropWhile_suffix (l := c :: tail)
                    fun c => c = ' ' || c = '\t').length_le
                  have hblank := (List.dropWhile_suffix (l := behind)
                    fun c => c = ' ' || c = '\t' || c = '\n').length_le
                  rw [hbehind, List.length_cons, List.length_cons] at hskipped
                  rw [List.length_nil]
                  omega
              · cases h
            · cases h

/-- Basic strings of TOML, of a text whose lines end in line feeds. -/
def toml : Format where
  inLine := isTomlChar
  inBlock c := isTomlChar c || c = '\n'
  keepsBackslash _ := false
  escape := tomlEscape
  quotesAtEnd := 2
  skipsFirstBreak := true
  escape_short := tomlEscape_short

/-! ## Python -/

def isPythonChar (c : Char) : Bool := c ≠ '\n' && c ≠ '\r' && c ≠ Char.ofNat 0

def pythonEscapes : List (Char × Char) :=
  [('\\', '\\'), ('\'', '\''), ('"', '"'), ('a', Char.ofNat 7), ('b', Char.ofNat 8),
    ('f', Char.ofNat 12), ('n', '\n'), ('r', '\r'), ('t', '\t'), ('v', Char.ofNat 11)]

def isOctal (c : Char) : Bool := 48 ≤ c.toNat && c.toNat ≤ 55

def octalEscape (text : List Char) : List Char × List Char :=
  let digits := (text.take 3).takeWhile isOctal
  ([Char.ofNat (digits.foldl (fun number c => 8 * number + (c.toNat - 48)) 0)],
    text.drop digits.length)

/-- `\N{name}`, by the table of names. -/
def namedEscape (names : List Char → Option Char) : List Char → Option (List Char × List Char)
  | '{' :: text =>
      let name := text.takeWhile fun c => c ≠ '}'
      match text.drop name.length, names name with
      | _ :: rest, some c => some ([c], rest)
      | _, _ => none
  | _ => none

/-- A backslash is kept before a character that is none of these. -/
def startsPythonEscape (c : Char) : Bool :=
  c = '\n' || (pythonEscapes.lookup c).isSome || isOctal c || c ∈ ['x', 'u', 'U', 'N']

def pythonEscape (names : List Char → Option Char) :
    List Char → Option (List Char × List Char)
  | [] => none
  | c :: rest =>
      if c = '\n' then some ([], rest)
      else match pythonEscapes.lookup c with
        | some d => some ([d], rest)
        | none =>
            if isOctal c then some (octalEscape (c :: rest))
            else if c = 'x' then hexEscape 2 rest
            else if c = 'u' then hexEscape 4 rest
            else if c = 'U' then hexEscape 8 rest
            else if c = 'N' then namedEscape names rest
            else none

theorem octalEscape_length {c : Char} {rest : List Char} (h : isOctal c = true) :
    (octalEscape (c :: rest)).1.length + (octalEscape (c :: rest)).2.length ≤ rest.length + 1 := by
  have hdigits : ((c :: rest).take 3).takeWhile isOctal = c :: (rest.take 2).takeWhile isOctal := by
    rw [List.take_succ_cons, List.takeWhile_cons_of_pos h]
  simp only [octalEscape, hdigits, List.length_cons, List.length_nil, List.drop_succ_cons,
    List.length_drop]
  omega

theorem namedEscape_length {names : List Char → Option Char} {text value rest : List Char}
    (h : namedEscape names text = some (value, rest)) :
    value.length + rest.length ≤ text.length := by
  unfold namedEscape at h
  split at h
  · next text' =>
      dsimp only at h
      split at h
      · next behind hbehind hname =>
          cases h
          have hlength := congrArg List.length hbehind
          rw [List.length_drop, List.length_cons] at hlength
          rw [List.length_singleton, List.length_cons]
          omega
      · cases h
  · cases h

theorem pythonEscape_short {names : List Char → Option Char} {text value rest : List Char}
    (h : pythonEscape names text = some (value, rest)) :
    value.length + rest.length ≤ text.length := by
  cases text with
  | nil => cases h
  | cons c tail =>
      rw [pythonEscape] at h
      rw [List.length_cons]
      split at h
      · cases h
        rw [List.length_nil]
        omega
      · split at h
        · cases h
          rw [List.length_singleton]
          omega
        · split at h
          · next hoctal =>
              have hlength := @octalEscape_length c tail hoctal
              rw [Option.some.injEq] at h
              rw [h] at hlength
              exact hlength
          · split at h
            · have hlength := hexEscape_length h
              omega
            · split at h
              · have hlength := hexEscape_length h
                omega
              · split at h
                · have hlength := hexEscape_length h
                  omega
                · split at h
                  · have hlength := namedEscape_length h
                    omega
                  · cases h

/-- Strings of Python between double quotes, of a text whose lines end in line feeds. -/
def python (names : List Char → Option Char) : Format where
  inLine := isPythonChar
  inBlock c := c ≠ Char.ofNat 0
  keepsBackslash c := isPythonChar c && !startsPythonEscape c
  escape _ := pythonEscape names
  quotesAtEnd := 0
  skipsFirstBreak := false
  escape_short := pythonEscape_short

end QuotedText
