import TruePresenceESE.Lib.Findall
import TruePresenceESE.Lib.Regex
import TruePresenceESE.Telegram.CoreDetectors

/-! # Joined patterns

The patterns of a detector are joined by bars into one regular expression. Where none of them has
a group, it matches at a place as the first of them that does.
-/

namespace TruePresenceESE.Telegram

/-- Where a reader of a pattern is: outside of classes, or in one. -/
inductive Reading where
  | outside
  | outsideEscape
  | opened
  | negated
  | inside
  | insideEscape
  deriving DecidableEq

/-- A group is not read. Right after its start a class may hold a closing bracket. -/
def Reading.step : Reading → Char → Option Reading
  | .outside, c =>
      if c = '(' then none
      else if c = '[' then some .opened
      else if c = '\\' then some .outsideEscape
      else some .outside
  | .outsideEscape, _ => some .outside
  | .opened, c =>
      if c = '^' then some .negated
      else if c = '\\' then some .insideEscape
      else some .inside
  | .negated, c => if c = '\\' then some .insideEscape else some .inside
  | .inside, c =>
      if c = ']' then some .outside
      else if c = '\\' then some .insideEscape
      else some .inside
  | .insideEscape, _ => some .inside

/-- A pattern without groups, and so without flags, look-arounds and backreferences. -/
def GroupFree (pattern : String) : Prop :=
  pattern.toList.foldlM Reading.step .outside = some .outside

instance : DecidablePred GroupFree := fun _ => inferInstanceAs (Decidable (_ = _))

theorem groupFree_append_bar {left right : String} (hl : GroupFree left) (hr : GroupFree right) :
    GroupFree (left ++ "|" ++ right) := by
  unfold GroupFree at *
  rw [String.toList_append, String.toList_append, List.foldlM_append, List.foldlM_append, hl]
  exact hr

/-- Python's `re`: alternatives are tried in order at a place, and `findall` takes the first match
at each place that it comes to, none of them overlapping. -/
structure TriesInOrder (rt : TextRuntime) where
  ends : rt.Pattern → String → Nat → List Nat
  length_findall : ∀ pattern text, (rt.findall pattern text).length =
    (Findall.findall (ends pattern text) text.length).length
  compile_bar : ∀ {left right : String} {l r : rt.Pattern}, GroupFree left → GroupFree right →
    rt.compile left = .ok l → rt.compile right = .ok r →
    ∃ joined, rt.compile (left ++ "|" ++ right) = .ok joined ∧
      ∀ text, ends joined text = Findall.alternatives (ends l text) (ends r text)

/-- A valid pattern without groups. -/
def Plain (rt : TextRuntime) (pattern : String) : Prop :=
  GroupFree pattern ∧ ∃ compiled, rt.compile pattern = .ok compiled

section
variable {rt : TextRuntime} (re : TriesInOrder rt)

/-- The ends of the matches of several patterns, each tried after those before it. -/
def endsOf (patterns : List String) (text : String) (place : Nat) : List Nat :=
  patterns.flatMap fun pattern =>
    match rt.compile pattern with
    | .ok compiled => re.ends compiled text place
    | .error _ => []

variable {re}

theorem endsOf_append (patterns extra : List String) (text : String) :
    endsOf re (patterns ++ extra) text =
      Findall.alternatives (endsOf re patterns text) (endsOf re extra text) := by
  funext place
  exact List.flatMap_append

variable (re) in
/-- Joined patterns match as the patterns do one after the other. -/
theorem compile_joined {patterns : List String} (hne : patterns ≠ [])
    (hplain : ∀ pattern ∈ patterns, Plain rt pattern) :
    GroupFree (String.intercalate "|" patterns) ∧
      ∃ joined, rt.compile (String.intercalate "|" patterns) = .ok joined ∧
        ∀ text, re.ends joined text = endsOf re patterns text := by
  induction patterns with
  | nil => exact absurd rfl hne
  | cons pattern rest ih =>
      rw [List.forall_mem_cons] at hplain
      obtain ⟨⟨hfree, compiled, hcompiled⟩, hrest⟩ := hplain
      cases rest with
      | nil =>
          rw [String.intercalate_singleton]
          refine ⟨hfree, compiled, hcompiled, fun text => ?_⟩
          funext place
          simp [endsOf, hcompiled]
      | cons second rest =>
          obtain ⟨hrestFree, others, hothers, hends⟩ := ih (List.cons_ne_nil _ _) hrest
          obtain ⟨joined, hjoined, hboth⟩ := re.compile_bar hfree hrestFree hcompiled hothers
          rw [String.intercalate_cons_cons]
          refine ⟨groupFree_append_bar hfree hrestFree, joined, hjoined, fun text => ?_⟩
          rw [hboth, hends]
          funext place
          simp [Findall.alternatives, endsOf, hcompiled]

theorem policy_groupFree {name : String} {patterns : List String}
    (h : (name, patterns) ∈ policyDetectors) : ∀ pattern ∈ patterns, GroupFree pattern := by
  have hall : ∀ p ∈ policyDetectors, ∀ pattern ∈ p.2, GroupFree pattern := by decide +kernel
  exact hall _ h

end

/-! ## A runtime -/

def Reading.isEscape : Reading → Bool
  | .outsideEscape | .insideEscape => true
  | .outside | .opened | .negated | .inside => false

theorem isEscape_step {reading next : Reading} {c : Char} (h : reading.step c = some next) :
    next.isEscape = (!reading.isEscape && c = '\\') := by
  cases reading with
  | outsideEscape | insideEscape =>
      cases h
      rfl
  | outside | opened | negated | inside =>
      grind [Reading.step, Reading.isEscape]

theorem isEscape_foldlM {reading last : Reading} {cs : List Char}
    (h : cs.foldlM Reading.step reading = some last) :
    last.isEscape = Regex.escapes reading.isEscape cs := by
  induction cs generalizing reading with
  | nil =>
      cases h
      rfl
  | cons c cs ih =>
      rw [List.foldlM_cons] at h
      obtain ⟨next, hnext, h⟩ := Option.bind_eq_some_iff.mp h
      rw [ih h, isEscape_step hnext]
      rfl

/-- Patterns without groups are matched as they are written. The others match nothing. -/
def plainRegexes : TextRuntime where
  Pattern := String
  Match := List Char
  lower text := String.ofList (Text.lower text.toList)
  compile pattern := .ok pattern
  findall pattern text :=
    (Findall.findall (Regex.ends pattern.toList text.toList) text.length).map fun found =>
      (text.toList.drop found.1).take (found.2 - found.1)

def plainRegexes_triesInOrder : TriesInOrder plainRegexes where
  ends pattern text := Regex.ends pattern.toList text.toList
  length_findall _ _ := List.length_map _
  compile_bar {left right l r} hleft _ hl hr := by
    cases hl
    cases hr
    refine ⟨_, rfl, fun text => funext fun place => ?_⟩
    have hescapes : Regex.escapes false left.toList = false := (isEscape_foldlM hleft).symm
    rw [String.toList_append, String.toList_append, List.append_assoc]
    exact Regex.ends_append_bar right.toList text.toList hescapes place

end TruePresenceESE.Telegram
