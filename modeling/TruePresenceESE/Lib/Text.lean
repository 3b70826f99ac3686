import Mathlib

/-! # Text operations on character lists

Trimming, lower-casing, character replacement and substring search, the
operations key normalisers are made of. What counts as blank is a parameter:
two runtimes that trim different blanks are two instances of one definition.
-/

namespace Text

/-! ## Trimming -/

def strip (blank : Char → Bool) (cs : List Char) : List Char :=
  (cs.dropWhile blank).rdropWhile blank

/-- Trimming cuts a blank run off each end. -/
theorem exists_strip (blank : Char → Bool) (cs : List Char) :
    ∃ front back, cs = front ++ strip blank cs ++ back ∧
      (∀ c ∈ front, blank c = true) ∧ ∀ c ∈ back, blank c = true := by
  refine ⟨cs.takeWhile blank, (cs.dropWhile blank).rtakeWhile blank, ?_, ?_, ?_⟩
  · rw [strip, List.append_assoc, List.rdropWhile_append_rtakeWhile, List.takeWhile_append_dropWhile]
  · exact fun c hc => List.mem_takeWhile_imp hc
  · exact fun c hc => List.mem_rtakeWhile_imp hc

/-- A character that is not blank survives trimming. -/
theorem mem_strip_of_mem {blank : Char → Bool} {cs : List Char} {c : Char} (h : c ∈ cs)
    (hc : blank c = false) : c ∈ strip blank cs := by
  obtain ⟨front, back, heq, hfront, hback⟩ := exists_strip blank cs
  rw [heq, List.mem_append, List.mem_append] at h
  rcases h with (h | h) | h
  · simp [hfront c h] at hc
  · exact h
  · simp [hback c h] at hc

/-- What is left of a trimming, if anything, survives another one. -/
theorem strip_strip_ne_nil {blank : Char → Bool} {cs : List Char} (h : strip blank cs ≠ []) :
    strip blank (strip blank cs) ≠ [] := by
  have hlast : blank ((strip blank cs).getLast h) = false := by
    rw [Bool.eq_false_iff]
    exact List.rdropWhile_last_not _ _ h
  exact List.ne_nil_of_mem (mem_strip_of_mem (List.getLast_mem h) hlast)

/-- Blank runs around a text without blanks are exactly what trimming removes. -/
theorem strip_append {blank : Char → Bool} {front core back : List Char}
    (hfront : ∀ c ∈ front, blank c = true) (hcore : ∀ c ∈ core, blank c = false)
    (hback : ∀ c ∈ back, blank c = true) : strip blank (front ++ core ++ back) = core := by
  have hdropBack : ∀ cs, (cs ++ back).rdropWhile blank = cs.rdropWhile blank := by
    intro cs
    induction back using List.reverseRecOn with
    | nil => simp
    | append_singleton back c ih =>
        rw [← List.append_assoc, List.rdropWhile_concat_pos _ _ _
          (hback c (List.mem_append_right _ (List.mem_singleton_self c)))]
        exact ih fun d hd => hback d (List.mem_append_left _ hd)
  have hdropFront : (front ++ core ++ back).dropWhile blank = (core ++ back).dropWhile blank := by
    rw [List.append_assoc, List.dropWhile_append]
    have hnil : front.dropWhile blank = [] := List.dropWhile_eq_nil_iff.mpr hfront
    simp [hnil]
  rw [strip, hdropFront]
  cases core with
  | nil =>
      rw [List.nil_append, List.dropWhile_eq_nil_iff.mpr hback]
      rfl
  | cons c core =>
      rw [List.cons_append, List.dropWhile_cons_of_neg (by simp [hcore c List.mem_cons_self]),
        ← List.cons_append, hdropBack]
      refine List.rdropWhile_eq_self_iff.mpr fun hne => ?_
      simp [hcore _ (List.getLast_mem hne)]

theorem strip_eq_self {blank : Char → Bool} {cs : List Char} (h : ∀ c ∈ cs, blank c = false) :
    strip blank cs = cs := by
  have hcore := @strip_append blank [] cs [] (by simp) h (by simp)
  rwa [List.nil_append, List.append_nil] at hcore

/-- A text with no blank at either end. -/
theorem strip_of_ends {blank : Char → Bool} {cs : List Char}
    (hfirst : ∀ c, cs.head? = some c → blank c = false)
    (hlast : ∀ c, cs.getLast? = some c → blank c = false) : strip blank cs = cs := by
  have hdrop : cs.dropWhile blank = cs := by
    cases cs with
    | nil => rfl
    | cons c rest => exact List.dropWhile_cons_of_neg (by simp [hfirst c rfl])
  rw [strip, hdrop]
  refine List.rdropWhile_eq_self_iff.mpr fun hne => ?_
  simp [hlast _ (List.getLast?_eq_some_getLast hne)]

/-- What has been trimmed is left as it is. -/
theorem strip_strip (blank : Char → Bool) (cs : List Char) :
    strip blank (strip blank cs) = strip blank cs := by
  refine strip_of_ends (fun c hc => ?_) fun c hc => ?_
  · obtain ⟨rest, hrest⟩ := List.rdropWhile_prefix (p := blank) (l := cs.dropWhile blank)
    have hhead : (cs.dropWhile blank).head? = some c := by
      rw [← hrest, List.head?_append]
      exact congrArg (·.or rest.head?) hc
    have hblank := List.head?_dropWhile_not blank cs
    rw [hhead] at hblank
    simpa using hblank
  · have hne : strip blank cs ≠ [] := by
      intro hnil
      rw [hnil] at hc
      cases hc
    rw [List.getLast?_eq_some_getLast hne, Option.some.injEq] at hc
    rw [← hc, Bool.eq_false_iff]
    exact List.rdropWhile_last_not _ _ hne

/-- What trimming leaves as it is starts with no blank. -/
theorem head?_of_strip_eq_self {blank : Char → Bool} {cs : List Char} (h : strip blank cs = cs)
    {c : Char} (hc : cs.head? = some c) : blank c = false := by
  cases cs with
  | nil => cases hc
  | cons head rest =>
      cases hc
      by_contra hblank
      rw [Bool.not_eq_false] at hblank
      have hlength := congrArg List.length h
      rw [strip, List.dropWhile_cons_of_pos hblank] at hlength
      have hdrop := List.length_dropWhile_le blank rest
      have hrdrop := (List.rdropWhile_prefix (p := blank) (l := rest.dropWhile blank)).length_le
      rw [List.length_cons] at hlength
      omega

/-- What trimming leaves as it is ends with no blank. -/
theorem getLast?_of_strip_eq_self {blank : Char → Bool} {cs : List Char}
    (h : strip blank cs = cs) {c : Char} (hc : cs.getLast? = some c) : blank c = false := by
  have hne : strip blank cs ≠ [] := by
    rw [h]
    rintro rfl
    cases hc
  have hlast : ¬ blank ((strip blank cs).getLast hne) :=
    List.rdropWhile_last_not blank (cs.dropWhile blank) hne
  rw [← h, List.getLast?_eq_some_getLast hne, Option.some.injEq] at hc
  rw [← hc]
  simpa using hlast

/-- A prefix of a trimmed text is trimmed if its last place is not blank. -/
theorem strip_take_iff {blank : Char → Bool} {cs : List Char} (h : strip blank cs = cs)
    (n : ℕ) : strip blank (cs.take (n + 1)) = cs.take (n + 1) ↔
      ∀ c ∈ cs[n]?, blank c = false := by
  constructor
  · intro hcut c hc
    apply getLast?_of_strip_eq_self hcut
    rw [List.getLast?_take, if_neg (Nat.succ_ne_zero n), Nat.add_sub_cancel, hc, Option.some_or]
  · intro hplace
    apply strip_of_ends
    · intro c hc
      rw [List.head?_take, if_neg (Nat.succ_ne_zero n)] at hc
      exact head?_of_strip_eq_self h hc
    · intro c hc
      rw [List.getLast?_take, if_neg (Nat.succ_ne_zero n), Nat.add_sub_cancel] at hc
      cases hn : cs[n]? with
      | none =>
          rw [hn, Option.none_or] at hc
          exact getLast?_of_strip_eq_self h hc
      | some d =>
          rw [hn, Option.some_or] at hc
          cases hc
          exact hplace c hn

/-! ## Lower case -/

/-- The lower case of one character. Besides `A` to `Z` two characters have a
lower case that contains an ASCII character: the dotted capital I, which also
keeps its dot as a combining mark, and the Kelvin sign. Every other character
is left as it is: its lower case has no ASCII character in it. -/
def lowerChar (c : Char) : List Char :=
  if 0x41 ≤ c.toNat ∧ c.toNat ≤ 0x5a then [Char.ofNat (c.toNat + 0x20)]
  else if c.toNat = 0x130 then ['i', Char.ofNat 0x307]
  else if c.toNat = 0x212a then ['k']
  else [c]

def lower (cs : List Char) : List Char := cs.flatMap lowerChar

theorem mem_lower {cs : List Char} {c : Char} : c ∈ lower cs ↔ ∃ d ∈ cs, c ∈ lowerChar d :=
  List.mem_flatMap

theorem lower_eq_self {cs : List Char} (h : ∀ c ∈ cs, lowerChar c = [c]) : lower cs = cs := by
  induction cs with
  | nil => rfl
  | cons c cs ih =>
      have htail := ih fun d hd => h d (List.mem_cons_of_mem c hd)
      rw [lower] at htail ⊢
      rw [List.flatMap_cons, h c List.mem_cons_self, htail]
      rfl

/-! ## Replacement and search -/

def replace (old : Char → Bool) (new : Char) (cs : List Char) : List Char :=
  cs.map fun c => if old c then new else c

theorem replace_eq_self {old : Char → Bool} {new : Char} {cs : List Char}
    (h : ∀ c ∈ cs, old c = false) : replace old new cs = cs := by
  rw [replace]
  conv_rhs => rw [← List.map_id cs]
  exact List.map_congr_left fun c hc => by simp [h c hc]

def contains (fragment cs : List Char) : Bool := cs.tails.any (fragment.isPrefixOf ·)

theorem contains_iff {fragment cs : List Char} :
    contains fragment cs = true ↔ fragment <:+: cs := by
  simp only [contains, List.any_eq_true, List.mem_tails, List.isPrefixOf_iff_prefix]
  constructor
  · rintro ⟨t, ht, hp⟩
    exact hp.isInfix.trans ht.isInfix
  · rintro ⟨s, t, rfl⟩
    exact ⟨fragment ++ t, ⟨s, by simp⟩, List.prefix_append fragment t⟩

/-- A text that lacks one character of the fragment does not contain it. -/
theorem contains_eq_false {fragment cs : List Char} {c : Char} (hc : c ∈ fragment)
    (h : c ∉ cs) : contains fragment cs = false := by
  rw [Bool.eq_false_iff, ne_eq, contains_iff]
  exact fun hwithin => h (hwithin.subset hc)

/-! ## Tables -/

/-- Each text next to its characters. An evaluation over the characters is
spared the decoding of the literals. -/
inductive Spelled : List String → List (List Char) → Prop
  | nil : Spelled [] []
  | cons {text : String} {cs : List Char} {texts : List String} {spellings : List (List Char)}
      (spell : text = String.ofList cs) (rest : Spelled texts spellings) :
      Spelled (text :: texts) (cs :: spellings)

theorem Spelled.all {texts : List String} {spellings : List (List Char)}
    (h : Spelled texts spellings) {test : List Char → Bool} (htest : spellings.all test = true) :
    ∀ text ∈ texts, test text.toList = true := by
  induction h with
  | nil => simp
  | cons hspell _ ih =>
      rw [List.all_cons, Bool.and_eq_true] at htest
      rw [List.forall_mem_cons, hspell, String.toList_ofList]
      exact ⟨htest.1, ih htest.2⟩

end Text
