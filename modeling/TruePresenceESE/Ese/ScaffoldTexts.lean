import TruePresenceESE.Ese.Scaffolding
import TruePresenceESE.Lib.QuotedText

/-! # Texts of scaffolds

What a scaffold is asked for is cleaned, and put into the lines of templates. Some of the
lines are literals of TOML and Python, and the texts are put into these as they are.
-/

namespace TruePresenceESE.Ese

open PosixPath PyText

/-! ## Keys -/

/-- Of two characters next to each other, one is no dash. -/
abbrev SingleDashes (cs : List Char) : Prop :=
  cs.IsChain fun a b => isKeyChar a = true ∨ isKeyChar b = true

theorem singleDashes_dashRuns (inRun : Bool) (cs : List Char) :
    SingleDashes (dashRuns inRun cs) ∧
      (inRun = true → ∀ c ∈ (dashRuns inRun cs).head?, isKeyChar c = true) := by
  induction cs generalizing inRun with
  | nil => simp [dashRuns]
  | cons c rest ih =>
      rw [dashRuns]
      split
      · next hkey =>
          refine ⟨List.IsChain.cons (ih false).1 fun _ _ => .inl hkey, fun _ d hd => ?_⟩
          rw [List.head?_cons, Option.mem_some_iff] at hd
          rw [← hd]
          exact hkey
      · split
        · exact ⟨(ih true).1, fun _ => (ih true).2 rfl⟩
        · next hrun =>
            exact ⟨List.IsChain.cons (ih true).1 fun d hd => .inr ((ih true).2 rfl d hd),
              fun h => absurd h hrun⟩

theorem dashRuns_self {inRun : Bool} {cs : List Char} (hsingle : SingleDashes cs)
    (hplain : ∀ c ∈ cs, isKeyChar c = true ∨ c = '-')
    (hhead : inRun = true → ∀ c ∈ cs.head?, isKeyChar c = true) : dashRuns inRun cs = cs := by
  induction cs generalizing inRun with
  | nil => rfl
  | cons c rest ih =>
      rw [List.forall_mem_cons] at hplain
      have hnext := List.isChain_cons.mp hsingle
      rw [dashRuns]
      split
      · rw [ih hnext.2 hplain.2 fun h => by cases h]
      · next hkey =>
          rw [if_neg fun hrun => hkey (hhead hrun c rfl), ih hnext.2 hplain.2]
          · rw [hplain.1.resolve_left hkey]
          · intro _ d hd
            exact (hnext.1 d hd).resolve_left hkey

section
variable {py : Interpreter} {value : String} {key : StarterKey}

theorem cleanStarterKey_text (h : cleanStarterKey py value = .ok key) :
    key.text.toList = collapsedKey py value := by
  unfold cleanStarterKey at h
  split at h
  · cases h
  · cases h
    exact String.toList_ofList

theorem collapsedKey_starterKey (hlower : LowersAscii py) (h : cleanStarterKey py value = .ok key) :
    collapsedKey py key.text = key.text.toList := by
  have hplain : py.lower (strip key.text) = key.text := by
    rw [strip_starterKey, hlower key.text fun c hc => (plain_ascii (key.plain c hc)).1, asciiLower,
      List.map_congr_left fun c hc => (plain_ascii (key.plain c hc)).2, List.map_id',
      String.ofList_toList]
  have hsingle : SingleDashes key.text.toList := by
    obtain ⟨front, back, heq, -⟩ := Text.exists_strip (· = '-')
      (dashRuns false (py.lower (strip value)).toList)
    have hall := (singleDashes_dashRuns false (py.lower (strip value)).toList).1
    rw [heq] at hall
    rw [cleanStarterKey_text h]
    exact hall.left_of_append.right_of_append
  have hruns : dashRuns false key.text.toList = key.text.toList :=
    dashRuns_self hsingle key.plain fun h => by cases h
  rw [collapsedKey, hplain, hruns, cleanStarterKey_text h, collapsedKey, Text.strip_strip]

/-- A clean key is cleaned to itself. -/
theorem cleanStarterKey_clean (hlower : LowersAscii py) (h : cleanStarterKey py value = .ok key) :
    cleanStarterKey py key.text = .ok key := by
  have hcollapsed := collapsedKey_starterKey hlower h
  have hne : collapsedKey py key.text ≠ [] := by
    rw [hcollapsed]
    intro hnil
    exact key.ne_empty (String.toList_eq_nil_iff.mp hnil)
  rw [cleanStarterKey, dif_neg hne]
  cases key with
  | mk text plain ne_empty => simp only [hcollapsed, String.ofList_toList]

/-- A clean key begins with a letter or a digit. -/
theorem exists_keyChar (h : cleanStarterKey py value = .ok key) :
    ∃ c ∈ key.text.toList, isKeyChar c = true := by
  have hne : key.text.toList ≠ [] := by
    intro hnil
    exact key.ne_empty (String.toList_eq_nil_iff.mp hnil)
  obtain ⟨c, rest, hcons⟩ := List.exists_cons_of_ne_nil hne
  have hself : Text.strip (· = '-') key.text.toList = key.text.toList := by
    rw [cleanStarterKey_text h, collapsedKey, Text.strip_strip]
  have hdash := Text.head?_of_strip_eq_self hself (c := c) (by rw [hcons]; rfl)
  have hmem : c ∈ key.text.toList := by
    rw [hcons]
    exact List.mem_cons_self
  exact ⟨c, hmem, (key.plain c hmem).resolve_right (by simpa using hdash)⟩

end

/-! ## Arguments -/

/-- What both scaffolds are asked for. -/
structure ScaffoldRequest where
  targetDir : String
  key : String
  title : Option String
  summary : Option String
  packageName : Option String
  preset : String
  goalProfile : Option String
  force : Bool

/-- `(value or "").strip() or default` -/
def textOr (value : Option String) (default : String) : String :=
  if strip (value.getD "") = "" then default else strip (value.getD "")

theorem strip_ne_empty {text : String} {c : Char} (h : c ∈ text.toList) (hc : isSpace c = false) :
    strip text ≠ "" := by
  intro hnil
  have hmem := Text.mem_strip_of_mem h hc
  rw [← String.toList_ofList (l := Text.strip isSpace text.toList), ← strip, hnil] at hmem
  cases hmem

theorem exists_of_strip_ne_empty {text : String} (h : strip text ≠ "") :
    ∃ c ∈ text.toList, isSpace c = false := by
  by_contra hno
  push Not at hno
  have hblank : ∀ c ∈ text.toList, isSpace c = true := fun c hc => by simpa using hno c hc
  have hnil := @Text.strip_append isSpace text.toList [] [] hblank (by simp) (by simp)
  rw [List.append_nil, List.append_nil] at hnil
  exact h (by rw [strip, hnil])

theorem strip_append_ne_empty {front : String} (h : strip front ≠ "") (back : String) :
    strip (front ++ back) ≠ "" := by
  obtain ⟨c, hc, hspace⟩ := exists_of_strip_ne_empty h
  refine strip_ne_empty ?_ hspace
  rw [String.toList_append]
  exact List.mem_append_left _ hc

theorem strip_textOr {default : String} (value : Option String) (h : strip default ≠ "") :
    strip (textOr value default) ≠ "" := by
  rw [textOr]
  split
  · exact h
  · next hne => rwa [strip_strip]

/-- A name of a package. -/
structure PackageName where
  text : String
  valid : isPackageName text = true
  deriving DecidableEq

/-- Letters, digits and underscores. -/
theorem PackageName.toNat_range (package : PackageName) {c : Char} (hc : c ∈ package.text.toList) :
    48 ≤ c.toNat ∧ c.toNat ≤ 57 ∨ 65 ≤ c.toNat ∧ c.toNat ≤ 90 ∨ c.toNat = 95 ∨
      97 ≤ c.toNat ∧ c.toNat ≤ 122 := by
  have hstart : ∀ {d : Char}, (('A' ≤ d && d ≤ 'Z') || ('a' ≤ d && d ≤ 'z') || d == '_') = true →
      65 ≤ d.toNat ∧ d.toNat ≤ 90 ∨ d.toNat = 95 ∨ 97 ≤ d.toNat ∧ d.toNat ≤ 122 := by
    intro d hd
    simp only [Bool.or_eq_true, Bool.and_eq_true, decide_eq_true_eq, beq_iff_eq] at hd
    rcases hd with (⟨hlow, hhigh⟩ | ⟨hlow, hhigh⟩) | rfl
    · exact .inl ⟨hlow, hhigh⟩
    · exact .inr (.inr ⟨hlow, hhigh⟩)
    · exact .inr (.inl rfl)
  have hvalid := package.valid
  unfold isPackageName at hvalid
  dsimp only at hvalid
  split at hvalid
  · cases hvalid
  · next first rest hchars =>
      rw [hchars] at hc
      rw [Bool.and_eq_true, List.all_eq_true] at hvalid
      rcases List.mem_cons.mp hc with rfl | hrest
      · exact .inr (hstart hvalid.1)
      · have hboth := hvalid.2 c hrest
        rw [Bool.or_eq_true] at hboth
        rcases hboth with hletter | hdigit
        · exact .inr (hstart hletter)
        · rw [Bool.and_eq_true, decide_eq_true_eq, decide_eq_true_eq] at hdigit
          exact .inl ⟨hdigit.1, hdigit.2⟩

theorem PackageName.ne_nil (package : PackageName) : package.text.toList ≠ [] := by
  intro hnil
  have hvalid := package.valid
  rw [isPackageName, hnil] at hvalid
  cases hvalid

/-- A name that may be the name of a package, where `fail` is what is raised for others. -/
def cleanPackageName (fail : ProjectError) (value : String) : Except ProjectError PackageName :=
  if h : isPackageName (strip value) = true then .ok ⟨strip value, h⟩ else .error fail

/-! ### Texts made of a key -/

/-- `key.replace("-", "_")` -/
def underscored (key : StarterKey) : String :=
  String.ofList (Text.replace (· = '-') '_' key.text.toList)

/-- A name that does not begin with a digit. -/
def startedPackageName (word : String) (key : StarterKey) : String :=
  if (underscored key).toList.head?.any fun c => '0' ≤ c && c ≤ '9' then
    "ese_" ++ word ++ "_" ++ underscored key
  else underscored key

/-- The names of packages that end in `_pack` or `_starter`. -/
def defaultPackageName (word : String) (key : StarterKey) : String :=
  if ("_" ++ word).toList.isSuffixOf (startedPackageName word key).toList then
    startedPackageName word key
  else startedPackageName word key ++ "_" ++ word

/-- The parts of a key, each with a capital at the front, and blanks for the dashes. -/
def titleChars (front : Bool) : List Char → List Char
  | [] => []
  | c :: rest =>
      if c = '-' then ' ' :: titleChars true rest
      else (if front then c.toUpper else c.toLower) :: titleChars false rest

/-- `" ".join(part.capitalize() for part in key.split("-"))` -/
def defaultPackTitle (key : StarterKey) : String := String.ofList (titleChars true key.text.toList)

/-- A text around a title in lower case. -/
def defaultSummary (py : Interpreter) (front back title : String) : String :=
  front ++ py.lower (textOr (some title) "External") ++ back

theorem isSpace_of_keyChar {c : Char} (h : isKeyChar c = true) :
    isSpace c.toUpper = false ∧ isSpace c.toLower = false := by
  have hall : ∀ n < 128, 32 < n →
      isSpace (Char.ofNat n).toUpper = false ∧ isSpace (Char.ofNat n).toLower = false := by
    decide
  have hrange := toNat_of_plain (.inl h)
  have hchar := hall c.toNat (by omega) (by omega)
  rwa [Char.ofNat_toNat] at hchar

theorem exists_mem_titleChars {cs : List Char} {c : Char} (hc : c ∈ cs) (hkey : isKeyChar c = true)
    (front : Bool) : ∃ d ∈ titleChars front cs, isSpace d = false := by
  induction cs generalizing front with
  | nil => cases hc
  | cons e rest ih =>
      rw [titleChars]
      rcases List.mem_cons.mp hc with rfl | hrest
      · rw [if_neg (by rintro rfl; cases hkey)]
        refine ⟨_, List.mem_cons_self, ?_⟩
        split
        · exact (isSpace_of_keyChar hkey).1
        · exact (isSpace_of_keyChar hkey).2
      · split
        · obtain ⟨d, hd, hspace⟩ := ih hrest true
          exact ⟨d, List.mem_cons_of_mem _ hd, hspace⟩
        · obtain ⟨d, hd, hspace⟩ := ih hrest false
          exact ⟨d, List.mem_cons_of_mem _ hd, hspace⟩

/-- A title made of a clean key says something. -/
theorem strip_defaultPackTitle {py : Interpreter} {value : String} {key : StarterKey}
    (h : cleanStarterKey py value = .ok key) : strip (defaultPackTitle key) ≠ "" := by
  obtain ⟨c, hc, hkey⟩ := exists_keyChar h
  obtain ⟨d, hd, hspace⟩ := exists_mem_titleChars hc hkey true
  refine strip_ne_empty (c := d) ?_ hspace
  rw [defaultPackTitle, String.toList_ofList]
  exact hd

/-! ### Texts without blanks -/

def Blankless (text : String) : Prop := ∀ c ∈ text.toList, isSpace c = false

instance (text : String) : Decidable (Blankless text) :=
  decidable_of_iff ((text.toList.all fun c => !isSpace c) = true) (by simp [Blankless])

theorem Blankless.append {a b : String} (ha : Blankless a) (hb : Blankless b) :
    Blankless (a ++ b) := by
  intro c hc
  rw [String.toList_append] at hc
  rcases List.mem_append.mp hc with hleft | hright
  · exact ha c hleft
  · exact hb c hright

theorem Blankless.strip_eq {text : String} (h : Blankless text) : strip text = text := by
  rw [strip, Text.strip_eq_self h, String.ofList_toList]

theorem blankless_key (key : StarterKey) : Blankless key.text := fun c hc =>
  isSpace_of_plain (key.plain c hc)

theorem blankless_packageName (package : PackageName) : Blankless package.text := by
  intro c hc
  have hrange := package.toNat_range hc
  simp only [isSpace, Bool.or_eq_false_iff, Bool.and_eq_false_iff, decide_eq_false_iff_not,
    beq_eq_false_iff_ne]
  omega

theorem blankless_underscored (key : StarterKey) : Blankless (underscored key) := by
  intro c hc
  rw [underscored, String.toList_ofList, Text.replace] at hc
  obtain ⟨d, hd, rfl⟩ := List.mem_map.mp hc
  split
  · decide
  · exact isSpace_of_plain (key.plain d hd)

theorem blankless_defaultPackageName {word : String} (hword : Blankless word) (key : StarterKey) :
    Blankless (defaultPackageName word key) := by
  have hese : Blankless "ese_" := by decide
  have hunderscore : Blankless "_" := by decide
  have hstarted : Blankless (startedPackageName word key) := by
    rw [startedPackageName]
    split
    · exact ((hese.append hword).append hunderscore).append (blankless_underscored key)
    · exact blankless_underscored key
  rw [defaultPackageName]
  split
  · exact hstarted
  · exact (hstarted.append hunderscore).append hword

/-- `text.removesuffix(suffix)` -/
def removeSuffix (suffix text : String) : String :=
  if suffix.toList.isSuffixOf text.toList then
    String.ofList (text.toList.take (text.length - suffix.length))
  else text

theorem Blankless.removeSuffix {text : String} (h : Blankless text) (suffix : String) :
    Blankless (removeSuffix suffix text) := by
  unfold Ese.removeSuffix
  split
  · intro c hc
    rw [String.toList_ofList] at hc
    exact h c (List.mem_of_mem_take hc)
  · exact h

/-! ## Lines -/

/-- `"\n".join(lines)` -/
def joinLines : List String → String
  | [] => ""
  | [line] => line
  | line :: next :: rest => line ++ "\n" ++ joinLines (next :: rest)

/-- Each of the lines with its line feed. -/
def ended : List String → String
  | [] => ""
  | line :: rest => line ++ "\n" ++ ended rest

theorem joinLines_append (front : List String) (line : String) {back : List String}
    (hback : back ≠ []) :
    joinLines (front ++ line :: back) = ended front ++ line ++ "\n" ++ joinLines back := by
  induction front with
  | nil =>
      obtain ⟨next, rest, rfl⟩ := List.exists_cons_of_ne_nil hback
      simp [joinLines, ended]
  | cons first rest ih =>
      obtain ⟨next, more, hnext⟩ := List.exists_cons_of_ne_nil
        (show rest ++ line :: back ≠ [] by simp)
      rw [List.cons_append, hnext, joinLines, ← hnext, ih, ended]
      simp only [String.append_assoc]

/-! ## Literals -/

theorem universalNewlines_append {front back : List Char} {c : Char} (hfeed : c ≠ '\n')
    (hreturn : c ≠ '\r') :
    universalNewlines (front ++ c :: back) = universalNewlines front ++ c :: universalNewlines back := by
  have hcons : universalNewlines (c :: back) = c :: universalNewlines back := by
    rw [universalNewlines]
    · exact fun rest heq => absurd heq hreturn
    · exact fun heq => absurd heq hreturn
  fun_induction universalNewlines front with
  | case1 => exact hcons
  | case2 rest ih =>
      rw [List.cons_append, List.cons_append, universalNewlines, ih, List.cons_append]
  | case3 rest hno ih =>
      rw [List.cons_append, universalNewlines, ih, List.cons_append]
      cases rest with
      | nil => exact fun rest' heq => hfeed (List.cons.inj heq).1
      | cons d more =>
          intro rest' heq
          rw [List.cons_append, List.cons.injEq] at heq
          exact hno more (by rw [heq.1])
  | case4 d rest hfeed' hreturn' ih =>
      rw [List.cons_append, universalNewlines, ih, List.cons_append]
      · exact fun _ heq _ => hreturn' heq
      · exact hreturn'

/-- Other characters than line ends stay. -/
theorem mem_universalNewlines {text : List Char} {c : Char} (h : c ∈ text) (hreturn : c ≠ '\r') :
    c ∈ universalNewlines text := by
  fun_induction universalNewlines text with
  | case1 => exact h
  | case2 rest ih =>
      simp only [List.mem_cons, hreturn, false_or] at h
      rcases h with rfl | hrest
      · exact List.mem_cons_self
      · exact List.mem_cons_of_mem _ (ih hrest)
  | case3 rest hno ih =>
      simp only [List.mem_cons, hreturn, false_or] at h
      exact List.mem_cons_of_mem _ (ih h)
  | case4 d rest hfeed hreturn' ih =>
      rcases List.mem_cons.mp h with rfl | hrest
      · exact List.mem_cons_self
      · exact List.mem_cons_of_mem _ (ih hrest)

theorem universalNewlines_of_noReturn {text : List Char} (h : '\r' ∉ text) :
    universalNewlines text = text := by
  fun_induction universalNewlines text with
  | case1 => rfl
  | case2 rest ih => simp at h
  | case3 rest hno ih => simp at h
  | case4 c rest hfeed hreturn ih =>
      rw [List.mem_cons, not_or] at h
      rw [ih h.2]

theorem universalNewlines_length_le (text : List Char) :
    (universalNewlines text).length ≤ text.length := by
  fun_induction universalNewlines text with
  | case1 => exact le_rfl
  | case2 rest ih =>
      simp only [List.length_cons]
      omega
  | case3 rest hno ih =>
      simp only [List.length_cons]
      omega
  | case4 c rest hfeed hreturn ih =>
      simp only [List.length_cons]
      omega

/-- Between quotes as it is. -/
def quoted (text : String) : String := "\"" ++ text ++ "\""

/-- The literal behind `front` in a file denotes exactly a text, and `back` is behind it. -/
def Denotes (format : QuotedText.Format) (disk : ProjectDisk) (path : Location)
    (front text back : String) : Prop :=
  ∃ stored literal, disk.get? path = some (.file (some stored)) ∧
    stored.toList = (textMode front).toList ++ literal ∧
    QuotedText.read format literal = some (text.toList, (textMode back).toList)

/-- Lines in which there is no line end are read back as they were joined. -/
theorem textMode_joinLines {lines : List String} (h : ∀ line ∈ lines, '\r' ∉ line.toList) :
    textMode (joinLines lines) = joinLines lines := by
  have hplain : '\r' ∉ (joinLines lines).toList := by
    induction lines with
    | nil => simp [joinLines]
    | cons line rest ih =>
        rw [List.forall_mem_cons] at h
        cases rest with
        | nil => exact h.1
        | cons next rest => simp [joinLines, h.1, ih h.2]
  rw [textMode, universalNewlines_of_noReturn hplain, String.ofList_toList]

/-- What is said is still said by the text of a file. -/
theorem strip_textMode {text : String} (h : strip text ≠ "") : strip (textMode text) ≠ "" := by
  obtain ⟨c, hc, hspace⟩ := exists_of_strip_ne_empty h
  refine strip_ne_empty (c := c) ?_ hspace
  rw [textMode, String.toList_ofList]
  refine mem_universalNewlines hc ?_
  rintro rfl
  cases hspace

/-- A text between the quotes of a template is denoted exactly if it is plain. -/
theorem denotes_iff_plain {format : QuotedText.Format} {disk : ProjectDisk} {path : Location}
    {front text back : String}
    (hpath : disk.get? path = some (.file (some (textMode (front ++ quoted text ++ back)))))
    (hne : text ≠ "") (hline : format.inLine '\r' = false)
    (hkeeps : format.keepsBackslash '\r' = false) :
    Denotes format disk path front text back ↔ QuotedText.plain format text.toList = true := by
  have hstored : (textMode (front ++ quoted text ++ back)).toList = (textMode front).toList ++
      '"' :: (universalNewlines text.toList ++ '"' :: (textMode back).toList) := by
    have hquote : "\"".toList = ['"'] := rfl
    simp only [textMode, quoted, String.toList_ofList, String.toList_append, hquote,
      List.append_assoc, List.cons_append, List.nil_append]
    rw [universalNewlines_append (by decide) (by decide),
      universalNewlines_append (by decide) (by decide)]
  constructor
  · intro ⟨stored, literal, hget, hsplit, hread⟩
    rw [hpath, Option.some.injEq, Node.file.injEq, Option.some.injEq] at hget
    rw [← hget, hstored] at hsplit
    have hliteral := List.append_cancel_left hsplit
    rw [← hliteral] at hread
    exact (QuotedText.read_quoted_eq_some (universalNewlines_length_le _) hread).2
  · intro hplain
    have hreturn : '\r' ∉ text.toList :=
      QuotedText.notMem_of_plainFrom (by decide) hline hkeeps hplain
    rw [universalNewlines_of_noReturn hreturn] at hstored
    have hne' : text.toList ≠ [] := fun hnil => hne (String.toList_eq_nil_iff.mp hnil)
    exact ⟨_, _, hpath, hstored, QuotedText.read_quoted_plain hne' hplain⟩

end TruePresenceESE.Ese
