import TruePresenceESE.Lib.DictValues
import TruePresenceESE.Lib.Keyed
import TruePresenceESE.Lib.Selection
import TruePresenceESE.Ese.RunComparison

/-! # What the gathering of suggestions loses

A suggestion is told apart by a key in which a summary takes the place of the edit. Of all
that is offered under one key the first stays, so an edit is lost where the first one
proposes another edit and nobody repeats the lost one under a key of its own.
-/

namespace TruePresenceESE.Ese

open PyText PyValue

/-- A suggestion under the key it is known by. -/
structure Offer where
  key : String × String × String
  suggestion : Suggestion

/-- What was added first. -/
def Gathered.first? (gathered : Gathered) : Option Offer :=
  (gathered.seen.zipWith Offer.mk gathered.suggestions).head?

def Gathered.isNew (gathered : Gathered) (offer : Offer) : Bool :=
  !gathered.seen.contains offer.key

/-- An offer counts if its key is new. -/
def Gathered.take (gathered : Gathered) (offer : Offer) : Gathered :=
  if gathered.isNew offer then gathered.add offer.key offer.suggestion else gathered

theorem Gathered.isNew_iff {gathered : Gathered} {offer : Offer} :
    gathered.isNew offer = true ↔ offer.key ∉ gathered.seen := by
  simp [isNew]

/-! ## Offers -/

section
local instance key_lawfulBEq : LawfulBEq (String × String × String) := inferInstance

variable (py : Interpreter)

/-- What an explicit suggestion adds where nothing was gathered yet. -/
def explicitOffer (role : String) (item : Json) : Option Offer :=
  (gatherExplicit py role ({}, false) item).1.first?

def findingOffer (role : String) (finding : Json) : Option Offer :=
  (gatherFinding py role {} finding).first?

def nextStepOffer (role step : String) : Option Offer := (gatherNextStep py role {} step).first?

def explicitOffers (entry : RoleEntry) : List Offer :=
  entry.codeSuggestions.filterMap (explicitOffer py (strip entry.role))

def fallbackOffers (entry : RoleEntry) : List Offer :=
  (entry.findings.filter isObject).filterMap (findingOffer py (strip entry.role)) ++
    entry.nextSteps.filterMap (nextStepOffer py (strip entry.role))

/-- A role falls back on its findings and next steps if each of its explicit suggestions has
a key that was offered before. -/
def roleOffers (before : List Offer) (entry : RoleEntry) : List Offer :=
  if ∀ offer ∈ explicitOffers py entry, offer.key ∈ before.map Offer.key then
    explicitOffers py entry ++ fallbackOffers py entry
  else explicitOffers py entry

def offersOf (roles : List RoleEntry) : List Offer :=
  roles.foldl (fun before entry => before ++ roleOffers py before entry) []

end

/-- The first of several offers under a key. -/
def firstUnder (offers : List Offer) (key : String × String × String) : Option Offer :=
  offers.find? fun offer => offer.key = key

/-! ## Gathering is taking offers -/

section
variable {py : Interpreter} {role : String}

theorem gatherExplicit_eq (acc : Gathered × Bool) (item : Json) :
    gatherExplicit py role acc item = ((explicitOffer py role item).toList.foldl Gathered.take acc.1,
      acc.2 || (explicitOffer py role item).any acc.1.isNew) := by
  unfold explicitOffer gatherExplicit
  by_cases hblank : isPlaceholderSuggestion py (textField py item "suggestion") = true ∨ role = "" ∨
      textField py item "suggestion" = ""
  · rcases hblank with h | h | h <;> simp [h, Gathered.first?]
  · simp only [not_or] at hblank
    obtain ⟨gathered, kept⟩ := acc
    by_cases hseen : (role, textField py item "path", findingTheme py (orDefault (strip
        (fieldOr py item "summary" (rawField py item "suggestion")))
          (textField py item "suggestion"))) ∈ gathered.seen
    · simp [hblank, hseen, Gathered.first?, Gathered.add, Gathered.take, Gathered.isNew]
    · simp [hblank, hseen, Gathered.first?, Gathered.add, Gathered.take, Gathered.isNew]

theorem gatherFinding_eq (gathered : Gathered) (finding : Json) :
    gatherFinding py role gathered finding =
      (findingOffer py role finding).toList.foldl Gathered.take gathered := by
  unfold findingOffer gatherFinding
  by_cases hblank : role = "" ∨ textField py finding "title" = "" ∨
      strip (fieldOr py finding "details" (textField py finding "title")) = "" ∨
      isPlaceholderSuggestion py
        (strip (fieldOr py finding "details" (textField py finding "title"))) = true
  · rcases hblank with h | h | h | h <;> simp [h, Gathered.first?]
  · simp only [not_or] at hblank
    simp [hblank, Gathered.first?, Gathered.add, Gathered.take, Gathered.isNew]

theorem gatherNextStep_eq (gathered : Gathered) (step : String) :
    gatherNextStep py role gathered step =
      (nextStepOffer py role step).toList.foldl Gathered.take gathered := by
  unfold nextStepOffer gatherNextStep
  by_cases hblank : role = "" ∨ strip step = "" ∨ isPlaceholderSuggestion py (strip step) = true
  · rcases hblank with h | h | h <;> simp [h, Gathered.first?]
  · simp only [not_or] at hblank
    simp [hblank, Gathered.first?, Gathered.add, Gathered.take, Gathered.isNew]

/-- A loop whose steps take what is offered takes all offers. -/
theorem foldl_take {α : Type} {f : Gathered → α → Gathered} {offer : α → Option Offer}
    (h : ∀ gathered x, f gathered x = (offer x).toList.foldl Gathered.take gathered)
    (xs : List α) (gathered : Gathered) :
    xs.foldl f gathered = (xs.filterMap offer).foldl Gathered.take gathered := by
  induction xs generalizing gathered with
  | nil => rfl
  | cons x rest ih =>
      rw [List.foldl_cons, ih, h, List.filterMap_cons]
      cases offer x with
      | none => rfl
      | some o => rfl

theorem foldl_gatherExplicit (items : List Json) (acc : Gathered × Bool) :
    items.foldl (gatherExplicit py role) acc =
      ((items.filterMap (explicitOffer py role)).foldl Gathered.take acc.1,
        acc.2 || (items.filterMap (explicitOffer py role)).any acc.1.isNew) := by
  induction items generalizing acc with
  | nil => simp
  | cons item rest ih =>
      rw [List.foldl_cons, ih, gatherExplicit_eq, List.filterMap_cons]
      cases explicitOffer py role item with
      | none => simp only [Option.toList_none, List.foldl_nil, Option.any_none, Bool.or_false]
      | some offer =>
          -- an offer that is not taken leaves the gathering as it is
          cases hnew : acc.1.isNew offer with
          | true => simp [hnew]
          | false => simp [Gathered.take, hnew]

/-! ## What is gathered is what was offered first -/

/-- The offers taken are the first ones of their keys. -/
structure Reflects (gathered : Gathered) (offers : List Offer) : Prop where
  seen : ∀ key, key ∈ gathered.seen ↔ key ∈ (Dict.firstBy Offer.key offers).keys
  suggestions : gathered.suggestions =
    (Dict.firstBy Offer.key offers).values.map Offer.suggestion

variable {gathered : Gathered} {offers : List Offer}

theorem reflects_nil : Reflects {} [] := ⟨fun _ => Iff.rfl, rfl⟩

theorem Reflects.take (h : Reflects gathered offers) (offer : Offer) :
    Reflects (gathered.take offer) (offers ++ [offer]) := by
  have hstep : Dict.firstBy Offer.key (offers ++ [offer]) =
      (Dict.firstBy Offer.key offers).setNew offer.key offer := by
    rw [Dict.firstBy, List.foldl_append]
    rfl
  rw [Gathered.take]
  cases hnew : gathered.isNew offer with
  | false =>
      have hseen : offer.key ∈ gathered.seen := by
        by_contra hfresh
        rw [Gathered.isNew_iff.mpr hfresh] at hnew
        contradiction
      have hsame : (Dict.firstBy Offer.key offers).setNew offer.key offer =
          Dict.firstBy Offer.key offers :=
        if_pos ((Dict.get?_isSome_iff _ _).mpr ((h.seen offer.key).mp hseen))
      rw [if_neg Bool.false_ne_true]
      exact ⟨by rw [hstep, hsame]; exact h.seen, by rw [hstep, hsame]; exact h.suggestions⟩
  | true =>
      have hkey : offer.key ∉ (Dict.firstBy Offer.key offers).keys :=
        fun hmem => Gathered.isNew_iff.mp hnew ((h.seen offer.key).mpr hmem)
      rw [if_pos rfl]
      have hset : (Dict.firstBy Offer.key offers).setNew offer.key offer =
          (Dict.firstBy Offer.key offers).set offer.key offer :=
        if_neg fun hsome => hkey ((Dict.get?_isSome_iff _ _).mp hsome)
      refine ⟨fun key => ?_, ?_⟩
      · rw [hstep, hset, Dict.mem_keys_set, ← h.seen key]
        exact List.mem_cons
      · rw [hstep, hset, Dict.values, Dict.items_set_of_notMem offer hkey]
        simp [Gathered.add, h.suggestions, Dict.values]

theorem Reflects.takeAll (h : Reflects gathered offers) (more : List Offer) :
    Reflects (more.foldl Gathered.take gathered) (offers ++ more) := by
  induction more generalizing gathered offers with
  | nil => rwa [List.append_nil]
  | cons offer rest ih =>
      have hrest := ih (h.take offer)
      rwa [List.append_assoc] at hrest

theorem Reflects.mem_seen (h : Reflects gathered offers) {key : String × String × String} :
    key ∈ gathered.seen ↔ key ∈ offers.map Offer.key := by
  rw [h.seen, Dict.mem_keys_firstBy, List.mem_map]

theorem Reflects.gatherRole (h : Reflects gathered offers) (entry : RoleEntry) :
    Reflects (Ese.gatherRole py gathered entry) (offers ++ roleOffers py offers entry) := by
  have hfallback : ∀ before : Gathered,
      entry.nextSteps.foldl (gatherNextStep py (strip entry.role))
          ((entry.findings.filter isObject).foldl (gatherFinding py (strip entry.role)) before) =
        (fallbackOffers py entry).foldl Gathered.take before := by
    intro before
    rw [fallbackOffers, List.foldl_append, foldl_take gatherNextStep_eq, foldl_take gatherFinding_eq]
  unfold Ese.gatherRole roleOffers
  dsimp only
  rw [foldl_gatherExplicit, Bool.false_or, hfallback]
  by_cases hold : ∀ offer ∈ explicitOffers py entry, offer.key ∈ offers.map Offer.key
  · have hnone : (entry.codeSuggestions.filterMap (explicitOffer py (strip entry.role))).any
        gathered.isNew = false := by
      refine List.any_eq_false.mpr fun offer hmem hnew => ?_
      exact Gathered.isNew_iff.mp hnew (h.mem_seen.mpr (hold offer hmem))
    rw [if_pos hold, hnone, if_neg Bool.false_ne_true, ← List.foldl_append]
    exact h.takeAll _
  · have hsome : (entry.codeSuggestions.filterMap (explicitOffer py (strip entry.role))).any
        gathered.isNew = true := by
      push Not at hold
      obtain ⟨offer, hmem, hfresh⟩ := hold
      exact List.any_eq_true.mpr
        ⟨offer, hmem, Gathered.isNew_iff.mpr fun hseen => hfresh (h.mem_seen.mp hseen)⟩
    rw [if_neg hold, hsome, if_pos rfl]
    exact h.takeAll _

theorem reflects_offersOf (roles : List RoleEntry) :
    Reflects (roles.foldl (gatherRole py) {}) (offersOf py roles) := by
  have hfold : ∀ (entries : List RoleEntry) {gathered : Gathered} {offers : List Offer},
      Reflects gathered offers → Reflects (entries.foldl (gatherRole py) gathered)
        (entries.foldl (fun before entry => before ++ roleOffers py before entry) offers) := by
    intro entries
    induction entries with
    | nil => exact fun h => h
    | cons entry rest ih => exact fun h => ih (h.gatherRole entry)
  exact hfold roles reflects_nil

/-- The suggestions are the offers that come first under their keys. -/
theorem mem_codeSuggestions_iff {roles : List RoleEntry} {suggestion : Suggestion} :
    suggestion ∈ codeSuggestions py roles ↔
      ∃ offer, firstUnder (offersOf py roles) offer.key = some offer ∧
        offer.suggestion = suggestion := by
  rw [codeSuggestions, List.mem_mergeSort, (reflects_offersOf roles).suggestions, List.mem_map]
  simp only [Dict.mem_values, Dict.get?_firstBy]
  constructor
  · intro h
    obtain ⟨offer, hfirst, rfl⟩ := h
    obtain ⟨key, hfirst⟩ := hfirst
    have hkey : offer.key = key := by simpa using List.find?_some hfirst
    exact ⟨offer, by rw [hkey]; exact hfirst, rfl⟩
  · intro h
    obtain ⟨offer, hfirst, rfl⟩ := h
    exact ⟨offer, ⟨offer.key, hfirst⟩, rfl⟩

end

/-! ## Edits -/

section
variable (py : Interpreter)

/-- One edit: for one role and path, with one theme of the text. -/
def SameEdit (s t : Suggestion) : Prop :=
  s.role = t.role ∧ s.path = t.path ∧ findingTheme py s.suggestion = findingTheme py t.suggestion

/-- An explicit suggestion with a text that is no placeholder, from a role with a name. -/
structure Proposes (entry : RoleEntry) (item : Json) : Prop where
  listed : item ∈ entry.codeSuggestions
  role : strip entry.role ≠ ""
  text : textField py item "suggestion" ≠ ""
  real : isPlaceholderSuggestion py (textField py item "suggestion") = false

/-- A suggestion with the role, the path and the theme of the text of an item. -/
structure Shows (entry : RoleEntry) (item : Json) (suggestion : Suggestion) : Prop where
  role : suggestion.role = strip entry.role
  path : suggestion.path = textField py item "path"
  theme : findingTheme py suggestion.suggestion = findingTheme py (textField py item "suggestion")

/-- No edit that is proposed is missing, so two different ones for a file are both there. -/
structure Lossless (roles : List RoleEntry) : Prop where
  shown : ∀ entry ∈ roles, ∀ item, Proposes py entry item →
    ∃ s ∈ codeSuggestions py roles, Shows py entry item s
  apart : ∀ entry ∈ roles, ∀ item other, Proposes py entry item → Proposes py entry other →
    findingTheme py (textField py item "suggestion") ≠
      findingTheme py (textField py other "suggestion") →
        ∃ s ∈ codeSuggestions py roles, ∃ t ∈ codeSuggestions py roles,
          s ≠ t ∧ Shows py entry item s ∧ Shows py entry other t

/-- Whoever comes first under the key of an explicit suggestion proposes the same edit, or the
edit comes first under another key. -/
def EditsComeFirst (roles : List RoleEntry) : Prop :=
  ∀ entry ∈ roles, ∀ offer ∈ explicitOffers py entry,
    ∀ first, firstUnder (offersOf py roles) offer.key = some first →
      SameEdit py first.suggestion offer.suggestion ∨
        ∃ other, firstUnder (offersOf py roles) other.key = some other ∧ other.key ≠ offer.key ∧
          SameEdit py other.suggestion offer.suggestion

end

section
variable {py : Interpreter} {roles : List RoleEntry} {entry : RoleEntry} {item : Json} {offer : Offer}

theorem exists_explicitOffer (h : Proposes py entry item) :
    ∃ offer ∈ explicitOffers py entry, Shows py entry item offer.suggestion := by
  have hoffer : ∃ offer, explicitOffer py (strip entry.role) item = some offer ∧
      Shows py entry item offer.suggestion := by
    unfold explicitOffer gatherExplicit
    dsimp only
    rw [if_neg (by simp [h.real, h.role, h.text])]
    exact ⟨_, rfl, rfl, rfl, rfl⟩
  obtain ⟨offer, hoffer, hshows⟩ := hoffer
  exact ⟨offer, List.mem_filterMap.mpr ⟨item, h.listed, hoffer⟩, hshows⟩

theorem exists_item (h : offer ∈ explicitOffers py entry) :
    ∃ item, Proposes py entry item ∧ Shows py entry item offer.suggestion := by
  obtain ⟨item, hitem, hoffer⟩ := List.mem_filterMap.mp h
  unfold explicitOffer gatherExplicit at hoffer
  dsimp only at hoffer
  split at hoffer
  · cases hoffer
  · rename_i hblank
    simp only [List.not_mem_nil, or_false, not_or, Bool.not_eq_true] at hblank
    cases hoffer
    exact ⟨item, ⟨hitem, hblank.2.1, hblank.2.2, hblank.1⟩, rfl, rfl, rfl⟩

theorem explicit_mem_offersOf (hentry : entry ∈ roles) (h : offer ∈ explicitOffers py entry) :
    offer ∈ offersOf py roles := by
  have hkept : ∀ (entries : List RoleEntry) (before : List Offer), offer ∈ before →
      offer ∈ entries.foldl (fun before entry => before ++ roleOffers py before entry) before := by
    intro entries
    induction entries with
    | nil => exact fun _ h => h
    | cons entry rest ih => exact fun before h => ih _ (List.mem_append_left _ h)
  obtain ⟨front, back, rfl⟩ := List.append_of_mem hentry
  rw [offersOf, List.foldl_append, List.foldl_cons]
  refine hkept back _ (List.mem_append_right _ ?_)
  unfold roleOffers
  split
  · exact List.mem_append_left _ h
  · exact h

theorem exists_firstUnder {offers : List Offer} (h : offer ∈ offers) :
    ∃ first, firstUnder offers offer.key = some first := by
  rw [← Option.isSome_iff_exists, firstUnder, List.find?_isSome]
  exact ⟨offer, h, decide_eq_true rfl⟩

theorem key_of_firstUnder {offers : List Offer} {key : String × String × String}
    (h : firstUnder offers key = some offer) : offer.key = key := by
  simpa using List.find?_some h

theorem Shows.sameEdit {s t : Suggestion} (hs : Shows py entry item s) (ht : Shows py entry item t) :
    SameEdit py s t :=
  ⟨hs.role.trans ht.role.symm, hs.path.trans ht.path.symm, hs.theme.trans ht.theme.symm⟩

theorem Shows.of_sameEdit {s t : Suggestion} (ht : Shows py entry item t) (h : SameEdit py s t) :
    Shows py entry item s :=
  ⟨h.1.trans ht.role, h.2.1.trans ht.path, h.2.2.trans ht.theme⟩

theorem shown_of_editsComeFirst (h : EditsComeFirst py roles) (hentry : entry ∈ roles)
    (hitem : Proposes py entry item) : ∃ s ∈ codeSuggestions py roles, Shows py entry item s := by
  obtain ⟨offer, hoffer, hshows⟩ := exists_explicitOffer hitem
  obtain ⟨first, hfirst⟩ := exists_firstUnder (explicit_mem_offersOf hentry hoffer)
  rcases h entry hentry offer hoffer first hfirst with hsame | ⟨other, hother, -, hsame⟩
  · refine ⟨first.suggestion, mem_codeSuggestions_iff.mpr ⟨first, ?_, rfl⟩, hshows.of_sameEdit hsame⟩
    rwa [key_of_firstUnder hfirst]
  · exact ⟨other.suggestion, mem_codeSuggestions_iff.mpr ⟨other, hother, rfl⟩,
      hshows.of_sameEdit hsame⟩

end

/-- No edit is lost if and only if each of them comes first under some key. -/
theorem suggestions_lossless_iff (py : Interpreter) (roles : List RoleEntry) :
    Lossless py roles ↔ EditsComeFirst py roles := by
  constructor
  · intro h entry hentry offer hoffer first hfirst
    obtain ⟨item, hitem, hshows⟩ := exists_item hoffer
    obtain ⟨s, hs, hshown⟩ := h.shown entry hentry item hitem
    obtain ⟨other, hother, rfl⟩ := mem_codeSuggestions_iff.mp hs
    by_cases hkey : other.key = offer.key
    · rw [hkey, hfirst, Option.some.injEq] at hother
      rw [hother]
      exact .inl (hshown.sameEdit hshows)
    · exact .inr ⟨other, hother, hkey, hshown.sameEdit hshows⟩
  · intro h
    refine ⟨fun entry hentry item => shown_of_editsComeFirst h hentry, ?_⟩
    intro entry hentry item other hitem hother hdiffer
    obtain ⟨s, hs, hshows⟩ := shown_of_editsComeFirst h hentry hitem
    obtain ⟨t, ht, hshows'⟩ := shown_of_editsComeFirst h hentry hother
    refine ⟨s, hs, t, ht, ?_, hshows, hshows'⟩
    rintro rfl
    exact hdiffer (hshows.theme.symm.trans hshows'.theme)

/-! ## Two edits under one summary -/

def suggestionOf (path summary suggestion : String) : Json :=
  .obj [("path", .str path), ("summary", .str summary), ("suggestion", .str suggestion)]

def developerEntry : RoleEntry where
  role := "developer"
  model := ""
  artifact := ""
  summary := ""
  reportFormat := "json"
  codeSuggestions := [suggestionOf "cache.py" "Fix the race" "Take the lock",
    suggestionOf "cache.py" "Fix the race" "Drop the cache"]

theorem second_edit_lost : ¬ Lossless asciiInterpreter [developerEntry] := by
  have hfirst : (firstUnder (offersOf asciiInterpreter [developerEntry])
      ("developer", "cache.py", "fix the race")).map (·.suggestion.suggestion) =
        some "Take the lock" := by
    decide +kernel
  have hkeys : ∀ offer ∈ offersOf asciiInterpreter [developerEntry],
      offer.key = ("developer", "cache.py", "fix the race") := by
    decide +kernel
  intro h
  obtain ⟨s, hs, hshows⟩ := h.shown developerEntry List.mem_cons_self
    (suggestionOf "cache.py" "Fix the race" "Drop the cache")
    ⟨by simp [developerEntry], by decide +kernel, by decide +kernel, by decide +kernel⟩
  obtain ⟨offer, hoffer, rfl⟩ := mem_codeSuggestions_iff.mp hs
  rw [hkeys offer (List.mem_of_find?_eq_some hoffer)] at hoffer
  rw [hoffer, Option.map_some, Option.some.injEq] at hfirst
  have htheme := hshows.theme
  rw [hfirst] at htheme
  exact absurd htheme (by decide +kernel)

end TruePresenceESE.Ese
