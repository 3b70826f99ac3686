import TruePresenceESE.Ese.RoleReport
import TruePresenceESE.Lib.FieldStages
import TruePresenceESE.Lib.Selection

/-! # Normalising a report once more

The fields of a report are normalised one by one. What a field was rewritten to is left
alone by a second round, but for the summary of a code suggestion that is cut off from the
suggestion: the cut may leave a blank at its end, which the second round trims.
-/

namespace TruePresenceESE.Ese

open PyText FieldStages

/-- Lower case leaves a trimmed text trimmed and in lower case. -/
def LowerStable (py : Interpreter) : Prop :=
  ∀ text, strip text = text → text ≠ "" →
    strip (py.lower text) = py.lower text ∧ py.lower text ≠ "" ∧
      py.lower (py.lower text) = py.lower text

/-! ## The stages -/

def reportStages (role : String) (py : Interpreter) (model : String) :
    List (String × (Report → Except String Report)) :=
  [("summary", normalizeSummary role), ("confidence", normalizeConfidence role),
    ("assumptions", normalizeRequiredStrings role "assumptions"),
    ("unknowns", normalizeRequiredStrings role "unknowns"),
    ("evidence_basis", normalizeEvidenceBasis role), ("findings", normalizeFindings role),
    ("artifacts", normalizeOptionalStrings role "artifacts"),
    ("next_steps", normalizeOptionalStrings role "next_steps"),
    ("code_suggestions", normalizeCodeSuggestions role py),
    ("role", fun report => .ok (report.set "role" (.str role))),
    ("model", fun report => .ok (report.set "model" (.str model)))]

theorem normalizeReport_eq (role : String) (py : Interpreter) (model : String) (report : Report) :
    normalizeReport role py model report = runAll (reportStages role py model) report := rfl

section
variable (role : String)

/-- A stage that stores what it makes of its field, if that succeeds. -/
theorem onField_of_run {key : String} {f : Report → Except String Report}
    (run : Option Json → Except String Json)
    (h : ∀ report, f report = (run (report.get? key)).map (report.set key)) : OnField key f := by
  refine ⟨fun x => (run x).map some, fun report => ?_⟩
  rw [h]
  dsimp only
  generalize run (report.get? key) = result
  cases result <;> rfl

/-! What the stages make of the values of their fields. -/

def storedSummary (value : Option Json) : Except String Json :=
  match value.bind asString with
  | some summary =>
      if strip summary ≠ "" then .ok (.str (strip summary))
      else reportError role "must contain a non-empty string field 'summary'"
  | none => reportError role "must contain a non-empty string field 'summary'"

def storedConfidence (value : Option Json) : Except String Json :=
  match value.bind asString with
  | some confidence =>
      if upper (strip confidence) ∈ reportConfidence then .ok (.str (upper (strip confidence)))
      else reportError role ("has invalid confidence '" ++ confidence ++
        "'; expected one of HIGH, LOW, MEDIUM")
  | none => reportError role "must contain a string field 'confidence'"

def storedEvidenceBasis : Option Json → Except String (Option Json)
  | none => .ok none
  | some .null => .ok none
  | some value => (requireStrings role "evidence_basis" (some value) " when present").map
      fun texts => some (cleanStrings texts)

def storedFindings : Option Json → Except String Json
  | some (.arr findings) => (mapEnumerated (normalizeFinding role) findings).map .arr
  | _ => reportError role "must contain a list field 'findings'"

def storedCodeSuggestions (py : Interpreter) (value : Option Json) : Except String Json :=
  match value.getD (.arr []) with
  | .arr suggestions =>
      (mapEnumerated (normalizeCodeSuggestion role py) suggestions).map .arr
  | _ => reportError role "must contain a list field 'code_suggestions'"

theorem normalizeSummary_onField : OnField "summary" (normalizeSummary role) := by
  apply onField_of_run (storedSummary role)
  intro report
  rw [normalizeSummary, storedSummary]
  generalize (report.get? "summary").bind asString = x
  cases x with
  | none => rfl
  | some summary =>
      dsimp only
      split <;> rfl

theorem normalizeConfidence_onField : OnField "confidence" (normalizeConfidence role) := by
  apply onField_of_run (storedConfidence role)
  intro report
  rw [normalizeConfidence, storedConfidence]
  generalize (report.get? "confidence").bind asString = x
  cases x with
  | none => rfl
  | some confidence =>
      dsimp only
      split <;> rfl

theorem normalizeRequiredStrings_onField (key : String) :
    OnField key (normalizeRequiredStrings role key) := by
  apply onField_of_run fun x => (requireStrings role key x "").map cleanStrings
  intro report
  rw [normalizeRequiredStrings]
  generalize requireStrings role key (report.get? key) "" = result
  cases result <;> rfl

theorem normalizeOptionalStrings_onField (key : String) :
    OnField key (normalizeOptionalStrings role key) := by
  apply onField_of_run fun x =>
    (requireStrings role key (some (x.getD (.arr []))) "").map cleanStrings
  intro report
  rw [normalizeOptionalStrings]
  generalize requireStrings role key _ "" = result
  cases result <;> rfl

theorem normalizeEvidenceBasis_onField :
    OnField "evidence_basis" (normalizeEvidenceBasis role) := by
  refine ⟨storedEvidenceBasis role, fun report => ?_⟩
  rw [normalizeEvidenceBasis]
  generalize report.get? "evidence_basis" = x
  cases x with
  | none => rfl
  | some value =>
      cases value with
      | null => rfl
      | bool _ | num _ | str _ | arr _ | obj _ =>
          dsimp only [storedEvidenceBasis]
          generalize requireStrings role "evidence_basis" _ " when present" = result
          cases result <;> rfl

theorem normalizeFindings_onField : OnField "findings" (normalizeFindings role) := by
  apply onField_of_run (storedFindings role)
  intro report
  rw [normalizeFindings]
  generalize report.get? "findings" = x
  cases x with
  | none => rfl
  | some value =>
      cases value with
      | arr findings =>
          dsimp only [storedFindings]
          generalize mapEnumerated (normalizeFinding role) findings = result
          cases result <;> rfl
      | null | bool _ | num _ | str _ | obj _ => rfl

theorem normalizeCodeSuggestions_onField (py : Interpreter) :
    OnField "code_suggestions" (normalizeCodeSuggestions role py) := by
  apply onField_of_run (storedCodeSuggestions role py)
  intro report
  rw [normalizeCodeSuggestions, storedCodeSuggestions]
  generalize (report.get? "code_suggestions").getD (.arr []) = value
  cases value with
  | arr suggestions =>
      dsimp only
      generalize mapEnumerated (normalizeCodeSuggestion role py) suggestions = result
      cases result <;> rfl
  | null | bool _ | num _ | str _ | obj _ => rfl

theorem store_onField (key : String) (value : Json) :
    OnField key fun report : Report => (.ok (report.set key value) : Except String Report) :=
  onField_of_run (fun _ => .ok value) fun _ => rfl

theorem reportStages_onField (py : Interpreter) (model : String) :
    ∀ s ∈ reportStages role py model, OnField s.1 s.2 := by
  simp only [reportStages, List.forall_mem_cons]
  exact ⟨normalizeSummary_onField role, normalizeConfidence_onField role,
    normalizeRequiredStrings_onField role _, normalizeRequiredStrings_onField role _,
    normalizeEvidenceBasis_onField role, normalizeFindings_onField role,
    normalizeOptionalStrings_onField role _, normalizeOptionalStrings_onField role _,
    normalizeCodeSuggestions_onField role py, store_onField _ _, store_onField _ _, nofun⟩

theorem reportStages_keys (py : Interpreter) (model : String) :
    ((reportStages role py model).map Prod.fst).Nodup := by
  simp [reportStages]

end

/-! ## Texts -/

theorem asStrings_strings (texts : List String) : asStrings (strings texts) = some texts := by
  rw [strings, asStrings]
  induction texts with
  | nil => rfl
  | cons text rest ih =>
      rw [List.map_cons, List.mapM_cons, asString, ih]
      rfl

/-- What is left of a list of texts. -/
def cleaned (texts : List String) : List String := (texts.map strip).filter (· ≠ "")

theorem cleaned_cons (text : String) (rest : List String) :
    cleaned (text :: rest) =
      if strip text ≠ "" then strip text :: cleaned rest else cleaned rest := by
  rw [cleaned, List.map_cons, List.filter_cons]
  simp only [decide_eq_true_eq]
  rfl

theorem cleaned_cleaned (texts : List String) : cleaned (cleaned texts) = cleaned texts := by
  induction texts with
  | nil => rfl
  | cons text rest ih =>
      rw [cleaned_cons]
      split
      · next hne => rw [cleaned_cons, strip_strip, if_pos hne, ih]
      · exact ih

theorem requireStrings_cleaned (role key note : String) (texts : List String) :
    requireStrings role key (some (cleanStrings texts)) note = .ok (cleaned texts) := by
  rw [requireStrings, Option.bind_some, cleanStrings, asStrings_strings]
  rfl

theorem cleanStrings_cleaned (texts : List String) :
    cleanStrings (cleaned texts) = cleanStrings texts :=
  congrArg strings (cleaned_cleaned texts)

/-! ## Stages that can be repeated -/

section
variable {role : String} {report out : Report}

theorem normalizeSummary_repeat (h : normalizeSummary role report = .ok out) :
    normalizeSummary role out = .ok out := by
  unfold normalizeSummary at h
  split at h
  · next summary _ =>
      split at h
      · next hne =>
          cases h
          rw [normalizeSummary, Dict.get?_set_self]
          simp only [Option.bind_some, asString, strip_strip]
          rw [if_pos hne, Dict.set_set]
      · cases h
  · cases h

theorem upper_confidence {confidence : String} (h : confidence ∈ reportConfidence) :
    upper (strip confidence) = confidence := by
  simp only [reportConfidence, List.mem_cons, List.not_mem_nil, or_false] at h
  rcases h with rfl | rfl | rfl <;> decide +kernel

theorem upper_severity {severity : String} (h : severity ∈ reportSeverities) :
    upper (strip severity) = severity := by
  simp only [reportSeverities, List.mem_cons, List.not_mem_nil, or_false] at h
  rcases h with rfl | rfl | rfl | rfl <;> decide +kernel

theorem normalizeConfidence_repeat (h : normalizeConfidence role report = .ok out) :
    normalizeConfidence role out = .ok out := by
  unfold normalizeConfidence at h
  split at h
  · next confidence _ =>
      dsimp only at h
      split at h
      · next hmem =>
          cases h
          rw [normalizeConfidence, Dict.get?_set_self]
          simp only [Option.bind_some, asString, upper_confidence hmem]
          rw [if_pos hmem, Dict.set_set]
      · cases h
  · cases h

theorem normalizeRequiredStrings_repeat {key : String}
    (h : normalizeRequiredStrings role key report = .ok out) :
    normalizeRequiredStrings role key out = .ok out := by
  obtain ⟨texts, -, h⟩ := Fallible.bind_eq_ok_iff.mp h
  cases h
  rw [normalizeRequiredStrings, Dict.get?_set_self, requireStrings_cleaned]
  show Except.ok (Dict.set _ key (cleanStrings (cleaned texts))) = _
  rw [cleanStrings_cleaned, Dict.set_set]

theorem normalizeOptionalStrings_repeat {key : String}
    (h : normalizeOptionalStrings role key report = .ok out) :
    normalizeOptionalStrings role key out = .ok out := by
  obtain ⟨texts, -, h⟩ := Fallible.bind_eq_ok_iff.mp h
  cases h
  rw [normalizeOptionalStrings, Dict.get?_set_self, Option.getD_some, requireStrings_cleaned]
  show Except.ok (Dict.set _ key (cleanStrings (cleaned texts))) = _
  rw [cleanStrings_cleaned, Dict.set_set]

theorem normalizeEvidenceBasis_repeat (h : normalizeEvidenceBasis role report = .ok out) :
    normalizeEvidenceBasis role out = .ok out := by
  unfold normalizeEvidenceBasis at h
  split at h
  · next hnone =>
      cases h
      rw [normalizeEvidenceBasis, hnone]
  · next hnull =>
      cases h
      rw [normalizeEvidenceBasis, hnull]
  · obtain ⟨texts, -, h⟩ := Fallible.bind_eq_ok_iff.mp h
    cases h
    rw [normalizeEvidenceBasis, Dict.get?_set_self]
    show (requireStrings role _ (some (cleanStrings texts)) _ >>= _) = _
    rw [requireStrings_cleaned]
    show Except.ok (Dict.set _ "evidence_basis" (cleanStrings (cleaned texts))) = _
    rw [cleanStrings_cleaned, Dict.set_set]

end

/-! ## Findings -/

section
variable {role : String}

theorem fieldsOf_items (report : Report) : fieldsOf report.items = report :=
  Dict.update_empty_items report

/-- A finding with trimmed texts and a known severity is left alone. -/
theorem normalizeFinding_of_normal {finding : Report} {title severity details : String}
    (htitle : finding.get? "title" = some (.str title)) (htrim : strip title = title)
    (hne : title ≠ "") (hseverity : finding.get? "severity" = some (.str severity))
    (hmem : severity ∈ reportSeverities) (hdetails : finding.get? "details" = some (.str details))
    (htrim' : strip details = details) (index : ℕ) :
    normalizeFinding role (.obj finding.items) index = .ok (.obj finding.items) := by
  rw [normalizeFinding, fieldsOf_items]
  simp only [htitle, hseverity, hdetails, Option.bind_some, asString, Option.getD_some, htrim,
    htrim', upper_severity hmem]
  rw [if_neg hne, if_neg (not_not.2 hmem), Dict.set_eq_self htitle, Dict.set_eq_self hseverity,
    Dict.set_eq_self hdetails]

theorem normalizeFinding_repeat {finding out : Json} {index : ℕ}
    (h : normalizeFinding role finding index = .ok out) :
    normalizeFinding role out index = .ok out := by
  unfold normalizeFinding at h
  split at h
  · next fields =>
      dsimp only at h
      split at h
      · cases h
      · next title _ =>
          split at h
          · cases h
          · next hne =>
              split at h
              · cases h
              · next severity _ =>
                  split at h
                  · cases h
                  · next hseverity =>
                      split at h
                      · cases h
                      · next details _ =>
                          cases h
                          refine normalizeFinding_of_normal ?_ (strip_strip title) hne ?_
                            (not_not.1 hseverity) (Dict.get?_set_self _ _ _) (strip_strip details) index
                          · simp [Dict.get?_set]
                          · simp [Dict.get?_set]
  · cases h

/-! ## Code suggestions -/

/-- The summary that stands in for a missing one. -/
def cutOff (text : String) : String := String.ofList ((strip text).toList.take 120)

/-- Where the summary of a suggestion is missing, the place at which the suggestion is cut
off is not behind a blank. -/
def CutAtText : Json → Prop
  | .obj fields =>
      match ((fieldsOf fields).get? "summary").getD (.str ""), (fieldsOf fields).get? "suggestion" with
      | .str summary, some (.str text) =>
          strip summary = "" → ∀ c ∈ (strip text).toList[119]?, isSpace c = false
      | _, _ => True
  | _ => True

/-- The fields of a suggestion as they are stored. -/
def suggestionFields (path kind summary text snippet : String) : List (String × Json) :=
  [("path", .str path), ("kind", .str kind), ("summary", .str summary),
    ("suggestion", .str text), ("snippet", .str snippet)]

theorem asString_eq_some {value : Json} {text : String} (h : asString value = some text) :
    value = .str text := by
  cases value with
  | str s =>
      cases h
      rfl
  | null | bool _ | num _ | arr _ | obj _ => cases h

theorem get?_of_asString_getD {report : Report} {key text : String}
    (h : asString ((report.get? key).getD (.str "")) = some text) (hne : strip text ≠ "") :
    report.get? key = some (.str text) := by
  cases hvalue : report.get? key with
  | none =>
      rw [hvalue] at h
      cases h
      exact absurd rfl hne
  | some value =>
      rw [hvalue, Option.getD_some] at h
      rw [asString_eq_some h]

/-- What a suggestion that passes is made of. -/
theorem normalizeCodeSuggestion_ok {py : Interpreter} {suggestion out : Json} {index : ℕ}
    (h : normalizeCodeSuggestion role py suggestion index = .ok out) :
    ∃ fields path kind summary text snippet, suggestion = .obj fields ∧
      ((fieldsOf fields).get? "summary").getD (.str "") = .str summary ∧
      (fieldsOf fields).get? "suggestion" = some (.str text) ∧
      strip kind ≠ "" ∧ strip text ≠ "" ∧
      out = .obj (suggestionFields (strip path) (py.lower (strip kind))
        (if strip summary ≠ "" then strip summary else cutOff text) (strip text)
        (rstrip snippet)) := by
  unfold normalizeCodeSuggestion at h
  split at h
  · next fields =>
      dsimp only at h
      split at h
      · cases h
      · next path _ =>
          split at h
          · cases h
          · next kind hkind =>
              split at h
              · cases h
              · next summary hsummary =>
                  split at h
                  · cases h
                  · next text htext =>
                      split at h
                      · cases h
                      · next snippet _ =>
                          cases h
                          obtain ⟨-, hkind⟩ := Option.filter_eq_some_iff.1 hkind
                          obtain ⟨htext, hne⟩ := Option.filter_eq_some_iff.1 htext
                          rw [decide_eq_true_eq] at hkind hne
                          refine ⟨fields, path, kind, summary, text, snippet, rfl,
                            asString_eq_some hsummary, ?_, hkind, hne, rfl⟩
                          exact get?_of_asString_getD htext hne
  · cases h

theorem normalizeCodeSuggestion_fields {py : Interpreter} (path kind summary text snippet : String)
    (hkind : strip kind ≠ "") (htext : strip text ≠ "") (index : ℕ) :
    normalizeCodeSuggestion role py
        (.obj (suggestionFields path kind summary text snippet)) index =
      .ok (.obj (suggestionFields (strip path) (py.lower (strip kind))
        (if strip summary ≠ "" then strip summary else cutOff text) (strip text)
        (rstrip snippet))) := by
  have hfields : ∀ key, (fieldsOf (suggestionFields path kind summary text snippet)).get? key =
      Dict.lookupIn key (suggestionFields path kind summary text snippet) := fun _ => rfl
  rw [normalizeCodeSuggestion]
  generalize fieldsOf (suggestionFields path kind summary text snippet) = fields at hfields ⊢
  simp [hfields, suggestionFields, Dict.lookupIn, asString, hkind, htext, Option.filter, cutOff]

theorem strip_toList (text : String) :
    Text.strip isSpace (strip text).toList = (strip text).toList := by
  rw [← String.ofList_inj, String.ofList_toList]
  exact strip_strip text

theorem strip_cutOff_iff (text : String) :
    strip (cutOff text) = cutOff text ↔
      ∀ c ∈ (strip text).toList[119]?, isSpace c = false := by
  rw [← Text.strip_take_iff (strip_toList text), strip, cutOff, String.toList_ofList, String.ofList_inj]

/-- What is cut off starts with the first character of the suggestion. -/
theorem cutOff_ne_blank {text : String} (h : strip text ≠ "") : strip (cutOff text) ≠ "" := by
  have hfixed := strip_toList text
  cases hcs : (strip text).toList with
  | nil =>
      rw [← String.ofList_toList (s := strip text), hcs] at h
      exact absurd rfl h
  | cons c rest =>
      have hblank : isSpace c = false := Text.head?_of_strip_eq_self hfixed (by rw [hcs]; rfl)
      have hmem : c ∈ (cutOff text).toList := by
        rw [cutOff, String.toList_ofList, hcs]
        exact List.mem_cons_self
      intro hnil
      have hkept := Text.mem_strip_of_mem hmem hblank
      rw [strip, ← String.ofList_nil, String.ofList_inj] at hnil
      rw [hnil] at hkept
      cases hkept

/-- The lower case of a kind is stored as it is. -/
theorem lower_kind {py : Interpreter} (hlower : LowerStable py) {kind : String}
    (hkind : strip kind ≠ "") : strip (py.lower (strip kind)) ≠ "" ∧
      py.lower (strip (py.lower (strip kind))) = py.lower (strip kind) := by
  obtain ⟨htrim, hne, hstable⟩ := hlower (strip kind) (strip_strip kind) hkind
  rw [htrim]
  exact ⟨hne, hstable⟩

theorem normalizeCodeSuggestion_repeat_iff {py : Interpreter} (hlower : LowerStable py)
    {suggestion out : Json} {index : ℕ}
    (h : normalizeCodeSuggestion role py suggestion index = .ok out) :
    normalizeCodeSuggestion role py out index = .ok out ↔ CutAtText suggestion := by
  obtain ⟨fields, path, kind, summary, text, snippet, rfl, hsummary, htext, hkind, hne, rfl⟩ :=
    normalizeCodeSuggestion_ok h
  obtain ⟨hkind', hstable⟩ := lower_kind hlower hkind
  have hsnippet : rstrip (rstrip snippet) = rstrip snippet := by
    rw [rstrip, rstrip, String.toList_ofList, List.rdropWhile_idempotent]
  rw [normalizeCodeSuggestion_fields _ _ _ _ _ hkind' (by rwa [strip_strip]), hstable,
    strip_strip, strip_strip, hsnippet, CutAtText, hsummary, htext]
  dsimp only
  by_cases hmissing : strip summary = ""
  · rw [if_neg (not_not.2 hmissing), if_pos (cutOff_ne_blank hne), ← strip_cutOff_iff]
    simp [suggestionFields, hmissing]
  · rw [if_pos hmissing, strip_strip, if_pos hmissing]
    simp [hmissing]

theorem normalizeFindings_repeat {report out : Report}
    (h : normalizeFindings role report = .ok out) : normalizeFindings role out = .ok out := by
  unfold normalizeFindings at h
  split at h
  · next findings _ =>
      obtain ⟨normalized, hnormalized, h⟩ := Fallible.bind_eq_ok_iff.mp h
      cases h
      have hrepeat := (Fallible.mapM_zipIdx_repeat_iff hnormalized).2
        fun p _ out hout => normalizeFinding_repeat hout
      rw [normalizeFindings, Dict.get?_set_self]
      show (mapEnumerated _ normalized >>= _) = _
      rw [mapEnumerated, hrepeat]
      show Except.ok (Dict.set _ "findings" (Json.arr normalized)) = _
      rw [Dict.set_set]
  · cases h

theorem normalizeCodeSuggestions_repeat_iff {py : Interpreter} (hlower : LowerStable py)
    {report out : Report} (h : normalizeCodeSuggestions role py report = .ok out) :
    normalizeCodeSuggestions role py out = .ok out ↔
      ∀ items, report.get? "code_suggestions" = some (.arr items) → ∀ s ∈ items, CutAtText s := by
  unfold normalizeCodeSuggestions at h
  split at h
  · next suggestions hsuggestions =>
      obtain ⟨normalized, hnormalized, h⟩ := Fallible.bind_eq_ok_iff.mp h
      cases h
      have hagain : normalizeCodeSuggestions role py
            (report.set "code_suggestions" (.arr normalized)) =
          (mapEnumerated (normalizeCodeSuggestion role py) normalized).map
            fun again => report.set "code_suggestions" (.arr again) := by
        rw [normalizeCodeSuggestions, Dict.get?_set_self]
        dsimp only [Option.getD_some]
        generalize mapEnumerated (normalizeCodeSuggestion role py) normalized = result
        cases result with
        | error message => rfl
        | ok again =>
            show Except.ok (Dict.set _ "code_suggestions" (Json.arr again)) = _
            rw [Dict.set_set]
            rfl
      have hloop : normalizeCodeSuggestions role py
            (report.set "code_suggestions" (.arr normalized)) =
              .ok (report.set "code_suggestions" (.arr normalized)) ↔
          mapEnumerated (normalizeCodeSuggestion role py) normalized = .ok normalized := by
        rw [hagain, Fallible.map_eq_ok_iff]
        constructor
        · rintro ⟨again, hresult, hsame⟩
          have hvalue := congrArg (Dict.get? · "code_suggestions") hsame
          simp only [Dict.get?_set_self, Option.some.injEq, Json.arr.injEq] at hvalue
          rw [hresult, hvalue]
        · intro hresult
          exact ⟨normalized, hresult, rfl⟩
      rw [hloop, mapEnumerated, Fallible.mapM_zipIdx_repeat_iff hnormalized]
      have hitems : (∀ p ∈ suggestions.zipIdx 1, ∀ out,
            normalizeCodeSuggestion role py p.1 p.2 = .ok out →
              normalizeCodeSuggestion role py out p.2 = .ok out) ↔
          ∀ s ∈ suggestions, CutAtText s := by
        constructor
        · intro hrepeat s hs
          rw [← List.zipIdx_map_fst 1 suggestions, List.mem_map] at hs
          obtain ⟨p, hp, rfl⟩ := hs
          obtain ⟨out, -, hout⟩ := Fallible.exists_result_of_mapM hnormalized hp
          exact (normalizeCodeSuggestion_repeat_iff hlower hout).1 (hrepeat p hp out hout)
        · intro hcut p hp out hout
          rw [normalizeCodeSuggestion_repeat_iff hlower hout]
          exact hcut p.1 (List.fst_mem_of_mem_zipIdx hp)
      rw [hitems]
      cases hfield : report.get? "code_suggestions" with
      | none =>
          rw [hfield, Option.getD_none, Json.arr.injEq] at hsuggestions
          simp [← hsuggestions]
      | some value =>
          rw [hfield, Option.getD_some] at hsuggestions
          simp [hsuggestions]
  · cases h

end

/-! ## The report -/

/-- No summary of a code suggestion is cut off behind a blank. -/
def SummariesCutAtText (py : Interpreter) (output : String) : Prop :=
  ∀ fields items, py.loads output = some (.obj fields) →
    (fieldsOf fields).get? "code_suggestions" = some (.arr items) →
    ∀ suggestion ∈ items, CutAtText suggestion

theorem normalizeReport_repeat_iff {role model : String} {py : Interpreter}
    (hlower : LowerStable py) {report out : Report}
    (h : normalizeReport role py model report = .ok out) :
    normalizeReport role py model out = .ok out ↔
      ∀ items, report.get? "code_suggestions" = some (.arr items) → ∀ s ∈ items, CutAtText s := by
  rw [normalizeReport_eq] at h ⊢
  have hon := reportStages_onField role py model
  have hkeys := reportStages_keys role py model
  obtain ⟨e, he, -⟩ := (runAll_ok hon hkeys h).1
    ("code_suggestions", normalizeCodeSuggestions role py) (by simp [reportStages])
  have hstore (key : String) (value : Json) (e : Report)
      (h : (.ok (report.set key value) : Except String Report) = .ok e) :
      (.ok (e.set key value) : Except String Report) = .ok e := by
    cases h
    rw [Dict.set_set]
  rw [runAll_repeat_iff hon hkeys h, ← normalizeCodeSuggestions_repeat_iff hlower he]
  simp only [reportStages, List.forall_mem_cons]
  constructor
  · intro hall
    exact hall.2.2.2.2.2.2.2.2.1 e he
  · intro hrepeat
    refine ⟨fun _ => normalizeSummary_repeat, fun _ => normalizeConfidence_repeat,
      fun _ => normalizeRequiredStrings_repeat, fun _ => normalizeRequiredStrings_repeat,
      fun _ => normalizeEvidenceBasis_repeat, fun _ => normalizeFindings_repeat,
      fun _ => normalizeOptionalStrings_repeat, fun _ => normalizeOptionalStrings_repeat,
      fun e' he' => ?_, hstore _ _, hstore _ _, nofun⟩
    dsimp only at he he'
    rw [he] at he'
    cases he'
    exact hrepeat

/-- A report is normalised to itself exactly if no summary is cut off behind a blank. -/
theorem normalization_idempotent_iff {role model output : String} {py : Interpreter}
    {report : Report} (hlower : LowerStable py)
    (h : normalizeJsonReport role py model output = .ok report)
    (hdecodes : py.loads (py.dumps (.obj report.items) ++ "\n") = some (.obj report.items)) :
    normalizeJsonReport role py model (py.dumps (.obj report.items) ++ "\n") = .ok report ↔
      SummariesCutAtText py output := by
  rw [normalizeJsonReport] at h
  split at h
  · cases h
  · next fields hloads =>
      rw [normalizeJsonReport, hdecodes]
      dsimp only
      rw [fieldsOf_items, normalizeReport_repeat_iff hlower h]
      constructor
      · intro hcut fields' items hloads'
        rw [hloads] at hloads'
        cases hloads'
        exact hcut items
      · intro hcut items
        exact hcut fields items hloads
  · cases h

/-! ## A summary that is cut off behind a blank -/

@[irreducible] def blankCutText : String :=
  "Cache the parsed configuration between calls, because the loader reads the same file " ++
    "again for each role of the run now once per run."

@[irreducible] def blankCutOutput : String :=
  "\x7b\"summary\": \"One change\", \"confidence\": \"HIGH\", \"assumptions\": [], " ++
    "\"unknowns\": [], \"findings\": [], \"code_suggestions\": [\x7b\"suggestion\": \"" ++
    blankCutText ++ "\"\x7d]\x7d"

def blankCutFields : List (String × Json) :=
  [("summary", .str "One change"), ("confidence", .str "HIGH"), ("assumptions", .arr []),
    ("unknowns", .arr []), ("findings", .arr []),
    ("code_suggestions", .arr [.obj [("suggestion", .str blankCutText)]])]

@[irreducible] def blankCutRendered : String :=
  "\x7b\n  \"summary\": \"One change\",\n  \"confidence\": \"HIGH\",\n  \"assumptions\": [],\n" ++
    "  \"unknowns\": [],\n  \"findings\": [],\n  \"code_suggestions\": [\n    \x7b\n" ++
    "      \"path\": \"\",\n      \"kind\": \"edit\",\n      \"summary\": \"" ++
    cutOff blankCutText ++ "\",\n      \"suggestion\": \"" ++ blankCutText ++
    "\",\n      \"snippet\": \"\"\n    \x7d\n  ],\n  \"artifacts\": [],\n" ++
    "  \"next_steps\": [],\n  \"role\": \"architect\",\n  \"model\": \"local:model\"\n\x7d"

/-- What the first run makes of the output. -/
def blankCutReport (py : Interpreter) : Report :=
  match normalizeReport "architect" py "local:model" (fieldsOf blankCutFields) with
  | .ok report => report
  | .error _ => Dict.empty

def blankCutBase : Interpreter where
  loads _ := none
  dumps _ := blankCutRendered
  repr _ := ""
  isAlnum _ := false
  lower := id
  lower_empty := id_eq ""

/-- Reads the output and the report that is rendered from it. -/
def blankCutReader : Interpreter :=
  { blankCutBase with
    loads := fun text =>
      if text = blankCutOutput then some (.obj blankCutFields)
      else if text = blankCutRendered ++ "\n" then
        some (.obj (blankCutReport blankCutBase).items)
      else none }

theorem blankCut_loads : blankCutReader.loads blankCutOutput = some (.obj blankCutFields) := by
  rw [blankCutReader]
  dsimp only
  rw [if_pos rfl]

theorem blankCut_decodes :
    blankCutReader.loads
        (blankCutReader.dumps (.obj (blankCutReport blankCutBase).items) ++ "\n") =
      some (.obj (blankCutReport blankCutBase).items) := by
  have hother : blankCutRendered ++ "\n" ≠ blankCutOutput := by decide +kernel
  rw [blankCutReader]
  dsimp only [blankCutBase]
  rw [if_neg hother, if_pos rfl]

theorem blankCut_normalized :
    normalizeJsonReport "architect" blankCutReader "local:model" blankCutOutput =
      .ok (blankCutReport blankCutBase) := by
  have hok : (normalizeReport "architect" blankCutBase "local:model"
      (fieldsOf blankCutFields)).isOk = true := by decide +kernel
  rw [normalizeJsonReport, blankCut_loads]
  show normalizeReport "architect" blankCutBase "local:model" (fieldsOf blankCutFields) = _
  rw [blankCutReport]
  cases hresult : normalizeReport "architect" blankCutBase "local:model"
      (fieldsOf blankCutFields) with
  | error message =>
      rw [hresult] at hok
      cases hok
  | ok report => rfl

theorem lowerStable_id (py : Interpreter) (h : py.lower = id) : LowerStable py := by
  intro text htrim hne
  rw [h]
  exact ⟨htrim, hne, rfl⟩

theorem blankCut_not_cutAtText : ¬ SummariesCutAtText blankCutReader blankCutOutput := by
  intro hcut
  have hfield : (fieldsOf blankCutFields).get? "code_suggestions" =
      some (.arr [.obj [("suggestion", .str blankCutText)]]) := rfl
  have hplace := hcut _ _ blankCut_loads hfield _ List.mem_cons_self
  have hplace := hplace (show strip "" = "" by decide)
  have hblank : (strip blankCutText).toList[119]? = some ' ' := by decide +kernel
  exact absurd (hplace ' ' hblank) (by decide)

theorem blankCut_lowerStable : LowerStable blankCutReader := lowerStable_id blankCutReader rfl

/-- A second run trims the summary that the first one has cut off. -/
theorem blank_cut_changes :
    ∃ report : Report,
      normalizeJsonReport "architect" blankCutReader "local:model" blankCutOutput = .ok report ∧
      blankCutReader.loads (blankCutReader.dumps (.obj report.items) ++ "\n") =
        some (.obj report.items) ∧
      normalizeJsonReport "architect" blankCutReader "local:model"
        (blankCutReader.dumps (.obj report.items) ++ "\n") ≠ .ok report := by
  refine ⟨blankCutReport blankCutBase, blankCut_normalized, blankCut_decodes, ?_⟩
  rw [normalizeJsonReport, blankCut_decodes]
  dsimp only
  rw [fieldsOf_items]
  have hfirst := blankCut_normalized
  rw [normalizeJsonReport, blankCut_loads] at hfirst
  rw [Ne, normalizeReport_repeat_iff blankCut_lowerStable hfirst]
  intro hcut
  apply blankCut_not_cutAtText
  intro fields items hloads
  rw [blankCut_loads] at hloads
  cases hloads
  exact hcut items

theorem normalization_idempotent_iff_blankCut :
    normalizeJsonReport "architect" blankCutReader "local:model"
        (blankCutReader.dumps (.obj (blankCutReport blankCutBase).items) ++ "\n") =
          .ok (blankCutReport blankCutBase) ↔
      SummariesCutAtText blankCutReader blankCutOutput :=
  normalization_idempotent_iff blankCut_lowerStable blankCut_normalized blankCut_decodes

end TruePresenceESE.Ese
