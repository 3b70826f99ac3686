import TruePresenceESE.Lib.Dict
import TruePresenceESE.Lib.Fallible
import TruePresenceESE.Lib.PyValue

/-! # Role reports

The JSON an adapter returns is checked and normalised field by field; the first
defect is the error. Known fields are rewritten, all others pass through.
-/

namespace TruePresenceESE.Ese

open PyText

/-! ## Values -/

abbrev Report := Dict String Json

def asString : Json → Option String
  | .str s => some s
  | _ => none

/-- A list whose items are all strings. -/
def asStrings : Json → Option (List String)
  | .arr items => items.mapM asString
  | _ => none

def strings (texts : List String) : Json := .arr (texts.map .str)

/-- `[item.strip() for item in value if item.strip()]` -/
def cleanStrings (texts : List String) : Json := strings ((texts.map strip).filter (· ≠ ""))

def reportSeverities : List String := ["LOW", "MEDIUM", "HIGH", "CRITICAL"]

def reportConfidence : List String := ["LOW", "MEDIUM", "HIGH"]

/-! ## The parts of a report -/

section Fields

variable (role : String)

def reportError (text : String) : Except String α :=
  .error ("JSON report for role '" ++ role ++ "' " ++ text)

def requireStrings (key : String) (value : Option Json) (note : String) :
    Except String (List String) :=
  match value.bind asStrings with
  | some texts => .ok texts
  | none => reportError role ("must contain a string list field '" ++ key ++ "'" ++ note)

def normalizeSummary (report : Report) : Except String Report :=
  match (report.get? "summary").bind asString with
  | some summary =>
      if strip summary ≠ "" then .ok (report.set "summary" (.str (strip summary)))
      else reportError role "must contain a non-empty string field 'summary'"
  | none => reportError role "must contain a non-empty string field 'summary'"

def normalizeConfidence (report : Report) : Except String Report :=
  match (report.get? "confidence").bind asString with
  | some confidence =>
      let normalized := upper (strip confidence)
      if normalized ∈ reportConfidence then .ok (report.set "confidence" (.str normalized))
      else reportError role ("has invalid confidence '" ++ confidence ++
        "'; expected one of HIGH, LOW, MEDIUM")
  | none => reportError role "must contain a string field 'confidence'"

/-- `assumptions` and `unknowns`. -/
def normalizeRequiredStrings (key : String) (report : Report) : Except String Report := do
  let texts ← requireStrings role key (report.get? key) ""
  return report.set key (cleanStrings texts)

/-- An absent field and a null one are left as they are. -/
def normalizeEvidenceBasis (report : Report) : Except String Report :=
  match report.get? "evidence_basis" with
  | none => .ok report
  | some .null => .ok report
  | some value => do
      let texts ← requireStrings role "evidence_basis" (some value) " when present"
      return report.set "evidence_basis" (cleanStrings texts)

/-- `artifacts` and `next_steps`. -/
def normalizeOptionalStrings (key : String) (report : Report) : Except String Report := do
  let texts ← requireStrings role key (some ((report.get? key).getD (.arr []))) ""
  return report.set key (cleanStrings texts)

/-- The fields of an object as a dictionary; of two equal keys the later wins. -/
def fieldsOf (fields : List (String × Json)) : Report := Dict.empty.update fields

def normalizeFinding (finding : Json) (index : Nat) : Except String Json :=
  match finding with
  | .obj fields =>
      let finding := fieldsOf fields
      match (finding.get? "title").bind asString with
      | none => reportError role
          ("has finding " ++ toString index ++ " without a non-empty 'title'")
      | some title =>
          if strip title = "" then reportError role
            ("has finding " ++ toString index ++ " without a non-empty 'title'")
          else match (finding.get? "severity").bind asString with
            | none => reportError role
                ("has finding " ++ toString index ++ " without string 'severity'")
            | some severity =>
                let normalized := upper (strip severity)
                if normalized ∉ reportSeverities then reportError role
                  ("has invalid severity '" ++ severity ++ "' at finding " ++ toString index ++
                    "; expected one of CRITICAL, HIGH, LOW, MEDIUM")
                else match asString ((finding.get? "details").getD (.str "")) with
                  | none => reportError role
                      ("has finding " ++ toString index ++ " with non-string 'details'")
                  | some details =>
                      .ok (.obj (((finding.set "title" (.str (strip title))).set "severity"
                        (.str normalized)).set "details" (.str (strip details))).items)
  | _ => reportError role ("has non-object finding at index " ++ toString index)

/-- A loop over a list whose body may raise, with `enumerate(…, start=1)`. -/
def mapEnumerated (f : Json → Nat → Except String Json) (items : List Json) :
    Except String (List Json) := (items.zipIdx 1).mapM fun p => f p.1 p.2

def normalizeFindings (report : Report) : Except String Report :=
  match report.get? "findings" with
  | some (.arr findings) => do
      let normalized ← mapEnumerated (normalizeFinding role) findings
      return report.set "findings" (.arr normalized)
  | _ => reportError role "must contain a list field 'findings'"

def normalizeCodeSuggestion (py : Interpreter) (suggestion : Json) (index : Nat) :
    Except String Json :=
  match suggestion with
  | .obj fields =>
      let suggestion := fieldsOf fields
      let entry := "has code_suggestion " ++ toString index ++ " "
      let field := fun key default => asString ((suggestion.get? key).getD (.str default))
      match field "path" "" with
      | none => reportError role (entry ++ "with non-string 'path'")
      | some path =>
          match (field "kind" "edit").filter (strip · ≠ "") with
          | none => reportError role (entry ++ "without non-empty string 'kind'")
          | some kind =>
              match field "summary" "" with
              | none => reportError role (entry ++ "with non-string 'summary'")
              | some summary =>
                  match (field "suggestion" "").filter (strip · ≠ "") with
                  | none => reportError role (entry ++ "without non-empty string 'suggestion'")
                  | some text =>
                      match field "snippet" "" with
                      | none => reportError role (entry ++ "with non-string 'snippet'")
                      | some snippet =>
                          let cleanSummary :=
                            if strip summary ≠ "" then strip summary
                            else String.ofList ((strip text).toList.take 120)
                          .ok (.obj [("path", .str (strip path)),
                            ("kind", .str (py.lower (strip kind))), ("summary", .str cleanSummary),
                            ("suggestion", .str (strip text)), ("snippet", .str (rstrip snippet))])
  | _ => reportError role ("has non-object code_suggestion at index " ++ toString index)

def normalizeCodeSuggestions (py : Interpreter) (report : Report) : Except String Report :=
  match (report.get? "code_suggestions").getD (.arr []) with
  | .arr suggestions => do
      let normalized ← mapEnumerated (normalizeCodeSuggestion role py) suggestions
      return report.set "code_suggestions" (.arr normalized)
  | _ => reportError role "must contain a list field 'code_suggestions'"

/-! ## The report -/

def normalizeReport (py : Interpreter) (model : String) (report : Report) : Except String Report := do
  let report ← normalizeSummary role report
  let report ← normalizeConfidence role report
  let report ← normalizeRequiredStrings role "assumptions" report
  let report ← normalizeRequiredStrings role "unknowns" report
  let report ← normalizeEvidenceBasis role report
  let report ← normalizeFindings role report
  let report ← normalizeOptionalStrings role "artifacts" report
  let report ← normalizeOptionalStrings role "next_steps" report
  let report ← normalizeCodeSuggestions role py report
  return (report.set "role" (.str role)).set "model" (.str model)

def normalizeJsonReport (py : Interpreter) (model output : String) : Except String Report :=
  match py.loads output with
  | none => .error ("Adapter output for role '" ++ role ++
      "' must be valid JSON when output.enforce_json=true")
  | some (.obj fields) => normalizeReport role py model (fieldsOf fields)
  | some _ => .error ("Adapter output for role '" ++ role ++
      "' must be a JSON object when output.enforce_json=true")

end Fields

/-! ## Blocking findings -/

def isHighSeverity (finding : Json) : Bool :=
  finding.get? "severity" matches some (.str "HIGH") | some (.str "CRITICAL")

def highSeverityFindings (report : Json) : List Json :=
  match report.get? "findings" with
  | some (.arr findings) => findings.filter isHighSeverity
  | _ => []

end TruePresenceESE.Ese
