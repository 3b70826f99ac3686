import TruePresenceESE.Lib.Dict
import TruePresenceESE.Lib.PyText

/-! # What a role is shown

The prompt and the context of a role are both made from the upstream sections
its kind and the review isolation let it see. The context finds the roles again
by parsing the section titles.
-/

namespace TruePresenceESE.Ese

open PyText

/-! ## Tables -/

def promptTruncationMarker : String := "[...truncated for size...]"

def scopeLimit : Nat := 4000
def additionalContextLimit : Nat := 6000
def operatorFeedbackLimit : Nat := 3000
def architectOutputLimit : Nat := 6000
def implementerOutputLimit : Nat := 8000
def upstreamArtifactLimit : Nat := 6000

def specialistRoleInstructions : List (String × String) :=
  [("adversarial_reviewer",
    "Act as an adversarial code reviewer. Hunt for correctness bugs, edge cases, " ++
      "regressions, unsafe assumptions, and missing validation."),
    ("security_auditor",
      "Perform a security review. Focus on trust boundaries, authz/authn gaps, secrets " ++
        "handling, injection risks, data exposure, and abuse paths."),
    ("test_generator",
      "Design a pragmatic automated test plan. Focus on missing unit, integration, and " ++
        "end-to-end coverage, including the highest-risk failure modes."),
    ("performance_analyst",
      "Review performance and scalability. Focus on hot paths, latency risks, query or " ++
        "algorithmic complexity, memory pressure, and caching opportunities."),
    ("documentation_writer",
      "Produce documentation deliverables. Focus on README updates, API usage notes, " ++
        "migration guidance, operator runbooks, and any documentation gaps that block adoption."),
    ("devops_sre",
      "Review operational readiness. Focus on CI/CD safety, deployment sequencing, rollback " ++
        "plans, observability, alerting, and day-2 operability."),
    ("database_engineer",
      "Review data-layer design. Focus on schema correctness, migrations, indexes, query " ++
        "plans, transaction safety, consistency, and rollback strategy."),
    ("release_manager",
      "Assess release readiness. Focus on blockers, rollout sequencing, rollback readiness, " ++
        "dependency coordination, and launch sign-off criteria.")]

def isSpecialist (role : String) : Bool := specialistRoleInstructions.any (·.1 == role)

inductive ReviewIsolation where
  | framed
  | implementationOnly
  | scopeOnly
  | scopeAndImplementation
  deriving DecidableEq, Repr

/-! ## Sections -/

def truncatePromptBlock (text : String) (limit : Nat) : String :=
  let cleaned := strip text
  if cleaned.length ≤ limit then cleaned
  else rstrip (String.ofList (cleaned.toList.take (limit - promptTruncationMarker.length - 1)))
    ++ "\n" ++ promptTruncationMarker

def promptSection (title text : String) (limit : Nat) : String :=
  let cleaned := strip text
  if cleaned = "" then "" else title ++ ":\n" ++ truncatePromptBlock cleaned limit

structure UpstreamSection where
  title : String
  text : String
  limit : Nat
  deriving DecidableEq, Repr

def UpstreamSection.render (s : UpstreamSection) : String := promptSection s.title s.text s.limit

def upstreamTitle (name : String) : String := "Upstream Artifact (" ++ name ++ ")"

/-- `outputs.get(role, "").strip()` -/
def outputOf (outputs : Dict String String) (role : String) : String :=
  strip ((outputs.get? role).getD "")

def architectSection (outputs : Dict String String) : UpstreamSection :=
  ⟨"Architect Plan", outputOf outputs "architect", architectOutputLimit⟩

def implementerSection (outputs : Dict String String) : UpstreamSection :=
  ⟨"Implementer Output", outputOf outputs "implementer", implementerOutputLimit⟩

def upstreamArtifactSection (p : String × String) : UpstreamSection :=
  ⟨upstreamTitle p.1, strip p.2, upstreamArtifactLimit⟩

def roleUpstreamSections (role : String) (outputs : Dict String String)
    (reviewIsolation : ReviewIsolation) : List UpstreamSection :=
  let architectOutput := outputOf outputs "architect"
  let implementerOutput := outputOf outputs "implementer"
  if role = "architect" then []
  else if role = "implementer" then
    if architectOutput = "" then [] else [architectSection outputs]
  else if reviewIsolation = .scopeOnly then []
  else
    let framed :=
      if reviewIsolation = .framed ∧ architectOutput ≠ "" then [architectSection outputs] else []
    let sections :=
      if implementerOutput ≠ "" then framed ++ [implementerSection outputs] else framed
    if isSpecialist role then sections
    else
      let fallbackSections :=
        if reviewIsolation = .framed ∧ architectOutput = "" then
          (outputs.items.filter fun p => strip p.2 ≠ "").map upstreamArtifactSection
        else
          (outputs.items.filter fun p =>
            strip p.2 ≠ "" ∧ p.1 ≠ "architect" ∧ p.1 ≠ "implementer").map upstreamArtifactSection
      sections ++ fallbackSections

/-! ## The prompt -/

def jsonReportContract : String :=
  String.intercalate "\n"
    ["Return valid JSON only, with no Markdown fences or prose outside the JSON object.",
      "Use this schema exactly:",
      "\x7b",
      "  \"summary\": \"string\",",
      "  \"confidence\": \"LOW | MEDIUM | HIGH\",",
      "  \"assumptions\": [\"string\"],",
      "  \"unknowns\": [\"string\"],",
      "  \"evidence_basis\": [\"string\"],",
      "  \"findings\": [",
      "    \x7b",
      "      \"severity\": \"LOW | MEDIUM | HIGH | CRITICAL\",",
      "      \"title\": \"string\",",
      "      \"details\": \"string\"",
      "    \x7d",
      "  ],",
      "  \"artifacts\": [\"string\"],",
      "  \"next_steps\": [\"string\"],",
      "  \"code_suggestions\": [",
      "    \x7b",
      "      \"path\": \"string\",",
      "      \"kind\": \"edit | patch | test | refactor | config\",",
      "      \"summary\": \"string\",",
      "      \"suggestion\": \"string\",",
      "      \"snippet\": \"string\"",
      "    \x7d",
      "  ]",
      "\x7d",
      "confidence is required and should reflect execution certainty, not severity.",
      "assumptions and unknowns are required string arrays.",
      "evidence_basis is optional; include it when you relied on concrete artifacts, tests, logs, or docs.",
      "Use empty arrays when there are no findings, artifacts, next steps, code suggestions, assumptions, or unknowns.",
      "Use code_suggestions for concrete programmer-facing edits, ideally naming the target file and",
      "including a short patch-style snippet when you can."]

def artifactGuidance : String :=
  "\n\nUse `findings` only for actionable issues or gaps. " ++
    "Use `artifacts` for concrete deliverables such as docs, runbooks, test files, " ++
    "rollout checklists, or migration notes. " ++
    "Use `code_suggestions` for concrete file-targeted edits, test additions, or short patch-like snippets."

/-- Blank lines go at both ends only. -/
def compactLines (text : String) : String :=
  let lines := splitLines text.toList
  let blank := fun line : List Char => Text.strip isSpace line == []
  String.ofList (List.intercalate ['\n'] ((lines.dropWhile blank).rdropWhile blank))

def roleIntro (role rolePromptText : String) : String :=
  let customPrompt := strip rolePromptText
  if customPrompt ≠ "" then customPrompt
  else if role = "architect" then
    "You are the Architect. Produce a concise implementation plan for this scope."
  else if role = "implementer" then
    "You are the Implementer. Build from the Architect plan and scope."
  else match specialistRoleInstructions.lookup role with
    | some instructions => "You are the " ++ role ++ ". " ++ instructions
    | none =>
        "You are the " ++ role ++ ". Review the implementation against scope and report findings."

/-- What a run hands to every prompt besides the outputs. -/
structure PromptInputs where
  scope : String
  additionalContext : String
  operatorFeedback : String
  enforceJson : Bool
  reviewIsolation : ReviewIsolation

/-- The texts a prompt is assembled from, in order. -/
def promptSections (inputs : PromptInputs) (role rolePromptText : String)
    (outputs : Dict String String) : List String :=
  [strip (roleIntro role rolePromptText), promptSection "Scope" inputs.scope scopeLimit,
      promptSection "Additional Run Context" inputs.additionalContext additionalContextLimit]
    ++ (roleUpstreamSections role outputs inputs.reviewIsolation).map UpstreamSection.render
    ++ [promptSection "Operator Feedback" inputs.operatorFeedback operatorFeedbackLimit]

def rolePrompt (inputs : PromptInputs) (role rolePromptText : String)
    (outputs : Dict String String) : String :=
  let assembled := String.intercalate "\n\n"
    ((promptSections inputs role rolePromptText outputs).filter (· ≠ ""))
  let guidance := if inputs.enforceJson then artifactGuidance else ""
  let jsonContract := if inputs.enforceJson then "\n\n" ++ jsonReportContract else ""
  compactLines (strip (assembled ++ guidance ++ jsonContract))

/-! ## The context -/

/-- `title[len("Upstream Artifact ("):-1]` where the title has that shape. -/
def parseUpstreamTitle (title : String) : Option String :=
  let opening := "Upstream Artifact (".toList
  let cs := title.toList
  if opening.isPrefixOf cs && cs.getLast? == some ')' then
    some (String.ofList (cs.drop opening.length).dropLast)
  else none

def titleRole (title : String) : Option String :=
  if title = "Architect Plan" then some "architect"
  else if title = "Implementer Output" then some "implementer"
  else parseUpstreamTitle title

def roleContext (role : String) (outputs : Dict String String)
    (reviewIsolation : ReviewIsolation) : Dict String String :=
  (roleUpstreamSections role outputs reviewIsolation).foldl
    (fun context s => match titleRole s.title with
      | some name => context.set name s.text
      | none => context)
    Dict.empty

end TruePresenceESE.Ese
