import TruePresenceESE.Lib.Dict
import TruePresenceESE.Ese.Files

/-! # Operator feedback

Feedback is kept next to the runs, or in the artifacts directory as long as it
is no run directory yet, and condensed to guidance for every prompt.
-/

namespace TruePresenceESE.Ese

open PosixPath PyValue

/-! ## The store -/

def stateName : String := "pipeline_state.json"

def feedbackStoreName : String := ".ese_feedback.json"

/-- The file `name` in the directory a path leads to. -/
def fileIn (workingDir : Location) (directory name : String) : Location :=
  resolve workingDir directory ++ [name.toList]

def feedbackStoreLocation (fs : FileSystem) (workingDir : Location) (artifactsDir : String) :
    Location :=
  if (fs (fileIn workingDir artifactsDir stateName)).isSome then
    parent workingDir artifactsDir ++ [feedbackStoreName.toList]
  else fileIn workingDir artifactsDir feedbackStoreName

def isObject : Json → Bool
  | .obj _ => true
  | _ => false

/-- The items of the store; an unreadable store has none. -/
def loadFeedbackStore (py : Interpreter) (store : Option FileContent) : List Json :=
  match (store.bind (FileContent.load py)).bind (·.get? "items") with
  | some (.arr items) => items.filter isObject
  | _ => []

/-! ## Guidance -/

structure FeedbackCounts where
  useful : Nat
  noisy : Nat
  wrong : Nat

def FeedbackCounts.add (counts : FeedbackCounts) (feedback : String) : FeedbackCounts :=
  if feedback = "useful" then { counts with useful := counts.useful + 1 }
  else if feedback = "noisy" then { counts with noisy := counts.noisy + 1 }
  else { counts with wrong := counts.wrong + 1 }

def countFeedback (py : Interpreter) (byRole : Dict String FeedbackCounts) (item : Json) :
    Dict String FeedbackCounts :=
  let role := textField py item "role"
  let feedback := py.lower (textField py item "feedback")
  if role = "" ∨ feedback ∉ ["useful", "noisy", "wrong"] then byRole
  else byRole.set role (((byRole.get? role).getD ⟨0, 0, 0⟩).add feedback)

def roleGuidance (role : String) (counts : FeedbackCounts) : Option String :=
  if max (counts.noisy + counts.wrong) 2 ≤ counts.useful then
    some (role ++
      ": prior operators valued concrete, actionable output with clear remediation.")
  else if max counts.useful 2 ≤ counts.noisy + counts.wrong then
    some (role ++ ": avoid duplicate or speculative findings and prefer fewer, " ++
      "higher-signal issues without suppressing unique dissent.")
  else none

def feedbackGuidance (py : Interpreter) (items : List Json) : List String :=
  let byRole := items.foldl (countFeedback py) Dict.empty
  (byRole.items.mergeSort fun p q => p.1 ≤ q.1).filterMap fun p => roleGuidance p.1 p.2

def feedbackPromptGuidance (py : Interpreter) (fs : FileSystem) (workingDir : Location)
    (artifactsDir : String) : String :=
  let store := fs (feedbackStoreLocation fs workingDir artifactsDir)
  let guidance := feedbackGuidance py (loadFeedbackStore py store)
  if guidance.isEmpty then ""
  else String.intercalate "\n"
    ("Operator feedback from prior runs:" :: guidance.map ("- " ++ ·))

end TruePresenceESE.Ese
