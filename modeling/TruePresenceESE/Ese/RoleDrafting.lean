import TruePresenceESE.Lib.Dict
import TruePresenceESE.Lib.Json
import TruePresenceESE.Lib.NumberedNames
import TruePresenceESE.Lib.PyText
import TruePresenceESE.Lib.Selection

/-! # Drafting the roles of a framework config

Each role that is described becomes a draft with a key, a prompt and remarks on its
responsibility. The key is made of the letters and digits of the name, and a key that has
been given out before is numbered. The wizard keeps the drafted roles under their keys.
-/

namespace TruePresenceESE.Ese.RoleDrafting

open PyText NumberedNames

/-! ## Words -/

def overlapSimilarityThreshold : ℚ := 0.35

def genericStopwords : List String :=
  ["a", "an", "and", "are", "as", "at", "be", "by", "for", "from", "in", "into", "is", "it", "of",
    "on", "or", "the", "to", "with", "all", "any", "each", "their", "this", "that", "will",
    "should", "can", "must", "team", "member", "members", "ensemble", "workflow", "role", "roles",
    "project", "work", "handle", "handles", "handling", "help", "helps", "support", "supports",
    "own", "owns", "owner", "review", "reviews", "reviewing", "analyze", "analyzes", "analysis",
    "assess", "assesses", "assessment", "check", "checks", "checking", "build", "builds",
    "building", "create", "creates", "creating", "make", "makes", "making", "ensure", "ensures",
    "ensuring", "provide", "provides", "providing", "coordinate", "coordinates", "coordinating",
    "manage", "manages", "managing"]

def outputTerms : List String :=
  ["artifact", "artifacts", "brief", "checklist", "decision", "decisions", "deliverable",
    "deliverables", "diff", "document", "documents", "evidence", "finding", "findings", "plan",
    "plans", "register", "report", "reports", "scorecard", "spec", "specs", "summary", "test",
    "tests"]

def evidenceTerms : List String :=
  ["clause", "clauses", "code", "commit", "commits", "contract", "contracts", "data", "diff",
    "diffs", "document", "documents", "evidence", "log", "logs", "metric", "metrics", "repo",
    "repository", "requirements", "source", "sources", "test", "tests"]

def boundaryTerms : List String :=
  ["avoid", "boundary", "boundaries", "except", "exclude", "excluding", "focus", "limit",
    "limits", "not", "only", "unless", "without"]

def broadTerms : List String :=
  ["everything", "everyone", "entire", "general", "overall", "complete", "end", "full", "stack"]

/-- `[a-z0-9]` -/
def isTokenChar (c : Char) : Bool := ('a' ≤ c && c ≤ 'z') || ('0' ≤ c && c ≤ '9')

/-- `_TOKEN_RE.findall` -/
def tokens (text : String) : List String :=
  ((text.toList.splitOnP fun c => !isTokenChar c).filter (· ≠ [])).map String.ofList

/-- `_NON_ALNUM_RE.sub("_", …)`: a run of other characters is replaced at its first one. -/
def replaceRuns (inRun : Bool) : List Char → List Char
  | [] => []
  | c :: rest =>
      if isTokenChar c then c :: replaceRuns false rest
      else if inRun then replaceRuns true rest
      else '_' :: replaceRuns true rest

def normalizeRoleKey (name : String) : String :=
  let cleaned := Text.strip (· = '_') (replaceRuns false (lower (strip name)).toList)
  if cleaned = [] then "role" else String.ofList cleaned

/-- The specific words of some texts, each once. -/
def extractKeywords (parts : List String) : List String :=
  (parts.flatMap fun part => tokens (lower part)).foldl
    (fun keywords token =>
      if token.length < 4 ∨ token ∈ genericStopwords ∨ token ∈ keywords then keywords
      else keywords ++ [token]) []

/-! ## Drafts -/

structure FrameworkRoleInput where
  name : String
  responsibility : String

structure FrameworkRoleDraft where
  name : String
  key : String
  responsibility : String
  prompt : String
  suggestions : List String
  warnings : List String
  keywords : List String

structure FrameworkRoleDraftReview where
  drafts : List FrameworkRoleDraft
  overlapWarnings : List String

def buildFrameworkRolePrompt (roleName responsibility scope : String) : String :=
  String.intercalate " "
    (["You are the " ++ strip roleName ++ " role in an ensemble workflow.",
      "Primary responsibility: " ++ strip responsibility] ++
    (if strip scope ≠ "" then ["Current scope: " ++ strip scope] else []) ++
    ["Stay specific to this responsibility and avoid absorbing peer responsibilities unless " ++
        "you are escalating a concrete dependency or conflict.",
      "Return a concise summary, evidence-backed findings, the artifacts you contribute, and " ++
        "actionable next_steps.",
      "If required inputs are missing or your boundary is unclear, say so explicitly instead " ++
        "of guessing."])

/-- `f"{key_base}_{n}"` -/
def numberedKey (keyBase : String) (n : ℕ) : String := keyBase ++ "_" ++ toString n

/-- The draft of a role whose key base has been taken `collisionCount` times before. -/
def draftRole (scope : String) (role : FrameworkRoleInput) (collisionCount : ℕ) :
    FrameworkRoleDraft :=
  let rawName := strip role.name
  let rawResponsibility := strip role.responsibility
  let keyBase := normalizeRoleKey rawName
  let key := if collisionCount = 0 then keyBase else numberedKey keyBase (collisionCount + 1)
  let words := tokens (lower rawResponsibility)
  { name := rawName
    key := key
    responsibility := rawResponsibility
    prompt := buildFrameworkRolePrompt rawName rawResponsibility scope
    suggestions :=
      (if words.any (outputTerms.contains ·) then []
        else ["Name a concrete artifact, decision, or handoff this role owns."]) ++
      (if words.any (evidenceTerms.contains ·) then []
        else ["Specify what evidence, inputs, or source material this role should rely on."]) ++
      (if words.any (boundaryTerms.contains ·) then []
        else ["Add a boundary such as what this role should avoid or leave to peers."])
    warnings :=
      (if collisionCount = 0 then []
        else ["Role name '" ++ rawName ++ "' normalizes to duplicate key '" ++ keyBase ++
          "'. It was renamed to '" ++ key ++ "' in config."]) ++
      (if words.length < 8 then
        ["Responsibility is short. Add more detail so the role has a distinct lane."] else []) ++
      (if broadTerms.any (words.contains ·) then
        ["Responsibility sounds broad. Broad ownership weakens ensemble independence."] else [])
    keywords := extractKeywords [rawName, rawResponsibility] }

/-- The loop over the roles, with the number of times that each base has been taken. -/
def draftRoles (scope : String) (usedKeys : Dict String ℕ) :
    List FrameworkRoleInput → List FrameworkRoleDraft
  | [] => []
  | role :: rest =>
      let keyBase := normalizeRoleKey (strip role.name)
      let collisionCount := (usedKeys.get? keyBase).getD 0
      draftRole scope role collisionCount ::
        draftRoles scope (usedKeys.set keyBase (collisionCount + 1)) rest

def overlapWarning (left right : FrameworkRoleDraft) : Option String :=
  let shared := left.keywords.filter (· ∈ right.keywords)
  let union := left.keywords.length + right.keywords.length - shared.length
  if shared.length < 2 ∨ (shared.length / union : ℚ) < overlapSimilarityThreshold then none
  else some ("'" ++ left.name ++ "' and '" ++ right.name ++ "' appear to overlap on " ++
    String.intercalate ", " (shared.mergeSort (· ≤ ·)) ++
    ". Split their ownership more cleanly or state the handoff boundary explicitly.")

def detectOverlapWarnings : List FrameworkRoleDraft → List String
  | [] => []
  | left :: rest => rest.filterMap (overlapWarning left) ++ detectOverlapWarnings rest

def draftFrameworkRoles (scope : String) (roles : List FrameworkRoleInput) :
    FrameworkRoleDraftReview :=
  let drafts := draftRoles scope Dict.empty roles
  { drafts := drafts, overlapWarnings := detectOverlapWarnings drafts }

/-- What the wizard makes of the drafts: the role sections under their keys and the order. -/
def assembleRoles (drafts : List FrameworkRoleDraft) : Dict String Json × List String :=
  (drafts.foldl (fun rolesCfg draft => rolesCfg.set draft.key
      (.obj [("temperature", .num 0.2), ("prompt", .str draft.prompt)])) Dict.empty,
    drafts.map FrameworkRoleDraft.key)

/-! ## Keys -/

def keyBase (role : FrameworkRoleInput) : String := normalizeRoleKey (strip role.name)

theorem underscore_split {front front' back back' : List Char} (h : '_' ∉ back) (h' : '_' ∉ back')
    (heq : front ++ '_' :: back = front' ++ '_' :: back') : front = front' ∧ back = back' := by
  have hback : ∀ front back : List Char, '_' ∉ back →
      (front ++ '_' :: back).reverse.takeWhile (· ≠ '_') = back.reverse := by
    intro front back hno
    have hall : ∀ c ∈ back.reverse, decide (c ≠ '_') = true := by
      intro c hc
      exact decide_eq_true fun h => hno (h ▸ List.mem_reverse.1 hc)
    rw [List.reverse_append, List.reverse_cons, List.append_assoc,
      List.takeWhile_append_of_pos hall]
    simp
  have hsame : back = back' := by
    rw [← List.reverse_inj, ← hback front back h, heq, hback front' back' h']
  subst hsame
  exact ⟨List.append_cancel_right heq, rfl⟩

/-- A numbered key says which base it is made of and with which number. -/
theorem numberedKey_inj {base base' : String} {n n' : ℕ}
    (h : numberedKey base n = numberedKey base' n') : base = base' ∧ n = n' := by
  have hlist (base : String) (n : ℕ) :
      (numberedKey base n).toList = base.toList ++ '_' :: Nat.toDigits 10 n := by
    simp [numberedKey, Nat.toList_repr]
  have hchars := congrArg String.toList h
  rw [hlist, hlist] at hchars
  obtain ⟨hbase, hdigits⟩ :=
    underscore_split Nat.underscore_not_in_toDigits Nat.underscore_not_in_toDigits hchars
  have hnumber : Nat.ofDigitChars 10 (Nat.toDigits 10 n) 0 =
      Nat.ofDigitChars 10 (Nat.toDigits 10 n') 0 := by
    rw [hdigits]
  rw [Nat.ofDigitChars_ten_toDigits, Nat.ofDigitChars_ten_toDigits] at hnumber
  exact ⟨String.toList_inj.1 hbase, hnumber⟩

/-- The keys number the bases by their ranks. -/
theorem draftRoles_keys (scope : String) {usedKeys : Dict String ℕ} {seen : List String}
    (hused : ∀ base, (usedKeys.get? base).getD 0 = seen.count base)
    (roles : List FrameworkRoleInput) :
    (draftRoles scope usedKeys roles).map FrameworkRoleDraft.key =
      (ranks seen (roles.map keyBase)).map (named numberedKey) := by
  induction roles generalizing usedKeys seen with
  | nil => rfl
  | cons role rest ih =>
      have hnext : ∀ base, ((usedKeys.set (keyBase role) (seen.count (keyBase role) + 1)).get?
          base).getD 0 = (keyBase role :: seen).count base := by
        intro base
        rw [Dict.get?_set, List.count_cons]
        by_cases hbase : keyBase role = base
        · simp [hbase]
        · simp [hbase, hused]
      have hkey : (draftRole scope role (seen.count (keyBase role))).key =
          named numberedKey (keyBase role, seen.count (keyBase role) + 1) := by
        rw [named]
        simp only [Nat.add_eq_right]
        rfl
      rw [draftRoles, ← keyBase, hused, List.map_cons, List.map_cons, ranks, List.map_cons, hkey, ih hnext]

theorem assembleRoles_eq (drafts : List FrameworkRoleDraft) :
    (assembleRoles drafts).1 = Dict.empty.update (drafts.map fun draft =>
      (draft.key, .obj [("temperature", .num 0.2), ("prompt", .str draft.prompt)])) := by
  rw [assembleRoles, Dict.update, List.foldl_map]

/-- The drafts have different keys, and the wizard's config has a role for each of them,
exactly if no numbered key that is given out is the key of another role's name. -/
theorem distinct_keys_iff (scope : String) (roles : List FrameworkRoleInput) :
    (((draftFrameworkRoles scope roles).drafts.map FrameworkRoleDraft.key).Nodup ∧
      (assembleRoles (draftFrameworkRoles scope roles).drafts).1.size = roles.length) ↔
    ∀ base n, 2 ≤ n → n ≤ (roles.map keyBase).count base →
      numberedKey base n ∉ roles.map keyBase := by
  have hkeys : (draftFrameworkRoles scope roles).drafts.map FrameworkRoleDraft.key =
      (ranks [] (roles.map keyBase)).map (named numberedKey) := draftRoles_keys scope (by simp) roles
  have hlength : (draftFrameworkRoles scope roles).drafts.length = roles.length := by
    rw [← List.length_map FrameworkRoleDraft.key, hkeys, List.length_map, length_ranks,
      List.length_map]
  rw [← nodup_named_iff numberedKey_inj, ← hkeys, assembleRoles_eq, ← hlength,
    ← List.length_map fun draft : FrameworkRoleDraft => (draft.key,
      Json.obj [("temperature", .num 0.2), ("prompt", .str draft.prompt)]),
    Dict.size_update_eq_iff, List.map_map]
  exact and_self_iff

def numberedReviewers : List FrameworkRoleInput :=
  [⟨"Reviewer 2", "Second reading"⟩, ⟨"Reviewer", "First reading"⟩, ⟨"Reviewer", "Final reading"⟩]

/-- The key that the second of two reviewers is given is that of the role before them. -/
theorem numbered_keys_collide :
    ¬ ((draftFrameworkRoles "" numberedReviewers).drafts.map FrameworkRoleDraft.key).Nodup ∧
      (assembleRoles (draftFrameworkRoles "" numberedReviewers).drafts).1.size = 2 := by
  constructor <;> decide +kernel

end TruePresenceESE.Ese.RoleDrafting
