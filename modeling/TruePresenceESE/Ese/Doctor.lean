import TruePresenceESE.Ese.PolicyChecks
import TruePresenceESE.Ese.RunConfig

/-! # The doctor

The doctor looks at a config before a run: at the roles it needs, at the models that have to
differ in ensemble mode, and at what the installed policy checks say.
-/

namespace TruePresenceESE.Ese

open PyText PyValue

/-! ## Role names -/

inductive DoctorError where
  /-- `ConfigValidationError`, or what a value of the wrong shape raises. -/
  | raised (message : String)
  | extension (error : ExtensionError)
  deriving DecidableEq

def addRole (roles : List String) (role : Json) : List String :=
  match role with
  | .str s => if strip s = "" ∨ strip s ∈ roles then roles else roles ++ [strip s]
  | _ => roles

/-- `cfg.get("roles") or {}`, under whose keys the roles are configured. -/
def roleKeys (cfg : Config) : Except DoctorError (List Json) :=
  match cfg.get "roles" with
  | .obj fields => .ok ((JsonDict.ofFields fields).keys.map .str)
  | value => if truthy value then .error (.raised "AttributeError") else .ok []

/-- `cfg.get("constraints") or {}`, if it is a mapping. -/
def constraintsSection (cfg : Config) : Option JsonDict :=
  match cfg.get "constraints" with
  | .obj fields => some (JsonDict.ofFields fields)
  | value => if truthy value then none else some Dict.empty

/-- `constraints.get(key) or []` -/
def constraintList (constraints : JsonDict) (key : String) : Json :=
  JsonDict.orElse (constraints.get key) (.arr [])

def pairMembers : Json → List Json
  | .arr [left, right] => [left, right]
  | _ => []

/-- The entries of two names under `key`. -/
def pairedNames (constraints : JsonDict) (key : String) : Except DoctorError (List Json) :=
  match iterate (constraintList constraints key) with
  | none => .error (.raised "TypeError")
  | some pairs => .ok (pairs.flatMap pairMembers)

/-- The names that the pair lists of the constraints add. -/
def constraintNames (cfg : Config) : Except DoctorError (List Json) :=
  match constraintsSection cfg with
  | none => .ok []
  | some constraints => do
      let models ← pairedNames constraints "disallow_same_model_pairs"
      let providers ← pairedNames constraints "disallow_same_provider_pairs"
      return models ++ providers

def collectRoleNames (cfg : Config) : Except DoctorError (List String) := do
  let keys ← roleKeys cfg
  let named ← constraintNames cfg
  return (keys ++ named).foldl addRole []

/-! ## Models of roles -/

/-- `resolve_role_model`, which reads the provider section for a role. -/
def doctorRoleModel (py : Interpreter) (cfg : Config) (role : String) :
    Except DoctorError String := do
  let _ ← (configSection cfg "provider").mapError fun _ => DoctorError.raised "AttributeError"
  (resolveRoleModel py cfg role).mapError .raised

/-- `text.partition(":")`, without the separator. -/
def partitionColon (text : String) : String × String :=
  (String.ofList (text.toList.takeWhile (· ≠ ':')),
    String.ofList (text.toList.dropWhile (· ≠ ':')).tail)

def roleProvider (py : Interpreter) (providerModel : String) : String :=
  orDefault (py.lower (strip (partitionColon providerModel).1)) "unknown"

def roleIdentity (py : Interpreter) (providerModel : String) : String :=
  let model := py.lower (strip (partitionColon providerModel).2)
  if model = "" then roleProvider py providerModel
  else roleProvider py providerModel ++ ":" ++ model

/-! ## Constraints -/

def orderedPair (left right : String) : String × String :=
  if left < right then (left, right) else (right, left)

def normalizeRolePair (label : String) : Json → Except String (String × String)
  | .arr [.str left, .str right] =>
      if strip left = "" ∨ strip right = "" then
        .error (label ++ " entries must be non-empty strings")
      else .ok (orderedPair (strip left) (strip right))
  | .arr [_, _] => .error (label ++ " entries must be strings")
  | _ => .error (label ++ " entries must contain exactly two role names")

/-- The distinct pairs under `key`, and what is wrong with the others. -/
def constraintPairs (constraints : JsonDict) (key : String) :
    List (String × String) × List String :=
  match constraintList constraints key with
  | .arr pairs =>
      let normalized := pairs.map (normalizeRolePair ("constraints." ++ key))
      ((normalized.filterMap Except.toOption).foldl (fun kept pair =>
          if pair ∈ kept then kept else kept ++ [pair]) [],
        normalized.filterMap fun result => match result with
          | .error message => some message
          | .ok _ => none)
  | value =>
      if truthy value then
        ([], ["constraints." ++ key ++ " must be a list of role name pairs"])
      else ([], [])

/-- What is wrong with an entry of a list of roles. -/
def roleEntryViolation (key : String) : Json → Option String
  | .str s =>
      if strip s = "" then some ("constraints." ++ key ++ " entries must be non-empty strings")
      else none
  | _ => some ("constraints." ++ key ++ " entries must be strings")

def constraintRoles (constraints : JsonDict) (key : String) : List String × List String :=
  match constraintList constraints key with
  | .arr items => (items.foldl addRole [], items.filterMap (roleEntryViolation key))
  | value =>
      if truthy value then ([], ["constraints." ++ key ++ " must be a list of role names"])
      else ([], [])

def baselineDisallowSameModelPairs : List (String × String) :=
  [("architect", "implementer"), ("implementer", "adversarial_reviewer"),
    ("implementer", "security_auditor"), ("adversarial_reviewer", "security_auditor"),
    ("implementer", "release_manager")]

def baselinePairs : List (String × String) :=
  baselineDisallowSameModelPairs.map fun pair => orderedPair pair.1 pair.2

/-- The baseline pairs, and those configured that are no baseline pairs. -/
def mergedModelPairs (constraints : JsonDict) : List (String × String) :=
  let configured := (constraintPairs constraints "disallow_same_model_pairs").1
  baselinePairs ++ configured.filter (· ∉ baselinePairs)

/-- A pair both of whose roles are known and have the same value. -/
def sharedViolation (what : String) (values models : List (String × String))
    (pair : String × String) : Option String :=
  match values.lookup pair.1, values.lookup pair.2 with
  | some left, some right =>
      if left = right then some (pair.1 ++ " and " ++ pair.2 ++ " share " ++ what ++ " " ++
        (models.lookup pair.1).getD "")
      else none
  | _, _ => none

def countsAsSpecialist (role : String) : Bool := role ∉ ["architect", "implementer"]

/-! ## Violations -/

structure DoctorHost extends ExtensionHost where
  parseInt : String → Option ℤ

/-- The roles that the doctor knows, with the model of each. -/
structure RoleTable where
  names : List String
  models : List (String × String)

def RoleTable.values (table : RoleTable) (f : String → String) : List (String × String) :=
  table.models.map fun entry => (entry.1, f entry.2)

section
variable (host : DoctorHost) (constraints : JsonDict) (table : RoleTable)

def requiredViolations : List String :=
  (constraintRoles constraints "require_roles").2 ++
    (constraintRoles constraints "require_json_for_roles").2 ++
    (constraintRoles constraints "require_roles").1.filterMap fun role =>
      if role ∈ table.names then none
      else some ("Missing required role '" ++ role ++ "' from constraints.require_roles")

def jsonViolations (cfg : Config) : List String :=
  let configured :=
    (constraintRoles constraints "require_json_for_roles").1.filter (· ∈ table.names)
  if configured ≠ [] ∧ enforceJson cfg = false then
    ["output.enforce_json must be true when constraints.require_json_for_roles " ++
      "includes configured roles (" ++ String.intercalate ", " configured ++ ")"]
  else []

def specialistViolations : List String :=
  match constraints.get "minimum_specialist_roles" with
  | .null => []
  | value =>
      match toInt host.parseInt value with
      | none => ["constraints.minimum_specialist_roles must be an integer"]
      | some least =>
          let found := (table.names.filter countsAsSpecialist).length
          (if least < 0 then ["constraints.minimum_specialist_roles must be >= 0"] else []) ++
            if (found : ℤ) < max least 0 then
              ["Configured specialist roles are below constraints.minimum_specialist_roles=" ++
                toString (max least 0) ++ " (found " ++ toString found ++ ")"]
            else []

def distinctModels : Nat :=
  (((table.values (roleIdentity host.py)).map Prod.snd).filter (· ≠ "")).dedup.length

def distinctViolations : List String :=
  match constraints.get "minimum_distinct_models" with
  | .null => []
  | value =>
      match toInt host.parseInt value with
      | none => ["constraints.minimum_distinct_models must be an integer"]
      | some least =>
          if least ≤ 0 then ["constraints.minimum_distinct_models must be > 0"]
          else if (distinctModels host table : ℤ) < least then
            ["Ensemble mode requires at least " ++ toString least ++
              " distinct role models, found " ++ toString (distinctModels host table)]
          else []

def modelPairViolations : List String :=
  (mergedModelPairs constraints).filterMap
    (sharedViolation "model" (table.values (roleIdentity host.py)) table.models)

def providerPairViolations : List String :=
  let providers := table.values (roleProvider host.py)
  (constraintPairs constraints "disallow_same_provider_pairs").1.filterMap
    (sharedViolation "provider" providers providers)

def ensembleViolations : List String :=
  (constraintPairs constraints "disallow_same_model_pairs").2 ++
    (constraintPairs constraints "disallow_same_provider_pairs").2 ++
    modelPairViolations host constraints table ++ providerPairViolations host constraints table ++
    distinctViolations host constraints table

/-- Everything but the policy checks. -/
def configViolations (cfg : Config) (mode : String) : List String :=
  requiredViolations constraints table ++ jsonViolations constraints table cfg ++
    specialistViolations host constraints table ++
    if mode = "ensemble" then ensembleViolations host constraints table else []

end

/-! ## Evaluation -/

/-- `str(cfg.get("mode") or "ensemble").strip().lower()` -/
def doctorMode (py : Interpreter) (cfg : Config) : String :=
  py.lower (strip (str py (JsonDict.orElse (cfg.get "mode") (.str "ensemble"))))

structure Diagnosis where
  ok : Bool
  notes : List String
  roleModels : List (String × String)
  /-- The policy checks, once the doctor comes to them. -/
  policies : Option PolicyRun

def readRoles (py : Interpreter) (cfg : Config) (names : List String) :
    Except DoctorError RoleTable := do
  let models ← names.mapM fun role => (doctorRoleModel py cfg role).map (role, ·)
  return ⟨names, models⟩

def policyContext (host : DoctorHost) (cfg : Config) (scope : String) (table : RoleTable) :
    PolicyContext where
  cfg := cfg
  mode := doctorMode host.py cfg
  scope := scope
  roleNames := table.names
  roleModels := table.models
  roleIdentities := table.values (roleIdentity host.py)
  roleProviders := table.values (roleProvider host.py)

def soloNote : String :=
  "SOLO MODE: degraded independence; lower assurance and higher self-confirmation risk."

/-- The verdict on a config whose constraints are a mapping. -/
def diagnose (mode : String) (table : RoleTable) (violations : List String) (policies : PolicyRun) :
    Diagnosis :=
  let render := fun severity =>
    (policies.findings.filter (·.severity = severity)).map renderPolicyMessage
  if violations ++ render .error ≠ [] then
    ⟨false, violations ++ render .error, table.models, some policies⟩
  else
    ⟨true, (if mode = "solo" then [soloNote] else []) ++ render .warning, table.models,
      some policies⟩

def evaluateDoctor (host : DoctorHost) (entries : List (EntryPoint PolicyCheck)) (cfg : Config) :
    Except DoctorError Diagnosis := do
  let names ← collectRoleNames cfg
  let scope ← (resolveScopeText cfg).mapError fun _ => DoctorError.raised "AttributeError"
  let table ← readRoles host.py cfg names
  let scopeViolations := if scope = "" then
    ["No project scope supplied. Set input.scope in the config or pass --scope."] else []
  match constraintsSection cfg with
  | none => return ⟨false, scopeViolations ++ ["constraints must be a mapping when provided"],
      table.models, none⟩
  | some constraints => do
      let mode := doctorMode host.py cfg
      let policies ← (evaluatePolicyChecks host.toExtensionHost entries
        (policyContext host cfg scope table)).mapError .extension
      return diagnose mode table
        (scopeViolations ++ configViolations host constraints table cfg mode) policies

end TruePresenceESE.Ese
