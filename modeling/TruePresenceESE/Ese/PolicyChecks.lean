import TruePresenceESE.Ese.Registries

/-! # Policy checks

Installed packages check a config and report messages. A package that does not load and a
check that raises are reported as errors of their own.
-/

namespace TruePresenceESE.Ese

open PyText PyValue

def policyKind : ExtensionKind where
  label := "policy"
  extensionName := "policy check"
  extras := []
  notCallable := "Policy check definitions must provide a callable 'check'"
  notADefinition := "Policy providers must return PolicyCheckDefinition, a mapping, or a callable"

/-! ## Messages -/

inductive PolicySeverity where
  | error
  | warning
  deriving DecidableEq

structure PolicyMessage where
  policyKey : CleanText
  severity : PolicySeverity
  message : String
  hint : Option String

/-- The fields of a message, as the check gives them. -/
structure RawPolicyMessage where
  policyKey : Json
  severity : Json
  message : Json
  hint : Json

inductive PolicyItem where
  | message (raw : RawPolicyMessage)
  | mapping (fields : JsonDict)
  | text (s : String)
  | other

/-- What a check returns. An iterable yields its items and may raise after them. -/
inductive PolicyValue where
  | nothing
  | item (item : PolicyItem)
  | items (yielded : List PolicyItem) (finish : Outcome Unit)

def normalizePolicySeverity (py : Interpreter) (value : Json) : Except String PolicySeverity := do
  let clean ← normalizeNonEmpty "policy severity" value
  if py.lower clean.text = "error" then return .error
  else if py.lower clean.text = "warning" then return .warning
  else throw "policy severity must be one of: error, warning"

def cleanHint : Json → Option String
  | .str s => if strip s = "" then none else some (strip s)
  | _ => none

def policyMessageOf (py : Interpreter) (raw : RawPolicyMessage) : Except String PolicyMessage := do
  let policyKey ← normalizeNonEmpty "policy key" raw.policyKey
  let severity ← normalizePolicySeverity py raw.severity
  let message ← normalizeNonEmpty "policy message" raw.message
  return ⟨policyKey, severity, message.text, cleanHint raw.hint⟩

def normalizePolicyCheckMessage (py : Interpreter) (policyKey : CleanText) :
    PolicyItem → Except String PolicyMessage
  | .message raw => policyMessageOf py raw
  | .text s =>
      (normalizeNonEmpty "policy message" (.str s)).map fun message =>
        ⟨policyKey, .error, message.text, none⟩
  | .mapping fields => policyMessageOf py
      { policyKey := JsonDict.orElse (fields.get "policy_key") (.str policyKey.text)
        severity := fields.getOr "severity" (.str "error")
        message := fields.get "message"
        hint := fields.get "hint" }
  | .other => .error
      "Policy checks must return a message mapping, PolicyCheckMessage, string, or iterable of those"

/-- Items are normalised as they come. -/
def iterPolicyItems (py : Interpreter) (policyKey : CleanText) (finish : Outcome Unit) :
    List PolicyItem → Outcome (List PolicyMessage)
  | [] =>
      match finish with
      | .returns _ => .returns []
      | .raises message => .raises message
      | .exits exception => .exits exception
  | item :: rest =>
      match normalizePolicyCheckMessage py policyKey item with
      | .error message => .raises message
      | .ok message =>
          match iterPolicyItems py policyKey finish rest with
          | .returns messages => .returns (message :: messages)
          | failed => failed

def iterPolicyMessages (py : Interpreter) (policyKey : CleanText) :
    PolicyValue → Outcome (List PolicyMessage)
  | .nothing => .returns []
  | .item .other => .raises "Policy checks must return a message, iterable of messages, or None"
  | .item item => iterPolicyItems py policyKey (.returns ()) [item]
  | .items yielded finish => iterPolicyItems py policyKey finish yielded

def renderPolicyMessage (message : PolicyMessage) : String :=
  "[policy:" ++ message.policyKey.text ++ "] " ++ message.message

/-! ## Evaluation -/

/-- What a check is told about the config. -/
structure PolicyContext where
  cfg : JsonDict
  mode : String
  scope : String
  roleNames : List String
  roleModels : List (String × String)
  roleIdentities : List (String × String)
  roleProviders : List (String × String)

abbrev PolicyCheck := PolicyContext → Outcome PolicyValue

def loadFailureMessage (failure : LoadFailure) : PolicyMessage where
  policyKey := failure.entryPoint
  severity := .error
  message := "Failed to load policy check '" ++ failure.entryPoint.text ++ "': " ++ failure.error
  hint := some "Fix or uninstall the broken policy package before relying on doctor results."

def crashMessage (definition : Definition PolicyCheck) (error : String) : PolicyMessage where
  policyKey := definition.key
  severity := .error
  message := "Policy check '" ++ definition.key.text ++ "' crashed: " ++ error
  hint := some "Fix the installed policy check implementation or remove it from the environment."

/-- What the check reports, or how it ends. -/
def reportedMessages (py : Interpreter) (definition : Definition PolicyCheck)
    (context : PolicyContext) : Outcome (List PolicyMessage) :=
  match definition.callable context with
  | .returns value => iterPolicyMessages py definition.key value
  | .raises message => .raises message
  | .exits exception => .exits exception

def runPolicyCheck (py : Interpreter) (context : PolicyContext)
    (definition : Definition PolicyCheck) : Except ExtensionError (List PolicyMessage) :=
  match reportedMessages py definition context with
  | .returns messages => .ok messages
  | .raises message => .ok [crashMessage definition message]
  | .exits exception => .error (.exits exception)

structure PolicyRun where
  context : PolicyContext
  findings : List PolicyMessage
  /-- The definitions whose check was run. -/
  ran : List (Definition PolicyCheck)

def evaluatePolicyChecks (host : ExtensionHost) (entries : List (EntryPoint PolicyCheck))
    (context : PolicyContext) : Except ExtensionError PolicyRun := do
  let (checks, failures) ← discover host policyKind entries
  let reported ← checks.mapM (runPolicyCheck host.py context)
  return ⟨context, failures.map loadFailureMessage ++ reported.flatten, checks⟩

/-! ## No check is skipped -/

/-- The check ran on the context and reported no error. -/
def ReportsNoError (py : Interpreter) (context : PolicyContext)
    (definition : Definition PolicyCheck) : Prop :=
  ∃ messages, reportedMessages py definition context = .returns messages ∧
    ∀ message ∈ messages, message.severity ≠ .error

/-- The package of an entry point was loaded, and its check was run under its own key and
reported no error. -/
structure CheckPassed (host : ExtensionHost) (run : PolicyRun) (entry : EntryPoint PolicyCheck)
    (definition : Definition PolicyCheck) : Prop where
  loaded : loadEntry host policyKind entry = .ok (.inr definition)
  wasRun : ∃ e ∈ run.ran, e.key = definition.key ∧ e.callable = definition.callable
  noError : ReportsNoError host.py run.context definition

section
variable {host : ExtensionHost} {entries : List (EntryPoint PolicyCheck)} {context : PolicyContext}
  {run : PolicyRun}

theorem evaluatePolicyChecks_eq_ok (h : evaluatePolicyChecks host entries context = .ok run) :
    ∃ failures reported, run.context = context ∧
      discover host policyKind entries = .ok (run.ran, failures) ∧
      run.ran.mapM (runPolicyCheck host.py context) = .ok reported ∧
      run.findings = failures.map loadFailureMessage ++ reported.flatten := by
  obtain ⟨⟨checks, failures⟩, hfound, h⟩ := Fallible.bind_eq_ok_iff.mp h
  obtain ⟨reported, hreported, h⟩ := Fallible.bind_eq_ok_iff.mp h
  cases h
  exact ⟨failures, reported, rfl, hfound, hreported, rfl⟩

/-- A check whose messages are no errors has not crashed. -/
theorem reportsNoError_of_run {definition : Definition PolicyCheck} {messages : List PolicyMessage}
    (h : runPolicyCheck host.py context definition = .ok messages)
    (hmessages : ∀ message ∈ messages, message.severity ≠ .error) :
    ReportsNoError host.py context definition := by
  unfold runPolicyCheck at h
  cases hreported : reportedMessages host.py definition context with
  | returns found =>
      rw [hreported] at h
      cases h
      exact ⟨messages, hreported, hmessages⟩
  | raises message =>
      rw [hreported] at h
      cases h
      exact absurd rfl (hmessages _ (List.mem_singleton_self _))
  | exits exception =>
      rw [hreported] at h
      cases h

/-- Without an error nothing failed to load, and each check that ran is fine. -/
theorem all_fine_of_no_error (h : evaluatePolicyChecks host entries context = .ok run)
    (hok : ∀ finding ∈ run.findings, finding.severity ≠ .error) :
    discover host policyKind entries = .ok (run.ran, []) ∧
      ∀ d ∈ run.ran, ReportsNoError host.py run.context d := by
  obtain ⟨failures, reported, hcontext, hfound, hreported, hfindings⟩ := evaluatePolicyChecks_eq_ok h
  rw [hfindings, List.forall_mem_append] at hok
  obtain ⟨hfailures, hchecks⟩ := hok
  constructor
  · cases failures with
    | nil => exact hfound
    | cons failure rest => exact absurd rfl (hfailures _ List.mem_cons_self)
  · intro d hd
    obtain ⟨messages, hmem, hrun⟩ := Fallible.exists_result_of_mapM hreported hd
    rw [hcontext]
    exact reportsNoError_of_run hrun fun message hmessage =>
      hchecks message (List.mem_flatten.mpr ⟨messages, hmem, hmessage⟩)

/-- What a check reports depends on its key and itself only. -/
theorem ReportsNoError.congr {py : Interpreter} {d e : Definition PolicyCheck}
    (h : ReportsNoError py context e) (hkey : e.key = d.key) (hcheck : e.callable = d.callable) :
    ReportsNoError py context d := by
  obtain ⟨messages, hreported, hmessages⟩ := h
  refine ⟨messages, ?_, hmessages⟩
  rw [← hreported]
  unfold reportedMessages
  rw [hkey, hcheck]

/-- One check runs for each key. -/
theorem checks_agree_of_passed (h : discover host policyKind entries = .ok (run.ran, []))
    (hpassed : ∀ entry ∈ entries, ∃ d, CheckPassed host run entry d)
    {d e : Definition PolicyCheck} (hd : d ∈ provided host policyKind entries)
    (he : e ∈ provided host policyKind entries) (hkey : d.key = e.key) :
    d.callable = e.callable := by
  have hran := discover_ok h
  have hchecked : ∀ c ∈ provided host policyKind entries,
      ∃ r ∈ run.ran, r.key = c.key ∧ r.callable = c.callable := by
    intro c hc
    obtain ⟨entry, hentry, hloaded⟩ := mem_provided.mp hc
    obtain ⟨c', hc'⟩ := hpassed entry hentry
    have heq := hc'.loaded
    rw [hloaded] at heq
    cases heq
    exact hc'.wasRun
  obtain ⟨r, hr, hrkey, hrcheck⟩ := hchecked d hd
  obtain ⟨t, ht, htkey, htcheck⟩ := hchecked e he
  rw [hran] at hr ht
  have hsame : r = t := registered_inj hr ht (by rw [hrkey, htkey, hkey])
  rw [← hrcheck, ← htcheck, hsame]

theorem checkPassed_of_agreement (h : discover host policyKind entries = .ok (run.ran, []))
    (hfine : ∀ d ∈ run.ran, ReportsNoError host.py run.context d)
    (hagree : ∀ d ∈ provided host policyKind entries, ∀ e ∈ provided host policyKind entries,
      d.key = e.key → d.callable = e.callable)
    {entry : EntryPoint PolicyCheck} (hentry : entry ∈ entries) :
    ∃ d, CheckPassed host run entry d := by
  obtain ⟨d, hloaded⟩ := loaded_of_discover h hentry
  have hd := mem_provided.mpr ⟨entry, hentry, hloaded⟩
  obtain ⟨e, he, hkey⟩ := exists_registered hd
  have hkeys : e.key = d.key := CleanText.ext hkey
  have hcheck : e.callable = d.callable := hagree e (mem_of_mem_registered he) d hd hkeys
  have hran : e ∈ run.ran := by
    rw [discover_ok h]
    exact he
  exact ⟨d, hloaded, ⟨e, hran, hkeys, hcheck⟩, (hfine e hran).congr hkeys hcheck⟩

end

end TruePresenceESE.Ese
