import TruePresenceESE.Lib.Keyed
import TruePresenceESE.Lib.JsonDict

/-! # Extension contracts

Policy checks, report exporters and integrations are found through entry points of
installed packages. Each kind of extension loads, normalises and registers its definitions
the same way.
-/

namespace TruePresenceESE.Ese

open PyText PyValue

/-! ## Texts -/

/-- A text that `normalize_non_empty` has passed. -/
@[ext] structure CleanText where
  text : String
  stripped : strip text = text
  ne_empty : text ≠ ""
  deriving DecidableEq

def normalizeNonEmpty (label : String) (value : Json) : Except String CleanText :=
  match value with
  | .str s =>
      if h : strip s = "" then .error (label ++ " must be a non-empty string")
      else .ok ⟨strip s, strip_strip s, h⟩
  | _ => .error (label ++ " must be a non-empty string")

theorem normalizeNonEmpty_clean (label : String) (clean : CleanText) :
    normalizeNonEmpty label (.str clean.text) = .ok clean := by
  have hne : strip clean.text ≠ "" := by
    rw [clean.stripped]
    exact clean.ne_empty
  rw [normalizeNonEmpty, dif_neg hne]
  cases clean with
  | mk text stripped ne_empty => simp only [stripped]

def asciiLower (text : String) : String := String.ofList (text.toList.map Char.toLower)

/-- `str.lower` on ASCII texts. -/
def LowersAscii (py : Interpreter) : Prop :=
  ∀ text, (∀ c ∈ text.toList, c.toNat < 128) → py.lower text = asciiLower text

/-- The methods of `str` whose tables are the interpreter's. -/
structure ExtensionHost where
  py : Interpreter
  capitalize : String → String

def dashed (key : String) : String := String.ofList (Text.replace (· = '_') '-' key.toList)

def titleFromKey (host : ExtensionHost) (key : String) : String :=
  String.intercalate " " (((dashed key).toList.splitOn '-').map fun part =>
    host.capitalize (String.ofList part))

/-! ## Versions -/

/-- `contract_version`: absent, an integer that is no truth value, or something else. -/
inductive VersionField where
  | absent
  | integer (n : ℤ)
  | other

def expectedVersion : ℤ := 1

def normalizeContractVersion (extensionName : String) : VersionField → Except String ℤ
  | .absent => .ok expectedVersion
  | .other => .error (extensionName ++ " contract_version must be an integer")
  | .integer n =>
      if n = expectedVersion then .ok n
      else .error (extensionName ++ " contract_version " ++ toString n ++
        " is not supported by this ESE build; expected " ++ toString expectedVersion)

/-! ## Loading -/

/-- What calling into a package comes to. Only ordinary exceptions are caught. -/
inductive Outcome (α : Type) where
  | returns (value : α)
  | raises (message : String)
  | exits (exception : String)

/-- The fields of a definition, as the package gives them. -/
structure RawDefinition (γ : Type) where
  key : Json
  title : Json
  summary : Json
  /-- The fields that only some kinds of extension have. -/
  extras : List (String × Json)
  contractVersion : VersionField
  callable : Option γ

inductive LoadedValue (γ : Type) where
  | definition (raw : RawDefinition γ)
  | mapping (raw : RawDefinition γ)
  | callable (c : γ) (doc : String)
  | other

/-- A callable without required parameters is called for the value. -/
inductive EntryValue (γ : Type) where
  | plain (value : LoadedValue γ)
  | factory (call : Outcome (LoadedValue γ))

structure EntryPoint (γ : Type) where
  /-- `getattr(entry_point, "name", …)` -/
  name : Json
  load : Outcome (EntryValue γ)

def maybeInvokeEntrypointLoader {γ : Type} : EntryValue γ → Outcome (LoadedValue γ)
  | .plain value => .returns value
  | .factory call => call

/-! ## Definitions -/

/-- Where the kinds of extension differ. -/
structure ExtensionKind where
  label : String
  extensionName : String
  /-- The names of further required texts, with their value for a bare callable. -/
  extras : List (String × (String → String))
  notCallable : String
  notADefinition : String

structure Definition (γ : Type) where
  key : CleanText
  title : CleanText
  summary : CleanText
  extras : List CleanText
  contractVersion : ℤ
  callable : γ

section
variable {γ : Type} (host : ExtensionHost) (kind : ExtensionKind)

def rawExtra (raw : RawDefinition γ) (name : String) : Json := (raw.extras.lookup name).getD .null

/-- The definition built from a mapping, where key and title have defaults. -/
def mappedDefinition (fallbackKey : String) (raw : RawDefinition γ) :
    Except String (RawDefinition γ) := do
  if raw.callable.isNone then throw kind.notCallable
  let key ← normalizeNonEmpty (kind.label ++ " key") (JsonDict.orElse raw.key (.str fallbackKey))
  let title ← normalizeNonEmpty (kind.label ++ " title")
    (JsonDict.orElse raw.title (.str (titleFromKey host fallbackKey)))
  let summary ← normalizeNonEmpty (kind.label ++ " summary") raw.summary
  let extras ← kind.extras.mapM fun extra =>
    (normalizeNonEmpty (kind.label ++ " " ++ extra.1) (rawExtra raw extra.1)).map fun clean =>
      (extra.1, Json.str clean.text)
  let version ← normalizeContractVersion kind.extensionName raw.contractVersion
  return { raw with
    key := .str key.text
    title := .str title.text
    summary := .str summary.text
    extras := extras
    contractVersion := .integer version }

def calledDefinition (fallbackKey : String) (c : γ) (doc : String) : RawDefinition γ where
  key := .str fallbackKey
  title := .str (titleFromKey host fallbackKey)
  summary := .str (if strip doc = "" then
    "External " ++ kind.extensionName ++ " '" ++ fallbackKey ++ "'." else strip doc)
  extras := kind.extras.map fun extra => (extra.1, .str (extra.2 fallbackKey))
  contractVersion := .integer expectedVersion
  callable := some c

/-- The checks every definition passes in the end. -/
def checkedDefinition (raw : RawDefinition γ) : Except String (Definition γ) :=
  match raw.callable with
  | none => .error kind.notCallable
  | some c => do
      let key ← normalizeNonEmpty (kind.label ++ " key") raw.key
      let title ← normalizeNonEmpty (kind.label ++ " title") raw.title
      let summary ← normalizeNonEmpty (kind.label ++ " summary") raw.summary
      let extras ← kind.extras.mapM fun extra =>
        normalizeNonEmpty (kind.label ++ " " ++ extra.1) (rawExtra raw extra.1)
      let version ← normalizeContractVersion kind.extensionName raw.contractVersion
      return ⟨key, title, summary, extras, version, c⟩

def normalizeDefinition (fallbackKey : String) : LoadedValue γ → Except String (Definition γ)
  | .definition raw => checkedDefinition kind raw
  | .mapping raw => mappedDefinition host kind fallbackKey raw >>= checkedDefinition kind
  | .callable c doc => checkedDefinition kind (calledDefinition host kind fallbackKey c doc)
  | .other => .error kind.notADefinition

/-! ## Discovery -/

structure LoadFailure where
  entryPoint : CleanText
  error : String
  deriving DecidableEq

/-- What the handlers around a package let through. -/
inductive ExtensionError where
  /-- `ValueError` -/
  | invalidEntryPoint (message : String)
  | exits (exception : String)
  deriving DecidableEq

/-- The definition of an entry point, or why it has none. -/
def loadEntry (entry : EntryPoint γ) : Except ExtensionError (LoadFailure ⊕ Definition γ) := do
  let name ← (normalizeNonEmpty "entry point name" entry.name).mapError .invalidEntryPoint
  let fallbackKey := host.py.lower (dashed name.text)
  match entry.load with
  | .exits exception => throw (.exits exception)
  | .raises message => return .inl ⟨name, message⟩
  | .returns value =>
      match maybeInvokeEntrypointLoader value with
      | .exits exception => throw (.exits exception)
      | .raises message => return .inl ⟨name, message⟩
      | .returns loaded =>
          match normalizeDefinition host kind fallbackKey loaded with
          | .error message => return .inl ⟨name, message⟩
          | .ok definition => return .inr definition

/-- The definitions in the order of their keys, the first one of each key. -/
def registered (definitions : List (Definition γ)) : List (Definition γ) :=
  let byKey := Dict.firstBy (fun d => d.key.text) definitions
  byKey.sortedValues byKey.keys

def discover (entries : List (EntryPoint γ)) :
    Except ExtensionError (List (Definition γ) × List LoadFailure) := do
  let loaded ← entries.mapM (loadEntry host kind)
  return (registered (loaded.filterMap Sum.getRight?), loaded.filterMap Sum.getLeft?)

end

end TruePresenceESE.Ese
