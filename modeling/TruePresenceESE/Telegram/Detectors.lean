import TruePresenceESE.Lib.Dict
import TruePresenceESE.Lib.Json
import TruePresenceESE.Lib.Text

/-! # Content detectors of the Telegram adapter

Core, policy and custom detectors are merged by name into one table, compiled
and run on the lower-cased text of a message. Lower-casing and regular
expressions are the runtime's; a tenant's overrides are arbitrary JSON.
-/

namespace TruePresenceESE.Telegram

/-- `str.lower`, `re.compile` with the ignore-case flag, and `findall`. -/
structure TextRuntime where
  Pattern : Type
  Match : Type
  lower : String → String
  compile : String → Except String Pattern
  findall : Pattern → String → List Match

/-! ## Tables -/

def coreDetectors : List (String × List String) :=
  [("child_exploitation",
    [r"\bchild.*porn\b", r"\bkiddie.*porn\b",
      r"\bcp\b(?!\s*(?:certificate|panel|apache|copyright|cpu|cpus|center|connection))",
      r"\blolita\b(?!\s*(?:book|novel|nabokov|fashion))",
      r"\bpedo\b(?!\s*(?:bear|file|meter|pedometry))"]),
    ("illegal_content",
      [r"\b(buy|purchase|order|get)\s+.*\b(drugs|narcotics|opioids|cocaine|heroin|meth)\b",
        r"\b(fake|forged|counterfeit)\s+.*\b(id|passport|drivers\s+license|credit\s+card)\b",
        r"\bcarding\b", r"\bhacking\s+.*(service|tool|tutorial)\b",
        r"\b(weapon|firearm|gun)\s+.*(sale|buy|purchase)\b"])]

def policyDetectors : List (String × List String) :=
  [("copyright_violation",
    [r"download.*full.*movie", r"free.*download", r"full.*album", r"leaked.*album", r"pirated"]),
    ("torrent_sharing",
      [r"magnet:\?xt=urn:btih:", r"\.torrent$", r"torrentz2", r"kickasstorrents", r"rarbg"]),
    ("crypto_mining", [r"monero", r"xmrig", r"cryptonight", r"nicehash", r"pool\.mine"]),
    ("remote_access",
      [r"vnc://", r"rdp://", r"remote\.desktop", r"anydesk", r"teamviewer"])]

def promotionalKeywords : List String :=
  ["join", "channel", "subscribe", "follow", "link", "free", "gift", "promo"]

/-! ## Configuration -/

inductive Tier where
  | core
  | policy
  | custom
  deriving DecidableEq, Repr

/-- An entry of the table. Flag and patterns are whatever the tenant supplied. -/
structure ActiveDetector where
  enabled : Json
  patterns : Json
  tier : Tier

/-- The mappings of a tenant; the adapter does not read the thresholds. -/
structure TenantConfig where
  detectors : Dict String Json
  customDetectors : Dict String Json
  responseThresholds : Dict String Json

def emptyConfig : TenantConfig := ⟨Dict.empty, Dict.empty, Dict.empty⟩

/-- Python's truth test. -/
def truthy : Json → Bool
  | .null => false
  | .bool b => b
  | .num q => q ≠ 0
  | .str s => s ≠ ""
  | .arr items => !items.isEmpty
  | .obj fields => !fields.isEmpty

def strs (texts : List String) : Json := .arr (texts.map .str)

/-- An override has to be a mapping, and its patterns a list. -/
def policyDetector (patterns : List String) : Json → Except String ActiveDetector
  | .obj fields =>
      match ((Json.obj fields).get? "patterns").getD (.arr []) with
      | .arr customPatterns =>
          .ok { enabled := ((Json.obj fields).get? "enabled").getD (.bool true)
                patterns := .arr (patterns.map .str ++ customPatterns)
                tier := .policy }
      | _ => .error "can only concatenate list to list"
  | _ => .error "object has no attribute 'get'"

def customDetector : Json → Except String ActiveDetector
  | .obj fields =>
      .ok { enabled := ((Json.obj fields).get? "enabled").getD (.bool true)
            patterns := ((Json.obj fields).get? "patterns").getD (.arr [])
            tier := .custom }
  | _ => .error "object has no attribute 'get'"

def coreTable : Dict String ActiveDetector :=
  coreDetectors.foldl (fun d p => d.set p.1 ⟨.bool true, strs p.2, .core⟩) Dict.empty

def configureDetectors (config : TenantConfig) : Except String (Dict String ActiveDetector) := do
  let withPolicy ← Dict.updateM
    (fun name patterns =>
      (policyDetector patterns ((config.detectors.get? name).getD (.obj []))).map some)
    policyDetectors coreTable
  Dict.updateM (fun _ entry => (customDetector entry).map some) config.customDetectors.items
    withPolicy

/-- `'|'.join(patterns)`: a list of texts, the characters of a text or the keys of a mapping. -/
def joinPatterns : Json → Except String String
  | .arr items =>
      match items.mapM fun | .str s => some s | _ => none with
      | some texts => .ok (String.intercalate "|" texts)
      | none => .error "sequence item: expected str instance"
  | .str s => .ok (String.intercalate "|" (s.toList.map String.singleton))
  | .obj fields => .ok (String.intercalate "|" (fields.map Prod.fst))
  | _ => .error "can only join an iterable"

section Runtime

variable (rt : TextRuntime)

/-- Disabled and empty entries are left uncompiled. -/
def compileEntry (entry : ActiveDetector) : Except String (Option rt.Pattern) :=
  if truthy entry.enabled && truthy entry.patterns then
    match joinPatterns entry.patterns with
    | .ok joined => (rt.compile joined).map some
    | .error message => .error message
  else .ok none

structure TelegramAdapter where
  activeDetectors : Dict String ActiveDetector
  compiledPatterns : Dict String rt.Pattern

def buildAdapter (config : TenantConfig) : Except String (TelegramAdapter rt) := do
  let activeDetectors ← configureDetectors config
  let compiledPatterns ←
    Dict.updateM (fun _ entry => compileEntry rt entry) activeDetectors.items Dict.empty
  return { activeDetectors, compiledPatterns }

/-! ## Content analysis -/

structure ThreatAnalysis where
  threatsDetected : List String
  scores : Dict String ℚ
  found : Dict String (List rt.Match)

def matchScore (found : List rt.Match) : ℚ := min 1 (found.length * 0.25)

variable {rt}

def analyzeDetector (adapter : TelegramAdapter rt) (textLower : String)
    (results : ThreatAnalysis rt) : String × ActiveDetector → ThreatAnalysis rt
  | (name, entry) =>
      if truthy entry.enabled then
        match adapter.compiledPatterns.get? name with
        | none => results
        | some pattern =>
            let found := rt.findall pattern textLower
            let score := matchScore rt found
            { threatsDetected :=
                if 0 < score then
                  match entry.tier with
                  | .core =>
                      if 0.5 ≤ score then results.threatsDetected ++ [name]
                      else results.threatsDetected
                  | _ =>
                      if 0.5 ≤ score then results.threatsDetected ++ [name]
                      else results.threatsDetected
                else results.threatsDetected
              scores := results.scores.set name score
              found := results.found.set name found }
      else results

/-- A long promotional text that repeats the user's recent ones. -/
def isMirrored (text textLower : String) (contentSimilarity : ℚ) : Bool :=
  150 < text.length &&
    2 ≤ (promotionalKeywords.filter fun word =>
      Text.contains word.toList textLower.toList).length &&
    0.6 < contentSimilarity

def analyzeContent (adapter : TelegramAdapter rt) (text : String) (contentSimilarity : ℚ) :
    ThreatAnalysis rt :=
  let textLower := rt.lower text
  let results := adapter.activeDetectors.items.foldl (analyzeDetector adapter textLower)
    ⟨[], Dict.empty, Dict.empty⟩
  if isMirrored text textLower contentSimilarity then
    { results with
      threatsDetected := results.threatsDetected ++ ["mirrors_userbots"]
      scores := results.scores.set "mirrored_content" 0.7 }
  else { results with scores := results.scores.set "mirrored_content" 0 }

end Runtime

end TruePresenceESE.Telegram
