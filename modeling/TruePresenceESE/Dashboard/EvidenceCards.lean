import TruePresenceESE.Lib.JsValue
import TruePresenceESE.Lib.Covering

/-! # Evaluation evidence cards

The dashboard shows a card of any value: of the allowed fields those that are harmless
tokens, probabilities or times, and nothing else. A card is what its normalisation leaves.
-/

namespace TruePresenceESE.Dashboard

open JsString

/-! ## Tokens -/

def isDigit (unit : UInt16) : Bool := 48 ≤ unit.toNat && unit.toNat ≤ 57

def isAlphanumeric (unit : UInt16) : Bool :=
  let n := unit.toNat
  isDigit unit || (65 ≤ n && n ≤ 90) || (97 ≤ n && n ≤ 122)

/-- `[A-Za-z0-9_.:-]` -/
def isTokenUnit (unit : UInt16) : Bool :=
  let n := unit.toNat
  isAlphanumeric unit || n == 95 || n == 46 || n == 58 || n == 45

/-- `/^[A-Za-z0-9][A-Za-z0-9_.:-]*$/` -/
def safeTokenPattern : JsString → Bool
  | [] => false
  | unit :: rest => isAlphanumeric unit && rest.all isTokenUnit

/-- What is behind that many digits. -/
def skipDigits : ℕ → JsString → Option JsString
  | 0, text => some text
  | _ + 1, [] => none
  | n + 1, unit :: rest => if isDigit unit then skipDigits n rest else none

/-- `-?` -/
def skipDash : JsString → JsString
  | [] => []
  | unit :: rest => if unit.toNat = 45 then rest else unit :: rest

/-- `/^(?:\d{3}-?\d{2}-?\d{4}|\d{12,19})$/` -/
def unsafeNumericIdentifierPattern (text : JsString) : Bool :=
  let nine := ((((skipDigits 3 text).map skipDash).bind (skipDigits 2)).map skipDash).bind
    (skipDigits 4)
  nine = some [] || (text.all isDigit && 12 ≤ text.length && text.length ≤ 19)

theorem isSpace_of_isTokenUnit {unit : UInt16} (h : isTokenUnit unit = true) :
    isSpace unit = false := by
  simp only [isTokenUnit, isAlphanumeric, isDigit, Bool.or_eq_true, Bool.and_eq_true,
    decide_eq_true_eq, beq_iff_eq] at h
  rw [Bool.eq_false_iff]
  intro hspace
  simp only [isSpace, Bool.or_eq_true, Bool.and_eq_true, decide_eq_true_eq, beq_iff_eq] at hspace
  omega

theorem trim_of_safeTokenPattern {text : JsString} (h : safeTokenPattern text = true) :
    trim text = text := by
  cases text with
  | nil => rfl
  | cons unit rest =>
      rw [safeTokenPattern, Bool.and_eq_true, List.all_eq_true] at h
      have hunit : isTokenUnit unit = true := by simp [isTokenUnit, h.1]
      refine trim_eq_self (List.forall_mem_cons.mpr ⟨isSpace_of_isTokenUnit hunit, ?_⟩)
      exact fun other hother => isSpace_of_isTokenUnit (h.2 other hother)

/-- A text that may be shown: a token of at most that many units, and no identifier. -/
@[ext] structure SafeToken (maxLength : ℕ) where
  text : JsString
  length_le : text.length ≤ maxLength
  isToken : safeTokenPattern text = true
  notIdentifier : unsafeNumericIdentifierPattern text = false

instance (maxLength : ℕ) : DecidableEq (SafeToken maxLength) := fun a b =>
  decidable_of_iff (a.text = b.text) SafeToken.ext_iff.symm

def SafeToken.value {maxLength : ℕ} (token : SafeToken maxLength) : JsValue := .string token.text

def safeToken (value : JsValue) (maxLength : ℕ) : Option (SafeToken maxLength) :=
  match value with
  | .string text =>
      let normalized := trim text
      if h : normalized ≠ [] ∧ normalized.length ≤ maxLength ∧ safeTokenPattern normalized = true ∧
          unsafeNumericIdentifierPattern normalized = false then
        some ⟨normalized, h.2.1, h.2.2.1, h.2.2.2⟩
      else none
  | _ => none

/-- A token is read as it stands. -/
@[simp] theorem safeToken_value {maxLength : ℕ} (token : SafeToken maxLength) :
    safeToken token.value maxLength = some token := by
  have htrim : trim token.text = token.text := trim_of_safeTokenPattern token.isToken
  have hne : token.text ≠ [] := by
    intro hnil
    have htoken := token.isToken
    rw [hnil] at htoken
    cases htoken
  rw [SafeToken.value, safeToken]
  simp only [htrim]
  rw [dif_pos ⟨hne, token.length_le, token.isToken, token.notIdentifier⟩]

/-! ## Event types, probabilities and times -/

inductive EvidenceEventType where
  | webSdk
  | telegram
  | safety
  deriving DecidableEq

namespace EvidenceEventType

def name : EvidenceEventType → String
  | webSdk => "web_sdk"
  | telegram => "telegram"
  | safety => "safety"

def text (eventType : EvidenceEventType) : JsString := ofText eventType.name

def all : List EvidenceEventType := [webSdk, telegram, safety]

end EvidenceEventType

def safeEventType (value : JsValue) (fallback : EvidenceEventType) : EvidenceEventType :=
  match value with
  | .string text => (EvidenceEventType.all.find? fun known => known.text = text).getD fallback
  | _ => fallback

@[simp] theorem safeEventType_text (eventType fallback : EvidenceEventType) :
    safeEventType (.string eventType.text) fallback = eventType := by
  cases eventType <;> rfl

@[ext] structure Probability where
  number : JsNumber
  inRange : ∃ q, number.real = some q ∧ 0 ≤ q ∧ q ≤ 1

def probability (value : JsValue) : Option Probability :=
  match value with
  | .number x =>
      match h : x.real with
      | some q => if hrange : 0 ≤ q ∧ q ≤ 1 then some ⟨x, q, h, hrange⟩ else none
      | none => none
  | _ => none

@[simp] theorem probability_number (p : Probability) : probability (.number p.number) = some p := by
  obtain ⟨q, hreal, hrange⟩ := p.inRange
  rw [probability]
  split
  · next q' hq' =>
      rw [hreal, Option.some.injEq] at hq'
      subst hq'
      rw [dif_pos hrange]
  · next hnone =>
      rw [hreal] at hnone
      cases hnone

/-- When `new Date(text).getTime()` is not `NaN`. -/
abbrev ParsesDate := JsString → Bool

inductive Timestamp (parses : ParsesDate) where
  | number (x : JsNumber) (positive : ∃ q, x.real = some q ∧ 0 < q)
  | text (s : JsString) (trimmed : trim s = s) (ne_nil : s ≠ []) (length_le : s.length ≤ 64)
      (isDate : parses s = true)

section
variable {parses : ParsesDate}

def Timestamp.value : Timestamp parses → JsValue
  | .number x _ => .number x
  | .text s _ _ _ _ => .string s

variable (parses)

def timestamp (value : JsValue) : Option (Timestamp parses) :=
  match value with
  | .number x =>
      match h : x.real with
      | some q => if hpos : 0 < q then some (.number x ⟨q, h, hpos⟩) else none
      | none => none
  | .string text =>
      let normalized := trim text
      if h : normalized ≠ [] ∧ normalized.length ≤ 64 ∧ parses normalized = true then
        some (.text normalized (trim_trim text) h.1 h.2.1 h.2.2)
      else none
  | _ => none

@[simp] theorem timestamp_value (time : Timestamp parses) : timestamp parses time.value = some time := by
  cases time with
  | number x positive =>
      obtain ⟨q, hreal, hpos⟩ := positive
      rw [Timestamp.value, timestamp]
      split
      · next q' hq' =>
          rw [hreal, Option.some.injEq] at hq'
          subst hq'
          rw [dif_pos hpos]
      · next hnone =>
          rw [hreal] at hnone
          cases hnone
  | text s trimmed ne_nil length_le isDate =>
      rw [Timestamp.value, timestamp]
      simp only [trimmed]
      rw [dif_pos ⟨ne_nil, length_le, isDate⟩]

end

/-! ## Reason codes -/

@[ext] structure ReasonCodes where
  codes : List (SafeToken 80)
  ne_nil : codes ≠ []
  nodup : codes.Nodup
  length_le : codes.length ≤ 16

def ReasonCodes.value (reasons : ReasonCodes) : JsValue :=
  .array (reasons.codes.map SafeToken.value)

def reasonCodes (value : JsValue) : Option ReasonCodes :=
  match value with
  | .array items =>
      let codes := (items.filterMap fun item => safeToken item 80).eraseDups.take 16
      if h : codes ≠ [] then
        some ⟨codes, h, (Covering.nodup_eraseDups _).sublist (List.take_sublist 16 _),
          List.length_take_le 16 _⟩
      else none
  | _ => none

@[simp] theorem reasonCodes_value (reasons : ReasonCodes) :
    reasonCodes reasons.value = some reasons := by
  have hread : (reasons.codes.map SafeToken.value).filterMap (fun item => safeToken item 80) =
      reasons.codes := by
    rw [List.filterMap_map]
    have hsome : ((fun item => safeToken item 80) ∘ @SafeToken.value 80) = some :=
      funext safeToken_value
    rw [hsome, List.filterMap_some]
  have hcodes : ((reasons.codes.map SafeToken.value).filterMap
      fun item => safeToken item 80).eraseDups.take 16 = reasons.codes := by
    rw [hread, Covering.eraseDups_of_nodup reasons.nodup, List.take_of_length_le reasons.length_le]
  rw [ReasonCodes.value, reasonCodes]
  simp only [hcodes]
  rw [dif_pos reasons.ne_nil]

/-! ## Cards -/

structure EvaluationEvidenceCardData (parses : ParsesDate) where
  id : SafeToken 128
  eventType : EvidenceEventType
  surface : SafeToken 80
  riskLevel : Option (SafeToken 40)
  humanPresenceLikelihood : Option Probability
  automationLikelihood : Option Probability
  agenticControlLikelihood : Option Probability
  confidence : Option Probability
  reasonCodes : Option ReasonCodes
  evidencePacketId : Option (SafeToken 128)
  decisionId : Option (SafeToken 128)
  recommendedAction : Option (SafeToken 80)
  timestamp : Option (Timestamp parses)

structure EvaluationEvidenceCardNormalizationOptions where
  fallbackId : Option JsString := none
  fallbackEventType : Option EvidenceEventType := none
  fallbackSurface : Option JsString := none

def evaluationCardAllowedFields : List String :=
  ["id", "eventType", "surface", "risk_level", "human_presence_likelihood",
    "automation_likelihood", "agentic_control_likelihood", "confidence", "reason_codes",
    "evidence_packet_id", "decision_id", "recommended_action", "timestamp"]

/-- The fields of a record; other values have none. -/
def sourceOf : JsValue → List (JsString × JsValue)
  | .object fields => fields
  | _ => []

def readField (raw : JsValue) (name : String) : JsValue := JsValue.get (sourceOf raw) (ofText name)

/-- An option that is not given is `undefined`. -/
def optionValue : Option JsString → JsValue
  | none => .undefined
  | some text => .string text

/-- `${eventType}-evidence-card` -/
def cardIdOf (eventType : EvidenceEventType) : SafeToken 128 where
  text := ofText (eventType.name ++ "-evidence-card")
  length_le := by cases eventType <;> decide
  isToken := by cases eventType <;> decide
  notIdentifier := by cases eventType <;> decide

/-- The surface of an event type that states none. -/
def surfaceOf (eventType : EvidenceEventType) : SafeToken 80 where
  text := if eventType = .webSdk then ofText "web" else eventType.text
  length_le := by cases eventType <;> decide
  isToken := by cases eventType <;> decide
  notIdentifier := by cases eventType <;> decide

section
variable (parses : ParsesDate)

def normalizeEvaluationEvidenceCard (raw : JsValue)
    (options : EvaluationEvidenceCardNormalizationOptions) : EvaluationEvidenceCardData parses :=
  let field := readField raw
  let fallbackEventType := options.fallbackEventType.getD .webSdk
  let eventType := safeEventType (field "eventType") fallbackEventType
  let fallbackId :=
    (safeToken (optionValue options.fallbackId) 128 <|> safeToken (field "evidence_packet_id") 128 <|>
      safeToken (field "decision_id") 128).getD (cardIdOf eventType)
  let fallbackSurface := safeToken (optionValue options.fallbackSurface) 80
  { id := (safeToken (field "id") 128).getD fallbackId
    eventType := eventType
    surface := (safeToken (field "surface") 80 <|> fallbackSurface).getD (surfaceOf eventType)
    riskLevel := safeToken (field "risk_level") 40
    humanPresenceLikelihood := probability (field "human_presence_likelihood")
    automationLikelihood := probability (field "automation_likelihood")
    agenticControlLikelihood := probability (field "agentic_control_likelihood")
    confidence := probability (field "confidence")
    reasonCodes := reasonCodes (field "reason_codes")
    evidencePacketId := safeToken (field "evidence_packet_id") 128
    decisionId := safeToken (field "decision_id") 128
    recommendedAction := safeToken (field "recommended_action") 80
    timestamp := timestamp parses (field "timestamp") }

end

/-! ## What a card shows -/

/-- A field that is `undefined` is not assigned. -/
def assignIfPresent (entry : String × Option JsValue) (later : List (String × JsValue)) :
    List (String × JsValue) :=
  match entry.2 with
  | some value => (entry.1, value) :: later
  | none => later

section
variable {parses : ParsesDate} (card : EvaluationEvidenceCardData parses)

/-- The fields of a card in the order in which they are assigned, those left out as none. -/
def EvaluationEvidenceCardData.assigned : List (String × Option JsValue) :=
  [("id", some card.id.value), ("eventType", some (.string card.eventType.text)),
    ("surface", some card.surface.value),
    ("risk_level", card.riskLevel.map SafeToken.value),
    ("human_presence_likelihood", card.humanPresenceLikelihood.map fun p => .number p.number),
    ("automation_likelihood", card.automationLikelihood.map fun p => .number p.number),
    ("agentic_control_likelihood", card.agenticControlLikelihood.map fun p => .number p.number),
    ("confidence", card.confidence.map fun p => .number p.number),
    ("reason_codes", card.reasonCodes.map ReasonCodes.value),
    ("evidence_packet_id", card.evidencePacketId.map SafeToken.value),
    ("decision_id", card.decisionId.map SafeToken.value),
    ("recommended_action", card.recommendedAction.map SafeToken.value),
    ("timestamp", card.timestamp.map Timestamp.value)]

def EvaluationEvidenceCardData.entries : List (String × JsValue) :=
  card.assigned.foldr assignIfPresent []

/-- The card as the object it is. -/
def EvaluationEvidenceCardData.object : JsValue :=
  .object (card.entries.map fun entry => (ofText entry.1, entry.2))

theorem assigned_names : card.assigned.map Prod.fst = evaluationCardAllowedFields := rfl

theorem mem_foldr_assignIfPresent {entry : String × JsValue}
    {assigned : List (String × Option JsValue)} :
    entry ∈ assigned.foldr assignIfPresent [] ↔ (entry.1, some entry.2) ∈ assigned := by
  induction assigned with
  | nil => simp
  | cons first rest ih =>
      obtain ⟨name, value⟩ := first
      rw [List.foldr_cons, List.mem_cons, ← ih]
      cases value with
      | none => simp [assignIfPresent]
      | some value =>
          rw [assignIfPresent, List.mem_cons, Prod.ext_iff, Prod.mk.injEq, Option.some.injEq]

theorem mem_entries {entry : String × JsValue} :
    entry ∈ card.entries ↔ (entry.1, some entry.2) ∈ card.assigned :=
  mem_foldr_assignIfPresent

/-- What is read under a name that is assigned once. -/
theorem lookup_assigned {assigned : List (String × Option JsValue)} {name : String}
    {value : Option JsValue} (hnodup : (assigned.map fun entry => ofText entry.1).Nodup)
    (hmem : (name, value) ∈ assigned) :
    ((assigned.foldr assignIfPresent []).map fun entry => (ofText entry.1, entry.2)).lookup
      (ofText name) = value := by
  induction assigned with
  | nil => cases hmem
  | cons entry rest ih =>
      rw [List.map_cons, List.nodup_cons] at hnodup
      rw [List.foldr_cons]
      rcases List.mem_cons.mp hmem with rfl | hrest
      · cases value with
        | some value => simp [assignIfPresent]
        | none =>
            rw [assignIfPresent, List.lookup_eq_none_iff]
            intro p hp
            obtain ⟨entry, hentry, rfl⟩ := List.mem_map.mp hp
            have hne : ofText name ≠ ofText entry.1 := by
              intro heq
              exact hnodup.1 (List.mem_map.mpr
                ⟨_, mem_foldr_assignIfPresent.mp hentry, heq.symm⟩)
            simpa using hne
      · obtain ⟨key, given⟩ := entry
        have hne : ofText name ≠ ofText key := by
          intro heq
          exact hnodup.1 (List.mem_map.mpr ⟨_, hrest, heq⟩)
        have hkey : (ofText name == ofText key) = false := by simpa using hne
        cases given with
        | none => exact ih hnodup.2 hrest
        | some other =>
            rw [assignIfPresent, List.map_cons, List.lookup_cons, hkey]
            exact ih hnodup.2 hrest

theorem readField_object {name : String} {value : Option JsValue}
    (h : (name, value) ∈ card.assigned) : readField card.object name = value.getD .undefined := by
  have hnodup : (evaluationCardAllowedFields.map ofText).Nodup := by decide
  rw [← assigned_names card, List.map_map] at hnodup
  rw [readField, EvaluationEvidenceCardData.object, sourceOf, JsValue.get,
    EvaluationEvidenceCardData.entries, lookup_assigned hnodup h]

/-! ## Normalising a card -/

theorem safeToken_getD {maxLength : ℕ} (token : Option (SafeToken maxLength)) :
    safeToken ((token.map SafeToken.value).getD .undefined) maxLength = token := by
  cases token with
  | none => rfl
  | some token => exact safeToken_value token

theorem probability_getD (p : Option Probability) :
    probability ((p.map fun p => .number p.number).getD .undefined) = p := by
  cases p with
  | none => rfl
  | some p => exact probability_number p

theorem reasonCodes_getD (reasons : Option ReasonCodes) :
    reasonCodes ((reasons.map ReasonCodes.value).getD .undefined) = reasons := by
  cases reasons with
  | none => rfl
  | some reasons => exact reasonCodes_value reasons

theorem timestamp_getD (time : Option (Timestamp parses)) :
    timestamp parses ((time.map Timestamp.value).getD .undefined) = time := by
  cases time with
  | none => rfl
  | some time => exact timestamp_value parses time

/-- A card is its own normal form, under any options. -/
theorem normalize_object (options : EvaluationEvidenceCardNormalizationOptions) :
    normalizeEvaluationEvidenceCard parses card.object options = card := by
  have hread : ∀ entry ∈ card.assigned, readField card.object entry.1 = entry.2.getD .undefined :=
    fun entry hentry => readField_object card hentry
  simp only [EvaluationEvidenceCardData.assigned, List.forall_mem_cons] at hread
  obtain ⟨hid, heventType, hsurface, hrisk, hhuman, hautomation, hagentic, hconfidence, hreasons,
    hpacket, hdecision, haction, htime, -⟩ := hread
  unfold normalizeEvaluationEvidenceCard
  simp only [hid, heventType, hsurface, hrisk, hhuman, hautomation, hagentic, hconfidence, hreasons,
    hpacket, hdecision, haction, htime, Option.getD_some, safeToken_value, safeEventType_text,
    safeToken_getD, probability_getD, reasonCodes_getD, timestamp_getD]
  rfl

/-! ## What is shown is safe -/

def lengthBound (name : String) : ℕ :=
  if name = "risk_level" then 40
  else if name ∈ ["surface", "reason_codes", "recommended_action"] then 80
  else 128

def SafeText (bound : ℕ) (text : JsString) : Prop :=
  text.length ≤ bound ∧ safeTokenPattern text = true ∧ unsafeNumericIdentifierPattern text = false

/-- A number, a text that may be shown, or at most sixteen of them, all different. -/
def SafeValue (bound : ℕ) : JsValue → Prop
  | .number _ => True
  | .string text => SafeText bound text
  | .array items =>
      ∃ texts : List JsString, items = texts.map JsValue.string ∧ texts.Nodup ∧ texts.length ≤ 16 ∧
        ∀ text ∈ texts, SafeText bound text
  | _ => False

theorem safeValue_token {maxLength : ℕ} (token : SafeToken maxLength) :
    SafeValue maxLength token.value :=
  ⟨token.length_le, token.isToken, token.notIdentifier⟩

theorem safeValue_eventType (eventType : EvidenceEventType) :
    SafeValue 128 (.string eventType.text) := by
  cases eventType <;> exact ⟨by decide, by decide, by decide⟩

theorem safeValue_reasons (reasons : ReasonCodes) : SafeValue 80 reasons.value := by
  refine ⟨reasons.codes.map SafeToken.text, ?_, ?_, ?_, ?_⟩
  · rw [List.map_map]
    rfl
  · exact reasons.nodup.map fun a b hab => SafeToken.ext hab
  · rw [List.length_map]
    exact reasons.length_le
  · intro text htext
    obtain ⟨token, -, rfl⟩ := List.mem_map.mp htext
    exact safeValue_token token

theorem safeValue_assigned : ∀ entry ∈ card.assigned, entry.1 ≠ "timestamp" →
    ∀ value ∈ entry.2, SafeValue (lengthBound entry.1) value := by
  have htoken : ∀ {maxLength : ℕ} (token : Option (SafeToken maxLength)),
      ∀ value ∈ token.map SafeToken.value, SafeValue maxLength value := by
    intro maxLength token value hvalue
    obtain ⟨token, -, rfl⟩ := Option.map_eq_some_iff.mp hvalue
    exact safeValue_token token
  have hnumber : ∀ (p : Option Probability),
      ∀ value ∈ p.map (fun p => JsValue.number p.number), SafeValue 128 value := by
    intro p value hvalue
    obtain ⟨p, -, rfl⟩ := Option.map_eq_some_iff.mp hvalue
    exact trivial
  simp only [EvaluationEvidenceCardData.assigned, List.forall_mem_cons]
  refine ⟨fun _ => htoken (some card.id), ?_, fun _ => htoken (some card.surface),
    fun _ => htoken card.riskLevel, fun _ => hnumber card.humanPresenceLikelihood,
    fun _ => hnumber card.automationLikelihood, fun _ => hnumber card.agenticControlLikelihood,
    fun _ => hnumber card.confidence, ?_, fun _ => htoken card.evidencePacketId,
    fun _ => htoken card.decisionId, fun _ => htoken card.recommendedAction,
    fun hne => absurd rfl hne, by simp⟩
  · intro _ value hvalue
    cases hvalue
    exact safeValue_eventType card.eventType
  · intro _ value hvalue
    obtain ⟨reasons, -, rfl⟩ := Option.map_eq_some_iff.mp hvalue
    exact safeValue_reasons reasons

end

/-! ## Projection -/

section
variable (parses : ParsesDate)

/-- A card is made of the allowed fields alone. -/
theorem normalize_congr {raw raw' : JsValue}
    (h : ∀ name ∈ evaluationCardAllowedFields, readField raw' name = readField raw name)
    (options : EvaluationEvidenceCardNormalizationOptions) :
    normalizeEvaluationEvidenceCard parses raw' options =
      normalizeEvaluationEvidenceCard parses raw options := by
  simp only [evaluationCardAllowedFields, List.forall_mem_cons] at h
  obtain ⟨hid, heventType, hsurface, hrisk, hhuman, hautomation, hagentic, hconfidence, hreasons,
    hpacket, hdecision, haction, htime, -⟩ := h
  simp only [normalizeEvaluationEvidenceCard, hid, heventType, hsurface, hrisk, hhuman, hautomation,
    hagentic, hconfidence, hreasons, hpacket, hdecision, haction, htime]

/-- **Evidence cards.** A card has allowed fields only, its texts are safe tokens within their
bounds, it is its own normal form under any options, and it depends on nothing but the
allowed fields of what it was made of. -/
theorem normalizeEvaluationEvidenceCard_projection (raw : JsValue)
    (options : EvaluationEvidenceCardNormalizationOptions) :
    (∀ entry ∈ (normalizeEvaluationEvidenceCard parses raw options).entries,
      entry.1 ∈ evaluationCardAllowedFields ∧
        (entry.1 ≠ "timestamp" → SafeValue (lengthBound entry.1) entry.2)) ∧
    (∀ options', normalizeEvaluationEvidenceCard parses
        (normalizeEvaluationEvidenceCard parses raw options).object options' =
      normalizeEvaluationEvidenceCard parses raw options) ∧
    (∀ raw', (∀ name ∈ evaluationCardAllowedFields, readField raw' name = readField raw name) →
      normalizeEvaluationEvidenceCard parses raw' options =
        normalizeEvaluationEvidenceCard parses raw options) := by
  refine ⟨?_, normalize_object _, fun raw' h => normalize_congr parses h options⟩
  intro entry hentry
  have hassigned := (mem_entries _).mp hentry
  refine ⟨?_, fun hne => safeValue_assigned _ _ hassigned hne _ rfl⟩
  rw [← assigned_names]
  exact List.mem_map_of_mem hassigned

end

end TruePresenceESE.Dashboard
