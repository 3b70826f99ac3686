import TruePresenceESE.Lib.Raising
import TruePresenceESE.Telegram.AdapterWindows
import TruePresenceESE.Telegram.Detectors
import TruePresenceESE.Telegram.RemovalTarget

/-! # Parsing one update

The adapter reads an update member by member and writes its windows on the way. An update
that cannot be read to its end has written what came before the member that fails.
-/

namespace TruePresenceESE.Telegram

open JsonDict PyValue Raising Rounding Window

structure AdapterState where
  windows : AdapterWindows
  recentTexts : Dict String (List String)

def AdapterState.empty : AdapterState := ⟨.empty, .empty⟩

/-- What is asked of the world while one update is parsed: two readings of the clock, the
id of an evidence card and the warnings of the database. -/
structure Moment where
  now : ℚ
  velocityNow : ℚ
  evidenceId : String
  warningCount : Json → ℕ

/-- The interpreter, the validation of the models' members, and a tenant's adapter with the
provider from its configuration. -/
structure AdapterHost (rt : TextRuntime) where
  py : Interpreter
  parseFloat : String → Option ℚ
  sqrt : ℚ → ℚ
  log2 : ℚ → ℚ
  adapter : TelegramAdapter rt
  matchJson : rt.Match → Json
  safetyReference : Json → Except PyError Json
  safetyTimestamp : Json → Except PyError Json
  eventTimestamp : Json → Except PyError Json
  safetyProvider : Option (Json → Except PyError (Option ProviderRiskSignal))

section
variable {rt : TextRuntime} (host : AdapterHost rt) (moment : Moment)

/-! ## Sender and velocity -/

structure Opening where
  fromUser : Json
  chat : Json
  text : Json
  userId : String
  date : Json

def readOpening (message : Json) : Except PyError Opening := do
  let fromUser ← member message "from" (.obj [])
  let chat ← member message "chat" (.obj [])
  let text ← member message "text" (.str "")
  let id ← member fromUser "id" (.str "unknown")
  let date ← member message "date" (.num moment.now)
  return ⟨fromUser, chat, JsonDict.orElse text (.str ""), PyValue.str host.py id, date⟩

/-- Velocity takes the clock for a date that counts as absent. -/
def velocityTime (opening : Opening) : Except PyError ℚ :=
  toFloat host.parseFloat (JsonDict.orElse opening.date (.num moment.velocityNow))

def onWindows {α : Type} (f : AdapterWindows → α × AdapterWindows) :
    Raising AdapterState PyError α :=
  update fun s => ((f s.windows).1, { s with windows := (f s.windows).2 })

def messageVelocity (opening : Opening) : Raising AdapterState PyError ℕ :=
  if opening.userId = "" then pure 0
  else do
    let now ← attempt (velocityTime host moment opening)
    onWindows (·.calcMessageVelocity opening.userId now)

/-! ## Text -/

variable (rt) in
def wordSet (text : String) : List (List Char) := (PyText.words (rt.lower text).toList).dedup

def jaccard (left right : List (List Char)) : ℚ :=
  (left.filter (right.contains ·)).length / (left ++ right).dedup.length

variable (rt) in
/-- Mean similarity to the recent texts that have words. -/
def calcContentSimilarity (recent : List String) (text : String) : ℚ :=
  let currentWords := wordSet rt text
  let similarities := (recent.map (wordSet rt)).filterMap fun prevWords =>
    if prevWords.isEmpty then none else some (jaccard currentWords prevWords)
  if text = "" ∨ currentWords.isEmpty ∨ similarities.isEmpty then 0
  else roundTo 3 (similarities.sum / similarities.length)

def readText : Json → Except PyError String
  | .str text => .ok text
  | _ => .error .attributeError

/-- The text with its similarity, its analysis and its entry among the recent ones. -/
structure TextAnalysis (rt : TextRuntime) where
  text : String
  contentSimilarity : ℚ
  threatAnalysis : ThreatAnalysis rt

def analyzeText (opening : Opening) : Raising AdapterState PyError (TextAnalysis rt) := do
  let text ← attempt (readText opening.text)
  update fun s =>
    let recent := windowAt s.recentTexts opening.userId
    let similarity := calcContentSimilarity rt recent text
    (⟨text, similarity, analyzeContent host.adapter text similarity⟩,
      { s with recentTexts := s.recentTexts.set opening.userId (push 10 recent text) })

/-! ## Placement -/

structure Placement where
  chatId : String
  linkPresent : Bool
  mediaPresent : Bool
  timestamp : ℚ

def isLinkEntity (entity : Json) : Except PyError Bool :=
  match entity with
  | .obj fields => memberOf ["url", "text_link"] (((Json.obj fields).get? "type").getD .null)
  | _ => .ok false

/-- The first link ends the search. -/
def anyLinkEntity : List Json → Except PyError Bool
  | [] => .ok false
  | entity :: rest => do
      if ← isLinkEntity entity then return true
      anyLinkEntity rest

/-- `message.get(key) or []`, to be iterated over. -/
def messageEntities (message : Json) (key : String) : Except PyError (List Json) := do
  let value ← member message key .null
  match iterate (JsonDict.orElse value (.arr [])) with
  | some entities => return entities
  | none => throw .typeError

def messageHasLinkEntity (message : Json) : Except PyError Bool := do
  let entities ← messageEntities message "entities"
  if ← anyLinkEntity entities then return true
  let captionEntities ← messageEntities message "caption_entities"
  anyLinkEntity captionEntities

def mediaKeys : List String :=
  ["photo", "video", "document", "animation", "audio", "voice", "video_note", "sticker"]

def messageHasMedia (message : Json) : Bool :=
  mediaKeys.any fun key => PyValue.truthy ((message.get? key).getD .null)

/-- The date itself is read here, also where velocity took the clock. -/
def readPlacement (message : Json) (opening : Opening) : Except PyError Placement := do
  let chatId ← member opening.chat "id" (.str "unknown")
  let linkPresent ← messageHasLinkEntity message
  let timestamp ← toFloat host.parseFloat opening.date
  return ⟨PyValue.str host.py chatId, linkPresent, messageHasMedia message, timestamp⟩

/-! ## Safety -/

/-- Days by ranges of the id. -/
def estimateAccountAge (user : Json) : Except PyError ℕ :=
  let id := (user.get? "id").getD (.num 0)
  if PyValue.truthy id then do
    let n ← number id
    return if n < 100000 then 4500 else if n < 10000000 then 3500 else if n < 100000000 then 2500
      else if n < 500000000 then 1200 else if n < 1000000000 then 600
      else if n < 5000000000 then 180 else 30
  else .ok 30

def buildSafetyFeaturesForMessage (message : Json) (opening : Opening) (placement : Placement)
    (community : TelegramCommunityFeatures) (accountAgeDays : ℕ) (activity : AdapterWindows.MediaActivity) :
    Except PyError TelegramSafetyFeatures := do
  let chatId ← host.safetyReference ((opening.chat.get? "id").getD .null)
  let messageId ← host.safetyReference ((message.get? "message_id").getD .null)
  let senderId ← host.safetyReference ((opening.fromUser.get? "id").getD .null)
  let eventTimestamp ← host.safetyTimestamp opening.date
  return {
    chatId, messageId, senderId, eventTimestamp
    mediaPresent := placement.mediaPresent
    joinToFirstMediaMs := community.joinToFirstMediaMs
    mediaCountWindow := activity.mediaCountWindow
    mediaBurstCount := activity.mediaBurstCount
    synchronizedMediaPeerCount := activity.synchronizedMediaPeerCount
    groupHopCount := community.groupHopCount.getD 0
    accountAgeDays := some accountAgeDays }

/-- Only of media the provider is told, and of media only these references. -/
def providerSignalForMedia (features : TelegramSafetyFeatures) :
    Except PyError (Option ProviderRiskSignal) :=
  match features.mediaPresent, host.safetyProvider with
  | true, some provider =>
      provider (.obj [("chat_id", features.chatId), ("message_id", features.messageId),
        ("sender_id", features.senderId), ("event_timestamp", features.eventTimestamp),
        ("event_type", .str features.eventType), ("media_present", .bool features.mediaPresent)])
  | _, _ => .ok none

/-! ## Messages -/

/-- What a message is seen to be, before a provider is asked. -/
structure Observation (rt : TextRuntime) where
  opening : Opening
  messageVelocity : ℕ
  text : TextAnalysis rt
  placement : Placement
  community : TelegramCommunityFeatures
  safety : TelegramSafetyFeatures

def observeMessage (message : Json) : Raising AdapterState PyError (Observation rt) := do
  let opening ← attempt (readOpening host moment message)
  let velocity ← messageVelocity host moment opening
  let text ← analyzeText host opening
  let placement ← attempt (readPlacement host message opening)
  let community ← onWindows (·.buildCommunityFeaturesForMessage host.sqrt opening.userId
    placement.chatId placement.timestamp placement.mediaPresent placement.linkPresent)
  let accountAgeDays ← attempt (estimateAccountAge opening.fromUser)
  let activity ← onWindows (·.observeMedia opening.userId placement.chatId placement.timestamp
    placement.mediaPresent)
  let safety ← attempt (buildSafetyFeaturesForMessage host message opening placement community
    accountAgeDays activity)
  return ⟨opening, velocity, text, placement, community, safety⟩

def threatIndicators (analysis : ThreatAnalysis rt) : List (String × Json) :=
  let score (name : String) : Json := .num ((analysis.scores.get? name).getD 0)
  [("torrent_indicators", score "torrent_sharing"),
    ("crypto_mining_indicators", score "crypto_mining"), ("vnc_indicators", score "remote_access"),
    ("copyright_indicators", score "copyright_violation"),
    ("illegal_indicators", score "illegal_content"),
    ("mirrored_content_score", score "mirrored_content")]

def dumpThreatAnalysis (analysis : ThreatAnalysis rt) : Json :=
  .obj [("threats_detected", .arr (analysis.threatsDetected.map .str)),
    ("scores", .obj (analysis.scores.items.map fun p => (p.1, .num p.2))),
    ("matches", .obj (analysis.found.items.map fun p => (p.1, .arr (p.2.map host.matchJson))))]

def communityOf (features : TelegramCommunityFeatures) : Json :=
  communityContext features (runTelegramCommunityDetectors features)

def safetyOf (o : Observation rt) (provider : Option ProviderRiskSignal) : Json :=
  safetyContext (evaluateTelegramSafetyEscalation moment.evidenceId o.safety provider) o.safety

def analyzeMessage (message : Json) : Raising AdapterState PyError MessageAnalysis := do
  let o ← observeMessage host moment message
  let provider ← attempt (providerSignalForMedia host o.safety)
  let timestamp ← attempt (host.eventTimestamp o.opening.date)
  let behavior := [("message_velocity", Json.num o.messageVelocity),
    ("content_similarity", .num o.text.contentSimilarity)]
  return {
    timestamp
    features := .obj ([("text_length", .num o.text.text.length)] ++
      threatIndicators o.text.threatAnalysis ++ behavior ++ communityFeatureScores o.community)
    signals := .obj (behavior ++ threatIndicators o.text.threatAnalysis ++
      communitySignalScores (runTelegramCommunityDetectors o.community))
    community := communityOf o.community
    safety := safetyOf moment o provider
    threatAnalysis := dumpThreatAnalysis host o.text.threatAnalysis }

/-! ## Changes of membership -/

/-- Entropy of what a name consists of; items have to be hashable. -/
def calcEntropy (name : Json) : Except PyError ℚ :=
  if PyValue.truthy name then
    match (iterate name).bind (·.mapM hashKey) with
    | none => .error .typeError
    | some items =>
        let share (key : HashKey) : ℚ := items.count key / items.length
        .ok (roundTo 2 (-(items.eraseDups.map fun key => share key * host.log2 (share key)).sum))
  else .ok 0

def getWarningCount (userId : Json) : ℕ :=
  if PyValue.truthy userId then moment.warningCount userId else 0

structure MemberReading where
  user : Json
  date : Json
  eventType : String
  userId : String
  chatId : String
  timestamp : ℚ

/-- A change of membership takes the clock for a date that counts as absent. -/
def readChatMember (chatMember : Json) : Except PyError MemberReading := do
  let user ← member chatMember "user" (.obj [])
  let chat ← member chatMember "chat" (.obj [])
  let newMember ← member chatMember "new_chat_member" (.obj [])
  let newStatus ← member newMember "status" (.str "")
  let eventType ← memberEventType newStatus
  let userId ← member user "id" (.str "unknown")
  let chatId ← member chat "id" (.str "unknown")
  let date ← member chatMember "date" (.num 0)
  let timestamp ← toFloat host.parseFloat (JsonDict.orElse date (.num moment.now))
  return ⟨user, date, eventType, PyValue.str host.py userId, PyValue.str host.py chatId, timestamp⟩

/-- A join is recorded first. -/
def observeMember (reading : MemberReading) (w : AdapterWindows) :
    TelegramCommunityFeatures × AdapterWindows :=
  let joined := if reading.eventType = "member_join" then
      w.recordJoinMetadata reading.userId reading.chatId reading.timestamp
    else w
  joined.buildCommunityFeaturesForMember reading.userId reading.chatId reading.timestamp

def memberIndicators : List (String × Json) :=
  [("torrent_indicators", .num 0), ("crypto_mining_indicators", .num 0), ("vnc_indicators", .num 0),
    ("copyright_indicators", .num 0), ("illegal_indicators", .num 0),
    ("mirrored_content_score", .num 0)]

def analyzeMember (chatMember : Json) : Raising AdapterState PyError MemberAnalysis := do
  let reading ← attempt (readChatMember host moment chatMember)
  let community ← onWindows (observeMember reading)
  let oldMember ← attempt (member chatMember "old_chat_member" (.obj []))
  let _ ← attempt (member oldMember "status" (.str ""))
  let accountAgeDays ← attempt (estimateAccountAge reading.user)
  let usernameEntropy ← attempt
    (calcEntropy host ((reading.user.get? "username").getD (.str "")))
  let timestamp ← attempt (host.eventTimestamp reading.date)
  return {
    timestamp
    features := .obj ([("account_age_days", .num accountAgeDays),
      ("username_entropy", .num usernameEntropy),
      ("previous_warnings",
        .num (getWarningCount moment ((reading.user.get? "id").getD .null)))] ++
      memberIndicators ++ communityFeatureScores community)
    signals := .obj (memberIndicators ++
      communitySignalScores (runTelegramCommunityDetectors community))
    community := communityOf community }

/-! ## Updates -/

/-- The first kind of update that is present. -/
inductive Received where
  | message (message : Json)
  | chatMember (chatMember : Json)
  | other

def received (update : Json) : Received :=
  match update.get? "message", update.get? "edited_message", update.get? "chat_member",
    update.get? "my_chat_member" with
  | some message, _, _, _ => .message message
  | none, some message, _, _ => .message message
  | none, none, some chatMember, _ => .chatMember chatMember
  | none, none, none, some chatMember => .chatMember chatMember
  | none, none, none, none => .other

/-- The analysis first: what an event takes from its message cannot fail after it. -/
def TelegramAdapter.parseUpdate (update : Json) : Raising AdapterState PyError (Option Json) :=
  match received update with
  | .message message => do
      let analysis ← analyzeMessage host moment message
      let event ← attempt (parseMessage ⟨fun _ => .ok analysis, fun _ => .error .typeError⟩ message)
      return some event
  | .chatMember chatMember => do
      let analysis ← analyzeMember host moment chatMember
      let event ← attempt
        (parseChatMember ⟨fun _ => .error .typeError, fun _ => .ok analysis⟩ chatMember)
      return some event
  | .other => pure none

end

end TruePresenceESE.Telegram
