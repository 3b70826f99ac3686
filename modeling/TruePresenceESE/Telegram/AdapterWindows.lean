import TruePresenceESE.Lib.Selection
import TruePresenceESE.Lib.Window
import TruePresenceESE.Telegram.CommunityDetectors
import TruePresenceESE.Telegram.SafetyPolicy

/-! # The adapter's windows

What the adapter remembers of users and chats: times of messages, joins and media in
bounded windows, and for each member of a chat the join and the latency of the first
actions after it.
-/

namespace TruePresenceESE.Telegram

open Window Rounding

structure AdapterWindows where
  userMessageTimes : Dict String (List ℚ)
  userChatJoinTimes : Dict (String × String) ℚ
  userChatFirstMessageMs : Dict (String × String) ℚ
  userChatFirstMediaMs : Dict (String × String) ℚ
  userChatFirstLinkMs : Dict (String × String) ℚ
  chatJoinTimes : Dict String (List ℚ)
  chatMessageTimes : Dict String (List (ℚ × String))
  userJoinedGroups : Dict String (List String)
  userMediaTimes : Dict String (List ℚ)
  chatMediaTimes : Dict String (List (ℚ × String))

/-- A window nothing was written to is empty. -/
def windowAt {α : Type} (windows : Dict String (List α)) (key : String) : List α :=
  (windows.get? key).getD []

namespace AdapterWindows

def empty : AdapterWindows :=
  ⟨.empty, .empty, .empty, .empty, .empty, .empty, .empty, .empty, .empty, .empty⟩

/-! ## Velocity -/

/-- Messages per minute, this one among them. -/
def calcMessageVelocity (w : AdapterWindows) (userId : String) (now : ℚ) : ℕ × AdapterWindows :=
  let recent := prune id (now - 60) (push 100 (windowAt w.userMessageTimes userId) now)
  (recent.length, { w with userMessageTimes := w.userMessageTimes.set userId recent })

/-- `max(0.0, (right - left) * 1000)` of neighbors. -/
def intervals (times : List ℚ) : List ℚ :=
  times.zipWith (fun left right => max 0 ((right - left) * 1000)) times.tail

def mean (values : List ℚ) : ℚ := values.sum / values.length

/-- `statistics.pstdev` -/
def pstdev (sqrt : ℚ → ℚ) (values : List ℚ) : ℚ :=
  sqrt (mean (values.map fun value => (value - mean values) ^ 2))

structure IntervalSummary where
  messageCountWindow : ℕ
  burstCount : ℕ
  meanMessageIntervalMs : Option ℚ
  messageIntervalStddevMs : Option ℚ

def messageIntervalSummary (sqrt : ℚ → ℚ) (w : AdapterWindows) (userId : String) :
    IntervalSummary :=
  let recent := windowAt w.userMessageTimes userId
  let between := intervals recent
  if between.isEmpty then ⟨recent.length, 0, none, none⟩
  else
    ⟨recent.length, between.countP (· ≤ 2000), some (roundTo 3 (mean between)),
      some (if 1 < between.length then roundTo 3 (pstdev sqrt between) else 0)⟩

/-! ## Joins -/

def recordJoinMetadata (w : AdapterWindows) (userId chatId : String) (timestamp : ℚ) :
    AdapterWindows :=
  let key := (userId, chatId)
  let chatJoins := prune id (timestamp - 60) (push 250 (windowAt w.chatJoinTimes chatId) timestamp)
  let joinedGroups := windowAt w.userJoinedGroups userId
  { w with
    userChatJoinTimes := w.userChatJoinTimes.set key timestamp
    userChatFirstMessageMs := w.userChatFirstMessageMs.erase key
    userChatFirstMediaMs := w.userChatFirstMediaMs.erase key
    userChatFirstLinkMs := w.userChatFirstLinkMs.erase key
    chatJoinTimes := w.chatJoinTimes.set chatId chatJoins
    userJoinedGroups := w.userJoinedGroups.set userId
      (if joinedGroups.contains chatId then joinedGroups else push 50 joinedGroups chatId) }

/-- Counting prunes. -/
def joinedWithinClusterCount (w : AdapterWindows) (chatId : String) (timestamp : ℚ) :
    ℕ × AdapterWindows :=
  let recent := prune id (timestamp - 60) (windowAt w.chatJoinTimes chatId)
  (recent.length, { w with chatJoinTimes := w.chatJoinTimes.set chatId recent })

def groupHopCount (w : AdapterWindows) (userId : String) : ℕ :=
  (windowAt w.userJoinedGroups userId).dedup.length

def buildCommunityFeaturesForMember (w : AdapterWindows) (userId chatId : String) (timestamp : ℚ) :
    TelegramCommunityFeatures × AdapterWindows :=
  let (count, counted) := w.joinedWithinClusterCount chatId timestamp
  ({ joinedWithinClusterCount := some count
     groupHopCount := some (groupHopCount w userId) }, counted)

/-! ## Messages -/

/-- The latency that is stored, or that of this action if it is the first one. -/
def firstActionLatencyMs (store : Dict (String × String) ℚ) (key : String × String)
    (joinTime : Option ℚ) (timestamp : ℚ) (condition : Bool) :
    Option ℚ × Dict (String × String) ℚ :=
  match condition, joinTime, store.get? key with
  | true, some joined, none =>
      let latency := max 0 ((timestamp - joined) * 1000)
      (some latency, store.set key latency)
  | _, _, stored => (stored, store)

/-- Distinct users of a window other than the user. -/
def peerCount (window : List (ℚ × String)) (userId : String) : ℕ :=
  ((window.map Prod.snd).filter (· ≠ userId)).dedup.length

def synchronizedPeerCount (w : AdapterWindows) (chatId userId : String) (timestamp : ℚ) :
    ℕ × AdapterWindows :=
  let recent := prune Prod.fst (timestamp - 3) (windowAt w.chatMessageTimes chatId)
  (peerCount recent userId, { w with chatMessageTimes := w.chatMessageTimes.set chatId recent })

def recordMessageCluster (w : AdapterWindows) (chatId userId : String) (timestamp : ℚ) :
    AdapterWindows :=
  let recent := prune Prod.fst (timestamp - 60)
    (push 250 (windowAt w.chatMessageTimes chatId) (timestamp, userId))
  { w with chatMessageTimes := w.chatMessageTimes.set chatId recent }

structure Latencies where
  message : Option ℚ
  media : Option ℚ
  link : Option ℚ

def firstActions (w : AdapterWindows) (userId chatId : String) (timestamp : ℚ)
    (mediaPresent linkPresent : Bool) : Latencies × AdapterWindows :=
  let key := (userId, chatId)
  let joinTime := w.userChatJoinTimes.get? key
  let message := firstActionLatencyMs w.userChatFirstMessageMs key joinTime timestamp true
  let media := firstActionLatencyMs w.userChatFirstMediaMs key joinTime timestamp mediaPresent
  let link := firstActionLatencyMs w.userChatFirstLinkMs key joinTime timestamp linkPresent
  (⟨message.1, media.1, link.1⟩,
    { w with
      userChatFirstMessageMs := message.2
      userChatFirstMediaMs := media.2
      userChatFirstLinkMs := link.2 })

def buildCommunityFeaturesForMessage (sqrt : ℚ → ℚ) (w : AdapterWindows) (userId chatId : String)
    (timestamp : ℚ) (mediaPresent linkPresent : Bool) : TelegramCommunityFeatures × AdapterWindows :=
  let (latencies, acted) := w.firstActions userId chatId timestamp mediaPresent linkPresent
  let summary := messageIntervalSummary sqrt acted userId
  let (peers, synchronized) := acted.synchronizedPeerCount chatId userId timestamp
  let recorded := synchronized.recordMessageCluster chatId userId timestamp
  let (joins, counted) := recorded.joinedWithinClusterCount chatId timestamp
  ({ joinToFirstMessageMs := latencies.message
     joinToFirstMediaMs := latencies.media
     joinToFirstLinkMs := latencies.link
     messageCountWindow := some summary.messageCountWindow
     burstCount := some summary.burstCount
     meanMessageIntervalMs := summary.meanMessageIntervalMs
     messageIntervalStddevMs := summary.messageIntervalStddevMs
     joinedWithinClusterCount := some joins
     synchronizedPeerCount := some peers
     groupHopCount := some (groupHopCount counted userId)
     linkPresent := linkPresent
     mediaPresent := mediaPresent }, counted)

/-! ## Media -/

/-- Count and bursts of the user's media in the last minute, this one among them. -/
def mediaIntervalSummary (w : AdapterWindows) (userId : String) (timestamp : ℚ)
    (mediaPresent : Bool) : (ℕ × ℕ) × AdapterWindows :=
  let times := windowAt w.userMediaTimes userId
  let recent := prune id (timestamp - 60) (if mediaPresent then push 100 times timestamp else times)
  ((recent.length, (intervals recent).countP (· ≤ 10000)),
    { w with userMediaTimes := w.userMediaTimes.set userId recent })

def synchronizedMediaPeerCount (w : AdapterWindows) (chatId userId : String) (timestamp : ℚ) :
    ℕ × AdapterWindows :=
  let recent := prune Prod.fst (timestamp - 10) (windowAt w.chatMediaTimes chatId)
  (peerCount recent userId, { w with chatMediaTimes := w.chatMediaTimes.set chatId recent })

def recordMediaCluster (w : AdapterWindows) (chatId userId : String) (timestamp : ℚ) :
    AdapterWindows :=
  let recent := prune Prod.fst (timestamp - 60)
    (push 250 (windowAt w.chatMediaTimes chatId) (timestamp, userId))
  { w with chatMediaTimes := w.chatMediaTimes.set chatId recent }

/-- What the safety features take from the windows. -/
structure MediaActivity where
  mediaCountWindow : ℕ
  mediaBurstCount : ℕ
  synchronizedMediaPeerCount : ℕ

def observeMedia (w : AdapterWindows) (userId chatId : String) (timestamp : ℚ)
    (mediaPresent : Bool) : MediaActivity × AdapterWindows :=
  let (summary, summarized) := w.mediaIntervalSummary userId timestamp mediaPresent
  let (peers, synchronized) := summarized.synchronizedMediaPeerCount chatId userId timestamp
  (⟨summary.1, summary.2, if mediaPresent then peers else 0⟩,
    if mediaPresent then synchronized.recordMediaCluster chatId userId timestamp else synchronized)

/-! ## Events

An update acts on the windows by a few events, in order; one that raises has left the
events before it.
-/

inductive Event where
  /-- A message of the user, at the time that velocity takes for now. -/
  | velocity (userId : String) (now : ℚ)
  | joined (userId chatId : String) (timestamp : ℚ)
  /-- Any change of membership counts the joins. -/
  | member (chatId : String) (timestamp : ℚ)
  | message (userId chatId : String) (timestamp : ℚ) (mediaPresent linkPresent : Bool)
  | media (userId chatId : String) (timestamp : ℚ) (mediaPresent : Bool)

/-- The intervals are only read, so the windows do not depend on the root. -/
def apply (w : AdapterWindows) : Event → AdapterWindows
  | .velocity userId now => (w.calcMessageVelocity userId now).2
  | .joined userId chatId timestamp => w.recordJoinMetadata userId chatId timestamp
  | .member chatId timestamp => (w.joinedWithinClusterCount chatId timestamp).2
  | .message userId chatId timestamp mediaPresent linkPresent =>
      (w.buildCommunityFeaturesForMessage (fun q => q) userId chatId timestamp mediaPresent
        linkPresent).2
  | .media userId chatId timestamp mediaPresent =>
      (w.observeMedia userId chatId timestamp mediaPresent).2

def applyAll (w : AdapterWindows) (events : List Event) : AdapterWindows := events.foldl apply w

theorem buildCommunityFeaturesForMember_snd (w : AdapterWindows) (userId chatId : String)
    (timestamp : ℚ) : (w.buildCommunityFeaturesForMember userId chatId timestamp).2 =
      w.apply (.member chatId timestamp) :=
  rfl

theorem buildCommunityFeaturesForMessage_snd (sqrt : ℚ → ℚ) (w : AdapterWindows)
    (userId chatId : String) (timestamp : ℚ) (mediaPresent linkPresent : Bool) :
    (w.buildCommunityFeaturesForMessage sqrt userId chatId timestamp mediaPresent linkPresent).2 =
      w.apply (.message userId chatId timestamp mediaPresent linkPresent) :=
  rfl

@[simp] theorem windowAt_set_self {α : Type} (windows : Dict String (List α)) (key : String)
    (window : List α) : windowAt (windows.set key window) key = window := by
  simp [windowAt]

theorem windowAt_set {α : Type} (windows : Dict String (List α)) (key other : String)
    (window : List α) : windowAt (windows.set key window) other =
      if key = other then window else windowAt windows other := by
  unfold windowAt
  rw [Dict.get?_set]
  split <;> rfl

end AdapterWindows

end TruePresenceESE.Telegram
