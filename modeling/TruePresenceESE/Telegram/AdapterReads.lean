import TruePresenceESE.Telegram.AdapterRuns

/-! # States that read the same

An adapter reads its windows and tables by key, and a window that is empty like one that was
never opened. States that read the same parse every update to the same event, and read the
same again afterwards.
-/

namespace TruePresenceESE.Telegram

open AdapterWindows JsonDict PyValue Raising Window

namespace AdapterWindows

structure SameReads (w w' : AdapterWindows) : Prop where
  userMessageTimes : ∀ k, windowAt w.userMessageTimes k = windowAt w'.userMessageTimes k
  userChatJoinTimes : ∀ k, w.userChatJoinTimes.get? k = w'.userChatJoinTimes.get? k
  userChatFirstMessageMs : ∀ k, w.userChatFirstMessageMs.get? k = w'.userChatFirstMessageMs.get? k
  userChatFirstMediaMs : ∀ k, w.userChatFirstMediaMs.get? k = w'.userChatFirstMediaMs.get? k
  userChatFirstLinkMs : ∀ k, w.userChatFirstLinkMs.get? k = w'.userChatFirstLinkMs.get? k
  chatJoinTimes : ∀ k, windowAt w.chatJoinTimes k = windowAt w'.chatJoinTimes k
  chatMessageTimes : ∀ k, windowAt w.chatMessageTimes k = windowAt w'.chatMessageTimes k
  userJoinedGroups : ∀ k, windowAt w.userJoinedGroups k = windowAt w'.userJoinedGroups k
  userMediaTimes : ∀ k, windowAt w.userMediaTimes k = windowAt w'.userMediaTimes k
  chatMediaTimes : ∀ k, windowAt w.chatMediaTimes k = windowAt w'.chatMediaTimes k

theorem SameReads.refl (w : AdapterWindows) : SameReads w w :=
  ⟨fun _ => rfl, fun _ => rfl, fun _ => rfl, fun _ => rfl, fun _ => rfl, fun _ => rfl,
    fun _ => rfl, fun _ => rfl, fun _ => rfl, fun _ => rfl⟩

theorem SameReads.symm {w w' : AdapterWindows} (h : SameReads w w') : SameReads w' w where
  userMessageTimes k := (h.userMessageTimes k).symm
  userChatJoinTimes k := (h.userChatJoinTimes k).symm
  userChatFirstMessageMs k := (h.userChatFirstMessageMs k).symm
  userChatFirstMediaMs k := (h.userChatFirstMediaMs k).symm
  userChatFirstLinkMs k := (h.userChatFirstLinkMs k).symm
  chatJoinTimes k := (h.chatJoinTimes k).symm
  chatMessageTimes k := (h.chatMessageTimes k).symm
  userJoinedGroups k := (h.userJoinedGroups k).symm
  userMediaTimes k := (h.userMediaTimes k).symm
  chatMediaTimes k := (h.chatMediaTimes k).symm

theorem SameReads.trans {u v w : AdapterWindows} (h : SameReads u v) (h' : SameReads v w) :
    SameReads u w where
  userMessageTimes k := (h.userMessageTimes k).trans (h'.userMessageTimes k)
  userChatJoinTimes k := (h.userChatJoinTimes k).trans (h'.userChatJoinTimes k)
  userChatFirstMessageMs k := (h.userChatFirstMessageMs k).trans (h'.userChatFirstMessageMs k)
  userChatFirstMediaMs k := (h.userChatFirstMediaMs k).trans (h'.userChatFirstMediaMs k)
  userChatFirstLinkMs k := (h.userChatFirstLinkMs k).trans (h'.userChatFirstLinkMs k)
  chatJoinTimes k := (h.chatJoinTimes k).trans (h'.chatJoinTimes k)
  chatMessageTimes k := (h.chatMessageTimes k).trans (h'.chatMessageTimes k)
  userJoinedGroups k := (h.userJoinedGroups k).trans (h'.userJoinedGroups k)
  userMediaTimes k := (h.userMediaTimes k).trans (h'.userMediaTimes k)
  chatMediaTimes k := (h.chatMediaTimes k).trans (h'.chatMediaTimes k)

theorem windowAt_set_congr {α : Type} {d d' : Dict String (List α)} {window window' : List α}
    (h : ∀ k, windowAt d k = windowAt d' k) (hwindow : window = window') (key k : String) :
    windowAt (d.set key window) k = windowAt (d'.set key window') k := by
  rw [windowAt_set, windowAt_set, h, hwindow]

theorem get?_set_congr {κ α : Type} [DecidableEq κ] {d d' : Dict κ α} {v v' : α}
    (h : ∀ k, d.get? k = d'.get? k) (hvalue : v = v') (key k : κ) :
    (d.set key v).get? k = (d'.set key v').get? k := by
  rw [Dict.get?_set, Dict.get?_set, h, hvalue]

theorem get?_erase_congr {κ α : Type} [DecidableEq κ] {d d' : Dict κ α}
    (h : ∀ k, d.get? k = d'.get? k) (key k : κ) :
    (d.erase key).get? k = (d'.erase key).get? k := by
  by_cases hk : key = k
  · rw [hk, Dict.get?_erase_self, Dict.get?_erase_self]
  · rw [Dict.get?_erase_ne _ hk, Dict.get?_erase_ne _ hk, h]

/-! ## Steps on windows -/

/-- A step that reports the same where the windows read the same, and leaves them so. -/
def Uniform {α : Type} (f : AdapterWindows → α × AdapterWindows) : Prop :=
  ∀ w w', SameReads w w' → (f w).1 = (f w').1 ∧ SameReads (f w).2 (f w').2

theorem uniform_calcMessageVelocity (userId : String) (now : ℚ) :
    Uniform fun w => w.calcMessageVelocity userId now := by
  intro w w' h
  have hwindow := h.userMessageTimes userId
  refine ⟨by simp only [calcMessageVelocity, hwindow], ?_⟩
  exact { h with userMessageTimes := windowAt_set_congr h.userMessageTimes (by rw [hwindow]) _ }

theorem uniform_joinedWithinClusterCount (chatId : String) (timestamp : ℚ) :
    Uniform fun w => w.joinedWithinClusterCount chatId timestamp := by
  intro w w' h
  have hwindow := h.chatJoinTimes chatId
  refine ⟨by simp only [joinedWithinClusterCount, hwindow], ?_⟩
  exact { h with chatJoinTimes := windowAt_set_congr h.chatJoinTimes (by rw [hwindow]) _ }

theorem uniform_synchronizedPeerCount (chatId userId : String) (timestamp : ℚ) :
    Uniform fun w => w.synchronizedPeerCount chatId userId timestamp := by
  intro w w' h
  have hwindow := h.chatMessageTimes chatId
  refine ⟨by simp only [synchronizedPeerCount, hwindow], ?_⟩
  exact { h with chatMessageTimes := windowAt_set_congr h.chatMessageTimes (by rw [hwindow]) _ }

theorem uniform_synchronizedMediaPeerCount (chatId userId : String) (timestamp : ℚ) :
    Uniform fun w => w.synchronizedMediaPeerCount chatId userId timestamp := by
  intro w w' h
  have hwindow := h.chatMediaTimes chatId
  refine ⟨by simp only [synchronizedMediaPeerCount, hwindow], ?_⟩
  exact { h with chatMediaTimes := windowAt_set_congr h.chatMediaTimes (by rw [hwindow]) _ }

theorem uniform_mediaIntervalSummary (userId : String) (timestamp : ℚ) (mediaPresent : Bool) :
    Uniform fun w => w.mediaIntervalSummary userId timestamp mediaPresent := by
  intro w w' h
  have hwindow := h.userMediaTimes userId
  refine ⟨by simp only [mediaIntervalSummary, hwindow], ?_⟩
  exact { h with userMediaTimes := windowAt_set_congr h.userMediaTimes (by rw [hwindow]) _ }

theorem SameReads.recordMessageCluster {w w' : AdapterWindows} (h : SameReads w w')
    (chatId userId : String) (timestamp : ℚ) :
    SameReads (w.recordMessageCluster chatId userId timestamp)
      (w'.recordMessageCluster chatId userId timestamp) :=
  { h with chatMessageTimes :=
      windowAt_set_congr h.chatMessageTimes (by rw [h.chatMessageTimes chatId]) _ }

theorem SameReads.recordMediaCluster {w w' : AdapterWindows} (h : SameReads w w')
    (chatId userId : String) (timestamp : ℚ) :
    SameReads (w.recordMediaCluster chatId userId timestamp)
      (w'.recordMediaCluster chatId userId timestamp) :=
  { h with chatMediaTimes :=
      windowAt_set_congr h.chatMediaTimes (by rw [h.chatMediaTimes chatId]) _ }

theorem SameReads.recordJoinMetadata {w w' : AdapterWindows} (h : SameReads w w')
    (userId chatId : String) (timestamp : ℚ) :
    SameReads (w.recordJoinMetadata userId chatId timestamp)
      (w'.recordJoinMetadata userId chatId timestamp) :=
  { h with
    userChatJoinTimes := get?_set_congr h.userChatJoinTimes rfl _
    userChatFirstMessageMs := get?_erase_congr h.userChatFirstMessageMs _
    userChatFirstMediaMs := get?_erase_congr h.userChatFirstMediaMs _
    userChatFirstLinkMs := get?_erase_congr h.userChatFirstLinkMs _
    chatJoinTimes := windowAt_set_congr h.chatJoinTimes (by rw [h.chatJoinTimes chatId]) _
    userJoinedGroups :=
      windowAt_set_congr h.userJoinedGroups (by rw [h.userJoinedGroups userId]) _ }

/-- Latencies of a table that reads the same. -/
theorem firstActionLatencyMs_congr {d d' : Dict (String × String) ℚ}
    (h : ∀ k, d.get? k = d'.get? k) (key : String × String) (joinTime : Option ℚ) (timestamp : ℚ)
    (condition : Bool) :
    (firstActionLatencyMs d key joinTime timestamp condition).1 =
        (firstActionLatencyMs d' key joinTime timestamp condition).1 ∧
      ∀ k, (firstActionLatencyMs d key joinTime timestamp condition).2.get? k =
        (firstActionLatencyMs d' key joinTime timestamp condition).2.get? k := by
  unfold firstActionLatencyMs
  rw [h key]
  split
  · exact ⟨rfl, get?_set_congr h rfl key⟩
  · exact ⟨rfl, h⟩

theorem uniform_firstActions (userId chatId : String) (timestamp : ℚ)
    (mediaPresent linkPresent : Bool) :
    Uniform fun w => w.firstActions userId chatId timestamp mediaPresent linkPresent := by
  intro w w' h
  have hjoin := h.userChatJoinTimes (userId, chatId)
  have hmessage := firstActionLatencyMs_congr h.userChatFirstMessageMs (userId, chatId)
    (w'.userChatJoinTimes.get? (userId, chatId)) timestamp true
  have hmedia := firstActionLatencyMs_congr h.userChatFirstMediaMs (userId, chatId)
    (w'.userChatJoinTimes.get? (userId, chatId)) timestamp mediaPresent
  have hlink := firstActionLatencyMs_congr h.userChatFirstLinkMs (userId, chatId)
    (w'.userChatJoinTimes.get? (userId, chatId)) timestamp linkPresent
  dsimp only [firstActions]
  rw [hjoin]
  exact ⟨by rw [hmessage.1, hmedia.1, hlink.1],
    { h with
      userChatFirstMessageMs := hmessage.2
      userChatFirstMediaMs := hmedia.2
      userChatFirstLinkMs := hlink.2 }⟩

theorem uniform_buildCommunityFeaturesForMember (userId chatId : String) (timestamp : ℚ) :
    Uniform fun w => w.buildCommunityFeaturesForMember userId chatId timestamp := by
  intro w w' h
  obtain ⟨hcount, hcounted⟩ := uniform_joinedWithinClusterCount chatId timestamp w w' h
  refine ⟨?_, hcounted⟩
  simp only [buildCommunityFeaturesForMember, groupHopCount, h.userJoinedGroups userId]
  rw [show (w.joinedWithinClusterCount chatId timestamp).1 =
    (w'.joinedWithinClusterCount chatId timestamp).1 from hcount]

theorem uniform_buildCommunityFeaturesForMessage (sqrt : ℚ → ℚ) (userId chatId : String)
    (timestamp : ℚ) (mediaPresent linkPresent : Bool) :
    Uniform fun w => w.buildCommunityFeaturesForMessage sqrt userId chatId timestamp mediaPresent
      linkPresent := by
  intro w w' h
  obtain ⟨hfirst, hacted⟩ :=
    uniform_firstActions userId chatId timestamp mediaPresent linkPresent w w' h
  obtain ⟨hpeers, hsynchronized⟩ :=
    uniform_synchronizedPeerCount chatId userId timestamp _ _ hacted
  obtain ⟨hjoins, hcounted⟩ := uniform_joinedWithinClusterCount chatId timestamp _ _
    (hsynchronized.recordMessageCluster chatId userId timestamp)
  refine ⟨?_, hcounted⟩
  dsimp only at hfirst hpeers hjoins
  have htimes := hacted.userMessageTimes userId
  have hgroups := hcounted.userJoinedGroups userId
  dsimp only [buildCommunityFeaturesForMessage]
  rw [hfirst, hpeers, hjoins]
  simp only [messageIntervalSummary, groupHopCount, htimes, hgroups]

theorem uniform_observeMedia (userId chatId : String) (timestamp : ℚ) (mediaPresent : Bool) :
    Uniform fun w => w.observeMedia userId chatId timestamp mediaPresent := by
  intro w w' h
  obtain ⟨hsummary, hsummarized⟩ :=
    uniform_mediaIntervalSummary userId timestamp mediaPresent w w' h
  obtain ⟨hpeers, hsynchronized⟩ :=
    uniform_synchronizedMediaPeerCount chatId userId timestamp _ _ hsummarized
  dsimp only at hsummary hpeers
  dsimp only [observeMedia]
  rw [hsummary, hpeers]
  refine ⟨rfl, ?_⟩
  split
  · exact hsynchronized.recordMediaCluster chatId userId timestamp
  · exact hsynchronized

theorem uniform_observeMember (reading : MemberReading) : Uniform (observeMember reading) := by
  intro w w' h
  unfold observeMember
  split
  · exact uniform_buildCommunityFeaturesForMember _ _ _ _ _ (h.recordJoinMetadata _ _ _)
  · exact uniform_buildCommunityFeaturesForMember _ _ _ _ _ h

theorem SameReads.apply {w w' : AdapterWindows} (h : SameReads w w') (e : Event) :
    SameReads (w.apply e) (w'.apply e) := by
  cases e with
  | velocity userId now => exact (uniform_calcMessageVelocity userId now w w' h).2
  | joined userId chatId timestamp => exact h.recordJoinMetadata userId chatId timestamp
  | member chatId timestamp => exact (uniform_joinedWithinClusterCount chatId timestamp w w' h).2
  | message userId chatId timestamp mediaPresent linkPresent =>
      exact (uniform_buildCommunityFeaturesForMessage _ userId chatId timestamp mediaPresent
        linkPresent w w' h).2
  | media userId chatId timestamp mediaPresent =>
      exact (uniform_observeMedia userId chatId timestamp mediaPresent w w' h).2

end AdapterWindows

/-! ## Methods -/

structure AdapterState.SameReads (s t : AdapterState) : Prop where
  windows : s.windows.SameReads t.windows
  recentTexts : ∀ k, windowAt s.recentTexts k = windowAt t.recentTexts k

section
variable {rt : TextRuntime} {host : AdapterHost rt} {moment : Moment}

theorem onWindows_uniform {α : Type} {f : AdapterWindows → α × AdapterWindows} (hf : Uniform f) :
    Related AdapterState.SameReads Eq (onWindows f) (onWindows f) := by
  intro s t h
  obtain ⟨hvalue, hafter⟩ := hf _ _ h.windows
  rw [outcome_onWindows, outcome_onWindows, hvalue]
  exact ⟨SameResult.rfl, hafter, h.recentTexts⟩

theorem attempt_uniform {α : Type} (x : Except PyError α) :
    Related AdapterState.SameReads Eq (attempt x) (attempt x) :=
  Related.attempt SameResult.rfl

/-- A method made of two that do not tell such states apart. -/
theorem bind_uniform {α β : Type} {m : Raising AdapterState PyError α}
    {f : α → Raising AdapterState PyError β} (hm : Related AdapterState.SameReads Eq m m)
    (hf : ∀ a, Related AdapterState.SameReads Eq (f a) (f a)) :
    Related AdapterState.SameReads Eq (m >>= f) (m >>= f) :=
  hm.bind fun a _ heq => heq ▸ hf a

theorem messageVelocity_uniform (opening : Opening) :
    Related AdapterState.SameReads Eq (messageVelocity host moment opening)
      (messageVelocity host moment opening) := by
  unfold messageVelocity
  split
  · exact Related.pure rfl
  · exact bind_uniform (attempt_uniform _)
      fun now => onWindows_uniform (uniform_calcMessageVelocity _ now)

theorem analyzeText_uniform (opening : Opening) :
    Related AdapterState.SameReads Eq (analyzeText host opening) (analyzeText host opening) := by
  refine bind_uniform (attempt_uniform _) fun text => Related.update fun s t h => ?_
  have hrecent := h.recentTexts opening.userId
  exact ⟨by rw [hrecent],
    h.windows, AdapterWindows.windowAt_set_congr h.recentTexts (by rw [hrecent]) _⟩

theorem observeMessage_uniform (message : Json) :
    Related AdapterState.SameReads Eq (observeMessage host moment message)
      (observeMessage host moment message) := by
  refine bind_uniform (attempt_uniform _) fun opening => ?_
  refine bind_uniform (messageVelocity_uniform _) fun velocity => ?_
  refine bind_uniform (analyzeText_uniform _) fun text => ?_
  refine bind_uniform (attempt_uniform _) fun placement => ?_
  refine bind_uniform (onWindows_uniform (uniform_buildCommunityFeaturesForMessage _ _ _ _ _ _))
    fun community => ?_
  refine bind_uniform (attempt_uniform _) fun age => ?_
  refine bind_uniform (onWindows_uniform (uniform_observeMedia _ _ _ _)) fun activity => ?_
  exact bind_uniform (attempt_uniform _) fun safety => Related.pure rfl

theorem analyzeMessage_uniform (message : Json) :
    Related AdapterState.SameReads Eq (analyzeMessage host moment message)
      (analyzeMessage host moment message) := by
  refine bind_uniform (observeMessage_uniform _) fun o => ?_
  refine bind_uniform (attempt_uniform _) fun provider => ?_
  exact bind_uniform (attempt_uniform _) fun timestamp => Related.pure rfl

theorem analyzeMember_uniform (chatMember : Json) :
    Related AdapterState.SameReads Eq (analyzeMember host moment chatMember)
      (analyzeMember host moment chatMember) := by
  refine bind_uniform (attempt_uniform _) fun reading => ?_
  refine bind_uniform (onWindows_uniform (uniform_observeMember reading)) fun community => ?_
  refine bind_uniform (attempt_uniform _) fun oldMember => ?_
  refine bind_uniform (attempt_uniform _) fun status => ?_
  refine bind_uniform (attempt_uniform _) fun age => ?_
  refine bind_uniform (attempt_uniform _) fun entropy => ?_
  exact bind_uniform (attempt_uniform _) fun timestamp => Related.pure rfl

theorem parseUpdate_uniform (update : Json) :
    Related AdapterState.SameReads Eq (TelegramAdapter.parseUpdate host moment update)
      (TelegramAdapter.parseUpdate host moment update) := by
  unfold TelegramAdapter.parseUpdate
  cases received update with
  | message message =>
      refine bind_uniform (analyzeMessage_uniform message) fun analysis => ?_
      exact bind_uniform (attempt_uniform _) fun event => Related.pure rfl
  | chatMember chatMember =>
      refine bind_uniform (analyzeMember_uniform chatMember) fun analysis => ?_
      exact bind_uniform (attempt_uniform _) fun event => Related.pure rfl
  | other => exact Related.pure rfl

/-- States that read the same parse an update to the same. -/
theorem parseUpdate_eq_of_sameReads {s t : AdapterState} (h : s.SameReads t) (update : Json) :
    (outcome (TelegramAdapter.parseUpdate host moment update) s).1 =
      (outcome (TelegramAdapter.parseUpdate host moment update) t).1 := by
  have hresult := (@parseUpdate_uniform _ host moment update s t h).1
  generalize (outcome (TelegramAdapter.parseUpdate host moment update) s).1 = x at hresult
  generalize (outcome (TelegramAdapter.parseUpdate host moment update) t).1 = y at hresult
  cases hresult with
  | ok heq => rw [heq]
  | error e => rfl

end

end TruePresenceESE.Telegram
