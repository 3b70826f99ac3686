import TruePresenceESE.Telegram.AdapterRuns

/-! # Community and safety evidence from metadata only

Two runs whose messages differ in texts, captions, media and entities, but not in which
media there are nor in the types of the entities, keep the same windows and give the same
community and safety contexts. Recent texts and what is found in them may differ.
-/

namespace TruePresenceESE.Telegram

open AdapterWindows JsonDict PyValue Raising

/-! ## Updates with the same metadata -/

def entityType : Json → Option Json
  | .obj fields => some (((Json.obj fields).get? "type").getD .null)
  | _ => none

/-- The types of the items of a member, for items that are entities. -/
def entityTypes (message : Json) (key : String) : Option (List (Option Json)) :=
  (iterate (JsonDict.orElse ((message.get? key).getD .null) (.arr []))).map (·.map entityType)

def textOf (message : Json) : Json :=
  JsonDict.orElse ((message.get? "text").getD (.str "")) (.str "")

/-- The members that are not content. -/
def referenceKeys : List String := ["from", "chat", "date", "message_id"]

structure SameMetadata (left right : List (String × Json)) : Prop where
  references : ∀ key ∈ referenceKeys, (Json.obj left).get? key = (Json.obj right).get? key
  /-- Both texts are texts, or neither is. -/
  texts : (readText (textOf (.obj left))).toBool = (readText (textOf (.obj right))).toBool
  media : ∀ key ∈ mediaKeys, PyValue.truthy (((Json.obj left).get? key).getD .null) =
    PyValue.truthy (((Json.obj right).get? key).getD .null)
  entities : ∀ key ∈ ["entities", "caption_entities"],
    entityTypes (.obj left) key = entityTypes (.obj right) key

/-- Messages with the same metadata, or the same update. -/
inductive SameReceived : Received → Received → Prop where
  | same (r : Received) : SameReceived r r
  | message {left right : List (String × Json)} (h : SameMetadata left right) :
      SameReceived (.message (.obj left)) (.message (.obj right))

structure SameArrival (a b : Arrival) : Prop where
  moment : a.moment = b.moment
  received : SameReceived (received a.update) (received b.update)

/-! ## Reading them -/

/-- What is read of two such messages first. -/
structure SameOpening (a b : Opening) : Prop where
  fromUser : a.fromUser = b.fromUser
  chat : a.chat = b.chat
  userId : a.userId = b.userId
  date : a.date = b.date
  text : (readText a.text).toBool = (readText b.text).toBool

section
variable {rt : TextRuntime} {host : AdapterHost rt} {moment : Moment}
  {left right : List (String × Json)} {a b : Opening}

theorem member_obj (fields : List (String × Json)) (key : String) (default : Json) :
    member (.obj fields) key default = .ok (((Json.obj fields).get? key).getD default) :=
  rfl

theorem readText_related {left right : Json}
    (h : (readText left).toBool = (readText right).toBool) :
    SameResult (fun _ _ => True) (readText left) (readText right) := by
  cases left with
  | str text =>
      cases right with
      | str other => exact .ok trivial
      | _ => exact absurd h (by simp [readText, Except.toBool])
  | _ =>
      cases right with
      | str other => exact absurd h (by simp [readText, Except.toBool])
      | _ => exact .error _

theorem readOpening_related (h : SameMetadata left right) :
    SameResult SameOpening (readOpening host moment (.obj left))
      (readOpening host moment (.obj right)) := by
  have hfrom := h.references "from" (by decide)
  have hchat := h.references "chat" (by decide)
  have hdate := h.references "date" (by decide)
  have htext : SameResult (fun x y : Json => (readText (JsonDict.orElse x (.str ""))).toBool =
      (readText (JsonDict.orElse y (.str ""))).toBool) (member (.obj left) "text" (.str ""))
        (member (.obj right) "text" (.str "")) :=
    .ok h.texts
  unfold readOpening
  rw [member_obj left "from", member_obj left "chat", member_obj left "date", hfrom, hchat, hdate]
  refine SameResult.bind SameResult.rfl fun fromUser _ heq => ?_
  subst heq
  refine SameResult.bind SameResult.rfl fun chat _ heq => ?_
  subst heq
  refine SameResult.bind htext fun text other hsame => ?_
  refine SameResult.bind SameResult.rfl fun id _ heq => ?_
  subst heq
  refine SameResult.bind SameResult.rfl fun date _ heq => ?_
  subst heq
  exact .ok ⟨rfl, rfl, rfl, rfl, hsame⟩

theorem isLinkEntity_eq (entity : Json) : isLinkEntity entity =
    (entityType entity).elim (.ok false) (memberOf ["url", "text_link"]) := by
  cases entity <;> rfl

theorem anyLinkEntity_congr {xs ys : List Json} (h : xs.map entityType = ys.map entityType) :
    anyLinkEntity xs = anyLinkEntity ys := by
  induction xs generalizing ys with
  | nil => rw [List.map_eq_nil_iff.mp h.symm]
  | cons x xs ih =>
      cases ys with
      | nil => cases h
      | cons y ys =>
          rw [List.map_cons, List.map_cons, List.cons.injEq] at h
          rw [anyLinkEntity, anyLinkEntity, isLinkEntity_eq, isLinkEntity_eq, h.1, ih h.2]

theorem messageEntities_related {key : String}
    (h : entityTypes (.obj left) key = entityTypes (.obj right) key) :
    SameResult (fun xs ys : List Json => xs.map entityType = ys.map entityType)
      (messageEntities (.obj left) key) (messageEntities (.obj right) key) := by
  unfold entityTypes at h
  unfold messageEntities
  simp only [member_obj, bind, Except.bind]
  cases hleft : iterate (JsonDict.orElse (((Json.obj left).get? key).getD .null) (.arr [])) with
  | none =>
      rw [hleft] at h
      rw [Option.map_eq_none_iff.mp h.symm]
      exact .error _
  | some xs =>
      rw [hleft] at h
      obtain ⟨ys, hright, heq⟩ := Option.map_eq_some_iff.mp h.symm
      rw [hright]
      exact .ok heq.symm

theorem messageHasLinkEntity_related (h : SameMetadata left right) :
    SameResult Eq (messageHasLinkEntity (.obj left)) (messageHasLinkEntity (.obj right)) := by
  unfold messageHasLinkEntity
  refine SameResult.bind (messageEntities_related (h.entities "entities" (by decide)))
    fun xs ys hsame => ?_
  rw [anyLinkEntity_congr hsame]
  refine SameResult.bind SameResult.rfl fun found other hfound => ?_
  subst hfound
  cases found with
  | true => exact .ok rfl
  | false =>
      refine SameResult.bind
        (messageEntities_related (h.entities "caption_entities" (by decide))) fun xs ys hsame => ?_
      rw [anyLinkEntity_congr hsame]
      exact SameResult.rfl

theorem messageHasMedia_eq (h : SameMetadata left right) :
    messageHasMedia (.obj left) = messageHasMedia (.obj right) := by
  unfold messageHasMedia
  rw [Bool.eq_iff_iff, List.any_eq_true, List.any_eq_true]
  exact exists_congr fun key => and_congr_right fun hkey => by rw [h.media key hkey]

theorem readPlacement_related (h : SameMetadata left right) (hopening : SameOpening a b) :
    SameResult Eq (readPlacement host (.obj left) a) (readPlacement host (.obj right) b) := by
  unfold readPlacement
  rw [hopening.chat, hopening.date, messageHasMedia_eq h]
  refine SameResult.bind SameResult.rfl fun chatId other hid => ?_
  subst hid
  refine SameResult.bind (messageHasLinkEntity_related h) fun link other hlink => ?_
  subst hlink
  exact SameResult.rfl

theorem buildSafetyFeatures_related (h : SameMetadata left right) (hopening : SameOpening a b)
    (placement : Placement) (community : TelegramCommunityFeatures) (age : ℕ)
    (activity : MediaActivity) :
    SameResult Eq
      (buildSafetyFeaturesForMessage host (.obj left) a placement community age activity)
      (buildSafetyFeaturesForMessage host (.obj right) b placement community age activity) := by
  unfold buildSafetyFeaturesForMessage
  rw [hopening.chat, hopening.fromUser, hopening.date, h.references "message_id" (by decide)]
  exact SameResult.rfl

/-! ## Observing them -/

/-- States that agree on the windows. -/
def SameWindows (s t : AdapterState) : Prop := s.windows = t.windows

theorem onWindows_related {α : Type} (f : AdapterWindows → α × AdapterWindows) :
    Related SameWindows Eq (onWindows f) (onWindows f) := by
  intro s t hwindows
  rw [outcome_onWindows, outcome_onWindows, show s.windows = t.windows from hwindows]
  exact ⟨SameResult.rfl, rfl⟩

theorem messageVelocity_related (h : SameOpening a b) :
    Related SameWindows Eq (messageVelocity host moment a) (messageVelocity host moment b) := by
  have htime : velocityTime host moment a = velocityTime host moment b := by
    rw [velocityTime, velocityTime, h.date]
  unfold messageVelocity
  rw [h.userId, htime]
  split
  · exact Related.pure rfl
  · refine Related.bind (Related.attempt SameResult.rfl) fun now other hnow => ?_
    subst hnow
    exact onWindows_related _

/-- The texts are read with the same success, whatever they are found to be. -/
theorem analyzeText_related (h : SameOpening a b) :
    Related SameWindows (fun _ _ => True) (analyzeText host a) (analyzeText host b) := by
  have htext : Related SameWindows (fun _ _ => True)
      (attempt (readText a.text) : Raising AdapterState PyError String)
      (attempt (readText b.text)) :=
    Related.attempt (readText_related h.text)
  exact Related.bind htext fun _ _ _ => Related.update fun s t hwindows => ⟨trivial, hwindows⟩

/-- What is observed of two such messages, apart from their texts. -/
structure SameObservation (o p : Observation rt) : Prop where
  opening : SameOpening o.opening p.opening
  community : o.community = p.community
  safety : o.safety = p.safety

theorem observeMessage_related (h : SameMetadata left right) :
    Related SameWindows SameObservation (observeMessage host moment (.obj left))
      (observeMessage host moment (.obj right)) := by
  refine Related.bind (Related.attempt (readOpening_related h)) fun a b hopening => ?_
  refine Related.bind (messageVelocity_related hopening) fun velocity _ _ => ?_
  refine Related.bind (analyzeText_related hopening) fun text _ _ => ?_
  refine Related.bind (Related.attempt (readPlacement_related h hopening))
    fun placement other hplacement => ?_
  subst hplacement
  rw [hopening.userId]
  refine Related.bind (onWindows_related _) fun community other hcommunity => ?_
  subst hcommunity
  rw [hopening.fromUser]
  refine Related.bind (Related.attempt SameResult.rfl) fun age other hage => ?_
  subst hage
  refine Related.bind (onWindows_related _) fun activity other hactivity => ?_
  subst hactivity
  refine Related.bind
    (Related.attempt (buildSafetyFeatures_related h hopening placement community age activity))
    fun safety other hsafety => ?_
  subst hsafety
  exact Related.pure ⟨hopening, rfl, rfl⟩

/-! ## Their events -/

/-- The contexts of an event, of which a change of membership has no safety context. -/
def contexts (event : Json) : Json × Json :=
  (eventContext event "telegram_community", eventContext event "telegram_safety")

def SameContexts (a b : Json) : Prop := contexts a = contexts b

theorem analyzeMessage_related (h : SameMetadata left right) :
    Related SameWindows (fun x y : MessageAnalysis => x.community = y.community ∧ x.safety = y.safety)
      (analyzeMessage host moment (.obj left)) (analyzeMessage host moment (.obj right)) := by
  refine Related.bind (observeMessage_related h) fun o p hsame => ?_
  rw [hsame.safety, hsame.opening.date]
  refine Related.bind (Related.attempt SameResult.rfl) fun provider _ heq => ?_
  subst heq
  refine Related.bind (Related.attempt SameResult.rfl) fun timestamp _ heq => ?_
  subst heq
  exact Related.pure ⟨by rw [hsame.community], by rw [safetyOf, safetyOf, hsame.safety]⟩

theorem messagePayload_related (left right : List (String × Json)) (chat : Json) :
    SameResult (fun _ _ => True) (messagePayload (.obj left) chat)
      (messagePayload (.obj right) chat) := by
  unfold messagePayload
  simp only [member_obj, bind, Except.bind]
  cases member chat "type" .null with
  | error e => exact .error e
  | ok chatType => exact .ok trivial

theorem parseMessage_related {x y : MessageAnalysis} (h : SameMetadata left right)
    (hsame : x.community = y.community ∧ x.safety = y.safety)
    (analyzeMember : Json → Except PyError MemberAnalysis) :
    SameResult SameContexts (parseMessage ⟨fun _ => .ok x, analyzeMember⟩ (.obj left))
      (parseMessage ⟨fun _ => .ok y, analyzeMember⟩ (.obj right)) := by
  have hfrom := h.references "from" (by decide)
  have hchat := h.references "chat" (by decide)
  unfold parseMessage
  rw [member_obj left "from", member_obj left "chat", hfrom, hchat]
  refine SameResult.bind SameResult.rfl fun fromUser _ heq => ?_
  subst heq
  refine SameResult.bind SameResult.rfl fun chat _ heq => ?_
  subst heq
  refine SameResult.bind (messagePayload_related left right chat) fun payload other _ => ?_
  refine SameResult.bind SameResult.rfl fun userId _ heq => ?_
  subst heq
  refine SameResult.bind SameResult.rfl fun username _ heq => ?_
  subst heq
  refine SameResult.bind SameResult.rfl fun isBot _ heq => ?_
  subst heq
  refine SameResult.bind SameResult.rfl fun groupId _ heq => ?_
  subst heq
  exact .ok (Prod.ext hsame.1 hsame.2)

/-- A method that reads nothing but the windows. -/
theorem analyzeMember_related (chatMember : Json) :
    Related SameWindows Eq (analyzeMember host moment chatMember)
      (analyzeMember host moment chatMember) := by
  refine Related.bind (Related.attempt SameResult.rfl) fun reading _ heq => ?_
  subst heq
  refine Related.bind (onWindows_related _) fun community _ heq => ?_
  subst heq
  refine Related.bind (Related.attempt SameResult.rfl) fun oldMember _ heq => ?_
  subst heq
  refine Related.bind (Related.attempt SameResult.rfl) fun status _ heq => ?_
  subst heq
  refine Related.bind (Related.attempt SameResult.rfl) fun age _ heq => ?_
  subst heq
  refine Related.bind (Related.attempt SameResult.rfl) fun entropy _ heq => ?_
  subst heq
  refine Related.bind (Related.attempt SameResult.rfl) fun timestamp _ heq => ?_
  subst heq
  exact Related.pure rfl

/-- What two updates are parsed to: nothing, or events with the same contexts. -/
def SameEvents (a b : Option Json) : Prop := a.map contexts = b.map contexts

theorem SameMetadata.rfl {fields : List (String × Json)} : SameMetadata fields fields :=
  ⟨fun _ _ => Eq.refl _, Eq.refl _, fun _ _ => Eq.refl _, fun _ _ => Eq.refl _⟩

theorem parseUpdate_related {update other : Json} (h : SameReceived (received update) (received other)) :
    Related SameWindows SameEvents (TelegramAdapter.parseUpdate host moment update)
      (TelegramAdapter.parseUpdate host moment other) := by
  have hmessage : ∀ l r, SameMetadata l r →
      Related SameWindows SameEvents
        (analyzeMessage host moment (.obj l) >>= fun x => attempt
          (parseMessage ⟨fun _ => .ok x, fun _ => .error .typeError⟩ (.obj l)) >>= fun e => pure (some e))
        (analyzeMessage host moment (.obj r) >>= fun x => attempt
          (parseMessage ⟨fun _ => .ok x, fun _ => .error .typeError⟩ (.obj r)) >>= fun e =>
            pure (some e)) := by
    intro l r hsame
    refine Related.bind (analyzeMessage_related hsame) fun x y hanalysis => ?_
    refine Related.bind (Related.attempt (parseMessage_related hsame hanalysis _))
      fun event other hevent => ?_
    exact Related.pure (congrArg some hevent)
  unfold TelegramAdapter.parseUpdate
  generalize received update = left at h
  generalize received other = right at h
  cases h with
  | message hsame => exact hmessage _ _ hsame
  | same =>
      cases left with
      | message message =>
          cases message with
          | obj fields => exact hmessage _ _ SameMetadata.rfl
          | _ => exact fun s t hwindows => ⟨.error _, hwindows⟩
      | chatMember chatMember =>
          refine Related.bind (analyzeMember_related chatMember) fun analysis _ heq => ?_
          subst heq
          refine Related.bind (Related.attempt SameResult.rfl) fun event _ heq => ?_
          subst heq
          exact Related.pure rfl
      | other => exact Related.pure rfl

end

/-! ## Two runs -/

section
variable {rt : TextRuntime} {host : AdapterHost rt} {left right : List Arrival}

/-- The windows are the same after both runs. -/
theorem receiveAll_related (h : List.Forall₂ SameArrival left right) :
    SameWindows (receiveAll host left) (receiveAll host right) := by
  have hstep : ∀ s t, SameWindows s t →
      SameWindows (left.foldl (receive host) s) (right.foldl (receive host) t) := by
    induction h with
    | nil => exact fun s t hst => hst
    | cons hsame _ ih =>
        intro s t hst
        refine ih _ _ ?_
        unfold receive
        rw [hsame.moment]
        exact (parseUpdate_related hsame.received s t hst).2
  exact hstep _ _ rfl

end

/-- Two runs of an adapter over updates with the same metadata keep the same windows, and at
every step they give the same contexts or fail the same. -/
theorem contexts_metadata_only {rt : TextRuntime} (host : AdapterHost rt)
    {left right : List Arrival} (h : List.Forall₂ SameArrival left right) :
    (receiveAll host left).windows = (receiveAll host right).windows ∧
      ∀ a b, SameArrival a b →
        (eventAfter host left a).map (Option.map contexts) =
          (eventAfter host right b).map (Option.map contexts) := by
  refine ⟨receiveAll_related h, fun a b hsame => ?_⟩
  unfold eventAfter
  rw [hsame.moment]
  exact (parseUpdate_related hsame.received _ _ (receiveAll_related h)).1.map_eq fun _ _ heq => heq

/-! ## One text for another -/

def posted (text fileId : String) : List (String × Json) :=
  [("from", .obj [("id", .num 5)]), ("chat", .obj [("id", .num 7)]), ("date", .num 1000000),
    ("message_id", .num 1), ("text", .str text),
    ("photo", .arr [.obj [("file_id", .str fileId)]]),
    ("entities", .arr [.obj [("type", .str "url"), ("offset", .num text.length)]])]

def postedArrival (text fileId : String) : Arrival where
  moment := quietMoment 1000000
  update := .obj [("message", .obj (posted text fileId))]

theorem sameMetadata_posted (text other fileId otherId : String) (h : text ≠ "") (hother : other ≠ "") :
    SameMetadata (posted text fileId) (posted other otherId) where
  references key hkey := by
    simp only [referenceKeys, List.mem_cons, List.not_mem_nil, or_false] at hkey
    rcases hkey with rfl | rfl | rfl | rfl <;> rfl
  texts := by
    have htext : ∀ t : String, t ≠ "" →
        textOf (.obj (posted t fileId)) = .str t ∧ textOf (.obj (posted t otherId)) = .str t := by
      intro t ht
      simp [textOf, posted, Json.get?, JsonDict.orElse, PyValue.truthy, ht]
    rw [(htext text h).1, (htext other hother).2]
    rfl
  media key hkey := by
    simp only [mediaKeys, List.mem_cons, List.not_mem_nil, or_false] at hkey
    rcases hkey with rfl | rfl | rfl | rfl | rfl | rfl | rfl | rfl <;> rfl
  entities key hkey := by
    simp only [List.mem_cons, List.not_mem_nil, or_false] at hkey
    rcases hkey with rfl | rfl <;> rfl

theorem sameArrival_posted :
    SameArrival (postedArrival "join my channel" "a") (postedArrival "good morning" "b") :=
  ⟨rfl, .message (sameMetadata_posted _ _ _ _ (by decide) (by decide))⟩

theorem contexts_metadata_only_posted :
    (receiveAll plainHost [postedArrival "join my channel" "a"]).windows =
        (receiveAll plainHost [postedArrival "good morning" "b"]).windows ∧
      ∀ a b, SameArrival a b →
        (eventAfter plainHost [postedArrival "join my channel" "a"] a).map (Option.map contexts) =
          (eventAfter plainHost [postedArrival "good morning" "b"] b).map (Option.map contexts) :=
  contexts_metadata_only plainHost (.cons sameArrival_posted .nil)

end TruePresenceESE.Telegram
