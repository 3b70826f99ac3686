import TruePresenceESE.Telegram.WebhookRoutes

/-! # Announcing reviews to administrators

A chat of administrators is registered in the database and in the memory of the service of
the module. A review is announced to the chats in the memory of the service that takes the
update: a service of the tenant's own has none, and a restart empties the other one, while
the table of chats is never read for it.
-/

namespace TruePresenceESE.Telegram.Webhook

open PyValue JsonDict

variable {rt : TextRuntime} {Update Window Engine : Type}

/-! ## Runs of the bot -/

inductive BotStep (Update : Type) where
  | protectGroup (weather : RequestWeather) (request : AdminRequest) (groupId : ℤ)
      (adminChatId : Option ℤ)
  | byTenant (tenantId : String) (secret : Option String) (update : Update)
  | byToken (botToken : String) (secret : Option String) (update : Update)
  | restart

inductive BotAnswer where
  | admin (response : AdminResponse)
  | delivered (delivered : Delivered)
  | restarted

section
variable (e : Evaluation rt Update Window Engine) (host : AdminHost)
  (start : Process rt Window Engine)

/-- `/webhook`; an empty name stands for the tenant of the service. -/
def receiveForTenant (p : Process rt Window Engine) (tenantId : String) (secret : Option String)
    (update : Update) : Delivered × Process rt Window Engine :=
  if secretAccepted host.reviews.tokens tenantId secret then
    let processed := processUpdate e host.reviews true (tenantOf host.reviews (some tenantId))
      update p.service p.windows p.engine
    (deliveredOf processed.answer,
      { p with
        service := processed.service, windows := processed.windows, engine := processed.engine })
  else (.refused, p)

/-- A process that comes up again finds the database as it was left. -/
def restarted (p : Process rt Window Engine) : Process rt Window Engine :=
  { start with service := p.service.withMemory start.service.memory }

/-- The database is up throughout. -/
def botStep (p : Process rt Window Engine) :
    BotStep Update → BotAnswer × Process rt Window Engine
  | .protectGroup weather request groupId adminChatId =>
      let handled := adminStep host true p weather
        { request with route := .protectGroup groupId adminChatId }
      (.admin handled.1.2, handled.2)
  | .byTenant tenantId secret update =>
      let received := receiveForTenant e host p tenantId secret update
      (.delivered received.1, received.2)
  | .byToken botToken secret update =>
      let received := telegramWebhook e host.reviews true p botToken secret update
      (.delivered received.1, received.2)
  | .restart => (.restarted, restarted start p)

/-! ## Registrations -/

/-- The tenant and the chat that a step registers. -/
def registration : BotStep Update × BotAnswer → Option (String × ℤ)
  | (.protectGroup _ request _ adminChatId, .admin (.groupProtected _ _)) =>
      (givenChat adminChatId).map
        (tenantOf host.reviews (some (tenantIdFromRequest request)), ·)
  | _ => none

/-- A chat that was in the database at the start, or that a step registered. -/
def Registered (calls : List (BotStep Update × BotAnswer)) (tenantId : String) (chatId : ℤ) :
    Prop :=
  (chatId, tenantId) ∈ start.service.chatRows ∨ (tenantId, chatId) ∈ calls.filterMap (registration host)

def isRestart : BotStep Update → Bool
  | .restart => true
  | _ => false

/-- The steps since the process came up. -/
def sinceRestart (calls : List (BotStep Update × BotAnswer)) : List (BotStep Update × BotAnswer) :=
  calls.rtakeWhile fun call => !isRestart call.1

/-! ## Reviews -/

/-- The tenant of an update that is let in, and the service that takes it where it is one of
the tenant's own. -/
def takenBy (p : Process rt Window Engine) :
    BotStep Update → Option (String × Option (OwnService rt Window) × Update)
  | .byTenant tenantId secret update =>
      if secretAccepted host.reviews.tokens tenantId secret then
        some (tenantOf host.reviews (some tenantId), none, update)
      else none
  | .byToken botToken secret update =>
      (tenantOfToken host.reviews true p botToken).bind fun tenantId =>
        if tenantId = "default" then
          if secretAccepted host.reviews.tokens tenantId secret then some (tenantId, none, update)
          else none
        else
          (serviceForTenant host.reviews p tenantId).toOption.bind fun own =>
            if secretAccepted host.reviews.tokens tenantId secret then
              some (tenantId, some own, update)
            else none
  | _ => none

/-- The review that is asked for of the service that takes the update. -/
def reviewFor (p : Process rt Window Engine) (tenantId : String)
    (own : Option (OwnService rt Window)) (update : Update) : Option ReviewRequest :=
  match own with
  | none => askedReview e host.reviews true tenantId update p.service p.windows p.engine
  | some own =>
      askedReview e host.reviews true tenantId update (p.service.withMemory own.memory) own.windows
        p.engine

/-- A step that creates a review for the tenant. -/
def CreatesReview (p : Process rt Window Engine) (op : BotStep Update) (tenantId : String) : Prop :=
  ∃ own update, takenBy host p op = some (tenantId, own, update) ∧
    (reviewFor e host p tenantId own update).isSome

/-- Each chat of the tenant is announced to once, and no other chat is. -/
def Announced (calls : List (BotStep Update × BotAnswer)) (tenantId : String) :
    BotAnswer → Prop
  | .delivered (.acted _ notified) =>
      notified.Nodup ∧ ∀ chatId, chatId ∈ notified ↔ Registered host start calls tenantId chatId
  | _ => False

/-- No chat is registered, or there is a token, the module's service takes the update, and
every chat was registered since the process came up. -/
def CanAnnounce (calls : List (BotStep Update × BotAnswer)) (p : Process rt Window Engine)
    (op : BotStep Update) (tenantId : String) : Prop :=
  (∀ chatId, ¬ Registered host start calls tenantId chatId) ∨
    ((executionToken host.reviews p.service.reviews true tenantId).isSome ∧
      (∃ update, takenBy host p op = some (tenantId, none, update)) ∧
      ∀ chatId, Registered host start calls tenantId chatId →
        (tenantId, chatId) ∈ (sinceRestart calls).filterMap (registration host))

end

/-! ## What an update leaves alone -/

section
variable {e : Evaluation rt Update Window Engine} {host : ReviewHost} {tenantId : String}
  {update : Update} {q : ServiceState rt} {windows : Dict String Window} {engine : Engine}

theorem handleManualReview_service (s : ServiceState rt) (asked : Option ReviewRequest) :
    ∃ reviews, (handleManualReview host s true tenantId asked).2 = { s with reviews := reviews } := by
  cases asked with
  | none => exact ⟨_, rfl⟩
  | some review =>
      unfold handleManualReview
      dsimp only
      split <;> exact ⟨_, rfl⟩

/-- Chats are registered by no update. -/
theorem processUpdate_chats :
    (processUpdate e host true tenantId update q windows engine).service.chatRows = q.chatRows ∧
      (processUpdate e host true tenantId update q windows engine).service.adminChats =
        q.adminChats := by
  obtain ⟨sessionRows, hservice⟩ := processUpdate_service e host tenantId update q windows engine
  obtain ⟨reviews, hreviews⟩ := @handleManualReview_service _ host tenantId
    { ensuredService host tenantId q with sessionRows := sessionRows }
    (askedReview e host true tenantId update q windows engine)
  rw [hservice, hreviews]
  exact ⟨rfl, rfl⟩

theorem ensureTenant_of_adapter {config : ConfigHost} {tenants : Tenants rt}
    (h : (tenants.adapters.get? tenantId).isSome) :
    (ensureTenant config tenants tenantId).1 = .ok () := by
  unfold ensureTenant
  dsimp only
  have hloaded : ((if (tenants.configs.get? tenantId).isSome then tenants
      else tenants.setConfig tenantId (configOf config tenants tenantId)).adapters.get?
        tenantId).isSome := by
    split <;> exact h
  rw [if_pos h]

/-- A tenant that was loaded is loaded still. -/
theorem ensureTenant_again {config : ConfigHost} {tenants : Tenants rt}
    (h : (ensureTenant config tenants tenantId).1 = .ok ()) :
    (ensureTenant config (ensureTenant config tenants tenantId).2 tenantId).1 = .ok () := by
  refine ensureTenant_of_adapter ?_
  unfold ensureTenant at h ⊢
  dsimp only at h ⊢
  by_cases hadapter : (tenants.adapters.get? tenantId).isSome
  · rw [if_pos hadapter]
    split <;> exact hadapter
  · rw [if_neg hadapter] at h ⊢
    cases hbuilt : buildAdapter rt (configOf config tenants tenantId) with
    | error error => rw [hbuilt] at h; cases h
    | ok adapter => simp [Tenants.setAdapter]

theorem ensuredService_ok {adapter : TelegramAdapter rt}
    (h : loadedAdapter host tenantId q = some adapter) :
    (ensureTenant host.configs (ensuredService host tenantId q).reviews.tenants tenantId).1 =
      .ok () := by
  refine ensureTenant_again ?_
  unfold loadedAdapter at h
  dsimp only at h
  split at h
  · assumption
  · cases h

/-- A review that can be added is announced to the chats of the service. -/
theorem handleManualReview_notified {s : ServiceState rt} (review : ReviewRequest)
    (htenant : tenantOf host (some tenantId) = tenantId)
    (h : (ensureTenant host.configs s.reviews.tenants tenantId).1 = .ok ()) :
    (handleManualReview host s true tenantId (some review)).1 =
      if (executionToken host s.reviews true tenantId).isSome then s.chatsOf tenantId else [] := by
  unfold handleManualReview addPendingReview
  dsimp only
  rw [htenant, h]
  have htokens : ∀ (t : ReviewState rt) (reviewId : String) (record : JsonDict),
      (insertReview t true reviewId tenantId record).tokens = t.tokens := by
    intro t reviewId record
    unfold insertReview
    split <;> rfl
  unfold notifiedChats executionToken
  dsimp only
  rw [htokens]
  rfl

/-- A review is announced to the chats of the service, if there is a token. -/
theorem processUpdate_notified {review : ReviewRequest}
    (htenant : tenantOf host (some tenantId) = tenantId)
    (hasked : askedReview e host true tenantId update q windows engine = some review) :
    ∃ action, (processUpdate e host true tenantId update q windows engine).answer =
      .acted action (if (executionToken host q.reviews true tenantId).isSome then
        q.chatsOf tenantId else []) := by
  have hevaluated : evaluatedUpdate e host true tenantId update q windows engine ≠ none := by
    intro hnone
    rw [askedReview_none hnone] at hasked
    cases hasked
  cases hadapter : loadedAdapter host tenantId q with
  | none =>
      exact absurd (evaluatedUpdate_none fun adapter h => by rw [hadapter] at h; cases h) hevaluated
  | some adapter =>
      cases hparsed : (e.parse adapter (windowOf e tenantId windows) update).1 with
      | error raised =>
          exact absurd (evaluatedUpdate_none fun found h event => by
            rw [← Option.some.inj (hadapter.symm.trans h), hparsed]
            exact fun heq => (nomatch heq)) hevaluated
      | ok found =>
          cases found with
          | none =>
              exact absurd (evaluatedUpdate_none fun found h event => by
                rw [← Option.some.inj (hadapter.symm.trans h), hparsed]
                exact fun heq => (nomatch heq)) hevaluated
          | some event =>
              rw [askedReview, evaluatedUpdate_event hadapter hparsed, Option.bind_some] at hasked
              unfold processUpdate
              dsimp only
              rw [hadapter]
              dsimp only
              rw [hparsed]
              dsimp only
              unfold processEvent
              dsimp only
              cases hacted : (evaluateWith e host true tenantId update q windows engine adapter
                  (openSession host (ensuredService host tenantId q) true
                    (sessionIdOf tenantId event.userId) tenantId).1).1 with
              | raised => rw [hacted] at hasked; cases hasked
              | acted action asked =>
                  rw [hacted] at hasked
                  obtain rfl : asked = some review := hasked
                  obtain ⟨opened, hopened⟩ := @openSession_tables _ host tenantId
                    (ensuredService host tenantId q) (sessionIdOf tenantId event.userId)
                  refine ⟨action, ?_⟩
                  dsimp only
                  rw [hopened]
                  obtain ⟨closed, hclosed⟩ := closeSession_tables
                    { ensuredService host tenantId q with sessionRows := opened }
                    (sessionIdOf tenantId event.userId) (touchSession
                      (openSession host (ensuredService host tenantId q) true
                        (sessionIdOf tenantId event.userId) tenantId).1 event)
                  rw [hclosed]
                  exact congrArg (UpdateAnswer.acted action)
                    (handleManualReview_notified review htenant (ensuredService_ok hadapter))

end

/-! ## What a step registers -/

/-- The tenants' own services know no chats. -/
def OwnSilent (p : Process rt Window Engine) : Prop :=
  ∀ tenantId own, p.tenantServices.get? tenantId = some own → own.memory.adminChats = Dict.empty

/-- A registration is written to the table and to the memory of the module's service. -/
structure Registers (p : Process rt Window Engine) (registered : Option (String × ℤ))
    (after : Process rt Window Engine) : Prop where
  rows : after.service.chatRows =
    registered.elim p.service.chatRows fun r => p.service.chatRows.insert (r.2, r.1)
  chats : after.service.adminChats = registered.elim p.service.adminChats fun r =>
    p.service.adminChats.set r.1 ((p.service.chatsOf r.1).insert r.2)
  own : OwnSilent p → OwnSilent after

section
variable {e : Evaluation rt Update Window Engine} {host : AdminHost}
  {start p : Process rt Window Engine} {tenantId : String} {own : OwnService rt Window}

theorem Registers.refl (p : Process rt Window Engine) : Registers p none p := ⟨rfl, rfl, id⟩

theorem registerGroup_service {s : ServiceState rt} {groupId : ℤ} {adminChatId : Option ℤ} :
    let registered := registerGroup host.reviews s true groupId adminChatId (some tenantId)
    match registered.1 with
    | .error _ => registered.2.chatRows = s.chatRows ∧ registered.2.adminChats = s.adminChats
    | .ok _ =>
        let given := (givenChat adminChatId).map (tenantOf host.reviews (some tenantId), ·)
        registered.2.chatRows = given.elim s.chatRows (fun r => s.chatRows.insert (r.2, r.1)) ∧
          registered.2.adminChats = given.elim s.adminChats fun r =>
            s.adminChats.set r.1 ((s.chatsOf r.1).insert r.2) := by
  unfold registerGroup
  dsimp only
  cases (ensureTenant host.reviews.configs s.reviews.tenants
    (tenantOf host.reviews (some tenantId))).1 with
  | error error => exact ⟨rfl, rfl⟩
  | ok loaded =>
      simp only [if_true, insertGroup, rememberGroup]
      cases givenChat adminChatId with
      | none => exact ⟨rfl, rfl⟩
      | some chatId => exact ⟨rfl, rfl⟩

/-- A request that is turned away, or whose tenant cannot be loaded, registers nothing. -/
theorem registers_protectGroup (weather : RequestWeather) (request : AdminRequest) (groupId : ℤ)
    (adminChatId : Option ℤ) :
    let op : BotStep Update := .protectGroup weather request groupId adminChatId
    Registers p (registration host (op, (botStep e host start p op).1))
      (botStep e host start p op).2 := by
  intro op
  have hservice := @registerGroup_service _ host (tenantIdFromRequest request) p.service groupId
    adminChatId
  have hadmitted : Registers p
      (registration host (op, .admin (protectGroup host p.service true groupId adminChatId
        (tenantIdFromRequest request)).1))
      { p with
        service := (protectGroup host p.service true groupId adminChatId
          (tenantIdFromRequest request)).2 } := by
    unfold protectGroup
    cases hregistered : registerGroup host.reviews p.service true groupId adminChatId
        (some (tenantIdFromRequest request)) with
    | mk answer after =>
        rw [hregistered] at hservice
        cases answer with
        | error error => exact ⟨hservice.1, hservice.2, id⟩
        | ok loaded => exact ⟨hservice.1, hservice.2, id⟩
  simp only [op, botStep, adminStep, handleAdminRequest]
  cases requireTelegramAdmin host.reviews.tokens
      { request with route := .protectGroup groupId adminChatId } with
  | refused statusCode detail => exact ⟨rfl, rfl, id⟩
  | adminToken => exact ⟨hadmitted.rows, hadmitted.chats, hadmitted.own⟩
  | superAdmin => exact ⟨hadmitted.rows, hadmitted.chats, hadmitted.own⟩

theorem serviceForTenant_made (h : (serviceForTenant host.reviews p tenantId).toOption = some own) :
    serviceForTenant host.reviews p tenantId = .ok own := by
  cases hmade : serviceForTenant host.reviews p tenantId with
  | error error => rw [hmade] at h; cases h
  | ok made => rw [hmade] at h; cases h; rfl

theorem serviceForTenant_silent (hsilent : OwnSilent p)
    (h : serviceForTenant host.reviews p tenantId = .ok own) :
    own.memory.adminChats = Dict.empty := by
  unfold serviceForTenant at h
  split at h
  · rename_i found hfound
    cases h
    exact hsilent tenantId _ hfound
  · obtain ⟨memory, hmemory, hown⟩ := Fallible.bind_eq_ok_iff.mp h
    obtain ⟨tenants, -, hmade⟩ := Fallible.bind_eq_ok_iff.mp hmemory
    cases hmade
    cases hown
    rfl

theorem OwnSilent.set {after : Process rt Window Engine} (hsilent : OwnSilent p)
    (hown : own.memory.adminChats = Dict.empty)
    (hafter : after.tenantServices = p.tenantServices.set tenantId own) : OwnSilent after := by
  intro other found hfound
  rw [hafter, Dict.get?_set] at hfound
  split at hfound
  · cases hfound
    exact hown
  · exact hsilent other found hfound

theorem registers_forTenant (secret : Option String) (update : Update) (named : String) :
    Registers p none (receiveForTenant e host p named secret update).2 := by
  unfold receiveForTenant
  split
  · exact ⟨processUpdate_chats.1, processUpdate_chats.2, id⟩
  · exact .refl p

theorem registers_telegramWebhook (botToken : String) (secret : Option String) (update : Update) :
    Registers p none (telegramWebhook e host.reviews true p botToken secret update).2 := by
  unfold telegramWebhook
  split
  · exact .refl p
  · rename_i tenantId htenant
    split
    · unfold telegramWebhookForTenant
      split
      · exact ⟨processUpdate_chats.1, processUpdate_chats.2, id⟩
      · exact .refl p
    · cases hservice : serviceForTenant host.reviews p tenantId with
      | error error => exact .refl p
      | ok own =>
          dsimp only
          split
          · refine ⟨processUpdate_chats.1, rfl, fun hsilent => ?_⟩
            refine OwnSilent.set hsilent ?_ rfl
            exact processUpdate_chats.2.trans (serviceForTenant_silent hsilent hservice)
          · exact ⟨rfl, rfl, fun hsilent =>
              hsilent.set (serviceForTenant_silent hsilent hservice) rfl⟩

theorem registers_step (op : BotStep Update) (hop : isRestart op = false) :
    Registers p (registration host (op, (botStep e host start p op).1))
      (botStep e host start p op).2 := by
  cases op with
  | protectGroup weather request groupId adminChatId =>
      exact registers_protectGroup weather request groupId adminChatId
  | byTenant named secret update => exact registers_forTenant secret update named
  | byToken botToken secret update => exact registers_telegramWebhook botToken secret update
  | restart => cases hop

end

/-! ## Registered chats along a run -/

section
variable {e : Evaluation rt Update Window Engine} {host : AdminHost}
  {start p after : Process rt Window Engine} {calls : List (BotStep Update × BotAnswer)}
  {call : BotStep Update × BotAnswer} {tenantId : String} {chatId : ℤ}

/-- The table has every registered chat, memory those registered since the process came up. -/
structure Kept (host : AdminHost) (start : Process rt Window Engine)
    (calls : List (BotStep Update × BotAnswer)) (p : Process rt Window Engine) : Prop where
  rows : ∀ tenantId chatId,
    (chatId, tenantId) ∈ p.service.chatRows ↔ Registered host start calls tenantId chatId
  chats : ∀ tenantId chatId, chatId ∈ p.service.chatsOf tenantId ↔
    (tenantId, chatId) ∈ (sinceRestart calls).filterMap (registration host)
  nodup : ∀ tenantId, (p.service.chatsOf tenantId).Nodup
  own : OwnSilent p

theorem registered_concat : Registered host start (calls ++ [call]) tenantId chatId ↔
    Registered host start calls tenantId chatId ∨ registration host call = some (tenantId, chatId) := by
  simp only [Registered, List.filterMap_append, List.mem_append, List.filterMap_cons,
    List.filterMap_nil, or_assoc]
  cases registration host call with
  | none => simp
  | some registered => simp [eq_comm]

theorem registered_of_since
    (h : (tenantId, chatId) ∈ (sinceRestart calls).filterMap (registration host)) :
    Registered host start calls tenantId chatId := by
  obtain ⟨call, hcall, hregistered⟩ := List.mem_filterMap.mp h
  exact .inr (List.mem_filterMap.mpr ⟨call, (List.rtakeWhile_suffix _ _).mem hcall, hregistered⟩)

theorem sinceRestart_concat (h : isRestart call.1 = false) :
    sinceRestart (calls ++ [call]) = sinceRestart calls ++ [call] := by
  rw [sinceRestart, List.rtakeWhile_concat_pos _ _ _ (by rw [h]; rfl)]
  rfl

theorem sinceRestart_restart (h : isRestart call.1 = true) :
    sinceRestart (calls ++ [call]) = [] := by
  rw [sinceRestart, List.rtakeWhile_concat_neg _ _ _ (by rw [h]; decide)]

theorem chatsOf_start (hstart : StartedProcess host.reviews start) (tenantId : String) :
    start.service.chatsOf tenantId = [] := by
  obtain ⟨tenants, -, hmemory⟩ := Fallible.bind_eq_ok_iff.mp hstart.memory
  have hchats : start.service.adminChats = Dict.empty :=
    congrArg Memory.adminChats (Except.ok.inj hmemory).symm
  rw [ServiceState.chatsOf, hchats]
  rfl

theorem ownSilent_start (hstart : StartedProcess host.reviews start) : OwnSilent start := by
  intro tenantId own hown
  rw [hstart.tenantServices] at hown
  cases hown

theorem kept_start (hstart : StartedProcess host.reviews start) :
    Kept host start ([] : List (BotStep Update × BotAnswer)) start where
  rows _ _ := by simp [Registered]
  chats tenantId _ := by simp [chatsOf_start hstart, sinceRestart]
  nodup tenantId := by simp [chatsOf_start hstart]
  own := ownSilent_start hstart

/-- A tenant's chats after a step. -/
theorem Registers.chatsOf {registered : Option (String × ℤ)} (h : Registers p registered after)
    (tenantId : String) : after.service.chatsOf tenantId =
      registered.elim (p.service.chatsOf tenantId) fun r =>
        if r.1 = tenantId then (p.service.chatsOf tenantId).insert r.2
        else p.service.chatsOf tenantId := by
  have hchats := h.chats
  cases registered with
  | none => rw [ServiceState.chatsOf, hchats]; rfl
  | some r =>
      rw [ServiceState.chatsOf, hchats, Option.elim_some, Option.elim_some, Dict.get?_set]
      split
      · rename_i heq
        rw [heq]
        rfl
      · rfl

theorem Kept.registers (h : Kept host start calls p) (hcall : isRestart call.1 = false)
    (hregisters : Registers p (registration host call) after) :
    Kept host start (calls ++ [call]) after where
  rows tenantId chatId := by
    rw [registered_concat, ← h.rows, hregisters.rows]
    cases registration host call with
    | none => simp
    | some registered =>
        simp [List.mem_insert_iff, Prod.ext_iff]
        tauto
  chats tenantId chatId := by
    rw [sinceRestart_concat hcall, List.filterMap_append, List.mem_append, ← h.chats,
      hregisters.chatsOf]
    cases hregistered : registration host call with
    | none => simp [hregistered]
    | some registered =>
        rw [Option.elim_some]
        split
        · rename_i heq
          rw [List.mem_insert_iff]
          simp [hregistered, Prod.ext_iff, heq, or_comm, eq_comm]
        · rename_i hne
          simp [hregistered, Prod.ext_iff, hne]
  nodup tenantId := by
    rw [hregisters.chatsOf]
    cases registration host call with
    | none => exact h.nodup tenantId
    | some registered =>
        rw [Option.elim_some]
        split
        · exact (h.nodup tenantId).insert
        · exact h.nodup tenantId
  own := hregisters.own h.own

theorem Kept.restart (hstart : StartedProcess host.reviews start) (h : Kept host start calls p)
    (hcall : isRestart call.1 = true) (hnone : registration host call = none) :
    Kept host start (calls ++ [call]) (restarted start p) where
  rows tenantId chatId := by
    rw [registered_concat, ← h.rows, hnone]
    simp [restarted, ServiceState.withMemory]
  chats tenantId chatId := by
    rw [sinceRestart_restart hcall, List.filterMap_nil]
    have hchats : (restarted start p).service.chatsOf tenantId = [] := chatsOf_start hstart tenantId
    rw [hchats]
    simp
  nodup tenantId := by
    have hchats : (restarted start p).service.chatsOf tenantId = [] := chatsOf_start hstart tenantId
    rw [hchats]
    exact List.nodup_nil
  own := fun tenantId own hown => ownSilent_start hstart tenantId own hown

theorem Kept.step (hstart : StartedProcess host.reviews start) (h : Kept host start calls p)
    (op : BotStep Update) :
    Kept host start (calls ++ [(op, (botStep e host start p op).1)])
      (botStep e host start p op).2 := by
  cases hop : isRestart op with
  | false => exact h.registers hop (registers_step op hop)
  | true =>
      cases op with
      | restart => exact h.restart hstart rfl rfl
      | _ => cases hop

/-- The table and the memory of every run. -/
theorem kept_run (hstart : StartedProcess host.reviews start) (ops : List (BotStep Update)) :
    Kept host start (Isolation.trace (botStep e host start) start ops)
      (Isolation.run (botStep e host start) start ops) := by
  induction ops using List.reverseRecOn with
  | nil => exact kept_start hstart
  | append_singleton ops op ih =>
      have hrun : Isolation.run (botStep e host start) start (ops ++ [op]) =
          (botStep e host start (Isolation.run (botStep e host start) start ops) op).2 :=
        List.foldl_append
      rw [Isolation.trace_append, hrun]
      exact ih.step hstart op

/-! ## Reviews along a run -/

theorem tenantOf_idem (host : ReviewHost) (tenant : Option String) :
    tenantOf host (some (tenantOf host tenant)) = tenantOf host tenant := by
  rw [tenantOf]
  split
  · rename_i hempty
    cases tenant with
    | none => rfl
    | some named =>
        by_cases hnamed : named = ""
        · exact (if_pos hnamed).symm
        · exact absurd ((if_neg hnamed).symm.trans hempty) hnamed
  · rfl

/-- A review is announced to the chats that the service which takes the update knows. -/
theorem botStep_notified (hsilent : OwnSilent p) {op : BotStep Update}
    {own : Option (OwnService rt Window)} {update : Update}
    (htaken : takenBy host p op = some (tenantId, own, update))
    (hreview : (reviewFor e host p tenantId own update).isSome) :
    ∃ action, (botStep e host start p op).1 = .delivered (.acted action
      (if own.isNone ∧ (executionToken host.reviews p.service.reviews true tenantId).isSome then
        p.service.chatsOf tenantId else [])) := by
  obtain ⟨review, hreview⟩ := Option.isSome_iff_exists.mp hreview
  cases op with
  | protectGroup weather request groupId adminChatId => cases htaken
  | restart => cases htaken
  | byTenant named secret taken =>
      rw [takenBy] at htaken
      split at htaken
      · rename_i hsecret
        cases htaken
        obtain ⟨action, hanswer⟩ := processUpdate_notified (tenantOf_idem _ _) hreview
        refine ⟨action, ?_⟩
        simp only [botStep, receiveForTenant, if_pos hsecret, hanswer, deliveredOf,
          Option.isNone_none, true_and]
      · cases htaken
  | byToken botToken secret taken =>
      rw [takenBy] at htaken
      obtain ⟨found, hfound, htaken⟩ := Option.bind_eq_some_iff.mp htaken
      have hnamed := (tenantOfToken_eq hfound).1
      simp only [botStep, telegramWebhook, hfound]
      by_cases hdefault : found = "default"
      · rw [if_pos hdefault] at htaken ⊢
        split at htaken
        · rename_i hsecret
          cases htaken
          obtain ⟨action, hanswer⟩ := processUpdate_notified (if_neg hnamed) hreview
          refine ⟨action, ?_⟩
          simp only [telegramWebhookForTenant, if_pos hsecret, hanswer, deliveredOf,
            Option.isNone_none, true_and]
        · cases htaken
      · rw [if_neg hdefault] at htaken ⊢
        obtain ⟨made, hmade, htaken⟩ := Option.bind_eq_some_iff.mp htaken
        split at htaken
        · rename_i hsecret
          cases htaken
          have hmade := serviceForTenant_made hmade
          obtain ⟨action, hanswer⟩ := processUpdate_notified (if_neg hnamed) hreview
          have hnone : (p.service.withMemory made.memory).chatsOf tenantId = [] :=
            congrArg (fun chats => (Dict.get? chats tenantId).getD [])
              (serviceForTenant_silent hsilent hmade)
          refine ⟨action, ?_⟩
          rw [hmade]
          dsimp only
          rw [if_pos hsecret, processOwn, hanswer, hnone, ite_self, if_neg (by simp)]
          rfl
        · cases htaken

theorem Kept.announced_iff (h : Kept host start calls p) {op : BotStep Update}
    (hcreates : CreatesReview e host p op tenantId) :
    Announced host start calls tenantId (botStep e host start p op).1 ↔
      CanAnnounce host start calls p op tenantId := by
  obtain ⟨own, update, htaken, hreview⟩ := hcreates
  obtain ⟨action, hanswer⟩ := botStep_notified h.own htaken hreview
  rw [hanswer]
  unfold Announced CanAnnounce
  by_cases hreached : own.isNone ∧
      (executionToken host.reviews p.service.reviews true tenantId).isSome
  · obtain ⟨hown, htoken⟩ := hreached
    rw [Option.isNone_iff_eq_none] at hown
    subst hown
    simp only [Option.isNone_none, htoken, and_self, if_true, h.nodup, true_and]
    constructor
    · intro hall
      exact .inr ⟨⟨update, htaken⟩, fun chatId hregistered =>
        (h.chats tenantId chatId).mp ((hall chatId).mpr hregistered)⟩
    · rintro (hnone | ⟨-, hsince⟩) chatId
      · constructor
        · intro hchat
          exact registered_of_since ((h.chats tenantId chatId).mp hchat)
        · intro hregistered
          exact absurd hregistered (hnone chatId)
      · constructor
        · intro hchat
          exact registered_of_since ((h.chats tenantId chatId).mp hchat)
        · intro hregistered
          exact (h.chats tenantId chatId).mpr (hsince chatId hregistered)
  · rw [if_neg hreached]
    simp only [List.nodup_nil, List.not_mem_nil, false_iff, true_and]
    constructor
    · intro hnone
      exact .inl hnone
    · rintro (hnone | ⟨htoken, ⟨update', htaken'⟩, -⟩)
      · exact hnone
      · rw [htaken] at htaken'
        cases htaken'
        exact absurd ⟨rfl, htoken⟩ hreached

/-- In every run, a review is announced to each chat of its tenant, once, and to no other,
exactly where the tenant has no chats, or there is a token, the service of the module takes
the update, and every chat was registered since the process last came up. -/
theorem review_announced_iff (e : Evaluation rt Update Window Engine) (host : AdminHost)
    {start : Process rt Window Engine} (hstart : StartedProcess host.reviews start)
    (ops : List (BotStep Update)) {op : BotStep Update} {tenantId : String}
    (hcreates : CreatesReview e host (Isolation.run (botStep e host start) start ops) op tenantId) :
    let calls := Isolation.trace (botStep e host start) start ops
    let p := Isolation.run (botStep e host start) start ops
    Announced host start calls tenantId (botStep e host start p op).1 ↔
      CanAnnounce host start calls p op tenantId :=
  (kept_run hstart ops).announced_iff hcreates

end

/-! ## A burst after a registration -/

theorem createsReview_iff {e : Evaluation rt Update Window Engine} {host : AdminHost}
    {p : Process rt Window Engine} {op : BotStep Update} {tenantId : String} :
    CreatesReview e host p op tenantId ↔ (takenBy host p op).any (fun taken =>
      decide (taken.1 = tenantId) && (reviewFor e host p taken.1 taken.2.1 taken.2.2).isSome) := by
  simp only [CreatesReview, Option.any_eq_true, Bool.and_eq_true, decide_eq_true_eq]
  constructor
  · rintro ⟨own, update, htaken, hreview⟩
    exact ⟨(tenantId, own, update), htaken, rfl, hreview⟩
  · rintro ⟨⟨found, own, update⟩, htaken, rfl, hreview⟩
    exact ⟨own, update, htaken, hreview⟩

instance (e : Evaluation rt Update Window Engine) (host : AdminHost) (p : Process rt Window Engine)
    (op : BotStep Update) (tenantId : String) : Decidable (CreatesReview e host p op tenantId) :=
  decidable_of_iff _ createsReview_iff.symm

instance (host : AdminHost) (start : Process rt Window Engine)
    (calls : List (BotStep Update × BotAnswer)) (tenantId : String) (chatId : ℤ) :
    Decidable (Registered host start calls tenantId chatId) :=
  inferInstanceAs (Decidable (_ ∨ _))

/-- The chats that an answer is announced in. -/
def announcedIn : BotAnswer → List ℤ
  | .delivered (.acted _ notified) => notified
  | _ => []

theorem not_announced {host : AdminHost} {start : Process rt Window Engine}
    {calls : List (BotStep Update × BotAnswer)} {tenantId : String} {answer : BotAnswer} (chatId : ℤ)
    (hregistered : Registered host start calls tenantId chatId) (hnone : chatId ∉ announcedIn answer) :
    ¬ Announced host start calls tenantId answer := by
  intro h
  unfold Announced at h
  split at h
  · exact hnone ((h.2 chatId).mpr hregistered)
  · exact h

/-- The client's group is protected with a chat, and three messages with media come in. -/
def announcedSteps (deliver : String → BotStep String) : List (BotStep String) :=
  .protectGroup quietWeather (clientRequest .getAllReviews) 5 (some 7) ::
    ["1", "2", "3"].map deliver

theorem review_announced_iff_burst :
    let deliver := BotStep.byTenant "client1" none
    let step := botStep mediaBurst botHost botProcess
    let calls := Isolation.trace step botProcess (announcedSteps deliver)
    let p := Isolation.run step botProcess (announcedSteps deliver)
    Announced botHost botProcess calls "client1" (step p (deliver "4")).1 ↔
      CanAnnounce botHost botProcess calls p (deliver "4") "client1" :=
  review_announced_iff mediaBurst botHost botProcess_started _ (by decide +kernel)

/-- Under the token of the bot, the chat that was registered is told nothing. -/
theorem registered_chat_not_told :
    let deliver := BotStep.byToken "123:abc" none
    let step := botStep mediaBurst botHost botProcess
    let calls := Isolation.trace step botProcess (announcedSteps deliver)
    let p := Isolation.run step botProcess (announcedSteps deliver)
    StartedProcess botHost.reviews botProcess ∧
      CreatesReview mediaBurst botHost p (deliver "4") "client1" ∧
      Registered botHost botProcess calls "client1" 7 ∧
      ¬ Announced botHost botProcess calls "client1" (step p (deliver "4")).1 := by
  exact ⟨botProcess_started, by decide +kernel, by decide +kernel,
    not_announced 7 (by decide +kernel) (by decide +kernel)⟩

end TruePresenceESE.Telegram.Webhook
