import TruePresenceESE.Telegram.AdminRoutes

/-! # The webhooks

An update comes in for the tenant that its request names, or for the one whose bot token
is in the path. The first goes to the service of the module, which the administrators'
routes work on too; the second goes to a service of the tenant's own. The database and the
engine are shared, what a service keeps in memory is not.
-/

namespace TruePresenceESE.Telegram

open PyValue JsonDict

/-! ## Services -/

/-- What a service keeps in memory. -/
structure Memory (rt : TextRuntime) where
  tenants : Tenants rt
  pendingReviews : Dict String (Dict String JsonDict)
  protectedGroups : Dict String (List ℤ)
  adminChats : Dict String (List ℤ)
  userSessions : Dict String JsonDict

/-- A service of a tenant's own; a window is what an adapter remembers of its updates. -/
structure OwnService (rt : TextRuntime) (Window : Type) where
  memory : Memory rt
  windows : Dict String Window

/-- The services of the process. That of the default tenant is the one of the module. -/
structure Process (rt : TextRuntime) (Window Engine : Type) where
  service : ServiceState rt
  windows : Dict String Window
  tenantServices : Dict String (OwnService rt Window)
  engine : Engine

namespace ServiceState

variable {rt : TextRuntime}

def memory (s : ServiceState rt) : Memory rt where
  tenants := s.reviews.tenants
  pendingReviews := s.reviews.pendingReviews
  protectedGroups := s.protectedGroups
  adminChats := s.adminChats
  userSessions := s.userSessions

/-- Another service over the same database. -/
def withMemory (s : ServiceState rt) (memory : Memory rt) : ServiceState rt :=
  { s with
    reviews := { s.reviews with
      tenants := memory.tenants
      pendingReviews := memory.pendingReviews }
    protectedGroups := memory.protectedGroups
    adminChats := memory.adminChats
    userSessions := memory.userSessions }

end ServiceState

namespace Webhook

def newMemory (rt : TextRuntime) (host : ReviewHost) (tenantId : String) :
    Except String (Memory rt) := do
  let tenants ← newTenants host.configs tenantId
  return ⟨tenants, Dict.empty, Dict.empty, Dict.empty, Dict.empty⟩

/-! ## Updates -/

/-- What an adapter and the engine make of an update, with all that comes with it: the
clock, the ids that are drawn and Telegram's replies. -/
structure Evaluation (rt : TextRuntime) (Update Window Engine : Type) where
  newWindow : Window
  parse : TelegramAdapter rt → Window → Update → Except PyError (Option ParsedEvent) × Window
  evaluate : TelegramAdapter rt → Window → Engine → Option String → String → Update → JsonDict →
    Evaluated × Engine

variable {rt : TextRuntime} {Update Window Engine : Type}

def reviewOf : Evaluated → Option ReviewRequest
  | .raised => none
  | .acted _ review => review

structure Processed (rt : TextRuntime) (Window Engine : Type) where
  answer : UpdateAnswer
  service : ServiceState rt
  windows : Dict String Window
  engine : Engine

section
variable (e : Evaluation rt Update Window Engine) (host : ReviewHost) (database : Bool)
  (tenantId : String) (update : Update) (s : ServiceState rt) (windows : Dict String Window)
  (engine : Engine)

def windowOf : Window := (windows.get? tenantId).getD e.newWindow

/-- The adapter that takes the update, where the tenant is loaded. -/
def loadedAdapter : Option (TelegramAdapter rt) :=
  let ensured := ensureTenant host.configs s.reviews.tenants tenantId
  match ensured.1 with
  | .ok _ => ensured.2.adapters.get? tenantId
  | .error _ => none

def ensuredService : ServiceState rt :=
  s.withTenants (ensureTenant host.configs s.reviews.tenants tenantId).2

def evaluateWith (adapter : TelegramAdapter rt) (session : JsonDict) : Evaluated × Engine :=
  e.evaluate adapter (windowOf e tenantId windows) engine
    (executionToken host s.reviews database tenantId) tenantId update session

/-- The evaluation of the update, where there is one. -/
def evaluatedUpdate : Option (Evaluated × Engine) := do
  let adapter ← loadedAdapter host tenantId s
  match (e.parse adapter (windowOf e tenantId windows) update).1 with
  | .ok (some event) =>
      let opened := openSession host (ensuredService host tenantId s) database
        (sessionIdOf tenantId event.userId) tenantId
      return evaluateWith e host database tenantId update s windows engine adapter opened.1
  | _ => none

/-- The review that the update asks for. -/
def askedReview : Option ReviewRequest :=
  (evaluatedUpdate e host database tenantId update s windows engine).bind fun evaluated =>
    reviewOf evaluated.1

def processUpdate : Processed rt Window Engine :=
  let after := ensuredService host tenantId s
  match loadedAdapter host tenantId s with
  | none => ⟨.failed, after, windows, engine⟩
  | some adapter =>
      let parsed := e.parse adapter (windowOf e tenantId windows) update
      let moved := windows.set tenantId parsed.2
      match parsed.1 with
      | .error _ => ⟨.failed, after, moved, engine⟩
      | .ok none => ⟨.ignored, after, moved, engine⟩
      | .ok (some event) =>
          let processed := processEvent host after database tenantId event fun session =>
            (evaluateWith e host database tenantId update s windows engine adapter session).1
          ⟨processed.1, processed.2, moved,
            ((evaluatedUpdate e host database tenantId update s windows engine).map Prod.snd).getD
              engine⟩

end

/-! ## Secrets -/

def webhookSecret (host : TokenHost) (tenantId : String) : Option String :=
  (envOr host ("TELEGRAM_WEBHOOK_SECRET_" ++ host.upper tenantId)
    (host.environ "TELEGRAM_WEBHOOK_SECRET")).filter (· ≠ "")

/-- Without a secret, updates are taken outside production only. -/
def secretAccepted (host : TokenHost) (tenantId : String) (secret : Option String) : Bool :=
  match webhookSecret host tenantId with
  | some expected => decide (secret = some expected)
  | none => !isProductionMode host

/-! ## Routes -/

/-- What came of a delivery; whatever is answered with an error counts as refused. -/
inductive Delivered where
  | refused
  | ignored
  | acted (action : Json) (notified : List ℤ)

def deliveredOf : UpdateAnswer → Delivered
  | .failed => .refused
  | .ignored => .ignored
  | .acted action notified => .acted action notified

section
variable (e : Evaluation rt Update Window Engine) (host : ReviewHost) (database : Bool)
  (p : Process rt Window Engine)

/-- `/webhook`, for the tenant that the request names. -/
def telegramWebhookForTenant (tenantId : String) (secret : Option String) (update : Update) :
    Delivered × Process rt Window Engine :=
  if secretAccepted host.tokens tenantId secret then
    let processed := processUpdate e host database tenantId update p.service p.windows p.engine
    (deliveredOf processed.answer,
      { p with
        service := processed.service, windows := processed.windows, engine := processed.engine })
  else (.refused, p)

def serviceForTenant (tenantId : String) : Except String (OwnService rt Window) :=
  match p.tenantServices.get? tenantId with
  | some own => .ok own
  | none => do
      let memory ← newMemory rt host tenantId
      return ⟨memory, Dict.empty⟩

/-- An update that a service of the tenant's own takes. -/
def processOwn (tenantId : String) (update : Update) (own : OwnService rt Window) :
    Delivered × Process rt Window Engine :=
  let processed := processUpdate e host database tenantId update
    (p.service.withMemory own.memory) own.windows p.engine
  (deliveredOf processed.answer,
    { p with
      service := processed.service.withMemory p.service.memory
      tenantServices := p.tenantServices.set tenantId
        ⟨processed.service.memory, processed.windows⟩
      engine := processed.engine })

def tenantOfToken (botToken : String) : Option String :=
  resolveTenantFromToken host.tokens (if database then some p.service.reviews.tokens else none)
    botToken

/-- `/webhook/<bot_token>`; the service is made before the secret is looked at. -/
def telegramWebhook (botToken : String) (secret : Option String) (update : Update) :
    Delivered × Process rt Window Engine :=
  match tenantOfToken host database p botToken with
  | none => (.refused, p)
  | some tenantId =>
      if tenantId = "default" then
        telegramWebhookForTenant e host database p tenantId secret update
      else
        match serviceForTenant host p tenantId with
        | .error _ => (.refused, p)
        | .ok own =>
            if secretAccepted host.tokens tenantId secret then
              processOwn e host database p tenantId update own
            else (.refused, { p with tenantServices := p.tenantServices.set tenantId own })

/-- What a request of an administrator meets, but for the state of the database. -/
structure RequestWeather where
  http : Nat → HttpReply
  loads : String → Option Json
  now : ℚ
  resolvedAt : String

def RequestWeather.under (weather : RequestWeather) (database : Bool) : AdminWeather where
  database := database
  execution := ⟨database, database, weather.http, weather.loads, weather.now⟩
  resolvedAt := weather.resolvedAt

end

/-- An administrator's request; a configuration that is taken brings a new adapter. -/
def adminStep (host : AdminHost) (database : Bool) (p : Process rt Window Engine)
    (weather : RequestWeather) (request : AdminRequest) :
    (List ApiRequest × AdminResponse) × Process rt Window Engine :=
  let handled := handleAdminRequest host p.service (weather.under database) request
  (handled.1,
    { p with
      service := handled.2
      windows := match handled.1.2 with
        | .configured tenantId _ _ => p.windows.erase tenantId
        | _ => p.windows })

end Webhook

end TruePresenceESE.Telegram
