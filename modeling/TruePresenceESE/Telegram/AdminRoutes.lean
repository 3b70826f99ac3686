import TruePresenceESE.Telegram.Service

/-! # The administrators' routes

A request is admitted by the token of the tenant that its query or its headers name. The
routes take the tenant they act on from there too, but for the one that stores bot tokens,
which takes it from the body.
-/

namespace TruePresenceESE.Telegram

open PyValue JsonDict

/-! ## Requests -/

inductive AdminRoute where
  | storeBotToken (tenantId botToken : String)
  | getStatus
  | protectGroup (groupId : ℤ) (adminChatId : Option ℤ)
  | getGroupMembers (groupId : ℤ)
  | getAllReviews
  | getReviewDetails (reviewId : String)
  | resolveReview (reviewId : String) (resolution : JsonDict)
  | executeReviewDecision (reviewId : String)
  | getTenantConfig
  | configureDetectors (config : JsonDict)
  | getConfigurationOptions

/-- Header names are looked up without regard to case. -/
structure AdminRequest where
  query : String → Option String
  header : String → Option String
  /-- Whether a bearer credential, where there is one, is that of a super admin. -/
  bearer : Option Bool
  route : AdminRoute

structure AdminHost where
  reviews : ReviewHost
  fernetEncrypt : String → Option String

/-- What one request meets outside the service. -/
structure AdminWeather where
  database : Bool
  execution : ExecutionWeather
  resolvedAt : String

/-- The tenant of the query, else of the header. -/
def tenantIdFromRequest (request : AdminRequest) : String :=
  match (request.query "tenant").filter (· ≠ "") with
  | some tenantId => tenantId
  | none => (request.header "X-Tenant-ID").getD "default"

/-! ## Admission -/

def adminTokenName (host : TokenHost) (tenantId : String) : String :=
  "ADMIN_API_TOKEN_" ++ host.upper tenantId

def expectedAdminToken (host : TokenHost) (tenantId : String) : Option String :=
  (envOr host (adminTokenName host tenantId) (host.environ "ADMIN_API_TOKEN")).filter (· ≠ "")

inductive Admission where
  | adminToken
  | superAdmin
  | refused (statusCode : Nat) (detail : String)
  deriving DecidableEq

/-- A bearer credential is asked for only where no token is configured. -/
def requireTelegramAdmin (host : TokenHost) (request : AdminRequest) : Admission :=
  match expectedAdminToken host (tenantIdFromRequest request) with
  | some expected =>
      if request.header "X-Admin-Token" = some expected then .adminToken
      else .refused 403 "Admin access required"
  | none =>
      match request.bearer with
      | none => .refused 401 "Not authenticated"
      | some true => .superAdmin
      | some false => .refused 403 "Admin access required"

/-! ## Responses -/

inductive AdminResponse where
  | failure (statusCode : Nat) (detail : String)
  | tokenStored (tenantId : String)
  | status (report : StatusReport)
  | groupProtected (tenantId : String) (groupId : ℤ)
  | groupMembers (groupId : ℤ)
  | reviews (tenantId : String) (pendingReviews : List JsonDict)
  | review (review : JsonDict)
  | resolved (tenantId reviewId : String) (decision notes : Json)
  | executed (tenantId reviewId : String) (outcome : ReviewOutcome)
  | config (tenantId tenantName : String) (configuration : Option TenantConfig)
      (activeDetectors : List String)
  | configured (tenantId : String) (configuration : TenantConfig) (activeDetectors : List String)
  | configurationOptions

/-- The answer of an exception that nothing catches. -/
def serverError : AdminResponse := .failure 500 "Internal Server Error"

variable {rt : TextRuntime}

def activeDetectorsOf (s : Tenants rt) (tenantId : String) : List String :=
  ((s.adapters.get? tenantId).map (·.activeDetectors.keys)).getD []

/-! ## Handlers -/

def encryptValue (host : AdminHost) (plaintext : String) : Option String :=
  if plaintext = "" then some plaintext else host.fernetEncrypt plaintext

def storeBotToken (host : AdminHost) (s : ServiceState rt) (database : Bool)
    (tenantId botToken : String) : AdminResponse × ServiceState rt :=
  match encryptValue host botToken with
  | none => (serverError, s)
  | some encrypted =>
      if database then
        (.tokenStored tenantId,
          { s with reviews := { s.reviews with tokens := s.reviews.tokens.set tenantId encrypted } })
      else (serverError, s)

/-- Every tenant is shown to the default one that asks for it. -/
def statusTenant (host : AdminHost) (request : AdminRequest) : String :=
  let tenantId := tenantIdFromRequest request
  let showAll := decide (host.reviews.tokens.lower ((request.query "all").getD "false") = "true")
  if showAll && decide (tenantId = "default") then "all" else tenantId

def protectGroup (host : AdminHost) (s : ServiceState rt) (database : Bool) (groupId : ℤ)
    (adminChatId : Option ℤ) (tenantId : String) : AdminResponse × ServiceState rt :=
  match registerGroup host.reviews s database groupId adminChatId (some tenantId) with
  | (.error _, after) => (serverError, after)
  | (.ok _, after) => (.groupProtected tenantId groupId, after)

/-- An empty review is as good as none. -/
def foundReview (host : AdminHost) (s : ServiceState rt) (database : Bool)
    (reviewId tenantId : String) : Option JsonDict :=
  (getReview host.reviews s.reviews database reviewId (some tenantId)).filter (!·.items.isEmpty)

def getReviewDetails (host : AdminHost) (s : ServiceState rt) (database : Bool)
    (reviewId tenantId : String) : AdminResponse :=
  match foundReview host s database reviewId tenantId with
  | some review => .review review
  | none => .failure 404 "Review not found"

def validDecisions : List String := ["allow", "ban", "kick", "warn", "delete"]

/-- The decision of a resolution, or the failure it is answered with. -/
def decisionOf (resolution : JsonDict) : Except AdminResponse String :=
  let decision := resolution.get "decision"
  if PyValue.truthy decision then
    match memberOf validDecisions decision with
    | .error _ => .error serverError
    | .ok known =>
        match decision with
        | .str text =>
            if known then .ok text else .error (.failure 400 ("Invalid decision: " ++ text))
        | _ => .error (.failure 400 "Invalid decision")
  else .error (.failure 400 "Decision is required")

def resolveReviewRoute (host : AdminHost) (s : ServiceState rt) (weather : AdminWeather)
    (reviewId tenantId : String) (resolution : JsonDict) : AdminResponse × ServiceState rt :=
  match decisionOf resolution with
  | .error failure => (failure, s)
  | .ok decision =>
      let notes := resolution.getOr "notes" (.str "")
      let resolved := resolveReview host.reviews s.reviews weather.database reviewId
        ⟨decision, notes, weather.resolvedAt⟩ (some tenantId)
      let after := { s with reviews := resolved.2 }
      match resolved.1 with
      | .error _ => (serverError, after)
      | .ok true => (.resolved tenantId reviewId (.str decision) notes, after)
      | .ok false => (.failure 404 "Review not found", after)

/-- The review is looked up, and looked up once more where it is resolved. -/
def executeReviewRoute (host : AdminHost) (s : ServiceState rt) (weather : AdminWeather)
    (reviewId tenantId : String) : List ApiRequest × AdminResponse :=
  match foundReview host s weather.database reviewId tenantId with
  | none => ([], .failure 404 "Review not found")
  | some review =>
      if isText "resolved" (review.get "status") then
        match executeReviewDecision host.reviews s.reviews weather.execution reviewId
            (some tenantId) with
        | .error _ => ([], serverError)
        | .ok (posts, outcome) =>
            if outcome.status ∈ ["executed", "skipped"] then
              (posts, .executed tenantId reviewId outcome)
            else (posts, .failure 500 (outcome.error.getD "Failed to execute decision"))
      else ([], .failure 400 "Review not yet resolved by admin")

def getTenantConfig (host : AdminHost) (s : ServiceState rt) (tenantId : String) :
    AdminResponse × ServiceState rt :=
  let ensured := ensureTenant host.reviews.configs s.reviews.tenants tenantId
  let after := s.withTenants ensured.2
  match ensured.1 with
  | .error _ => (serverError, after)
  | .ok _ =>
      let tokens := host.reviews.tokens
      (.config tenantId ((tokens.environ ("TENANT_NAME_" ++ tokens.upper tenantId)).getD tenantId)
        (ensured.2.configs.get? tenantId) (activeDetectorsOf ensured.2 tenantId), after)

def configureDetectorsRoute (host : AdminHost) (s : ServiceState rt) (tenantId : String)
    (config : JsonDict) : AdminResponse × ServiceState rt :=
  if config.has "detectors" then
    let updated := updateTenantConfig host.reviews.configs s.reviews.tenants tenantId config
    let after := s.withTenants updated.2
    match updated.1 with
    | .error _ => (serverError, after)
    | .ok configuration =>
        (.configured tenantId configuration (activeDetectorsOf updated.2 tenantId), after)
  else (.failure 400 "Configuration must include 'detectors' section", s)

/-- A request that is admitted: what is posted, the response, and the service after it. -/
def handleRoute (host : AdminHost) (s : ServiceState rt) (weather : AdminWeather)
    (request : AdminRequest) : (List ApiRequest × AdminResponse) × ServiceState rt :=
  let tenantId := tenantIdFromRequest request
  let quiet (answered : AdminResponse × ServiceState rt) := (([], answered.1), answered.2)
  match request.route with
  | .storeBotToken tenantId botToken =>
      quiet (storeBotToken host s weather.database tenantId botToken)
  | .getStatus =>
      quiet (.status (getStatus host.reviews s weather.database (some (statusTenant host request))),
        s)
  | .protectGroup groupId adminChatId =>
      quiet (protectGroup host s weather.database groupId adminChatId tenantId)
  | .getGroupMembers groupId => quiet (.groupMembers groupId, s)
  | .getAllReviews =>
      quiet (.reviews tenantId
        (getPendingReviews host.reviews s.reviews weather.database (some tenantId)), s)
  | .getReviewDetails reviewId =>
      quiet (getReviewDetails host s weather.database reviewId tenantId, s)
  | .resolveReview reviewId resolution =>
      quiet (resolveReviewRoute host s weather reviewId tenantId resolution)
  | .executeReviewDecision reviewId => (executeReviewRoute host s weather reviewId tenantId, s)
  | .getTenantConfig => quiet (getTenantConfig host s tenantId)
  | .configureDetectors config => quiet (configureDetectorsRoute host s tenantId config)
  | .getConfigurationOptions => quiet (.configurationOptions, s)

def handleAdminRequest (host : AdminHost) (s : ServiceState rt) (weather : AdminWeather)
    (request : AdminRequest) : (List ApiRequest × AdminResponse) × ServiceState rt :=
  match requireTelegramAdmin host.reviews.tokens request with
  | .refused statusCode detail => (([], .failure statusCode detail), s)
  | _ => handleRoute host s weather request

end TruePresenceESE.Telegram
