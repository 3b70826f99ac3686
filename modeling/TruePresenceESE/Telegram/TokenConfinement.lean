import TruePresenceESE.Telegram.RouteReach

/-! # Confinement of a tenant's admin token

The token of a tenant admits requests that name the tenant, in whatever case. What such a
request acts on is still for its route to say.
-/

namespace TruePresenceESE.Telegram

open PyValue JsonDict

/-! ## Confinement -/

/-- The request leaves what belongs to other tenants alone and is answered without it. -/
def Confined (rt : TextRuntime) (host : AdminHost) (tenantId : String) (weather : AdminWeather)
    (request : AdminRequest) : Prop :=
  ∀ s : ServiceState rt,
    (∀ other ≠ tenantId, SameTenant other (handleAdminRequest host s weather request).2 s) ∧
    ∀ t, SameTenant tenantId s t →
      (handleAdminRequest host s weather request).1 =
          (handleAdminRequest host t weather request).1 ∧
        SameTenant tenantId (handleAdminRequest host s weather request).2
          (handleAdminRequest host t weather request).2

/-- It looks at nothing, or acts on the tenant and counts nobody else's sessions. -/
def StaysWithin (host : AdminHost) (tenantId : String) (weather : AdminWeather)
    (request : AdminRequest) : Prop :=
  Inert host weather request ∨
    actsOn host request = tenantId ∧ CountsOwn host weather request

section
variable {rt : TextRuntime} {host : AdminHost} {weather : AdminWeather} {request : AdminRequest}
  {tenantId other : String}

theorem handleAdminRequest_admitted
    (h : requireTelegramAdmin host.reviews.tokens request = .adminToken) (s : ServiceState rt) :
    handleAdminRequest host s weather request = handleRoute host s weather request := by
  unfold handleAdminRequest
  rw [h]

theorem confined_of_staysWithin
    (hadmitted : requireTelegramAdmin host.reviews.tokens request = .adminToken)
    (h : StaysWithin host tenantId weather request) : Confined rt host tenantId weather request := by
  intro s
  simp only [handleAdminRequest_admitted hadmitted]
  rcases h with hinert | ⟨rfl, hcounts⟩
  · obtain ⟨answer, hanswer⟩ := hinert.answer rt
    simp only [hanswer, true_and]
    exact ⟨fun other _ => .refl other s, fun t hsame => hsame⟩
  · exact ⟨fun other hother => handleRoute_hidden hother.symm,
      fun t hsame => handleRoute_visible hcounts hsame⟩

end

/-! ## Services that tell the tenants apart -/

def blankService (rt : TextRuntime) : ServiceState rt where
  reviews := ⟨⟨Dict.empty, Dict.empty, Dict.empty⟩, Dict.empty, Dict.empty, Dict.empty⟩
  groupRows := []
  chatRows := []
  sessionRows := Dict.empty
  protectedGroups := Dict.empty
  adminChats := Dict.empty
  userSessions := Dict.empty

def waitingReview (reviewId tenantId : String) : JsonDict := newReview Dict.empty reviewId "" tenantId

/-- One review waits for the tenant. -/
def reviewService (rt : TextRuntime) (reviewId tenantId : String) : ServiceState rt :=
  { blankService rt with
    reviews := ((blankService rt).reviews.setCopy reviewId tenantId
      (waitingReview reviewId tenantId)).setRow reviewId
        ⟨tenantId, waitingReview reviewId tenantId, "pending"⟩ }

/-- The tenant has one protected group. -/
def groupService (rt : TextRuntime) (tenantId : String) : ServiceState rt :=
  { blankService rt with
    groupRows := [(1, tenantId)]
    protectedGroups := Dict.empty.set tenantId [1] }

/-- A user of the tenant has a session in memory. -/
def sessionService (rt : TextRuntime) (tenantId : String) : ServiceState rt :=
  let sessionId := sessionIdOf tenantId "1"
  { blankService rt with
    userSessions := Dict.empty.set sessionId (newUserSession sessionId tenantId) }

section
variable {rt : TextRuntime} {host : AdminHost} {weather : AdminWeather} {request : AdminRequest}
  {tenantId other reviewId : String} {database : Bool}

theorem sameTenant_reviewService (hother : other ≠ tenantId) :
    SameTenant tenantId (reviewService rt reviewId other) (blankService rt) := by
  have hreviews : SameFor tenantId (reviewService rt reviewId other).reviews.withoutTokens
      (blankService rt).reviews.withoutTokens := by
    have hcopy := @sameFor_setCopy _ (blankService rt).reviews.withoutTokens other tenantId
      reviewId (waitingReview reviewId other) hother
    have hnew : OwnOrNew ((blankService rt).reviews.withoutTokens.setCopy reviewId other
        (waitingReview reviewId other)) reviewId other := (fun _ hrow => nomatch hrow)
    have hrow := @sameFor_setRow _ _ other tenantId reviewId
      ⟨other, waitingReview reviewId other, "pending"⟩ rfl hnew hother
    exact hrow.trans hcopy
  exact { SameTenant.refl tenantId (blankService rt) with reviews := hreviews }

theorem sameTenant_groupService (hother : other ≠ tenantId) :
    SameTenant tenantId (groupService rt other) (blankService rt) :=
  { SameTenant.refl tenantId (blankService rt) with
    groupRows := List.filter_cons_of_neg (by simpa using hother)
    protectedGroups := Dict.get?_set_ne _ _ hother }

theorem sameTenant_sessionService (hother : other ≠ tenantId) :
    SameTenant tenantId (sessionService rt other) (blankService rt) := by
  refine { SameTenant.refl tenantId (blankService rt) with userSessions := ?_ }
  refine Dict.selected_set_of_false ?_ (fun _ h => nomatch h)
  have htenant : (newUserSession (sessionIdOf other "1") other).get "tenant_id" = .str other := rfl
  rw [isSessionOf, htenant]
  exact decide_eq_false hother

theorem foundReview_blank :
    foundReview host (blankService rt) database reviewId tenantId = none := by
  unfold foundReview getReview
  cases database <;> rfl

theorem copyOf_reviewService :
    (reviewService rt reviewId tenantId).reviews.copyOf reviewId tenantId =
      some (waitingReview reviewId tenantId) := by
  have hcopies : (reviewService rt reviewId tenantId).reviews.pendingReviews.get? tenantId =
      some (Dict.empty.set reviewId (waitingReview reviewId tenantId)) := Dict.get?_set_self _ _ _
  rw [ReviewState.copyOf, hcopies, Option.getD_some, Dict.get?_set_self]
  rfl

theorem rowOf_reviewService :
    (reviewService rt reviewId tenantId).reviews.rowOf reviewId tenantId =
      some ⟨tenantId, waitingReview reviewId tenantId, "pending"⟩ := by
  have hrow : (reviewService rt reviewId tenantId).reviews.rows.get? reviewId =
      some ⟨tenantId, waitingReview reviewId tenantId, "pending"⟩ := Dict.get?_set_self _ _ _
  rw [ReviewState.rowOf, hrow]
  simp

theorem getReview_reviewService {tenant : Option String} {host : ReviewHost} :
    getReview host (reviewService rt reviewId (tenantOf host tenant)).reviews database reviewId
      tenant = some (waitingReview reviewId (tenantOf host tenant)) := by
  unfold getReview
  dsimp only
  rw [copyOf_reviewService, rowOf_reviewService]
  cases database with
  | true => cases hcolumn : host.column <;> rfl
  | false => rfl

theorem foundReview_reviewService :
    foundReview host (reviewService rt reviewId (tenantOf host.reviews (some tenantId))) database
      reviewId tenantId =
        some (waitingReview reviewId (tenantOf host.reviews (some tenantId))) := by
  rw [foundReview, getReview_reviewService]
  rfl

theorem getPendingReviews_blank {tenant : Option String} {host : ReviewHost} :
    getPendingReviews host (blankService rt).reviews database tenant = [] := by
  unfold getPendingReviews
  cases database <;> rfl

theorem getPendingReviews_reviewService {tenant : Option String} {host : ReviewHost} :
    getPendingReviews host (reviewService rt reviewId (tenantOf host tenant)).reviews database
      tenant = [waitingReview reviewId (tenantOf host tenant)] := by
  have hrows : pendingRows (reviewService rt reviewId (tenantOf host tenant)).reviews
      (tenantOf host tenant) =
        [⟨tenantOf host tenant, waitingReview reviewId (tenantOf host tenant), "pending"⟩] := by
    simp [pendingRows, reviewService, ReviewState.setRow, blankService, ReviewState.setCopy,
      Dict.values, Dict.set, Dict.setIn, Dict.empty]
  have hcopies : pendingCopies (reviewService rt reviewId (tenantOf host tenant)).reviews
      (tenantOf host tenant) = [waitingReview reviewId (tenantOf host tenant)] := by
    have hget : (reviewService rt reviewId (tenantOf host tenant)).reviews.pendingReviews.get?
        (tenantOf host tenant) =
          some (Dict.empty.set reviewId (waitingReview reviewId (tenantOf host tenant))) :=
      Dict.get?_set_self _ _ _
    rw [pendingCopies, hget]
    rfl
  unfold getPendingReviews
  dsimp only
  rw [hrows, hcopies]
  cases database with
  | true => cases hcolumn : host.column <;> rfl
  | false => rfl

/-! ## Statuses -/

theorem getStatus_groupService {tenant : Option String} {host : ReviewHost}
    (h : tenantOf host tenant = "all" ∨ tenantOf host tenant = other) :
    getStatus host (groupService rt other) database tenant ≠
      getStatus host (blankService rt) database tenant := by
  unfold getStatus
  dsimp only
  by_cases hall : tenantOf host tenant = "all"
  · rw [hall]
    cases database <;> intro heq
    · simp [statusOfAll, memoryTenants, groupService, blankService, Dict.update, Dict.keys,
        Dict.set, Dict.setIn, Dict.empty] at heq
    · simp [statusOfAll, storedTenants, groupService, blankService, Dict.update, Dict.set,
        Dict.setIn, Dict.empty] at heq
  · obtain rfl := h.resolve_left hall
    rw [decide_eq_false hall]
    cases database <;> intro heq
    · simp [memoryCounts, groupService, blankService, ServiceState.groupsOf] at heq
    · simp [storedCounts, groupService, blankService] at heq

/-- The id of one tenant may begin with the id of another and an underscore. -/
theorem getStatus_sessionService {tenant : Option String} {host : ReviewHost}
    (h : tenantOf host tenant ≠ "all") :
    getStatus host (sessionService rt (tenantOf host tenant ++ "_x")) false tenant ≠
      getStatus host (blankService rt) false tenant := by
  have hstart : (sessionStart (tenantOf host tenant)).toList.isPrefixOf
      (sessionIdOf (tenantOf host tenant ++ "_x") "1").toList = true := by
    simp [sessionIdOf, sessionStart, String.toList_append]
  intro heq
  unfold getStatus at heq
  dsimp only at heq
  rw [decide_eq_false h] at heq
  have hcounts := congrArg StatusCounts.activeSessions (StatusReport.tenant.inj heq).2
  simp [memoryCounts, sessionService, blankService, Dict.selected, Dict.set, Dict.setIn,
    Dict.empty, hstart] at hcounts

theorem append_underscore_ne (text : String) : text ++ "_x" ≠ text := by
  intro h
  have hlength := congrArg String.length h
  simp at hlength

/-- A status that is not confined counts what belongs to others. -/
theorem getStatus_reads {tenant : Option String} {host : ReviewHost}
    (h : ¬(tenantOf host tenant = tenantId ∧ tenantId ≠ "all" ∧ database = true)) :
    ∃ t : ServiceState rt, SameTenant tenantId t (blankService rt) ∧
      getStatus host t database tenant ≠ getStatus host (blankService rt) database tenant := by
  by_cases hall : tenantOf host tenant = "all"
  · exact ⟨_, sameTenant_groupService (append_underscore_ne tenantId),
      getStatus_groupService (.inl hall)⟩
  · by_cases hacts : tenantOf host tenant = tenantId
    · subst hacts
      cases database with
      | true => exact absurd ⟨rfl, hall, rfl⟩ h
      | false => exact ⟨_, sameTenant_sessionService (append_underscore_ne _),
          getStatus_sessionService hall⟩
    · exact ⟨_, sameTenant_groupService hacts, getStatus_groupService (.inr rfl)⟩

/-! ## Requests that reach further -/

theorem not_sameTenant_blank {s : ServiceState rt}
    (h : (s.reviews.tenants.configs.get? tenantId).isSome) :
    ¬ SameTenant tenantId s (blankService rt) := by
  intro hsame
  have hnone : s.reviews.tenants.configs.get? tenantId = none :=
    congrArg Prod.fst hsame.reviews.entries
  rw [hnone] at h
  cases h

theorem protectGroup_loads {groupId : ℤ} {adminChatId : Option ℤ} (s : ServiceState rt) :
    ((protectGroup host s database groupId adminChatId tenantId).2.reviews.tenants.configs.get?
      (tenantOf host.reviews (some tenantId))).isSome := by
  have hensured := @ensureTenant_config_isSome _ host.reviews.configs s.reviews.tenants
    (tenantOf host.reviews (some tenantId))
  unfold protectGroup registerGroup
  dsimp only
  cases (ensureTenant host.reviews.configs s.reviews.tenants
    (tenantOf host.reviews (some tenantId))).1 with
  | error e => exact hensured
  | ok _ => cases database <;> exact hensured

theorem resolveReview_loads {host : ReviewHost} {resolution : Resolution}
    {tenant : Option String} (s : ReviewState rt) :
    ((resolveReview host s database reviewId resolution tenant).2.tenants.configs.get?
      (tenantOf host tenant)).isSome := by
  have hcopy : ∀ u : ReviewState rt,
      (resolveCopy u reviewId (tenantOf host tenant) resolution).2.tenants = u.tenants := by
    intro u
    unfold resolveCopy
    split <;> rfl
  have hstored : ∀ u : ReviewState rt, (resolveStored host u database reviewId
      (tenantOf host tenant) resolution).2.tenants = u.tenants := by
    intro u
    unfold resolveStored
    split
    · split
      · rfl
      · split
        · rfl
        · exact hcopy u
    · exact hcopy u
  have hensured := @ensureTenant_config_isSome _ host.configs s.tenants (tenantOf host tenant)
  unfold resolveReview
  dsimp only
  split
  · exact hensured
  · rw [hstored]
    exact hensured

theorem resolveReviewRoute_loads {resolution : JsonDict} {decision : String}
    (hdecision : decisionOf resolution = .ok decision) (s : ServiceState rt) :
    ((resolveReviewRoute host s weather reviewId tenantId resolution).2.reviews.tenants.configs.get?
      (tenantOf host.reviews (some tenantId))).isSome := by
  unfold resolveReviewRoute
  rw [hdecision]
  dsimp only
  split <;> exact resolveReview_loads s.reviews

theorem getTenantConfig_loads (s : ServiceState rt) :
    ((getTenantConfig host s tenantId).2.reviews.tenants.configs.get? tenantId).isSome := by
  unfold getTenantConfig
  dsimp only
  split <;> exact ensureTenant_config_isSome

theorem configureDetectorsRoute_loads {config : JsonDict} (h : config.has "detectors" = true)
    (s : ServiceState rt) :
    ((configureDetectorsRoute host s tenantId config).2.reviews.tenants.configs.get?
      tenantId).isSome := by
  unfold configureDetectorsRoute
  rw [if_pos h]
  dsimp only
  split <;> exact updateTenantConfig_config_isSome

theorem Confined.route
    (hadmitted : requireTelegramAdmin host.reviews.tokens request = .adminToken)
    (h : Confined rt host tenantId weather request) (s : ServiceState rt) :
    (∀ other ≠ tenantId, SameTenant other (handleRoute host s weather request).2 s) ∧
    ∀ t, SameTenant tenantId s t →
      (handleRoute host s weather request).1 = (handleRoute host t weather request).1 := by
  obtain ⟨hwrites, hreads⟩ := h s
  simp only [handleAdminRequest_admitted hadmitted] at hwrites hreads
  exact ⟨hwrites, fun t hsame => (hreads t hsame).1⟩

/-- On a service that holds nothing, or something of one other tenant, a request shows
what it reaches. -/
theorem staysWithin_of_confined
    (hadmitted : requireTelegramAdmin host.reviews.tokens request = .adminToken)
    (h : Confined rt host tenantId weather request) :
    StaysWithin host tenantId weather request := by
  obtain ⟨hwrites, -⟩ := h.route hadmitted (blankService rt)
  have hreads : ∀ t : ServiceState rt, SameTenant tenantId t (blankService rt) →
      (handleRoute host t weather request).1 =
        (handleRoute host (blankService rt) weather request).1 :=
    fun t hsame => (h.route hadmitted t).2 _ hsame
  unfold StaysWithin
  by_contra hout
  simp only [not_or, not_and] at hout
  obtain ⟨hinert, hacts⟩ := hout
  unfold handleRoute at hwrites hreads
  unfold Inert at hinert
  unfold CountsOwn actsOn at hacts
  cases hroute : request.route <;> rw [hroute] at hwrites hreads hinert hacts <;>
    dsimp only at hwrites hreads hinert hacts
  case storeBotToken other botToken =>
    have hother : other ≠ tenantId := fun heq => hacts heq trivial
    rw [Classical.not_imp] at hinert
    obtain ⟨hdatabase, hencrypt⟩ := hinert
    obtain ⟨encrypted, hencrypt⟩ := Option.ne_none_iff_exists'.mp hencrypt
    have hsame := (hwrites other hother).token
    unfold storeBotToken at hsame
    rw [hencrypt, hdatabase] at hsame
    simp [blankService, Dict.empty, Dict.get?, Dict.set, Dict.setIn, Dict.lookupIn] at hsame
  case getStatus =>
    obtain ⟨t, hsame, hstatus⟩ := @getStatus_reads rt tenantId weather.database
      (some (statusTenant host request)) host.reviews fun hown =>
        hacts hown.1 ⟨by rw [hown.1]; exact hown.2.1, hown.2.2⟩
    exact hstatus (AdminResponse.status.inj (congrArg Prod.snd (hreads t hsame)))
  case protectGroup groupId adminChatId =>
    exact not_sameTenant_blank (protectGroup_loads _) (hwrites _ fun heq => hacts heq trivial)
  case getGroupMembers groupId => exact hinert trivial
  case getAllReviews =>
    have hanswer := hreads _ (@sameTenant_reviewService rt tenantId _ "1" fun heq =>
      hacts heq trivial)
    rw [getPendingReviews_reviewService, getPendingReviews_blank] at hanswer
    cases hanswer
  case getReviewDetails reviewId =>
    have hanswer := hreads _ (@sameTenant_reviewService rt tenantId _ reviewId fun heq =>
      hacts heq trivial)
    rw [getReviewDetails, getReviewDetails, foundReview_reviewService, foundReview_blank] at hanswer
    cases hanswer
  case resolveReview reviewId resolution =>
    cases hdecision : decisionOf resolution with
    | error failure => exact hinert ⟨failure, hdecision⟩
    | ok decision =>
        exact not_sameTenant_blank (resolveReviewRoute_loads hdecision _)
          (hwrites _ fun heq => hacts heq trivial)
  case executeReviewDecision reviewId =>
    have hanswer := hreads _ (@sameTenant_reviewService rt tenantId _ reviewId fun heq =>
      hacts heq trivial)
    rw [executeReviewRoute, executeReviewRoute, foundReview_reviewService, foundReview_blank]
      at hanswer
    cases hanswer
  case getTenantConfig =>
    exact not_sameTenant_blank (getTenantConfig_loads _) (hwrites _ fun heq => hacts heq trivial)
  case configureDetectors config =>
    exact not_sameTenant_blank (configureDetectorsRoute_loads (by simpa using hinert) _)
      (hwrites _ fun heq => hacts heq trivial)
  case getConfigurationOptions => exact hinert trivial

end

/-! ## Tokens of one tenant -/

/-- The token of a tenant, which no other admin token equals. -/
structure OwnToken (host : TokenHost) (tenantId token : String) : Prop where
  configured : host.environ (adminTokenName host tenantId) = some token
  unshared : ∀ name ≠ adminTokenName host tenantId,
    (name = "ADMIN_API_TOKEN" ∨ ∃ other, name = adminTokenName host other) →
      host.environ name ≠ some token

theorem adminTokenName_ne (host : TokenHost) (tenantId : String) :
    "ADMIN_API_TOKEN" ≠ adminTokenName host tenantId := by
  intro h
  have hlength := congrArg String.length h
  rw [adminTokenName, String.length_append] at hlength
  have hname : "ADMIN_API_TOKEN".length = 15 := rfl
  have hstart : "ADMIN_API_TOKEN_".length = 16 := rfl
  omega

/-- Requests that the token admits name its tenant, but for the case. -/
theorem OwnToken.names_tenant {host : TokenHost} {tenantId token : String} {request : AdminRequest}
    (htoken : OwnToken host tenantId token) (hheader : request.header "X-Admin-Token" = some token)
    (h : requireTelegramAdmin host request = .adminToken) :
    host.upper (tenantIdFromRequest request) = host.upper tenantId := by
  have hexpected : expectedAdminToken host (tenantIdFromRequest request) = some token := by
    unfold requireTelegramAdmin at h
    cases hfound : expectedAdminToken host (tenantIdFromRequest request) with
    | none =>
        rw [hfound] at h
        cases hbearer : request.bearer with
        | none => rw [hbearer] at h; cases h
        | some accepted => rw [hbearer] at h; cases accepted <;> cases h
    | some expected =>
        rw [hfound, hheader] at h
        dsimp only at h
        split at h
        · rename_i haccepted
          exact haccepted.symm
        · cases h
  have hname : adminTokenName host (tenantIdFromRequest request) = adminTokenName host tenantId := by
    by_contra hne
    obtain ⟨hfound, -⟩ := Option.filter_eq_some_iff.mp hexpected
    unfold envOr at hfound
    split at hfound
    · rename_i value hvalue
      split at hfound
      · exact htoken.unshared _ (adminTokenName_ne host tenantId) (.inl rfl) hfound
      · cases hfound
        exact htoken.unshared _ hne (.inr ⟨_, rfl⟩) hvalue
    · exact htoken.unshared _ (adminTokenName_ne host tenantId) (.inl rfl) hfound
  exact String.append_right_inj _ |>.mp hname

/-- A request with the token of a tenant and nothing else names that tenant in some case or
is refused. It is confined to the tenant just where it looks at nothing, or its route acts
on that very tenant and, for a status, counts none but the tenant's own sessions. -/
theorem tenant_token_confined_iff (rt : TextRuntime) {host : AdminHost} {tenantId token : String}
    {request : AdminRequest} (htoken : OwnToken host.reviews.tokens tenantId token)
    (hheader : request.header "X-Admin-Token" = some token) (hbearer : request.bearer = none)
    (weather : AdminWeather) :
    (requireTelegramAdmin host.reviews.tokens request = .adminToken →
      host.reviews.tokens.upper (tenantIdFromRequest request) =
        host.reviews.tokens.upper tenantId) ∧
    (Confined rt host tenantId weather request ↔
      (requireTelegramAdmin host.reviews.tokens request = .adminToken →
        StaysWithin host tenantId weather request)) := by
  refine ⟨htoken.names_tenant hheader, fun h hadmitted => staysWithin_of_confined hadmitted h,
    fun h => ?_⟩
  by_cases hadmitted : requireTelegramAdmin host.reviews.tokens request = .adminToken
  · exact confined_of_staysWithin hadmitted (h hadmitted)
  · have hrefused : ∃ statusCode detail,
        requireTelegramAdmin host.reviews.tokens request = .refused statusCode detail := by
      unfold requireTelegramAdmin at hadmitted ⊢
      rw [hbearer] at hadmitted ⊢
      split
      · rename_i hexpected
        rw [hexpected] at hadmitted
        split
        · rename_i haccepted
          exact absurd (if_pos haccepted) hadmitted
        · exact ⟨_, _, rfl⟩
      · exact ⟨_, _, rfl⟩
    obtain ⟨statusCode, detail, hrefused⟩ := hrefused
    intro s
    unfold handleAdminRequest
    rw [hrefused]
    exact ⟨fun other _ => .refl other s, fun t hsame => ⟨rfl, hsame⟩⟩

/-! ## A client's token -/

def clientTokens : TokenHost where
  environ := fun name => if name = "ADMIN_API_TOKEN_CLIENT1" then some "secret1" else none
  upper := fun text => String.ofList (text.toList.map Char.toUpper)
  lower := id
  fernetDecrypt := fun _ => none

def clientHost : AdminHost where
  reviews := { twoTenantHost with tokens := clientTokens }
  fernetEncrypt := fun plaintext => some plaintext

def clientRequest (route : AdminRoute) : AdminRequest where
  query := fun _ => none
  header := fun name =>
    if name = "X-Admin-Token" then some "secret1"
    else if name = "X-Tenant-ID" then some "client1"
    else none
  bearer := none
  route := route

def fairWeather : AdminWeather where
  database := true
  execution := ⟨true, true, fun _ => .response 200 "{}", fun _ => none, 0⟩
  resolvedAt := ""

theorem clientToken_own : OwnToken clientTokens "client1" "secret1" := by
  have hname : adminTokenName clientTokens "client1" = "ADMIN_API_TOKEN_CLIENT1" := by
    decide +kernel
  refine ⟨by rw [hname]; rfl, fun name hne _ hfound => ?_⟩
  rw [hname] at hne
  simp [clientTokens, hne] at hfound

theorem tenant_token_confined_iff_client :
    (requireTelegramAdmin clientTokens (clientRequest .getAllReviews) = .adminToken →
      clientTokens.upper (tenantIdFromRequest (clientRequest .getAllReviews)) =
        clientTokens.upper "client1") ∧
    (Confined textPatterns clientHost "client1" fairWeather (clientRequest .getAllReviews) ↔
      (requireTelegramAdmin clientTokens (clientRequest .getAllReviews) = .adminToken →
        StaysWithin clientHost "client1" fairWeather (clientRequest .getAllReviews))) :=
  @tenant_token_confined_iff textPatterns clientHost "client1" "secret1" _ clientToken_own rfl rfl
    fairWeather

/-- The token of one client replaces the bot token of another. -/
theorem token_of_other_stored :
    OwnToken clientTokens "client1" "secret1" ∧ "client1" ≠ "default" ∧
      ¬ Confined textPatterns clientHost "client1" fairWeather
        (clientRequest (.storeBotToken "client2" "123:abc")) := by
  refine ⟨clientToken_own, by decide, fun h => ?_⟩
  have hsame := ((h (blankService textPatterns)).1 "client2" (by decide)).token
  have hstored : ((handleAdminRequest clientHost (blankService textPatterns) fairWeather
      (clientRequest (.storeBotToken "client2" "123:abc"))).2.reviews.tokens.get? "client2") =
        some "123:abc" := by decide +kernel
  rw [hstored] at hsame
  cases hsame

end TruePresenceESE.Telegram
