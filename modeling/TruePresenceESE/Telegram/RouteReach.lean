import TruePresenceESE.Telegram.AdminRoutes
import TruePresenceESE.Telegram.TenantIsolation

/-! # What a route reaches

A route changes what belongs to the tenant that it acts on, and nothing else; but for the
status it is also answered by that alone.
-/

namespace TruePresenceESE.Telegram

open PyValue JsonDict

variable {rt : TextRuntime}

/-! ## What belongs to a tenant -/

def ReviewState.withoutTokens (s : ReviewState rt) : ReviewState rt :=
  { s with tokens := Dict.empty }

def isSessionOf (tenantId : String) (session : String × JsonDict) : Bool :=
  isText tenantId (session.2.get "tenant_id")

/-- Two states of the service that hold the same for a tenant. -/
structure SameTenant (tenantId : String) (s t : ServiceState rt) : Prop where
  reviews : SameFor tenantId s.reviews.withoutTokens t.reviews.withoutTokens
  token : s.reviews.tokens.get? tenantId = t.reviews.tokens.get? tenantId
  groupRows : s.groupRows.filter (·.2 = tenantId) = t.groupRows.filter (·.2 = tenantId)
  chatRows : s.chatRows.filter (·.2 = tenantId) = t.chatRows.filter (·.2 = tenantId)
  sessionRows : s.sessionRows.selected (·.2.tenantId = tenantId) =
    t.sessionRows.selected (·.2.tenantId = tenantId)
  protectedGroups : s.protectedGroups.get? tenantId = t.protectedGroups.get? tenantId
  adminChats : s.adminChats.get? tenantId = t.adminChats.get? tenantId
  userSessions : s.userSessions.selected (isSessionOf tenantId) =
    t.userSessions.selected (isSessionOf tenantId)

theorem SameTenant.refl (tenantId : String) (s : ServiceState rt) : SameTenant tenantId s s :=
  ⟨.refl tenantId _, rfl, rfl, rfl, rfl, rfl, rfl, rfl⟩

theorem SameTenant.trans {tenantId : String} {s t u : ServiceState rt}
    (h : SameTenant tenantId s t) (h' : SameTenant tenantId t u) : SameTenant tenantId s u :=
  ⟨h.reviews.trans h'.reviews, h.token.trans h'.token, h.groupRows.trans h'.groupRows,
    h.chatRows.trans h'.chatRows, h.sessionRows.trans h'.sessionRows,
    h.protectedGroups.trans h'.protectedGroups, h.adminChats.trans h'.adminChats,
    h.userSessions.trans h'.userSessions⟩

section
variable {host : ReviewHost} {s t : ServiceState rt} {tenantId other reviewId : String}
  {database : Bool} {resolution : Resolution} {tenant : Option String} {groupId : ℤ}
  {adminChatId : Option ℤ} {tenants tenants' : Tenants rt}

/-! ## Configurations -/

theorem SameTenant.withTenants (h : SameTenant tenantId s t)
    (hentries : tenants.entries tenantId = tenants'.entries tenantId) :
    SameTenant tenantId (s.withTenants tenants) (t.withTenants tenants') :=
  { h with reviews := { h.reviews with entries := hentries } }

theorem sameTenant_withTenants
    (hentries : tenants.entries other = s.reviews.tenants.entries other) :
    SameTenant other (s.withTenants tenants) s :=
  { SameTenant.refl other s with reviews := ⟨hentries, rfl, rfl, rfl⟩ }

/-! ## Groups -/

theorem filter_insert_self (key : ℤ) (tenantId : String) (rows : List (ℤ × String)) :
    (rows.insert (key, tenantId)).filter (·.2 = tenantId) =
      (rows.filter (·.2 = tenantId)).insert (key, tenantId) := by
  by_cases hmem : (key, tenantId) ∈ rows
  · rw [List.insert_of_mem hmem, List.insert_of_mem (List.mem_filter.mpr ⟨hmem, by simp⟩)]
  · have hfilter : (key, tenantId) ∉ rows.filter (·.2 = tenantId) :=
      fun hin => hmem (List.mem_filter.mp hin).1
    rw [List.insert_of_not_mem hmem, List.insert_of_not_mem hfilter,
      List.filter_cons_of_pos (by simp)]

theorem filter_insert_ne {tenantId other : String} (h : tenantId ≠ other) (key : ℤ)
    (rows : List (ℤ × String)) :
    (rows.insert (key, tenantId)).filter (·.2 = other) = rows.filter (·.2 = other) := by
  by_cases hmem : (key, tenantId) ∈ rows
  · rw [List.insert_of_mem hmem]
  · rw [List.insert_of_not_mem hmem, List.filter_cons_of_neg (by simpa using h)]

theorem SameTenant.rememberGroup (h : SameTenant tenantId s t) :
    SameTenant tenantId (rememberGroup s groupId adminChatId tenantId)
      (rememberGroup t groupId adminChatId tenantId) := by
  refine { h with protectedGroups := ?_, adminChats := ?_ }
  · simp only [Telegram.rememberGroup, ServiceState.groupsOf, Dict.get?_set_self,
      h.protectedGroups]
  · simp only [Telegram.rememberGroup, ServiceState.chatsOf]
    cases givenChat adminChatId with
    | none => exact h.adminChats
    | some chatId => simp only [Dict.get?_set_self, h.adminChats]

theorem sameTenant_rememberGroup (hother : tenantId ≠ other) :
    SameTenant other (rememberGroup s groupId adminChatId tenantId) s := by
  refine { SameTenant.refl other s with
    protectedGroups := Dict.get?_set_ne _ _ hother, adminChats := ?_ }
  simp only [rememberGroup]
  cases givenChat adminChatId with
  | none => rfl
  | some chatId => exact Dict.get?_set_ne _ _ hother

theorem SameTenant.insertGroup (h : SameTenant tenantId s t) :
    SameTenant tenantId (insertGroup s groupId adminChatId tenantId)
      (insertGroup t groupId adminChatId tenantId) := by
  refine { h with groupRows := ?_, chatRows := ?_ }
  · simp only [Telegram.insertGroup]
    rw [filter_insert_self, filter_insert_self, h.groupRows]
  · simp only [Telegram.insertGroup]
    cases givenChat adminChatId with
    | none => exact h.chatRows
    | some chatId =>
        dsimp only
        rw [filter_insert_self, filter_insert_self, h.chatRows]

theorem sameTenant_insertGroup (hother : tenantId ≠ other) :
    SameTenant other (insertGroup s groupId adminChatId tenantId) s := by
  refine { SameTenant.refl other s with groupRows := ?_, chatRows := ?_ }
  · exact filter_insert_ne hother groupId _
  · simp only [insertGroup]
    cases givenChat adminChatId with
    | none => rfl
    | some chatId => exact filter_insert_ne hother chatId _

theorem SameTenant.registerGroup (h : SameTenant (tenantOf host tenant) s t) :
    (registerGroup host s database groupId adminChatId tenant).1 =
        (registerGroup host t database groupId adminChatId tenant).1 ∧
      SameTenant (tenantOf host tenant)
        (registerGroup host s database groupId adminChatId tenant).2
        (registerGroup host t database groupId adminChatId tenant).2 := by
  obtain ⟨hresult, hentries⟩ := @ensureTenant_congr _ host.configs _ _ _ h.reviews.entries
  have hensured := h.withTenants hentries
  unfold Telegram.registerGroup
  dsimp only
  change (ensureTenant host.configs s.reviews.tenants _).1 =
    (ensureTenant host.configs t.reviews.tenants _).1 at hresult
  rw [hresult]
  split
  · exact ⟨rfl, hensured⟩
  · refine ⟨rfl, ?_⟩
    cases database with
    | true => exact hensured.rememberGroup.insertGroup
    | false => exact hensured.rememberGroup

theorem sameTenant_registerGroup (hother : tenantOf host tenant ≠ other) :
    SameTenant other (registerGroup host s database groupId adminChatId tenant).2 s := by
  have hensured : SameTenant other
      (s.withTenants (ensureTenant host.configs s.reviews.tenants (tenantOf host tenant)).2) s :=
    sameTenant_withTenants (ensureTenant_entries_ne hother)
  unfold registerGroup
  dsimp only
  split
  · exact hensured
  · have hremembered := (@sameTenant_rememberGroup _ (s.withTenants _) _ other groupId adminChatId
      hother).trans hensured
    cases database with
    | true => exact (sameTenant_insertGroup hother).trans hremembered
    | false => exact hremembered

/-! ## Reviews -/

theorem resolveCopy_withoutTokens (s : ReviewState rt) :
    resolveCopy s.withoutTokens reviewId tenantId resolution =
      ((resolveCopy s reviewId tenantId resolution).1,
        (resolveCopy s reviewId tenantId resolution).2.withoutTokens) := by
  have hcopy : s.withoutTokens.copyOf reviewId tenantId = s.copyOf reviewId tenantId := rfl
  unfold resolveCopy
  rw [hcopy]
  split <;> rfl

theorem resolveStored_withoutTokens (s : ReviewState rt) :
    resolveStored host s.withoutTokens database reviewId tenantId resolution =
      ((resolveStored host s database reviewId tenantId resolution).1,
        (resolveStored host s database reviewId tenantId resolution).2.withoutTokens) := by
  have hrow : s.withoutTokens.rowOf reviewId tenantId = s.rowOf reviewId tenantId := rfl
  unfold resolveStored
  rw [hrow]
  cases database with
  | false => exact resolveCopy_withoutTokens s
  | true =>
      rw [if_pos rfl, if_pos rfl]
      split
      · rfl
      · split
        · rfl
        · exact resolveCopy_withoutTokens s

/-- Resolving has no regard for the bot tokens. -/
theorem resolveReview_withoutTokens (s : ReviewState rt) :
    resolveReview host s.withoutTokens database reviewId resolution tenant =
      ((resolveReview host s database reviewId resolution tenant).1,
        (resolveReview host s database reviewId resolution tenant).2.withoutTokens) := by
  have hstored : ∀ u : ReviewState rt,
      ((Except.ok (resolveStored host u.withoutTokens database reviewId (tenantOf host tenant)
          resolution).1 : Except String Bool),
        (resolveStored host u.withoutTokens database reviewId (tenantOf host tenant)
          resolution).2) =
      (Except.ok (resolveStored host u database reviewId (tenantOf host tenant) resolution).1,
        (resolveStored host u database reviewId (tenantOf host tenant)
          resolution).2.withoutTokens) := by
    intro u
    rw [resolveStored_withoutTokens]
  have htenants : s.withoutTokens.tenants = s.tenants := rfl
  unfold resolveReview
  dsimp only
  rw [htenants]
  split
  · rfl
  · exact hstored { s with tenants := _ }

theorem tokens_resolveReview (s : ReviewState rt) :
    (resolveReview host s database reviewId resolution tenant).2.tokens = s.tokens := by
  have hcopy : ∀ u : ReviewState rt,
      (resolveCopy u reviewId (tenantOf host tenant) resolution).2.tokens = u.tokens := by
    intro u
    unfold resolveCopy
    split <;> rfl
  unfold resolveReview
  dsimp only
  split
  · rfl
  · dsimp only
    unfold resolveStored
    split
    · split
      · rfl
      · split
        · rfl
        · exact hcopy _
    · exact hcopy _

theorem SameTenant.withReviews {reviews reviews' : ReviewState rt} (h : SameTenant tenantId s t)
    (hreviews : SameFor tenantId reviews.withoutTokens reviews'.withoutTokens)
    (htokens : reviews.tokens = s.reviews.tokens) (htokens' : reviews'.tokens = t.reviews.tokens) :
    SameTenant tenantId { s with reviews := reviews } { t with reviews := reviews' } :=
  { h with
    reviews := hreviews
    token := by
      change reviews.tokens.get? tenantId = reviews'.tokens.get? tenantId
      rw [htokens, htokens', h.token] }

theorem SameTenant.resolveReview (h : SameTenant (tenantOf host tenant) s t) :
    (resolveReview host s.reviews database reviewId resolution tenant).1 =
        (resolveReview host t.reviews database reviewId resolution tenant).1 ∧
      SameTenant (tenantOf host tenant)
        { s with reviews := (resolveReview host s.reviews database reviewId resolution tenant).2 }
        { t with
          reviews := (resolveReview host t.reviews database reviewId resolution tenant).2 } := by
  have hresolved := @SameFor.resolveReview _ host _ _ database reviewId resolution tenant h.reviews
  rw [resolveReview_withoutTokens, resolveReview_withoutTokens] at hresolved
  exact ⟨hresolved.1, h.withReviews hresolved.2 (tokens_resolveReview _) (tokens_resolveReview _)⟩

theorem sameTenant_resolveReview (hother : tenantOf host tenant ≠ other) :
    SameTenant other
      { s with reviews := (resolveReview host s.reviews database reviewId resolution tenant).2 }
      s := by
  have hhidden : SameFor other (resolveReview host s.reviews.withoutTokens database reviewId
      resolution tenant).2 s.reviews.withoutTokens :=
    @answerReview_hidden _ host _ (.resolve database reviewId resolution tenant) other hother
  rw [resolveReview_withoutTokens] at hhidden
  exact (SameTenant.refl other s).withReviews hhidden (tokens_resolveReview _) rfl

end

/-! ## What a route acts on -/

/-- The tenant that a route acts on. -/
def actsOn (host : AdminHost) (request : AdminRequest) : String :=
  match request.route with
  | .storeBotToken tenantId _ => tenantId
  | .getStatus => tenantOf host.reviews (some (statusTenant host request))
  | .getTenantConfig | .configureDetectors _ => tenantIdFromRequest request
  | _ => tenantOf host.reviews (some (tenantIdFromRequest request))

/-- Requests that are answered without a look at the service. -/
def Inert (host : AdminHost) (weather : AdminWeather) (request : AdminRequest) : Prop :=
  match request.route with
  | .storeBotToken _ botToken => weather.database = true → encryptValue host botToken = none
  | .getGroupMembers _ | .getConfigurationOptions => True
  | .resolveReview _ resolution => ∃ failure, decisionOf resolution = .error failure
  | .configureDetectors config => config.has "detectors" = false
  | _ => False

/-- The counts of a status are those of one tenant while the database answers. -/
def CountsOwn (host : AdminHost) (weather : AdminWeather) (request : AdminRequest) : Prop :=
  match request.route with
  | .getStatus => actsOn host request ≠ "all" ∧ weather.database = true
  | _ => True

section
variable {host : AdminHost} {s t : ServiceState rt} {weather : AdminWeather}
  {request : AdminRequest} {tenantId other reviewId botToken : String} {database : Bool}
  {resolution config : JsonDict}

theorem Inert.answer (rt : TextRuntime) (h : Inert host weather request) :
    ∃ answer, ∀ s : ServiceState rt, handleRoute host s weather request = (answer, s) := by
  unfold Inert at h
  unfold handleRoute
  cases hroute : request.route <;> rw [hroute] at h <;> dsimp only at h ⊢
  case storeBotToken tenantId botToken =>
    unfold storeBotToken
    cases hencrypt : encryptValue host botToken with
    | none => exact ⟨([], serverError), fun _ => rfl⟩
    | some encrypted =>
        cases hdatabase : weather.database with
        | true =>
            rw [h hdatabase] at hencrypt
            cases hencrypt
        | false => exact ⟨([], serverError), fun _ => rfl⟩
  case resolveReview reviewId resolution =>
    obtain ⟨failure, hfailure⟩ := h
    unfold resolveReviewRoute
    rw [hfailure]
    exact ⟨([], failure), fun _ => rfl⟩
  case configureDetectors config =>
    unfold configureDetectorsRoute
    rw [h]
    exact ⟨([], .failure 400 "Configuration must include 'detectors' section"), fun _ => rfl⟩
  case getGroupMembers groupId => exact ⟨_, fun _ => rfl⟩
  case getConfigurationOptions => exact ⟨_, fun _ => rfl⟩

/-! ## Handlers -/

theorem SameTenant.storeBotToken (h : SameTenant tenantId s t) :
    (storeBotToken host s database tenantId botToken).1 =
        (storeBotToken host t database tenantId botToken).1 ∧
      SameTenant tenantId (storeBotToken host s database tenantId botToken).2
        (storeBotToken host t database tenantId botToken).2 := by
  unfold Telegram.storeBotToken
  split
  · exact ⟨rfl, h⟩
  · cases database with
    | true => exact ⟨rfl, { h with token := by simp }⟩
    | false => exact ⟨rfl, h⟩

theorem sameTenant_storeBotToken (hother : tenantId ≠ other) :
    SameTenant other (storeBotToken host s database tenantId botToken).2 s := by
  unfold storeBotToken
  split
  · exact .refl other s
  · cases database with
    | true => exact { SameTenant.refl other s with token := Dict.get?_set_ne _ _ hother }
    | false => exact .refl other s

theorem SameTenant.storedCounts (h : SameTenant tenantId s t) :
    storedCounts s tenantId = storedCounts t tenantId := by
  have hpending : pendingRows s.reviews tenantId = pendingRows t.reviews tenantId :=
    h.reviews.pendingRows
  unfold Telegram.storedCounts
  rw [h.groupRows, h.sessionRows, hpending]

theorem SameTenant.foundReview (h : SameTenant (tenantOf host.reviews (some tenantId)) s t) :
    foundReview host s database reviewId tenantId =
      foundReview host t database reviewId tenantId := by
  have hrow : s.reviews.rowOf reviewId (tenantOf host.reviews (some tenantId)) =
      t.reviews.rowOf reviewId (tenantOf host.reviews (some tenantId)) := h.reviews.rowOf
  have hcopy : s.reviews.copyOf reviewId (tenantOf host.reviews (some tenantId)) =
      t.reviews.copyOf reviewId (tenantOf host.reviews (some tenantId)) := h.reviews.copyOf
  unfold Telegram.foundReview getReview
  dsimp only
  rw [hrow, hcopy]

theorem SameTenant.getPendingReviews
    (h : SameTenant (tenantOf host.reviews (some tenantId)) s t) :
    getPendingReviews host.reviews s.reviews database (some tenantId) =
      getPendingReviews host.reviews t.reviews database (some tenantId) := by
  have hrows : pendingRows s.reviews (tenantOf host.reviews (some tenantId)) =
      pendingRows t.reviews (tenantOf host.reviews (some tenantId)) := h.reviews.pendingRows
  have hcopies : pendingCopies s.reviews (tenantOf host.reviews (some tenantId)) =
      pendingCopies t.reviews (tenantOf host.reviews (some tenantId)) := h.reviews.pendingCopies
  unfold Telegram.getPendingReviews
  dsimp only
  rw [hrows, hcopies]

theorem SameTenant.executeReviewDecision {execution : ExecutionWeather}
    (h : SameTenant (tenantOf host.reviews (some tenantId)) s t) :
    executeReviewDecision host.reviews s.reviews execution reviewId (some tenantId) =
      executeReviewDecision host.reviews t.reviews execution reviewId (some tenantId) := by
  have hfound : reviewToExecute host.reviews s.reviews execution.database reviewId
      (tenantOf host.reviews (some tenantId)) = reviewToExecute host.reviews t.reviews
        execution.database reviewId (tenantOf host.reviews (some tenantId)) :=
    h.reviews.reviewToExecute
  have htoken : executionToken host.reviews s.reviews execution.tokenDatabase
      (tenantOf host.reviews (some tenantId)) = executionToken host.reviews t.reviews
        execution.tokenDatabase (tenantOf host.reviews (some tenantId)) := by
    unfold executionToken resolveTokenSync
    cases execution.tokenDatabase with
    | true => simp only [if_true, Option.bind_some, h.token]
    | false => rfl
  unfold Telegram.executeReviewDecision
  dsimp only
  rw [hfound, htoken]

theorem SameTenant.executeReviewRoute
    (h : SameTenant (tenantOf host.reviews (some tenantId)) s t) :
    executeReviewRoute host s weather reviewId tenantId =
      executeReviewRoute host t weather reviewId tenantId := by
  unfold Telegram.executeReviewRoute
  rw [h.foundReview, h.executeReviewDecision]

theorem SameTenant.resolveReviewRoute
    (h : SameTenant (tenantOf host.reviews (some tenantId)) s t) :
    (resolveReviewRoute host s weather reviewId tenantId resolution).1 =
        (resolveReviewRoute host t weather reviewId tenantId resolution).1 ∧
      SameTenant (tenantOf host.reviews (some tenantId))
        (resolveReviewRoute host s weather reviewId tenantId resolution).2
        (resolveReviewRoute host t weather reviewId tenantId resolution).2 := by
  unfold Telegram.resolveReviewRoute
  split
  · exact ⟨rfl, h⟩
  · rename_i decision _
    obtain ⟨hresult, hafter⟩ := @SameTenant.resolveReview _ host.reviews s t reviewId
      weather.database ⟨decision, resolution.getOr "notes" (.str ""), weather.resolvedAt⟩
      (some tenantId) h
    dsimp only
    rw [hresult]
    split <;> exact ⟨rfl, hafter⟩

theorem sameTenant_resolveReviewRoute (hother : tenantOf host.reviews (some tenantId) ≠ other) :
    SameTenant other (resolveReviewRoute host s weather reviewId tenantId resolution).2 s := by
  unfold resolveReviewRoute
  split
  · exact .refl other s
  · dsimp only
    split <;> exact sameTenant_resolveReview hother

theorem SameTenant.protectGroup {groupId : ℤ} {adminChatId : Option ℤ}
    (h : SameTenant (tenantOf host.reviews (some tenantId)) s t) :
    (protectGroup host s database groupId adminChatId tenantId).1 =
        (protectGroup host t database groupId adminChatId tenantId).1 ∧
      SameTenant (tenantOf host.reviews (some tenantId))
        (protectGroup host s database groupId adminChatId tenantId).2
        (protectGroup host t database groupId adminChatId tenantId).2 := by
  obtain ⟨hresult, hafter⟩ := @SameTenant.registerGroup _ host.reviews s t database
    (some tenantId) groupId adminChatId h
  unfold Telegram.protectGroup
  cases hs : Telegram.registerGroup host.reviews s database groupId adminChatId (some tenantId) with
  | mk result after =>
      cases ht : Telegram.registerGroup host.reviews t database groupId adminChatId (some tenantId) with
      | mk result' after' =>
          rw [hs, ht] at hresult hafter
          dsimp only at hresult hafter
          subst hresult
          cases result <;> exact ⟨rfl, hafter⟩

theorem sameTenant_protectGroup {groupId : ℤ} {adminChatId : Option ℤ}
    (hother : tenantOf host.reviews (some tenantId) ≠ other) :
    SameTenant other (protectGroup host s database groupId adminChatId tenantId).2 s := by
  have hafter := @sameTenant_registerGroup _ host.reviews s other database (some tenantId) groupId
    adminChatId hother
  unfold protectGroup
  split <;> rename_i hregister <;> rw [hregister] at hafter <;> exact hafter

theorem activeDetectorsOf_congr {tenants tenants' : Tenants rt}
    (h : tenants.entries tenantId = tenants'.entries tenantId) :
    activeDetectorsOf tenants tenantId = activeDetectorsOf tenants' tenantId := by
  have hadapter : tenants.adapters.get? tenantId = tenants'.adapters.get? tenantId :=
    congrArg (fun entry => entry.2.1) h
  rw [activeDetectorsOf, activeDetectorsOf, hadapter]

theorem SameTenant.getTenantConfig (h : SameTenant tenantId s t) :
    (getTenantConfig host s tenantId).1 = (getTenantConfig host t tenantId).1 ∧
      SameTenant tenantId (getTenantConfig host s tenantId).2
        (getTenantConfig host t tenantId).2 := by
  obtain ⟨hresult, hentries⟩ := @ensureTenant_congr _ host.reviews.configs s.reviews.tenants _
    t.reviews.tenants h.reviews.entries
  have hconfig : (ensureTenant host.reviews.configs s.reviews.tenants tenantId).2.configs.get?
      tenantId = (ensureTenant host.reviews.configs t.reviews.tenants tenantId).2.configs.get?
        tenantId := congrArg Prod.fst hentries
  unfold Telegram.getTenantConfig
  dsimp only
  rw [hresult, hconfig, activeDetectorsOf_congr hentries]
  split <;> exact ⟨rfl, h.withTenants hentries⟩

theorem sameTenant_getTenantConfig (hother : tenantId ≠ other) :
    SameTenant other (getTenantConfig host s tenantId).2 s := by
  unfold getTenantConfig
  dsimp only
  split <;> exact sameTenant_withTenants (ensureTenant_entries_ne hother)

theorem SameTenant.configureDetectorsRoute (h : SameTenant tenantId s t) :
    (configureDetectorsRoute host s tenantId config).1 =
        (configureDetectorsRoute host t tenantId config).1 ∧
      SameTenant tenantId (configureDetectorsRoute host s tenantId config).2
        (configureDetectorsRoute host t tenantId config).2 := by
  obtain ⟨hresult, hentries⟩ := @updateTenantConfig_congr _ host.reviews.configs
    s.reviews.tenants tenantId config t.reviews.tenants h.reviews.entries
  unfold Telegram.configureDetectorsRoute
  split
  · dsimp only
    rw [hresult, activeDetectorsOf_congr hentries]
    split <;> exact ⟨rfl, h.withTenants hentries⟩
  · exact ⟨rfl, h⟩

theorem sameTenant_configureDetectorsRoute (hother : tenantId ≠ other) :
    SameTenant other (configureDetectorsRoute host s tenantId config).2 s := by
  unfold configureDetectorsRoute
  split
  · dsimp only
    split <;> exact sameTenant_withTenants (updateTenantConfig_entries_ne hother)
  · exact .refl other s

/-! ## Routes -/

/-- Whatever a request contains, it changes what belongs to one tenant only. -/
theorem handleRoute_hidden (hother : actsOn host request ≠ other) :
    SameTenant other (handleRoute host s weather request).2 s := by
  unfold actsOn at hother
  unfold handleRoute
  cases hroute : request.route <;> rw [hroute] at hother <;> dsimp only at hother ⊢
  case storeBotToken tenantId botToken => exact sameTenant_storeBotToken hother
  case protectGroup groupId adminChatId => exact sameTenant_protectGroup hother
  case resolveReview reviewId resolution => exact sameTenant_resolveReviewRoute hother
  case getTenantConfig => exact sameTenant_getTenantConfig hother
  case configureDetectors config => exact sameTenant_configureDetectorsRoute hother
  all_goals exact .refl other s

/-- It is answered by what belongs to that tenant. -/
theorem handleRoute_visible (hcounts : CountsOwn host weather request)
    (h : SameTenant (actsOn host request) s t) :
    (handleRoute host s weather request).1 = (handleRoute host t weather request).1 ∧
      SameTenant (actsOn host request) (handleRoute host s weather request).2
        (handleRoute host t weather request).2 := by
  have hquiet : ∀ {answered answered' : AdminResponse × ServiceState rt} {tenantId : String},
      answered.1 = answered'.1 ∧ SameTenant tenantId answered.2 answered'.2 →
        (([] : List ApiRequest), answered.1) = ([], answered'.1) ∧
          SameTenant tenantId answered.2 answered'.2 :=
    fun hanswered => ⟨congrArg (Prod.mk []) hanswered.1, hanswered.2⟩
  unfold actsOn at h ⊢
  unfold CountsOwn actsOn at hcounts
  unfold handleRoute
  cases hroute : request.route <;> rw [hroute] at h hcounts <;> dsimp only at h hcounts ⊢
  case storeBotToken tenantId botToken => exact hquiet h.storeBotToken
  case getStatus =>
    refine ⟨?_, h⟩
    unfold getStatus
    dsimp only
    rw [hcounts.2, decide_eq_false hcounts.1, h.storedCounts]
  case protectGroup groupId adminChatId => exact hquiet h.protectGroup
  case getAllReviews => exact ⟨by rw [h.getPendingReviews], h⟩
  case getReviewDetails reviewId =>
    exact ⟨by rw [getReviewDetails, getReviewDetails, h.foundReview], h⟩
  case resolveReview reviewId resolution => exact hquiet h.resolveReviewRoute
  case executeReviewDecision reviewId => exact ⟨h.executeReviewRoute, h⟩
  case getTenantConfig => exact hquiet h.getTenantConfig
  case configureDetectors config => exact hquiet h.configureDetectorsRoute
  all_goals exact ⟨rfl, h⟩

end

end TruePresenceESE.Telegram
