import TruePresenceESE.Telegram.RouteReach
import TruePresenceESE.Telegram.Webhooks

/-! # Services over the same tables

Two services hold the same tables, and the same in memory but for one tenant: what is
loaded for that one is what the environment configures, and the copies of its reviews
stand beside rows. The administrators' routes do not tell the two apart while the database
is up.
-/

namespace TruePresenceESE.Telegram.Webhook

open PyValue JsonDict

variable {rt : TextRuntime} {Update Window Engine : Type}

/-! ## Configurations of the environment -/

/-- The tenant has what the environment configures, as far as it is loaded. -/
structure FromEnvironment (host : ConfigHost) (tenants : Tenants rt) (tenantId : String) : Prop where
  config : ∀ config, tenants.configs.get? tenantId = some config →
    config = loadTenantConfig host tenantId
  adapter : ∀ adapter, tenants.adapters.get? tenantId = some adapter →
    buildAdapter rt (loadTenantConfig host tenantId) = .ok adapter

structure TenantsAlike (host : ConfigHost) (tenantId : String) (a b : Tenants rt) : Prop where
  others : ∀ other ≠ tenantId, a.entries other = b.entries other
  left : FromEnvironment host a tenantId
  right : FromEnvironment host b tenantId

section
variable {host : ConfigHost} {a b : Tenants rt} {tenantId other : String} {given : JsonDict}

theorem FromEnvironment.configOf_eq (h : FromEnvironment host a tenantId) :
    configOf host a tenantId = loadTenantConfig host tenantId := by
  unfold configOf
  cases hconfig : a.configs.get? tenantId with
  | none => rfl
  | some config => exact h.config config hconfig

theorem ensureTenant_config (a : Tenants rt) :
    (ensureTenant host a tenantId).2.configs.get? tenantId = some (configOf host a tenantId) := by
  have hloaded : (if (a.configs.get? tenantId).isSome then a
      else a.setConfig tenantId (configOf host a tenantId)).configs.get? tenantId =
        some (configOf host a tenantId) := by
    split
    · rename_i hsome
      obtain ⟨config, hconfig⟩ := Option.isSome_iff_exists.mp hsome
      rw [configOf, hconfig]
      rfl
    · simp [Tenants.setConfig]
  unfold ensureTenant
  dsimp only
  split
  · exact hloaded
  · split <;> exact hloaded

/-- Whether the tenant loads depends on the environment alone. -/
theorem FromEnvironment.ensure (h : FromEnvironment host a tenantId) :
    (ensureTenant host a tenantId).1 =
        (buildAdapter rt (loadTenantConfig host tenantId)).map (fun _ => ()) ∧
      (∀ adapter, buildAdapter rt (loadTenantConfig host tenantId) = .ok adapter →
        (ensureTenant host a tenantId).2.adapters.get? tenantId = some adapter) ∧
      FromEnvironment host (ensureTenant host a tenantId).2 tenantId := by
  have hconfig : ∀ config, (ensureTenant host a tenantId).2.configs.get? tenantId = some config →
      config = loadTenantConfig host tenantId := by
    intro config hget
    rw [ensureTenant_config, h.configOf_eq] at hget
    exact (Option.some.inj hget).symm
  have hadapters : (if (a.configs.get? tenantId).isSome then a
      else a.setConfig tenantId (configOf host a tenantId)).adapters = a.adapters := by
    split <;> rfl
  cases hadapter : a.adapters.get? tenantId with
  | some adapter =>
      have hbuilt := h.adapter adapter hadapter
      have hsame : (ensureTenant host a tenantId).1 = .ok () ∧
          (ensureTenant host a tenantId).2.adapters = a.adapters := by
        unfold ensureTenant
        dsimp only
        rw [hadapter]
        exact ⟨rfl, hadapters⟩
      rw [hbuilt, hsame.1]
      refine ⟨rfl, fun built heq => ?_, hconfig, fun found hfound => ?_⟩
      · cases heq
        rw [hsame.2, hadapter]
      · rw [hsame.2] at hfound
        exact h.adapter found hfound
  | none =>
      cases hbuild : buildAdapter rt (loadTenantConfig host tenantId) with
      | ok adapter =>
          have hbuilt : (ensureTenant host a tenantId).1 = .ok () ∧
              (ensureTenant host a tenantId).2.adapters.get? tenantId = some adapter := by
            unfold ensureTenant
            dsimp only
            rw [hadapter, h.configOf_eq, hbuild]
            exact ⟨rfl, Dict.get?_set_self _ _ _⟩
          refine ⟨hbuilt.1, fun built heq => ?_, hconfig, fun found hfound => ?_⟩
          · cases heq
            exact hbuilt.2
          · rw [hbuilt.2] at hfound
            rw [hbuild, Option.some.inj hfound]
      | error e =>
          have hunbuilt : (ensureTenant host a tenantId).1 = .error e ∧
              (ensureTenant host a tenantId).2.adapters.get? tenantId = none := by
            unfold ensureTenant
            dsimp only
            rw [hadapter, h.configOf_eq, hbuild]
            refine ⟨rfl, ?_⟩
            rw [← h.configOf_eq]
            exact (congrArg (Dict.get? · tenantId) hadapters).trans hadapter
          refine ⟨hunbuilt.1, fun built heq => ?_, hconfig, fun found hfound => ?_⟩
          · cases heq
          · rw [hunbuilt.2] at hfound
            cases hfound

theorem FromEnvironment.congr (h : FromEnvironment host a tenantId)
    (hentries : b.entries tenantId = a.entries tenantId) : FromEnvironment host b tenantId := by
  have hconfigs : b.configs.get? tenantId = a.configs.get? tenantId := congrArg Prod.fst hentries
  have hadapters : b.adapters.get? tenantId = a.adapters.get? tenantId :=
    congrArg (fun entry => entry.2.1) hentries
  exact ⟨fun config hget => h.config config (hconfigs ▸ hget),
    fun adapter hget => h.adapter adapter (hadapters ▸ hget)⟩

theorem TenantsAlike.ensure (h : TenantsAlike host tenantId a b) (other : String) :
    (ensureTenant host a other).1 = (ensureTenant host b other).1 ∧
      TenantsAlike host tenantId (ensureTenant host a other).2 (ensureTenant host b other).2 := by
  by_cases hother : other = tenantId
  · subst hother
    obtain ⟨hleft, -, hafter⟩ := h.left.ensure
    obtain ⟨hright, -, hafter'⟩ := h.right.ensure
    refine ⟨hleft.trans hright.symm, fun third hthird => ?_, hafter, hafter'⟩
    rw [ensureTenant_entries_ne hthird.symm, ensureTenant_entries_ne hthird.symm,
      h.others third hthird]
  · obtain ⟨hresult, hentries⟩ := @ensureTenant_congr _ host _ _ _ (h.others other hother)
    refine ⟨hresult, fun third hthird => ?_, h.left.congr (ensureTenant_entries_ne hother),
      h.right.congr (ensureTenant_entries_ne hother)⟩
    by_cases heq : other = third
    · subst heq
      exact hentries
    · rw [ensureTenant_entries_ne heq, ensureTenant_entries_ne heq, h.others third hthird]

/-- A tenant that loads has one configuration and one adapter in both. -/
theorem TenantsAlike.loaded (h : TenantsAlike host tenantId a b) (other : String)
    (hok : (ensureTenant host a other).1 = .ok ()) :
    (ensureTenant host a other).2.configs.get? other =
        (ensureTenant host b other).2.configs.get? other ∧
      (ensureTenant host a other).2.adapters.get? other =
        (ensureTenant host b other).2.adapters.get? other := by
  by_cases hother : other = tenantId
  · subst hother
    obtain ⟨hleft, hadapter, -⟩ := h.left.ensure
    obtain ⟨-, hadapter', -⟩ := h.right.ensure
    rw [hok] at hleft
    obtain ⟨adapter, hbuilt⟩ : ∃ adapter,
        buildAdapter rt (loadTenantConfig host other) = .ok adapter := by
      cases hbuild : buildAdapter rt (loadTenantConfig host other) with
      | ok adapter => exact ⟨adapter, rfl⟩
      | error e => rw [hbuild] at hleft; cases hleft
    rw [ensureTenant_config, ensureTenant_config, h.left.configOf_eq, h.right.configOf_eq,
      hadapter adapter hbuilt, hadapter' adapter hbuilt]
    exact ⟨rfl, rfl⟩
  · obtain ⟨-, hentries⟩ := @ensureTenant_congr _ host _ _ _ (h.others other hother)
    exact ⟨congrArg Prod.fst hentries, congrArg (fun entry => entry.2.1) hentries⟩

theorem TenantsAlike.update (h : TenantsAlike host tenantId a b) (hother : other ≠ tenantId) :
    (updateTenantConfig host a other given).1 = (updateTenantConfig host b other given).1 ∧
      (updateTenantConfig host a other given).2.entries other =
        (updateTenantConfig host b other given).2.entries other ∧
      TenantsAlike host tenantId (updateTenantConfig host a other given).2
        (updateTenantConfig host b other given).2 := by
  obtain ⟨hresult, hentries⟩ := @updateTenantConfig_congr _ host a other given b
    (h.others other hother)
  refine ⟨hresult, hentries, fun third hthird => ?_,
    h.left.congr (updateTenantConfig_entries_ne hother),
    h.right.congr (updateTenantConfig_entries_ne hother)⟩
  by_cases heq : other = third
  · subst heq
    exact hentries
  · rw [updateTenantConfig_entries_ne heq, updateTenantConfig_entries_ne heq, h.others third hthird]

end

/-! ## The services of two processes -/

/-- What the administrators' routes work on while the database is up. -/
structure ServicesAlike (host : ReviewHost) (tenantId : String) (q s : ServiceState rt) : Prop where
  tenants : TenantsAlike host.configs tenantId q.reviews.tenants s.reviews.tenants
  tokens : q.reviews.tokens = s.reviews.tokens
  rows : q.reviews.rows = s.reviews.rows
  groupRows : q.groupRows = s.groupRows
  chatRows : q.chatRows = s.chatRows
  sessionRows : q.sessionRows = s.sessionRows
  copies : ∀ other, other ≠ tenantId ∨ host.column = .decoded →
    q.reviews.pendingReviews.get? other = s.reviews.pendingReviews.get? other
  stored : ∀ reviewId, (q.reviews.copyOf reviewId tenantId).isSome ∨
    (s.reviews.copyOf reviewId tenantId).isSome → (q.reviews.rowOf reviewId tenantId).isSome
  sessions : q.userSessions = Dict.empty

section
variable {host : AdminHost} {q s : ServiceState rt} {tenantId other reviewId botToken : String}
  {resolution : Resolution} {weather : RequestWeather} {request : AdminRequest}

theorem ServicesAlike.withTenants {tenants tenants' : Tenants rt}
    (h : ServicesAlike host.reviews tenantId q s)
    (htenants : TenantsAlike host.reviews.configs tenantId tenants tenants') :
    ServicesAlike host.reviews tenantId (q.withTenants tenants) (s.withTenants tenants') :=
  { h with tenants := htenants }

theorem ServicesAlike.rowOf (h : ServicesAlike host.reviews tenantId q s) :
    q.reviews.rowOf reviewId other = s.reviews.rowOf reviewId other := by
  rw [ReviewState.rowOf, ReviewState.rowOf, h.rows]

theorem ServicesAlike.copyOf (h : ServicesAlike host.reviews tenantId q s)
    (hother : other ≠ tenantId ∨ host.reviews.column = .decoded) :
    q.reviews.copyOf reviewId other = s.reviews.copyOf reviewId other := by
  rw [ReviewState.copyOf, ReviewState.copyOf, h.copies other hother]

/-- A copy is asked for in both or in neither, where there is no row. -/
theorem ServicesAlike.copyOf_of_rowOf (h : ServicesAlike host.reviews tenantId q s)
    (hrow : q.reviews.rowOf reviewId other = none) :
    q.reviews.copyOf reviewId other = s.reviews.copyOf reviewId other := by
  by_cases hother : other = tenantId
  · subst hother
    have hnone : ¬((q.reviews.copyOf reviewId other).isSome ∨
        (s.reviews.copyOf reviewId other).isSome) := by
      intro hcopy
      have hstored := h.stored reviewId hcopy
      rw [hrow] at hstored
      cases hstored
    rw [not_or, Option.not_isSome_iff_eq_none, Option.not_isSome_iff_eq_none] at hnone
    rw [hnone.1, hnone.2]
  · exact h.copyOf (.inl hother)

theorem ServicesAlike.getPendingReviews (h : ServicesAlike host.reviews tenantId q s)
    (tenant : Option String) :
    getPendingReviews host.reviews q.reviews true tenant =
      getPendingReviews host.reviews s.reviews true tenant := by
  have hrows : ∀ owner, pendingRows q.reviews owner = pendingRows s.reviews owner := by
    intro owner
    rw [pendingRows, pendingRows, h.rows]
  unfold Telegram.getPendingReviews
  dsimp only
  rw [hrows, if_pos rfl, if_pos rfl]
  cases hcolumn : host.reviews.column with
  | text =>
      have hload : ∀ rows : List ReviewRow,
          rows.mapM (fun row => JsonColumn.text.load row.data) = .ok (rows.map (·.data)) := by
        intro rows
        induction rows with
        | nil => rfl
        | cons row rest ih =>
            rw [List.mapM_cons, ih]
            rfl
      rw [hload]
  | decoded =>
      rw [pendingCopies, pendingCopies, h.copies _ (.inr hcolumn)]

theorem ServicesAlike.getReview (h : ServicesAlike host.reviews tenantId q s)
    (tenant : Option String) :
    getReview host.reviews q.reviews true reviewId tenant =
      getReview host.reviews s.reviews true reviewId tenant := by
  unfold Telegram.getReview
  dsimp only
  rw [if_pos rfl, if_pos rfl, h.rowOf]
  split
  · rfl
  · split
    · rfl
    · rename_i row _ _ hload
      cases hcolumn : host.reviews.column with
      | text => rw [hcolumn] at hload; cases hload
      | decoded => exact h.copyOf (.inr hcolumn)

theorem ServicesAlike.foundReview (h : ServicesAlike host.reviews tenantId q s) :
    foundReview host q true reviewId other = foundReview host s true reviewId other := by
  rw [Telegram.foundReview, Telegram.foundReview, h.getReview]

theorem ServicesAlike.executeReviewRoute (h : ServicesAlike host.reviews tenantId q s) :
    executeReviewRoute host q (weather.under true) reviewId other =
      executeReviewRoute host s (weather.under true) reviewId other := by
  have hfound : ∀ owner, reviewToExecute host.reviews q.reviews true reviewId owner =
      reviewToExecute host.reviews s.reviews true reviewId owner := by
    intro owner
    unfold reviewToExecute
    rw [if_pos rfl, if_pos rfl, ← h.rowOf]
    split
    · rfl
    · rename_i hrow
      rw [h.copyOf_of_rowOf hrow]
  have htoken : ∀ owner, executionToken host.reviews q.reviews true owner =
      executionToken host.reviews s.reviews true owner := by
    intro owner
    rw [executionToken, executionToken, h.tokens]
  have hexecuted : executeReviewDecision host.reviews q.reviews (weather.under true).execution
      reviewId (some other) = executeReviewDecision host.reviews s.reviews
        (weather.under true).execution reviewId (some other) := by
    unfold executeReviewDecision
    dsimp only [RequestWeather.under]
    rw [hfound, htoken]
  have hreview : Telegram.foundReview host q (weather.under true).database reviewId other =
      Telegram.foundReview host s (weather.under true).database reviewId other := h.foundReview
  unfold Telegram.executeReviewRoute
  rw [hreview, hexecuted]

/-! ## What the routes write -/

theorem ServicesAlike.storeBotToken (h : ServicesAlike host.reviews tenantId q s) :
    (storeBotToken host q true other botToken).1 = (storeBotToken host s true other botToken).1 ∧
      ServicesAlike host.reviews tenantId (storeBotToken host q true other botToken).2
        (storeBotToken host s true other botToken).2 := by
  unfold Telegram.storeBotToken
  split
  · exact ⟨rfl, h⟩
  · rw [if_pos rfl, if_pos rfl]
    exact ⟨rfl, { h with tokens := by simp only [h.tokens] }⟩

theorem ServicesAlike.protectGroup {groupId : ℤ} {adminChatId : Option ℤ}
    (h : ServicesAlike host.reviews tenantId q s) :
    (protectGroup host q true groupId adminChatId other).1 =
        (protectGroup host s true groupId adminChatId other).1 ∧
      ServicesAlike host.reviews tenantId (protectGroup host q true groupId adminChatId other).2
        (protectGroup host s true groupId adminChatId other).2 := by
  obtain ⟨hresult, hensured⟩ := h.tenants.ensure (tenantOf host.reviews (some other))
  unfold Telegram.protectGroup registerGroup
  dsimp only
  rw [hresult]
  cases (ensureTenant host.reviews.configs s.reviews.tenants
    (tenantOf host.reviews (some other))).1 with
  | error e => exact ⟨rfl, h.withTenants hensured⟩
  | ok _ =>
      refine ⟨rfl, { h.withTenants hensured with groupRows := ?_, chatRows := ?_ }⟩
      · exact congrArg (List.insert (groupId, tenantOf host.reviews (some other))) h.groupRows
      · simp only [if_true, insertGroup]
        cases givenChat adminChatId with
        | none => exact h.chatRows
        | some chatId =>
            exact congrArg (List.insert (chatId, tenantOf host.reviews (some other))) h.chatRows

theorem ServicesAlike.getTenantConfig (h : ServicesAlike host.reviews tenantId q s) :
    (getTenantConfig host q other).1 = (getTenantConfig host s other).1 ∧
      ServicesAlike host.reviews tenantId (getTenantConfig host q other).2
        (getTenantConfig host s other).2 := by
  obtain ⟨hresult, hensured⟩ := h.tenants.ensure other
  have hloaded := h.tenants.loaded other
  unfold Telegram.getTenantConfig
  dsimp only
  rw [← hresult]
  cases hok : (ensureTenant host.reviews.configs q.reviews.tenants other).1 with
  | error e => exact ⟨rfl, h.withTenants hensured⟩
  | ok _ =>
      obtain ⟨hconfig, hadapter⟩ := hloaded hok
      refine ⟨?_, h.withTenants hensured⟩
      simp only [activeDetectorsOf, hconfig, hadapter]

theorem ServicesAlike.configureDetectors {config : JsonDict}
    (h : ServicesAlike host.reviews tenantId q s)
    (hother : config.has "detectors" = true → other ≠ tenantId) :
    (configureDetectorsRoute host q other config).1 =
        (configureDetectorsRoute host s other config).1 ∧
      ServicesAlike host.reviews tenantId (configureDetectorsRoute host q other config).2
        (configureDetectorsRoute host s other config).2 := by
  unfold configureDetectorsRoute
  split
  · rename_i hhas
    obtain ⟨hresult, hentries, hupdated⟩ := @TenantsAlike.update _ _ _ _ _ other config h.tenants
      (hother hhas)
    dsimp only
    rw [hresult, activeDetectorsOf_congr hentries]
    split <;> exact ⟨rfl, h.withTenants hupdated⟩
  · exact ⟨rfl, h⟩

/-- A resolution reaches the copies only where no row can be loaded. -/
theorem ServicesAlike.resolveStored (h : ServicesAlike host.reviews tenantId q s) :
    (resolveStored host.reviews q.reviews true reviewId other resolution).1 =
        (resolveStored host.reviews s.reviews true reviewId other resolution).1 ∧
      ServicesAlike host.reviews tenantId
        { q with
          reviews := (resolveStored host.reviews q.reviews true reviewId other resolution).2 }
        { s with
          reviews := (resolveStored host.reviews s.reviews true reviewId other resolution).2 } := by
  unfold Telegram.resolveStored
  rw [if_pos rfl, if_pos rfl, ← h.rowOf]
  cases hrow : q.reviews.rowOf reviewId other with
  | none => exact ⟨rfl, h⟩
  | some row =>
      dsimp only
      cases hload : host.reviews.column.load row.data with
      | ok review =>
          refine ⟨rfl, { h with rows := ?_, stored := fun id hcopy => ?_ }⟩
          · simp only [resolveRow, ReviewState.setRow, h.rows]
          · have hstored := h.stored id hcopy
            obtain ⟨found, hfound⟩ := Option.isSome_iff_exists.mp hstored
            obtain ⟨hget, htenant⟩ := Option.filter_eq_some_iff.mp hfound
            obtain ⟨hrowGet, -⟩ := Option.filter_eq_some_iff.mp hrow
            simp only [resolveRow, ReviewState.setRow, ReviewState.rowOf, Dict.get?_set]
            split
            · rename_i heq
              subst heq
              rw [hrowGet, Option.some.injEq] at hget
              subst hget
              simpa using htenant
            · rw [hget]
              simpa using htenant
      | error e =>
          have hcolumn : host.reviews.column = .decoded := by
            cases hcolumn : host.reviews.column with
            | text => rw [hcolumn] at hload; cases hload
            | decoded => rfl
          dsimp only
          unfold resolveCopy
          rw [← h.copyOf (.inr hcolumn)]
          cases hcopy : q.reviews.copyOf reviewId other with
          | none => exact ⟨rfl, h⟩
          | some review =>
              have hstored : ∀ u : ReviewState rt, ∀ id,
                  ((u.setCopy reviewId other (resolution.apply review)).copyOf id
                    tenantId).isSome → (u.copyOf id tenantId).isSome ∨
                      (id = reviewId ∧ other = tenantId) := by
                intro u id hsome
                by_cases hother : other = tenantId
                · subst hother
                  by_cases hid : reviewId = id
                  · exact .inr ⟨hid.symm, rfl⟩
                  · rw [ReviewState.setCopy, ReviewState.copyOf, Dict.get?_set_self,
                      Option.getD_some, Dict.get?_set_ne _ _ hid] at hsome
                    exact .inl hsome
                · rw [ReviewState.setCopy, ReviewState.copyOf, Dict.get?_set_ne _ _ hother] at hsome
                  exact .inl hsome
              refine ⟨rfl, { h with copies := fun third hthird => ?_, stored := fun id hsome => ?_ }⟩
              · simp only [ReviewState.setCopy, Dict.get?_set, h.copies other (.inr hcolumn),
                  h.copies third hthird]
              · have hold : ((q.reviews.copyOf id tenantId).isSome ∨
                    (s.reviews.copyOf id tenantId).isSome) ∨ (id = reviewId ∧ other = tenantId) := by
                  rcases hsome with hsome | hsome
                  · exact (hstored q.reviews id hsome).imp_left .inl
                  · exact (hstored s.reviews id hsome).imp_left .inr
                rcases hold with hold | ⟨rfl, rfl⟩
                · exact h.stored id hold
                · exact Option.isSome_iff_exists.mpr ⟨row, hrow⟩

theorem ServicesAlike.resolveReview {tenant : Option String}
    (h : ServicesAlike host.reviews tenantId q s) :
    (resolveReview host.reviews q.reviews true reviewId resolution tenant).1 =
        (resolveReview host.reviews s.reviews true reviewId resolution tenant).1 ∧
      ServicesAlike host.reviews tenantId
        { q with
          reviews := (resolveReview host.reviews q.reviews true reviewId resolution tenant).2 }
        { s with
          reviews := (resolveReview host.reviews s.reviews true reviewId resolution tenant).2 } := by
  obtain ⟨hresult, hensured⟩ := h.tenants.ensure (tenantOf host.reviews tenant)
  unfold Telegram.resolveReview
  dsimp only
  rw [hresult]
  cases (ensureTenant host.reviews.configs s.reviews.tenants (tenantOf host.reviews tenant)).1 with
  | error e => exact ⟨rfl, h.withTenants hensured⟩
  | ok _ =>
      have hstored := @ServicesAlike.resolveStored _ _ _ _ _ (tenantOf host.reviews tenant)
        reviewId resolution (h.withTenants hensured)
      exact ⟨congrArg Except.ok hstored.1, hstored.2⟩

theorem ServicesAlike.resolveReviewRoute {resolution : JsonDict}
    (h : ServicesAlike host.reviews tenantId q s) :
    (resolveReviewRoute host q (weather.under true) reviewId other resolution).1 =
        (resolveReviewRoute host s (weather.under true) reviewId other resolution).1 ∧
      ServicesAlike host.reviews tenantId
        (resolveReviewRoute host q (weather.under true) reviewId other resolution).2
        (resolveReviewRoute host s (weather.under true) reviewId other resolution).2 := by
  unfold Telegram.resolveReviewRoute
  split
  · exact ⟨rfl, h⟩
  · rename_i decision _
    obtain ⟨hresult, hafter⟩ := @ServicesAlike.resolveReview _ _ _ _ _ reviewId
      ⟨decision, resolution.getOr "notes" (.str ""), weather.resolvedAt⟩ (some other) h
    dsimp only [RequestWeather.under]
    rw [hresult]
    split <;> exact ⟨rfl, hafter⟩

/-! ## Requests -/

/-- An admitted request that replaces the configuration of the tenant. -/
def Reconfigures (host : AdminHost) (tenantId : String) (request : AdminRequest) : Prop :=
  tenantIdFromRequest request = tenantId ∧
    (∀ statusCode detail,
      requireTelegramAdmin host.reviews.tokens request ≠ .refused statusCode detail) ∧
    ∃ config, request.route = .configureDetectors config ∧ config.has "detectors" = true

theorem ServicesAlike.getStatus (h : ServicesAlike host.reviews tenantId q s)
    (tenant : Option String) :
    getStatus host.reviews q true tenant = getStatus host.reviews s true tenant := by
  have hcounts : storedCounts q = storedCounts s := by
    funext owner
    unfold storedCounts pendingRows
    rw [h.groupRows, h.sessionRows, h.rows]
  have htenants : storedTenants q = storedTenants s := by rw [storedTenants, storedTenants, h.groupRows]
  unfold Telegram.getStatus
  rw [hcounts, htenants]
  dsimp only
  split <;> first | rfl | contradiction

theorem ServicesAlike.handleRoute (h : ServicesAlike host.reviews tenantId q s)
    (hconfig : ∀ config, request.route = .configureDetectors config →
      config.has "detectors" = true → tenantIdFromRequest request ≠ tenantId) :
    (handleRoute host q (weather.under true) request).1 =
        (handleRoute host s (weather.under true) request).1 ∧
      ServicesAlike host.reviews tenantId (handleRoute host q (weather.under true) request).2
        (handleRoute host s (weather.under true) request).2 := by
  have hquiet : ∀ {answered answered' : AdminResponse × ServiceState rt},
      answered.1 = answered'.1 ∧ ServicesAlike host.reviews tenantId answered.2 answered'.2 →
        (([] : List ApiRequest), answered.1) = ([], answered'.1) ∧
          ServicesAlike host.reviews tenantId answered.2 answered'.2 :=
    fun hanswered => ⟨congrArg (Prod.mk []) hanswered.1, hanswered.2⟩
  unfold Telegram.handleRoute
  cases hroute : request.route <;> dsimp only [RequestWeather.under]
  case storeBotToken tenantId botToken => exact hquiet h.storeBotToken
  case getStatus => exact ⟨by rw [h.getStatus], h⟩
  case protectGroup groupId adminChatId => exact hquiet h.protectGroup
  case getAllReviews => exact ⟨by rw [h.getPendingReviews], h⟩
  case getReviewDetails reviewId =>
    exact ⟨by rw [getReviewDetails, getReviewDetails, h.foundReview], h⟩
  case resolveReview reviewId resolution => exact hquiet h.resolveReviewRoute
  case executeReviewDecision reviewId => exact ⟨h.executeReviewRoute, h⟩
  case getTenantConfig => exact hquiet h.getTenantConfig
  case configureDetectors config => exact hquiet (h.configureDetectors (hconfig config hroute))
  all_goals exact ⟨rfl, h⟩

theorem ServicesAlike.handleAdminRequest (h : ServicesAlike host.reviews tenantId q s)
    (hconfig : ¬ Reconfigures host tenantId request) :
    (handleAdminRequest host q (weather.under true) request).1 =
        (handleAdminRequest host s (weather.under true) request).1 ∧
      ServicesAlike host.reviews tenantId
        (handleAdminRequest host q (weather.under true) request).2
        (handleAdminRequest host s (weather.under true) request).2 := by
  unfold Telegram.handleAdminRequest
  split
  · exact ⟨rfl, h⟩
  · rename_i hadmitted
    exact h.handleRoute fun config hroute hhas htenant =>
      hconfig ⟨htenant, hadmitted, config, hroute, hhas⟩

theorem decisionOf_error {resolution : JsonDict} {failure : AdminResponse}
    (h : decisionOf resolution = .error failure) :
    ∃ statusCode detail, failure = .failure statusCode detail := by
  unfold decisionOf at h
  dsimp only at h
  repeat' split at h
  all_goals first
    | exact ⟨_, _, (Except.error.inj h).symm⟩
    | cases h

/-- Only such a request is answered with a new configuration. -/
theorem reconfigures_of_configured {weather : AdminWeather} {configuration : TenantConfig}
    {activeDetectors : List String}
    (h : (handleAdminRequest host s weather request).1.2 =
      .configured tenantId configuration activeDetectors) :
    Reconfigures host tenantId request := by
  unfold Telegram.handleAdminRequest at h
  split at h
  · cases h
  · rename_i hadmitted
    unfold Telegram.handleRoute at h
    cases hroute : request.route <;> rw [hroute] at h <;> dsimp only at h
    case storeBotToken tenantId botToken =>
      unfold Telegram.storeBotToken at h
      repeat' split at h
      all_goals cases h
    case protectGroup groupId adminChatId =>
      unfold Telegram.protectGroup at h
      split at h <;> cases h
    case getReviewDetails reviewId =>
      unfold getReviewDetails at h
      split at h <;> cases h
    case resolveReview reviewId resolution =>
      unfold Telegram.resolveReviewRoute at h
      split at h
      · rename_i failure hfailure
        obtain ⟨statusCode, detail, rfl⟩ := decisionOf_error hfailure
        cases h
      · dsimp only at h
        split at h <;> cases h
    case executeReviewDecision reviewId =>
      unfold Telegram.executeReviewRoute at h
      repeat' split at h
      all_goals cases h
    case getTenantConfig =>
      unfold Telegram.getTenantConfig at h
      dsimp only at h
      split at h <;> cases h
    case configureDetectors config =>
      unfold configureDetectorsRoute at h
      split at h
      · rename_i hhas
        dsimp only at h
        split at h
        · cases h
        · cases h
          exact ⟨rfl, hadmitted, config, hroute, hhas⟩
      · cases h
    all_goals cases h

end

end TruePresenceESE.Telegram.Webhook
