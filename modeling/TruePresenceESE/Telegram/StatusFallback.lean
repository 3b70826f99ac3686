import TruePresenceESE.Telegram.ReviewOutages
import TruePresenceESE.Telegram.Service

/-! # The status without the database

Two runs of the same calls, one with the database and one without, are followed side by
side. What memory counts for a tenant is what the tables hold for it, as long as no other
session id begins like the tenant's, no session is cut short and no review is resolved.
-/

namespace TruePresenceESE.Telegram

open PyValue JsonDict

variable {rt : TextRuntime}

/-! ## Runs -/

/-- What an update is parsed and evaluated to belongs to the run. -/
inductive StatusOp where
  | register (groupId : ℤ) (adminChatId : Option ℤ) (tenant : Option String)
  | update (tenant : Option String) (event : Option ParsedEvent) (evaluated : Evaluated)
  | add (review : ReviewRequest) (tenant : Option String)
  | resolve (reviewId : String) (resolution : Resolution) (tenant : Option String)

def applyStatusOp (host : ReviewHost) (database : Bool) (s : ServiceState rt) :
    StatusOp → ServiceState rt
  | .register groupId adminChatId tenant =>
      (registerGroup host s database groupId adminChatId tenant).2
  | .update tenant event evaluated => (handleUpdate host s database tenant event fun _ => evaluated).2
  | .add review tenant =>
      { s with
        reviews := (addPendingReview host s.reviews database review.data review.reviewId
          review.createdAt tenant).2 }
  | .resolve reviewId resolution tenant =>
      { s with reviews := (resolveReview host s.reviews database reviewId resolution tenant).2 }

def runStatus (host : ReviewHost) (database : Bool) (s : ServiceState rt) (ops : List StatusOp) :
    ServiceState rt :=
  ops.foldl (applyStatusOp host database) s

/-- The ids of the reviews that a call may add. -/
def givenIds : StatusOp → List String
  | .update _ _ (.acted _ (some review)) => [review.reviewId]
  | .add review _ => [review.reviewId]
  | _ => []

/-! ## Calls that keep the counts together -/

def opensLike (tenantId sessionId : String) : Bool :=
  (sessionStart tenantId).toList.isPrefixOf sessionId.toList

/-- An update for the tenant closes its session, or the session was closed before; an
update for another tenant has no session id that begins like the tenant's. -/
def SessionApart (host : ReviewHost) (s : ServiceState rt) (tenantId : String)
    (tenant : Option String) (event : ParsedEvent) (evaluated : Evaluated) : Prop :=
  let sessionId := sessionIdOf (tenantOf host tenant) event.userId
  if tenantOf host tenant = tenantId then
    (∃ action review, evaluated = .acted action review) ∨
      (s.userSessions.get? sessionId).isSome = true
  else opensLike tenantId sessionId = false

/-- What a call may do in a run without the database. -/
def CountsAlike (host : ReviewHost) (s : ServiceState rt) (tenantId : String) : StatusOp → Prop
  | .update tenant (some event) evaluated => SessionApart host s tenantId tenant event evaluated
  | .resolve reviewId _ tenant =>
      host.column = .decoded ∨ tenantOf host tenant ≠ tenantId ∨
        s.reviews.copyOf reviewId tenantId = none
  | _ => True

/-! ## The two runs side by side -/

/-- What the runs have in common whatever the calls. -/
structure GroupsAlike (up down : ServiceState rt) : Prop where
  tenants : up.reviews.tenants = down.reviews.tenants
  rows : ∀ groupId tenantId, (groupId, tenantId) ∈ up.groupRows ↔ groupId ∈ down.groupsOf tenantId
  rowsNodup : up.groupRows.Nodup
  groupsNodup : ∀ tenantId, (down.groupsOf tenantId).Nodup
  known : ∀ tenantId, (down.protectedGroups.get? tenantId).isSome = true ↔
    down.groupsOf tenantId ≠ []

def sessionOwner (s : ServiceState rt) (sessionId : String) : Option String :=
  (s.sessionRows.get? sessionId).map (·.tenantId)

structure SessionsAlike (tenantId : String) (up down : ServiceState rt) : Prop where
  closed : ∀ sessionId, sessionOwner up sessionId = some tenantId ↔
    (down.userSessions.get? sessionId).isSome = true ∧ opensLike tenantId sessionId = true
  own : ∀ sessionId owner, sessionOwner up sessionId = some owner →
    opensLike tenantId sessionId = true → owner = tenantId

def rawCopy (s : ReviewState rt) (reviewId tenantId : String) : Option JsonDict :=
  ((s.pendingReviews.get? tenantId).getD Dict.empty).get? reviewId

structure ReviewsAlike (tenantId : String) (up down : ReviewState rt) : Prop where
  pending : ∀ reviewId row, up.rowOf reviewId tenantId = some row → row.status = "pending"
  kept : ∀ reviewId, (up.rowOf reviewId tenantId).isSome = true ↔
    (rawCopy down reviewId tenantId).isSome = true
  full : ∀ reviewId review, rawCopy down reviewId tenantId = some review → review.items ≠ []

/-! ## Tenants and groups -/

section
variable {host : ReviewHost} {up down : ServiceState rt} {op : StatusOp} {tenantId : String}
  {database database' : Bool}

theorem addPendingReview_tenants (s : ReviewState rt) (data : JsonDict)
    (reviewId createdAt : String) (tenant : Option String) :
    (addPendingReview host s database data reviewId createdAt tenant).2.tenants =
      (ensureTenant host.configs s.tenants (tenantOf host tenant)).2 := by
  unfold addPendingReview
  dsimp only
  split
  · rfl
  · unfold insertReview
    split <;> rfl

theorem resolveReview_tenants (s : ReviewState rt) (reviewId : String) (resolution : Resolution)
    (tenant : Option String) :
    (resolveReview host s database reviewId resolution tenant).2.tenants =
      (ensureTenant host.configs s.tenants (tenantOf host tenant)).2 := by
  unfold resolveReview
  dsimp only
  split
  · rfl
  · rcases @resolveStored_cases rt host
        { s with tenants := (ensureTenant host.configs s.tenants (tenantOf host tenant)).2 }
        reviewId (tenantOf host tenant) resolution database with
      hkept | ⟨row, -, -, -, hdone⟩ | ⟨review, -, -, hdone⟩
    · rw [hkept]
    · rw [hdone]
      rfl
    · rw [hdone]
      rfl

theorem openSession_reviews (s : ServiceState rt) (sessionId tenantId : String) :
    (openSession host s database sessionId tenantId).2.reviews = s.reviews := by
  unfold openSession
  dsimp only
  split
  · split
    · rfl
    · split <;> rfl
  · rfl

theorem closeSession_reviews (s : ServiceState rt) (sessionId : String) (session : JsonDict) :
    (closeSession s database sessionId session).reviews = s.reviews := by
  unfold closeSession
  split
  · split <;> rfl
  · rfl

theorem handleManualReview_reviews (s : ServiceState rt) (tenantId : String)
    (review : Option ReviewRequest) :
    (handleManualReview host s database tenantId review).2 =
      match review with
      | none => s
      | some review => { s with
          reviews := (addPendingReview host s.reviews database review.data review.reviewId
            review.createdAt (some tenantId)).2 } := by
  cases review with
  | none => rfl
  | some review =>
      unfold handleManualReview
      dsimp only
      split <;> rfl

/-- The tenants after an event, where the evaluation came to a review or not. -/
theorem processEvent_reviews (s : ServiceState rt) (event : ParsedEvent) (evaluated : Evaluated) :
    (processEvent host s database tenantId event fun _ => evaluated).2.reviews =
      match evaluated with
      | .acted _ (some review) =>
          (addPendingReview host s.reviews database review.data review.reviewId review.createdAt
            (some tenantId)).2
      | _ => s.reviews := by
  unfold processEvent
  dsimp only
  cases evaluated with
  | raised => exact openSession_reviews s _ _
  | acted action review =>
      dsimp only
      rw [handleManualReview_reviews]
      cases review with
      | none => rw [closeSession_reviews, openSession_reviews]
      | some review => rw [closeSession_reviews, openSession_reviews]

/-- Tenants are ensured alike with and without the database. -/
theorem applyStatusOp_tenants (h : up.reviews.tenants = down.reviews.tenants) :
    (applyStatusOp host database up op).reviews.tenants =
      (applyStatusOp host database' down op).reviews.tenants := by
  cases op with
  | register groupId adminChatId tenant =>
      simp only [applyStatusOp, registerGroup, h]
      split
      · rfl
      · cases database <;> cases database' <;> rfl
  | update tenant event evaluated =>
      simp only [applyStatusOp, handleUpdate, h]
      split
      · rfl
      · rfl
      · rw [processEvent_reviews, processEvent_reviews]
        cases evaluated with
        | raised => rfl
        | acted action review =>
            cases review with
            | none => rfl
            | some review =>
                dsimp only
                rw [addPendingReview_tenants, addPendingReview_tenants]
                rfl
  | add review tenant =>
      simp only [applyStatusOp]
      rw [addPendingReview_tenants, addPendingReview_tenants, h]
  | resolve reviewId resolution tenant =>
      simp only [applyStatusOp]
      rw [resolveReview_tenants, resolveReview_tenants, h]

theorem openSession_groups (s : ServiceState rt) (sessionId tenantId : String) :
    (openSession host s database sessionId tenantId).2.groupRows = s.groupRows ∧
      (openSession host s database sessionId tenantId).2.protectedGroups = s.protectedGroups := by
  unfold openSession
  dsimp only
  split
  · split
    · exact ⟨rfl, rfl⟩
    · split <;> exact ⟨rfl, rfl⟩
  · exact ⟨rfl, rfl⟩

theorem closeSession_groups (s : ServiceState rt) (sessionId : String) (session : JsonDict) :
    (closeSession s database sessionId session).groupRows = s.groupRows ∧
      (closeSession s database sessionId session).protectedGroups = s.protectedGroups := by
  unfold closeSession
  split
  · split <;> exact ⟨rfl, rfl⟩
  · exact ⟨rfl, rfl⟩

theorem processEvent_groups (s : ServiceState rt) (event : ParsedEvent) (evaluated : Evaluated) :
    let after := (processEvent host s database tenantId event fun _ => evaluated).2
    after.groupRows = s.groupRows ∧ after.protectedGroups = s.protectedGroups := by
  unfold processEvent
  dsimp only
  cases evaluated with
  | raised => exact openSession_groups s _ _
  | acted action review =>
      obtain ⟨hrows, hgroups⟩ := @openSession_groups rt host database s
        (sessionIdOf tenantId event.userId) tenantId
      dsimp only
      rw [handleManualReview_reviews]
      cases review with
      | none =>
          dsimp only
          rw [(closeSession_groups _ _ _).1, (closeSession_groups _ _ _).2]
          exact ⟨hrows, hgroups⟩
      | some review =>
          dsimp only
          rw [(closeSession_groups _ _ _).1, (closeSession_groups _ _ _).2]
          exact ⟨hrows, hgroups⟩

/-- Groups change where one is registered. -/
theorem applyStatusOp_groups (s : ServiceState rt)
    (hop : ∀ groupId adminChatId tenant, op ≠ .register groupId adminChatId tenant) :
    (applyStatusOp host database s op).groupRows = s.groupRows ∧
      (applyStatusOp host database s op).protectedGroups = s.protectedGroups := by
  cases op with
  | register groupId adminChatId tenant => exact absurd rfl (hop groupId adminChatId tenant)
  | update tenant event evaluated =>
      simp only [applyStatusOp, handleUpdate]
      split
      · exact ⟨rfl, rfl⟩
      · exact ⟨rfl, rfl⟩
      · exact processEvent_groups _ _ _
  | add review tenant => exact ⟨rfl, rfl⟩
  | resolve reviewId resolution tenant => exact ⟨rfl, rfl⟩

theorem GroupsAlike.transfer {up' down' : ServiceState rt} (h : GroupsAlike up down)
    (htenants : up'.reviews.tenants = down'.reviews.tenants) (hrows : up'.groupRows = up.groupRows)
    (hgroups : down'.protectedGroups = down.protectedGroups) : GroupsAlike up' down' := by
  have hof : ∀ tenantId, down'.groupsOf tenantId = down.groupsOf tenantId := by
    intro tenantId
    rw [ServiceState.groupsOf, hgroups, ServiceState.groupsOf]
  refine ⟨htenants, fun groupId tenantId => ?_, hrows ▸ h.rowsNodup, fun tenantId => ?_,
    fun tenantId => ?_⟩
  · rw [hrows, hof]
    exact h.rows groupId tenantId
  · rw [hof]
    exact h.groupsNodup tenantId
  · rw [hof, hgroups]
    exact h.known tenantId

theorem groupsOf_rememberGroup (s : ServiceState rt) (groupId : ℤ) (adminChatId : Option ℤ)
    (other : String) :
    (rememberGroup s groupId adminChatId tenantId).groupsOf other =
      if tenantId = other then (s.groupsOf tenantId).insert groupId else s.groupsOf other := by
  rw [ServiceState.groupsOf, rememberGroup, Dict.get?_set]
  split
  · rfl
  · rfl

theorem GroupsAlike.register (h : GroupsAlike up down) (groupId : ℤ) (adminChatId : Option ℤ) :
    GroupsAlike
      (insertGroup (rememberGroup up groupId adminChatId tenantId) groupId adminChatId tenantId)
      (rememberGroup down groupId adminChatId tenantId) := by
  refine ⟨h.tenants, fun group other => ?_, h.rowsNodup.insert, fun other => ?_, fun other => ?_⟩
  · rw [groupsOf_rememberGroup]
    have hrows := h.rows group other
    change (group, other) ∈ up.groupRows.insert (groupId, tenantId) ↔ _
    rw [List.mem_insert_iff, hrows, Prod.mk.injEq]
    split
    · rename_i heq
      subst heq
      rw [List.mem_insert_iff, and_iff_left rfl]
    · rename_i hne
      simp [Ne.symm hne]
  · rw [groupsOf_rememberGroup]
    split
    · exact (h.groupsNodup _).insert
    · exact h.groupsNodup other
  · rw [groupsOf_rememberGroup]
    change (Option.isSome ((down.protectedGroups.set tenantId _).get? other) = true) ↔ _
    rw [Dict.get?_set]
    split
    · exact iff_of_true rfl (List.ne_nil_of_mem (List.mem_insert_self))
    · exact h.known other

theorem GroupsAlike.step (h : GroupsAlike up down) :
    GroupsAlike (applyStatusOp host true up op) (applyStatusOp host false down op) := by
  have htenants := @applyStatusOp_tenants rt host up down op true false h.tenants
  cases op with
  | register groupId adminChatId tenant =>
      simp only [applyStatusOp, registerGroup, h.tenants]
      split
      · exact h.transfer rfl rfl rfl
      · have halike : ∀ tenants, GroupsAlike (up.withTenants tenants) (down.withTenants tenants) :=
          fun _ => h.transfer rfl rfl rfl
        exact (halike _).register groupId adminChatId
  | update tenant event evaluated =>
      exact h.transfer htenants (applyStatusOp_groups up (by simp)).1
        (applyStatusOp_groups down (by simp)).2
  | add review tenant =>
      exact h.transfer htenants (applyStatusOp_groups up (by simp)).1
        (applyStatusOp_groups down (by simp)).2
  | resolve reviewId resolution tenant =>
      exact h.transfer htenants (applyStatusOp_groups up (by simp)).1
        (applyStatusOp_groups down (by simp)).2

/-! ## Sessions -/

theorem opensLike_sessionIdOf (userId : String) :
    opensLike tenantId (sessionIdOf tenantId userId) = true := by
  rw [opensLike, sessionIdOf, String.toList_append, List.isPrefixOf_iff_prefix]
  exact List.prefix_append _ _

theorem sessionOwner_openSession (s : ServiceState rt) (sessionId other : String) :
    sessionOwner (openSession host s true sessionId tenantId).2 other =
      if sessionId = other then some ((sessionOwner s sessionId).getD tenantId)
      else sessionOwner s other := by
  unfold openSession sessionOwner
  dsimp only
  rw [if_pos rfl]
  cases hrow : s.sessionRows.get? sessionId with
  | none =>
      dsimp only
      rw [Dict.get?_set]
      split <;> rfl
  | some row =>
      have hkept : (s.sessionRows.get? other).map (·.tenantId) =
          if sessionId = other then some row.tenantId
          else (s.sessionRows.get? other).map (·.tenantId) := by
        split
        · rename_i heq
          subst heq
          rw [hrow]
          rfl
        · rfl
      dsimp only
      split <;> exact hkept

theorem sessionOwner_closeSession (s : ServiceState rt) (sessionId other : String)
    (session : JsonDict) :
    sessionOwner (closeSession s true sessionId session) other = sessionOwner s other := by
  unfold closeSession sessionOwner
  rw [if_pos rfl]
  cases hrow : s.sessionRows.get? sessionId with
  | none => rfl
  | some row =>
      dsimp only
      rw [Dict.get?_set]
      split
      · rename_i heq
        subst heq
        rw [hrow]
        rfl
      · rfl

/-- With the database an event leaves its session to the tenant that came first. -/
theorem sessionOwner_processEvent (s : ServiceState rt) (event : ParsedEvent)
    (evaluated : Evaluated) (other : String) :
    sessionOwner (processEvent host s true tenantId event fun _ => evaluated).2 other =
      if sessionIdOf tenantId event.userId = other then
        some ((sessionOwner s (sessionIdOf tenantId event.userId)).getD tenantId)
      else sessionOwner s other := by
  unfold processEvent
  dsimp only
  rw [← @sessionOwner_openSession _ host]
  cases evaluated with
  | raised => rfl
  | acted action review =>
      dsimp only
      rw [handleManualReview_reviews]
      cases review with
      | none => exact sessionOwner_closeSession _ _ _ _
      | some review => exact sessionOwner_closeSession _ _ _ _

/-- Without the database it is remembered once the event is through. -/
theorem userSessions_processEvent (s : ServiceState rt) (event : ParsedEvent)
    (evaluated : Evaluated) (other : String) :
    ((processEvent host s false tenantId event fun _ => evaluated).2.userSessions.get? other).isSome =
      match evaluated with
      | .raised => (s.userSessions.get? other).isSome
      | .acted _ _ => decide (sessionIdOf tenantId event.userId = other) ||
          (s.userSessions.get? other).isSome := by
  unfold processEvent
  cases evaluated with
  | raised => rfl
  | acted action review =>
      dsimp only
      rw [handleManualReview_reviews]
      have hclosed : ∀ session : JsonDict,
          ((s.userSessions.set (sessionIdOf tenantId event.userId) session).get? other).isSome =
            (decide (sessionIdOf tenantId event.userId = other) ||
              (s.userSessions.get? other).isSome) := by
        intro session
        rw [Dict.get?_set]
        split
        · rename_i heq
          simp [heq]
        · rename_i hne
          simp [hne]
      cases review with
      | none => exact hclosed _
      | some review => exact hclosed _

theorem SessionsAlike.process {event : ParsedEvent} {evaluated : Evaluated} {tenant : Option String}
    (h : SessionsAlike tenantId up down)
    (hapart : SessionApart host down tenantId tenant event evaluated) :
    SessionsAlike tenantId
      (processEvent host up true (tenantOf host tenant) event fun _ => evaluated).2
      (processEvent host down false (tenantOf host tenant) event fun _ => evaluated).2 := by
  have howner : (tenantOf host tenant = tenantId ∧
      (sessionOwner up (sessionIdOf (tenantOf host tenant) event.userId)).getD
        (tenantOf host tenant) = tenantId ∧
      ((processEvent host down false (tenantOf host tenant) event fun _ => evaluated).2.userSessions.get?
        (sessionIdOf (tenantOf host tenant) event.userId)).isSome = true ∧
      opensLike tenantId (sessionIdOf (tenantOf host tenant) event.userId) = true) ∨
      ((sessionOwner up (sessionIdOf (tenantOf host tenant) event.userId)).getD
        (tenantOf host tenant) ≠ tenantId ∧
      opensLike tenantId (sessionIdOf (tenantOf host tenant) event.userId) = false) := by
    unfold SessionApart at hapart
    dsimp only at hapart
    by_cases htenant : tenantOf host tenant = tenantId
    · rw [if_pos htenant] at hapart
      have hlike : opensLike tenantId (sessionIdOf (tenantOf host tenant) event.userId) = true := by
        rw [htenant]
        exact opensLike_sessionIdOf event.userId
      refine .inl ⟨htenant, ?_, ?_, hlike⟩
      · cases hrow : sessionOwner up (sessionIdOf (tenantOf host tenant) event.userId) with
        | none => exact htenant
        | some owner => exact h.own _ owner hrow hlike
      · rw [userSessions_processEvent]
        rcases hapart with ⟨action, review, rfl⟩ | hclosed
        · simp
        · cases evaluated <;> simp [hclosed]
    · rw [if_neg htenant] at hapart
      refine .inr ⟨fun howned => ?_, hapart⟩
      cases hrow : sessionOwner up (sessionIdOf (tenantOf host tenant) event.userId) with
      | none =>
          rw [hrow] at howned
          exact htenant howned
      | some owner =>
          rw [hrow, Option.getD_some] at howned
          subst howned
          rw [((h.closed _).mp hrow).2] at hapart
          cases hapart
  constructor
  · intro sessionId
    rw [sessionOwner_processEvent]
    split
    · rename_i heq
      subst heq
      rcases howner with ⟨-, howned, hclosed, hlike⟩ | ⟨hforeign, hlike⟩
      · exact iff_of_true (congrArg some howned) ⟨hclosed, hlike⟩
      · refine iff_of_false (fun heq => hforeign (Option.some.inj heq)) fun hboth => ?_
        rw [hlike] at hboth
        cases hboth.2
    · rename_i hne
      rw [h.closed sessionId, userSessions_processEvent]
      cases evaluated <;> simp [hne]
  · intro sessionId owner hrow hlike
    rw [sessionOwner_processEvent] at hrow
    split at hrow
    · rename_i heq
      subst heq
      rcases howner with ⟨-, howned, -, -⟩ | ⟨-, hforeign⟩
      · exact (Option.some.inj hrow).symm.trans howned
      · rw [hlike] at hforeign
        cases hforeign
    · exact h.own sessionId owner hrow hlike

theorem SessionsAlike.transfer {up' down' : ServiceState rt} (h : SessionsAlike tenantId up down)
    (hrows : up'.sessionRows = up.sessionRows) (hsessions : down'.userSessions = down.userSessions) :
    SessionsAlike tenantId up' down' := by
  have howner : ∀ sessionId, sessionOwner up' sessionId = sessionOwner up sessionId := by
    intro sessionId
    rw [sessionOwner, hrows, sessionOwner]
  constructor
  · intro sessionId
    rw [howner, hsessions]
    exact h.closed sessionId
  · intro sessionId owner hrow
    rw [howner] at hrow
    exact h.own sessionId owner hrow

theorem registerGroup_sessions (s : ServiceState rt) (groupId : ℤ) (adminChatId : Option ℤ)
    (tenant : Option String) :
    let after := (registerGroup host s database groupId adminChatId tenant).2
    after.sessionRows = s.sessionRows ∧ after.userSessions = s.userSessions := by
  unfold registerGroup
  dsimp only
  split
  · exact ⟨rfl, rfl⟩
  · cases database <;> exact ⟨rfl, rfl⟩

theorem SessionsAlike.step (h : SessionsAlike tenantId up down) (hgroups : GroupsAlike up down)
    (hop : CountsAlike host down tenantId op) :
    SessionsAlike tenantId (applyStatusOp host true up op) (applyStatusOp host false down op) := by
  cases op with
  | register groupId adminChatId tenant =>
      exact h.transfer (registerGroup_sessions up groupId adminChatId tenant).1
        (registerGroup_sessions down groupId adminChatId tenant).2
  | update tenant event evaluated =>
      simp only [applyStatusOp, handleUpdate, hgroups.tenants]
      split
      · exact h.transfer rfl rfl
      · exact h.transfer rfl rfl
      · rename_i parsed _ _
        have halike : ∀ tenants, SessionsAlike tenantId (up.withTenants tenants)
            (down.withTenants tenants) := fun _ => h.transfer rfl rfl
        exact (halike _).process hop
  | add review tenant => exact h.transfer rfl rfl
  | resolve reviewId resolution tenant => exact h.transfer rfl rfl

end

/-! ## Reviews -/

section
variable {host : ReviewHost} {up down up' down' : ReviewState rt} {tenantId reviewId : String}
  {review : JsonDict}

theorem ReviewsAlike.transfer (h : ReviewsAlike tenantId up down)
    (hrows : ∀ reviewId, up'.rowOf reviewId tenantId = up.rowOf reviewId tenantId)
    (hcopies : down'.pendingReviews.get? tenantId = down.pendingReviews.get? tenantId) :
    ReviewsAlike tenantId up' down' := by
  have hraw : ∀ reviewId, rawCopy down' reviewId tenantId = rawCopy down reviewId tenantId := by
    intro reviewId
    rw [rawCopy, hcopies, rawCopy]
  constructor
  · intro reviewId row hrow
    exact h.pending reviewId row (hrows reviewId ▸ hrow)
  · intro reviewId
    rw [hrows, hraw]
    exact h.kept reviewId
  · intro reviewId review hcopy
    exact h.full reviewId review (hraw reviewId ▸ hcopy)

theorem rawCopy_setCopy (s : ReviewState rt) (other : String) :
    rawCopy (s.setCopy reviewId tenantId review) other tenantId =
      if reviewId = other then some review else rawCopy s other tenantId := by
  rw [rawCopy, ReviewState.setCopy, Dict.get?_set_self, Option.getD_some, Dict.get?_set]
  rfl

theorem items_ne_nil_of_get {key : String} {text : String} (h : review.get key = .str text) :
    review.items ≠ [] := by
  intro hempty
  have hnone : review = Dict.empty := Dict.ext hempty
  rw [hnone] at h
  cases h

/-- A copy that is put where there was one, beside any copies. -/
theorem ReviewsAlike.replaceCopy (h : ReviewsAlike tenantId up down)
    (hthere : (rawCopy down reviewId tenantId).isSome = true) (hfull : review.items ≠ []) :
    ReviewsAlike tenantId up (down.setCopy reviewId tenantId review) := by
  refine ⟨h.pending, fun other => ?_, fun other kept hkept => ?_⟩
  · rw [rawCopy_setCopy, h.kept other]
    split
    · rename_i heq
      exact iff_of_true (heq ▸ hthere) rfl
    · rfl
  · rw [rawCopy_setCopy] at hkept
    split at hkept
    · exact Option.some.inj hkept ▸ hfull
    · exact h.full other kept hkept

theorem rowOf_setRow {row : ReviewRow} (s : ReviewState rt) (other : String) :
    (s.setRow reviewId row).rowOf other row.tenantId =
      if reviewId = other then some row else s.rowOf other row.tenantId := by
  rw [ReviewState.rowOf, ReviewState.setRow, Dict.get?_set]
  split
  · simp
  · rfl

/-- A new review comes into the table of one run and the memory of the other. -/
theorem ReviewsAlike.insert (h : ReviewsAlike tenantId up down) (hfull : review.items ≠ [])
    (hrows : ∀ other, up'.rowOf other tenantId =
      if reviewId = other then some ⟨tenantId, review, "pending"⟩ else up.rowOf other tenantId)
    (hcopies : down'.pendingReviews = (down.setCopy reviewId tenantId review).pendingReviews) :
    ReviewsAlike tenantId up' down' := by
  have hraw : ∀ other, rawCopy down' other tenantId =
      if reviewId = other then some review else rawCopy down other tenantId := by
    intro other
    rw [← rawCopy_setCopy, rawCopy, hcopies, rawCopy]
  refine ⟨fun other row hrow => ?_, fun other => ?_, fun other kept hkept => ?_⟩
  · rw [hrows] at hrow
    split at hrow
    · exact Option.some.inj hrow ▸ rfl
    · exact h.pending other row hrow
  · rw [hrows, hraw]
    split
    · rfl
    · exact h.kept other
  · rw [hraw] at hkept
    split at hkept
    · exact Option.some.inj hkept ▸ hfull
    · exact h.full other kept hkept

theorem ReviewsAlike.add {reviewData : JsonDict} {createdAt : String} {tenant : Option String}
    (h : ReviewsAlike tenantId up down) (htenants : up.tenants = down.tenants)
    (hfresh : up.rows.get? reviewId = none) :
    ReviewsAlike tenantId (addPendingReview host up true reviewData reviewId createdAt tenant).2
      (addPendingReview host down false reviewData reviewId createdAt tenant).2 := by
  by_cases htenant : tenantOf host tenant = tenantId
  · subst htenant
    unfold addPendingReview
    dsimp only
    rw [htenants]
    split
    · exact h.transfer (fun _ => rfl) rfl
    · have hnew := (@get_status_newReview reviewId (tenantOf host tenant) reviewData createdAt).2
      refine h.insert (items_ne_nil_of_get hnew) (fun other => ?_) rfl
      dsimp only
      rw [insertReview, if_pos ⟨rfl, by exact hfresh ▸ rfl⟩]
      exact @rowOf_setRow rt reviewId ⟨tenantOf host tenant, _, "pending"⟩ _ other
  · have hup := @answerReview_hidden rt host up (.add true reviewData reviewId createdAt tenant)
      tenantId htenant
    have hdown := @answerReview_hidden rt host down
      (.add false reviewData reviewId createdAt tenant) tenantId htenant
    exact h.transfer (fun _ => hup.rowOf) hdown.copies

theorem ReviewsAlike.copyOf_isSome (h : ReviewsAlike tenantId up down) :
    (down.copyOf reviewId tenantId).isSome = true ↔
      (rawCopy down reviewId tenantId).isSome = true := by
  cases hraw : rawCopy down reviewId tenantId with
  | none =>
      rw [rawCopy] at hraw
      rw [ReviewState.copyOf, hraw]
      rfl
  | some review =>
      have hfull := h.full reviewId review hraw
      rw [rawCopy] at hraw
      rw [ReviewState.copyOf, hraw, Option.filter_some, if_pos (by simpa using hfull)]

theorem ReviewsAlike.resolveCopy {resolution : Resolution} (h : ReviewsAlike tenantId up down) :
    ReviewsAlike tenantId up (resolveCopy down reviewId tenantId resolution).2 := by
  unfold Telegram.resolveCopy
  cases hcopy : down.copyOf reviewId tenantId with
  | none => exact h
  | some review =>
      have hthere := h.copyOf_isSome.mp (show (down.copyOf reviewId tenantId).isSome = true by
        rw [hcopy]; rfl)
      exact h.replaceCopy hthere (items_ne_nil_of_get get_status_resolution.1)

/-- Rows stay as they are where none can be resolved. -/
theorem rowOf_resolveStored {resolution : Resolution}
    (hkept : host.column = .decoded ∨ up.rowOf reviewId tenantId = none) (other : String) :
    (resolveStored host up true reviewId tenantId resolution).2.rowOf other tenantId =
      up.rowOf other tenantId := by
  rcases @resolveStored_cases rt host up reviewId tenantId resolution true with
    hsame | ⟨row, -, hcolumn, hrow, -⟩ | ⟨review, -, -, hdone⟩
  · rw [hsame]
  · rcases hkept with hdecoded | hnone
    · cases hcolumn.symm.trans hdecoded
    · cases hrow.symm.trans hnone
  · rw [hdone]
    rfl

theorem ReviewsAlike.resolve {resolution : Resolution} {tenant : Option String}
    (h : ReviewsAlike tenantId up down) (htenants : up.tenants = down.tenants)
    (hkept : host.column = .decoded ∨ tenantOf host tenant ≠ tenantId ∨
      down.copyOf reviewId tenantId = none) :
    ReviewsAlike tenantId (resolveReview host up true reviewId resolution tenant).2
      (resolveReview host down false reviewId resolution tenant).2 := by
  by_cases htenant : tenantOf host tenant = tenantId
  · subst htenant
    unfold resolveReview
    dsimp only
    rw [htenants]
    split
    · exact h.transfer (fun _ => rfl) rfl
    · dsimp only
      have hrows : host.column = .decoded ∨ up.rowOf reviewId (tenantOf host tenant) = none := by
        rcases hkept with hdecoded | hother | hnone
        · exact .inl hdecoded
        · exact absurd rfl hother
        · refine .inr (Option.not_isSome_iff_eq_none.mp fun hsome => ?_)
          rw [h.kept, ← h.copyOf_isSome, hnone] at hsome
          cases hsome
      have hleft : ∀ tenants tenants', ReviewsAlike (tenantOf host tenant)
          (resolveStored host { up with tenants := tenants } true reviewId (tenantOf host tenant)
            resolution).2 { down with tenants := tenants' } :=
        fun _ _ => h.transfer (rowOf_resolveStored hrows) rfl
      exact (hleft _ _).resolveCopy
  · have hup := @answerReview_hidden rt host up (.resolve true reviewId resolution tenant)
      tenantId htenant
    have hdown := @answerReview_hidden rt host down (.resolve false reviewId resolution tenant)
      tenantId htenant
    exact h.transfer (fun _ => hup.rowOf) hdown.copies

end

/-! ## One call -/

section
variable {host : ReviewHost} {up down : ServiceState rt} {op : StatusOp} {rest : List StatusOp}
  {tenantId : String}

theorem registerGroup_reviews {database : Bool} (s : ServiceState rt) (groupId : ℤ)
    (adminChatId : Option ℤ) (tenant : Option String) :
    (registerGroup host s database groupId adminChatId tenant).2.reviews =
      { s.reviews with
        tenants := (ensureTenant host.configs s.reviews.tenants (tenantOf host tenant)).2 } := by
  unfold registerGroup
  dsimp only
  split
  · rfl
  · cases database <;> rfl

theorem ReviewsAlike.step (h : ReviewsAlike tenantId up.reviews down.reviews)
    (htenants : up.reviews.tenants = down.reviews.tenants)
    (hfresh : ∀ reviewId ∈ givenIds op, up.reviews.rows.get? reviewId = none)
    (hop : CountsAlike host down tenantId op) :
    ReviewsAlike tenantId (applyStatusOp host true up op).reviews
      (applyStatusOp host false down op).reviews := by
  cases op with
  | register groupId adminChatId tenant =>
      simp only [applyStatusOp, registerGroup_reviews]
      exact h.transfer (fun _ => rfl) rfl
  | update tenant event evaluated =>
      simp only [applyStatusOp, handleUpdate, htenants]
      split
      · exact h.transfer (fun _ => rfl) rfl
      · exact h.transfer (fun _ => rfl) rfl
      · rw [processEvent_reviews, processEvent_reviews]
        have halike : ∀ tenants, ReviewsAlike tenantId { up.reviews with tenants := tenants }
            { down.reviews with tenants := tenants } := fun _ => h.transfer (fun _ => rfl) rfl
        cases evaluated with
        | raised => exact halike _
        | acted action review =>
            cases review with
            | none => exact halike _
            | some review =>
                exact (halike _).add rfl (hfresh review.reviewId (by simp [givenIds]))
  | add review tenant => exact h.add htenants (hfresh review.reviewId (by simp [givenIds]))
  | resolve reviewId resolution tenant => exact h.resolve htenants hop

/-- A call writes rows of reviews under ids that are given to it or there already. -/
theorem applyStatusOp_rows {reviewId : String} (hnone : up.reviews.rows.get? reviewId = none)
    (hid : reviewId ∉ givenIds op) :
    (applyStatusOp host true up op).reviews.rows.get? reviewId = none := by
  cases op with
  | register groupId adminChatId tenant =>
      simp only [applyStatusOp, registerGroup_reviews]
      exact hnone
  | update tenant event evaluated =>
      simp only [applyStatusOp, handleUpdate]
      split
      · exact hnone
      · exact hnone
      · rw [processEvent_reviews]
        cases evaluated with
        | raised => exact hnone
        | acted action review =>
            cases review with
            | none => exact hnone
            | some review =>
                have hadded : ∀ tenants : Tenants rt, (answerReview host { up.reviews with tenants := tenants }
                    (.add true review.data review.reviewId review.createdAt
                      (some (tenantOf host tenant)))).2.rows.get? reviewId = none :=
                  fun _ => answerReview_rows hnone (by simpa [givenIds, addedIds] using hid)
                exact hadded _
  | add review tenant =>
      exact @answerReview_rows rt host up.reviews
        (.add true review.data review.reviewId review.createdAt tenant) reviewId hnone
        (by simpa [givenIds, addedIds] using hid)
  | resolve resolved resolution tenant =>
      exact @answerReview_rows rt host up.reviews (.resolve true resolved resolution tenant)
        reviewId hnone (by simp [addedIds])

/-- The two runs are alike for a tenant, and the ids to come are new. -/
structure RunsAlike (tenantId : String) (up down : ServiceState rt) (rest : List StatusOp) :
    Prop where
  groups : GroupsAlike up down
  sessions : SessionsAlike tenantId up down
  reviews : ReviewsAlike tenantId up.reviews down.reviews
  once : (rest.flatMap givenIds).Nodup
  fresh : ∀ reviewId ∈ rest.flatMap givenIds, up.reviews.rows.get? reviewId = none

theorem RunsAlike.step (h : RunsAlike tenantId up down (op :: rest))
    (hop : CountsAlike host down tenantId op) :
    RunsAlike tenantId (applyStatusOp host true up op) (applyStatusOp host false down op) rest := by
  obtain ⟨hgroups, hsessions, hreviews, honce, hfresh⟩ := h
  rw [List.flatMap_cons, List.nodup_append] at honce
  rw [List.flatMap_cons] at hfresh
  refine ⟨hgroups.step, hsessions.step hgroups hop,
    hreviews.step hgroups.tenants (fun id hid => hfresh id (List.mem_append_left _ hid)) hop,
    honce.2.1, fun id hid => ?_⟩
  refine applyStatusOp_rows (hfresh id (List.mem_append_right _ hid)) fun hgiven => ?_
  exact honce.2.2 id hgiven id hid rfl

end

/-! ## Whole runs -/

/-- Every call meets the condition in the state in which it finds memory. -/
def CallsAlike (host : ReviewHost) (s : ServiceState rt) (tenantId : String)
    (ops : List StatusOp) : Prop :=
  ∀ before op after, ops = before ++ op :: after →
    CountsAlike host (runStatus host false s before) tenantId op

/-- A service that has just been started on empty tables. -/
structure Started (s : ServiceState rt) : Prop where
  reviews : NoReviews s.reviews
  groupRows : s.groupRows = []
  protectedGroups : s.protectedGroups = Dict.empty
  sessionRows : s.sessionRows = Dict.empty
  userSessions : s.userSessions = Dict.empty

theorem Started.runsAlike {s : ServiceState rt} {ops : List StatusOp} (h : Started s)
    (hids : (ops.flatMap givenIds).Nodup) (tenantId : String) : RunsAlike tenantId s s ops := by
  obtain ⟨⟨hrows, hcopies⟩, hgroupRows, hgroups, hsessionRows, hsessions⟩ := h
  have hof : ∀ tenantId, s.groupsOf tenantId = [] := by
    intro tenantId
    rw [ServiceState.groupsOf, hgroups]
    rfl
  have howner : ∀ sessionId, sessionOwner s sessionId = none := by
    intro sessionId
    rw [sessionOwner, hsessionRows]
    rfl
  have hrowOf : ∀ reviewId, s.reviews.rowOf reviewId tenantId = none := by
    intro reviewId
    rw [ReviewState.rowOf, hrows]
    rfl
  have hraw : ∀ reviewId, rawCopy s.reviews reviewId tenantId = none := by
    intro reviewId
    rw [rawCopy, hcopies]
    rfl
  refine ⟨⟨rfl, ?_, ?_, ?_, ?_⟩, ⟨?_, ?_⟩, ⟨?_, ?_, ?_⟩, hids, fun id _ => by rw [hrows]; rfl⟩
  · simp [hgroupRows, hof]
  · simp [hgroupRows]
  · simp [hof]
  · simp [hof, hgroups]
  · simp [howner, hsessions]
  · simp [howner]
  · simp [hrowOf]
  · simp [hrowOf, hraw]
  · simp [hraw]

theorem GroupsAlike.run {host : ReviewHost} {up down : ServiceState rt} {ops : List StatusOp}
    (h : GroupsAlike up down) :
    GroupsAlike (runStatus host true up ops) (runStatus host false down ops) := by
  induction ops generalizing up down with
  | nil => exact h
  | cons op rest ih => exact ih h.step

theorem RunsAlike.run {host : ReviewHost} {up down : ServiceState rt} {tenantId : String}
    {ops : List StatusOp} (h : RunsAlike tenantId up down ops)
    (hops : CallsAlike host down tenantId ops) :
    RunsAlike tenantId (runStatus host true up ops) (runStatus host false down ops) [] := by
  induction ops generalizing up down with
  | nil => exact h
  | cons op rest ih =>
      refine ih (h.step (hops [] op rest rfl)) fun before next after hsplit => ?_
      exact hops (op :: before) next after (congrArg (op :: ·) hsplit)

/-! ## Counts -/

section
variable {host : ReviewHost} {up down : ServiceState rt} {tenantId : String}

theorem GroupsAlike.count (h : GroupsAlike up down) :
    (up.groupRows.filter (·.2 = tenantId)).length = (down.groupsOf tenantId).length := by
  have hnodup : ((up.groupRows.filter (·.2 = tenantId)).map Prod.fst).Nodup := by
    refine List.Nodup.map_on (fun p hp q hq heq => ?_) (h.rowsNodup.filter _)
    obtain ⟨-, hp⟩ := List.mem_filter.mp hp
    obtain ⟨-, hq⟩ := List.mem_filter.mp hq
    exact Prod.ext heq ((of_decide_eq_true hp).trans (of_decide_eq_true hq).symm)
  have hmem : ∀ groupId, groupId ∈ (up.groupRows.filter (·.2 = tenantId)).map Prod.fst ↔
      groupId ∈ down.groupsOf tenantId := by
    intro groupId
    rw [← h.rows]
    simp
  have hperm := (List.perm_ext_iff_of_nodup hnodup (h.groupsNodup tenantId)).mpr hmem
  simpa using hperm.length_eq

theorem SessionsAlike.count (h : SessionsAlike tenantId up down) :
    (up.sessionRows.selected (·.2.tenantId = tenantId)).length =
      (down.userSessions.selected fun entry =>
        (sessionStart tenantId).toList.isPrefixOf entry.1.toList).length := by
  refine Dict.length_selected_eq fun sessionId => ?_
  have hclosed := h.closed sessionId
  rw [sessionOwner, Option.map_eq_some_iff, Option.isSome_iff_exists] at hclosed
  simpa [opensLike] using hclosed

theorem ReviewsAlike.count (h : ReviewsAlike tenantId up.reviews down.reviews) :
    (pendingRows up.reviews tenantId).length = (down.copiesOf tenantId).size := by
  have hall : pendingRows up.reviews tenantId = (rowsFor up.reviews tenantId).map Prod.snd := by
    rw [pendingRows_eq, List.filter_eq_self]
    intro row hrow
    obtain ⟨⟨reviewId, _⟩, hmem, rfl⟩ := List.mem_map.mp hrow
    exact decide_eq_true (h.pending reviewId _ (rowOf_eq_some_iff.mpr hmem))
  have hsize : (down.copiesOf tenantId).size =
      ((down.copiesOf tenantId).selected fun _ => true).length := by
    rw [Dict.selected, List.filter_true, Dict.size]
  rw [hall, List.length_map, hsize]
  refine Dict.length_selected_eq fun reviewId => ?_
  have hkept := h.kept reviewId
  rw [Option.isSome_iff_exists, Option.isSome_iff_exists] at hkept
  simpa [rowOf_eq_some_iff, rowsFor, Dict.mem_selected, rawCopy, ServiceState.copiesOf] using hkept

theorem RunsAlike.counts (h : RunsAlike tenantId up down []) :
    storedCounts up tenantId = memoryCounts down tenantId := by
  rw [storedCounts, memoryCounts, h.groups.count, h.sessions.count, h.reviews.count]

theorem GroupsAlike.mem_storedTenants (h : GroupsAlike up down) :
    tenantId ∈ storedTenants up ↔ tenantId ∈ down.protectedGroups.keys := by
  have hkeys : tenantId ∈ down.protectedGroups.keys ↔
      (down.protectedGroups.get? tenantId).isSome = true := by
    rw [Option.isSome_iff_ne_none, Ne, Dict.get?_eq_none_iff, not_not]
  have hrows : tenantId ∈ up.groupRows.map Prod.snd ↔ down.groupsOf tenantId ≠ [] := by
    rw [List.mem_map]
    constructor
    · rintro ⟨⟨groupId, _⟩, hmem, rfl⟩
      exact List.ne_nil_of_mem ((h.rows groupId _).mp hmem)
    · intro hne
      obtain ⟨groupId, hmem⟩ := List.exists_mem_of_ne_nil _ hne
      exact ⟨(groupId, tenantId), (h.rows groupId tenantId).mpr hmem, rfl⟩
  rw [storedTenants, List.mem_dedup, hkeys, h.known, hrows]

theorem get?_tenants {tenants : List String} {counts : String → StatusCounts}
    (hnodup : tenants.Nodup) (other : String) :
    (Dict.empty.update (tenants.map fun tenantId => (tenantId, counts tenantId))).get? other =
      if other ∈ tenants then some (counts other) else none := by
  have hkeys : ((tenants.map fun tenantId => (tenantId, counts tenantId)).map Prod.fst).Nodup := by
    rw [List.map_map]
    simpa [Function.comp_def] using hnodup
  ext found
  rw [Dict.get?_update_empty_iff hkeys]
  by_cases hmem : other ∈ tenants <;> simp [hmem, eq_comm]

/-- The tables that are not keyed by tenants of groups alone name none but these. -/
def TenantsAlike (s : ServiceState rt) : Prop :=
  ∀ tenantId ∈ s.reviews.pendingReviews.keys ++ s.userSessions.keys,
    tenantId ∈ s.protectedGroups.keys

theorem storedTenants_nodup (s : ServiceState rt) : (storedTenants s).Nodup := List.nodup_dedup _

theorem memoryTenants_nodup (s : ServiceState rt) : (memoryTenants s).Nodup :=
  (List.mergeSort_perm _ _).nodup_iff.mpr (List.nodup_dedup _)

theorem mem_memoryTenants (h : TenantsAlike down) :
    tenantId ∈ memoryTenants down ↔ tenantId ∈ down.protectedGroups.keys := by
  rw [memoryTenants, List.mem_mergeSort, List.mem_dedup, List.append_assoc, List.mem_append]
  exact ⟨fun hmem => hmem.elim id (h tenantId), Or.inl⟩

end

/-! ## The two reports -/

def SameReport : StatusReport → StatusReport → Prop
  | .tenant tenantId counts, .tenant tenantId' counts' => tenantId = tenantId' ∧ counts = counts'
  | .all tenants, .all tenants' => ∀ tenantId, tenants.get? tenantId = tenants'.get? tenantId
  | _, _ => False

/-- For one tenant its own calls and the session ids of the others matter; for all of them
every tenant with a group, and that there is no other. -/
def FallbackAlike (host : ReviewHost) (s : ServiceState rt) (ops : List StatusOp)
    (tenantId : String) : Prop :=
  if tenantId = "all" then
    TenantsAlike (runStatus host false s ops) ∧
      ∀ other ∈ (runStatus host false s ops).protectedGroups.keys, CallsAlike host s other ops
  else CallsAlike host s tenantId ops

def emptyService : ServiceState textPatterns where
  reviews := noReviews
  groupRows := []
  chatRows := []
  sessionRows := Dict.empty
  protectedGroups := Dict.empty
  adminChats := Dict.empty
  userSessions := Dict.empty

theorem emptyService_started : Started emptyService := ⟨⟨rfl, rfl⟩, rfl, rfl, rfl, rfl⟩

def protectedClient : List StatusOp :=
  [.register 5 none (some "client1"), .add ⟨Dict.empty, "r1", ""⟩ (some "client1")]

theorem protectedClient_alike (tenantId : String) :
    CallsAlike twoTenantHost emptyService tenantId protectedClient := by
  intro before op after hsplit
  have hmem : op ∈ protectedClient := hsplit ▸ List.mem_append_right _ List.mem_cons_self
  rcases List.mem_cons.mp hmem with rfl | hmem
  · trivial
  · obtain rfl := List.mem_singleton.mp hmem
    trivial

/-- One review, and it is resolved. -/
def resolvedClient : List StatusOp :=
  [.add ⟨Dict.empty, "r1", ""⟩ (some "client1"),
    .resolve "r1" ⟨"ban", .str "", ""⟩ (some "client1")]

end TruePresenceESE.Telegram
