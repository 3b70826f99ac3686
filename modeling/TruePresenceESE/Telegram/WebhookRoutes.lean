import TruePresenceESE.Lib.Isolation
import TruePresenceESE.Telegram.TokenConfinement
import TruePresenceESE.Telegram.WebhookServices

/-! # The two webhooks side by side

One process takes the updates of a tenant with the service of the module, the other with
one of the tenant's own. The own service has the adapter that the environment configures,
knows no administrators' chats, and nobody looks at its copies of reviews.
-/

namespace TruePresenceESE.Telegram.Webhook

open PyValue JsonDict

variable {rt : TextRuntime} {Update Window Engine : Type}

/-! ## One update -/

/-- Two services that take an update of the tenant alike. -/
structure SideBySide (host : ReviewHost) (tenantId : String) (q u : ServiceState rt) : Prop where
  left : FromEnvironment host.configs q.reviews.tenants tenantId
  right : FromEnvironment host.configs u.reviews.tenants tenantId
  tokens : q.reviews.tokens = u.reviews.tokens
  rows : q.reviews.rows = u.reviews.rows
  groupRows : q.groupRows = u.groupRows
  chatRows : q.chatRows = u.chatRows
  sessionRows : q.sessionRows = u.sessionRows
  sessions : q.userSessions = u.userSessions

section
variable {host : ReviewHost} {tenantId sessionId : String} {q u : ServiceState rt}
  {session : JsonDict} {asked : Option ReviewRequest}

theorem SideBySide.loadedAdapter (h : SideBySide host tenantId q u) :
    loadedAdapter host tenantId q = loadedAdapter host tenantId u := by
  obtain ⟨hleft, hadapter, -⟩ := h.left.ensure
  obtain ⟨hright, hadapter', -⟩ := h.right.ensure
  unfold Webhook.loadedAdapter
  dsimp only
  rw [hleft, hright]
  cases hbuild : buildAdapter rt (loadTenantConfig host.configs tenantId) with
  | ok adapter =>
      dsimp only [Except.map]
      rw [hadapter adapter hbuild, hadapter' adapter hbuild]
  | error e => rfl

theorem SideBySide.ensured (h : SideBySide host tenantId q u) :
    SideBySide host tenantId (ensuredService host tenantId q) (ensuredService host tenantId u) :=
  { h with left := h.left.ensure.2.2, right := h.right.ensure.2.2 }

theorem SideBySide.openSession (h : SideBySide host tenantId q u) :
    (openSession host q true sessionId tenantId).1 = (openSession host u true sessionId tenantId).1 ∧
      SideBySide host tenantId (openSession host q true sessionId tenantId).2
        (openSession host u true sessionId tenantId).2 := by
  unfold Telegram.openSession
  dsimp only
  rw [if_pos rfl, if_pos rfl, h.sessionRows]
  split
  · exact ⟨rfl, { h with sessionRows := rfl }⟩
  · split
    · exact ⟨rfl, h⟩
    · exact ⟨by rw [h.sessions], h⟩

theorem SideBySide.closeSession (h : SideBySide host tenantId q u) :
    SideBySide host tenantId (closeSession q true sessionId session)
      (closeSession u true sessionId session) := by
  unfold Telegram.closeSession
  rw [if_pos rfl, if_pos rfl, h.sessionRows]
  split
  · exact h
  · exact { h with sessionRows := rfl }

/-- The rows after a review is inserted; a row is only ever added. -/
def insertedRows (rows : Dict String ReviewRow) (reviewId tenantId : String) (review : JsonDict) :
    Dict String ReviewRow :=
  if (rows.get? reviewId).isNone then rows.set reviewId ⟨tenantId, review, "pending"⟩ else rows

theorem insertReview_eq (s : ReviewState rt) (reviewId : String) (review : JsonDict) :
    insertReview s true reviewId tenantId review =
      { s with rows := insertedRows s.rows reviewId tenantId review } := by
  unfold insertReview insertedRows
  simp only [true_and]
  split <;> rfl

theorem SideBySide.addPendingReview (h : SideBySide host tenantId q u) (review : ReviewRequest)
    (ht : tenantId ≠ "") :
    (addPendingReview host q.reviews true review.data review.reviewId review.createdAt
        (some tenantId)).1 = (addPendingReview host u.reviews true review.data review.reviewId
          review.createdAt (some tenantId)).1 ∧
      SideBySide host tenantId
        { q with
          reviews := (addPendingReview host q.reviews true review.data review.reviewId
            review.createdAt (some tenantId)).2 }
        { u with
          reviews := (addPendingReview host u.reviews true review.data review.reviewId
            review.createdAt (some tenantId)).2 } := by
  have htenant : tenantOf host (some tenantId) = tenantId := if_neg ht
  obtain ⟨hleft, -, hafter⟩ := h.left.ensure
  obtain ⟨hright, -, hafter'⟩ := h.right.ensure
  unfold Telegram.addPendingReview
  dsimp only
  rw [htenant, hleft, hright]
  cases (buildAdapter rt (loadTenantConfig host.configs tenantId)) with
  | error e => exact ⟨rfl, { h with left := hafter, right := hafter' }⟩
  | ok adapter =>
      simp only [Except.map, insertReview_eq]
      refine ⟨trivial, { h with left := hafter, right := hafter', rows := ?_ }⟩
      simp only [ReviewState.setCopy, h.rows]

theorem SideBySide.notifiedChats (h : SideBySide host tenantId q u)
    (hchats : q.chatsOf tenantId = u.chatsOf tenantId) :
    notifiedChats host q true tenantId = notifiedChats host u true tenantId := by
  have htoken : executionToken host q.reviews true tenantId =
      executionToken host u.reviews true tenantId := by
    rw [executionToken, executionToken, h.tokens]
  rw [Telegram.notifiedChats, Telegram.notifiedChats, htoken, hchats]

theorem SideBySide.handleManualReview (h : SideBySide host tenantId q u) (ht : tenantId ≠ "")
    (hchats : asked.isSome → q.chatsOf tenantId = u.chatsOf tenantId) :
    (handleManualReview host q true tenantId asked).1 =
        (handleManualReview host u true tenantId asked).1 ∧
      SideBySide host tenantId (handleManualReview host q true tenantId asked).2
        (handleManualReview host u true tenantId asked).2 := by
  cases asked with
  | none => exact ⟨rfl, h⟩
  | some review =>
      obtain ⟨hresult, hadded⟩ := h.addPendingReview review ht
      unfold Telegram.handleManualReview
      dsimp only
      rw [hresult]
      split
      · exact ⟨hadded.notifiedChats (hchats rfl), hadded⟩
      · exact ⟨rfl, hadded⟩

end

section
variable {e : Evaluation rt Update Window Engine} {host : ReviewHost} {tenantId : String}
  {q u : ServiceState rt} {windows windows' : Dict String Window} {engine : Engine}
  {update : Update}

/-! ## What an update writes -/

/-- Sessions are kept in their table while the database is up. -/
theorem openSession_tables (s : ServiceState rt) (sessionId : String) :
    ∃ sessionRows, (openSession host s true sessionId tenantId).2 =
      { s with sessionRows := sessionRows } := by
  unfold openSession
  dsimp only
  rw [if_pos rfl]
  split
  · exact ⟨_, rfl⟩
  · split <;> exact ⟨_, rfl⟩

theorem closeSession_tables (s : ServiceState rt) (sessionId : String) (session : JsonDict) :
    ∃ sessionRows, closeSession s true sessionId session =
      { s with sessionRows := sessionRows } := by
  unfold closeSession
  rw [if_pos rfl]
  split <;> exact ⟨_, rfl⟩

theorem processEvent_service (s : ServiceState rt) (event : ParsedEvent)
    (evaluate : JsonDict → Evaluated) :
    ∃ sessionRows, (processEvent host s true tenantId event evaluate).2 =
      (handleManualReview host { s with sessionRows := sessionRows } true tenantId
        (reviewOf (evaluate (openSession host s true (sessionIdOf tenantId event.userId)
          tenantId).1))).2 := by
  obtain ⟨opened, hopened⟩ := @openSession_tables _ host tenantId s
    (sessionIdOf tenantId event.userId)
  unfold processEvent
  dsimp only
  split
  · rename_i hraised
    rw [hraised]
    exact ⟨opened, hopened⟩
  · rename_i action review hacted
    rw [hacted]
    obtain ⟨closed, hclosed⟩ := closeSession_tables
      (openSession host s true (sessionIdOf tenantId event.userId) tenantId).2
      (sessionIdOf tenantId event.userId)
      (touchSession (openSession host s true (sessionIdOf tenantId event.userId) tenantId).1 event)
    refine ⟨closed, ?_⟩
    rw [hclosed, hopened]
    rfl

theorem SideBySide.evaluateWith (h : SideBySide host tenantId q u)
    (hwindow : windowOf e tenantId windows = windowOf e tenantId windows') :
    evaluateWith e host true tenantId update q windows engine =
      evaluateWith e host true tenantId update u windows' engine := by
  have htoken : executionToken host q.reviews true tenantId =
      executionToken host u.reviews true tenantId := by
    rw [executionToken, executionToken, h.tokens]
  funext adapter session
  rw [Webhook.evaluateWith, Webhook.evaluateWith, hwindow, htoken]

theorem SideBySide.evaluatedUpdate (h : SideBySide host tenantId q u)
    (hwindow : windowOf e tenantId windows = windowOf e tenantId windows') :
    evaluatedUpdate e host true tenantId update q windows engine =
      evaluatedUpdate e host true tenantId update u windows' engine := by
  have hopened : ∀ sessionId,
      (Telegram.openSession host (ensuredService host tenantId q) true sessionId tenantId).1 =
        (Telegram.openSession host (ensuredService host tenantId u) true sessionId tenantId).1 :=
    fun _ => h.ensured.openSession.1
  unfold Webhook.evaluatedUpdate
  rw [h.loadedAdapter, hwindow, @SideBySide.evaluateWith _ _ _ _ e _ _ _ _ _ _ engine update h hwindow]
  simp only [hopened]

theorem askedReview_none {e : Evaluation rt Update Window Engine}
    (h : evaluatedUpdate e host true tenantId update q windows engine = none) :
    askedReview e host true tenantId update q windows engine = none := by
  rw [askedReview, h]
  rfl

theorem evaluatedUpdate_event {adapter : TelegramAdapter rt} {event : ParsedEvent}
    (hadapter : loadedAdapter host tenantId q = some adapter)
    (hparsed : (e.parse adapter (windowOf e tenantId windows) update).1 = .ok (some event)) :
    evaluatedUpdate e host true tenantId update q windows engine =
      some (evaluateWith e host true tenantId update q windows engine adapter
        (openSession host (ensuredService host tenantId q) true
          (sessionIdOf tenantId event.userId) tenantId).1) := by
  unfold evaluatedUpdate
  rw [hadapter]
  dsimp only [bind, Option.bind]
  rw [hparsed]
  rfl

theorem evaluatedUpdate_none (hnone : ∀ adapter, loadedAdapter host tenantId q = some adapter →
      ∀ event, (e.parse adapter (windowOf e tenantId windows) update).1 ≠ .ok (some event)) :
    evaluatedUpdate e host true tenantId update q windows engine = none := by
  unfold evaluatedUpdate
  cases hadapter : loadedAdapter host tenantId q with
  | none => rfl
  | some adapter =>
      dsimp only [bind, Option.bind]
      split
      · rename_i event hparsed
        exact absurd hparsed (hnone adapter hadapter event)
      · rfl

/-- The service after an update is the loaded one with its sessions and with the review
that the update asks for. -/
theorem processUpdate_service (e : Evaluation rt Update Window Engine) (host : ReviewHost)
    (tenantId : String) (update : Update) (q : ServiceState rt) (windows : Dict String Window)
    (engine : Engine) :
    ∃ sessionRows, (processUpdate e host true tenantId update q windows engine).service =
      (handleManualReview host
        { ensuredService host tenantId q with sessionRows := sessionRows } true tenantId
        (askedReview e host true tenantId update q windows engine)).2 := by
  unfold processUpdate
  dsimp only
  cases hadapter : loadedAdapter host tenantId q with
  | none =>
      rw [askedReview_none (evaluatedUpdate_none fun adapter h => by rw [hadapter] at h; cases h)]
      exact ⟨_, rfl⟩
  | some adapter =>
      dsimp only
      cases hparsed : (e.parse adapter (windowOf e tenantId windows) update).1 with
      | error raised =>
          rw [askedReview_none (evaluatedUpdate_none fun found h event => by
            rw [← Option.some.inj (hadapter.symm.trans h), hparsed]
            exact fun heq => (nomatch heq))]
          exact ⟨_, rfl⟩
      | ok found =>
          cases found with
          | none =>
              rw [askedReview_none (evaluatedUpdate_none fun found h event => by
                rw [← Option.some.inj (hadapter.symm.trans h), hparsed]
                exact fun heq => (nomatch heq))]
              exact ⟨_, rfl⟩
          | some event =>
              rw [askedReview, evaluatedUpdate_event hadapter hparsed, Option.bind_some]
              exact processEvent_service _ event _

/-! ## Both after an update -/

theorem SideBySide.processEvent (h : SideBySide host tenantId q u) (ht : tenantId ≠ "")
    (event : ParsedEvent) (evaluate : JsonDict → Evaluated)
    (hchats : (reviewOf (evaluate (Telegram.openSession host q true
      (sessionIdOf tenantId event.userId) tenantId).1)).isSome →
        q.chatsOf tenantId = u.chatsOf tenantId) :
    (processEvent host q true tenantId event evaluate).1 =
        (processEvent host u true tenantId event evaluate).1 ∧
      SideBySide host tenantId (processEvent host q true tenantId event evaluate).2
        (processEvent host u true tenantId event evaluate).2 := by
  obtain ⟨hsession, hopened⟩ := @SideBySide.openSession _ _ _
    (sessionIdOf tenantId event.userId) _ _ h
  obtain ⟨openedQ, hopenedQ⟩ := @openSession_tables _ host tenantId q
    (sessionIdOf tenantId event.userId)
  obtain ⟨openedU, hopenedU⟩ := @openSession_tables _ host tenantId u
    (sessionIdOf tenantId event.userId)
  unfold Telegram.processEvent
  dsimp only
  rw [← hsession]
  split
  · exact ⟨rfl, hopened⟩
  · rename_i action review hacted
    have hclosed := @SideBySide.closeSession _ _ _ (sessionIdOf tenantId event.userId) _ _
      (touchSession (Telegram.openSession host q true (sessionIdOf tenantId event.userId)
        tenantId).1 event) hopened
    rw [hacted] at hchats
    obtain ⟨closedQ, hclosedQ⟩ := closeSession_tables
      (Telegram.openSession host q true (sessionIdOf tenantId event.userId) tenantId).2
      (sessionIdOf tenantId event.userId)
      (touchSession (Telegram.openSession host q true (sessionIdOf tenantId event.userId)
        tenantId).1 event)
    obtain ⟨closedU, hclosedU⟩ := closeSession_tables
      (Telegram.openSession host u true (sessionIdOf tenantId event.userId) tenantId).2
      (sessionIdOf tenantId event.userId)
      (touchSession (Telegram.openSession host q true (sessionIdOf tenantId event.userId)
        tenantId).1 event)
    have hreviewed := @SideBySide.handleManualReview _ _ _ _ _ review hclosed ht fun hsome => by
      rw [hclosedQ, hclosedU, hopenedQ, hopenedU]
      exact hchats hsome
    exact ⟨by rw [hreviewed.1], hreviewed.2⟩

/-- Services side by side that see the updates of the tenant through one window. -/
theorem SideBySide.processUpdate (h : SideBySide host tenantId q u) (ht : tenantId ≠ "")
    (hwindow : windowOf e tenantId windows = windowOf e tenantId windows')
    (hchats : (askedReview e host true tenantId update q windows engine).isSome →
      q.chatsOf tenantId = u.chatsOf tenantId) :
    let left := processUpdate e host true tenantId update q windows engine
    let right := processUpdate e host true tenantId update u windows' engine
    left.answer = right.answer ∧ left.engine = right.engine ∧
      windowOf e tenantId left.windows = windowOf e tenantId right.windows ∧
      SideBySide host tenantId left.service right.service := by
  have hevaluate := @SideBySide.evaluateWith _ _ _ _ e _ _ _ _ _ _ engine update h hwindow
  have hevaluated := @SideBySide.evaluatedUpdate _ _ _ _ e _ _ _ _ _ _ engine update h hwindow
  have hmoved : ∀ window, windowOf e tenantId (windows.set tenantId window) =
      windowOf e tenantId (windows'.set tenantId window) := by
    intro window
    rw [windowOf, windowOf, Dict.get?_set_self, Dict.get?_set_self]
  dsimp only
  unfold Webhook.processUpdate
  rw [← h.loadedAdapter, ← hwindow, ← hevaluate, ← hevaluated]
  dsimp only
  cases hadapter : Webhook.loadedAdapter host tenantId q with
  | none => exact ⟨rfl, rfl, hwindow, h.ensured⟩
  | some adapter =>
      dsimp only
      cases hparsed : (e.parse adapter (windowOf e tenantId windows) update).1 with
      | error raised => exact ⟨rfl, rfl, hmoved _, h.ensured⟩
      | ok found =>
          cases found with
          | none => exact ⟨rfl, rfl, hmoved _, h.ensured⟩
          | some event =>
              rw [askedReview, evaluatedUpdate_event hadapter hparsed, Option.bind_some] at hchats
              obtain ⟨hanswer, hafter⟩ := h.ensured.processEvent ht event
                (fun session => (Webhook.evaluateWith e host true tenantId update q windows engine
                  adapter session).1) hchats
              exact ⟨hanswer, rfl, hmoved _, hafter⟩

theorem insertedRows_get? {rows : Dict String ReviewRow} {added reviewId : String}
    {review : JsonDict} {row : ReviewRow} (h : rows.get? reviewId = some row) :
    (insertedRows rows added tenantId review).get? reviewId = some row := by
  unfold insertedRows
  split
  · rename_i hnew
    rw [Dict.get?_set_ne]
    · exact h
    · rintro rfl
      rw [h] at hnew
      cases hnew
  · exact h

theorem insertedRows_new {rows : Dict String ReviewRow} {added : String} {review : JsonDict}
    (h : rows.get? added = none) : (insertedRows rows added tenantId review).get? added =
      some ⟨tenantId, review, "pending"⟩ := by
  unfold insertedRows
  rw [h]
  exact Dict.get?_set_self _ _ _

/-- What a service is like after a review for the tenant was added. -/
structure Reviewed (tenantId : String) (asked : Option ReviewRequest) (before after : ServiceState rt) :
    Prop where
  sessions : after.userSessions = before.userSessions
  chats : after.adminChats = before.adminChats
  others : ∀ other ≠ tenantId,
    after.reviews.tenants.entries other = before.reviews.tenants.entries other
  copies : ∀ other, other ≠ tenantId ∨ asked = none →
    after.reviews.pendingReviews.get? other = before.reviews.pendingReviews.get? other
  kept : ∀ reviewId, (before.reviews.rowOf reviewId tenantId).isSome →
    (after.reviews.rowOf reviewId tenantId).isSome
  stored : ∀ reviewId, (after.reviews.copyOf reviewId tenantId).isSome →
    (before.reviews.copyOf reviewId tenantId).isSome ∨
      (after.reviews.rowOf reviewId tenantId).isSome

theorem Reviewed.refl (asked : Option ReviewRequest) (s : ServiceState rt) :
    Reviewed tenantId asked s s :=
  ⟨rfl, rfl, fun _ _ => rfl, fun _ _ => rfl, fun _ h => h, fun _ h => .inl h⟩

theorem handleManualReview_reviewed (s : ServiceState rt) (asked : Option ReviewRequest)
    (ht : tenantId ≠ "")
    (hfresh : ∀ review, asked = some review → s.reviews.rows.get? review.reviewId = none) :
    Reviewed tenantId asked s (handleManualReview host s true tenantId asked).2 := by
  cases asked with
  | none => exact .refl none s
  | some review =>
      have htenant : tenantOf host (some tenantId) = tenantId := if_neg ht
      have hnew := hfresh review rfl
      have hafter : (handleManualReview host s true tenantId (some review)).2 =
          { s with
            reviews := (addPendingReview host s.reviews true review.data review.reviewId
              review.createdAt (some tenantId)).2 } := by
        unfold handleManualReview
        dsimp only
        split <;> rfl
      rw [hafter]
      unfold addPendingReview
      dsimp only
      rw [htenant]
      split
      · exact { Reviewed.refl (some review) s with
          others := fun other hother => ensureTenant_entries_ne hother.symm }
      · rw [insertReview_eq]
        refine ⟨rfl, rfl, fun other hother => ensureTenant_entries_ne hother.symm,
          fun other hother => ?_, fun reviewId hrow => ?_, fun reviewId hcopy => ?_⟩
        · rcases hother with hother | hasked
          · exact Dict.get?_set_ne _ _ hother.symm
          · cases hasked
        · obtain ⟨row, hrow⟩ := Option.isSome_iff_exists.mp hrow
          obtain ⟨hget, htest⟩ := Option.filter_eq_some_iff.mp hrow
          refine Option.isSome_iff_exists.mpr ⟨row, Option.filter_eq_some_iff.mpr ⟨?_, htest⟩⟩
          exact insertedRows_get? hget
        · by_cases heq : review.reviewId = reviewId
          · subst heq
            have hinserted := @insertedRows_new tenantId s.reviews.rows _
              (newReview review.data review.reviewId review.createdAt tenantId) hnew
            exact .inr (Option.isSome_iff_exists.mpr ⟨_,
              Option.filter_eq_some_iff.mpr ⟨hinserted, by simp⟩⟩)
          · refine .inl ?_
            simp only [ReviewState.copyOf, ReviewState.setCopy, Dict.get?_set_self,
              Option.getD_some, Dict.get?_set_ne _ _ heq] at hcopy
            exact hcopy

theorem processUpdate_reviewed (e : Evaluation rt Update Window Engine) (update : Update)
    (q : ServiceState rt) (windows : Dict String Window) (engine : Engine) (ht : tenantId ≠ "")
    (hfresh : ∀ review, askedReview e host true tenantId update q windows engine = some review →
      q.reviews.rows.get? review.reviewId = none) :
    Reviewed tenantId (askedReview e host true tenantId update q windows engine) q
      (processUpdate e host true tenantId update q windows engine).service := by
  obtain ⟨sessionRows, hservice⟩ := processUpdate_service e host tenantId update q windows engine
  have hreviewed := @handleManualReview_reviewed _ host tenantId
    { ensuredService host tenantId q with sessionRows := sessionRows }
    (askedReview e host true tenantId update q windows engine) ht hfresh
  rw [← hservice] at hreviewed
  exact { hreviewed with
    others := fun other hother =>
      (hreviewed.others other hother).trans (ensureTenant_entries_ne hother.symm) }

end

/-! ## The two processes -/

/-- The service that the tenant has, or would be given, takes updates like that of the module. -/
structure OwnAlike (e : Evaluation rt Update Window Engine) (host : ReviewHost) (tenantId : String)
    (windows : Dict String Window) (own : OwnService rt Window) : Prop where
  loaded : FromEnvironment host.configs own.memory.tenants tenantId
  chats : own.memory.adminChats.get? tenantId = none
  sessions : own.memory.userSessions = Dict.empty
  window : windowOf e tenantId windows = windowOf e tenantId own.windows

structure RoutesAlike (e : Evaluation rt Update Window Engine) (host : ReviewHost)
    (tenantId : String) (q p : Process rt Window Engine) : Prop where
  services : ServicesAlike host tenantId q.service p.service
  engine : q.engine = p.engine
  own : ∀ own, serviceForTenant host p tenantId = .ok own →
    OwnAlike e host tenantId q.windows own
  unmade : ∀ error, serviceForTenant host p tenantId = .error error →
    ∀ adapter, buildAdapter rt (loadTenantConfig host.configs tenantId) ≠ .ok adapter

section
variable {e : Evaluation rt Update Window Engine} {host : ReviewHost} {tenantId : String}
  {q p : Process rt Window Engine} {own : OwnService rt Window} {update : Update}

theorem OwnAlike.sideBySide (h : OwnAlike e host tenantId q.windows own)
    (hservices : ServicesAlike host tenantId q.service p.service) :
    SideBySide host tenantId q.service (p.service.withMemory own.memory) where
  left := hservices.tenants.left
  right := h.loaded
  tokens := hservices.tokens
  rows := hservices.rows
  groupRows := hservices.groupRows
  chatRows := hservices.chatRows
  sessionRows := hservices.sessionRows
  sessions := hservices.sessions.trans h.sessions.symm

theorem serviceForTenant_set (p : Process rt Window Engine) (own : OwnService rt Window) :
    serviceForTenant host
      { p with tenantServices := p.tenantServices.set tenantId own } tenantId = .ok own := by
  unfold serviceForTenant
  rw [Dict.get?_set_self]

/-- A tenant that cannot be loaded is refused by both, and given no service. -/
theorem RoutesAlike.unloaded (h : RoutesAlike e host tenantId q p) {error : String}
    (herror : serviceForTenant host p tenantId = .error error) :
    let processed := processUpdate e host true tenantId update q.service q.windows q.engine
    processed.answer = .failed ∧
      RoutesAlike e host tenantId
        { q with
          service := processed.service, windows := processed.windows
          engine := processed.engine } p := by
  have hunbuilt := h.unmade error herror
  have hadapter : loadedAdapter host tenantId q.service = none := by
    obtain ⟨hresult, -, -⟩ := h.services.tenants.left.ensure
    unfold loadedAdapter
    dsimp only
    rw [hresult]
    cases hbuild : buildAdapter rt (loadTenantConfig host.configs tenantId) with
    | ok adapter => exact absurd hbuild (hunbuilt adapter)
    | error e => rfl
  dsimp only
  unfold processUpdate
  rw [hadapter]
  have htenants : TenantsAlike host.configs tenantId
      (ensureTenant host.configs q.service.reviews.tenants tenantId).2 p.service.reviews.tenants :=
    { h.services.tenants with
      others := fun other hother =>
        (ensureTenant_entries_ne hother.symm).trans (h.services.tenants.others other hother)
      left := h.services.tenants.left.ensure.2.2 }
  exact ⟨rfl, { h with services := { h.services with tenants := htenants } }⟩

theorem RoutesAlike.processed (h : RoutesAlike e host tenantId q p) (ht : tenantId ≠ "")
    (hown : serviceForTenant host p tenantId = .ok own)
    (hasked : ∀ review,
      askedReview e host true tenantId update q.service q.windows q.engine = some review →
        host.column = .text ∧ q.service.chatsOf tenantId = [] ∧
          q.service.reviews.rows.get? review.reviewId = none) :
    let processed := processUpdate e host true tenantId update q.service q.windows q.engine
    deliveredOf processed.answer = (processOwn e host true p tenantId update own).1 ∧
      RoutesAlike e host tenantId
        { q with
          service := processed.service, windows := processed.windows
          engine := processed.engine }
        (processOwn e host true p tenantId update own).2 := by
  have hownAlike := h.own own hown
  have hside := hownAlike.sideBySide h.services
  have hchats : (askedReview e host true tenantId update q.service q.windows q.engine).isSome →
      q.service.chatsOf tenantId = (p.service.withMemory own.memory).chatsOf tenantId := by
    intro hsome
    obtain ⟨review, hreview⟩ := Option.isSome_iff_exists.mp hsome
    have hnone : (p.service.withMemory own.memory).adminChats.get? tenantId = none := hownAlike.chats
    rw [(hasked review hreview).2.1, ServiceState.chatsOf, hnone]
    rfl
  have hsameAsked : askedReview e host true tenantId update q.service q.windows q.engine =
      askedReview e host true tenantId update (p.service.withMemory own.memory) own.windows
        q.engine := by
    rw [askedReview, askedReview, hside.evaluatedUpdate hownAlike.window]
  obtain ⟨hanswer, hengine, hwindow, hafter⟩ := hside.processUpdate ht hownAlike.window hchats
  have hq := processUpdate_reviewed e update q.service q.windows q.engine ht
    fun review hreview => (hasked review hreview).2.2
  have hu := processUpdate_reviewed e update (p.service.withMemory own.memory) own.windows
    q.engine ht fun review hreview => by
      have hrows : (p.service.withMemory own.memory).reviews.rows = q.service.reviews.rows :=
        hside.rows.symm
      rw [hrows]
      exact (hasked review (hsameAsked.trans hreview)).2.2
  dsimp only
  unfold processOwn
  dsimp only
  rw [← h.engine]
  refine ⟨congrArg deliveredOf hanswer, ?_⟩
  have hset := fun later : Process rt Window Engine =>
    @serviceForTenant_set _ _ _ host tenantId later
      ⟨(processUpdate e host true tenantId update (p.service.withMemory own.memory) own.windows
          q.engine).service.memory,
        (processUpdate e host true tenantId update (p.service.withMemory own.memory) own.windows
          q.engine).windows⟩
  refine ⟨⟨?_, hafter.tokens, hafter.rows, hafter.groupRows, hafter.chatRows, hafter.sessionRows,
    ?_, ?_, hq.sessions.trans h.services.sessions⟩, hengine, ?_, ?_⟩
  · exact ⟨fun other hother => (hq.others other hother).trans
      (h.services.tenants.others other hother), hafter.left, h.services.tenants.right⟩
  · intro other hother
    refine (hq.copies other ?_).trans (h.services.copies other hother)
    rcases hother with hother | hcolumn
    · exact .inl hother
    · right
      cases hreview : askedReview e host true tenantId update q.service q.windows q.engine with
      | none => rfl
      | some review =>
          rw [(hasked review hreview).1] at hcolumn
          cases hcolumn
  · intro reviewId hcopy
    rcases hcopy with hcopy | hcopy
    · rcases hq.stored reviewId hcopy with hold | hrow
      · exact hq.kept reviewId (h.services.stored reviewId (.inl hold))
      · exact hrow
    · exact hq.kept reviewId (h.services.stored reviewId (.inr hcopy))
  · intro later hlater
    rw [hset { p with service := _, engine := _ }] at hlater
    obtain rfl := Except.ok.inj hlater
    exact ⟨hafter.right, (congrArg (Dict.get? · tenantId) hu.chats).trans hownAlike.chats,
      hu.sessions.trans hownAlike.sessions, hwindow⟩
  · intro error herror
    rw [hset { p with service := _, engine := _ }] at herror
    cases herror

theorem tenantOfToken_eq {database : Bool} {botToken : String}
    (h : tenantOfToken host database p botToken = some tenantId) :
    tenantId ≠ "" ∧ (database = false → tenantId = "default") := by
  unfold tenantOfToken resolveTenantFromToken at h
  dsimp only at h
  split at h
  · rename_i found hfound
    cases h
    obtain ⟨hsome, hne⟩ := Option.filter_eq_some_iff.mp hfound
    refine ⟨of_decide_eq_true hne, fun hdown => ?_⟩
    rw [hdown] at hsome
    cases hsome
  · split at h
    · cases h
      exact ⟨by decide, fun _ => rfl⟩
    · cases h

theorem RoutesAlike.webhook (h : RoutesAlike e host tenantId q p) {botToken : String}
    {secret : Option String} (hdefault : tenantId ≠ "default")
    (htoken : tenantOfToken host true q botToken = some tenantId)
    (hasked : secretAccepted host.tokens tenantId secret = true → ∀ review,
      askedReview e host true tenantId update q.service q.windows q.engine = some review →
        host.column = .text ∧ q.service.chatsOf tenantId = [] ∧
          q.service.reviews.rows.get? review.reviewId = none) :
    (telegramWebhookForTenant e host true q tenantId secret update).1 =
        (telegramWebhook e host true p botToken secret update).1 ∧
      RoutesAlike e host tenantId
        (telegramWebhookForTenant e host true q tenantId secret update).2
        (telegramWebhook e host true p botToken secret update).2 := by
  have htoken' : tenantOfToken host true p botToken = some tenantId := by
    unfold tenantOfToken at htoken ⊢
    rw [← h.services.tokens]
    exact htoken
  obtain ⟨ht, -⟩ := tenantOfToken_eq htoken
  unfold telegramWebhookForTenant telegramWebhook
  rw [htoken']
  dsimp only
  rw [if_neg hdefault]
  cases hown : serviceForTenant host p tenantId with
  | error error =>
      dsimp only
      cases hsecret : secretAccepted host.tokens tenantId secret with
      | false => exact ⟨rfl, h⟩
      | true =>
          obtain ⟨hanswer, hafter⟩ := @RoutesAlike.unloaded _ _ _ _ _ _ _ _ _ update h error hown
          refine ⟨?_, hafter⟩
          simp only [if_true, hanswer]
          rfl
  | ok own =>
      dsimp only
      cases hsecret : secretAccepted host.tokens tenantId secret with
      | false =>
          refine ⟨rfl, { h with own := fun later hlater => ?_, unmade := fun error herror => ?_ }⟩
          · rw [if_neg (by decide), serviceForTenant_set] at hlater
            exact Except.ok.inj hlater ▸ h.own own hown
          · rw [if_neg (by decide), serviceForTenant_set] at herror
            cases herror
      | true => exact h.processed ht hown (hasked hsecret)

end

/-! ## Runs -/

inductive RouteStep (Update : Type) where
  | admin (weather : RequestWeather) (request : AdminRequest)
  | update (secret : Option String) (update : Update)

inductive RouteAnswer where
  | admin (answer : List ApiRequest × AdminResponse)
  | delivered (delivered : Delivered)

section
variable (e : Evaluation rt Update Window Engine) (host : AdminHost) (database : Bool)
  (tenantId botToken : String)

/-- A step of the process whose updates come in under the tenant. -/
def stepByTenant (q : Process rt Window Engine) :
    RouteStep Update → RouteAnswer × Process rt Window Engine
  | .admin weather request =>
      let handled := adminStep host database q weather request
      (.admin handled.1, handled.2)
  | .update secret update =>
      let delivered := telegramWebhookForTenant e host.reviews database q tenantId secret update
      (.delivered delivered.1, delivered.2)

/-- A step of the process whose updates come in under the bot token. -/
def stepByToken (p : Process rt Window Engine) :
    RouteStep Update → RouteAnswer × Process rt Window Engine
  | .admin weather request =>
      let handled := adminStep host database p weather request
      (.admin handled.1, handled.2)
  | .update secret update =>
      let delivered := telegramWebhook e host.reviews database p botToken secret update
      (.delivered delivered.1, delivered.2)

/-- The token is the tenant's. Unless the tenant is the default one, nobody configures it,
and a review that is asked for has a fresh id, is announced nowhere and can be loaded. -/
def RoutesAgree (q : Process rt Window Engine) : RouteStep Update → Prop
  | .admin _ request => tenantId = "default" ∨ ¬ Reconfigures host tenantId request
  | .update secret update =>
      tenantOfToken host.reviews database q botToken = some tenantId ∧
        (tenantId = "default" ∨
          (secretAccepted host.reviews.tokens tenantId secret = true → ∀ review,
            askedReview e host.reviews database tenantId update q.service q.windows q.engine =
                some review →
              host.reviews.column = .text ∧ q.service.chatsOf tenantId = [] ∧
                q.service.reviews.rows.get? review.reviewId = none))

end

/-- A process that has just come up, over whatever the database holds. -/
structure StartedProcess (host : ReviewHost) (p : Process rt Window Engine) : Prop where
  memory : newMemory rt host "default" = .ok p.service.memory
  tenantServices : p.tenantServices = Dict.empty
  windows : p.windows = Dict.empty

section
variable {e : Evaluation rt Update Window Engine} {host : AdminHost} {database : Bool}
  {tenantId botToken : String} {q p : Process rt Window Engine}

theorem newTenants_fromEnvironment {host : ConfigHost} {own : String} {tenants : Tenants rt}
    (h : newTenants host own = .ok tenants) (tenantId : String) :
    FromEnvironment host tenants tenantId := by
  obtain ⟨adapter, hbuilt, h⟩ := Fallible.bind_eq_ok_iff.mp h
  cases h
  constructor
  · intro config hget
    rw [Dict.get?_set] at hget
    split at hget
    · rename_i heq
      exact heq ▸ (Option.some.inj hget).symm
    · cases hget
  · intro found hget
    rw [Dict.get?_set] at hget
    split at hget
    · rename_i heq
      rw [← heq, hbuilt, Option.some.inj hget]
    · cases hget

theorem RoutesAlike.start (h : StartedProcess host.reviews p) (tenantId : String) :
    RoutesAlike e host.reviews tenantId p p := by
  obtain ⟨tenants, htenants, hmemory⟩ := Fallible.bind_eq_ok_iff.mp h.memory
  have hmemory := Except.ok.inj hmemory
  have hloaded : FromEnvironment host.reviews.configs p.service.reviews.tenants tenantId := by
    have heq : p.service.reviews.tenants = tenants := congrArg Memory.tenants hmemory.symm
    rw [heq]
    exact newTenants_fromEnvironment htenants tenantId
  have hcopies : p.service.reviews.pendingReviews = Dict.empty :=
    congrArg Memory.pendingReviews hmemory.symm
  have hnone : p.tenantServices.get? tenantId = none := by
    rw [h.tenantServices]
    rfl
  refine ⟨⟨⟨fun _ _ => rfl, hloaded, hloaded⟩, rfl, rfl, rfl, rfl, rfl, fun _ _ => rfl, ?_,
    congrArg Memory.userSessions hmemory.symm⟩, rfl, ?_, ?_⟩
  · intro reviewId hcopy
    simp [ReviewState.copyOf, hcopies] at hcopy
  · intro own hown
    unfold serviceForTenant at hown
    rw [hnone] at hown
    obtain ⟨memory, hmade, hown⟩ := Fallible.bind_eq_ok_iff.mp hown
    obtain ⟨made, hnew, hmade⟩ := Fallible.bind_eq_ok_iff.mp hmade
    cases hmade
    cases hown
    refine ⟨newTenants_fromEnvironment hnew tenantId, rfl, rfl, ?_⟩
    rw [h.windows]
  · intro error herror adapter hbuilt
    unfold serviceForTenant newMemory newTenants at herror
    rw [hnone] at herror
    dsimp only at herror
    rw [hbuilt] at herror
    cases herror

theorem RoutesAlike.step (h : RoutesAlike e host.reviews tenantId q p)
    (hdefault : tenantId ≠ "default") (op : RouteStep Update)
    (hop : RoutesAgree e host true tenantId botToken q op) :
    (stepByTenant e host true tenantId q op).1 = (stepByToken e host true botToken p op).1 ∧
      RoutesAlike e host.reviews tenantId (stepByTenant e host true tenantId q op).2
        (stepByToken e host true botToken p op).2 := by
  cases op with
  | admin weather request =>
      have hconfig := hop.resolve_left hdefault
      obtain ⟨hanswer, hafter⟩ := @ServicesAlike.handleAdminRequest _ _ _ _ _ weather request
        h.services hconfig
      refine ⟨congrArg RouteAnswer.admin hanswer, { h with services := hafter, own := ?_ }⟩
      intro own hown
      have hold := h.own own hown
      refine { hold with window := ?_ }
      rw [← hold.window]
      simp only [stepByTenant, adminStep]
      split
      · rename_i configured _ _ hconfigured
        have hne : configured ≠ tenantId := by
          rintro rfl
          exact hconfig (reconfigures_of_configured hconfigured)
        rw [windowOf, windowOf, Dict.get?_erase_ne _ hne]
      · rfl
  | update secret update =>
      obtain ⟨htoken, hasked⟩ := hop
      obtain ⟨hanswer, hafter⟩ := h.webhook hdefault htoken (hasked.resolve_left hdefault)
      exact ⟨congrArg RouteAnswer.delivered hanswer, hafter⟩

/-- The default tenant is served by one service, and without the database so is every
tenant whose token is known. -/
theorem stepByTenant_eq (hone : tenantId = "default" ∨ database = false)
    (op : RouteStep Update) (hop : RoutesAgree e host database tenantId botToken q op) :
    stepByTenant e host database tenantId q op = stepByToken e host database botToken q op := by
  cases op with
  | admin weather request => rfl
  | update secret update =>
      obtain ⟨htoken, -⟩ := hop
      have hdefault : tenantId = "default" := hone.elim id (tenantOfToken_eq htoken).2
      unfold stepByTenant stepByToken telegramWebhook
      dsimp only
      rw [htoken]
      dsimp only
      rw [if_pos hdefault]

/-- In every run in which each step meets the condition, the updates are acted on alike
and announced in the same chats, every request of an administrator is answered alike, and
the same reviews are there to be seen. -/
theorem webhook_routes_agree (e : Evaluation rt Update Window Engine) (host : AdminHost)
    (database : Bool) {tenantId botToken : String} {p : Process rt Window Engine}
    {ops : List (RouteStep Update)} (hp : StartedProcess host.reviews p)
    (hops : Isolation.AlongRun (stepByTenant e host database tenantId)
      (RoutesAgree e host database tenantId botToken) p ops) :
    Isolation.trace (stepByTenant e host database tenantId) p ops =
        Isolation.trace (stepByToken e host database botToken) p ops ∧
      let q := Isolation.run (stepByTenant e host database tenantId) p ops
      let p := Isolation.run (stepByToken e host database botToken) p ops
      (∀ tenant, getPendingReviews host.reviews q.service.reviews database tenant =
          getPendingReviews host.reviews p.service.reviews database tenant) ∧
        ∀ reviewId tenant, getReview host.reviews q.service.reviews database reviewId tenant =
          getReview host.reviews p.service.reviews database reviewId tenant := by
  by_cases hone : tenantId = "default" ∨ database = false
  · obtain ⟨htrace, hrun⟩ := Isolation.trace_eq_of_related
      (fun q p op (heq : q = p) hop => by
        subst heq
        rw [stepByTenant_eq hone op hop]
        exact ⟨rfl, rfl⟩) rfl hops
    refine ⟨htrace, ?_⟩
    dsimp only
    rw [hrun]
    exact ⟨fun _ => rfl, fun _ _ => rfl⟩
  · rw [not_or, Bool.not_eq_false] at hone
    obtain ⟨hdefault, rfl⟩ := hone
    obtain ⟨htrace, hrun⟩ := Isolation.trace_eq_of_related
      (fun q p op (h : RoutesAlike e host.reviews tenantId q p) hop => h.step hdefault op hop)
      (RoutesAlike.start hp tenantId) hops
    exact ⟨htrace, fun tenant => hrun.services.getPendingReviews tenant,
      fun reviewId tenant => hrun.services.getReview tenant⟩

end

/-! ## A burst of media -/

/-- Patterns that all compile, and match nothing. -/
def anyPatterns : TextRuntime where
  Pattern := Unit
  Match := Unit
  lower := id
  compile := fun _ => .ok ()
  findall := fun _ _ => []

/-- The bot token of the client is stored, and it decrypts. -/
def botHost : AdminHost :=
  { clientHost with
    reviews := { clientHost.reviews with tokens := { clientTokens with fernetDecrypt := some } } }

/-- The adapter counts messages with media; the fourth is escalated. An update is the id
that its review would have. -/
def mediaBurst : Evaluation anyPatterns String ℕ Unit where
  newWindow := 0
  parse := fun _ count _ => (.ok (some ⟨"5", .str "message", .null⟩), count + 1)
  evaluate := fun _ count _ _ _ reviewId _ =>
    if count < 3 then (.acted (.str "allow") none, ())
    else (.acted (.str "mandatory_safety_escalation") (some ⟨Dict.empty, reviewId, ""⟩), ())

def botProcess : Process anyPatterns ℕ Unit where
  service :=
    let stored : ServiceState anyPatterns :=
      { blankService anyPatterns with
        reviews := { (blankService anyPatterns).reviews with
          tokens := Dict.empty.set "client1" "123:abc" } }
    match newMemory anyPatterns botHost.reviews "default" with
    | .ok memory => stored.withMemory memory
    | .error _ => stored
  windows := Dict.empty
  tenantServices := Dict.empty
  engine := ()

theorem botProcess_started : StartedProcess botHost.reviews botProcess := by
  have hstarts : (newMemory anyPatterns botHost.reviews "default").isOk = true := by
    decide +kernel
  refine ⟨?_, rfl, rfl⟩
  unfold botProcess
  cases hmemory : newMemory anyPatterns botHost.reviews "default" with
  | error error => rw [hmemory] at hstarts; cases hstarts
  | ok memory => rfl

def quietWeather : RequestWeather where
  http := fun _ => .response 200 "\x7b\x7d"
  loads := fun _ => none
  now := 0
  resolvedAt := ""

def mediaUpdates : List (RouteStep String) :=
  [.update none "1", .update none "2", .update none "3", .update none "4"]

def listedBurst : List (RouteStep String) :=
  mediaUpdates ++ [.admin quietWeather (clientRequest .getAllReviews)]

/-- The condition on a step, as it is looked up. -/
def agreesOn (q : Process anyPatterns ℕ Unit) : RouteStep String → Bool
  | .admin _ request =>
      match request.route with
      | .configureDetectors _ => false
      | _ => true
  | .update _ reviewId =>
      decide (tenantOfToken botHost.reviews true q "123:abc" = some "client1") &&
        (askedReview mediaBurst botHost.reviews true "client1" reviewId q.service q.windows
          q.engine).all fun review =>
            (q.service.chatsOf "client1").isEmpty &&
              (q.service.reviews.rows.get? review.reviewId).isNone

def agreesAlong : Process anyPatterns ℕ Unit → List (RouteStep String) → Bool
  | _, [] => true
  | q, op :: rest => agreesOn q op &&
      agreesAlong (stepByTenant mediaBurst botHost true "client1" q op).2 rest

theorem routesAgree_of_agreesOn {q : Process anyPatterns ℕ Unit} {op : RouteStep String}
    (h : agreesOn q op = true) :
    RoutesAgree mediaBurst botHost true "client1" "123:abc" q op := by
  cases op with
  | admin weather request =>
      refine .inr ?_
      rintro ⟨-, -, config, hroute, -⟩
      rw [agreesOn, hroute] at h
      cases h
  | update secret reviewId =>
      rw [agreesOn, Bool.and_eq_true, decide_eq_true_eq, Option.all_eq_true] at h
      refine ⟨h.1, .inr fun _ review hasked => ?_⟩
      have hreview := h.2 review hasked
      rw [Bool.and_eq_true, List.isEmpty_iff, Option.isNone_iff_eq_none] at hreview
      exact ⟨rfl, hreview⟩

theorem alongRun_of_agreesAlong {q : Process anyPatterns ℕ Unit} {ops : List (RouteStep String)}
    (h : agreesAlong q ops = true) :
    Isolation.AlongRun (stepByTenant mediaBurst botHost true "client1")
      (RoutesAgree mediaBurst botHost true "client1" "123:abc") q ops := by
  induction ops generalizing q with
  | nil => trivial
  | cons op rest ih =>
      rw [agreesAlong, Bool.and_eq_true] at h
      exact ⟨routesAgree_of_agreesOn h.1, ih h.2⟩

theorem webhook_routes_agree_burst :
    Isolation.trace (stepByTenant mediaBurst botHost true "client1") botProcess listedBurst =
        Isolation.trace (stepByToken mediaBurst botHost true "123:abc") botProcess listedBurst ∧
      let q := Isolation.run (stepByTenant mediaBurst botHost true "client1") botProcess listedBurst
      let p := Isolation.run (stepByToken mediaBurst botHost true "123:abc") botProcess listedBurst
      (∀ tenant, getPendingReviews botHost.reviews q.service.reviews true tenant =
          getPendingReviews botHost.reviews p.service.reviews true tenant) ∧
        ∀ reviewId tenant, getReview botHost.reviews q.service.reviews true reviewId tenant =
          getReview botHost.reviews p.service.reviews true reviewId tenant :=
  webhook_routes_agree mediaBurst botHost true botProcess_started
    (alongRun_of_agreesAlong (by decide +kernel))

/-- The group is protected with a chat to announce reviews in. -/
def announcedBurst : List (RouteStep String) :=
  .admin quietWeather (clientRequest (.protectGroup 5 (some 7))) :: mediaUpdates

def announcedChats : List (RouteStep String × RouteAnswer) → List ℤ
  | [] => []
  | (_, .delivered (.acted _ notified)) :: rest => notified ++ announcedChats rest
  | _ :: rest => announcedChats rest

/-- Under the token, the escalation is announced to nobody. -/
theorem announcement_lost :
    Isolation.trace (stepByTenant mediaBurst botHost true "client1") botProcess announcedBurst ≠
      Isolation.trace (stepByToken mediaBurst botHost true "123:abc") botProcess
        announcedBurst := by
  have hannounced : announcedChats (Isolation.trace (stepByTenant mediaBurst botHost true "client1")
      botProcess announcedBurst) = [7] := by decide +kernel
  have hlost : announcedChats (Isolation.trace (stepByToken mediaBurst botHost true "123:abc")
      botProcess announcedBurst) = [] := by decide +kernel
  intro h
  rw [h, hlost] at hannounced
  cases hannounced

end TruePresenceESE.Telegram.Webhook
