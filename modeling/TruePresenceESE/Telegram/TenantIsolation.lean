import TruePresenceESE.Lib.Isolation
import TruePresenceESE.Lib.Selection
import TruePresenceESE.Telegram.Reviews

/-! # Tenant isolation of manual reviews

A tenant's view is made of its rows, its copies in memory, its adapter and the bot
tokens. Calls for other tenants leave it alone, and what a call for the tenant answers
and does is a function of it.
-/

namespace TruePresenceESE.Telegram

open PyValue JsonDict

variable {rt : TextRuntime}

/-! ## Calls -/

inductive ReviewOp where
  | add (database : Bool) (reviewData : JsonDict) (reviewId createdAt : String)
      (tenant : Option String)
  | list (database : Bool) (tenant : Option String)
  | get (database : Bool) (reviewId : String) (tenant : Option String)
  | resolve (database : Bool) (reviewId : String) (resolution : Resolution)
      (tenant : Option String)
  | execute (weather : ExecutionWeather) (reviewId : String) (tenant : Option String)

def ReviewOp.tenant : ReviewOp → Option String
  | .add _ _ _ _ tenant => tenant
  | .list _ tenant => tenant
  | .get _ _ tenant => tenant
  | .resolve _ _ _ tenant => tenant
  | .execute _ _ tenant => tenant

inductive ReviewAnswer where
  | added (result : Except String String)
  | listed (reviews : List JsonDict)
  | found (review : Option JsonDict)
  | resolved (result : Except String Bool)
  | executed (result : Except PyError (List ApiRequest × ReviewOutcome))

def answerReview (host : ReviewHost) (s : ReviewState rt) :
    ReviewOp → ReviewAnswer × ReviewState rt
  | .add database reviewData reviewId createdAt tenant =>
      let result := addPendingReview host s database reviewData reviewId createdAt tenant
      (.added result.1, result.2)
  | .list database tenant => (.listed (getPendingReviews host s database tenant), s)
  | .get database reviewId tenant => (.found (getReview host s database reviewId tenant), s)
  | .resolve database reviewId resolution tenant =>
      let result := resolveReview host s database reviewId resolution tenant
      (.resolved result.1, result.2)
  | .execute weather reviewId tenant =>
      (.executed (executeReviewDecision host s weather reviewId tenant), s)

/-- The tenant that a call is for. -/
def opTenant (host : ReviewHost) (op : ReviewOp) : String := tenantOf host op.tenant

/-- The reviews that a call returns, or executes. -/
def reviewsUsed (host : ReviewHost) (s : ReviewState rt) : ReviewOp → List JsonDict
  | .list database tenant => getPendingReviews host s database tenant
  | .get database reviewId tenant => (getReview host s database reviewId tenant).toList
  | .execute weather reviewId tenant =>
      match reviewToExecute host s weather.database reviewId (tenantOf host tenant) with
      | .ok found => found.toList
      | .error _ => []
  | .add _ _ _ _ _ => []
  | .resolve _ _ _ _ => []

/-! ## Views -/

def rowsFor (s : ReviewState rt) (tenantId : String) : List (String × ReviewRow) :=
  s.rows.selected fun entry => entry.2.tenantId = tenantId

/-- Two states that one tenant cannot tell apart. -/
structure SameFor (tenantId : String) (s t : ReviewState rt) : Prop where
  entries : s.tenants.entries tenantId = t.tenants.entries tenantId
  tokens : s.tokens = t.tokens
  rows : rowsFor s tenantId = rowsFor t tenantId
  copies : s.pendingReviews.get? tenantId = t.pendingReviews.get? tenantId

theorem SameFor.refl (tenantId : String) (s : ReviewState rt) : SameFor tenantId s s :=
  ⟨rfl, rfl, rfl, rfl⟩

theorem SameFor.trans {tenantId : String} {s t u : ReviewState rt} (h : SameFor tenantId s t)
    (h' : SameFor tenantId t u) : SameFor tenantId s u :=
  ⟨h.entries.trans h'.entries, h.tokens.trans h'.tokens, h.rows.trans h'.rows,
    h.copies.trans h'.copies⟩

section
variable {host : ReviewHost} {s t : ReviewState rt} {tenantId other reviewId : String}
  {database : Bool} {row : ReviewRow} {review : JsonDict} {resolution : Resolution}

theorem rowOf_eq_some_iff :
    s.rowOf reviewId tenantId = some row ↔ (reviewId, row) ∈ rowsFor s tenantId := by
  rw [ReviewState.rowOf, Option.filter_eq_some_iff, rowsFor, Dict.mem_selected]

theorem pendingRows_eq : pendingRows s tenantId =
    ((rowsFor s tenantId).map Prod.snd).filter (·.status = "pending") := by
  simp only [pendingRows, rowsFor, Dict.selected, Dict.values, List.filter_map,
    List.filter_filter, Function.comp_def, Bool.decide_and, Bool.and_comm]

/-! ## What a call reads -/

theorem SameFor.rowOf (h : SameFor tenantId s t) : s.rowOf reviewId tenantId =
    t.rowOf reviewId tenantId := by
  ext row
  rw [rowOf_eq_some_iff, rowOf_eq_some_iff, h.rows]

theorem SameFor.copyOf (h : SameFor tenantId s t) : s.copyOf reviewId tenantId =
    t.copyOf reviewId tenantId := by
  rw [ReviewState.copyOf, ReviewState.copyOf, h.copies]

theorem SameFor.pendingRows (h : SameFor tenantId s t) :
    pendingRows s tenantId = pendingRows t tenantId := by
  rw [pendingRows_eq, pendingRows_eq, h.rows]

theorem SameFor.pendingCopies (h : SameFor tenantId s t) :
    pendingCopies s tenantId = pendingCopies t tenantId := by
  rw [Telegram.pendingCopies, Telegram.pendingCopies, h.copies]

theorem SameFor.reviewToExecute (h : SameFor tenantId s t) :
    reviewToExecute host s database reviewId tenantId =
      reviewToExecute host t database reviewId tenantId := by
  rw [Telegram.reviewToExecute, Telegram.reviewToExecute, h.rowOf, h.copyOf]

/-! ## What a call writes -/

theorem SameFor.withTenants (h : SameFor tenantId s t) :
    SameFor tenantId
      { s with tenants := (ensureTenant host.configs s.tenants tenantId).2 }
      { t with tenants := (ensureTenant host.configs t.tenants tenantId).2 } :=
  { h with entries := (ensureTenant_congr h.entries).2 }

theorem sameFor_withTenants (hother : tenantId ≠ other) :
    SameFor other { s with tenants := (ensureTenant host.configs s.tenants tenantId).2 } s :=
  ⟨ensureTenant_entries_ne hother, rfl, rfl, rfl⟩

theorem SameFor.setCopy (h : SameFor tenantId s t) :
    SameFor tenantId (s.setCopy reviewId tenantId review) (t.setCopy reviewId tenantId review) := by
  refine { h with copies := ?_ }
  simp only [ReviewState.setCopy, Dict.get?_set_self, h.copies]

theorem sameFor_setCopy (hother : tenantId ≠ other) :
    SameFor other (s.setCopy reviewId tenantId review) s :=
  ⟨rfl, rfl, rfl, Dict.get?_set_ne _ _ hother⟩

/-- A row that is new, or the tenant's own. -/
def OwnOrNew (s : ReviewState rt) (reviewId tenantId : String) : Prop :=
  ∀ row, s.rows.get? reviewId = some row → row.tenantId = tenantId

theorem SameFor.setRow (h : SameFor tenantId s t) (hrow : row.tenantId = tenantId)
    (hs : OwnOrNew s reviewId tenantId) (ht : OwnOrNew t reviewId tenantId) :
    SameFor tenantId (s.setRow reviewId row) (t.setRow reviewId row) := by
  refine { h with rows := ?_ }
  have hrows := h.rows
  unfold rowsFor at hrows ⊢
  unfold ReviewState.setRow
  rw [Dict.selected_set_of_true (by simpa using hrow) (fun w hw => by simpa using hs w hw),
    Dict.selected_set_of_true (by simpa using hrow) (fun w hw => by simpa using ht w hw), hrows]

theorem sameFor_setRow (hrow : row.tenantId = tenantId) (hown : OwnOrNew s reviewId tenantId)
    (hother : tenantId ≠ other) : SameFor other (s.setRow reviewId row) s := by
  refine ⟨rfl, rfl, ?_, rfl⟩
  unfold rowsFor ReviewState.setRow
  exact Dict.selected_set_of_false (by simpa [hrow] using hother)
    (fun w hw => by simpa [hown w hw] using hother)

theorem ownOrNew_of_rowOf (h : s.rowOf reviewId tenantId = some row) :
    row.tenantId = tenantId ∧ OwnOrNew s reviewId tenantId := by
  obtain ⟨hget, htenant⟩ := Option.filter_eq_some_iff.mp h
  have htenant : row.tenantId = tenantId := by simpa using htenant
  refine ⟨htenant, fun found hfound => ?_⟩
  rw [hget, Option.some.injEq] at hfound
  exact hfound ▸ htenant

theorem SameFor.resolveCopy (h : SameFor tenantId s t) :
    (resolveCopy s reviewId tenantId resolution).1 =
        (resolveCopy t reviewId tenantId resolution).1 ∧
      SameFor tenantId (resolveCopy s reviewId tenantId resolution).2
        (resolveCopy t reviewId tenantId resolution).2 := by
  unfold Telegram.resolveCopy
  rw [h.copyOf]
  split
  · exact ⟨rfl, h⟩
  · exact ⟨rfl, h.setCopy⟩

theorem sameFor_resolveCopy (hother : tenantId ≠ other) :
    SameFor other (resolveCopy s reviewId tenantId resolution).2 s := by
  unfold resolveCopy
  split
  · exact .refl other s
  · exact sameFor_setCopy hother

/-- The update by review id is safe: the row was found under the tenant before. -/
theorem SameFor.resolveStored (h : SameFor tenantId s t) :
    (resolveStored host s database reviewId tenantId resolution).1 =
        (resolveStored host t database reviewId tenantId resolution).1 ∧
      SameFor tenantId (resolveStored host s database reviewId tenantId resolution).2
        (resolveStored host t database reviewId tenantId resolution).2 := by
  unfold Telegram.resolveStored
  split
  · have hsame := @SameFor.rowOf _ s t tenantId reviewId h
    cases hrow : s.rowOf reviewId tenantId with
    | none =>
        rw [← hsame, hrow]
        exact ⟨rfl, h⟩
    | some row =>
        rw [← hsame, hrow]
        dsimp only
        split
        · have howned := ownOrNew_of_rowOf hrow
          refine ⟨rfl, h.setRow howned.1 howned.2 (ownOrNew_of_rowOf (hsame ▸ hrow)).2⟩
        · exact h.resolveCopy
  · exact h.resolveCopy

theorem sameFor_resolveStored (hother : tenantId ≠ other) :
    SameFor other (resolveStored host s database reviewId tenantId resolution).2 s := by
  unfold resolveStored
  split
  · split
    · exact .refl other s
    · rename_i row hrow
      split
      · have howned := ownOrNew_of_rowOf hrow
        exact sameFor_setRow howned.1 howned.2 hother
      · exact sameFor_resolveCopy hother
  · exact sameFor_resolveCopy hother

theorem SameFor.insertReview (h : SameFor tenantId s t) (hs : s.rows.get? reviewId = none)
    (ht : t.rows.get? reviewId = none) :
    SameFor tenantId (insertReview s database reviewId tenantId review)
      (insertReview t database reviewId tenantId review) := by
  unfold Telegram.insertReview
  rw [hs, ht]
  split
  · refine h.setRow rfl (fun row hrow => ?_) (fun row hrow => ?_)
    · rw [hs] at hrow
      cases hrow
    · rw [ht] at hrow
      cases hrow
  · exact h

theorem sameFor_insertReview (hother : tenantId ≠ other) :
    SameFor other (insertReview s database reviewId tenantId review) s := by
  unfold insertReview
  split
  · rename_i hnew
    refine sameFor_setRow rfl (fun row hrow => ?_) hother
    rw [hrow] at hnew
    simp at hnew
  · exact .refl other s

end

/-! ## One call -/

/-- The ids of the reviews that are added. -/
def addedIds (ops : List ReviewOp) : List String :=
  ops.filterMap fun
    | .add _ _ reviewId _ _ => some reviewId
    | _ => none

/-- No id is given twice, and none that is stored. -/
def FreshIds (s : ReviewState rt) (ops : List ReviewOp) : Prop :=
  (addedIds ops).Nodup ∧ ∀ reviewId ∈ addedIds ops, s.rows.get? reviewId = none

section
variable {host : ReviewHost} {s t : ReviewState rt} {op : ReviewOp} {rest rest' : List ReviewOp}
  {other : String}

/-- A call for another tenant does not show. -/
theorem answerReview_hidden (hother : opTenant host op ≠ other) :
    SameFor other (answerReview host s op).2 s := by
  cases op with
  | add database reviewData reviewId createdAt tenant =>
      simp only [answerReview, addPendingReview]
      split
      · exact sameFor_withTenants hother
      · exact (sameFor_insertReview hother).trans
          ((sameFor_setCopy hother).trans (sameFor_withTenants hother))
  | list database tenant => exact .refl other s
  | get database reviewId tenant => exact .refl other s
  | resolve database reviewId resolution tenant =>
      simp only [answerReview, resolveReview]
      split
      · exact sameFor_withTenants hother
      · exact (sameFor_resolveStored hother).trans (sameFor_withTenants hother)
  | execute weather reviewId tenant => exact .refl other s

theorem SameFor.addPendingReview {database : Bool} {reviewData : JsonDict}
    {reviewId createdAt : String} {tenant : Option String} (h : SameFor (tenantOf host tenant) s t)
    (hs : s.rows.get? reviewId = none) (ht : t.rows.get? reviewId = none) :
    (addPendingReview host s database reviewData reviewId createdAt tenant).1 =
        (addPendingReview host t database reviewData reviewId createdAt tenant).1 ∧
      SameFor (tenantOf host tenant)
        (addPendingReview host s database reviewData reviewId createdAt tenant).2
        (addPendingReview host t database reviewData reviewId createdAt tenant).2 := by
  have hresult := (@ensureTenant_congr _ host.configs _ _ _ h.entries).1
  unfold Telegram.addPendingReview
  dsimp only
  cases hensured : (ensureTenant host.configs s.tenants (tenantOf host tenant)).1 with
  | error e =>
      rw [← hresult, hensured]
      exact ⟨rfl, h.withTenants⟩
  | ok _ =>
      rw [← hresult, hensured]
      exact ⟨rfl, h.withTenants.setCopy.insertReview hs ht⟩

theorem SameFor.resolveReview {database : Bool} {reviewId : String} {resolution : Resolution}
    {tenant : Option String} (h : SameFor (tenantOf host tenant) s t) :
    (resolveReview host s database reviewId resolution tenant).1 =
        (resolveReview host t database reviewId resolution tenant).1 ∧
      SameFor (tenantOf host tenant) (resolveReview host s database reviewId resolution tenant).2
        (resolveReview host t database reviewId resolution tenant).2 := by
  have hresult := (@ensureTenant_congr _ host.configs _ _ _ h.entries).1
  unfold Telegram.resolveReview
  dsimp only
  cases hensured : (ensureTenant host.configs s.tenants (tenantOf host tenant)).1 with
  | error e =>
      rw [← hresult, hensured]
      exact ⟨rfl, h.withTenants⟩
  | ok _ =>
      rw [← hresult, hensured]
      have hresolved := @SameFor.resolveStored _ host _ _ _ reviewId database resolution
        (@SameFor.withTenants _ host _ _ _ h)
      exact ⟨congrArg Except.ok hresolved.1, hresolved.2⟩

/-- A call answers and acts by what its tenant sees. -/
theorem answerReview_visible (hs : FreshIds s (op :: rest)) (ht : FreshIds t (op :: rest'))
    (h : SameFor (opTenant host op) s t) :
    (answerReview host s op).1 = (answerReview host t op).1 ∧
      SameFor (opTenant host op) (answerReview host s op).2 (answerReview host t op).2 := by
  cases op with
  | add database reviewData reviewId createdAt tenant =>
      obtain ⟨hresult, hsame⟩ := @SameFor.addPendingReview _ host s t database reviewData reviewId
        createdAt tenant h (hs.2 reviewId (by simp [addedIds])) (ht.2 reviewId (by simp [addedIds]))
      exact ⟨congrArg ReviewAnswer.added hresult, hsame⟩
  | list database tenant =>
      refine ⟨congrArg ReviewAnswer.listed ?_, h⟩
      have hview : SameFor (tenantOf host tenant) s t := h
      unfold getPendingReviews
      dsimp only
      rw [hview.pendingRows, hview.pendingCopies]
  | get database reviewId tenant =>
      refine ⟨congrArg ReviewAnswer.found ?_, h⟩
      have hview : SameFor (tenantOf host tenant) s t := h
      unfold getReview
      dsimp only
      rw [hview.rowOf, hview.copyOf]
  | resolve database reviewId resolution tenant =>
      obtain ⟨hresult, hsame⟩ := @SameFor.resolveReview _ host s t database reviewId resolution
        tenant h
      exact ⟨congrArg ReviewAnswer.resolved hresult, hsame⟩
  | execute weather reviewId tenant =>
      refine ⟨congrArg ReviewAnswer.executed ?_, h⟩
      have hview : SameFor (tenantOf host tenant) s t := h
      unfold executeReviewDecision executionToken
      dsimp only
      rw [hview.reviewToExecute, h.tokens]

/-- A call writes no row but under an id of its own or one that is there. -/
theorem answerReview_rows {reviewId : String} (hnone : s.rows.get? reviewId = none)
    (hid : reviewId ∉ addedIds [op]) : (answerReview host s op).2.rows.get? reviewId = none := by
  cases op with
  | add database reviewData added createdAt tenant =>
      have hne : added ≠ reviewId := fun heq => hid (by simp [addedIds, heq])
      simp only [answerReview, addPendingReview]
      split
      · exact hnone
      · unfold insertReview
        split
        · exact (Dict.get?_set_ne _ _ hne).trans hnone
        · exact hnone
  | resolve database resolved resolution tenant =>
      simp only [answerReview, resolveReview]
      split
      · exact hnone
      · have hcopy : ∀ u : ReviewState rt, u.rows = s.rows →
            (resolveCopy u resolved (tenantOf host tenant) resolution).2.rows.get? reviewId =
              none := by
          intro u hu
          unfold resolveCopy
          split
          · rw [hu, hnone]
          · exact (congrArg (Dict.get? · reviewId) hu).trans hnone
        unfold resolveStored
        split
        · split
          · exact hnone
          · rename_i row hrow
            split
            · refine (Dict.get?_set_ne _ _ ?_).trans hnone
              rintro rfl
              rw [ReviewState.rowOf, Option.filter_eq_some_iff] at hrow
              exact Option.some_ne_none _ (hrow.1.symm.trans hnone)
            · exact hcopy _ rfl
        · exact hcopy _ rfl
  | _ => exact hnone

theorem FreshIds.step (h : FreshIds s (op :: rest)) : FreshIds (answerReview host s op).2 rest := by
  have hsplit : addedIds (op :: rest) = addedIds [op] ++ addedIds rest := by
    unfold addedIds
    rw [← List.filterMap_append]
    rfl
  obtain ⟨hnodup, hnew⟩ := h
  rw [hsplit] at hnodup hnew
  rw [List.nodup_append] at hnodup
  refine ⟨hnodup.2.1, fun reviewId hid => ?_⟩
  refine answerReview_rows (hnew reviewId (List.mem_append_right _ hid)) fun hop => ?_
  exact hnodup.2.2 reviewId hop reviewId hid rfl

end

/-! ## Whose reviews a call uses -/

/-- Every stored review names the tenant it is stored for. -/
structure Tagged (s : ReviewState rt) : Prop where
  rows : ∀ reviewId row, s.rows.get? reviewId = some row →
    row.data.get "tenant_id" = .str row.tenantId
  copies : ∀ tenantId reviewId review,
    ((s.pendingReviews.get? tenantId).getD Dict.empty).get? reviewId = some review →
      review.get "tenant_id" = .str tenantId

section
variable {host : ReviewHost} {s : ReviewState rt} {op : ReviewOp} {tenantId reviewId : String}
  {row : ReviewRow} {review : JsonDict} {database : Bool}

theorem get_resolution (resolution : Resolution) (review : JsonDict) :
    (resolution.apply review).get "tenant_id" = review.get "tenant_id" := by
  simp [Resolution.apply, get_set]

theorem get_newReview (reviewData : JsonDict) (reviewId createdAt tenantId : String) :
    (newReview reviewData reviewId createdAt tenantId).get "tenant_id" = .str tenantId := by
  simp [newReview, get_set]

theorem Tagged.setRow (h : Tagged s) (hrow : row.data.get "tenant_id" = .str row.tenantId) :
    Tagged (s.setRow reviewId row) := by
  refine ⟨fun other found hfound => ?_, h.copies⟩
  rw [ReviewState.setRow, Dict.get?_set] at hfound
  split at hfound
  · exact Option.some.inj hfound ▸ hrow
  · exact h.rows other found hfound

theorem Tagged.setCopy (h : Tagged s) (hreview : review.get "tenant_id" = .str tenantId) :
    Tagged (s.setCopy reviewId tenantId review) := by
  refine ⟨h.rows, fun other id found hfound => ?_⟩
  rw [ReviewState.setCopy, Dict.get?_set] at hfound
  split at hfound
  · rename_i heq
    subst heq
    rw [Option.getD_some, Dict.get?_set] at hfound
    split at hfound
    · exact Option.some.inj hfound ▸ hreview
    · exact h.copies _ id found hfound
  · exact h.copies other id found hfound

theorem Tagged.copyOf (h : Tagged s) (hcopy : s.copyOf reviewId tenantId = some review) :
    review.get "tenant_id" = .str tenantId :=
  h.copies tenantId reviewId review (Option.filter_eq_some_iff.mp hcopy).1

theorem Tagged.rowOf (h : Tagged s) (hrow : s.rowOf reviewId tenantId = some row) :
    row.data.get "tenant_id" = .str tenantId := by
  rw [h.rows reviewId row (Option.filter_eq_some_iff.mp hrow).1, (ownOrNew_of_rowOf hrow).1]

theorem Tagged.resolveCopy (h : Tagged s) (resolution : Resolution) :
    Tagged (resolveCopy s reviewId tenantId resolution).2 := by
  unfold Telegram.resolveCopy
  split
  · exact h
  · rename_i review hcopy
    exact h.setCopy ((get_resolution resolution review).trans (h.copyOf hcopy))

theorem Tagged.resolveStored (h : Tagged s) (resolution : Resolution) :
    Tagged (resolveStored host s database reviewId tenantId resolution).2 := by
  unfold Telegram.resolveStored
  split
  · split
    · exact h
    · rename_i row hrow
      split
      · rename_i review hload
        rw [load_eq hload]
        refine h.setRow ?_
        rw [get_resolution]
        exact h.rows reviewId row (Option.filter_eq_some_iff.mp hrow).1
      · exact h.resolveCopy resolution
  · exact h.resolveCopy resolution

theorem Tagged.insertReview (h : Tagged s) (hreview : review.get "tenant_id" = .str tenantId) :
    Tagged (insertReview s database reviewId tenantId review) := by
  unfold Telegram.insertReview
  split
  · exact h.setRow hreview
  · exact h

theorem Tagged.step (h : Tagged s) (op : ReviewOp) : Tagged (answerReview host s op).2 := by
  have hensured : ∀ tenants : Tenants rt, Tagged { s with tenants := tenants } :=
    fun _ => ⟨h.rows, h.copies⟩
  cases op with
  | add database reviewData reviewId createdAt tenant =>
      simp only [answerReview, addPendingReview]
      split
      · exact hensured _
      · have hnew := get_newReview reviewData reviewId createdAt (tenantOf host tenant)
        exact ((hensured _).setCopy hnew).insertReview hnew
  | resolve database reviewId resolution tenant =>
      simp only [answerReview, resolveReview]
      split
      · exact hensured _
      · exact (hensured _).resolveStored resolution
  | _ => exact h

theorem Tagged.pendingCopies (h : Tagged s) :
    ∀ review ∈ pendingCopies s tenantId, review.get "tenant_id" = .str tenantId := by
  intro review hreview
  obtain ⟨hstored, -⟩ := List.mem_filter.mp hreview
  obtain ⟨⟨reviewId, _⟩, hmem, rfl⟩ := List.mem_map.mp hstored
  exact h.copies tenantId reviewId _ (Dict.get?_eq_some_iff.mpr hmem)

theorem Tagged.getPendingReviews (h : Tagged s) {tenant : Option String} :
    ∀ review ∈ getPendingReviews host s database tenant,
      review.get "tenant_id" = .str (tenantOf host tenant) := by
  intro review hreview
  unfold Telegram.getPendingReviews at hreview
  dsimp only at hreview
  split at hreview
  · split at hreview
    · rename_i reviews hloaded
      rw [loadRows_eq hloaded] at hreview
      obtain ⟨row, hrow, rfl⟩ := List.mem_map.mp hreview
      obtain ⟨hstored, htest⟩ := List.mem_filter.mp hrow
      obtain ⟨⟨reviewId, _⟩, hmem, rfl⟩ := List.mem_map.mp hstored
      have htenant := (of_decide_eq_true htest).1
      rw [h.rows reviewId _ (Dict.get?_eq_some_iff.mpr hmem), htenant]
    · exact h.pendingCopies review hreview
  · exact h.pendingCopies review hreview

/-- A call uses reviews of its own tenant only. -/
theorem Tagged.reviewsUsed (h : Tagged s) :
    ∀ review ∈ reviewsUsed host s op, review.get "tenant_id" = .str (opTenant host op) := by
  intro review hreview
  cases op with
  | list database tenant => exact h.getPendingReviews review hreview
  | get database reviewId tenant =>
      rw [Telegram.reviewsUsed, Option.mem_toList, getReview] at hreview
      split at hreview
      · split at hreview
        · cases hreview
        · rename_i row hrow
          split at hreview
          · rename_i loaded hload
            rw [← Option.some.inj hreview, load_eq hload]
            exact h.rowOf hrow
          · exact h.copyOf hreview
      · exact h.copyOf hreview
  | execute weather reviewId tenant =>
      rw [Telegram.reviewsUsed] at hreview
      split at hreview
      · rename_i found hfound
        rw [Option.mem_toList] at hreview
        subst hreview
        unfold reviewToExecute at hfound
        split at hfound
        · rename_i row hrow
          obtain ⟨loaded, hload, hsome⟩ := Fallible.map_eq_ok_iff.mp hfound
          cases hsome
          rw [load_eq hload]
          split at hrow
          · exact h.rowOf hrow
          · cases hrow
        · exact h.copyOf (Except.ok.inj hfound)
      · cases hreview
  | add database reviewData reviewId createdAt tenant => cases hreview
  | resolve database reviewId resolution tenant => cases hreview

end

/-! ## Runs -/

def isFor (host : ReviewHost) (tenantId : String) (op : ReviewOp) : Bool :=
  opTenant host op = tenantId

theorem review_unwinds (rt : TextRuntime) (host : ReviewHost) (tenantId : String) :
    Isolation.Unwinds (@answerReview rt host) (isFor host tenantId) FreshIds
      (SameFor tenantId) where
  valid_step := FreshIds.step
  visible_step := by
    intro s t op rest rest' hvisible hs ht hsame
    obtain rfl : opTenant host op = tenantId := of_decide_eq_true hvisible
    exact answerReview_visible hs ht hsame
  hidden_step := by
    intro s t op rest hhidden hs hsame
    exact (answerReview_hidden (of_decide_eq_false hhidden)).trans hsame

theorem FreshIds.filter {s : ReviewState rt} {ops : List ReviewOp} (h : FreshIds s ops)
    (test : ReviewOp → Bool) : FreshIds s (ops.filter test) := by
  have hsub : (addedIds (ops.filter test)).Sublist (addedIds ops) :=
    List.filter_sublist.filterMap _
  exact ⟨h.1.sublist hsub, fun reviewId hid => h.2 reviewId (hsub.subset hid)⟩

/-- However the calls of any tenants follow one another, and whichever of them find the
database up: a call uses reviews of its own tenant only and changes nothing that another
tenant sees, and a tenant gets the answers it gets without the others. -/
theorem reviews_isolated (host : ReviewHost) {s : ReviewState rt} {ops : List ReviewOp}
    (hs : Tagged s) (hids : FreshIds s ops) :
    (∀ before op after, ops = before ++ op :: after →
      let reached := Isolation.run (answerReview host) s before
      (∀ review ∈ reviewsUsed host reached op, review.get "tenant_id" = .str (opTenant host op)) ∧
        ∀ other ≠ opTenant host op, SameFor other (answerReview host reached op).2 reached) ∧
    ∀ tenantId,
      (Isolation.trace (answerReview host) s ops).filter (fun call => isFor host tenantId call.1) =
        Isolation.trace (answerReview host) s (ops.filter (isFor host tenantId)) := by
  refine ⟨fun before op after _ => ⟨?_, fun other hother => ?_⟩, fun tenantId => ?_⟩
  · have hreached : Tagged (Isolation.run (answerReview host) s before) :=
      Isolation.run_invariant (fun _ op h => h.step op) hs
    exact hreached.reviewsUsed
  · exact answerReview_hidden (Ne.symm hother)
  · exact (review_unwinds rt host tenantId).trace_filter hids (hids.filter _) (.refl tenantId s)

/-! ## Two tenants -/

def twoTenantHost : ReviewHost where
  configs := emptyEnvironment
  tokens := productionHost
  column := .text
  tenantId := "default"

def noReviews : ReviewState textPatterns where
  tenants := ⟨Dict.empty, Dict.empty, Dict.empty⟩
  tokens := Dict.empty
  rows := Dict.empty
  pendingReviews := Dict.empty

def twoTenantCalls : List ReviewOp :=
  [.add true Dict.empty "r1" "" (some "client1"), .add false Dict.empty "r2" "" (some "client2"),
    .resolve true "r1" ⟨"ban", .str "", ""⟩ (some "client2"), .list true (some "client1")]

theorem noReviews_tagged : Tagged noReviews :=
  ⟨(fun _ _ h => nomatch h), (fun _ _ _ h => nomatch h)⟩

theorem twoTenantCalls_fresh : FreshIds noReviews twoTenantCalls :=
  ⟨by decide, fun _ _ => rfl⟩

theorem reviews_isolated_two :
    (∀ before op after, twoTenantCalls = before ++ op :: after →
      let reached := Isolation.run (answerReview twoTenantHost) noReviews before
      (∀ review ∈ reviewsUsed twoTenantHost reached op,
          review.get "tenant_id" = .str (opTenant twoTenantHost op)) ∧
        ∀ other ≠ opTenant twoTenantHost op,
          SameFor other (answerReview twoTenantHost reached op).2 reached) ∧
    ∀ tenantId,
      (Isolation.trace (answerReview twoTenantHost) noReviews twoTenantCalls).filter
          (fun call => isFor twoTenantHost tenantId call.1) =
        Isolation.trace (answerReview twoTenantHost) noReviews
          (twoTenantCalls.filter (isFor twoTenantHost tenantId)) :=
  reviews_isolated twoTenantHost noReviews_tagged twoTenantCalls_fresh

end TruePresenceESE.Telegram
