import TruePresenceESE.Telegram.Response

/-! # The ban cooldown over whole runs

The table is written under the user id and read under tenant and user id
together. Started empty it never holds a key that is read, so every reply is
the one an empty table gives.
-/

namespace TruePresenceESE.Telegram

/-- One call of `buildResponse`, with the clock value it reads. -/
structure Call where
  evaluation : EvaluationResult
  tenantId : Option String
  userId : Option ℤ
  now : ℚ

def respond (py : Interpreter) (bans : BanActions) (call : Call) : TelegramAction × BanActions :=
  buildResponse py bans call.now call.evaluation call.tenantId call.userId

/-- The calls of a run with what each returns. -/
def replies (py : Interpreter) : BanActions → List Call → List (Call × TelegramAction)
  | _, [] => []
  | bans, call :: rest =>
      (call, (respond py bans call).1) :: replies py (respond py bans call).2 rest

def bansAfter (py : Interpreter) (bans : BanActions) (calls : List Call) : BanActions :=
  calls.foldl (fun bans call => (respond py bans call).2) bans

def samePerson (c d : Call) : Prop := c.tenantId = d.tenantId ∧ c.userId = d.userId

instance (c d : Call) : Decidable (samePerson c d) := inferInstanceAs (Decidable (_ ∧ _))

/-- After a ban no later call for the same person bans within the cooldown. -/
def CooldownKept (run : List (Call × TelegramAction)) : Prop :=
  run.Pairwise fun first later =>
    first.1.userId ≠ none → samePerson first.1 later.1 → first.2.action = "ban" →
      later.1.now < first.1.now + banCooldownSeconds → later.2.action ≠ "ban"

/-- Without a call that bans, everyone else gets the same replies. -/
def BansIsolated (py : Interpreter) (calls : List Call) : Prop :=
  ∀ before call after, calls = before ++ call :: after →
    let bans := bansAfter py Dict.empty before
    (respond py bans call).1.action = "ban" →
      (replies py (respond py bans call).2 after).filter (fun r => ¬samePerson call r.1) =
        (replies py bans after).filter (fun r => ¬samePerson call r.1)

/-! ## The keys in the table -/

def NoTextKey (bans : BanActions) : Prop := ∀ s, bans.get? (.text s) = none

theorem noTextKey_empty : NoTextKey Dict.empty := fun _ => rfl

theorem NoTextKey.recordBan {bans : BanActions} (h : NoTextKey bans) (now : ℚ)
    (userId : Option ℤ) : NoTextKey (recordBan bans now userId) := by
  intro s
  cases userId with
  | none => exact h s
  | some n =>
      have hne : BanKey.number n ≠ .text s := by simp
      exact (Dict.get?_set_ne bans now hne).trans (h s)

theorem NoTextKey.respond {bans : BanActions} (h : NoTextKey bans) (py : Interpreter)
    (call : Call) : NoTextKey (respond py bans call).2 := by
  have hrecords : RecordsBan bans call.now call.userId (Telegram.respond py bans call) :=
    buildResponse_records
  rw [hrecords]
  split
  · exact h.recordBan call.now call.userId
  · exact h

theorem NoTextKey.bansAfter {bans : BanActions} (h : NoTextKey bans) (py : Interpreter)
    (calls : List Call) : NoTextKey (bansAfter py bans calls) := by
  induction calls generalizing bans with
  | nil => exact h
  | cons call rest ih => exact ih (h.respond py call)

/-! ## Replies -/

theorem isRateLimited_of_noTextKey {bans : BanActions} (h : NoTextKey bans) (call : Call) :
    isRateLimited bans call.now call.tenantId call.userId =
      isRateLimited Dict.empty call.now call.tenantId call.userId := by
  cases huser : call.userId with
  | none => rfl
  | some userId => simp [isRateLimited, banKey, h _]

theorem applyRules_fst (py : Interpreter) (bans bans' : BanActions) (call : Call) :
    (applyRules py bans call.now call.evaluation call.tenantId call.userId).1 =
      (applyRules py bans' call.now call.evaluation call.tenantId call.userId).1 := by
  unfold applyRules
  cases firstRule call.evaluation <;> rfl

theorem respond_of_noTextKey {bans : BanActions} (h : NoTextKey bans) (py : Interpreter)
    (call : Call) : (respond py bans call).1 = (respond py Dict.empty call).1 := by
  unfold respond buildResponse
  rw [isRateLimited_of_noTextKey h call]
  split
  · rfl
  · exact applyRules_fst py bans Dict.empty call

theorem replies_of_noTextKey {bans : BanActions} (h : NoTextKey bans) (py : Interpreter)
    (calls : List Call) :
    replies py bans calls = calls.map fun call => (call, (respond py Dict.empty call).1) := by
  induction calls generalizing bans with
  | nil => rfl
  | cons call rest ih =>
      rw [replies, List.map_cons, respond_of_noTextKey h py call, ih (h.respond py call)]

/-- The call is for a ban, and late enough for the clock alone not to limit it:
a missing entry reads as a ban at time zero. -/
def BanDue (call : Call) : Prop :=
  determinesBan call.evaluation ∧ banCooldownSeconds ≤ call.now

theorem respond_empty_ban_iff {py : Interpreter} {call : Call} (huser : call.userId ≠ none) :
    (respond py Dict.empty call).1.action = "ban" ↔ BanDue call := by
  obtain ⟨userId, huserId⟩ := Option.ne_none_iff_exists'.mp huser
  have hlimited : isRateLimited Dict.empty call.now call.tenantId call.userId = true ↔
      call.now < banCooldownSeconds := by
    simp [isRateLimited, huserId]
  unfold respond buildResponse BanDue
  split
  · rename_i h
    have hlow := hlimited.mp h
    simp [not_le.mpr hlow]
  · rename_i h
    have hhigh : banCooldownSeconds ≤ call.now := not_lt.mp fun hlow => h (hlimited.mpr hlow)
    rw [applyRules_ban_iff]
    simp [hhigh]

/-! ## The law -/

theorem bansIsolated (py : Interpreter) (calls : List Call) : BansIsolated py calls := by
  intro before call after _ bans _
  have hbans : NoTextKey bans := noTextKey_empty.bansAfter py before
  rw [replies_of_noTextKey hbans, replies_of_noTextKey (hbans.respond py call)]

/-- Bans keep their cooldown and leave others alone exactly when no person is
due for two bans within the cooldown in the first place. -/
theorem banCooldown_iff (py : Interpreter) (calls : List Call) :
    CooldownKept (replies py Dict.empty calls) ∧ BansIsolated py calls ↔
      calls.Pairwise fun first later =>
        first.userId ≠ none → samePerson first later →
          later.now < first.now + banCooldownSeconds → ¬(BanDue first ∧ BanDue later) := by
  rw [and_iff_left (bansIsolated py calls), CooldownKept,
    replies_of_noTextKey noTextKey_empty, List.pairwise_map]
  refine List.Pairwise.iff fun first later => ?_
  refine forall_congr' fun huser => forall_congr' fun hsame => ?_
  rw [respond_empty_ban_iff huser, ne_eq, respond_empty_ban_iff (hsame.2 ▸ huser)]
  tauto

def ejected : EvaluationResult :=
  { state := some "EJECT", decision := some "block", confidence := some 0.9,
    humanProbability := some 0.1, threatCategories := some [], reasonCodes := some [],
    riskFactors := some [], blockReason := none }

/-- One user of one tenant, ejected again ten seconds later. -/
def ejectedTwice : List Call :=
  [⟨ejected, some "default", some 7, 1000⟩, ⟨ejected, some "default", some 7, 1010⟩]

theorem ban_repeated_within_cooldown :
    ¬∀ (py : Interpreter) (calls : List Call), (calls.Pairwise fun c d => c.now ≤ d.now) →
      CooldownKept (replies py Dict.empty calls) := by
  intro hkept
  have hdue : ∀ call ∈ ejectedTwice, BanDue call := by
    simp [ejectedTwice, BanDue, determinesBan, hasFactor, ejected]
    norm_num [banCooldownSeconds]
  have hban : ∀ py, ∀ call ∈ ejectedTwice, (respond py Dict.empty call).1.action = "ban" := by
    intro py call hmem
    refine (respond_empty_ban_iff ?_).mpr (hdue call hmem)
    revert call
    simp [ejectedTwice]
  let py : Interpreter := ⟨fun _ => none, fun _ => "", fun _ => "", Char.isAlphanum, id, rfl⟩
  have hrun := hkept py ejectedTwice (by simp [ejectedTwice]; norm_num)
  rw [CooldownKept, replies_of_noTextKey noTextKey_empty, List.pairwise_map] at hrun
  refine (List.pairwise_cons.mp hrun).1 _ List.mem_cons_self (by simp) ⟨rfl, rfl⟩
    (hban py _ (by simp [ejectedTwice])) ?_ (hban py _ (by simp [ejectedTwice]))
  norm_num [banCooldownSeconds]

end TruePresenceESE.Telegram
