import TruePresenceESE.Telegram.Dispatch

/-! # Rewriting a removal

A ban or kick survives the community recommendation and the enforcing mode, which
change nothing but an action to allow. A safety escalation replaces it by a review
that is never dispatched.
-/

namespace TruePresenceESE.Telegram

open PyValue

def removals : List String := ["ban", "kick"]

/-- The three stages of `process_update` in their order. -/
def rewriteAction (rt : BotRuntime) (tenantId : String) (action : TelegramAction) (event : Json) :
    Except PyError ActionRecord := do
  let escalated ← applyTelegramSafetyEscalation rt (modelDump action) event
  let upgraded ← applyTelegramCommunityRecommendation rt escalated event
  return applyEnforcementMode (enforcementModeForTenant rt tenantId) upgraded

/-- What `process_update` executes is the rewritten action of the guard adapter. -/
theorem processUpdate_rewrites {rt : BotRuntime} {bans : BanActions} {update event : Json}
    {tenantId : String} {decision : Decision} {processed : Processed}
    (h : processUpdate rt bans update (some event) tenantId decision = .ok (some processed)) :
    ∃ action, rewriteAction rt tenantId (enforce rt bans decision) event = .ok action ∧
      executeAction rt action update tenantId decision =
        .ok (processed.posts, processed.execution) := by
  obtain ⟨escalated, hescalated, h⟩ := Fallible.bind_eq_ok_iff.mp h
  obtain ⟨upgraded, hupgraded, h⟩ := Fallible.bind_eq_ok_iff.mp h
  obtain ⟨card, -, h⟩ := Fallible.bind_eq_ok_iff.mp h
  obtain ⟨⟨posts, execution⟩, hexecute, h⟩ := Fallible.bind_eq_ok_iff.mp h
  cases h
  exact ⟨_, by rw [rewriteAction, hescalated]; simp [bind, Except.bind, hupgraded]; rfl, hexecute⟩

/-! ## Each stage -/

/-- The safety context has no reason codes, or recommends no review. -/
def NoReview (safety : Json) : Prop :=
  ∃ codes, reasonCodesOf safety = .ok codes ∧
    (codes = [] ∨ recommendedSafetyAction safety = .ok none)

/-- The community context can be read, along with what it adds to the action. -/
def CommunityReadable (rt : BotRuntime) (action : ActionRecord) (community : Json) : Prop :=
  ∃ codes score, reasonCodesOf community = .ok codes ∧ communityRiskScore rt community = .ok score ∧
    (codes = [] ∨ score < 0.65 ∨
      ∃ threats, fromKeys (action.threatCategories ++ codes) = .ok threats)

section
variable {rt : BotRuntime} {action : ActionRecord} {event : Json}

/-- An escalation puts a review in the place of the action, or changes nothing. -/
theorem safetyEscalation_ok {out : ActionRecord}
    (h : applyTelegramSafetyEscalation rt action event = .ok out) :
    (NoReview (contextField event "telegram_safety") ∧ out = action) ∨
      (¬ NoReview (contextField event "telegram_safety") ∧ out.action ∈ safetyReviewActions) := by
  obtain ⟨codes, hcodes, h⟩ := Fallible.bind_eq_ok_iff.mp h
  split at h
  · rename_i hempty
    cases h
    exact .inl ⟨⟨codes, hcodes, .inl (List.isEmpty_iff.mp hempty)⟩, rfl⟩
  · rename_i hcodes'
    obtain ⟨recommended, hrecommended, h⟩ := Fallible.bind_eq_ok_iff.mp h
    cases recommended with
    | none =>
        cases h
        exact .inl ⟨⟨codes, hcodes, .inr hrecommended⟩, rfl⟩
    | some name =>
        obtain ⟨confidence, -, h⟩ := Fallible.bind_eq_ok_iff.mp h
        obtain ⟨texts, -, h⟩ := Fallible.bind_eq_ok_iff.mp h
        obtain ⟨card, -, h⟩ := Fallible.bind_eq_ok_iff.mp h
        obtain ⟨threats, -, h⟩ := Fallible.bind_eq_ok_iff.mp h
        cases h
        refine .inr ⟨?_, ?_⟩
        · rintro ⟨codes', hcodes'', hnone⟩
          rw [hcodes, Except.ok.injEq] at hcodes''
          subst hcodes''
          rcases hnone with rfl | hnone
          · simp at hcodes'
          · rw [hrecommended] at hnone
            cases hnone
        · unfold recommendedSafetyAction at hrecommended
          split at hrecommended
          · split at hrecommended
            · cases hrecommended
              assumption
            · cases hrecommended
          all_goals cases hrecommended

theorem safetyEscalation_of_noReview (h : NoReview (contextField event "telegram_safety")) :
    applyTelegramSafetyEscalation rt action event = .ok action := by
  obtain ⟨codes, hcodes, hnone⟩ := h
  unfold applyTelegramSafetyEscalation
  simp only [hcodes, bind, Except.bind]
  rcases hnone with rfl | hnone
  · rfl
  · split
    · rfl
    · rw [hnone]
      rfl

/-- A recommendation leaves every action but an allowing one as it is. -/
theorem communityRecommendation_ok {out : ActionRecord}
    (h : applyTelegramCommunityRecommendation rt action event = .ok out) :
    CommunityReadable rt action (contextField event "telegram_community") ∧
      (action.action ≠ "allow" →
        out.action = action.action ∧ out.safetyEscalation = action.safetyEscalation) := by
  obtain ⟨codes, hcodes, h⟩ := Fallible.bind_eq_ok_iff.mp h
  obtain ⟨score, hscore, h⟩ := Fallible.bind_eq_ok_iff.mp h
  split at h
  · rename_i hquiet
    cases h
    refine ⟨⟨codes, score, hcodes, hscore, ?_⟩, fun _ => ⟨rfl, rfl⟩⟩
    rcases hquiet with hempty | hlow
    · exact .inl (List.isEmpty_iff.mp hempty)
    · exact .inr (.inl hlow)
  · obtain ⟨threats, hthreats, h⟩ := Fallible.bind_eq_ok_iff.mp h
    refine ⟨⟨codes, score, hcodes, hscore, .inr (.inr ⟨threats, hthreats⟩)⟩, fun hallow => ?_⟩
    rw [if_neg (by simpa using hallow)] at h
    cases h
    exact ⟨rfl, rfl⟩

theorem communityRecommendation_of_readable (hallow : action.action ≠ "allow")
    (h : CommunityReadable rt action (contextField event "telegram_community")) :
    ∃ out, applyTelegramCommunityRecommendation rt action event = .ok out := by
  obtain ⟨codes, score, hcodes, hscore, hquiet⟩ := h
  unfold applyTelegramCommunityRecommendation
  simp only [hcodes, hscore, bind, Except.bind]
  split
  · exact ⟨_, rfl⟩
  · rename_i hloud
    rw [not_or, not_lt] at hloud
    rcases hquiet with rfl | hlow | ⟨threats, hthreats⟩
    · exact absurd rfl hloud.1
    · exact absurd hlow (not_lt.mpr hloud.2)
    · simp only [hthreats]
      exact ⟨_, rfl⟩

theorem applyEnforcementMode_enforce (action : ActionRecord) :
    (applyEnforcementMode "enforce" action).action = action.action := by
  unfold applyEnforcementMode
  dsimp only
  split <;> rfl

end

/-! ## Removals -/

/-- The guard adapter's removal is still one when it is executed. -/
def KeepsRemoval (rt : BotRuntime) (tenantId : String) (action : TelegramAction) (event : Json) :
    Prop :=
  ∃ rewritten, rewriteAction rt tenantId action event = .ok rewritten ∧
    rewritten.action ∈ removals

theorem removals_not_reviewed {name : String} (h : name ∈ removals) :
    name ∉ safetyReviewActions ∧ name ≠ "allow" := by
  simp only [removals, List.mem_cons, List.not_mem_nil, or_false] at h
  rcases h with rfl | rfl <;> decide

/-- In the enforcing mode a ban or kick is executed as one exactly when the safety
context recommends no review and the community context can be read. -/
theorem keepsRemoval_iff (rt : BotRuntime) (tenantId : String) (action : TelegramAction)
    (event : Json) (hmode : enforcementModeForTenant rt tenantId = "enforce")
    (hremoves : action.action ∈ removals) :
    KeepsRemoval rt tenantId action event ↔
      NoReview (contextField event "telegram_safety") ∧
        CommunityReadable rt (modelDump action) (contextField event "telegram_community") := by
  have hallow : (modelDump action).action ≠ "allow" := (removals_not_reviewed hremoves).2
  constructor
  · rintro ⟨rewritten, h, hkept⟩
    obtain ⟨escalated, hescalated, h⟩ := Fallible.bind_eq_ok_iff.mp h
    obtain ⟨upgraded, hupgraded, h⟩ := Fallible.bind_eq_ok_iff.mp h
    cases h
    rw [hmode, applyEnforcementMode_enforce] at hkept
    obtain ⟨hreadable, hsame⟩ := communityRecommendation_ok hupgraded
    rcases safetyEscalation_ok hescalated with ⟨hnone, rfl⟩ | ⟨-, hreview⟩
    · exact ⟨hnone, hreadable⟩
    · have hother : escalated.action ≠ "allow" := by
        intro heq
        rw [heq] at hreview
        exact absurd hreview (by decide)
      rw [(hsame hother).1] at hkept
      exact absurd hreview (removals_not_reviewed hkept).1
  · rintro ⟨hnone, hreadable⟩
    obtain ⟨upgraded, hupgraded⟩ := communityRecommendation_of_readable hallow hreadable
    refine ⟨applyEnforcementMode (enforcementModeForTenant rt tenantId) upgraded, ?_, ?_⟩
    · rw [rewriteAction, safetyEscalation_of_noReview hnone]
      simp only [bind, Except.bind]
      rw [hupgraded]
      rfl
    · rw [hmode, applyEnforcementMode_enforce,
        ((communityRecommendation_ok hupgraded).2 hallow).1]
      exact hremoves

def enforcingRuntime : BotRuntime where
  py :=
    { loads := fun _ => none
      dumps := fun _ => ""
      repr := fun _ => ""
      isAlnum := fun _ => false
      lower := fun text => text
      lower_empty := rfl }
  upper := fun text => text
  parseFloat := fun _ => none
  toDict := fun _ => .error .typeError
  environ := fun name => if name = "TELEGRAM_ENFORCEMENT_MODE" then some "enforce" else none
  resolveToken := fun _ => some "token"
  now := 0
  utcNowIso := ""
  http := fun _ => .response 200 ""

def sampleBan : TelegramAction :=
  ⟨"ban", "Deterministic policy violation", 99 / 100, [], some "default", false⟩

theorem keepsRemoval_iff_plain :
    KeepsRemoval enforcingRuntime "default" sampleBan (.obj []) ↔
      NoReview (contextField (.obj []) "telegram_safety") ∧
        CommunityReadable enforcingRuntime (modelDump sampleBan)
          (contextField (.obj []) "telegram_community") :=
  keepsRemoval_iff enforcingRuntime "default" sampleBan (.obj []) (by decide) (by decide)

/-- A media burst under which a ban becomes a review. -/
def burstEvent : Json :=
  .obj [("context", .obj [("telegram_safety", .obj
    [("reason_codes", .arr [.str "media_burst_pattern"]), ("recommended_action", .str "admin_review"),
      ("confidence", .num (9 / 10)), ("evidence_card", .obj [])])])]

theorem burst_drops_ban : ¬ KeepsRemoval enforcingRuntime "default" sampleBan burstEvent := by
  rintro ⟨rewritten, h, hkept⟩
  have hreview : (match rewriteAction enforcingRuntime "default" sampleBan burstEvent with
    | .ok rewritten => decide (rewritten.action ∈ removals)
    | .error _ => true) = false := by decide +kernel
  rw [h] at hreview
  exact of_decide_eq_false hreview hkept

end TruePresenceESE.Telegram
