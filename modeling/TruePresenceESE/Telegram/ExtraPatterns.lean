import TruePresenceESE.Telegram.JoinedPatterns

/-! # Patterns that a tenant adds

The score of a detector counts the matches of its joined patterns that do not overlap. An added
pattern that matches before a built-in one can take the text of several built-in matches away for
one of its own.
-/

namespace TruePresenceESE.Telegram

/-! ## Scores -/

section
variable {rt : TextRuntime}

theorem matchScore_le_iff {xs ys : List rt.Match} :
    matchScore rt xs ≤ matchScore rt ys ↔ min 4 xs.length ≤ min 4 ys.length := by
  have hscale (n : Nat) : min 1 ((n : ℚ) * 0.25) = (min 4 n : Nat) * 0.25 := by
    rcases le_total 4 n with h | h
    · have hn : (4 : ℚ) ≤ n := by exact_mod_cast h
      rw [min_eq_left h, min_eq_left (by linarith)]
      norm_num
    · have hn : (n : ℚ) ≤ 4 := by exact_mod_cast h
      rw [min_eq_right h, min_eq_right (by linarith)]
  rw [matchScore, matchScore, hscale, hscale, mul_le_mul_iff_left₀ (by norm_num), Nat.cast_le]

/-- What an enabled and compiled detector scores. -/
def entryScore (adapter : TelegramAdapter rt) (textLower name : String) (entry : ActiveDetector) :
    Option ℚ :=
  if truthy entry.enabled then
    (adapter.compiledPatterns.get? name).map fun pattern =>
      matchScore rt (rt.findall pattern textLower)
  else none

/-- The score of a detector, as the features of a message read it. -/
def detectorScore (analysis : ThreatAnalysis rt) (name : String) : ℚ :=
  (analysis.scores.get? name).getD 0

variable {adapter : TelegramAdapter rt} {textLower name : String}

theorem scores_analyzeDetector (results : ThreatAnalysis rt) (entry : ActiveDetector) :
    (analyzeDetector adapter textLower results (name, entry)).scores =
      match entryScore adapter textLower name entry with
      | some score => results.scores.set name score
      | none => results.scores := by
  unfold analyzeDetector entryScore
  cases henabled : truthy entry.enabled with
  | false => simp [henabled]
  | true =>
      cases hpattern : adapter.compiledPatterns.get? name with
      | none => simp [henabled, hpattern]
      | some pattern => simp [henabled, hpattern]

theorem get?_analyzeDetectors_of_notMem {items : List (String × ActiveDetector)}
    {results : ThreatAnalysis rt} (h : name ∉ items.map Prod.fst) :
    (items.foldl (analyzeDetector adapter textLower) results).scores.get? name =
      results.scores.get? name := by
  induction items generalizing results with
  | nil => rfl
  | cons p rest ih =>
      obtain ⟨other, entry⟩ := p
      rw [List.map_cons, List.mem_cons, not_or] at h
      rw [List.foldl_cons, ih h.2, scores_analyzeDetector]
      cases entryScore adapter textLower other entry with
      | none => rfl
      | some score => exact Dict.get?_set_ne _ _ (Ne.symm h.1)

variable (adapter textLower) in
theorem get?_analyzeDetectors_of_mem {items : List (String × ActiveDetector)}
    (results : ThreatAnalysis rt) {entry : ActiveDetector} (hnodup : (items.map Prod.fst).Nodup)
    (h : (name, entry) ∈ items) :
    (items.foldl (analyzeDetector adapter textLower) results).scores.get? name =
      (entryScore adapter textLower name entry).or (results.scores.get? name) := by
  induction items generalizing results with
  | nil => simp at h
  | cons p rest ih =>
      rw [List.map_cons, List.nodup_cons] at hnodup
      rw [List.foldl_cons]
      rcases List.mem_cons.mp h with rfl | hrest
      · rw [get?_analyzeDetectors_of_notMem hnodup.1, scores_analyzeDetector]
        cases entryScore adapter textLower name entry with
        | none => simp
        | some score => simp
      · obtain ⟨other, otherEntry⟩ := p
        have hne : other ≠ name := by
          rintro rfl
          exact hnodup.1 (List.mem_map.mpr ⟨_, hrest, rfl⟩)
        rw [ih _ hnodup.2 hrest, scores_analyzeDetector]
        cases entryScore adapter textLower other otherEntry with
        | none => rfl
        | some score => exact congrArg _ (Dict.get?_set_ne _ _ hne)

theorem detectorScore_eq {text : String} {contentSimilarity : ℚ} {entry : ActiveDetector}
    (hname : name ≠ "mirrored_content") (hentry : adapter.activeDetectors.get? name = some entry) :
    detectorScore (analyzeContent adapter text contentSimilarity) name =
      (entryScore adapter (rt.lower text) name entry).getD 0 := by
  have hfold := get?_analyzeDetectors_of_mem adapter (rt.lower text) ⟨[], Dict.empty, Dict.empty⟩
    adapter.activeDetectors.nodup (Dict.get?_eq_some_iff.mp hentry)
  rw [Dict.get?_empty, Option.or_none] at hfold
  rw [detectorScore, analyzeContent, ← hfold]
  split <;> rw [Dict.get?_set_ne _ _ (Ne.symm hname)]

/-- A detector is reported from a score of one half on. -/
theorem mem_threatsDetected_iff_score {text : String} {contentSimilarity : ℚ}
    {entry : ActiveDetector} (hmirrored : name ≠ "mirrored_content")
    (hmirrors : name ≠ "mirrors_userbots")
    (hentry : adapter.activeDetectors.get? name = some entry) :
    name ∈ (analyzeContent adapter text contentSimilarity).threatsDetected ↔
      0.5 ≤ detectorScore (analyzeContent adapter text contentSimilarity) name := by
  rw [mem_threatsDetected_iff hmirrors, detectorScore_eq hmirrored hentry, hentry]
  simp only [Option.some.injEq, exists_eq_left', Reports, entryScore]
  cases truthy entry.enabled with
  | false => norm_num
  | true =>
      cases adapter.compiledPatterns.get? name with
      | none => exact iff_of_false (by simp) (by norm_num)
      | some pattern => simp

end

/-! ## Configurations -/

/-- A tenant that adds patterns to a policy detector. -/
def withPatterns (config : TenantConfig) (name : String) (override : List (String × Json))
    (extra : List String) : TenantConfig :=
  { config with
    detectors := config.detectors.set name (.obj (("patterns", strs extra) :: override)) }

/-- The flag of a policy detector. -/
def enabledFlag (override : List (String × Json)) : Json :=
  ((Json.obj override).get? "enabled").getD (.bool true)

def policyEntry (patterns : List String) (override : List (String × Json)) (extra : List String) :
    ActiveDetector where
  enabled := enabledFlag override
  patterns := strs (patterns ++ extra)
  tier := .policy

/-- The detector is enabled, and no custom one has taken its name. -/
def InForce (config : TenantConfig) (name : String) (override : List (String × Json)) : Prop :=
  truthy (enabledFlag override) = true ∧ config.customDetectors.get? name = none

section
variable {config : TenantConfig} {name : String} {patterns extra : List String}
  {override : List (String × Json)}

theorem policy_names {p : String × List String} (h : p ∈ policyDetectors) :
    p.1 ≠ "mirrored_content" ∧ p.1 ≠ "mirrors_userbots" ∧ p.2 ≠ [] := by
  revert p
  decide

theorem policyDetector_withPatterns :
    policyDetector patterns
        (((withPatterns config name override extra).detectors.get? name).getD (.obj [])) =
      .ok (policyEntry patterns override extra) := by
  rw [withPatterns, Dict.get?_set_self]
  simp [policyDetector, policyEntry, enabledFlag, Json.get?, strs]

/-- A policy name carries the extended entry unless a custom entry replaces it. -/
theorem configureDetectors_get?_policy {table : Dict String ActiveDetector}
    (h : configureDetectors (withPatterns config name override extra) = .ok table)
    (hpolicy : (name, patterns) ∈ policyDetectors) :
    (config.customDetectors.get? name = none ∧
        table.get? name = some (policyEntry patterns override extra)) ∨
      ∃ entry detector, config.customDetectors.get? name = some entry ∧
        customDetector entry = .ok detector ∧ table.get? name = some detector := by
  obtain ⟨withPolicy, hwritten, hcustom⟩ := Fallible.bind_eq_ok_iff.mp h
  obtain ⟨written, hstep, hread⟩ := Dict.get?_updateM_of_mem (by decide) hwritten hpolicy
  obtain ⟨detector, hdetector, rfl⟩ := Fallible.map_eq_ok_iff.mp hstep
  rw [policyDetector_withPatterns, Except.ok.injEq] at hdetector
  cases hdetector
  cases hentry : config.customDetectors.get? name with
  | none =>
      have hnot : name ∉ config.customDetectors.items.map Prod.fst :=
        Dict.get?_eq_none_iff.mp hentry
      rw [Dict.get?_updateM_of_notMem hcustom hnot, hread]
      exact .inl ⟨rfl, rfl⟩
  | some entry =>
      obtain ⟨written, hwritten, hread⟩ := Dict.get?_updateM_of_mem config.customDetectors.nodup
        hcustom (Dict.get?_eq_some_iff.mp hentry)
      obtain ⟨detector, hdetector, rfl⟩ := Fallible.map_eq_ok_iff.mp hwritten
      exact .inr ⟨entry, detector, rfl, hdetector, by simpa using hread⟩

theorem mapM_map_str {f : Json → Option String} (h : ∀ s, f (.str s) = some s)
    (texts : List String) : (texts.map Json.str).mapM f = some texts := by
  induction texts with
  | nil => rfl
  | cons text rest ih =>
      rw [List.map_cons, List.mapM_cons, h, ih]
      rfl

theorem joinPatterns_strs (texts : List String) :
    joinPatterns (strs texts) = .ok (String.intercalate "|" texts) := by
  rw [strs, joinPatterns, mapM_map_str (fun _ => rfl)]

variable {rt : TextRuntime}

theorem compileEntry_policyEntry (henabled : truthy (enabledFlag override) = true)
    (hne : patterns ≠ []) :
    compileEntry rt (policyEntry patterns override extra) =
      (rt.compile (String.intercalate "|" (patterns ++ extra))).map some := by
  have hpatterns : truthy (strs (patterns ++ extra)) = true := by
    simp [strs, truthy, hne]
  rw [compileEntry, policyEntry, henabled, hpatterns, joinPatterns_strs]
  rfl

/-- An enabled policy detector scores the matches of its patterns, tried in order. -/
theorem entryScore_policyEntry (re : TriesInOrder rt) {adapter : TelegramAdapter rt}
    (textLower : String) (henabled : truthy (enabledFlag override) = true) (hne : patterns ≠ [])
    (hplain : ∀ pattern ∈ patterns ++ extra, Plain rt pattern)
    (hcompiled : compileEntry rt (policyEntry patterns override extra) =
      .ok (adapter.compiledPatterns.get? name)) :
    ∃ found, entryScore adapter textLower name (policyEntry patterns override extra) =
        some (matchScore rt found) ∧
      found.length =
        (Findall.findall (endsOf re (patterns ++ extra) textLower) textLower.length).length := by
  obtain ⟨-, joined, hjoined, hends⟩ := compile_joined re
    (List.append_ne_nil_of_left_ne_nil hne extra) hplain
  rw [compileEntry_policyEntry henabled hne, hjoined] at hcompiled
  have hpattern : adapter.compiledPatterns.get? name = some joined :=
    (Except.ok.inj hcompiled).symm
  refine ⟨rt.findall joined textLower, ?_, ?_⟩
  · rw [entryScore, policyEntry, if_pos henabled, hpattern]
    rfl
  · rw [re.length_findall, hends]

end

/-! ## Extra patterns -/

section
variable {rt : TextRuntime} (re : TriesInOrder rt)

/-- The matches that are found by the extra patterns, where no built-in one is. -/
def extraMatches (patterns extra : List String) (textLower : String) : List (Nat × Nat) :=
  Findall.extras (endsOf re patterns textLower) (endsOf re extra textLower) textLower.length 0

/-- What is lost to the matches of the extra patterns is made up by them, or by the built-in
matches beyond the four that make a full score. -/
def LossMadeUp (patterns extra : List String) (textLower : String) : Prop :=
  Findall.lostTo (endsOf re patterns textLower) textLower.length
      (extraMatches re patterns extra textLower) ≤
    (extraMatches re patterns extra textLower).length +
      ((Findall.findall (endsOf re patterns textLower) textLower.length).length - 4 : Nat)

variable {re} {config : TenantConfig} {name : String} {patterns extra : List String}
  {override : List (String × Json)} {plain adapter : TelegramAdapter rt}

/-- Extra matches within which no built-in one begins take nothing away. -/
theorem lossMadeUp_of_apart {textLower : String}
    (h : ∀ found ∈ extraMatches re patterns extra textLower, ∀ i, found.1 < i → i < found.2 →
      endsOf re patterns textLower i = []) : LossMadeUp re patterns extra textLower := by
  rw [LossMadeUp, Findall.lostTo_of_apart h]
  positivity

theorem detectorScore_le_iff (hpolicy : (name, patterns) ∈ policyDetectors)
    (hbuiltin : ∀ pattern ∈ patterns, ∃ compiled, rt.compile pattern = .ok compiled)
    (hextra : ∀ pattern ∈ extra, Plain rt pattern)
    (hplain : buildAdapter rt (withPatterns config name override []) = .ok plain)
    (hadapter : buildAdapter rt (withPatterns config name override extra) = .ok adapter)
    (text : String) (contentSimilarity : ℚ) :
    detectorScore (analyzeContent plain text contentSimilarity) name ≤
        detectorScore (analyzeContent adapter text contentSimilarity) name ↔
      (InForce config name override → LossMadeUp re patterns extra (rt.lower text)) := by
  obtain ⟨hmirrored, -, hne⟩ := policy_names hpolicy
  obtain ⟨hconfigured, hcompile⟩ := buildAdapter_eq_ok hadapter
  obtain ⟨hconfiguredPlain, hcompilePlain⟩ := buildAdapter_eq_ok hplain
  rcases configureDetectors_get?_policy hconfigured hpolicy with
    ⟨hnone, hread⟩ | ⟨entry, detector, hentry, hdetector, hread⟩
  · obtain ⟨-, hreadPlain⟩ :=
      (configureDetectors_get?_policy hconfiguredPlain hpolicy).resolve_right (by simp [hnone])
    rw [detectorScore_eq hmirrored hread, detectorScore_eq hmirrored hreadPlain]
    cases henabled : truthy (enabledFlag override) with
    | false => simp [entryScore, policyEntry, henabled, InForce]
    | true =>
        have hall : ∀ pattern ∈ patterns ++ extra, Plain rt pattern := by
          intro pattern hpattern
          rcases List.mem_append.mp hpattern with h | h
          · exact ⟨policy_groupFree hpolicy pattern h, hbuiltin pattern h⟩
          · exact hextra pattern h
        have hallPlain : ∀ pattern ∈ patterns ++ [], Plain rt pattern := by
          intro pattern hpattern
          exact hall pattern (List.mem_append_left _ (by simpa using hpattern))
        obtain ⟨found, hfound, hlength⟩ := entryScore_policyEntry re (rt.lower text)
          henabled hne hall (hcompile _ _ hread)
        obtain ⟨foundPlain, hfoundPlain, hlengthPlain⟩ := entryScore_policyEntry re
          (rt.lower text) henabled hne hallPlain (hcompilePlain _ _ hreadPlain)
        rw [List.append_nil] at hlengthPlain
        rw [hfound, hfoundPlain, Option.getD_some, Option.getD_some, matchScore_le_iff, hlength,
          hlengthPlain, endsOf_append, Findall.min_findall_le_iff]
        exact ⟨fun h _ => h, fun h => h ⟨henabled, hnone⟩⟩
  · obtain ⟨entry', detector', hentry', hdetector', hreadPlain⟩ :=
      (configureDetectors_get?_policy hconfiguredPlain hpolicy).resolve_left (by simp [hentry])
    -- a custom entry of the same name is the detector either way
    rw [hentry, Option.some.injEq] at hentry'
    rw [← hentry', hdetector, Except.ok.injEq] at hdetector'
    rw [← hdetector'] at hreadPlain
    have hpattern := hcompile _ _ hread
    rw [hcompilePlain _ _ hreadPlain, Except.ok.injEq] at hpattern
    rw [detectorScore_eq hmirrored hread, detectorScore_eq hmirrored hreadPlain, entryScore,
      entryScore, hpattern]
    simp [InForce, hentry]

theorem policy_reported_iff (hpolicy : (name, patterns) ∈ policyDetectors)
    (hadapter : buildAdapter rt (withPatterns config name override extra) = .ok adapter)
    {text : String} {contentSimilarity : ℚ} :
    name ∈ (analyzeContent adapter text contentSimilarity).threatsDetected ↔
      0.5 ≤ detectorScore (analyzeContent adapter text contentSimilarity) name := by
  obtain ⟨hmirrored, hmirrors, -⟩ := policy_names hpolicy
  rcases configureDetectors_get?_policy (buildAdapter_eq_ok hadapter).1 hpolicy with
    ⟨-, hread⟩ | ⟨-, detector, -, -, hread⟩
  · exact mem_threatsDetected_iff_score hmirrored hmirrors hread
  · exact mem_threatsDetected_iff_score hmirrored hmirrors hread

/-- Extra patterns lower no score and hide no threat exactly if what is lost to their matches is
made up. -/
theorem extra_patterns_only_add_iff (re : TriesInOrder rt)
    (hpolicy : (name, patterns) ∈ policyDetectors)
    (hbuiltin : ∀ pattern ∈ patterns, ∃ compiled, rt.compile pattern = .ok compiled)
    (hextra : ∀ pattern ∈ extra, Plain rt pattern)
    (hplain : buildAdapter rt (withPatterns config name override []) = .ok plain)
    (hadapter : buildAdapter rt (withPatterns config name override extra) = .ok adapter)
    (text : String) (contentSimilarity : ℚ) :
    (detectorScore (analyzeContent plain text contentSimilarity) name ≤
        detectorScore (analyzeContent adapter text contentSimilarity) name ∧
      (name ∈ (analyzeContent plain text contentSimilarity).threatsDetected →
        name ∈ (analyzeContent adapter text contentSimilarity).threatsDetected)) ↔
      (InForce config name override → LossMadeUp re patterns extra (rt.lower text)) := by
  rw [← detectorScore_le_iff hpolicy hbuiltin hextra hplain hadapter text contentSimilarity]
  refine and_iff_left_of_imp fun hle => ?_
  rw [policy_reported_iff hpolicy hplain, policy_reported_iff hpolicy hadapter]
  exact fun hreported => hreported.trans hle

end

/-! ## A run -/

def adapterOf (rt : TextRuntime) (config : TenantConfig) : TelegramAdapter rt :=
  match buildAdapter rt config with
  | .ok adapter => adapter
  | .error _ => ⟨Dict.empty, Dict.empty⟩

theorem buildAdapter_adapterOf {rt : TextRuntime} {config : TenantConfig}
    (h : (buildAdapter rt config).toBool = true) :
    buildAdapter rt config = .ok (adapterOf rt config) := by
  unfold adapterOf
  cases hbuild : buildAdapter rt config with
  | error message => simp [hbuild, Except.toBool] at h
  | ok adapter => rfl

/-- The adapter of a tenant that only adds patterns to one detector. -/
def extendedAdapter (name : String) (extra : List String) : TelegramAdapter plainRegexes :=
  adapterOf plainRegexes (withPatterns emptyConfig name [] extra)

def extendedAnalysis (name : String) (extra : List String) (text : String) :
    ThreatAnalysis plainRegexes :=
  analyzeContent (extendedAdapter name extra) text 0

def builtinTorrents : List String :=
  [r"magnet:\?xt=urn:btih:", r"\.torrent$", r"torrentz2", r"kickasstorrents", r"rarbg"]

def extraTorrents : List String := ["custom.*pattern.*here", "another.*pattern"]

theorem extra_patterns_only_add_torrents :
    (detectorScore (extendedAnalysis "torrent_sharing" [] "custom pattern here rarbg")
          "torrent_sharing" ≤
        detectorScore (extendedAnalysis "torrent_sharing" extraTorrents "custom pattern here rarbg")
          "torrent_sharing" ∧
      ("torrent_sharing" ∈
          (extendedAnalysis "torrent_sharing" [] "custom pattern here rarbg").threatsDetected →
        "torrent_sharing" ∈ (extendedAnalysis "torrent_sharing" extraTorrents
          "custom pattern here rarbg").threatsDetected)) ↔
      (InForce emptyConfig "torrent_sharing" [] →
        LossMadeUp plainRegexes_triesInOrder builtinTorrents extraTorrents
          (plainRegexes.lower "custom pattern here rarbg")) := by
  have hpolicy : ("torrent_sharing", builtinTorrents) ∈ policyDetectors :=
    List.mem_cons_of_mem _ List.mem_cons_self
  have hextra : ∀ pattern ∈ extraTorrents, GroupFree pattern := by decide +kernel
  exact extra_patterns_only_add_iff plainRegexes_triesInOrder hpolicy (fun _ _ => ⟨_, rfl⟩)
    (fun pattern h => ⟨hextra pattern h, _, rfl⟩)
    (buildAdapter_adapterOf (by decide +kernel)) (buildAdapter_adapterOf (by decide +kernel))
    "custom pattern here rarbg" 0

/-- The added pattern matches from the first letter to the end of the text. -/
theorem extra_pattern_hides_threat :
    Plain plainRegexes "x.*" ∧
      buildAdapter plainRegexes (withPatterns emptyConfig "copyright_violation" [] []) =
        .ok (extendedAdapter "copyright_violation" []) ∧
      buildAdapter plainRegexes (withPatterns emptyConfig "copyright_violation" [] ["x.*"]) =
        .ok (extendedAdapter "copyright_violation" ["x.*"]) ∧
      detectorScore (extendedAnalysis "copyright_violation" [] "x pirated pirated")
        "copyright_violation" = 0.5 ∧
      "copyright_violation" ∈
        (extendedAnalysis "copyright_violation" [] "x pirated pirated").threatsDetected ∧
      detectorScore (extendedAnalysis "copyright_violation" ["x.*"] "x pirated pirated")
        "copyright_violation" = 0.25 ∧
      "copyright_violation" ∉
        (extendedAnalysis "copyright_violation" ["x.*"] "x pirated pirated").threatsDetected := by
  have hplain : buildAdapter plainRegexes (withPatterns emptyConfig "copyright_violation" [] []) =
      .ok (extendedAdapter "copyright_violation" []) :=
    buildAdapter_adapterOf (by decide +kernel)
  have hadapter : buildAdapter plainRegexes
      (withPatterns emptyConfig "copyright_violation" [] ["x.*"]) =
        .ok (extendedAdapter "copyright_violation" ["x.*"]) :=
    buildAdapter_adapterOf (by decide +kernel)
  have hscore : detectorScore (extendedAnalysis "copyright_violation" [] "x pirated pirated")
      "copyright_violation" = 0.5 := by
    decide +kernel
  have hextended : detectorScore
      (extendedAnalysis "copyright_violation" ["x.*"] "x pirated pirated")
      "copyright_violation" = 0.25 := by
    decide +kernel
  refine ⟨⟨by decide +kernel, _, rfl⟩, hplain, hadapter, hscore, ?_, hextended, ?_⟩
  · exact (policy_reported_iff List.mem_cons_self hplain).mpr hscore.ge
  · intro hreported
    have hle := (policy_reported_iff List.mem_cons_self hadapter).mp hreported
    exact absurd (hle.trans_eq hextended) (by norm_num)

end TruePresenceESE.Telegram
