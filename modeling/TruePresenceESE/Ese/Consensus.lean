import TruePresenceESE.Lib.SetOrder
import TruePresenceESE.Ese.DerivedArtifacts

/-! # Consensus of the roles

Findings are grouped by the theme of their title. What two roles or more report is agreed
on, what one role alone reports is kept where it blocks.
-/

namespace TruePresenceESE.Ese

open PyText PyValue Sorting

structure ConsensusItem where
  role : String
  severity : String
  title : String
  details : String

structure ConsensusEntry where
  theme : String
  title : String
  roles : List String
  count : ℕ
  highestSeverity : String
  severities : List String
  note : Option String := none

structure ConsensusSummary where
  agreements : List ConsensusEntry
  disagreements : List ConsensusEntry
  soloBlockers : List ConsensusEntry

section
variable (py : Interpreter)

/-- `str(finding.get("severity") or "").upper().strip()` -/
def consensusSeverity (finding : Json) : String := strip (upper (rawField py finding "severity"))

/-- A finding counts if it is an object and has a title, and its role has a name. -/
def consensusItem (role : String) (finding : Json) : Option ConsensusItem :=
  let title := textField py finding "title"
  if isObject finding = false ∨ role = "" ∨ title = "" then none
  else some ⟨role, consensusSeverity py finding, title, textField py finding "details"⟩

def consensusItems (roles : List RoleEntry) : List ConsensusItem :=
  roles.flatMap fun entry => entry.findings.filterMap (consensusItem py (strip entry.role))

def itemTheme (item : ConsensusItem) : String := findingTheme py item.title

/-- The findings of one theme, in the order they were met. -/
def consensusGroups (roles : List RoleEntry) : Dict String (List ConsensusItem) :=
  Dict.groupBy (itemTheme py) id (consensusItems py roles)

end

variable (order : SetOrder String)

def consensusEntry (theme : String) (items : List ConsensusItem) : ConsensusEntry :=
  let roles := sortedBy id (order.members (items.map ConsensusItem.role))
  let severities := sortedBy severityRank (order.members (items.map ConsensusItem.severity))
  { theme := theme
    title := (items.head?.map ConsensusItem.title).getD ""
    roles := roles
    count := roles.length
    highestSeverity := (severities.argmin severityRank).getD "LOW"
    severities := severities }

def consensusEntries (py : Interpreter) (roles : List RoleEntry) : List ConsensusEntry :=
  (consensusGroups py roles).items.map fun group => consensusEntry order group.1 group.2

def isBlockingSeverity (severity : String) : Bool := severity ∈ ["HIGH", "CRITICAL"]

def isAgreement (entry : ConsensusEntry) : Bool := 2 ≤ entry.roles.length

def isDisagreement (entry : ConsensusEntry) : Bool :=
  isAgreement entry && decide (2 ≤ entry.severities.length)

def isSoloBlocker (entry : ConsensusEntry) : Bool :=
  !isAgreement entry && isBlockingSeverity entry.highestSeverity

def disagreementNote : String := "Multiple roles raised the same concern with different severities."

def soloBlockerNote : String := "Only one role flagged this as a blocker."

def bySeverity (entry : ConsensusEntry) : ℕ ×ₗ String :=
  toLex (severityRank entry.highestSeverity, entry.title)

/-- The most roles first. -/
def byCount (entry : ConsensusEntry) : ℤ ×ₗ ℕ ×ₗ String := toLex (-entry.count, bySeverity entry)

def consensusSummary (py : Interpreter) (roles : List RoleEntry) : ConsensusSummary :=
  let entries := consensusEntries order py roles
  { agreements := sortedBy byCount (entries.filter isAgreement)
    disagreements := sortedBy bySeverity ((entries.filter isDisagreement).map fun entry =>
      { entry with note := some disagreementNote })
    soloBlockers := sortedBy bySeverity ((entries.filter isSoloBlocker).map fun entry =>
      { entry with note := some soloBlockerNote }) }

/-! ## What an entry says of its theme -/

/-- The findings reported for a theme. -/
def reportedFor (py : Interpreter) (roles : List RoleEntry) (theme : String) : List ConsensusItem :=
  (consensusItems py roles).filter fun item => itemTheme py item = theme

/-- The roles are those that report the theme, and no severity reported for it is above the
highest one. -/
structure Summarizes (py : Interpreter) (roles : List RoleEntry) (entry : ConsensusEntry) : Prop where
  reported : reportedFor py roles entry.theme ≠ []
  distinct : entry.roles.Nodup
  roles_iff : ∀ role, role ∈ entry.roles ↔ ∃ item ∈ reportedFor py roles entry.theme, item.role = role
  count : entry.count = entry.roles.length
  highest_reported : ∃ item ∈ reportedFor py roles entry.theme, item.severity = entry.highestSeverity
  highest : ∀ item ∈ reportedFor py roles entry.theme,
    severityRank entry.highestSeverity ≤ severityRank item.severity
  severities_distinct : entry.severities.Nodup
  severities_iff : ∀ severity, severity ∈ entry.severities ↔
    ∃ item ∈ reportedFor py roles entry.theme, item.severity = severity

section
variable {order} {py : Interpreter} {roles : List RoleEntry} {entry : ConsensusEntry}

theorem nodup_sortedMembers {β : Type} [LinearOrder β] (key : String → β) (names : List String) :
    (sortedBy key (order.members names)).Nodup :=
  (List.perm_insertionSort _ _).nodup_iff.mpr (order.nodup_members names)

/-- The least rank of a list that is not empty is attained and not undercut. -/
theorem argmin_spec {severities : List String} (h : severities ≠ []) :
    (severities.argmin severityRank).getD "LOW" ∈ severities ∧ ∀ severity ∈ severities,
      severityRank ((severities.argmin severityRank).getD "LOW") ≤ severityRank severity := by
  cases hleast : severities.argmin severityRank with
  | none => exact absurd (List.argmin_eq_none.mp hleast) h
  | some least =>
      exact ⟨List.argmin_mem hleast, fun severity hmem => List.le_of_mem_argmin hmem hleast⟩

theorem consensusEntry_summarizes {theme : String} (h : reportedFor py roles theme ≠ []) :
    Summarizes py roles (consensusEntry order theme (reportedFor py roles theme)) := by
  have hmembers : ∀ severity, severity ∈ sortedBy severityRank (order.members
      ((reportedFor py roles theme).map ConsensusItem.severity)) ↔
      ∃ item ∈ reportedFor py roles theme, item.severity = severity := by
    intro severity
    rw [mem_sortedBy, order.mem_members, List.mem_map]
  have hnonempty : sortedBy severityRank (order.members
      ((reportedFor py roles theme).map ConsensusItem.severity)) ≠ [] := by
    obtain ⟨item, hitem⟩ := List.exists_mem_of_ne_nil _ h
    exact List.ne_nil_of_mem ((hmembers item.severity).mpr ⟨item, hitem, rfl⟩)
  obtain ⟨hattained, hleast⟩ := argmin_spec hnonempty
  exact {
    reported := h
    distinct := nodup_sortedMembers id _
    roles_iff := fun role => by
      show role ∈ sortedBy id (order.members _) ↔ _
      rw [mem_sortedBy, order.mem_members, List.mem_map]
      rfl
    count := rfl
    highest_reported := (hmembers _).mp hattained
    highest := fun item hitem => hleast _ ((hmembers item.severity).mpr ⟨item, hitem, rfl⟩)
    severities_distinct := nodup_sortedMembers severityRank _
    severities_iff := hmembers }

/-! ## The entries -/

theorem get?_consensusGroups {theme : String} {items : List ConsensusItem}
    (h : (consensusGroups py roles).get? theme = some items) :
    items = reportedFor py roles theme := by
  have hbucket := Dict.getD_groupBy (itemTheme py) id (consensusItems py roles) theme
  rw [show (Dict.groupBy (itemTheme py) id (consensusItems py roles)).get? theme = some items from h,
    Option.getD_some, Dict.bucket, List.map_id] at hbucket
  exact hbucket

theorem mem_keys_consensusGroups {theme : String} :
    theme ∈ (consensusGroups py roles).keys ↔ reportedFor py roles theme ≠ [] := by
  rw [consensusGroups, Dict.mem_keys_groupBy, List.mem_map, reportedFor, ne_eq,
    List.filter_eq_nil_iff]
  simp only [decide_eq_true_eq, not_forall, not_not, exists_prop]

/-- There is an entry for each theme that is reported. -/
theorem mem_consensusEntries_iff : entry ∈ consensusEntries order py roles ↔
    ∃ theme, reportedFor py roles theme ≠ [] ∧
      consensusEntry order theme (reportedFor py roles theme) = entry := by
  rw [consensusEntries, List.mem_map]
  constructor
  · intro h
    obtain ⟨⟨theme, items⟩, hgroup, rfl⟩ := h
    have hkey : theme ∈ (consensusGroups py roles).keys := List.mem_map_of_mem hgroup
    refine ⟨theme, mem_keys_consensusGroups.mp hkey, ?_⟩
    rw [get?_consensusGroups (Dict.get?_eq_some_iff.mpr hgroup)]
  · intro h
    obtain ⟨theme, hreported, rfl⟩ := h
    obtain ⟨⟨_, items⟩, hgroup, rfl⟩ := List.mem_map.mp (mem_keys_consensusGroups.mpr hreported)
    refine ⟨_, hgroup, ?_⟩
    rw [get?_consensusGroups (Dict.get?_eq_some_iff.mpr hgroup)]

theorem summarizes_of_mem (h : entry ∈ consensusEntries order py roles) :
    Summarizes py roles entry := by
  obtain ⟨theme, hreported, rfl⟩ := mem_consensusEntries_iff.mp h
  exact consensusEntry_summarizes hreported

theorem nodup_themes : ((consensusEntries order py roles).map ConsensusEntry.theme).Nodup := by
  rw [consensusEntries, List.map_map]
  exact (consensusGroups py roles).nodup

theorem eq_of_theme {other : ConsensusEntry} (h : entry ∈ consensusEntries order py roles)
    (hother : other ∈ consensusEntries order py roles) (htheme : entry.theme = other.theme) :
    entry = other :=
  List.inj_on_of_nodup_map nodup_themes h hother htheme

/-! ## The three lists -/

theorem mem_agreements : entry ∈ (consensusSummary order py roles).agreements ↔
    entry ∈ consensusEntries order py roles ∧ isAgreement entry = true := by
  rw [consensusSummary, mem_sortedBy, List.mem_filter]

theorem mem_disagreements : entry ∈ (consensusSummary order py roles).disagreements ↔
    ∃ agreed ∈ consensusEntries order py roles, isDisagreement agreed = true ∧
      { agreed with note := some disagreementNote } = entry := by
  simp only [consensusSummary, mem_sortedBy, List.mem_map, List.mem_filter, and_assoc]

theorem mem_soloBlockers : entry ∈ (consensusSummary order py roles).soloBlockers ↔
    ∃ solo ∈ consensusEntries order py roles, isSoloBlocker solo = true ∧
      { solo with note := some soloBlockerNote } = entry := by
  simp only [consensusSummary, mem_sortedBy, List.mem_map, List.mem_filter, and_assoc]

theorem Summarizes.noted (h : Summarizes py roles entry) (note : Option String) :
    Summarizes py roles { entry with note := note } :=
  ⟨h.reported, h.distinct, h.roles_iff, h.count, h.highest_reported, h.highest,
    h.severities_distinct, h.severities_iff⟩

theorem severityRank_le_one_iff {severity : String} :
    severityRank severity ≤ 1 ↔ isBlockingSeverity severity = true := by
  by_cases hcritical : severity = "CRITICAL"
  · subst hcritical
    decide
  · by_cases hhigh : severity = "HIGH"
    · subst hhigh
      decide
    · have hrank : 2 ≤ severityRank severity := by
        rw [severityRank, severityOrder, List.idxOf_cons_ne _ (Ne.symm hcritical),
          List.idxOf_cons_ne _ (Ne.symm hhigh)]
        omega
      simp only [isBlockingSeverity, List.mem_cons, List.not_mem_nil, or_false, hcritical, hhigh,
        decide_false]
      constructor
      · omega
      · exact nofun

/-- A theme with a blocking finding has a blocking entry. -/
theorem Summarizes.blocking (h : Summarizes py roles entry) {item : ConsensusItem}
    (hitem : item ∈ reportedFor py roles entry.theme)
    (hseverity : isBlockingSeverity item.severity = true) :
    isBlockingSeverity entry.highestSeverity = true :=
  severityRank_le_one_iff.mp ((h.highest item hitem).trans (severityRank_le_one_iff.mpr hseverity))

theorem exists_consensusItem {role : String} {finding : Json} (hobject : isObject finding = true)
    (hrole : role ≠ "") (htitle : textField py finding "title" ≠ "") :
    ∃ item, consensusItem py role finding = some item ∧
      itemTheme py item = findingTheme py (textField py finding "title") ∧
      item.severity = consensusSeverity py finding := by
  rw [consensusItem, if_neg (by simp [hobject, hrole, htitle])]
  exact ⟨_, rfl, rfl, rfl⟩

theorem mem_consensusItems {item : ConsensusItem} {role : RoleEntry} {finding : Json}
    (hrole : role ∈ roles) (hfinding : finding ∈ role.findings)
    (hitem : consensusItem py (strip role.role) finding = some item) :
    item ∈ consensusItems py roles :=
  List.mem_flatMap.mpr ⟨role, hrole, List.mem_filterMap.mpr ⟨finding, hfinding, hitem⟩⟩

end

/-! ## Themes in the lists -/

section
variable {order} {py : Interpreter} {roles : List RoleEntry} {entry : ConsensusEntry} {theme : String}

theorem mem_agreedThemes :
    theme ∈ (consensusSummary order py roles).agreements.map ConsensusEntry.theme ↔
      ∃ entry ∈ consensusEntries order py roles, isAgreement entry = true ∧ entry.theme = theme := by
  simp only [List.mem_map, mem_agreements, and_assoc]

theorem mem_soloThemes :
    theme ∈ (consensusSummary order py roles).soloBlockers.map ConsensusEntry.theme ↔
      ∃ entry ∈ consensusEntries order py roles, isSoloBlocker entry = true ∧ entry.theme = theme := by
  rw [List.mem_map]
  constructor
  · intro h
    obtain ⟨noted, hnoted, rfl⟩ := h
    obtain ⟨solo, hsolo, htest, rfl⟩ := mem_soloBlockers.mp hnoted
    exact ⟨solo, hsolo, htest, rfl⟩
  · intro h
    obtain ⟨solo, hsolo, htest, rfl⟩ := h
    exact ⟨_, mem_soloBlockers.mpr ⟨solo, hsolo, htest, rfl⟩, rfl⟩

theorem not_isSoloBlocker_of_isAgreement (h : isAgreement entry = true) :
    isSoloBlocker entry = false := by
  rw [isSoloBlocker, h]
  rfl

/-- No theme is both agreed on and kept alone. -/
theorem not_mem_soloThemes
    (h : theme ∈ (consensusSummary order py roles).agreements.map ConsensusEntry.theme) :
    theme ∉ (consensusSummary order py roles).soloBlockers.map ConsensusEntry.theme := by
  intro hsolo
  obtain ⟨agreed, hagreed, htest, hname⟩ := mem_agreedThemes.mp h
  obtain ⟨solo, hmem, hblocks, htheme⟩ := mem_soloThemes.mp hsolo
  have heq : agreed = solo := eq_of_theme hagreed hmem (hname.trans htheme.symm)
  rw [← heq, not_isSoloBlocker_of_isAgreement htest] at hblocks
  contradiction

theorem nodup_listedThemes :
    (((consensusSummary order py roles).agreements ++
      (consensusSummary order py roles).soloBlockers).map ConsensusEntry.theme).Nodup := by
  have hfilter : ∀ test : ConsensusEntry → Bool,
      (((consensusEntries order py roles).filter test).map ConsensusEntry.theme).Nodup :=
    fun test => nodup_themes.sublist (List.filter_sublist.map _)
  rw [List.map_append]
  refine List.Nodup.append ?_ ?_ fun theme hagreed => not_mem_soloThemes hagreed
  · exact ((List.perm_insertionSort _ _).map _).nodup_iff.mpr (hfilter isAgreement)
  · refine ((List.perm_insertionSort _ _).map _).nodup_iff.mpr ?_
    rw [List.map_map]
    exact hfilter isSoloBlocker

/-- A theme with a blocking finding is agreed on or kept alone. -/
theorem listed_of_blocking {item : ConsensusItem} (hitem : item ∈ consensusItems py roles)
    (hseverity : isBlockingSeverity item.severity = true) :
    Xor (itemTheme py item ∈ (consensusSummary order py roles).agreements.map ConsensusEntry.theme)
      (itemTheme py item ∈ (consensusSummary order py roles).soloBlockers.map ConsensusEntry.theme) := by
  have hreported : item ∈ reportedFor py roles (itemTheme py item) :=
    List.mem_filter.mpr ⟨hitem, decide_eq_true rfl⟩
  have hentry := mem_consensusEntries_iff.mpr
    ⟨itemTheme py item, List.ne_nil_of_mem hreported, (rfl : consensusEntry order _ _ = _)⟩
  by_cases hagreed : isAgreement (consensusEntry order (itemTheme py item)
      (reportedFor py roles (itemTheme py item))) = true
  · have hmem := mem_agreedThemes.mpr ⟨_, hentry, hagreed, rfl⟩
    exact .inl ⟨hmem, not_mem_soloThemes hmem⟩
  · have hblocks := (summarizes_of_mem hentry).blocking hreported hseverity
    have hmem := mem_soloThemes.mpr ⟨_, hentry, by simp [isSoloBlocker, hagreed, hblocks], rfl⟩
    exact .inr ⟨hmem, fun hboth => not_mem_soloThemes hboth hmem⟩

end

/-! ## The summary as a whole -/

/-- Every blocking finding is in one list, and the lists say what was reported. -/
structure Consents (py : Interpreter) (roles : List RoleEntry) (summary : ConsensusSummary) : Prop where
  blocking_once : ∀ role ∈ roles, ∀ finding ∈ role.findings, isObject finding = true →
    strip role.role ≠ "" → textField py finding "title" ≠ "" →
    consensusSeverity py finding ∈ ["HIGH", "CRITICAL"] →
      Xor (findingTheme py (textField py finding "title") ∈
          summary.agreements.map ConsensusEntry.theme)
        (findingTheme py (textField py finding "title") ∈
          summary.soloBlockers.map ConsensusEntry.theme)
  themes_once : ((summary.agreements ++ summary.soloBlockers).map ConsensusEntry.theme).Nodup
  agreed : ∀ entry ∈ summary.agreements, 2 ≤ entry.roles.length ∧ Summarizes py roles entry
  alone : ∀ entry ∈ summary.soloBlockers, entry.roles.length < 2 ∧ Summarizes py roles entry
  disagreed_iff : ∀ entry, entry ∈ summary.disagreements ↔
    ∃ agreed ∈ summary.agreements, 2 ≤ agreed.severities.length ∧
      { agreed with note := some disagreementNote } = entry

/-- In whatever order the sets are gone through, every blocking theme is listed once. -/
theorem consensus_partition (order : SetOrder String) (py : Interpreter) (roles : List RoleEntry) :
    Consents py roles (consensusSummary order py roles) where
  blocking_once := by
    intro role hrole finding hfinding hobject hname htitle hseverity
    obtain ⟨item, hitem, htheme, hitemSeverity⟩ := exists_consensusItem hobject hname htitle
    have hblocks : isBlockingSeverity item.severity = true := by
      rw [hitemSeverity]
      exact decide_eq_true hseverity
    rw [← htheme]
    exact listed_of_blocking (mem_consensusItems hrole hfinding hitem) hblocks
  themes_once := nodup_listedThemes
  agreed := by
    intro entry hentry
    obtain ⟨hmem, htest⟩ := mem_agreements.mp hentry
    exact ⟨of_decide_eq_true htest, summarizes_of_mem hmem⟩
  alone := by
    intro entry hentry
    obtain ⟨solo, hmem, htest, rfl⟩ := mem_soloBlockers.mp hentry
    rw [isSoloBlocker, Bool.and_eq_true, Bool.not_eq_true'] at htest
    exact ⟨not_le.mp (of_decide_eq_false htest.1), (summarizes_of_mem hmem).noted _⟩
  disagreed_iff := by
    intro entry
    rw [mem_disagreements]
    constructor
    · intro h
      obtain ⟨agreed, hmem, htest, rfl⟩ := h
      rw [isDisagreement, Bool.and_eq_true] at htest
      exact ⟨agreed, mem_agreements.mpr ⟨hmem, htest.1⟩, of_decide_eq_true htest.2, rfl⟩
    · intro h
      obtain ⟨agreed, hagreed, hseverities, rfl⟩ := h
      obtain ⟨hmem, htest⟩ := mem_agreements.mp hagreed
      exact ⟨agreed, hmem, by simp [isDisagreement, htest, hseverities], rfl⟩

end TruePresenceESE.Ese
