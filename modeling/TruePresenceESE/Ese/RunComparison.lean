import TruePresenceESE.Lib.Lists
import TruePresenceESE.Lib.Keyed
import TruePresenceESE.Ese.RunExports

/-! # Comparing a run with the one before

Blockers of two runs are matched by role and theme of the title. The comparison is made
between the keys, so it speaks of one blocker for each of them.
-/

namespace TruePresenceESE.Ese

open PyText PyValue

abbrev BlockerKey := String ×ₗ String

def blockerKey (py : Interpreter) (blocker : Blocker) : BlockerKey :=
  toLex (strip blocker.role, findingTheme py (strip blocker.title))

structure Comparison where
  previousArtifactsDir : Option String
  newBlockers : List Blocker
  resolvedBlockers : List Blocker
  persistentBlockers : List Blocker

def comparisonSummary (reader : Reader) (previousRunDir : Option String)
    (blockers : List Blocker) : Except ReportError Comparison :=
  match previousRunDir with
  | none => .ok ⟨none, [], [], []⟩
  | some previous => do
      let previousReport ← collectRun reader previous
      let currentMap := Dict.lastBy (blockerKey reader.py) blockers
      let previousMap := Dict.lastBy (blockerKey reader.py) previousReport.blockers
      let newKeys := currentMap.keys.filter (· ∉ previousMap.keys)
      let resolvedKeys := previousMap.keys.filter (· ∉ currentMap.keys)
      let persistentKeys := currentMap.keys.filter (· ∈ previousMap.keys)
      return { previousArtifactsDir := some (PosixPath.pathText previous)
               newBlockers := currentMap.sortedValues newKeys
               resolvedBlockers := previousMap.sortedValues resolvedKeys
               persistentBlockers := currentMap.sortedValues persistentKeys }

/-! ## Accounting -/

section
variable (py : Interpreter)

/-- A blocker with the same role and theme is on the list. -/
def Listed (blockers : List Blocker) (blocker : Blocker) : Prop :=
  ∃ b ∈ blockers, blockerKey py b = blockerKey py blocker

/-- Every blocker is accounted for by its key, on one list and not on the other. -/
structure Accounts (current previous : List Blocker) (comparison : Comparison) : Prop where
  current_once : ∀ b ∈ current,
    Xor (Listed py comparison.newBlockers b) (Listed py comparison.persistentBlockers b)
  previous_once : ∀ b ∈ previous,
    Xor (Listed py comparison.resolvedBlockers b) (Listed py comparison.persistentBlockers b)
  count : comparison.newBlockers.length + comparison.persistentBlockers.length =
    (current.map (blockerKey py)).dedup.length
  count_iff : comparison.newBlockers.length + comparison.persistentBlockers.length =
    current.length ↔ (current.map (blockerKey py)).Nodup
  persistent : ∀ b ∈ comparison.persistentBlockers, b ∈ current ∧ Listed py previous b
  fresh : ∀ b ∈ comparison.newBlockers, b ∈ current ∧ ¬ Listed py previous b
  resolved : ∀ b ∈ comparison.resolvedBlockers, b ∈ previous ∧ ¬ Listed py current b

end

section
variable {py : Interpreter} {blockers other : List Blocker} {b : Blocker} {test : BlockerKey → Bool}

theorem mem_keys_iff_listed : blockerKey py b ∈ (Dict.lastBy (blockerKey py) blockers).keys ↔
    Listed py blockers b :=
  Dict.mem_keys_lastBy (blockerKey py)

/-- The keys that pass a test, and one blocker for each. -/
theorem map_selected (py : Interpreter) (blockers : List Blocker) (test : BlockerKey → Bool) :
    (((Dict.lastBy (blockerKey py) blockers).sortedValues
        ((Dict.lastBy (blockerKey py) blockers).keys.filter test)).map (blockerKey py)).Perm
      ((Dict.lastBy (blockerKey py) blockers).keys.filter test) :=
  Dict.map_sortedValues (fun _ _ h => (Dict.of_get?_lastBy _ h).2)
    fun _ hk => (List.mem_filter.mp hk).1

theorem listed_selected_iff :
    Listed py ((Dict.lastBy (blockerKey py) blockers).sortedValues
        ((Dict.lastBy (blockerKey py) blockers).keys.filter test)) b ↔
      Listed py blockers b ∧ test (blockerKey py b) = true := by
  have hmap := (map_selected py blockers test).mem_iff (a := blockerKey py b)
  rw [List.mem_filter, mem_keys_iff_listed, List.mem_map] at hmap
  exact hmap

theorem mem_selected_blockers (h : b ∈ (Dict.lastBy (blockerKey py) blockers).sortedValues
    ((Dict.lastBy (blockerKey py) blockers).keys.filter test)) :
    b ∈ blockers ∧ test (blockerKey py b) = true := by
  obtain ⟨k, hk, hget⟩ := Dict.mem_sortedValues.mp h
  obtain ⟨hmem, hkey⟩ := Dict.of_get?_lastBy _ hget
  rw [hkey]
  exact ⟨hmem, (List.mem_filter.mp hk).2⟩

theorem length_selected :
    ((Dict.lastBy (blockerKey py) blockers).sortedValues
      ((Dict.lastBy (blockerKey py) blockers).keys.filter test)).length =
        ((Dict.lastBy (blockerKey py) blockers).keys.filter test).length := by
  have hlength := (map_selected py blockers test).length_eq
  rwa [List.length_map] at hlength

/-- Each blocker of either run is in one of its two classes, one blocker for each role and
theme. -/
theorem comparison_accounts {reader : Reader} {previous : String} {current : List Blocker}
    {comparison : Comparison}
    (h : comparisonSummary reader (some previous) current = .ok comparison) :
    ∃ prior, collectRun reader previous = .ok prior ∧
      Accounts reader.py current prior.blockers comparison := by
  obtain ⟨prior, hprior, h⟩ := Fallible.bind_eq_ok_iff.mp h
  cases h
  refine ⟨prior, hprior, ?_⟩
  have hcount : (((Dict.lastBy (blockerKey reader.py) current).sortedValues
      ((Dict.lastBy (blockerKey reader.py) current).keys.filter fun k =>
        k ∉ (Dict.lastBy (blockerKey reader.py) prior.blockers).keys)).length +
      ((Dict.lastBy (blockerKey reader.py) current).sortedValues
        ((Dict.lastBy (blockerKey reader.py) current).keys.filter fun k =>
          k ∈ (Dict.lastBy (blockerKey reader.py) prior.blockers).keys)).length) =
        (current.map (blockerKey reader.py)).dedup.length := by
    rw [length_selected, length_selected, ← Dict.length_keys_lastBy, Nat.add_comm]
    simp only [decide_not]
    exact (List.length_eq_length_filter_add _).symm
  exact {
    current_once := by
      intro b hb
      rw [listed_selected_iff, listed_selected_iff, decide_eq_true_eq, decide_eq_true_eq,
        mem_keys_iff_listed]
      have hlisted : Listed reader.py current b := ⟨b, hb, rfl⟩
      simp only [hlisted, true_and]
      exact xor_not_left.mpr Iff.rfl
    previous_once := by
      intro b hb
      rw [listed_selected_iff, listed_selected_iff, decide_eq_true_eq, decide_eq_true_eq,
        mem_keys_iff_listed, mem_keys_iff_listed]
      have hlisted : Listed reader.py prior.blockers b := ⟨b, hb, rfl⟩
      simp only [hlisted, true_and, and_true]
      exact xor_not_left.mpr Iff.rfl
    count := hcount
    count_iff := by
      rw [hcount, ← Lists.length_dedup_eq_iff, List.length_map]
    persistent := by
      intro b hb
      obtain ⟨hmem, htest⟩ := mem_selected_blockers hb
      exact ⟨hmem, mem_keys_iff_listed.mp (of_decide_eq_true htest)⟩
    fresh := by
      intro b hb
      obtain ⟨hmem, htest⟩ := mem_selected_blockers hb
      exact ⟨hmem, fun hlisted => of_decide_eq_true htest (mem_keys_iff_listed.mpr hlisted)⟩
    resolved := by
      intro b hb
      obtain ⟨hmem, htest⟩ := mem_selected_blockers hb
      exact ⟨hmem, fun hlisted => of_decide_eq_true htest (mem_keys_iff_listed.mpr hlisted)⟩ }

end

/-! ## Two runs -/

def asciiInterpreter : Interpreter where
  loads _ := none
  dumps _ := ""
  repr _ := ""
  isAlnum := Char.isAlphanum
  lower := PyText.lower
  lower_empty := by decide

/-- A reviewer's findings with these titles, each of them a blocker. -/
def reviewerArtifact (titles : List String) : FileContent :=
  .json (.obj [("findings", .arr (titles.map fun title =>
    .obj [("title", .str title), ("severity", .str "HIGH")]))])

def reviewerState : FileContent :=
  .json (.obj [("execution", .arr [.obj [("role", .str "reviewer"),
    ("artifact", .str "01_reviewer.json")]])])

def twoRunReader (current previous : List String) : Reader where
  py := asciiInterpreter
  workingDir := []
  fs location :=
    if location = ["new".toList, stateName.toList] ∨ location = ["old".toList, stateName.toList] then
      some reviewerState
    else if location = ["new".toList, "01_reviewer.json".toList] then
      some (reviewerArtifact current)
    else if location = ["old".toList, "01_reviewer.json".toList] then
      some (reviewerArtifact previous)
    else none

/-- The titles of the blockers of both runs, then of the new and the persistent ones. -/
def comparedTitles (reader : Reader) :
    Except ReportError (List String × List String × List String × List String) := do
  let report ← collectRun reader "/new"
  let prior ← collectRun reader "/old"
  let comparison ← comparisonSummary reader (some "/old") report.blockers
  return (report.blockers.map Blocker.title, prior.blockers.map Blocker.title,
    comparison.newBlockers.map Blocker.title, comparison.persistentBlockers.map Blocker.title)

theorem comparedTitles_ok {reader : Reader} {current prior new persistent : List String}
    (h : comparedTitles reader = .ok (current, prior, new, persistent)) :
    ∃ report priorReport comparison, collectRun reader "/new" = .ok report ∧
      collectRun reader "/old" = .ok priorReport ∧
      comparisonSummary reader (some "/old") report.blockers = .ok comparison ∧
      report.blockers.map Blocker.title = current ∧
      priorReport.blockers.map Blocker.title = prior ∧
      comparison.newBlockers.map Blocker.title = new ∧
      comparison.persistentBlockers.map Blocker.title = persistent := by
  obtain ⟨report, hreport, h⟩ := Fallible.bind_eq_ok_iff.mp h
  obtain ⟨priorReport, hprior, h⟩ := Fallible.bind_eq_ok_iff.mp h
  obtain ⟨comparison, hcomparison, h⟩ := Fallible.bind_eq_ok_iff.mp h
  have hlists := Except.ok.inj h
  rw [Prod.mk.injEq, Prod.mk.injEq, Prod.mk.injEq] at hlists
  exact ⟨report, priorReport, comparison, hreport, hprior, hcomparison, hlists⟩

theorem comparison_accounts_apart : ∃ current comparison prior,
    comparisonSummary (twoRunReader ["leak", "race"] ["leak"]) (some "/old") current =
        .ok comparison ∧
      collectRun (twoRunReader ["leak", "race"] ["leak"]) "/old" = .ok prior ∧
        Accounts (twoRunReader ["leak", "race"] ["leak"]).py current prior.blockers comparison := by
  have htitles : comparedTitles (twoRunReader ["leak", "race"] ["leak"]) =
      .ok (["leak", "race"], ["leak"], ["race"], ["leak"]) := by
    decide +kernel
  obtain ⟨report, -, comparison, -, -, hcomparison, -⟩ := comparedTitles_ok htitles
  obtain ⟨prior, hprior, haccounts⟩ := comparison_accounts hcomparison
  exact ⟨report.blockers, comparison, prior, hcomparison, hprior, haccounts⟩

/-- Two blockers of one theme are counted once, and a blocker persists although the
earlier run had none of its title. -/
theorem equal_themes_collapse :
    (¬ ∀ (reader : Reader) (artifactsDir previous : String) (report : RunReport)
      (comparison : Comparison), collectRun reader artifactsDir = .ok report →
        comparisonSummary reader (some previous) report.blockers = .ok comparison →
          comparison.newBlockers.length + comparison.persistentBlockers.length =
            report.blockers.length) ∧
      ¬ ∀ (reader : Reader) (artifactsDir previous : String) (report prior : RunReport)
        (comparison : Comparison), collectRun reader artifactsDir = .ok report →
          collectRun reader previous = .ok prior →
          comparisonSummary reader (some previous) report.blockers = .ok comparison →
            ∀ b ∈ comparison.persistentBlockers, b.title ∈ prior.blockers.map Blocker.title := by
  have htitles : comparedTitles (twoRunReader ["leak", "LEAK"] ["Leak!"]) =
      .ok (["leak", "LEAK"], ["Leak!"], [], ["LEAK"]) := by
    decide +kernel
  obtain ⟨report, prior, comparison, hreport, hprior, hcomparison, hcurrent, hearlier, hnew,
    hpersistent⟩ := comparedTitles_ok htitles
  constructor
  · intro hcount
    have hsum := hcount _ _ _ _ _ hreport hcomparison
    rw [← List.length_map Blocker.title, ← List.length_map Blocker.title,
      ← List.length_map Blocker.title, hnew, hpersistent, hcurrent] at hsum
    exact absurd hsum (by decide)
  · intro htitle
    have hmem : "LEAK" ∈ comparison.persistentBlockers.map Blocker.title := by
      rw [hpersistent]
      decide
    obtain ⟨b, hb, hleak⟩ := List.mem_map.mp hmem
    have hprevious := htitle _ _ _ _ _ _ hreport hprior hcomparison b hb
    rw [hearlier, hleak] at hprevious
    exact absurd hprevious (by decide)

end TruePresenceESE.Ese
