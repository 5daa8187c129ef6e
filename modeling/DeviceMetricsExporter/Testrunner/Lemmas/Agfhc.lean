import DeviceMetricsExporter.Testrunner.Impl.Agfhc

/-!
This module contains the results that `parseAgfhcTestResult` returns: for the last device of a number
they are the last results of each test.
-/

namespace Testrunner

section Subjects

variable {subject : String}

theorem failedDeviceIDs.go_eq (failed subjectsList : List String)
    : (failedDeviceIDs.go failed subjectsList).2 = (subjectsList.any fun s => !isValidGPUID s) ∧
      ((failedDeviceIDs.go failed subjectsList).2 = false →
        (failedDeviceIDs.go failed subjectsList).1 = failed ++ subjectsList) := by
  induction subjectsList generalizing failed with
  | nil => simp [go]
  | cons s subjectsList ih =>
    cases hs : isValidGPUID s with
    | true => simpa [go, hs] using ih (failed ++ [s])
    | false => simp [go, hs]

def Unattributed (subject : String) : Prop :=
  subject = "" ∨ ∃ s ∈ split subject ':', isValidGPUID s = false

theorem split_ne_nil (s : String) (sep : Char) : split s sep ≠ [] := by
  rw [split, ne_eq, List.map_eq_nil_iff]
  exact List.splitOn_ne_nil sep s.toList

theorem failedDeviceIDs_of_unattributed (h : Unattributed subject)
    : (failedDeviceIDs subject).2 = true ∨ (failedDeviceIDs subject).1 = [] := by
  rcases h with rfl | ⟨s, hs, hinvalid⟩
  . exact Or.inr rfl
  . rw [failedDeviceIDs]
    split
    . exact Or.inr rfl
    . apply Or.inl
      rw [(failedDeviceIDs.go_eq [] _).1, List.any_eq_true]
      exact ⟨s, hs, by simp [hinvalid]⟩

theorem failedDeviceIDs_of_not_unattributed (h : ¬Unattributed subject)
    : failedDeviceIDs subject = (split subject ':', false) := by
  rw [Unattributed, not_or] at h
  rcases h with ⟨hempty, hvalid⟩
  have hany : (failedDeviceIDs.go [] (split subject ':')).2 = false := by
    rw [(failedDeviceIDs.go_eq [] _).1, List.any_eq_false]
    intro s hs hinvalid
    exact hvalid ⟨s, hs, by simpa using hinvalid⟩
  have hlist := (failedDeviceIDs.go_eq [] _).2 hany
  rw [failedDeviceIDs, if_neg hempty]
  exact Prod.ext hlist hany

variable [CaseMap]

theorem resultFor_eq_failure_iff {info : TestResultInfo}
    (hstate : toLower info.state = agfhcTestStateFailed) (id : String)
    : info.resultFor id = .Failure ↔ Unattributed info.subject ∨ id ∈ split info.subject ':' := by
  have hpassed : ¬agfhcTestStateFailed = agfhcTestStatePassed := by
    decide
  simp only [TestResultInfo.resultFor, mapToTestResultEnum, hstate, if_neg hpassed, if_true]
  by_cases h : Unattributed info.subject
  . rcases failedDeviceIDs_of_unattributed h with hfailed | hfailed
    . simp [hfailed, h]
    . simp [hfailed, h]
  . have hpos := List.length_pos_iff.mpr (split_ne_nil info.subject ':')
    simp [failedDeviceIDs_of_not_unattributed h, h, hpos]

end Subjects

section Parse

variable [CaseMap] {range : Nat → List TestResultInfo}

def assignments (range : Nat → List TestResultInfo) (n : Nat)
    : List String → List ((String × String) × TestResult)
  | [] => []
  | id :: ids =>
    ((range n).map fun info => (((removeLeadingZeros id).getD "", info.test), info.resultFor id))
      ++ assignments range (n + 1) ids

theorem parseAgfhcTestResult.go_eq (testResult : GoMap String TestResults) (n : Nat)
    (ids : List String)
    : go range testResult n ids
      = if ids.all fun id => (removeLeadingZeros id).isSome then
          some (testResult.assignEach (assignments range n ids))
        else none := by
  induction ids generalizing testResult n with
  | nil => rfl
  | cons id ids ih =>
    simp only [go]
    split
    . next hid => simp [hid]
    . next gpuID hid =>
      simp only [ih, List.all_cons, assignments, hid, Option.isSome_some, Bool.true_and,
        Option.getD_some, GoMap.assignEach, List.foldl_append, List.foldl_map]

theorem parseAgfhcTestResult_eq_some_iff {ids : List String} {m : GoMap String TestResults}
    : parseAgfhcTestResult ids range = some m ↔
        (∀ id ∈ ids, (removeLeadingZeros id).isSome = true) ∧
          m = GoMap.assignEach ∅ (assignments range 0 ids) := by
  rw [parseAgfhcTestResult, parseAgfhcTestResult.go_eq, ← List.all_eq_true]
  split
  . next h => simp [h, eq_comm]
  . next h => simp [h]

theorem lastAssigned_range (id gpuID test : String) (results : List TestResultInfo)
    : GoMap.lastAssigned (results.map fun info => ((gpuID, info.test), info.resultFor id)) gpuID test
      = (GoMap.lastWith (·.test) results test).map (·.resultFor id) := by
  simp only [GoMap.lastAssigned, GoMap.lastWith, List.filter_map, Prod.mk.injEq, true_and,
    Function.comp_def, List.getLast?_map, Option.map_map]

theorem mem_assignments {ids : List String} {n : Nat} {w : (String × String) × TestResult}
    (h : w ∈ assignments range n ids) : ∃ id ∈ ids, (removeLeadingZeros id).getD "" = w.1.1 := by
  induction ids generalizing n with
  | nil => cases h
  | cons id ids ih =>
    rw [assignments, List.mem_append] at h
    rcases h with h | h
    . rcases List.mem_map.mp h with ⟨info, -, rfl⟩
      exact ⟨id, List.mem_cons_self, rfl⟩
    . rcases ih h with ⟨id', hid', hkey⟩
      exact ⟨id', List.mem_cons_of_mem _ hid', hkey⟩

theorem lastAssigned_assignments {ids : List String} {id gpuID : String}
    (hsome : ∀ id ∈ ids, (removeLeadingZeros id).isSome = true)
    (hlast : GoMap.lastWith removeLeadingZeros ids (some gpuID) = some id) {test : String}
    (htest : ∀ n, ∃ info ∈ range n, info.test = test) (n : Nat)
    : ∃ n', GoMap.lastAssigned (assignments range n ids) gpuID test
        = (GoMap.lastWith (·.test) (range n') test).map (·.resultFor id) := by
  induction ids generalizing n with
  | nil => cases hlast
  | cons id' ids ih =>
    rw [assignments, GoMap.lastAssigned_append]
    rw [GoMap.lastWith_cons] at hlast
    have hsome' : ∀ id ∈ ids, (removeLeadingZeros id).isSome = true := fun id hid =>
      hsome id (List.mem_cons_of_mem _ hid)
    cases hrest : GoMap.lastWith removeLeadingZeros ids (some gpuID) with
    | some id'' =>
      rw [hrest, Option.some_or] at hlast
      cases hlast
      rcases ih hsome' hrest (n + 1) with ⟨n', hn'⟩
      refine ⟨n', ?_⟩
      rw [hn']
      cases hlookup : GoMap.lastWith (·.test) (range n') test with
      | some info => rfl
      | none =>
        rw [GoMap.lastWith_eq_none] at hlookup
        rcases htest n' with ⟨info, hinfo, rfl⟩
        exact absurd rfl (hlookup info hinfo)
    | none =>
      rw [hrest, Option.none_or] at hlast
      split at hlast
      . next hkey =>
        cases hlast
        refine ⟨n, ?_⟩
        have hnone : GoMap.lastAssigned (assignments range (n + 1) ids) gpuID test = none := by
          rw [GoMap.lastAssigned_eq_none]
          rw [GoMap.lastWith_eq_none] at hrest
          intro w hw hkeys
          rcases mem_assignments hw with ⟨id, hid, hnumber⟩
          rcases Option.isSome_iff_exists.mp (hsome' id hid) with ⟨gpuID', hgpuID⟩
          rw [hgpuID, Option.getD_some, hkeys] at hnumber
          apply hrest id hid
          rw [hgpuID, hnumber]
        rw [hnone, Option.none_or, hkey, Option.getD_some, lastAssigned_range]
      . cases hlast

def FailsFor (ids : List String) (range : Nat → List TestResultInfo) (id test : String) : Prop :=
  ∃ m gpuID, parseAgfhcTestResult ids range = some m ∧ removeLeadingZeros id = some gpuID ∧
    m.cell gpuID test = some .Failure

theorem isSome_of_failsFor {ids : List String} {id test : String} (h : FailsFor ids range id test)
    : ∀ id ∈ ids, (removeLeadingZeros id).isSome = true := by
  rcases h with ⟨m, -, hparse, -⟩
  exact (parseAgfhcTestResult_eq_some_iff.mp hparse).1

theorem exists_failsFor_iff {ids : List String} {id test : String} (hid : id ∈ ids)
    (hsome : ∀ id ∈ ids, (removeLeadingZeros id).isSome = true)
    (htest : ∀ n, ∃ info ∈ range n, info.test = test)
    : ∃ n id', GoMap.lastWith removeLeadingZeros ids (removeLeadingZeros id) = some id' ∧
        (FailsFor ids range id test ↔
          (GoMap.lastWith (·.test) (range n) test).map (·.resultFor id') = some .Failure) := by
  rcases Option.isSome_iff_exists.mp (hsome id hid) with ⟨gpuID, hgpuID⟩
  cases hlast : GoMap.lastWith removeLeadingZeros ids (removeLeadingZeros id) with
  | none =>
    rw [GoMap.lastWith_eq_none] at hlast
    exact absurd rfl (hlast id hid)
  | some id' =>
    rw [hgpuID] at hlast
    rcases lastAssigned_assignments hsome hlast htest 0 with ⟨n, hn⟩
    refine ⟨n, id', rfl, ?_⟩
    have hcell : (GoMap.assignEach ∅ (assignments range 0 ids)).cell gpuID test
        = (GoMap.lastWith (·.test) (range n) test).map (·.resultFor id') := by
      rw [GoMap.cell_assignEach, hn]
      exact Option.or_none
    rw [← hcell]
    constructor
    . rintro ⟨m, gpuID', hparse, hgpuID', hfailure⟩
      rw [hgpuID] at hgpuID'
      cases hgpuID'
      rw [← (parseAgfhcTestResult_eq_some_iff.mp hparse).2]
      exact hfailure
    . intro hfailure
      exact ⟨_, gpuID, parseAgfhcTestResult_eq_some_iff.mpr ⟨hsome, rfl⟩, hgpuID, hfailure⟩

end Parse

end Testrunner
