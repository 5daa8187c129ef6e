import DeviceMetricsExporter.Testrunner.Impl.Rvs

/-!
This module contains the results that `parseRvsTestResult` returns for a document: the last record of
a GPU under an action decides, in the suite that is visited last.
-/

namespace Testrunner

/--
A record with an empty result says nothing.
-/
def lastRecord (records : List RvsGPUTestResult) (gpuID : String) : Option RvsGPUTestResult :=
  GoMap.lastWith (·.gpuID) (records.filter (·.pass ≠ "")) gpuID

def actionAssignments (test : Sigma fun _ : String => List RvsGPUTestResult)
    : List ((String × String) × TestResult) :=
  (test.2.filter (·.pass ≠ "")).map fun gpu => ((gpu.gpuID, test.1), getTestResultEnum gpu.pass)

def suiteAssignments (suite : GoMap String (List RvsGPUTestResult))
    : List ((String × String) × TestResult) :=
  suite.entries.flatMap actionAssignments

theorem foldl_record_eq (test : Sigma fun _ : String => List RvsGPUTestResult)
    (testResult : GoMap String TestResults)
    : test.2.foldl (RvsGPUTestResult.record test.1) testResult
      = testResult.assignEach (actionAssignments test) := by
  rcases test with ⟨name, records⟩
  induction records generalizing testResult with
  | nil => rfl
  | cons gpu records ih =>
    simp only [List.foldl_cons, RvsGPUTestResult.record] at ih ⊢
    split
    . next hpass =>
      rw [ih, actionAssignments, actionAssignments, List.filter_cons_of_neg (by simpa using hpass)]
    . next hpass =>
      rw [ih, actionAssignments, actionAssignments, List.filter_cons_of_pos (by simpa using hpass)]
      rfl

theorem testResult_eq (data : RvsTestResult)
    : data.testResult
      = GoMap.assignEach ∅ (data.testSuites.entries.flatMap fun suite => suiteAssignments suite.2) := by
  simp only [RvsTestResult.testResult, foldl_record_eq, suiteAssignments, GoMap.assignEach,
    List.foldl_flatMap]

theorem lastAssigned_actionAssignments (test : Sigma fun _ : String => List RvsGPUTestResult)
    (gpuID name : String)
    : GoMap.lastAssigned (actionAssignments test) gpuID name
      = if test.1 = name then (lastRecord test.2 gpuID).map fun gpu => getTestResultEnum gpu.pass
        else none := by
  split
  . next h =>
    subst h
    simp only [GoMap.lastAssigned, GoMap.lastWith, actionAssignments, lastRecord, List.filter_map,
      Prod.mk.injEq, and_true, Function.comp_def, List.getLast?_map, Option.map_map]
  . next h =>
    rw [GoMap.lastAssigned_eq_none]
    intro w hw hkeys
    rcases List.mem_map.mp hw with ⟨gpu, -, rfl⟩
    cases hkeys
    exact h rfl

theorem lastAssigned_suiteAssignments (suite : GoMap String (List RvsGPUTestResult))
    (gpuID name : String)
    : GoMap.lastAssigned (suiteAssignments suite) gpuID name
      = (suite.lookup name).bind fun records =>
          (lastRecord records gpuID).map fun gpu => getTestResultEnum gpu.pass := by
  have hmem {records : List RvsGPUTestResult}
      : suite.lookup name = some records ↔ ⟨name, records⟩ ∈ suite.entries := AList.mem_lookup_iff
  have huse {test : Sigma fun _ : String => List RvsGPUTestResult} {v : TestResult}
      (htest : test ∈ suite.entries)
      (hlast : GoMap.lastAssigned (actionAssignments test) gpuID name = some v)
      : (suite.lookup name).bind (fun records =>
          (lastRecord records gpuID).map fun gpu => getTestResultEnum gpu.pass) = some v := by
    rw [lastAssigned_actionAssignments] at hlast
    split at hlast
    . next h =>
      subst h
      rw [hmem.mpr htest, Option.bind_some, hlast]
    . cases hlast
  apply Option.ext
  intro v
  constructor
  . intro h
    rcases GoMap.exists_of_lastAssigned_flatMap h with ⟨test, htest, hlast⟩
    exact huse htest hlast
  . intro h
    rcases Option.bind_eq_some_iff.mp h with ⟨records, hlookup, hrecord⟩
    apply GoMap.lastAssigned_flatMap_of_forall
    . refine ⟨⟨name, records⟩, hmem.mp hlookup, ?_⟩
      rw [lastAssigned_actionAssignments, if_pos rfl, hrecord]
    . intro test htest v' hlast
      have h' := huse htest hlast
      rw [h] at h'
      exact (Option.some.inj h').symm

theorem parseRvsTestResult_eq_ok_iff {json : Unmarshal} {file : Except String Bytes}
    {testResult : GoMap String TestResults}
    : parseRvsTestResult json file = .ok testResult ↔
        ∃ b data, file = .ok b ∧ unmarshalWithRetries json b = .ok data ∧
          data.testResult = testResult := by
  cases file with
  | error err => simp [parseRvsTestResult]
  | ok b =>
    cases hread : unmarshalWithRetries json b with
    | error err => simp [parseRvsTestResult, hread]
    | ok data => simp [parseRvsTestResult, hread]

end Testrunner
