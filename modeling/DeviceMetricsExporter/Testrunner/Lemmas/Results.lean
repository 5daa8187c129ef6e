import DeviceMetricsExporter.Testrunner.Impl.Results

/-!
This module contains the verdict of `getOverallResult` in terms of the results it is given.
-/

namespace Testrunner

def actionsOf (res : GoMap String TestResults) : List TestResult :=
  res.entries.flatMap fun e => e.2.entries.map (·.2)

def cleanSuites (res : GoMap String TestResults) : Bool :=
  !res.entries.isEmpty && (actionsOf res).all fun result =>
    result = .Success || result = .Skipped || result = .Cancelled

namespace IterationResult

def actions (r : IterationResult) : List TestResult :=
  actionsOf r.suitesResult

def clean (r : IterationResult) : Bool :=
  r.status ≠ .TestTimedOut && cleanSuites r.suitesResult

def hasNoResult (r : IterationResult) : Bool :=
  r.status ≠ .TestTimedOut && r.suitesResult.entries.isEmpty

end IterationResult

namespace Found

def addActions (found : Found) (results : List TestResult) : Found where
  emptyResult := found.emptyResult
  timedout := found.timedout || decide (.Timedout ∈ results)
  skipped := found.skipped || decide (.Skipped ∈ results)
  passed := found.passed || decide (.Success ∈ results)
  queued := found.queued || decide (.Queued ∈ results)

def addResults (found : Found) (result : List IterationResult) : Found where
  emptyResult := found.emptyResult || result.any (·.hasNoResult)
  timedout := found.timedout ||
    result.any fun r => decide (r.status = .TestTimedOut) || decide (.Timedout ∈ r.actions)
  skipped := found.skipped || result.any fun r => decide (.Skipped ∈ r.actions)
  passed := found.passed || result.any fun r => decide (.Success ∈ r.actions)
  queued := found.queued || result.any fun r => decide (.Queued ∈ r.actions)

theorem scanActions_eq (found : Found) (results : List TestResult)
    : found.scanActions results
      = if .Failure ∈ results then none else some (found.addActions results) := by
  induction results generalizing found with
  | nil => simp [scanActions, addActions]
  | cons result results ih => cases result <;> simp [scanActions, ih, addActions]

theorem addActions_append (found : Found) (results results' : List TestResult)
    : found.addActions (results ++ results') = (found.addActions results).addActions results' := by
  simp [addActions, Bool.or_assoc]

theorem scanSuites_eq (found : Found) (suites : List TestResults)
    : found.scanSuites suites
      = found.scanActions (suites.flatMap fun suite => suite.entries.map (·.2)) := by
  induction suites generalizing found with
  | nil => rfl
  | cons suite suites ih =>
    by_cases h : .Failure ∈ suite.entries.map (·.2)
    . simp [scanSuites, scanActions_eq, h]
    . simp only [scanSuites, List.flatMap_cons, scanActions_eq, h, if_false, ih, addActions_append,
        List.mem_append, false_or]

theorem scanSuites_suitesResult (found : Found) (r : IterationResult)
    : found.scanSuites (r.suitesResult.entries.map (·.2))
      = if .Failure ∈ r.actions then none else some (found.addActions r.actions) := by
  rw [scanSuites_eq, scanActions_eq, List.flatMap_map]
  rfl

end Found

theorem getOverallResult.go_fst (validIDs : List String) (found : Found)
    (seen result : List IterationResult)
    : (getOverallResult.go validIDs found seen result).1
      = if result.any fun r => decide (.Failure ∈ r.actions) then .Failure
        else (found.addResults result).verdict := by
  induction result generalizing found seen with
  | nil => simp [go, Found.addResults]
  | cons r result ih =>
    simp only [go, Found.scanSuites_suitesResult]
    by_cases hfailure : .Failure ∈ r.actions
    . simp [hfailure]
    . simp only [hfailure, if_false, List.any_cons, decide_false, Bool.false_or]
      split
      . next hstatus =>
        rw [ih]
        simp [Found.addResults, Found.addActions, IterationResult.hasNoResult, hstatus,
          Bool.or_assoc]
      . next hstatus =>
        split
        . next hempty =>
          rw [ih]
          simp [Found.addResults, Found.addActions, IterationResult.hasNoResult, hstatus, hempty,
            Bool.or_assoc]
        . next hempty =>
          rw [ih]
          simp [Found.addResults, Found.addActions, IterationResult.hasNoResult, hstatus, hempty,
            Bool.or_assoc]

theorem getOverallResult_fst (result : List IterationResult) (validIDs : List String)
    : (getOverallResult result validIDs).1
      = if result.any fun r => decide (.Failure ∈ r.actions) then .Failure
        else (Found.addResults {} result).verdict :=
  getOverallResult.go_fst validIDs {} [] result

theorem IterationResult.clean_iff {r : IterationResult}
    : r.clean = true ↔ .Failure ∉ r.actions ∧ r.hasNoResult = false ∧ r.status ≠ .TestTimedOut
        ∧ .Timedout ∉ r.actions ∧ .Queued ∉ r.actions := by
  have hall : (r.actions.all fun result =>
        result = .Success || result = .Skipped || result = .Cancelled) = true
      ↔ .Failure ∉ r.actions ∧ .Timedout ∉ r.actions ∧ .Queued ∉ r.actions := by
    rw [List.all_eq_true]
    constructor
    . intro h
      refine ⟨?_, ?_, ?_⟩
      all_goals
        intro hmem
        have := h _ hmem
        simp at this
    . rintro ⟨hfailure, htimedout, hqueued⟩ result hmem
      cases result with
      | Failure => contradiction
      | Timedout => contradiction
      | Queued => contradiction
      | _ => rfl
  rw [clean, cleanSuites, Bool.and_eq_true, Bool.and_eq_true, show actionsOf r.suitesResult
    = r.actions from rfl, hall]
  simp [hasNoResult]
  tauto

theorem Found.verdict_eq_success_iff (found : Found)
    : found.verdict = .Success ↔ found.emptyResult = false ∧ found.timedout = false
        ∧ found.queued = false ∧ (found.passed = true ∨ found.skipped = false) := by
  rcases found with ⟨emptyResult, timedout, skipped, passed, queued⟩
  revert emptyResult timedout skipped passed queued
  decide

theorem getOverallResult_eq_success_iff (result : List IterationResult) (validIDs : List String)
    : (getOverallResult result validIDs).1 = .Success ↔
        (∀ r ∈ result, r.clean = true) ∧
          ((∃ r ∈ result, .Success ∈ r.actions) ∨ ∀ r ∈ result, .Skipped ∉ r.actions) := by
  rw [getOverallResult_fst]
  simp only [IterationResult.clean_iff]
  split
  . next h =>
    simp only [List.any_eq_true, decide_eq_true_eq] at h
    rcases h with ⟨r, hr, hfailure⟩
    constructor
    . nofun
    . rintro ⟨hclean, -⟩
      exact absurd hfailure (hclean r hr).1
  . next h =>
    rw [Found.verdict_eq_success_iff]
    simp only [Found.addResults, Bool.false_or, List.any_eq_true, List.any_eq_false,
      decide_eq_true_eq, Bool.or_eq_true, not_exists, not_and, not_or, Bool.not_eq_true] at h ⊢
    constructor
    . rintro ⟨hempty, htimedout, hqueued, hpassed⟩
      exact ⟨fun r hr => ⟨h r hr, hempty r hr, (htimedout r hr).1, (htimedout r hr).2,
        hqueued r hr⟩, hpassed⟩
    . rintro ⟨hclean, hpassed⟩
      exact ⟨fun r hr => (hclean r hr).2.1, fun r hr => ⟨(hclean r hr).2.2.1, (hclean r hr).2.2.2.1⟩,
        fun r hr => (hclean r hr).2.2.2.2, hpassed⟩

end Testrunner
