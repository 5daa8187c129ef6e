import DeviceMetricsExporter.Lib.NestedMap
import DeviceMetricsExporter.Testrunner.Lemmas.Results

/-!
This module contains the precedence of the results in the verdict of `getOverallResult`, and that
neither the order of its input nor the records it rewrites make a difference to it.
-/

namespace Testrunner

namespace IterationResult

/--
The same record, with the entries of its maps visited in another order.
-/
structure Reordered (r r' : IterationResult) : Prop where
  status_eq : r'.status = r.status
  suites : GoMap.Matches Eq (fun results results' : TestResults =>
    results'.entries.Perm results.entries) r.suitesResult r'.suitesResult

end IterationResult

def Reordered (result result' : List IterationResult) : Prop :=
  ∃ rs, rs.Perm result ∧ List.Forall₂ IterationResult.Reordered rs result'

section Precedence

variable (result : List IterationResult)

def HasAction (res : TestResult) : Prop :=
  ∃ r ∈ result, res ∈ r.actions

def Failing : Prop :=
  HasAction result .Failure ∨ ∃ r ∈ result, r.hasNoResult = true

def TimedOut : Prop :=
  (∃ r ∈ result, r.status = .TestTimedOut) ∨ HasAction result .Timedout

def OnlySkipped : Prop :=
  HasAction result .Skipped ∧ ¬HasAction result .Success

/--
Each of the verdicts is given exactly if its reason is there and none of those above it is.
-/
structure Precedence (verdict : TestResult) : Prop where
  failure : verdict = .Failure ↔ Failing result
  timedout : ¬Failing result → (verdict = .Timedout ↔ TimedOut result)
  queued : ¬Failing result → ¬TimedOut result → (verdict = .Queued ↔ HasAction result .Queued)
  skipped : ¬Failing result → ¬TimedOut result → ¬HasAction result .Queued →
    (verdict = .Skipped ↔ OnlySkipped result)
  success : ¬Failing result → ¬TimedOut result → ¬HasAction result .Queued → ¬OnlySkipped result →
    verdict = .Success

end Precedence

theorem Precedence.unique {result : List IterationResult} {v v' : TestResult}
    (h : Precedence result v) (h' : Precedence result v') : v = v' := by
  by_cases hfailing : Failing result
  . rw [h.failure.mpr hfailing, h'.failure.mpr hfailing]
  by_cases htimedout : TimedOut result
  . rw [(h.timedout hfailing).mpr htimedout, (h'.timedout hfailing).mpr htimedout]
  by_cases hqueued : HasAction result .Queued
  . rw [(h.queued hfailing htimedout).mpr hqueued, (h'.queued hfailing htimedout).mpr hqueued]
  by_cases hskipped : OnlySkipped result
  . rw [(h.skipped hfailing htimedout hqueued).mpr hskipped,
      (h'.skipped hfailing htimedout hqueued).mpr hskipped]
  . rw [h.success hfailing htimedout hqueued hskipped, h'.success hfailing htimedout hqueued hskipped]

theorem Precedence.congr {result result' : List IterationResult} {v : TestResult}
    (h : Precedence result v) (hactions : ∀ res, HasAction result' res ↔ HasAction result res)
    (hempty : (∃ r ∈ result', r.hasNoResult = true) ↔ ∃ r ∈ result, r.hasNoResult = true)
    (hstatus : (∃ r ∈ result', r.status = .TestTimedOut) ↔ ∃ r ∈ result, r.status = .TestTimedOut)
    : Precedence result' v := by
  have hfailing : Failing result' ↔ Failing result := by
    rw [Failing, Failing, hactions, hempty]
  have htimedout : TimedOut result' ↔ TimedOut result := by
    rw [TimedOut, TimedOut, hactions, hstatus]
  have hskipped : OnlySkipped result' ↔ OnlySkipped result := by
    rw [OnlySkipped, OnlySkipped, hactions, hactions]
  constructor
  . rw [hfailing]
    exact h.failure
  . rw [hfailing, htimedout]
    exact h.timedout
  . rw [hfailing, htimedout, hactions]
    exact h.queued
  . rw [hfailing, htimedout, hactions, hskipped]
    exact h.skipped
  . rw [hfailing, htimedout, hactions, hskipped]
    exact h.success

namespace Found

theorem verdict_ne_success_iff (found : Found)
    : (found.verdict = .Failure ↔ found.emptyResult = true) ∧
      (found.emptyResult = false → (found.verdict = .Timedout ↔ found.timedout = true)) ∧
      (found.emptyResult = false → found.timedout = false →
        (found.verdict = .Queued ↔ found.queued = true)) ∧
      (found.emptyResult = false → found.timedout = false → found.queued = false →
        (found.verdict = .Skipped ↔ found.skipped = true ∧ found.passed = false)) := by
  rcases found with ⟨emptyResult, timedout, skipped, passed, queued⟩
  revert emptyResult timedout skipped passed queued
  decide

section AddResults

variable {result : List IterationResult}

theorem emptyResult_addResults
    : (addResults {} result).emptyResult = true ↔ ∃ r ∈ result, r.hasNoResult = true := by
  simp [addResults]

theorem timedout_addResults : (addResults {} result).timedout = true ↔ TimedOut result := by
  simp only [addResults, Bool.false_or, List.any_eq_true, Bool.or_eq_true, decide_eq_true_eq,
    TimedOut, HasAction]
  constructor
  . rintro ⟨r, hr, hstatus | haction⟩
    . exact Or.inl ⟨r, hr, hstatus⟩
    . exact Or.inr ⟨r, hr, haction⟩
  . rintro (⟨r, hr, hstatus⟩ | ⟨r, hr, haction⟩)
    . exact ⟨r, hr, Or.inl hstatus⟩
    . exact ⟨r, hr, Or.inr haction⟩

theorem skipped_addResults
    : (addResults {} result).skipped = true ↔ HasAction result .Skipped := by
  simp [addResults, HasAction]

theorem passed_addResults : (addResults {} result).passed = true ↔ HasAction result .Success := by
  simp [addResults, HasAction]

theorem queued_addResults : (addResults {} result).queued = true ↔ HasAction result .Queued := by
  simp [addResults, HasAction]

end AddResults

end Found

theorem precedence_getOverallResult (result : List IterationResult) (validIDs : List String)
    : Precedence result (getOverallResult result validIDs).1 := by
  rw [getOverallResult_fst]
  have hany : (result.any fun r => decide (.Failure ∈ r.actions)) = true ↔
      HasAction result .Failure := by
    simp [HasAction]
  split
  . next h =>
    have hfailing : Failing result := Or.inl (hany.mp h)
    constructor
    . exact ⟨fun _ => hfailing, fun _ => rfl⟩
    all_goals
      intro hnot
      exact absurd hfailing hnot
  . next h =>
    rw [hany] at h
    rcases Found.verdict_ne_success_iff (Found.addResults {} result) with
      ⟨hfailure, htimedout, hqueued, hskipped⟩
    have hsuccess := Found.verdict_eq_success_iff (Found.addResults {} result)
    have hfailing : Failing result ↔ (Found.addResults {} result).emptyResult = true := by
      rw [Failing, Found.emptyResult_addResults]
      exact or_iff_right h
    simp only [← Bool.not_eq_true] at htimedout hqueued hskipped hsuccess
    rw [Found.timedout_addResults] at htimedout hqueued hskipped hsuccess
    rw [Found.queued_addResults] at hqueued hskipped hsuccess
    rw [Found.passed_addResults, Found.skipped_addResults] at hskipped hsuccess
    rw [← hfailing] at hfailure htimedout hqueued hskipped hsuccess
    refine ⟨hfailure, htimedout, hqueued, hskipped, ?_⟩
    intro hnot hnot' hnot'' honly
    apply hsuccess.mpr
    refine ⟨hnot, hnot', hnot'', ?_⟩
    by_cases hpassed : HasAction result .Success
    . exact Or.inl hpassed
    . exact Or.inr fun hskip => honly ⟨hskip, hpassed⟩

namespace IterationResult

theorem mem_actions {r : IterationResult} {res : TestResult}
    : res ∈ r.actions ↔ ∃ e ∈ r.suitesResult.entries, res ∈ e.2.entries.map (·.2) := by
  simp only [actions, actionsOf, List.mem_flatMap]

namespace Reordered

variable {r r' : IterationResult}

theorem mem_actions_iff (h : r.Reordered r') (res : TestResult)
    : res ∈ r'.actions ↔ res ∈ r.actions := by
  have hmem (results results' : TestResults) (hperm : results'.entries.Perm results.entries)
      : res ∈ results.entries.map (·.2) ↔ res ∈ results'.entries.map (·.2) :=
    (hperm.symm.map (·.2)).mem_iff
  rw [mem_actions, mem_actions, h.suites.exists_iff hmem]

theorem hasNoResult_eq (h : r.Reordered r') : r'.hasNoResult = r.hasNoResult := by
  rw [hasNoResult, hasNoResult, h.status_eq, h.suites.isEmpty_eq]

end Reordered

def Rewritten (validIDs : List String) (r r' : IterationResult) : Prop :=
  r' = r ∨ r.hasNoResult = true ∧ r' = { r with suitesResult := failedSuiteResult validIDs }

end IterationResult

section Exists

variable {result result' : List IterationResult} {P : IterationResult → Prop}

theorem exists_iff_of_forall₂ {R : IterationResult → IterationResult → Prop}
    (h : List.Forall₂ R result result') (hP : ∀ r r', R r r' → (P r' ↔ P r))
    : (∃ r ∈ result', P r) ↔ ∃ r ∈ result, P r := by
  induction h with
  | nil => simp
  | cons hr _ ih => simp only [List.exists_mem_cons_iff, ih, hP _ _ hr]

theorem Reordered.exists_iff (h : Reordered result result')
    (hP : ∀ r r', r.Reordered r' → (P r' ↔ P r)) : (∃ r ∈ result', P r) ↔ ∃ r ∈ result, P r := by
  rcases h with ⟨rs, hperm, hall⟩
  rw [exists_iff_of_forall₂ hall hP]
  constructor
  . rintro ⟨r, hr, hP⟩
    exact ⟨r, hperm.mem_iff.mp hr, hP⟩
  . rintro ⟨r, hr, hP⟩
    exact ⟨r, hperm.mem_iff.mpr hr, hP⟩

end Exists

theorem Precedence.reordered {result result' : List IterationResult} {v : TestResult}
    (h : Precedence result v) (hreordered : Reordered result result') : Precedence result' v := by
  apply h.congr
  . intro res
    apply hreordered.exists_iff
    intro r r' hr
    apply hr.mem_actions_iff
  . apply hreordered.exists_iff
    intro r r' hr
    rw [hr.hasNoResult_eq]
  . apply hreordered.exists_iff
    intro r r' hr
    rw [hr.status_eq]

theorem getOverallResult.go_snd (validIDs : List String) (found : Found)
    (seen result : List IterationResult)
    : ∃ result', (getOverallResult.go validIDs found seen result).2 = seen ++ result' ∧
        List.Forall₂ (IterationResult.Rewritten validIDs) result result' := by
  induction result generalizing found seen with
  | nil => exact ⟨[], by simp [go], List.Forall₂.nil⟩
  | cons r result ih =>
    have hstep (found : Found) {r' : IterationResult} (hr : r.Rewritten validIDs r')
        : ∃ result', (go validIDs found (seen ++ [r']) result).2 = seen ++ result' ∧
            List.Forall₂ (IterationResult.Rewritten validIDs) (r :: result) result' := by
      rcases ih found (seen ++ [r']) with ⟨result', hsnd, hall⟩
      exact ⟨r' :: result', by simp [hsnd], List.Forall₂.cons hr hall⟩
    simp only [go]
    split
    . exact ⟨r :: result, rfl, List.forall₂_same.mpr fun r _ => Or.inl rfl⟩
    . next found' _ =>
      split
      . exact hstep _ (Or.inl rfl)
      . next hstatus =>
        split
        . next hempty =>
          refine hstep _ (Or.inr ⟨?_, rfl⟩)
          simp [IterationResult.hasNoResult, hstatus, hempty]
        . exact hstep _ (Or.inl rfl)

theorem forall₂_getOverallResult_snd (result : List IterationResult) (validIDs : List String)
    : List.Forall₂ (IterationResult.Rewritten validIDs) result
        (getOverallResult result validIDs).2 := by
  rcases getOverallResult.go_snd validIDs {} [] result with ⟨result', hsnd, hall⟩
  rw [List.nil_append] at hsnd
  rw [getOverallResult, hsnd]
  exact hall

theorem failure_mem_failedSuiteResult {validIDs : List String} {id : String} (hid : id ∈ validIDs)
    : .Failure ∈ actionsOf (failedSuiteResult validIDs) := by
  have hlookup : (failedSuiteResult validIDs).lookup id
      = some ((∅ : TestResults).insert "result" .Failure) := by
    rw [failedSuiteResult, GoMap.lookup_setAll, if_pos hid]
  rw [actionsOf, List.mem_flatMap]
  exact ⟨_, AList.mem_lookup_iff.mp hlookup, by simp⟩

namespace IterationResult

variable {r r' : IterationResult} {validIDs : List String}

theorem Rewritten.failing (h : r.Rewritten validIDs r')
    (hfailing : .Failure ∈ r.actions ∨ r.hasNoResult = true)
    : .Failure ∈ r'.actions ∨ r'.hasNoResult = true := by
  rcases h with rfl | ⟨hempty, rfl⟩
  . exact hfailing
  . cases validIDs with
    | nil =>
      rw [hasNoResult, Bool.and_eq_true] at hempty
      apply Or.inr
      rw [hasNoResult, Bool.and_eq_true]
      exact ⟨hempty.1, rfl⟩
    | cons id _ => exact Or.inl (failure_mem_failedSuiteResult (List.mem_cons_self))

end IterationResult

theorem failing_iff {result : List IterationResult}
    : Failing result ↔ ∃ r ∈ result, .Failure ∈ r.actions ∨ r.hasNoResult = true := by
  simp only [Failing, HasAction, and_or_left, exists_or]

section Rewritten

variable {validIDs : List String} {result result' : List IterationResult}

theorem Failing.rewritten (h : List.Forall₂ (IterationResult.Rewritten validIDs) result result')
    (hfailing : Failing result) : Failing result' := by
  rw [failing_iff] at hfailing ⊢
  induction h with
  | nil => exact hfailing
  | cons hr _ ih =>
    rw [List.exists_mem_cons_iff] at hfailing ⊢
    rcases hfailing with hfailing | hfailing
    . exact Or.inl (hr.failing hfailing)
    . exact Or.inr (ih hfailing)

theorem eq_of_not_failing (h : List.Forall₂ (IterationResult.Rewritten validIDs) result result')
    (hfailing : ¬Failing result) : result' = result := by
  rw [failing_iff] at hfailing
  induction h with
  | nil => rfl
  | cons hr _ ih =>
    rw [List.exists_mem_cons_iff, not_or, not_or] at hfailing
    rcases hfailing with ⟨⟨-, hempty⟩, hfailing⟩
    rcases hr with rfl | ⟨hempty', -⟩
    . rw [ih hfailing]
    . contradiction

end Rewritten

theorem precedence_getOverallResult_snd (result : List IterationResult) (validIDs : List String)
    : Precedence (getOverallResult result validIDs).2 (getOverallResult result validIDs).1 := by
  have hall := forall₂_getOverallResult_snd result validIDs
  have h := precedence_getOverallResult result validIDs
  by_cases hfailing : Failing result
  . rw [h.failure.mpr hfailing]
    have := hfailing.rewritten hall
    constructor
    . exact ⟨fun _ => this, fun _ => rfl⟩
    all_goals
      intro hnot
      exact absurd this hnot
  . rw [eq_of_not_failing hall hfailing]
    exact h

section Instances

/--
The verdict follows the precedence, it is the same for every order of the iterations and of the
entries of their maps and for any ids, and it does not change when it is asked for again.
-/
theorem getOverallResult_eq_iff (result : List IterationResult) (validIDs : List String)
    : (∀ verdict, (getOverallResult result validIDs).1 = verdict ↔ Precedence result verdict) ∧
      (∀ result' validIDs', Reordered result result' →
        (getOverallResult result' validIDs').1 = (getOverallResult result validIDs).1) ∧
      ∀ validIDs', (getOverallResult (getOverallResult result validIDs).2 validIDs').1
        = (getOverallResult result validIDs).1 := by
  have h := precedence_getOverallResult result validIDs
  refine ⟨?_, ?_, ?_⟩
  . intro verdict
    constructor
    . rintro rfl
      exact h
    . exact h.unique
  . intro result' validIDs' hreordered
    have h' := precedence_getOverallResult result' validIDs'
    exact h'.unique (h.reordered hreordered)
  . intro validIDs'
    have h' := precedence_getOverallResult (getOverallResult result validIDs).2 validIDs'
    exact h'.unique (precedence_getOverallResult_snd result validIDs)

/--
A run with a skipped and a cancelled action passes nothing and is skipped, in either order.
-/
example : (getOverallResult [⟨1, "", "", (∅ : GoMap String TestResults).insert "0"
    (((∅ : TestResults).insert "gst" .Skipped).insert "iet" .Cancelled), .TestCompleted⟩] ["0"]).1
      = .Skipped := by
  decide

end Instances

end Testrunner
