import DeviceMetricsExporter.Testrunner.Impl.StatusDB

/-!
This module contains what each function of the status DB does to the status of one GPU.
-/

namespace Testrunner

@[simp]
theorem TestRunnerStatus.lookup_none (id : String) : lookup ⟨none⟩ id = none := rfl

@[simp]
theorem TestRunnerStatus.lookup_some (m : GoMap String String) (id : String)
    : lookup ⟨some m⟩ id = m.lookup id := rfl

theorem TestRunnerStatus.lookup_getD (statusObj : TestRunnerStatus) (id : String)
    : (statusObj.testStatus.getD ∅).lookup id = statusObj.lookup id := by
  rcases statusObj with ⟨_ | m⟩ <;> simp

theorem TestRunnerStatus.testStatus_ne_none_of_lookup {statusObj : TestRunnerStatus} {id status : String}
    (h : statusObj.lookup id = some status) : statusObj.testStatus ≠ none := by
  rcases statusObj with ⟨_ | m⟩
  . simp at h
  . simp

@[simp]
theorem lookup_empty (id : String) : StatusFile.empty.lookup id = none := rfl

@[simp]
theorem lookup_missing (id : String) : StatusFile.missing.lookup id = none := rfl

@[simp]
theorem lookup_saveRunnerStatus (statusObj : TestRunnerStatus) (id : String)
    : (saveRunnerStatus statusObj).lookup id = statusObj.lookup id := by
  rcases statusObj with ⟨_ | ⟨entries, hnodup⟩⟩
  . rfl
  . cases entries with
    | nil => rfl
    | cons => rfl

theorem mem_removeIDsWithExistingTest {statusObj : TestRunnerStatus} {ids : List String} {isRerun : Bool}
    {id : String}
    : id ∈ (removeIDsWithExistingTest statusObj ids isRerun).1
        ↔
      id ∈ ids ∧ (isRerun ∨ statusObj.lookup id = none) := by
  simp only [removeIDsWithExistingTest, TestRunnerStatus.lookup_getD, List.mem_filter]
  cases isRerun <;> cases statusObj.lookup id <;> simp

theorem mem_of_selectIDs {tr : TestRunner} {statusObj : TestRunnerStatus} {ids validIDs : List String}
    {isRerun : Bool} (h : selectIDs tr statusObj ids isRerun = some validIDs) (id : String)
    : id ∈ validIDs
        ↔
      if ids.isEmpty then id ∈ tr.gpuIndexes else id ∈ ids ∧ (isRerun ∨ statusObj.lookup id = none) := by
  have hmem := @mem_removeIDsWithExistingTest statusObj ids isRerun id
  unfold selectIDs at h
  dsimp only at h
  cases ids with
  | nil =>
    have hnil : (removeIDsWithExistingTest statusObj [] isRerun).1 = [] := rfl
    cases isRerun with
    | false =>
      simp [hnil] at h
      simp [h]
    | true =>
      simp at h
      simp [h]
  | cons id' ids =>
    cases isRerun with
    | true =>
      simp at h
      simp [← h]
    | false =>
      simp only [Bool.false_eq_true, ↓reduceIte, Bool.and_eq_true, Bool.not_eq_true'] at h
      split at h
      . contradiction
      . next hne =>
        have hvalid : (removeIDsWithExistingTest statusObj (id' :: ids) false).1.isEmpty = false := by
          simpa using hne
        simp only [hvalid, Bool.false_eq_true, ↓reduceIte, Option.some.injEq] at h
        simpa [h] using hmem

theorem selectIDs_eq_none {tr : TestRunner} {statusObj : TestRunnerStatus} {ids : List String}
    {isRerun : Bool} (h : selectIDs tr statusObj ids isRerun = none)
    : ids.isEmpty = false ∧ isRerun = false ∧ ∀ id ∈ ids, statusObj.lookup id ≠ none := by
  unfold selectIDs at h
  dsimp only at h
  cases isRerun with
  | true =>
    cases ids <;> simp at h
  | false =>
    simp only [Bool.false_eq_true, ↓reduceIte, Bool.and_eq_true, Bool.not_eq_true'] at h
    split at h
    . next hif =>
      rcases hif with ⟨hids, hvalid⟩
      refine ⟨hids, rfl, ?_⟩
      intro id hid hnone
      have hmem : id ∈ (removeIDsWithExistingTest statusObj ids false).1 := by
        rw [mem_removeIDsWithExistingTest]
        exact ⟨hid, .inr hnone⟩
      rw [List.isEmpty_iff.mp hvalid] at hmem
      contradiction
    . contradiction

@[simp]
theorem lookup_markRunning (testStatus : GoMap String String) (validIDs : List String) (id : String)
    : (markRunning testStatus validIDs).lookup id
        =
      if id ∈ validIDs then some testRunning else testStatus.lookup id := by
  unfold markRunning
  rw [TestRunnerStatus.lookup_some, GoMap.lookup_setAll]

theorem updateStatusDBAfterTestRun_eq_none_iff {tr : TestRunner}
    (htrigger : tr.testTrigger = .AUTO_UNHEALTHY_GPU_WATCH) (statusObj : TestRunnerStatus)
    (validIDs : List String) (status : String)
    : updateStatusDBAfterTestRun tr statusObj validIDs status = none
        ↔
      statusObj.testStatus = none ∧ validIDs ≠ [] := by
  induction validIDs generalizing statusObj with
  | nil => simp [updateStatusDBAfterTestRun]
  | cons id validIDs ih =>
    rcases statusObj with ⟨_ | m⟩
    . simp [updateStatusDBAfterTestRun, htrigger]
    . simp [updateStatusDBAfterTestRun, htrigger, ih]

theorem lookup_updateStatusDBAfterTestRun {tr : TestRunner}
    (htrigger : tr.testTrigger = .AUTO_UNHEALTHY_GPU_WATCH) {statusObj statusObj' : TestRunnerStatus}
    {validIDs : List String} {status : String}
    (h : updateStatusDBAfterTestRun tr statusObj validIDs status = some statusObj') (id : String)
    : statusObj'.lookup id = if id ∈ validIDs then some status else statusObj.lookup id := by
  induction validIDs generalizing statusObj with
  | nil =>
    simp only [updateStatusDBAfterTestRun, Option.some.injEq] at h
    simp [h]
  | cons id' validIDs ih =>
    rcases statusObj with ⟨_ | m⟩
    . simp [updateStatusDBAfterTestRun, htrigger] at h
    . simp only [updateStatusDBAfterTestRun, htrigger] at h
      rw [ih h]
      by_cases hmem : id ∈ validIDs
      . simp [hmem]
      . simp [hmem, GoMap.lookup_insert_eq_ite]

namespace cleanupHealthyGPUTestStatus

theorem lookup_go (m : GoMap String String) (writeBack : Bool) (ids : List String) (id : String)
    : (go m writeBack ids).1.lookup id
        =
      if id ∈ ids ∧ m.lookup id ≠ some testRunning then none else m.lookup id := by
  induction ids generalizing m writeBack with
  | nil => simp [go]
  | cons healthyID ids ih =>
    unfold go
    split
    . next status hstatus =>
      split
      . next hne =>
        rw [ih, GoMap.lookup_erase_eq_ite]
        by_cases heq : id = healthyID
        . subst heq
          simp [hstatus, hne]
        . simp [heq]
      . next heq =>
        rw [ih]
        by_cases hid : id = healthyID
        . subst hid
          simp only [ne_eq, Decidable.not_not] at heq
          simp [hstatus, heq]
        . simp [hid]
    . next hnone =>
      rw [ih]
      by_cases hid : id = healthyID
      . subst hid
        simp [hnone]
      . simp [hid]

theorem go_eq_of_not_writeBack {m : GoMap String String} {writeBack : Bool} {ids : List String}
    (h : (go m writeBack ids).2 = false) : (go m writeBack ids).1 = m := by
  have hkeep : ∀ (ids : List String) (m : GoMap String String), (go m true ids).2 = true := by
    intro ids
    induction ids with
    | nil => intro m; rfl
    | cons healthyID ids ih =>
      intro m
      unfold go
      split
      . split <;> apply ih
      . apply ih
  induction ids generalizing writeBack with
  | nil => rfl
  | cons healthyID ids ih =>
    unfold go at h ⊢
    split
    . next status hstatus =>
      simp only [hstatus] at h
      split
      . next hne =>
        rw [if_pos hne, hkeep] at h
        contradiction
      . next heq =>
        rw [if_neg heq] at h
        apply ih h
    . next hnone =>
      simp only [hnone] at h
      apply ih h

end cleanupHealthyGPUTestStatus

def cleanedUp (ids : List String) (cur : Option String) (id : String) : Option String :=
  if id ∈ ids ∧ cur ≠ some testRunning then none else cur

theorem lookup_cleanupHealthyGPUTestStatus {statusObj statusObj' : TestRunnerStatus} {ids : List String}
    (h : cleanupHealthyGPUTestStatus statusObj ids = some statusObj') (id : String)
    : statusObj'.lookup id = cleanedUp ids (statusObj.lookup id) id := by
  rcases statusObj with ⟨_ | m⟩
  . simp only [cleanupHealthyGPUTestStatus, Option.some.injEq] at h
    subst h
    simp [cleanedUp]
  . simp only [cleanupHealthyGPUTestStatus] at h
    split at h
    . simp only [Option.some.injEq] at h
      subst h
      rw [TestRunnerStatus.lookup_some, cleanupHealthyGPUTestStatus.lookup_go]
      rfl
    . contradiction

theorem cleanedUp_of_cleanupHealthyGPUTestStatus_eq_none {statusObj : TestRunnerStatus}
    {ids : List String} (h : cleanupHealthyGPUTestStatus statusObj ids = none) (id : String)
    : cleanedUp ids (statusObj.lookup id) id = statusObj.lookup id := by
  rcases statusObj with ⟨_ | m⟩
  . simp [cleanupHealthyGPUTestStatus] at h
  . simp only [cleanupHealthyGPUTestStatus] at h
    split at h
    . contradiction
    . next hwb =>
      have hsame := cleanupHealthyGPUTestStatus.go_eq_of_not_writeBack (Bool.eq_false_iff.mpr hwb)
      have hgo := cleanupHealthyGPUTestStatus.lookup_go m false ids id
      rw [hsame] at hgo
      exact hgo.symm

end Testrunner
