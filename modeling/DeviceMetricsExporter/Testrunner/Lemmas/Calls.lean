import DeviceMetricsExporter.Testrunner.Impl.Calls
import DeviceMetricsExporter.Testrunner.Lemmas.StatusDB

/-!
This module contains what one step of a call does: it keeps the call well formed, and as long as
nobody has written the DB since the call loaded it, it changes the status of each GPU in one way that
does not depend on the loaded object.
-/

namespace Testrunner

def Request.isTest : Request → Prop
  | .cleanupHealthyGPUTestStatus _ => False
  | _ => True

inductive Call.WF : Call → Prop where
  | idle {r : Request} : Call.WF ⟨r, .idle⟩
  | creating {ids : List String} {isRerun : Bool} : Call.WF ⟨.testGPU ids isRerun, .creating ⟨none⟩⟩
  | selected {ids : List String} {isRerun : Bool} {loaded : StatusFile} {validIDs : List String}
    : Call.WF ⟨.testGPU ids isRerun,
        .selected loaded ((loadRunnerStatus loaded).1.testStatus.getD ∅) validIDs⟩
  | started {ids : List String} {isRerun : Bool} {loaded : StatusFile} {validIDs : List String}
    : Call.WF ⟨.testGPU ids isRerun,
        .started loaded ((loadRunnerStatus loaded).1.testStatus.getD ∅) validIDs⟩
  | running {r : Request} {validIDs : List String} (h : r.isTest) : Call.WF ⟨r, .running validIDs⟩
  | updating {r : Request} {loaded : StatusFile} {validIDs : List String} {status : String}
    (h : r.isTest) : Call.WF ⟨r, .updating loaded validIDs status⟩
  | cleaning {ids : List String} {loaded : StatusFile} {statusObj : TestRunnerStatus}
    (h : cleanupHealthyGPUTestStatus (loadRunnerStatus loaded).1 ids = some statusObj)
    : Call.WF ⟨.cleanupHealthyGPUTestStatus ids, .cleaning loaded statusObj⟩
  | finished {r : Request} : Call.WF ⟨r, .finished⟩
  | panicked {r : Request} : Call.WF ⟨r, .panicked⟩

theorem Call.wf_ofRequest (r : Request) : (Call.ofRequest r).WF := by
  cases r with
  | testGPU => exact .idle
  | updateStatusDBAfterTestRun => exact .running trivial
  | cleanupHealthyGPUTestStatus => exact .idle

theorem Call.wf_select (tr : TestRunner) (db : StatusFile) (ids : List String) (isRerun : Bool)
    : Call.WF ⟨.testGPU ids isRerun, Call.select tr db (loadRunnerStatus db).1 ids isRerun⟩ := by
  unfold Call.select
  split
  . exact .finished
  . exact .selected

theorem loadRunnerStatus_of_notExist {db : StatusFile} (h : (loadRunnerStatus db).2 = some .notExist)
    : db = .missing := by
  cases db <;> simp [loadRunnerStatus] at h ⊢

theorem Call.wf_step {tr : TestRunner} {db db' : StatusFile} {c : Call} {phase : Phase} (hwf : c.WF)
    (h : c.step tr db = some (db', phase)) : Call.WF ⟨c.request, phase⟩ := by
  cases hwf with
  | @idle r =>
    cases r with
    | testGPU ids isRerun =>
      simp only [Call.step] at h
      split at h
      . next hmissing =>
        cases h
        rw [loadRunnerStatus_of_notExist hmissing]
        exact .creating
      . cases h
        apply Call.wf_select tr db ids isRerun
    | updateStatusDBAfterTestRun => simp [Call.step] at h
    | cleanupHealthyGPUTestStatus ids =>
      simp only [Call.step] at h
      split at h
      . next hclean =>
        cases h
        exact .cleaning hclean
      . cases h
        exact .finished
  | @creating ids isRerun =>
    cases h
    apply Call.wf_select tr .empty ids isRerun
  | selected =>
    cases h
    exact .started
  | started =>
    cases h
    exact .running trivial
  | running hr =>
    cases h
    exact .updating hr
  | updating hr =>
    simp only [Call.step] at h
    split at h
    . cases h
      exact .finished
    . cases h
      exact .panicked
  | cleaning =>
    cases h
    exact .finished
  | finished => simp [Call.step] at h
  | panicked => simp [Call.step] at h

def Call.Unraced (db : StatusFile) (c : Call) : Prop :=
  match c.phase.loaded? with
  | some loaded => db = loaded
  | none => True

instance (db : StatusFile) (c : Call) : Decidable (c.Unraced db) :=
  match h : c.phase.loaded? with
  | some loaded => decidable_of_iff (db = loaded) (by simp [Call.Unraced, h])
  | none => .isTrue (by simp [Call.Unraced, h])

def Call.written (c : Call) (cur : Option String) (id : String) : Option String :=
  match c.phase with
  | .started _ _ validIDs => if id ∈ validIDs then some testRunning else cur
  | .updating _ validIDs status => if id ∈ validIDs then some status else cur
  | .cleaning _ _ =>
    match c.request with
    | .cleanupHealthyGPUTestStatus ids => cleanedUp ids cur id
    | _ => cur
  | _ => cur

theorem Call.lookup_step {tr : TestRunner} (htrigger : tr.testTrigger = .AUTO_UNHEALTHY_GPU_WATCH)
    {db db' : StatusFile} {c : Call} {phase : Phase} (hwf : c.WF) (hraced : c.Unraced db)
    (h : c.step tr db = some (db', phase)) (hphase : phase ≠ .panicked) (id : String)
    : db'.lookup id = c.written (db.lookup id) id := by
  cases hwf with
  | @idle r =>
    cases r with
    | testGPU ids isRerun =>
      simp only [Call.step] at h
      split at h <;> cases h <;> rfl
    | updateStatusDBAfterTestRun => simp [Call.step] at h
    | cleanupHealthyGPUTestStatus ids =>
      simp only [Call.step] at h
      split at h <;> cases h <;> rfl
  | creating =>
    cases h
    have hdb : db = .missing := hraced
    simp [hdb, Call.written]
  | selected => cases h; rfl
  | @started ids isRerun loaded validIDs =>
    cases h
    have hdb : db = loaded := hraced
    simp only [lookup_saveRunnerStatus, lookup_markRunning, TestRunnerStatus.lookup_getD,
      Call.written, hdb]
    rfl
  | running => cases h; rfl
  | @updating r loaded validIDs status =>
    simp only [Call.step] at h
    have hdb : db = loaded := hraced
    split at h
    . next statusObj hupdate =>
      cases h
      rw [lookup_saveRunnerStatus, lookup_updateStatusDBAfterTestRun htrigger hupdate]
      simp only [Call.written, hdb]
      rfl
    . cases h
      contradiction
  | @cleaning ids loaded statusObj hclean =>
    cases h
    have hdb : db = loaded := hraced
    rw [lookup_saveRunnerStatus, lookup_cleanupHealthyGPUTestStatus hclean]
    simp only [Call.written, hdb]
    rfl
  | finished => simp [Call.step] at h
  | panicked => simp [Call.step] at h

theorem Call.db_eq_of_panicked {tr : TestRunner} {db db' : StatusFile} {c : Call} (hwf : c.WF)
    (h : c.step tr db = some (db', .panicked)) : db' = db := by
  cases hwf with
  | @idle r =>
    cases r with
    | testGPU ids isRerun =>
      simp only [Call.step, Call.select] at h
      split at h
      . cases h
      . split at h <;> cases h
    | updateStatusDBAfterTestRun => simp [Call.step] at h
    | cleanupHealthyGPUTestStatus ids =>
      simp only [Call.step] at h
      split at h <;> cases h
  | creating =>
    simp only [Call.step, Call.select] at h
    split at h <;> cases h
  | selected => cases h
  | started => cases h
  | running => cases h
  | updating =>
    simp only [Call.step] at h
    split at h
    . cases h
    . cases h
      rfl
  | cleaning => cases h
  | finished => simp [Call.step] at h
  | panicked => simp [Call.step] at h

section Alone

variable {tr : TestRunner} {db db' : StatusFile}

theorem step_alone {c : Call} {phase : Phase} (h : c.step tr db = some (db', phase))
    (hexits : c.phase.exits phase = false)
    : (system tr).step ⟨db, [c], true⟩ (.call 0) = some ⟨db', [⟨c.request, phase⟩], true⟩ := by
  simp [system, Pool.step, h, hexits]

theorem exits_select {before : Phase} {statusObj : TestRunnerStatus} {ids : List String}
    {isRerun : Bool} (hbefore : before.loaded? = none ∨ before = .creating statusObj)
    : before.exits (Call.select tr db statusObj ids isRerun) = false := by
  unfold Call.select
  cases before with
  | updating => simp [Phase.loaded?] at hbefore
  | _ =>
    split
    . rfl
    . rfl

theorem reaches_of_running {r : Request} {validIDs : List String}
    (h : (updateStatusDBAfterTestRun tr (loadRunnerStatus db).1 validIDs testCompleted).map
      saveRunnerStatus = some db')
    : (system tr).Reaches ⟨db, [⟨r, .running validIDs⟩], true⟩ ⟨db', [⟨r, .finished⟩], true⟩ := by
  rcases Option.map_eq_some_iff.mp h with ⟨statusObj, hupdate, rfl⟩
  have hsave : Call.step tr db ⟨r, .updating db validIDs testCompleted⟩
      = some (saveRunnerStatus statusObj, .finished) := by
    simp only [Call.step, hupdate]
  apply TransitionSystem.Reaches.head (step_alone rfl rfl)
  apply TransitionSystem.Reaches.head (step_alone hsave rfl)
  apply TransitionSystem.Reaches.refl

theorem reaches_of_select {db₀ : StatusFile} {statusObj : TestRunnerStatus} {ids : List String}
    {isRerun : Bool}
    (h : (match selectIDs tr statusObj ids isRerun with
        | none => some db
        | some validIDs =>
          let testStatus := (removeIDsWithExistingTest statusObj ids isRerun).2
          let db := saveRunnerStatus (markRunning testStatus validIDs)
          let statusObj := (loadRunnerStatus db).1
          (updateStatusDBAfterTestRun tr statusObj validIDs testCompleted).map saveRunnerStatus)
      = some db')
    : (system tr).Reaches
        ⟨db, [⟨.testGPU ids isRerun, Call.select tr db₀ statusObj ids isRerun⟩], true⟩
        ⟨db', [⟨.testGPU ids isRerun, .finished⟩], true⟩ := by
  split at h
  . next hselect =>
    cases h
    simp only [Call.select, hselect]
    apply TransitionSystem.Reaches.refl
  . next validIDs hselect =>
    simp only [Call.select, hselect]
    apply TransitionSystem.Reaches.head (step_alone rfl rfl)
    apply TransitionSystem.Reaches.head (step_alone rfl rfl)
    apply reaches_of_running h

theorem reaches_run {r : Request} (h : r.run tr db = some db')
    : (system tr).Reaches (.ofRequests db [r]) ⟨db', [⟨r, .finished⟩], true⟩ := by
  cases r with
  | testGPU ids isRerun =>
    simp only [Request.run, testGPU] at h
    cases db with
    | missing =>
      apply TransitionSystem.Reaches.head (step_alone rfl rfl)
      apply TransitionSystem.Reaches.head (step_alone rfl (exits_select (.inr rfl)))
      apply reaches_of_select h
    | unreadable decoded =>
      apply TransitionSystem.Reaches.head (step_alone rfl (exits_select (.inl rfl)))
      apply reaches_of_select h
    | readable statusObj =>
      apply TransitionSystem.Reaches.head (step_alone rfl (exits_select (.inl rfl)))
      apply reaches_of_select h
  | updateStatusDBAfterTestRun validIDs => exact reaches_of_running h
  | cleanupHealthyGPUTestStatus ids =>
    simp only [Request.run] at h
    split at h
    . next statusObj hclean =>
      cases h
      have hload : Call.step tr db ⟨.cleanupHealthyGPUTestStatus ids, .idle⟩
          = some (db, .cleaning db statusObj) := by
        simp only [Call.step, hclean]
      apply TransitionSystem.Reaches.head (step_alone hload rfl)
      apply TransitionSystem.Reaches.head (step_alone rfl rfl)
      apply TransitionSystem.Reaches.refl
    . next hclean =>
      cases h
      have hload : Call.step tr db ⟨.cleanupHealthyGPUTestStatus ids, .idle⟩
          = some (db, .finished) := by
        simp only [Call.step, hclean]
      apply TransitionSystem.Reaches.head (step_alone hload rfl)
      apply TransitionSystem.Reaches.refl

end Alone

end Testrunner
