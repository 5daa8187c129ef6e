import DeviceMetricsExporter.Lib.TransitionSystem
import DeviceMetricsExporter.Testrunner.Impl.StatusDB

/-!
This module contains the calls that work on the status DB, once run alone from start to end and once
as the steps between which the goroutines of the test runner interleave. `statusDBLock` is held for
one load or one save and for nothing larger, so each of these is a step of its own.
-/

namespace Testrunner

def testGPU (tr : TestRunner) (ids : List String) (isRerun : Bool) (db : StatusFile)
    : Option StatusFile :=
  let (statusObj, err) := loadRunnerStatus db
  let db := if err = some .notExist then .empty else db
  match selectIDs tr statusObj ids isRerun with
  | none => some db
  | some validIDs =>
    let testStatus := (removeIDsWithExistingTest statusObj ids isRerun).2
    let db := saveRunnerStatus (markRunning testStatus validIDs)
    let statusObj := (loadRunnerStatus db).1
    (updateStatusDBAfterTestRun tr statusObj validIDs testCompleted).map saveRunnerStatus

inductive Request where
  | testGPU (ids : List String) (isRerun : Bool)
  | updateStatusDBAfterTestRun (validIDs : List String)
  | cleanupHealthyGPUTestStatus (ids : List String)
  deriving DecidableEq

namespace Request

def run (tr : TestRunner) (r : Request) (db : StatusFile) : Option StatusFile :=
  match r with
  | .testGPU ids isRerun => Testrunner.testGPU tr ids isRerun db
  | .updateStatusDBAfterTestRun validIDs =>
    let statusObj := (loadRunnerStatus db).1
    (Testrunner.updateStatusDBAfterTestRun tr statusObj validIDs testCompleted).map saveRunnerStatus
  | .cleanupHealthyGPUTestStatus ids =>
    match Testrunner.cleanupHealthyGPUTestStatus (loadRunnerStatus db).1 ids with
    | some statusObj => some (saveRunnerStatus statusObj)
    | none => some db

def runAll (tr : TestRunner) (rs : List Request) (db : StatusFile) : Option StatusFile :=
  rs.foldlM (fun db r => r.run tr db) db

def touched (tr : TestRunner) : Request → List String
  | .testGPU ids _ => if ids.isEmpty then tr.gpuIndexes else ids
  | .updateStatusDBAfterTestRun validIDs => validIDs
  | .cleanupHealthyGPUTestStatus ids => ids

end Request

/--
How far a call has come. A call that has loaded the DB and is still to save keeps the file it loaded
next to what it will save from it.
-/
inductive Phase where
  | idle
  | creating (statusObj : TestRunnerStatus)
  | selected (loaded : StatusFile) (testStatus : GoMap String String) (validIDs : List String)
  | started (loaded : StatusFile) (testStatus : GoMap String String) (validIDs : List String)
  | running (validIDs : List String)
  | updating (loaded : StatusFile) (validIDs : List String) (status : String)
  | cleaning (loaded : StatusFile) (statusObj : TestRunnerStatus)
  | finished
  | panicked
  deriving DecidableEq

namespace Phase

def activeIDs : Phase → List String
  | .started _ _ validIDs | .running validIDs | .updating _ validIDs _ => validIDs
  | _ => []

def pendingIDs : Phase → List String
  | .selected _ _ validIDs | .started _ _ validIDs => validIDs
  | _ => []

def loaded? : Phase → Option StatusFile
  -- The file a call loaded before the write it makes in its next step. `os.Create` follows a load
  -- that found no file.
  | .creating _ => some .missing
  | .started loaded _ _ | .updating loaded _ _ | .cleaning loaded _ => some loaded
  | _ => none

def exits (before after : Phase) : Bool :=
  -- A panic ends the process, and so does `os.Exit` after a signal has made a run save its ids as
  -- still running.
  match before, after with
  | _, .panicked => true
  | .updating _ _ status, _ => status = testRunning
  | _, _ => false

end Phase

structure Call where
  request : Request
  phase : Phase
  deriving DecidableEq

namespace Call

def ofRequest (r : Request) : Call :=
  match r with
  | .updateStatusDBAfterTestRun validIDs => ⟨r, .running validIDs⟩
  | _ => ⟨r, .idle⟩

def select (tr : TestRunner) (db : StatusFile) (statusObj : TestRunnerStatus) (ids : List String)
    (isRerun : Bool) : Phase :=
  match selectIDs tr statusObj ids isRerun with
  | none => .finished
  | some validIDs => .selected db (removeIDsWithExistingTest statusObj ids isRerun).2 validIDs

def step (tr : TestRunner) (db : StatusFile) (c : Call) : Option (StatusFile × Phase) :=
  match c.phase with
  | .idle =>
    let (statusObj, err) := loadRunnerStatus db
    match c.request with
    | .testGPU ids isRerun =>
      if err = some .notExist then
        some (db, .creating statusObj)
      else
        some (db, select tr db statusObj ids isRerun)
    | .cleanupHealthyGPUTestStatus ids =>
      match cleanupHealthyGPUTestStatus statusObj ids with
      | some statusObj => some (db, .cleaning db statusObj)
      | none => some (db, .finished)
    | .updateStatusDBAfterTestRun _ => none
  | .creating statusObj =>
    match c.request with
    | .testGPU ids isRerun => some (.empty, select tr .empty statusObj ids isRerun)
    | _ => none
  | .selected loaded testStatus validIDs => some (db, .started loaded testStatus validIDs)
  | .started _ testStatus validIDs =>
    some (saveRunnerStatus (markRunning testStatus validIDs), .running validIDs)
  | .running validIDs => some (db, .updating db validIDs testCompleted)
  | .updating loaded validIDs status =>
    match updateStatusDBAfterTestRun tr (loadRunnerStatus loaded).1 validIDs status with
    | some statusObj => some (saveRunnerStatus statusObj, .finished)
    | none => some (db, .panicked)
  | .cleaning _ statusObj => some (saveRunnerStatus statusObj, .finished)
  | .finished | .panicked => none

end Call

structure Pool where
  db : StatusFile
  calls : List Call
  alive : Bool
  deriving DecidableEq

structure GPUState where
  id : String
  health : String
  associatedWorkload : List String

def GPUState.isHealthy (state : GPUState) : Bool :=
  -- `strings.EqualFold(state.Health, "HEALTHY")`. No letter of this word folds to a letter outside
  -- ASCII.
  state.health.toList.map Char.toUpper == "HEALTHY".toList

def watchGPUState (states : List GPUState) : List Request :=
  let unHealthyGPUIDs :=
    (states.filter fun state => !state.isHealthy && state.associatedWorkload.isEmpty).map (·.id)
  let healthyGPUIDs := (states.filter (·.isHealthy)).map (·.id)
  let test := if unHealthyGPUIDs.isEmpty then [] else [.testGPU unHealthyGPUIDs false]
  test ++ [.cleanupHealthyGPUTestStatus healthyGPUIDs]

/--
`tick` is a tick of `watchGPUState`, `call i` the next step of the call `i`, and `signal i` the
termination signal that reaches the test run `i`.
-/
inductive Action where
  | tick (states : List GPUState)
  | call (i : Nat)
  | signal (i : Nat)

namespace Pool

def ofRequests (db : StatusFile) (rs : List Request) : Pool :=
  { db := db, calls := rs.map Call.ofRequest, alive := true }

def watcherIdle (s : Pool) : Bool :=
  -- The cleanup runs in the goroutine of `watchGPUState`, the next tick waits for it.
  s.calls.all fun c =>
    match c.request with
    | .cleanupHealthyGPUTestStatus _ => c.phase = .finished
    | _ => true

def step (tr : TestRunner) (s : Pool) (a : Action) : Option Pool :=
  if !s.alive then
    none
  else
    match a with
    | .tick states =>
      if s.watcherIdle then
        some { s with calls := s.calls ++ (watchGPUState states).map Call.ofRequest }
      else
        none
    | .call i =>
      match s.calls[i]? with
      | none => none
      | some c =>
        (c.step tr s.db).map fun (db, phase) =>
          { db := db, calls := s.calls.set i { c with phase }, alive := !c.phase.exits phase }
    | .signal i =>
      match s.calls[i]? with
      | some { request, phase := .running validIDs } =>
        let phase := .updating s.db validIDs testRunning
        some { s with calls := s.calls.set i { request, phase } }
      | _ => none

end Pool

def system (tr : TestRunner) : TransitionSystem Pool Action where
  step := Pool.step tr

end Testrunner
