import DeviceMetricsExporter.Lib.GoMap

/-!
This module contains the status DB of the test runner: the file, `LoadRunnerStatus` and
`SaveRunnerStatus` on it, and the three functions that read it, change the loaded object and write
the whole object back.
-/

namespace Testrunner

def testRunning : String := "running"

def testCompleted : String := "completed"

inductive TestTrigger where
  | AUTO_UNHEALTHY_GPU_WATCH
  | PRE_START_JOB_CHECK
  | MANUAL
  deriving DecidableEq, Repr

structure TestRunnerStatus where
  testStatus : Option (GoMap String String)
  deriving DecidableEq

namespace TestRunnerStatus

def lookup (statusObj : TestRunnerStatus) (id : String) : Option String :=
  statusObj.testStatus.bind (·.lookup id)

end TestRunnerStatus

/--
The file at `statusDBPath`. `unreadable` is a file `json.Unmarshal` rejects, with what it decoded
before it failed. The empty file is one of them.
-/
inductive StatusFile where
  | missing
  | unreadable (decoded : TestRunnerStatus)
  | readable (statusObj : TestRunnerStatus)
  deriving DecidableEq

def StatusFile.empty : StatusFile := .unreadable ⟨none⟩

inductive LoadError where
  | notExist
  | unmarshal
  deriving DecidableEq

def loadRunnerStatus (db : StatusFile) : TestRunnerStatus × Option LoadError :=
  match db with
  | .missing => (⟨none⟩, some .notExist)
  | .unreadable decoded => (decoded, some .unmarshal)
  | .readable statusObj => (statusObj, none)

def saveRunnerStatus (statusObj : TestRunnerStatus) : StatusFile :=
  -- The field `TestStatus` is tagged `omitempty`: an empty map is written as an absent field and
  -- reads back as nil.
  match statusObj.testStatus with
  | none => .readable ⟨none⟩
  | some m => if m.entries.isEmpty then .readable ⟨none⟩ else .readable ⟨some m⟩

def StatusFile.lookup (db : StatusFile) (id : String) : Option String :=
  (loadRunnerStatus db).1.lookup id

structure TestRunner where
  testTrigger : TestTrigger
  gpuIndexes : List String

def removeIDsWithExistingTest (statusObj : TestRunnerStatus) (ids : List String) (isRerun : Bool)
    : List String × GoMap String String :=
  let testStatus := statusObj.testStatus.getD ∅
  let validIDs := ids.filter fun id =>
    if (testStatus.lookup id).isSome && !isRerun then false else true
  (validIDs, testStatus)

def selectIDs (tr : TestRunner) (statusObj : TestRunnerStatus) (ids : List String) (isRerun : Bool)
    : Option (List String) :=
  -- The ids `testGPU` runs its test on, `none` if it returns without a test. An empty `ids` selects
  -- all devices, `StartTest` is handed the empty list and the indexes are filled in right after it.
  let validIDs := (removeIDsWithExistingTest statusObj ids isRerun).1
  let validIDs := if isRerun then ids else validIDs
  if !ids.isEmpty && validIDs.isEmpty then
    none
  else
    some (if validIDs.isEmpty then tr.gpuIndexes else validIDs)

def markRunning (testStatus : GoMap String String) (validIDs : List String) : TestRunnerStatus :=
  ⟨some (testStatus.setAll validIDs testRunning)⟩

def updateStatusDBAfterTestRun (tr : TestRunner) (statusObj : TestRunnerStatus)
    (validIDs : List String) (status : String) : Option TestRunnerStatus :=
  -- The loop of `updateStatusDBAfterTestRun` on the object it loaded. `none` is the panic of a
  -- write to a nil map, a delete from one does nothing.
  match validIDs with
  | [] => some statusObj
  | id :: validIDs =>
    match tr.testTrigger with
    | .MANUAL | .PRE_START_JOB_CHECK =>
      updateStatusDBAfterTestRun tr ⟨statusObj.testStatus.map (·.erase id)⟩ validIDs status
    | .AUTO_UNHEALTHY_GPU_WATCH =>
      match statusObj.testStatus with
      | none => none
      | some m => updateStatusDBAfterTestRun tr ⟨some (m.insert id status)⟩ validIDs status

def cleanupHealthyGPUTestStatus (statusObj : TestRunnerStatus) (ids : List String)
    : Option TestRunnerStatus :=
  match statusObj.testStatus with
  | none => some ⟨none⟩
  | some m =>
    let (m, writeBack) := go m false ids
    if writeBack then some ⟨some m⟩ else none
where
  go (m : GoMap String String) (writeBack : Bool) : List String → GoMap String String × Bool
    | [] => (m, writeBack)
    | healthyID :: ids =>
      match m.lookup healthyID with
      | some status =>
        if status ≠ testRunning then go (m.erase healthyID) true ids else go m writeBack ids
      | none => go m writeBack ids

end Testrunner
