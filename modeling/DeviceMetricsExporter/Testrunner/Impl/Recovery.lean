import DeviceMetricsExporter.Testrunner.Impl.StatusDB

/-!
This module contains what the test runner does with the status DB when it starts: the entries that an
older version keyed by KFD id get the key of the GPU index, and the tests that were interrupted are run
again.
-/

namespace Testrunner

inductive TransformError where
  | load (statusDBPath : String) (err : LoadError)
  deriving DecidableEq

def transformEntry (kfdIDToIndex gpuIndexToKFDID newTestStatus : GoMap String String)
    (e : Sigma fun _ : String => String) : GoMap String String :=
  match gpuIndexToKFDID.lookup e.1 with
  | some _ => newTestStatus.insert e.1 e.2
  | none =>
    match kfdIDToIndex.lookup e.1 with
    | some index => newTestStatus.insert index e.2
    | none => newTestStatus

def transformTestStatus (kfdIDToIndex gpuIndexToKFDID testStatus : GoMap String String)
    : GoMap String String :=
  testStatus.entries.foldl (transformEntry kfdIDToIndex gpuIndexToKFDID) ∅

def transformRunnerStatus (statusDBPath : String) (kfdIDToIndex gpuIndexToKFDID : GoMap String String)
    (db : StatusFile) : StatusFile × Option TransformError :=
  match loadRunnerStatus db with
  | (_, some err) => (db, some (.load statusDBPath err))
  | (statusObj, none) =>
    let newTestStatus :=
      transformTestStatus kfdIDToIndex gpuIndexToKFDID (statusObj.testStatus.getD ∅)
    (saveRunnerStatus ⟨some newTestStatus⟩, none)

structure StartupScan where
  testStatus : GoMap String String
  ids : List String := []
  updateStatusDB : Bool := false

namespace StartupScan

def visit (gpuIndexToKFDIDMap kfdIDToGPUIndexMap : GoMap String String) (s : StartupScan)
    (e : Sigma fun _ : String => String) : StartupScan :=
  if (gpuIndexToKFDIDMap.lookup e.1).isNone && (kfdIDToGPUIndexMap.lookup e.1).isNone then
    { s with testStatus := s.testStatus.erase e.1, updateStatusDB := true }
  else if e.2 = testRunning then
    { s with ids := s.ids ++ [e.1] }
  else
    s

end StartupScan

/--
The status DB after the scan and the ids of the interrupted tests.
-/
def startupScan (gpuIndexToKFDIDMap kfdIDToGPUIndexMap : GoMap String String) (db : StatusFile)
    : StatusFile × List String :=
  match (loadRunnerStatus db).1.testStatus with
  | none => (db, [])
  | some testStatus =>
    let s := testStatus.entries.foldl
      (StartupScan.visit gpuIndexToKFDIDMap kfdIDToGPUIndexMap) { testStatus }
    (if s.updateStatusDB then saveRunnerStatus ⟨some s.testStatus⟩ else db, s.ids)

def rerunInterrupted (tr : TestRunner) (db : StatusFile) (ids : List String) : List String :=
  -- `testGPU` is not called without ids, it would select all devices then
  if ids.isEmpty then
    []
  else
    (selectIDs tr (loadRunnerStatus db).1 ids true).getD []

end Testrunner
