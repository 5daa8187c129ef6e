import DeviceMetricsExporter.Lib.GoMap

/-!
This module contains what a test run records for each of its iterations and the verdict that
`getOverallResult` reads off these records.
-/

namespace Testrunner

inductive CommandStatus where
  | TestRunning
  | TestCompleted
  | TestNotStarted
  | TestTimedOut
  deriving DecidableEq, Repr

inductive TestResult where
  | Success
  | Failure
  | Skipped
  | Cancelled
  | Timedout
  | Queued
  deriving DecidableEq, Repr

abbrev TestResults := GoMap String TestResult

structure IterationResult where
  number : UInt32
  stdout : String
  stderr : String
  suitesResult : GoMap String TestResults
  status : CommandStatus
  deriving DecidableEq

/--
The options of a `TestHandler` that its run reads. The parser returns `none` for an error.
-/
structure TestOptions where
  iterations : UInt32
  stopOnFailure : Bool
  parser : String → Option (GoMap String TestResults)

def checkFailure (res : GoMap String TestResults) : Bool :=
  if res.entries.isEmpty then
    true
  else
    res.entries.any fun e => e.2.entries.any fun e => e.2 = .Failure

namespace TestOptions

def iterationResult (th : TestOptions) (i : UInt32) (status : CommandStatus)
    (stdout stderr : String) : IterationResult where
  number := i
  stdout := stdout
  stderr := stderr
  suitesResult := (th.parser stdout).getD ∅
  status := status

def stopsAfter (th : TestOptions) (result : IterationResult) : Bool :=
  -- the error of `logResults`
  th.stopOnFailure && (checkFailure result.suitesResult || result.status = .TestTimedOut)

def logResults (th : TestOptions) (iterResults : List IterationResult) (i : UInt32)
    (status : CommandStatus) (stdout stderr : String) : List IterationResult × Bool :=
  let result := th.iterationResult i status stdout stderr
  (iterResults ++ [result], th.stopsAfter result)

end TestOptions

structure Found where
  emptyResult : Bool := false
  timedout : Bool := false
  skipped : Bool := false
  passed : Bool := false
  queued : Bool := false
  deriving DecidableEq

namespace Found

def scanActions (found : Found) : List TestResult → Option Found
  -- `none` is the early return of a failure
  | [] => some found
  | .Failure :: _ => none
  | .Timedout :: results => { found with timedout := true }.scanActions results
  | .Skipped :: results => { found with skipped := true }.scanActions results
  | .Success :: results => { found with passed := true }.scanActions results
  | .Queued :: results => { found with queued := true }.scanActions results
  | .Cancelled :: results => found.scanActions results

def scanSuites (found : Found) : List TestResults → Option Found
  | [] => some found
  | actionResults :: suites =>
    match found.scanActions (actionResults.entries.map (·.2)) with
    | none => none
    | some found => found.scanSuites suites

def verdict (found : Found) : TestResult :=
  if found.emptyResult then .Failure
  else if found.timedout then .Timedout
  else if found.queued then .Queued
  else if !found.passed && found.skipped then .Skipped
  else .Success

end Found

def failedSuiteResult (validIDs : List String) : GoMap String TestResults :=
  (∅ : GoMap String TestResults).setAll validIDs ((∅ : TestResults).insert "result" .Failure)

def getOverallResult (result : List IterationResult) (validIDs : List String)
    : TestResult × List IterationResult :=
  -- The second component are the records after the call, which replaces empty results in place.
  go {} [] result
where
  go (found : Found) (seen : List IterationResult)
      : List IterationResult → TestResult × List IterationResult
    | [] => (found.verdict, seen)
    | iterResult :: result =>
      match found.scanSuites (iterResult.suitesResult.entries.map (·.2)) with
      | none => (.Failure, seen ++ iterResult :: result)
      | some found =>
        if iterResult.status = .TestTimedOut then
          go { found with timedout := true } (seen ++ [iterResult]) result
        else if iterResult.suitesResult.entries.isEmpty then
          let iterResult := { iterResult with suitesResult := failedSuiteResult validIDs }
          go { found with emptyResult := true } (seen ++ [iterResult]) result
        else
          go found (seen ++ [iterResult]) result

/--
How one iteration ends when nobody stops the test: the command cannot be started, it exits and leaves
its output behind, or it is killed after its timeout and leaves the output it has written so far.
-/
inductive Outcome where
  | notStarted
  | exited (stdout stderr : String)
  | timedOut (stdout stderr : String)
  deriving DecidableEq

def runTest (th : TestOptions) (outcomes : List Outcome) : Option (List IterationResult) :=
  -- The records once `runTest` has returned, `none` while it is still in its loop after the given
  -- outcomes. `StartTest` does not get here without iterations.
  if th.iterations = 0 then none else go [] 1 outcomes
where
  go (iterResults : List IterationResult) (i : UInt32) : List Outcome → Option (List IterationResult)
    | [] => if i ≤ th.iterations then none else some iterResults
    | outcome :: outcomes =>
      if i ≤ th.iterations then
        match outcome with
        | .notStarted => go iterResults (i + 1) outcomes
        | .exited stdout stderr =>
          let (iterResults, err) := th.logResults iterResults i .TestCompleted stdout stderr
          if err then some iterResults else go iterResults (i + 1) outcomes
        | .timedOut stdout stderr =>
          let (iterResults, err) := th.logResults iterResults i .TestTimedOut stdout stderr
          if err then some iterResults else go iterResults (i + 1) outcomes
      else
        some iterResults

end Testrunner
