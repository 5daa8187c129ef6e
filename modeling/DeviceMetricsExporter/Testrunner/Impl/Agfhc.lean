import DeviceMetricsExporter.Lib.CaseMap
import DeviceMetricsExporter.Lib.GoStrings
import DeviceMetricsExporter.Lib.NestedMap
import DeviceMetricsExporter.Testrunner.Impl.Results

/-!
This module contains how the result file of AGFHC is turned into the results of each test on each
device.
-/

namespace Testrunner

structure TestResultInfo where
  test : String
  state : String
  subject : String
  deriving DecidableEq

structure AgfhcTestResult where
  deviceIDs : List String
  testResults : GoMap String TestResultInfo
  deriving DecidableEq

def agfhcTestStatePassed : String := "passed"

def agfhcTestStateFailed : String := "failed"

def agfhcTestStateSkipped : String := "skipped"

def agfhcTestStateQueued : String := "queued"

def isValidGPUID (subject : String) : Bool :=
  -- The pattern `^GPU-\d+` is not anchored at the end.
  match subject.toList with
  | 'G' :: 'P' :: 'U' :: '-' :: c :: _ => c.isDigit
  | _ => false

def failedDeviceIDs (subject : String) : List String × Bool :=
  if subject = "" then ([], false) else go [] (split subject ':')
where
  go (failedDeviceIDs : List String) : List String → List String × Bool
    | [] => (failedDeviceIDs, false)
    | failedSubject :: subjectsList =>
      if isValidGPUID failedSubject then
        go (failedDeviceIDs ++ [failedSubject]) subjectsList
      else
        (failedDeviceIDs, true)

def removeLeadingZeros (id : String) : Option String :=
  -- `none` is the index out of range where there is no dash
  match split id '-' with
  | _ :: number :: _ =>
    let gpuID := String.ofList (number.toList.dropWhile (· = '0'))
    some (if gpuID = "" then "0" else gpuID)
  | _ => none

section CaseFolding

variable [CaseMap]

def mapToTestResultEnum (gpuID result subject : String) : TestResult :=
  if toLower result = agfhcTestStatePassed then
    .Success
  else if toLower result = agfhcTestStateFailed then
    let (failedDevices, overallFailed) := failedDeviceIDs subject
    if !overallFailed && 0 < failedDevices.length then
      -- the ids are compared as they are written
      if gpuID ∈ failedDevices then .Failure else .Success
    else
      .Failure
  else if toLower result = agfhcTestStateSkipped then
    .Skipped
  else if toLower result = agfhcTestStateQueued then
    .Queued
  else
    .Failure

def TestResultInfo.resultFor (result : TestResultInfo) (id : String) : TestResult :=
  mapToTestResultEnum id result.state result.subject

/--
The loops of `parseAgfhcTestResult`: the range over the results is made once for each device, `range n`
are the results in the order of the `n`-th one. The result is `none` if the loop panics.
-/
def parseAgfhcTestResult (deviceIDs : List String) (range : Nat → List TestResultInfo)
    : Option (GoMap String TestResults) :=
  go ∅ 0 deviceIDs
where
  go (testResult : GoMap String TestResults) (n : Nat) : List String → Option (GoMap String TestResults)
    | [] => some testResult
    | id :: ids =>
      match removeLeadingZeros id with
      | none => none
      | some gpuID =>
        let testResult := (range n).foldl
          (fun testResult result => testResult.assign gpuID result.test (result.resultFor id))
          testResult
        go testResult (n + 1) ids

end CaseFolding

namespace AgfhcTestResult

def infos (data : AgfhcTestResult) : List TestResultInfo :=
  data.testResults.entries.map (·.2)

/--
Each range over the results visits all of them, in an order of its own.
-/
def Ranges (data : AgfhcTestResult) (range : Nat → List TestResultInfo) : Prop :=
  ∀ n, (range n).Perm data.infos

end AgfhcTestResult

end Testrunner
