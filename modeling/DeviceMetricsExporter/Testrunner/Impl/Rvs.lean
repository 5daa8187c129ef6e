import DeviceMetricsExporter.Lib.NestedMap
import DeviceMetricsExporter.Lib.TrimSpace
import DeviceMetricsExporter.Testrunner.Impl.Results

/-!
This module contains how the result file of RVS is read: the repair of surplus closing braces at its
end, the decoding of its test suites and the result of each action on each GPU.
-/

namespace Testrunner

structure RvsGPUTestResult where
  gpuID : String
  pass : String
  deriving DecidableEq

structure RvsTestResult where
  version : String := ""
  testSuites : GoMap String (GoMap String (List RvsGPUTestResult)) := ∅
  deriving DecidableEq

/--
`json.Unmarshal` at the three types it is used for here. A map of raw messages comes in the order in
which it is ranged over, errors are given by their texts.
-/
structure Unmarshal where
  rawMessages : Bytes → Except String (GoMap String Bytes)
  version : Bytes → Except String String
  testSuite : Bytes → Except String (GoMap String (List RvsGPUTestResult))

def RvsTestResult.unmarshalJSON (json : Unmarshal) (r : RvsTestResult) (data : Bytes)
    : RvsTestResult × Option String :=
  -- an error leaves the fields behind that have been set until then
  match json.rawMessages data with
  | .error err => (r, some err)
  | .ok rawResult => go { r with testSuites := ∅ } rawResult.entries
where
  go (r : RvsTestResult) : List (Sigma fun _ : String => Bytes) → RvsTestResult × Option String
    | [] => (r, none)
    | ⟨key, value⟩ :: rawResult =>
      if key = "version" then
        match json.version value with
        | .error err => (r, some err)
        | .ok version => go { r with version } rawResult
      else
        match json.testSuite value with
        | .error err => (r, some err)
        | .ok testSuite => go { r with testSuites := r.testSuites.insert key testSuite } rawResult

def maxRVSParseRetries : Nat := 10

def contains (s substr : String) : Bool :=
  s.toList.tails.any fun t => substr.toList.isPrefixOf t

/--
The texts that make the loop of `parseRvsTestResult` try again.
-/
def namesBrace (err : String) : Bool :=
  contains err "invalid character" && contains err "\x7d"

def closingBrace : UInt8 := 0x7d

def trimBrace (currentBytes : Bytes) : Option Bytes :=
  let trimmed := Bytes.trimSpace currentBytes
  if trimmed.getLast? = some closingBrace then some trimmed.dropLast else none

def unmarshalWithRetries (json : Unmarshal) (bytes : Bytes) : Except (Nat × String) RvsTestResult :=
  -- the error comes with the number of retries before it
  go {} bytes 0 maxRVSParseRetries
where
  go (data : RvsTestResult) (currentBytes : Bytes) (i retriesLeft : Nat)
      : Except (Nat × String) RvsTestResult :=
    match data.unmarshalJSON json currentBytes with
    | (data, none) => .ok data
    | (data, some err) =>
      match retriesLeft with
      | 0 => .error (i, err)
      | retriesLeft + 1 =>
        if namesBrace err then
          match trimBrace currentBytes with
          | some currentBytes => go data currentBytes (i + 1) retriesLeft
          | none => .error (i, err)
        else
          .error (i, err)

def getTestResultEnum (val : String) : TestResult :=
  if val = "true" then .Success else .Failure

def RvsGPUTestResult.record (name : String) (testResult : GoMap String TestResults)
    (gpu : RvsGPUTestResult) : GoMap String TestResults :=
  if gpu.pass = "" then testResult
  else testResult.assign gpu.gpuID name (getTestResultEnum gpu.pass)

def RvsTestResult.testResult (data : RvsTestResult) : GoMap String TestResults :=
  data.testSuites.entries.foldl
    (fun testResult testsuite => testsuite.2.entries.foldl
      (fun testResult test => test.2.foldl (RvsGPUTestResult.record test.1) testResult)
      testResult)
    ∅

/--
`file` is what `os.ReadFile` returns for the path that `ExtractLogLocation` finds in the output, or
the error of either.
-/
def parseRvsTestResult (json : Unmarshal) (file : Except String Bytes)
    : Except String (GoMap String TestResults) :=
  match file with
  | .error err => .error err
  | .ok bytes =>
    match unmarshalWithRetries json bytes with
    | .error (i, err) => .error s!"failed to unmarshal JSON after {i} retries: {err}"
    | .ok data => .ok data.testResult

end Testrunner
