import DeviceMetricsExporter.HealthCLI.Impl.Utils

/-!
This module contains the commands of `amdgpuhealth` that query the exporter for a counter and for the
inband RAS errors, from their flags to the exit code.
-/

namespace HealthCLI

structure Exit where
  code : Nat
  stdout : String

/--
The exit status of the process, `none` is a panic.
-/
def exitStatus : Option Exit → Nat
  | none => 2
  | some exit => exit.code

def amdGPUHandlerPrefix : String := "/gpumetrics"

def amdGPUInbandRASHandlerPrefix : String := "/inbandraserrors"

def isDigits (maxLength : Nat) (s : List Char) : Bool :=
  0 < s.length && s.length ≤ maxLength && s.all Char.isDigit

/--
The regular expression of the addresses, four groups of up to three digits and a port of up to five.
-/
def validateInputAddress (address : String) : Bool :=
  match address.toList.splitOn ':' with
  | [ip, port] =>
    match ip.splitOn '.' with
    | [a, b, c, d] => [a, b, c, d].all (isDigits 3) && isDigits 5 port
    | _ => false
  | _ => false

/--
What a command finds when it runs: the error of `Initialize`, the kind of install, the service
discovery with `none` for its error, and the body that a URL answers with or `none` for an error.
-/
structure Environment where
  initializeErr : Option String
  isDebianInstall : Bool
  getMetricsEndpointURL : Option String
  getInbandRASErrorsEndpointURL : Option String
  queryExporterEndpoint : String → Option String

def Environment.answering (response : String) : Environment where
  initializeErr := none
  isDebianInstall := false
  getMetricsEndpointURL := some "http://10.0.0.1:5000/gpumetrics"
  getInbandRASErrorsEndpointURL := some "http://10.0.0.1:5000/inbandraserrors"
  queryExporterEndpoint _ := some response

/--
The flags of a command. A flag that was not given is `none` or has its default value.
-/
structure Flags where
  address : Option String := none
  metric : Option String := none
  severity : Option String := none
  threshold : Int := 0
  afid : UInt64 := 0

namespace Environment

variable (env : Environment) (flags : Flags)

def checkInitialized : Except Exit Unit :=
  match env.initializeErr with
  | some err => .error ⟨2, err⟩
  | none => .ok ()

/--
The endpoint is the given address or what the service discovery has found.
-/
def endpoint (handlerPrefix : String) (discovered : Option String) (notFound : String)
    : Except Exit String :=
  match flags.address with
  | some inputAddress =>
    if !validateInputAddress inputAddress then
      .error ⟨2, "invalid input address format"⟩
    else
      .ok ("http://" ++ inputAddress ++ handlerPrefix)
  | none =>
    match discovered with
    | none => .error ⟨2, notFound⟩
    | some url => if url = "" then .error ⟨2, notFound⟩ else .ok url

def query (url notReached : String) : Except Exit String :=
  match env.queryExporterEndpoint url with
  | none => .error ⟨2, notReached⟩
  | some response => .ok response

def counterMetricResponse : Except Exit (String × String) := do
  env.checkInitialized
  let metricsEndpoint ← endpoint flags amdGPUHandlerPrefix env.getMetricsEndpointURL
    "unable to get metrics endpoint url"
  match flags.metric with
  | none => .error ⟨2, "mandatory field metric missing in cli query"⟩
  | some metricName =>
    let response ← env.query metricsEndpoint "unable to query metrics endpoint"
    return (metricName, response)

def checkCounters (metricName : String) (metrics : List ℚ) : Exit :=
  if metrics.isEmpty then
    ⟨2, s!"metric {metricName} not found"⟩
  else if metrics.any fun metric => toInt64 metric > flags.threshold then
    ⟨1, s!"metric {metricName} crossed threshold"⟩
  else
    ⟨0, if env.isDebianInstall then s!"metric {metricName} is within threshold\n" else ""⟩

def counterMetricCmdHandler [CaseMap] (unmarshal : String → Option GPUGetResponse) : Exit :=
  match env.counterMetricResponse flags with
  | .error exit => exit
  | .ok (metricName, response) =>
    env.checkCounters flags metricName (parseGPUMetricsResponse unmarshal response metricName)

def inbandRasErrorsResponse : Except Exit String := do
  env.checkInitialized
  let inbandRASErrorsEndpoint ← endpoint flags amdGPUInbandRASHandlerPrefix
    env.getInbandRASErrorsEndpointURL "unable to get endpoint url"
  let inbandRASErrorsEndpoint :=
    match flags.severity with
    | some severity => inbandRASErrorsEndpoint ++ "?severity=" ++ severity
    | none => inbandRASErrorsEndpoint
  env.query inbandRASErrorsEndpoint "unable to query inband ras errors"

def countEntry (afid : UInt64) (entryCount : Nat) (entry : Option CPEREntry) : Option Nat :=
  if afid ≠ 0 then do
    -- `IsAFIDPresentInCPER` dereferences the record
    let entry ← entry
    return if isAFIDPresentInCPER entry afid then entryCount + 1 else entryCount
  else
    some (entryCount + 1)

def countGPUEntries (afid : UInt64) (entryCount : Nat) (gpucperentry : Option GPUCPEREntry)
    : Option Nat := do
  let gpucperentry ← gpucperentry
  gpucperentry.cperEntry.foldlM (countEntry afid) entryCount

def checkEntryCount (entryCount : Nat) : Exit :=
  if entryCount > flags.threshold then
    ⟨1, s!"error count {entryCount} crossed threshold {flags.threshold}"⟩
  else
    ⟨0, if env.isDebianInstall then
        s!"inband ras error count={entryCount} is within threshold {flags.threshold}"
      else
        ""⟩

/--
`none` is a nil pointer.
-/
def inbandRasErrorsCmdHandler (unmarshal : String → Option GPUCPERGetResponse) : Option Exit :=
  match env.inbandRasErrorsResponse flags with
  | .error exit => some exit
  | .ok response => do
    let cperEntries := parseInbandRasErrorsResponse unmarshal response
    let entryCount ← cperEntries.foldlM (countGPUEntries flags.afid) 0
    return env.checkEntryCount flags entryCount

end Environment

end HealthCLI
