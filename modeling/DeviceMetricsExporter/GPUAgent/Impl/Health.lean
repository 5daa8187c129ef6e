import Mathlib.Algebra.Group.Int.Defs
import DeviceMetricsExporter.Lib.Float64
import DeviceMetricsExporter.GPUAgent.Impl.Client

/-!
This module contains the three writers of the health map: `processHealthValidation` with its checks
of ECC counters, events and CPER records, the part of `UpdateStaticMetrics` that sets the health, and
`SetComputeNodeHealthState`. `none` is a panic.
-/

namespace GPUAgent

open Exporter

def normalizeUint64 (x : UInt64) : Nat :=
  if x.toNat = 2 ^ 64 - 1 ∨ x.toNat = 2 ^ 32 - 1 ∨ x.toNat = 2 ^ 16 - 1 ∨ x.toNat = 2 ^ 8 - 1 then
    0
  else
    float64 x.toNat

structure EccCheck where
  fieldName : String
  threshold : UInt32
  count : Nat

def eccChecks (thresholds : GPUHealthThresholds) (stats : GPUStats) : List EccCheck :=
  [⟨"GPU_ECC_UNCORRECT_SDMA", thresholds.GPU_ECC_UNCORRECT_SDMA,
      normalizeUint64 stats.sdmaUncorrectableErrors⟩,
    ⟨"GPU_ECC_UNCORRECT_GFX", thresholds.GPU_ECC_UNCORRECT_GFX,
      normalizeUint64 stats.gfxUncorrectableErrors⟩,
    ⟨"GPU_ECC_UNCORRECT_MMHUB", thresholds.GPU_ECC_UNCORRECT_MMHUB,
      normalizeUint64 stats.mmhubUncorrectableErrors⟩,
    ⟨"GPU_ECC_UNCORRECT_ATHUB", thresholds.GPU_ECC_UNCORRECT_ATHUB,
      normalizeUint64 stats.athubUncorrectableErrors⟩,
    ⟨"GPU_ECC_UNCORRECT_BIF", thresholds.GPU_ECC_UNCORRECT_BIF,
      normalizeUint64 stats.bifUncorrectableErrors⟩,
    ⟨"GPU_ECC_UNCORRECT_HDP", thresholds.GPU_ECC_UNCORRECT_HDP,
      normalizeUint64 stats.hdpUncorrectableErrors⟩,
    ⟨"GPU_ECC_UNCORRECT_XGMI_WAFL", thresholds.GPU_ECC_UNCORRECT_XGMI_WAFL,
      normalizeUint64 stats.xgmiWaflUncorrectableErrors⟩,
    ⟨"GPU_ECC_UNCORRECT_DF", thresholds.GPU_ECC_UNCORRECT_DF,
      normalizeUint64 stats.dfUncorrectableErrors⟩,
    ⟨"GPU_ECC_UNCORRECT_SMN", thresholds.GPU_ECC_UNCORRECT_SMN,
      normalizeUint64 stats.smnUncorrectableErrors⟩,
    ⟨"GPU_ECC_UNCORRECT_SEM", thresholds.GPU_ECC_UNCORRECT_SEM,
      normalizeUint64 stats.semUncorrectableErrors⟩,
    ⟨"GPU_ECC_UNCORRECT_MP0", thresholds.GPU_ECC_UNCORRECT_MP0,
      normalizeUint64 stats.mp0UncorrectableErrors⟩,
    ⟨"GPU_ECC_UNCORRECT_MP1", thresholds.GPU_ECC_UNCORRECT_MP1,
      normalizeUint64 stats.mp1UncorrectableErrors⟩,
    ⟨"GPU_ECC_UNCORRECT_FUSE", thresholds.GPU_ECC_UNCORRECT_FUSE,
      normalizeUint64 stats.fuseUncorrectableErrors⟩,
    ⟨"GPU_ECC_UNCORRECT_UMC", thresholds.GPU_ECC_UNCORRECT_UMC,
      normalizeUint64 stats.umcUncorrectableErrors⟩,
    ⟨"GPU_ECC_UNCORRECT_MCA", thresholds.GPU_ECC_UNCORRECT_MCA,
      normalizeUint64 stats.mcaUncorrectableErrors⟩,
    ⟨"GPU_ECC_UNCORRECT_VCN", thresholds.GPU_ECC_UNCORRECT_VCN,
      normalizeUint64 stats.vcnUncorrectableErrors⟩,
    ⟨"GPU_ECC_UNCORRECT_JPEG", thresholds.GPU_ECC_UNCORRECT_JPEG,
      normalizeUint64 stats.jpegUncorrectableErrors⟩,
    ⟨"GPU_ECC_UNCORRECT_IH", thresholds.GPU_ECC_UNCORRECT_IH,
      normalizeUint64 stats.ihUncorrectableErrors⟩,
    ⟨"GPU_ECC_UNCORRECT_MPIO", thresholds.GPU_ECC_UNCORRECT_MPIO,
      normalizeUint64 stats.mpioUncorrectableErrors⟩]

def setHealth (m : GoMap String GPUState) (gpuid : String) (health : GPUHealth)
    : Option (GoMap String GPUState) :=
  -- `newGPUState[gpuid].Health = health`, a missing entry is a nil pointer.
  match m.lookup gpuid with
  | none => none
  | some state => some (m.insert gpuid { state with health })

/--
What the health functions ask of package `time`: the parsers of durations and of the CPER timestamp
layout, and the clock when the record of a GPU is checked. All in nanoseconds.
-/
structure Time where
  parseDuration : String → Option Int
  parseInLocation : String → Option Int
  now : String → Int

def since (now ts : Int) : Int :=
  max (-2 ^ 63) (min (2 ^ 63 - 1) (now - ts))

structure HealthConfig where
  healthThresholds : Option GPUHealthThresholds
  enableSriov : Bool
  simEnabled : Bool
  eventsDisabled : Bool

namespace HealthConfig

def getHealthThreshholds (cfg : HealthConfig) : GPUHealthThresholds :=
  cfg.healthThresholds.getD {}

def getCperHealthMaxAge (cfg : HealthConfig) (time : Time) : Int :=
  match cfg.healthThresholds with
  | none => 0
  | some thresholds =>
    if thresholds.GPU_CPER_MAX_AGE = "" then
      0
    else
      match time.parseDuration thresholds.GPU_CPER_MAX_AGE with
      | none => 0
      | some maxAge => if maxAge < 0 then 0 else maxAge

end HealthConfig

/--
What a validation reads: the workloads, the GPUs with `none` for an error of `getGPUs`, the events
with `none` for an error of `getEvents`, and the cached CPER records.
-/
structure HealthData where
  wls : GoMap String Workload
  gpus : Option GPUGetResponse
  events : Option EventResponse
  cper : Option GPUCPERGetResponse
  cperErr : Bool

section Cper

def parseCPERRecordTimestamp (time : Time) (record : CPEREntry) : Option Int :=
  if record.timestamp = "" then none else time.parseInLocation record.timestamp

structure CperCacheEntry where
  -- A record with its timestamp, `none` if `hasTS` is false.
  entry : CPEREntry
  timestamp : Option Int

def CperCacheEntry.supersedes (candidate : CperCacheEntry) (existing : Option CperCacheEntry)
    : Bool :=
  -- The `switch` of `latestCPERPerGPU`: a timestamped record supersedes one without a timestamp and
  -- any older one, among records without a timestamp the last one stays.
  match existing with
  | none => true
  | some existing =>
    match candidate.timestamp, existing.timestamp with
    | some _, none => true
    | some currentTS, some ts => ts < currentTS
    | none, none => true
    | none, some _ => false

def latestCPERPerGPU (time : Time) (gpuCpers : GPUCPERGetResponse) : GoMap String CPEREntry :=
  let latestCPER : GoMap String CperCacheEntry := gpuCpers.cper.foldl
    (fun latestCPER c =>
      let gpuuid := uuidToString c.gpu
      c.cperEntry.foldl
        (fun latestCPER record =>
          let candidate := ⟨record, parseCPERRecordTimestamp time record⟩
          if candidate.supersedes (latestCPER.lookup gpuuid) then
            latestCPER.insert gpuuid candidate
          else
            latestCPER)
        latestCPER)
    ∅
  latestCPER.map fun _ cacheEntry => cacheEntry.entry

def isFatalCPERActionable (time : Time) (now : Int) (record : CPEREntry) (maxAge : Int) : Bool :=
  if record.severity ≠ .FATAL then
    false
  else if maxAge = 0 then
    true
  else
    match parseCPERRecordTimestamp time record with
    | none => true
    | some recordTS => !(maxAge < since now recordTS)

def markUnhealthy (gpuUUIDMap : GoMap String String) (newGPUState : GoMap String GPUState)
    (gpuuid : String) : Option (GoMap String GPUState) :=
  match gpuUUIDMap.lookup gpuuid with
  | some gpuid => setHealth newGPUState gpuid .UNHEALTHY
  | none => some newGPUState

def applyCPERHealthChecks (time : Time) (cfg : HealthConfig) (gpuUUIDMap : GoMap String String)
    (newGPUState : GoMap String GPUState) (gpuCper : Option GPUCPERGetResponse) (cperErr : Bool)
    : Option (GoMap String GPUState) :=
  if cperErr then
    some newGPUState
  else
    match gpuCper with
    | none => some newGPUState
    | some gpuCper =>
      if gpuCper.apiStatus ≠ 0 then
        some newGPUState
      else
        let maxAge := cfg.getCperHealthMaxAge time
        (latestCPERPerGPU time gpuCper).entries.foldlM
          (fun newGPUState ⟨gpuuid, record⟩ =>
            if isFatalCPERActionable time (time.now gpuuid) record maxAge then
              markUnhealthy gpuUUIDMap newGPUState gpuuid
            else
              some newGPUState)
          newGPUState

end Cper

def eventErrCheck (gpuUUIDMap : GoMap String String) (newGPUState : GoMap String GPUState)
    (e : Event) : Option (GoMap String GPUState) :=
  if e.severity = .CRITICAL then
    markUnhealthy gpuUUIDMap newGPUState (uuidString e.gpu)
  else
    some newGPUState

def applyEventHealthChecks (gpuUUIDMap : GoMap String String) (newGPUState : GoMap String GPUState)
    (evtData : Option EventResponse) : Option (GoMap String GPUState) :=
  match evtData with
  | none => some newGPUState
  | some evtData =>
    if evtData.apiStatus ≠ 0 then
      some newGPUState
    else
      evtData.event.foldlM (eventErrCheck gpuUUIDMap) newGPUState

def gpuUUIDMap (gpus : List GPU) : GoMap String String :=
  GoMap.insertEach ∅ gpus (fun gpu => uuidString gpu.spec.id) getGPUInstanceIDString

inductive HealthError where
  | computeNodeUnhealthy
  | errAgentUnreachable
  | errZeroGPUs
  deriving DecidableEq, Repr

namespace GPUAgentGPUClient

def setUnhealthyGPU (ga : GPUAgentGPUClient) (wls : GoMap String Workload) : GPUAgentGPUClient :=
  { ga with
    healthState := ga.healthState.map fun _ state =>
      { state with
        health := .UNHEALTHY
        associatedWorkload := ga.getWorkloadsListString wls state.id } }

def updateNewHealthState (ga : GPUAgentGPUClient) (newGPUState : GoMap String GPUState)
    : GPUAgentGPUClient :=
  { ga with healthState := newGPUState }

def updateAllGPUsHealthState (ga : GPUAgentGPUClient) (wls : GoMap String Workload)
    (health : GPUHealth) : GPUAgentGPUClient :=
  if !ga.healthState.entries.isEmpty then
    { ga with healthState := ga.healthState.map fun _ state => { state with health } }
  else
    { ga with
      healthState := ga.gpuIDMap.map fun gpuid gpuIdMeta =>
        { id := gpuIdMeta.gpuID
          uuid := gpuIdMeta.uuid
          health := health
          device := gpuIdMeta.pcieBusId
          associatedWorkload := ga.getWorkloadsListString wls gpuid } }

def setComputeNodeHealthState (ga : GPUAgentGPUClient) (wls : GoMap String Workload) (state : Bool)
    : GPUAgentGPUClient :=
  if ga.computeNodeHealthState = state then
    ga
  else
    let ga := { ga with computeNodeHealthState := state }
    ga.updateAllGPUsHealthState wls (if !state then .UNHEALTHY else .HEALTHY)

def applyHealthState (ga : GPUAgentGPUClient) (wls : GoMap String Workload)
    (result : Except HealthError (GoMap String GPUState))
    : GPUAgentGPUClient × Option HealthError :=
  match result with
  | .ok newGPUState => (ga.updateNewHealthState newGPUState, none)
  | .error err => (ga.setUnhealthyGPU wls, some err)

def metricErrCheck (ga : GPUAgentGPUClient) (gpuid : String) (gpuHealthMap : GoMap String GPUState)
    (check : EccCheck) : Option (GoMap String GPUState) :=
  let mockVal := ga.getMockError gpuid check.fieldName
  let count := if mockVal > 0 then float64 mockVal.toNat else check.count
  if count > float64 check.threshold.toNat then
    setHealth gpuHealthMap gpuid .UNHEALTHY
  else
    some gpuHealthMap

section Validation

variable [CaseMap]

def processEccErrorMetricsOf (ga : GPUAgentGPUClient) (thresholds : GPUHealthThresholds)
    (wls : GoMap String Workload) (gpuHealthMap : GoMap String GPUState) (gpu : GPU)
    : Option (GoMap String GPUState) :=
  let gpuid := getGPUInstanceIDString gpu
  let gpuHealthMap := gpuHealthMap.insert gpuid
    { id := gpuid
      uuid := uuidString gpu.spec.id
      health := .HEALTHY
      device := getPCIeBusID gpu
      associatedWorkload := ga.getWorkloadsListString wls gpuid }
  match gpu.stats with
  | none => none
  | some stats => (eccChecks thresholds stats).foldlM (ga.metricErrCheck gpuid) gpuHealthMap

def processEccErrorMetrics (ga : GPUAgentGPUClient) (thresholds : GPUHealthThresholds)
    (gpus : List GPU) (wls : GoMap String Workload) : Option (GoMap String GPUState) :=
  gpus.foldlM (ga.processEccErrorMetricsOf thresholds wls) ∅

/--
What `processHealthValidation` computes between its two critical sections: the new health map, or the
error after which the known GPUs are set to unhealthy.
-/
def newHealthState (ga : GPUAgentGPUClient) (time : Time) (cfg : HealthConfig) (data : HealthData)
    : Option (Except HealthError (GoMap String GPUState)) :=
  match data.gpus with
  | none => some (.error .errAgentUnreachable)
  | some gpumetrics =>
    if gpumetrics.apiStatus ≠ 0 then
      some (.error .errAgentUnreachable)
    else if gpumetrics.response.isEmpty then
      some (.error .errZeroGPUs)
    else do
      let newGPUState ←
        ga.processEccErrorMetrics cfg.getHealthThreshholds gpumetrics.response data.wls
      let gpuUUIDMap := gpuUUIDMap gpumetrics.response
      if !(cfg.enableSriov || cfg.simEnabled) then
        let newGPUState ←
          if !cfg.eventsDisabled then
            applyEventHealthChecks gpuUUIDMap newGPUState data.events
          else
            some newGPUState
        let newGPUState ←
          applyCPERHealthChecks time cfg gpuUUIDMap newGPUState data.cper data.cperErr
        return .ok newGPUState
      else
        return .ok newGPUState

def processHealthValidation (ga : GPUAgentGPUClient) (time : Time) (cfg : HealthConfig)
    (data : HealthData) : Option (GPUAgentGPUClient × Option HealthError) :=
  if !ga.computeNodeHealthState then
    some (ga.setUnhealthyGPU data.wls, some .computeNodeUnhealthy)
  else
    (ga.newHealthState time cfg data).map (ga.applyHealthState data.wls)

def updateStaticMetrics (ga : GPUAgentGPUClient) (cfg : HealthConfig) (data : HealthData)
    : Option GPUAgentGPUClient :=
  match data.gpus with
  | none => some ga
  | some resp =>
    if resp.apiStatus ≠ 0 then
      some ga
    else do
      let ga := ga.initGPUMetadata resp.response
      let newGPUState ← ga.processEccErrorMetrics cfg.getHealthThreshholds resp.response data.wls
      return ga.updateNewHealthState newGPUState

end Validation

end GPUAgentGPUClient

end GPUAgent
