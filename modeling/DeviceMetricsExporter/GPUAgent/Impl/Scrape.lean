import DeviceMetricsExporter.Lib.GaugeVec
import DeviceMetricsExporter.GPUAgent.Impl.Metrics

/-!
This module contains the scrape of the GPU metrics: the metrics that a configuration builds, the pass
over all GPUs of a response, and the static pass. `none` is a panic.
-/

namespace GPUAgent

open Exporter

abbrev MetricWrite := GaugeWrite GPUMetricField ℚ

abbrev GpuMetrics := GaugeStore GPUMetricField ℚ

def GPUMetricField.indexLabels : GPUMetricField → Option IndexLabels
  | GPU_HBM_TEMPERATURE => some .hbm
  | GPU_VCN_ACTIVITY => some .vcn
  | GPU_JPEG_ACTIVITY => some .jpeg
  | GPU_CLOCK | GPU_MIN_CLOCK | GPU_MAX_CLOCK => some .clock
  | GPU_XGMI_LINK_RX | GPU_XGMI_LINK_TX => some .link
  | GPU_GFX_BUSY_INSTANTANEOUS | GPU_VCN_BUSY_INSTANTANEOUS | GPU_JPEG_BUSY_INSTANTANEOUS
  | GPU_VIOLATION_GFX_CLOCK_BELOW_HOST_LIMIT_POWER_ACCUMULATED
  | GPU_VIOLATION_GFX_CLOCK_BELOW_HOST_LIMIT_THERMAL_ACCUMULATED
  | GPU_VIOLATION_LOW_UTILIZATION_ACCUMULATED
  | GPU_VIOLATION_GFX_CLOCK_BELOW_HOST_LIMIT_TOTAL_ACCUMULATED
  | GPU_VIOLATION_GFX_CLOCK_BELOW_HOST_LIMIT_POWER_PERCENTAGE
  | GPU_VIOLATION_GFX_CLOCK_BELOW_HOST_LIMIT_THERMAL_PERCENTAGE
  | GPU_VIOLATION_LOW_UTILIZATION_PERCENTAGE
  | GPU_VIOLATION_GFX_CLOCK_BELOW_HOST_LIMIT_TOTAL_PERCENTAGE => some .xcc
  | GPU_AFID_ERRORS => some .afid
  | GPU_PROCESS_CU_OCCUPANCY => some .process
  | _ => none

def GPUMetricField.indexNames (field : GPUMetricField) : List String :=
  field.indexLabels.elim [] IndexLabels.names

/--
The fields with a metric, which are all of them.
-/
def fieldMetricsMap : List GPUMetricField := GPUMetricField.values

section Apply

def MetricOp.apply (fl : FieldLogger) (gpuid : String) (op : MetricOp)
    : FieldLogger × Option MetricWrite :=
  match op with
  | .mark field => (fl.markUnsupportedFields gpuid field.name, none)
  | .export field labels value =>
    let (fl, exported) := fl.logWithValidateAndExport gpuid field.name (some labels) (some value)
    (fl, exported.map fun e => ⟨field, e.labels, e.value⟩)
  | .set field labels value => (fl, some ⟨field, labels, value⟩)

def applyOps (fl : FieldLogger) : List (String × MetricOp) → FieldLogger × List MetricWrite
  | [] => (fl, [])
  | (gpuid, op) :: ops =>
    let (fl, written) := op.apply fl gpuid
    let (fl, rest) := applyOps fl ops
    (fl, written.toList ++ rest)

end Apply

section Response

variable [CaseMap]

def metricLabelNames (lc : LabelConfig) (field : GPUMetricField) : List String :=
  match field with
  | .GPU_NODES_TOTAL => getExporterNonDeviceLabels lc
  | field => field.indexNames ++ getExportLabels lc

def initPrometheusMetrics (lc : LabelConfig) : GpuMetrics where
  labelNames := metricLabelNames lc
  series := ∅

def resetMetrics (metrics : GpuMetrics) : GpuMetrics :=
  metrics.reset fieldMetricsMap

def initFieldRegistration (exportFieldMap : GoMap String Bool) : List GPUMetricField :=
  exportFieldMap.entries.filterMap fun e =>
    if e.2 then HealthCLI.metricFieldOfName e.1 else none

/--
The parents of the partitions in a response, by their PCIe base addresses.
-/
def partitionMap (gpus : List Amdgpu.GPU) : GoMap String GPU :=
  gpus.foldl
    (fun partitionMap gpu =>
      match gpu.status.pcieBusId with
      | none => partitionMap
      | some pcieBusId =>
        let gpuPcieAddr := toLower pcieBusId
        let pcieBaseAddr := getPCIeBaseAddress gpuPcieAddr
        if pcieBaseAddr ≠ gpuPcieAddr ∧ gpu.status.partitionId = 0 then
          partitionMap.insert pcieBaseAddr gpu.toAgent
        else
          partitionMap)
    ∅

end Response

/--
What a pass over the GPUs reads: the workloads, the GPUs with `none` for an error, the latest CPER
records, the counters of the profiler by render id with `none` for an error, the pods of the node, and
whether the request is cancelled before the profiler has answered.
-/
structure ScrapeData where
  wls : GoMap String Workload := ∅
  gpus : Option Amdgpu.GPUGetResponse
  cper : GoMap String Amdgpu.CPEREntry := ∅
  profiler : Option (GoMap String (GoMap String ℚ)) := none
  podInfo : GoMap String K8sPodInfo := ∅
  cancelled : Bool := false

structure GPUMetricsClient where
  configs : GPUConfigs
  client : GPUAgentGPUClient
  k8PodInfoMap : GoMap String K8sPodInfo
  staticHostLabels : GoMap String String
  fl : FieldLogger
  metrics : GpuMetrics
  registered : List GPUMetricField

def newGPUMetricsClient (handler : GPUHandler) (client : GPUAgentGPUClient)
    (staticHostLabels : GoMap String String) : GPUMetricsClient where
  configs := newGPUConfigs handler
  client := client
  k8PodInfoMap := ∅
  staticHostLabels := staticHostLabels
  fl := newFieldLogger
  metrics := { labelNames := fun _ => [], series := ∅ }
  registered := []

namespace GPUMetricsClient

variable (ga : GPUMetricsClient)

def labelClient : GPULabelClient where
  toLabelConfig := ga.configs.toLabelConfig
  client := ga.client
  k8PodInfoMap := ga.k8PodInfoMap
  staticHostLabels := ga.staticHostLabels

variable [CaseMap]

def initConfigs (handler : GPUHandler) (config : Option GPUMetricConfig)
    : Option GPUMetricsClient :=
  (ga.configs.initConfigs handler config).map fun configs =>
    { ga with
      configs := configs
      k8PodInfoMap := ∅
      fl := FieldLogger.reset
      metrics := initPrometheusMetrics configs.toLabelConfig
      registered := initFieldRegistration configs.exportFieldMap }

variable [FloatOps]

/--
What is done with the counters of the agent. Each part that uses `labelsWithIndex` gets the map that the
part before it has left.
-/
def counterOps (labels : Labels) (gpu : Amdgpu.GPU) (stats : Amdgpu.GPUStats)
    (cper : Option Amdgpu.CPEREntry) : List MetricOp :=
  let (temperature, labelsWithIndex) := temperatureOps labels labels stats.temperature
  let (usage, labelsWithIndex) := usageOps labels labelsWithIndex stats.usage
  let (clocks, labelsWithIndex) := clockOps labels labelsWithIndex gpu.status.clockStatus
  let (links, labelsWithIndex) := xgmiLinkOps labelsWithIndex stats.xgmiLinkStats
  let (violations, labelsWithIndex) := violationOps labels labelsWithIndex stats.violationStats
  let (afids, labelsWithIndex) := afidOps labelsWithIndex cper
  let (processes, _) := processOps labelsWithIndex gpu.status.processStatus
  exportNonZero labels (packagePowerValues stats) ++ temperature ++ usage
    ++ voltageOps labels stats.voltage ++ pcieStatusOps labels gpu.status.pcieStatus
    ++ exportAll labels (stats.pcieStats.elim [] pcieStatsValues)
    ++ exportNonZero labels (energyValues stats) ++ clocks
    ++ exportNonZero labels (powerUsageValues stats)
    ++ exportAll labels (vramMaxBandwidthValues gpu.status.vramStatus)
    ++ exportAll labels (eccValues stats) ++ exportAll labels (xgmiNeighborValues stats)
    ++ exportAll labels (stats.vramUsage.elim [] vramUsageValues)
    ++ exportAll labels (vramValues stats.vramUsage gpu.status.vramStatus) ++ links ++ violations
    ++ afids ++ processes

def updateGPUInfoToMetrics (wls : GoMap String Workload) (partitionMap : GoMap String GPU)
    (profMetrics : Option (GoMap String ℚ)) (cperEntryMap : GoMap String Amdgpu.CPEREntry)
    (gpu : Amdgpu.GPU) : Option (List MetricOp) :=
  if !ga.configs.exporterEnabledGPU gpu.status.index.toNat then
    some []
  else
    let labels := ga.labelClient.populateLabelsFromGPU wls (some gpu.toAgent) partitionMap
    match gpu.stats with
    | none => none
    | some stats =>
      some
        (healthOps labels (ga.client.healthState.lookup (getGPUInstanceIDString gpu.toAgent))
          ++ counterOps labels gpu stats (cperEntryMap.lookup (getGPUUUID gpu.toAgent))
          ++ profilerOps labels ga.configs.exportFieldMap profMetrics)

/--
The counters of a GPU, `none` if the profiler has no data for it.
-/
def profMetrics (handler : GPUHandler) (data : ScrapeData) (gpu : Amdgpu.GPU)
    : Option (GoMap String ℚ) :=
  if ga.configs.isProfilerEnabled handler then
    (data.profiler.getD ∅).lookup (getGPURenderId gpu.toAgent)
  else
    none

def updateGPU (handler : GPUHandler) (data : ScrapeData) (partitionMap : GoMap String GPU)
    (cperEntryMap : GoMap String Amdgpu.CPEREntry) (gpu : Amdgpu.GPU)
    : Option GPUMetricsClient := do
  let ops ←
    ga.updateGPUInfoToMetrics data.wls partitionMap (ga.profMetrics handler data gpu) cperEntryMap gpu
  let (fl, written) := applyOps ga.fl (ops.map fun op => (getGPUInstanceIDString gpu.toAgent, op))
  let metrics ← written.foldlM GaugeStore.write ga.metrics
  return { ga with fl, metrics }

/--
The loop over the GPUs of a response, after the number of them.
-/
def updateGPUs (handler : GPUHandler) (data : ScrapeData) (gpus : List Amdgpu.GPU)
    (cperEntryMap : GoMap String Amdgpu.CPEREntry) : Option GPUMetricsClient := do
  let ga := { ga with k8PodInfoMap := data.podInfo }
  let nonGpuLabels := ga.labelClient.populateLabelsFromGPU ∅ none ∅
  let metrics ← ga.metrics.write ⟨.GPU_NODES_TOTAL, nonGpuLabels, float64 gpus.length⟩
  let ga := { ga with metrics }
  gpus.foldlM (fun ga gpu => ga.updateGPU handler data (partitionMap gpus) cperEntryMap gpu) ga

def getMetricsAll (handler : GPUHandler) (data : ScrapeData) : Option GPUMetricsClient :=
  match data.gpus with
  | none => some ga
  | some resp =>
    if resp.apiStatus ≠ 0 ∨ data.cancelled then
      some ga
    else
      ga.updateGPUs handler data resp.response (if ga.configs.enableAfidMetrics then data.cper else ∅)

/--
A request for the metrics: everything is reset before the values are read.
-/
def updateMetrics (handler : GPUHandler) (data : ScrapeData) : Option GPUMetricsClient :=
  { ga with metrics := resetMetrics ga.metrics }.getMetricsAll handler data

def updateStaticMetrics (handler : GPUHandler) (cfg : HealthConfig) (data : ScrapeData)
    : Option GPUMetricsClient :=
  match data.gpus with
  | none => some ga
  | some resp =>
    if resp.apiStatus ≠ 0 then
      some ga
    else do
      let gpus := resp.response.map Amdgpu.GPU.toAgent
      let client ← ga.client.updateStaticMetrics cfg
        { wls := data.wls
          gpus := some ⟨resp.apiStatus, gpus⟩
          events := none
          cper := none
          cperErr := false }
      let ga ← { ga with client }.updateGPUs handler data resp.response ∅
      return { ga with fl := ga.fl.setFilterDone }

end GPUMetricsClient

/--
`setClient` is any change that the health monitor and the calls of the health service make to the state
of the client.
-/
inductive MetricsAction where
  | initConfigs (config : Option GPUMetricConfig)
  | updateStaticMetrics (cfg : HealthConfig) (data : ScrapeData)
  | updateMetrics (data : ScrapeData)
  | setClient (client : GPUAgentGPUClient)

def metricsSystem [CaseMap] [FloatOps] (handler : GPUHandler)
    : TransitionSystem GPUMetricsClient MetricsAction where
  step ga a :=
    match a with
    | .initConfigs config => ga.initConfigs handler config
    | .updateStaticMetrics cfg data => ga.updateStaticMetrics handler cfg data
    | .updateMetrics data => ga.updateMetrics handler data
    | .setClient client => some { ga with client }

end GPUAgent
