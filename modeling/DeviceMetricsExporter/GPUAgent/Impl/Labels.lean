import DeviceMetricsExporter.Exporter.Impl.Labels
import DeviceMetricsExporter.GPUAgent.Impl.Client

/-!
This module contains the labels of the GPU metrics: the names a metric is registered with and the
values that are computed for one GPU.
-/

namespace GPUAgent

open Exporter

inductive GPUMetricLabel where
  | GPU_UUID | GPU_ID | GPU_PARTITION_ID | GPU_COMPUTE_PARTITION_TYPE | GPU_MEMORY_PARTITION_TYPE
  | KFD_PROCESS_ID | DEPLOYMENT_MODE
  deriving DecidableEq

namespace GPUMetricLabel

def name : GPUMetricLabel → String
  | GPU_UUID => "GPU_UUID"
  | GPU_ID => "GPU_ID"
  | GPU_PARTITION_ID => "GPU_PARTITION_ID"
  | GPU_COMPUTE_PARTITION_TYPE => "GPU_COMPUTE_PARTITION_TYPE"
  | GPU_MEMORY_PARTITION_TYPE => "GPU_MEMORY_PARTITION_TYPE"
  | KFD_PROCESS_ID => "KFD_PROCESS_ID"
  | DEPLOYMENT_MODE => "DEPLOYMENT_MODE"

def values : List GPUMetricLabel :=
  [GPU_UUID, GPU_ID, GPU_PARTITION_ID, GPU_COMPUTE_PARTITION_TYPE, GPU_MEMORY_PARTITION_TYPE,
    KFD_PROCESS_ID, DEPLOYMENT_MODE]

instance : ProtoEnum GPUMetricLabel where
  name := name
  values := values
  mem_values l := by cases l <;> decide
  nodup_names := by decide

end GPUMetricLabel

abbrev GPULabel := DeviceLabel GPUMetricLabel

instance : ProtoEnum GPULabel where
  name := DeviceLabel.name
  values := DeviceLabel.values
  mem_values := DeviceLabel.mem_values
  nodup_names := by decide

def GPUComputePartitionType.toString : GPUComputePartitionType → String
  | NONE => "GPU_COMPUTE_PARTITION_TYPE_NONE"
  | SPX => "GPU_COMPUTE_PARTITION_TYPE_SPX"
  | DPX => "GPU_COMPUTE_PARTITION_TYPE_DPX"
  | TPX => "GPU_COMPUTE_PARTITION_TYPE_TPX"
  | QPX => "GPU_COMPUTE_PARTITION_TYPE_QPX"
  | CPX => "GPU_COMPUTE_PARTITION_TYPE_CPX"
  | unrecognized value => value.repr

def GPUMemoryPartitionType.toString : GPUMemoryPartitionType → String
  | NONE => "GPU_MEMORY_PARTITION_TYPE_NONE"
  | NPS1 => "GPU_MEMORY_PARTITION_TYPE_NPS1"
  | NPS2 => "GPU_MEMORY_PARTITION_TYPE_NPS2"
  | NPS4 => "GPU_MEMORY_PARTITION_TYPE_NPS4"
  | NPS8 => "GPU_MEMORY_PARTITION_TYPE_NPS8"
  | unrecognized value => value.repr

def GPUVirtualizationMode.toString : GPUVirtualizationMode → String
  | NONE => "GPU_VIRTUALIZATION_MODE_NONE"
  | BAREMETAL => "GPU_VIRTUALIZATION_MODE_BAREMETAL"
  | HOST => "GPU_VIRTUALIZATION_MODE_HOST"
  | GUEST => "GPU_VIRTUALIZATION_MODE_GUEST"
  | PASSTHROUGH => "GPU_VIRTUALIZATION_MODE_PASSTHROUGH"
  | unrecognized value => value.repr

def gpuMandatoryLables : List GPULabel :=
  [.device .GPU_ID, .common .CARD_MODEL, .device .GPU_PARTITION_ID, .device .GPU_COMPUTE_PARTITION_TYPE,
    .device .GPU_MEMORY_PARTITION_TYPE, .device .DEPLOYMENT_MODE, .common .SERIAL_NUMBER, .common .POD,
    .common .NAMESPACE, .common .CONTAINER, .common .JOB_ID, .common .JOB_USER, .common .JOB_PARTITION,
    .common .HOSTNAME]

def allowedCustomLabels : List String :=
  [MetricLabel.CLUSTER_NAME.name]

section Values

variable [CaseMap]

def normalizeStringWithoutPrefix (str trimmed : String) : String :=
  toLower (String.ofList ((str.toList.dropPrefix? trimmed.toList).getD str.toList))

def virtualizationModeToDeploymentMode (virtualizationMode : String) : String :=
  let virtualizationMode := toLower virtualizationMode
  if virtualizationMode = "baremetal" then "baremetal"
  else if virtualizationMode = "host" then "hypervisor"
  else if virtualizationMode = "guest" then "vm_vf"
  else if virtualizationMode = "passthrough" then "vm_pf"
  else "baremetal"

def getPCIeBaseAddress (fullAddr : String) : String :=
  match fullAddr.toList.splitOn '.' with
  | [base, _] => String.ofList base
  | _ => fullAddr

def findParentPartition (partitionMap : GoMap String GPU) (gpu : GPU) : Option GPU :=
  gpu.status.pcieBusId.bind fun pcieBusId =>
    partitionMap.lookup (getPCIeBaseAddress (toLower pcieBusId))

def kfdProcessIdString (kfdProcessId : List UInt32) : String :=
  let sorted := kfdProcessId.mergeSort fun i j => i ≤ j
  String.intercalate "," (sorted.map fun pid => pid.toNat.repr)

end Values

inductive IndexLabels where
  | hbm | vcn | jpeg | xcc | clock | link | afid | process
  deriving DecidableEq

def IndexLabels.names : IndexLabels → List String
  | hbm => ["hbm_index"]
  | vcn => ["vcn_index"]
  | jpeg => ["jpeg_index"]
  | xcc => ["xcc_index"]
  | clock => ["clock_index", "clock_type"]
  | link => ["link_index"]
  | afid => ["severity", "afid_index"]
  | process => ["process_id"]

structure GPULabelClient extends LabelConfig where
  client : GPUAgentGPUClient
  k8PodInfoMap : GoMap String K8sPodInfo
  staticHostLabels : GoMap String String

def workloadOwners (workloads : List Workload) : PodResourceInfo × JobInfo :=
  workloads.foldl
    (fun owners wl =>
      match wl with
      | .kubernetes podInfo => (podInfo, owners.2)
      | .slurm jobInfo => (owners.1, jobInfo))
    (⟨"", "", ""⟩, ⟨"", "", "", ""⟩)

def labelOfNode (staticHostLabels : GoMap String String) : GPULabel → Option String
  | .common .HOSTNAME => some (getString staticHostLabels MetricLabel.HOSTNAME.name)
  | _ => none

def populateNodeLabels [CaseMap] (lc : LabelConfig) (staticHostLabels : GoMap String String)
    : GoMap String String :=
  let labels := populateEnabled lc.exportLabels fun ckey =>
    (ProtoEnum.ofName? ckey).bind (labelOfNode staticHostLabels)
  addCustomLabels labels lc.customLabelMap

namespace GPULabelClient

variable [CaseMap] (ga : GPULabelClient)

def disallowedLabels : List String :=
  ((ProtoEnum.names GPUMetricLabel).filter (· ∉ allowedCustomLabels)).map toLower

def initConfigs (config : Option MetricConfig) : GPULabelClient :=
  { ga with
    toLabelConfig :=
      Exporter.initConfigs gpuMandatoryLables (fun _ => true) disallowedLabels ga.toLabelConfig config
    k8PodInfoMap := ∅ }

def refresh (client : GPUAgentGPUClient) (k8PodInfoMap : GoMap String K8sPodInfo) : GPULabelClient :=
  { ga with
    client := client
    k8PodInfoMap := k8PodInfoMap }

def getExporterNonGPULabels : List String :=
  getExporterNonDeviceLabels ga.toLabelConfig

def labelOfGPU (podInfo : PodResourceInfo) (jobInfo : JobInfo) (gpu : GPU)
    (parentPartition : Option GPU) : GPULabel → String
  | .device .GPU_UUID => getGPUUUID gpu
  | .device .GPU_ID => getGPUInstanceIDString gpu
  | .common .CARD_SERIES => (parentPartition.getD gpu).status.cardSeries
  | .common .CARD_MODEL =>
    let model := (parentPartition.getD gpu).status.cardModel
    if model = "" then (parentPartition.getD gpu).status.cardSeries else model
  | .common .CARD_VENDOR => (parentPartition.getD gpu).status.cardVendor
  | .common .DRIVER_VERSION => gpu.status.driverVersion
  | .common .VBIOS_VERSION => gpu.status.vbiosVersion
  | .common .POD => podInfo.pod
  | .common .NAMESPACE => podInfo.namespace
  | .common .CONTAINER => podInfo.container
  | .common .POD_UUID => getPodUID podInfo ga.k8PodInfoMap
  | .common .JOB_ID => jobInfo.id
  | .common .JOB_USER => jobInfo.user
  | .common .JOB_PARTITION => jobInfo.partition
  | .common .CLUSTER_NAME => jobInfo.cluster
  | .common .SERIAL_NUMBER => (parentPartition.getD gpu).status.serialNum
  | .common .HOSTNAME => getString ga.staticHostLabels MetricLabel.HOSTNAME.name
  | .device .GPU_PARTITION_ID =>
    if gpu.status.partitionId = 0xffffffff then "NA" else gpu.status.partitionId.toNat.repr
  | .device .GPU_COMPUTE_PARTITION_TYPE =>
    normalizeStringWithoutPrefix (parentPartition.getD gpu).spec.computePartitionType.toString
      "GPU_COMPUTE_PARTITION_TYPE_"
  | .device .GPU_MEMORY_PARTITION_TYPE =>
    normalizeStringWithoutPrefix (parentPartition.getD gpu).spec.memoryPartitionType.toString
      "GPU_MEMORY_PARTITION_TYPE_"
  | .device .KFD_PROCESS_ID => kfdProcessIdString gpu.status.kfdProcessId
  | .device .DEPLOYMENT_MODE =>
    virtualizationModeToDeploymentMode
      (normalizeStringWithoutPrefix gpu.status.virtualizationMode.toString "GPU_VIRTUALIZATION_MODE_")

def populateLabelsFromGPU (wls : GoMap String Workload) (gpu : Option GPU)
    (partitionMap : GoMap String GPU) : GoMap String String :=
  match gpu with
  | none => populateNodeLabels ga.toLabelConfig ga.staticHostLabels
  | some gpu =>
    let (podInfo, jobInfo) :=
      workloadOwners (ga.client.getWorkloadInfo wls (getGPUInstanceIDString gpu))
    let parentPartition := findParentPartition partitionMap gpu
    let labels := populateEnabled ga.exportLabels fun ckey =>
      (ProtoEnum.ofName? ckey).map (ga.labelOfGPU podInfo jobInfo gpu parentPartition)
    let labels :=
      addExtraPodLabels labels ga.extraPodLabelsMap (getPodLabels podInfo ga.k8PodInfoMap)
    addCustomLabels labels ga.customLabelMap

end GPULabelClient

/--
The map that is passed to `With` for one element of a list, after the loops over the lists `done` have
deleted their index labels again.
-/
def labelsWithIndex (labels : GoMap String String) (done : List IndexLabels) (index : IndexLabels)
    (value : String → String) : GoMap String String :=
  (labels.eraseAll (done.flatMap IndexLabels.names)).insertEach index.names id value

end GPUAgent
