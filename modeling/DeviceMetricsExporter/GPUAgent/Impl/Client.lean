import DeviceMetricsExporter.GPUAgent.Impl.Messages

/-!
This module contains the state of the GPU client of the agent, the metadata it keeps per GPU and the
workloads it associates with a GPU.
-/

namespace GPUAgent

open Exporter

inductive GPUHealth where
  | UNKNOWN
  | HEALTHY
  | UNHEALTHY
  deriving DecidableEq, Repr

def GPUHealth.name : GPUHealth → String
  | .UNKNOWN => "unknown"
  | .HEALTHY => "healthy"
  | .UNHEALTHY => "unhealthy"

structure GPUState where
  id : String
  uuid : String
  health : GPUHealth
  device : String
  associatedWorkload : List String
  deriving DecidableEq

structure GPUIDMeta where
  gpuID : String
  nodeID : String
  cardID : String
  renderID : String
  pcieBusId : String
  deviceName : String
  draKey : String
  uuid : String
  deriving DecidableEq

structure GPUAgentGPUClient where
  healthState : GoMap String GPUState
  mockEccField : GoMap String (GoMap String UInt32)
  gpuIDMap : GoMap String GPUIDMeta
  lgpuMap : GoMap String String
  computeNodeHealthState : Bool
  deriving DecidableEq

def newGPUAgentGPUClient (lgpuMap : GoMap String String) : GPUAgentGPUClient where
  healthState := ∅
  mockEccField := ∅
  gpuIDMap := ∅
  lgpuMap := lgpuMap
  computeNodeHealthState := true

def getDRAKey (gpuCardId gpuRenderId : String) : String :=
  if gpuCardId ≠ "" ∧ gpuRenderId ≠ "" then "gpu-" ++ gpuCardId ++ "-" ++ gpuRenderId else ""

namespace GPUAgentGPUClient

section Metadata

variable [CaseMap]

def gpuIDMeta (ga : GPUAgentGPUClient) (gpu : GPU) : GPUIDMeta :=
  let renderID := getGPURenderId gpu
  let cardID := getGPUCardId gpu
  { gpuID := getGPUInstanceIDString gpu
    nodeID := getGPUNodeId gpu
    cardID := cardID
    renderID := renderID
    pcieBusId := getPCIeBusID gpu
    deviceName := (ga.lgpuMap.lookup renderID).getD ""
    draKey := getDRAKey cardID renderID
    uuid := uuidString gpu.spec.id }

def initGPUMetadata (ga : GPUAgentGPUClient) (gpus : List GPU) : GPUAgentGPUClient :=
  { ga with gpuIDMap := ga.gpuIDMap.insertEach gpus getGPUInstanceIDString ga.gpuIDMeta }

end Metadata

def getWorkloadInfo (ga : GPUAgentGPUClient) (wls : GoMap String Workload) (gpuID : String)
    : List Workload :=
  match ga.gpuIDMap.lookup gpuID with
  | none => []
  | some gpuMeta =>
    let draKey := if gpuMeta.draKey ≠ "" then [gpuMeta.draKey] else []
    (draKey ++ [gpuMeta.pcieBusId, gpuMeta.deviceName, gpuMeta.renderID, gpuMeta.gpuID]).filterMap
      wls.lookup

def getWorkloadsListString (ga : GPUAgentGPUClient) (wls : GoMap String Workload) (gpuID : String)
    : List String :=
  (ga.getWorkloadInfo wls gpuID).map Workload.toString

def getMockError (ga : GPUAgentGPUClient) (gpuid field : String) : UInt32 :=
  match ga.mockEccField.lookup gpuid with
  | none => 0
  | some fields =>
    match fields.lookup field with
    | none => 0
    | some mv => mv

end GPUAgentGPUClient

end GPUAgent
