import DeviceMetricsExporter.Lib.UUID
import DeviceMetricsExporter.Lib.CaseMap
import DeviceMetricsExporter.Exporter.Impl.Scheduler

/-!
This module contains the messages of the GPU agent as far as the exporter reads them, and the small
accessors on them. A pointer to a message that may be nil is an `Option`. The enumerations are open:
a value without a name is kept.
-/

namespace GPUAgent

inductive GPUComputePartitionType where
  | NONE | SPX | DPX | TPX | QPX | CPX | unrecognized (value : Int)
  deriving DecidableEq

inductive GPUMemoryPartitionType where
  | NONE | NPS1 | NPS2 | NPS4 | NPS8 | unrecognized (value : Int)
  deriving DecidableEq

inductive GPUVirtualizationMode where
  | NONE | BAREMETAL | HOST | GUEST | PASSTHROUGH | unrecognized (value : Int)
  deriving DecidableEq

structure GPUSpec where
  id : List UInt8
  computePartitionType : GPUComputePartitionType := .NONE
  memoryPartitionType : GPUMemoryPartitionType := .NONE
  deriving DecidableEq

structure GPUStatus where
  index : UInt32
  serialNum : String := ""
  cardSeries : String := ""
  cardModel : String := ""
  cardVendor : String := ""
  driverVersion : String := ""
  vbiosVersion : String := ""
  kfdProcessId : List UInt32 := []
  pcieBusId : Option String := none
  partitionId : UInt32 := 0
  nodeId : UInt32 := 0
  drmRenderId : UInt32 := 0
  drmCardId : UInt32 := 0
  virtualizationMode : GPUVirtualizationMode := .NONE
  deriving DecidableEq

structure GPUStats where
  sdmaUncorrectableErrors : UInt64 := 0
  gfxUncorrectableErrors : UInt64 := 0
  mmhubUncorrectableErrors : UInt64 := 0
  athubUncorrectableErrors : UInt64 := 0
  bifUncorrectableErrors : UInt64 := 0
  hdpUncorrectableErrors : UInt64 := 0
  xgmiWaflUncorrectableErrors : UInt64 := 0
  dfUncorrectableErrors : UInt64 := 0
  smnUncorrectableErrors : UInt64 := 0
  semUncorrectableErrors : UInt64 := 0
  mp0UncorrectableErrors : UInt64 := 0
  mp1UncorrectableErrors : UInt64 := 0
  fuseUncorrectableErrors : UInt64 := 0
  umcUncorrectableErrors : UInt64 := 0
  mcaUncorrectableErrors : UInt64 := 0
  vcnUncorrectableErrors : UInt64 := 0
  jpegUncorrectableErrors : UInt64 := 0
  ihUncorrectableErrors : UInt64 := 0
  mpioUncorrectableErrors : UInt64 := 0
  deriving DecidableEq

structure GPU where
  spec : GPUSpec
  status : GPUStatus
  stats : Option GPUStats
  deriving DecidableEq

structure GPUGetResponse where
  apiStatus : Int
  response : List GPU

inductive EventSeverity where
  | NONE | DEBUG | INFO | WARN | CRITICAL | unrecognized (value : Int)
  deriving DecidableEq

structure Event where
  gpu : List UInt8
  severity : EventSeverity

structure EventResponse where
  apiStatus : Int
  event : List Event

inductive CPERSeverity where
  | NONE | NON_FATAL_UNCORRECTED | FATAL | NON_FATAL_CORRECTED | unrecognized (value : Int)
  deriving DecidableEq

structure CPEREntry where
  recordId : String
  severity : CPERSeverity
  timestamp : String
  deriving DecidableEq

structure GPUCPEREntry where
  gpu : List UInt8
  cperEntry : List CPEREntry

structure GPUCPERGetResponse where
  apiStatus : Int
  cper : List GPUCPEREntry

structure GPUHealthThresholds where
  GPU_ECC_UNCORRECT_SDMA : UInt32 := 0
  GPU_ECC_UNCORRECT_GFX : UInt32 := 0
  GPU_ECC_UNCORRECT_MMHUB : UInt32 := 0
  GPU_ECC_UNCORRECT_ATHUB : UInt32 := 0
  GPU_ECC_UNCORRECT_BIF : UInt32 := 0
  GPU_ECC_UNCORRECT_HDP : UInt32 := 0
  GPU_ECC_UNCORRECT_XGMI_WAFL : UInt32 := 0
  GPU_ECC_UNCORRECT_DF : UInt32 := 0
  GPU_ECC_UNCORRECT_SMN : UInt32 := 0
  GPU_ECC_UNCORRECT_SEM : UInt32 := 0
  GPU_ECC_UNCORRECT_MP0 : UInt32 := 0
  GPU_ECC_UNCORRECT_MP1 : UInt32 := 0
  GPU_ECC_UNCORRECT_FUSE : UInt32 := 0
  GPU_ECC_UNCORRECT_UMC : UInt32 := 0
  GPU_ECC_UNCORRECT_MCA : UInt32 := 0
  GPU_ECC_UNCORRECT_VCN : UInt32 := 0
  GPU_ECC_UNCORRECT_JPEG : UInt32 := 0
  GPU_ECC_UNCORRECT_IH : UInt32 := 0
  GPU_ECC_UNCORRECT_MPIO : UInt32 := 0
  GPU_CPER_MAX_AGE : String := ""
  deriving DecidableEq

def bytesToString (bytes : List UInt8) : String :=
  String.ofList (bytes.map fun b => Char.ofNat b.toNat)

def uuidToString (uuidBytes : List UInt8) : String :=
  match UUID.fromBytes uuidBytes with
  | (_, false) => bytesToString uuidBytes
  | (uuid, true) => uuid.toString

def uuidString (uuidBytes : List UInt8) : String :=
  (UUID.fromBytes uuidBytes).1.toString

def getGPUInstanceIDString (gpu : GPU) : String :=
  gpu.status.index.toNat.repr

def getGPURenderId (gpu : GPU) : String :=
  gpu.status.drmRenderId.toNat.repr

def getGPUCardId (gpu : GPU) : String :=
  gpu.status.drmCardId.toNat.repr

def getGPUNodeId (gpu : GPU) : String :=
  gpu.status.nodeId.toNat.repr

def getGPUUUID (gpu : GPU) : String :=
  uuidToString gpu.spec.id

def getPCIeBusID [CaseMap] (gpu : GPU) : String :=
  match gpu.status.pcieBusId with
  | some pcieBusId => toLower pcieBusId
  | none => ""

end GPUAgent
