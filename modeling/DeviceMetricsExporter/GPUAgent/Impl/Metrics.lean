import Mathlib.Data.Rat.Floor
import DeviceMetricsExporter.GPUAgent.Impl.Configs
import DeviceMetricsExporter.GPUAgent.Impl.Counters
import DeviceMetricsExporter.GPUAgent.Impl.FieldLogger
import DeviceMetricsExporter.GPUAgent.Impl.Health
import DeviceMetricsExporter.GPUAgent.Impl.ProfilerFields
import DeviceMetricsExporter.HealthCLI.Impl.Utils

/-!
This module contains `updateGPUInfoToMetrics`: what it does with the metrics of one GPU, in order. The
metrics are named by their fields, each of which has one metric.
-/

namespace GPUAgent

open Exporter GPUMetricField

/--
The floating-point operations that are more than arithmetic of integers: the conversions to unsigned
integers, which depend on the machine outside of the range, and the rounded quotient.
-/
class FloatOps where
  toUint32 : ℚ → UInt32
  toUint64 : ℚ → UInt64
  div : ℚ → ℚ → ℚ
  toUint32_eq : ∀ x, 0 ≤ x → x < 2 ^ 32 → (toUint32 x).toNat = ⌊x⌋₊
  toUint64_eq : ∀ x, 0 ≤ x → x < 2 ^ 64 → (toUint64 x).toNat = ⌊x⌋₊

inductive MetricOp where
  | mark (field : GPUMetricField)
  | export (field : GPUMetricField) (labels : Labels) (value : MetricValue)
  | set (field : GPUMetricField) (labels : Labels) (value : ℚ)

def maxUint32 : ℚ := 4294967295

def float64OfUint32 (x : UInt32) : ℚ := x.toNat

def float64OfUint64 (x : UInt64) : ℚ := HealthCLI.toFloat64 x

def uint32Applicable (x : UInt32) : Bool := (MetricValue.uint32 x).isValueApplicable

def uint64Applicable (x : UInt64) : Bool := (MetricValue.uint64 x).isValueApplicable

section Values

variable [FloatOps]

def float32Value (x : ℚ) : MetricValue := .single (FloatOps.toUint32 x)

def float64Value (x : ℚ) : MetricValue := .double (FloatOps.toUint64 x)

end Values

section Ops

def exportAll (labels : Labels) (values : List (GPUMetricField × MetricValue)) : List MetricOp :=
  values.map fun v => .export v.1 labels v.2

def markUnless (field : GPUMetricField) (supported : Bool) : List MetricOp :=
  if supported then [] else [.mark field]

/--
Each value is given with whether it is not zero. A field that is zero is given up first.
-/
def exportNonZero (labels : Labels) (values : List (GPUMetricField × MetricValue × Bool))
    : List MetricOp :=
  values.flatMap fun v => markUnless v.1 v.2.2 ++ [.export v.1 labels v.2.1]

/--
The loop over the values of a list, each of which gets its index as a label. `missing` is what happens
to the field if the first value is not applicable.
-/
def indexLoop.go {α : Type} (field : GPUMetricField) (name : String) (missing : Labels → MetricOp)
    (applicable : α → Bool) (value : α → ℚ) (j : Nat) (labelsWithIndex : Labels)
    : List α → List MetricOp × Labels
  | [] => ([], labelsWithIndex)
  | x :: xs =>
    let labelsWithIndex := labelsWithIndex.insert name j.repr
    if j = 0 ∧ !applicable x then
      ([missing labelsWithIndex], labelsWithIndex)
    else
      let (ops, rest) :=
        go field name missing applicable value (j + 1) labelsWithIndex xs
      (if applicable x then .set field labelsWithIndex (value x) :: ops else ops, rest)

def indexLoop {α : Type} (field : GPUMetricField) (name : String) (missing : Labels → MetricOp)
    (applicable : α → Bool) (value : α → ℚ) (xs : List α) (labelsWithIndex : Labels)
    : List MetricOp × Labels :=
  indexLoop.go field name missing applicable value 0 labelsWithIndex xs

end Ops

section Sections

variable [FloatOps] (labels labelsWithIndex : Labels)

def healthOps (hstate : Option GPUState) : List MetricOp :=
  match hstate with
  | none => []
  | some hstate => [.set GPU_HEALTH labels (if hstate.health.name = GPUHealth.HEALTHY.name then 1 else 0)]

def packagePowerValues (stats : Amdgpu.GPUStats) : List (GPUMetricField × MetricValue × Bool) :=
  [(GPU_PACKAGE_POWER, .uint64 stats.packagePower, stats.packagePower ≠ 0),
    (GPU_AVERAGE_PACKAGE_POWER, .uint64 stats.avgPackagePower, stats.avgPackagePower ≠ 0)]

def temperatureValues (tempStats : HealthCLI.GPUTemperatureStats)
    : List (GPUMetricField × MetricValue × Bool) :=
  [(GPU_EDGE_TEMPERATURE, float32Value tempStats.edgeTemperature, tempStats.edgeTemperature ≠ 0),
    (GPU_JUNCTION_TEMPERATURE, float32Value tempStats.junctionTemperature,
      tempStats.junctionTemperature ≠ 0),
    (GPU_MEMORY_TEMPERATURE, float32Value tempStats.memoryTemperature, tempStats.memoryTemperature ≠ 0)]

def hbmApplicable (temp : ℚ) : Bool :=
  (float32Value temp).isValueApplicable && temp ≠ 0

def temperatureOps (tempStats : Option HealthCLI.GPUTemperatureStats) : List MetricOp × Labels :=
  match tempStats with
  | none => ([], labelsWithIndex)
  | some tempStats =>
    let ops :=
      exportNonZero labels (temperatureValues tempStats)
        ++ markUnless GPU_HBM_TEMPERATURE (!tempStats.hbmTemperature.isEmpty)
    let (hbm, labelsWithIndex) :=
      indexLoop GPU_HBM_TEMPERATURE "hbm_index" (fun _ => .mark GPU_HBM_TEMPERATURE) hbmApplicable id
        tempStats.hbmTemperature labelsWithIndex
    (ops ++ hbm, labelsWithIndex.erase "hbm_index")

def usageValues (gpuUsage : Amdgpu.GPUUsage) : List (GPUMetricField × MetricValue) :=
  [(GPU_GFX_ACTIVITY, .uint32 gpuUsage.gfxActivity), (GPU_UMC_ACTIVITY, .uint32 gpuUsage.umcActivity),
    (GPU_MMA_ACTIVITY, .uint32 gpuUsage.mmActivity)]

/--
The loop over the values of the engines, of which the first one exports the value that means NA if its
value is missing.
-/
def engineLoop (field : GPUMetricField) (name : String) (xs : List UInt32) (labelsWithIndex : Labels)
    : List MetricOp × Labels :=
  indexLoop field name (fun labels => .export field labels (float64Value maxUint32)) uint32Applicable
    float64OfUint32 xs labelsWithIndex

def usageOps (gpuUsage : Option Amdgpu.GPUUsage) : List MetricOp × Labels :=
  match gpuUsage with
  | none => ([], labelsWithIndex)
  | some gpuUsage =>
    let (vcn, labelsWithIndex) :=
      indexLoop GPU_VCN_ACTIVITY "vcn_index" (fun _ => .mark GPU_VCN_ACTIVITY) uint32Applicable
        float64OfUint32 gpuUsage.vcnActivity labelsWithIndex
    let (jpeg, labelsWithIndex) :=
      engineLoop GPU_JPEG_ACTIVITY "jpeg_index" gpuUsage.jpegActivity
        (labelsWithIndex.erase "vcn_index")
    -- the index of the other three loops is deleted after the last one only
    let (gfxBusy, labelsWithIndex) :=
      engineLoop GPU_GFX_BUSY_INSTANTANEOUS "xcc_index" gpuUsage.gfxBusyInst
        (labelsWithIndex.erase "jpeg_index")
    let (vcnBusy, labelsWithIndex) :=
      engineLoop GPU_VCN_BUSY_INSTANTANEOUS "xcc_index" gpuUsage.vcnBusyInst labelsWithIndex
    let (jpegBusy, labelsWithIndex) :=
      engineLoop GPU_JPEG_BUSY_INSTANTANEOUS "xcc_index" gpuUsage.jpegBusyInst labelsWithIndex
    (exportAll labels (usageValues gpuUsage)
      ++ (if gpuUsage.vcnActivity.isEmpty then
          [.export GPU_VCN_ACTIVITY labels (float64Value maxUint32)]
        else
          [])
      ++ vcn
      ++ markUnless GPU_JPEG_ACTIVITY (!gpuUsage.jpegActivity.isEmpty) ++ jpeg
      ++ markUnless GPU_GFX_BUSY_INSTANTANEOUS (!gpuUsage.gfxBusyInst.isEmpty) ++ gfxBusy
      ++ markUnless GPU_VCN_BUSY_INSTANTANEOUS (!gpuUsage.vcnBusyInst.isEmpty) ++ vcnBusy
      ++ markUnless GPU_JPEG_BUSY_INSTANTANEOUS (!gpuUsage.jpegBusyInst.isEmpty) ++ jpegBusy,
      labelsWithIndex.erase "xcc_index")

def voltageValues (volt : HealthCLI.GPUVoltage) : List (GPUMetricField × MetricValue) :=
  [(GPU_VOLTAGE, .uint64 volt.voltage), (GPU_GFX_VOLTAGE, .uint64 volt.gfxVoltage),
    (GPU_MEMORY_VOLTAGE, .uint64 volt.memoryVoltage)]

def voltageOps (volt : Option HealthCLI.GPUVoltage) : List MetricOp :=
  match volt with
  | none => []
  | some volt =>
    markUnless GPU_VOLTAGE (volt.voltage ≠ 0) ++ markUnless GPU_GFX_VOLTAGE (volt.gfxVoltage ≠ 0)
      ++ markUnless GPU_MEMORY_VOLTAGE (volt.memoryVoltage ≠ 0)
      ++ exportAll labels (voltageValues volt)

def pcieStatusValues (pcieStatus : HealthCLI.GPUPCIeStatus) : List (GPUMetricField × MetricValue) :=
  [(PCIE_SPEED, .uint32 pcieStatus.speed), (PCIE_MAX_SPEED, .uint32 pcieStatus.maxSpeed),
    (PCIE_BANDWIDTH, .uint64 pcieStatus.bandwidth)]

def pcieStatusOps (pcieStatus : Option HealthCLI.GPUPCIeStatus) : List MetricOp :=
  match pcieStatus with
  | none => []
  | some pcieStatus =>
    -- a partition without PCIe data gives up all three fields
    markUnless PCIE_SPEED (pcieStatus.speed ≠ 0) ++ markUnless PCIE_MAX_SPEED (pcieStatus.speed ≠ 0)
      ++ markUnless PCIE_BANDWIDTH (pcieStatus.speed ≠ 0)
      ++ exportAll labels (pcieStatusValues pcieStatus)

def pcieStatsValues (pcieStats : Amdgpu.GPUPCIeStats) : List (GPUMetricField × MetricValue) :=
  [(PCIE_REPLAY_COUNT, .uint64 pcieStats.replayCount),
    (PCIE_RECOVERY_COUNT, .uint64 pcieStats.recoveryCount),
    (PCIE_REPLAY_ROLLOVER_COUNT, .uint64 pcieStats.replayRolloverCount),
    (PCIE_NACK_SENT_COUNT, .uint64 pcieStats.nackSentCount),
    (PCIE_NACK_RECEIVED_COUNT, .uint64 pcieStats.nackReceivedCount),
    (PCIE_RX, .uint64 pcieStats.rxBytes),
    (PCIE_TX, .uint64 pcieStats.txBytes),
    (PCIE_BIDIRECTIONAL_BANDWIDTH, .uint64 pcieStats.biDirBandwidth)]

def energyValues (stats : Amdgpu.GPUStats) : List (GPUMetricField × MetricValue × Bool) :=
  [(GPU_ENERGY_CONSUMED, float64Value stats.energyConsumed, stats.energyConsumed ≠ 0)]

section Clocks

variable [CaseMap]

def clockLoop (j : Nat) (labelsWithIndex : Labels)
    : List Amdgpu.GPUClockStatus → List MetricOp × Labels
  | [] => ([], labelsWithIndex)
  | clock :: clocks =>
    let labelsWithIndex := labelsWithIndex.insert "clock_index" j.repr
    let labelsWithIndex :=
      labelsWithIndex.insert "clock_type"
        (normalizeStringWithoutPrefix clock.type.toString "GPU_CLOCK_TYPE_")
    let set (field : GPUMetricField) (x : UInt32) : List MetricOp :=
      if uint32Applicable x then [.set field labelsWithIndex (float64OfUint32 x)] else []
    let (ops, rest) := clockLoop (j + 1) labelsWithIndex clocks
    (set GPU_CLOCK clock.frequency ++ set GPU_MIN_CLOCK clock.lowFrequency
      ++ set GPU_MAX_CLOCK clock.highFrequency ++ ops, rest)

def clockOps (clockStatus : Option (List Amdgpu.GPUClockStatus)) : List MetricOp × Labels :=
  match clockStatus with
  | none => ([.export GPU_CLOCK labels (float64Value maxUint32)], labelsWithIndex)
  | some clockStatus =>
    let (ops, labelsWithIndex) := clockLoop 0 labelsWithIndex clockStatus
    (markUnless GPU_CLOCK (!clockStatus.isEmpty) ++ ops,
      (labelsWithIndex.erase "clock_index").erase "clock_type")

end Clocks

def powerUsageValues (stats : Amdgpu.GPUStats) : List (GPUMetricField × MetricValue × Bool) :=
  [(GPU_POWER_USAGE, .uint64 stats.powerUsage, stats.powerUsage ≠ 0)]

def vramMaxBandwidthValues (vramStatus : Option Amdgpu.GPUVRAMStatus)
    : List (GPUMetricField × MetricValue) :=
  [(GPU_VRAM_MAX_BANDWIDTH, float64Value (float64OfUint64 (vramStatus.elim 0 (·.maxBandwidth))))]

def eccValues (stats : Amdgpu.GPUStats) : List (GPUMetricField × MetricValue) :=
  [(GPU_ECC_CORRECT_TOTAL, .uint64 stats.totalCorrectableErrors),
   (GPU_ECC_UNCORRECT_TOTAL, .uint64 stats.totalUncorrectableErrors),
   (GPU_ECC_CORRECT_SDMA, .uint64 stats.sdmaCorrectableErrors),
   (GPU_ECC_UNCORRECT_SDMA, .uint64 stats.sdmaUncorrectableErrors),
   (GPU_ECC_CORRECT_GFX, .uint64 stats.gfxCorrectableErrors),
   (GPU_ECC_UNCORRECT_GFX, .uint64 stats.gfxUncorrectableErrors),
   (GPU_ECC_CORRECT_MMHUB, .uint64 stats.mmhubCorrectableErrors),
   (GPU_ECC_UNCORRECT_MMHUB, .uint64 stats.mmhubUncorrectableErrors),
   (GPU_ECC_CORRECT_ATHUB, .uint64 stats.athubCorrectableErrors),
   (GPU_ECC_UNCORRECT_ATHUB, .uint64 stats.athubUncorrectableErrors),
   (GPU_ECC_CORRECT_BIF, .uint64 stats.bifCorrectableErrors),
   (GPU_ECC_UNCORRECT_BIF, .uint64 stats.bifUncorrectableErrors),
   (GPU_ECC_CORRECT_HDP, .uint64 stats.hdpCorrectableErrors),
   (GPU_ECC_UNCORRECT_HDP, .uint64 stats.hdpUncorrectableErrors),
   (GPU_ECC_CORRECT_XGMI_WAFL, .uint64 stats.xgmiWaflCorrectableErrors),
   (GPU_ECC_UNCORRECT_XGMI_WAFL, .uint64 stats.xgmiWaflUncorrectableErrors),
   (GPU_ECC_CORRECT_DF, .uint64 stats.dfCorrectableErrors),
   (GPU_ECC_UNCORRECT_DF, .uint64 stats.dfUncorrectableErrors),
   (GPU_ECC_CORRECT_SMN, .uint64 stats.smnCorrectableErrors),
   (GPU_ECC_UNCORRECT_SMN, .uint64 stats.smnUncorrectableErrors),
   (GPU_ECC_CORRECT_SEM, .uint64 stats.semCorrectableErrors),
   (GPU_ECC_UNCORRECT_SEM, .uint64 stats.semUncorrectableErrors),
   (GPU_ECC_CORRECT_MP0, .uint64 stats.mp0CorrectableErrors),
   (GPU_ECC_UNCORRECT_MP0, .uint64 stats.mp0UncorrectableErrors),
   (GPU_ECC_CORRECT_MP1, .uint64 stats.mp1CorrectableErrors),
   (GPU_ECC_UNCORRECT_MP1, .uint64 stats.mp1UncorrectableErrors),
   (GPU_ECC_CORRECT_FUSE, .uint64 stats.fuseCorrectableErrors),
   (GPU_ECC_UNCORRECT_FUSE, .uint64 stats.fuseUncorrectableErrors),
   (GPU_ECC_CORRECT_UMC, .uint64 stats.umcCorrectableErrors),
   (GPU_ECC_UNCORRECT_UMC, .uint64 stats.umcUncorrectableErrors),
   (GPU_ECC_CORRECT_MCA, .uint64 stats.mcaCorrectableErrors),
   (GPU_ECC_UNCORRECT_MCA, .uint64 stats.mcaUncorrectableErrors),
   (GPU_ECC_CORRECT_VCN, .uint64 stats.vcnCorrectableErrors),
   (GPU_ECC_UNCORRECT_VCN, .uint64 stats.vcnUncorrectableErrors),
   (GPU_ECC_CORRECT_JPEG, .uint64 stats.jpegCorrectableErrors),
   (GPU_ECC_UNCORRECT_JPEG, .uint64 stats.jpegUncorrectableErrors),
   (GPU_ECC_CORRECT_IH, .uint64 stats.ihCorrectableErrors),
   (GPU_ECC_UNCORRECT_IH, .uint64 stats.ihUncorrectableErrors),
   ( GPU_ECC_CORRECT_MPIO, .uint64 stats.mpioCorrectableErrors),
   ( GPU_ECC_UNCORRECT_MPIO, .uint64 stats.mpioUncorrectableErrors),
   (GPU_ECC_DEFERRED_TOTAL, .uint64 stats.totalDeferredErrors),
   (GPU_ECC_DEFERRED_SDMA, .uint64 stats.sdmaDeferredErrors),
   (GPU_ECC_DEFERRED_GFX, .uint64 stats.gfxDeferredErrors),
   (GPU_ECC_DEFERRED_MMHUB, .uint64 stats.mmhubDeferredErrors),
   (GPU_ECC_DEFERRED_ATHUB, .uint64 stats.athubDeferredErrors),
   (GPU_ECC_DEFERRED_BIF, .uint64 stats.bifDeferredErrors),
   (GPU_ECC_DEFERRED_HDP, .uint64 stats.hdpDeferredErrors),
   (GPU_ECC_DEFERRED_XGMI_WAFL, .uint64 stats.xgmiWaflDeferredErrors),
   (GPU_ECC_DEFERRED_DF, .uint64 stats.dfDeferredErrors),
   (GPU_ECC_DEFERRED_SMN, .uint64 stats.smnDeferredErrors),
   (GPU_ECC_DEFERRED_SEM, .uint64 stats.semDeferredErrors),
   (GPU_ECC_DEFERRED_MP0, .uint64 stats.mp0DeferredErrors),
   (GPU_ECC_DEFERRED_MP1, .uint64 stats.mp1DeferredErrors),
   (GPU_ECC_DEFERRED_FUSE, .uint64 stats.fuseDeferredErrors),
   (GPU_ECC_DEFERRED_UMC, .uint64 stats.umcDeferredErrors),
   (GPU_ECC_DEFERRED_MCA, .uint64 stats.mcaDeferredErrors),
   (GPU_ECC_DEFERRED_VCN, .uint64 stats.vcnDeferredErrors),
   (GPU_ECC_DEFERRED_JPEG, .uint64 stats.jpegDeferredErrors),
   (GPU_ECC_DEFERRED_IH, .uint64 stats.ihDeferredErrors),
   ( GPU_ECC_DEFERRED_MPIO, .uint64 stats.mpioDeferredErrors)]

def xgmiNeighborValues (stats : Amdgpu.GPUStats) : List (GPUMetricField × MetricValue) :=
  [(GPU_XGMI_NBR_0_NOP_TX, .uint64 stats.xgmiNeighbor0TxNOPs),
   (GPU_XGMI_NBR_0_REQ_TX, .uint64 stats.xgmiNeighbor0TxRequests),
   (GPU_XGMI_NBR_0_RESP_TX, .uint64 stats.xgmiNeighbor0TxResponses),
   (GPU_XGMI_NBR_0_BEATS_TX, .uint64 stats.xgmiNeighbor0TXBeats),
   (GPU_XGMI_NBR_1_NOP_TX, .uint64 stats.xgmiNeighbor1TxNOPs),
   (GPU_XGMI_NBR_1_REQ_TX, .uint64 stats.xgmiNeighbor1TxRequests),
   (GPU_XGMI_NBR_1_RESP_TX, .uint64 stats.xgmiNeighbor1TxResponses),
   (GPU_XGMI_NBR_1_BEATS_TX, .uint64 stats.xgmiNeighbor1TXBeats),
   (GPU_XGMI_NBR_0_TX_THRPUT, .uint64 stats.xgmiNeighbor0TxThroughput),
   (GPU_XGMI_NBR_1_TX_THRPUT, .uint64 stats.xgmiNeighbor1TxThroughput),
   (GPU_XGMI_NBR_2_TX_THRPUT, .uint64 stats.xgmiNeighbor2TxThroughput),
   (GPU_XGMI_NBR_3_TX_THRPUT, .uint64 stats.xgmiNeighbor3TxThroughput),
   (GPU_XGMI_NBR_4_TX_THRPUT, .uint64 stats.xgmiNeighbor4TxThroughput),
   (GPU_XGMI_NBR_5_TX_THRPUT, .uint64 stats.xgmiNeighbor5TxThroughput)]

def vramUsageValues (vramUsage : HealthCLI.GPUVRAMUsage) : List (GPUMetricField × MetricValue) :=
  [(GPU_TOTAL_VISIBLE_VRAM, .uint64 vramUsage.totalVisibleVRAM),
    (GPU_USED_VISIBLE_VRAM, .uint64 vramUsage.usedVisibleVRAM),
    (GPU_FREE_VISIBLE_VRAM, .uint64 vramUsage.freeVisibleVRAM),
    (GPU_TOTAL_GTT, .uint64 vramUsage.totalGTT), (GPU_USED_GTT, .uint64 vramUsage.usedGTT),
    (GPU_FREE_GTT, .uint64 vramUsage.freeGTT)]

def vramValues (vramUsage : Option HealthCLI.GPUVRAMUsage) (vramStatus : Option Amdgpu.GPUVRAMStatus)
    : List (GPUMetricField × MetricValue) :=
  let totalVRAM := vramStatus.elim 0 fun vramStatus => normalizeUint64 vramStatus.size
  let usedVRAM := vramUsage.elim 0 fun vramUsage => normalizeUint64 vramUsage.usedVRAM
  let freeVRAM := HealthCLI.subFloat64 totalVRAM usedVRAM
  if totalVRAM ≠ 0 then
    [(GPU_TOTAL_VRAM, float64Value totalVRAM), (GPU_USED_VRAM, float64Value usedVRAM),
      (GPU_FREE_VRAM, float64Value freeVRAM)]
  else
    []

/--
The flags tell whether a value has been exported.
-/
def linkLoop (j : Nat) (labelsWithIndex : Labels)
    : List HealthCLI.GPUXGMILinkStats → (List MetricOp × Labels) × (Bool × Bool)
  | [] => (([], labelsWithIndex), (false, false))
  | linkStat :: xgmiStats =>
    let labelsWithIndex := labelsWithIndex.insert "link_index" j.repr
    let set (field : GPUMetricField) (x : UInt64) : List MetricOp :=
      if uint64Applicable x then [.set field labelsWithIndex (float64OfUint64 x)] else []
    let ((ops, rest), (rxExported, txExported)) := linkLoop (j + 1) labelsWithIndex xgmiStats
    ((set GPU_XGMI_LINK_RX linkStat.dataRead ++ set GPU_XGMI_LINK_TX linkStat.dataWrite ++ ops, rest),
      (uint64Applicable linkStat.dataRead || rxExported,
        uint64Applicable linkStat.dataWrite || txExported))

def xgmiLinkOps (xgmiStats : Option (List HealthCLI.GPUXGMILinkStats)) : List MetricOp × Labels :=
  match xgmiStats with
  | none => ([], labelsWithIndex)
  | some xgmiStats =>
    let ((ops, labelsWithIndex), (rxExported, txExported)) := linkLoop 0 labelsWithIndex xgmiStats
    (ops ++ markUnless GPU_XGMI_LINK_RX rxExported ++ markUnless GPU_XGMI_LINK_TX txExported,
      labelsWithIndex.erase "link_index")

def violationValues (violationStats : Amdgpu.GPUViolationStats)
    : List (GPUMetricField × MetricValue) :=
  [(GPU_VIOLATION_CURRENT_ACCUMULATED_COUNTER, .uint64 violationStats.currentAccumulatedCounter),
   (GPU_VIOLATION_PROCESSOR_HOT_RESIDENCY_ACCUMULATED,
     .uint64 violationStats.processorHotResidencyAccumulated),
   (GPU_VIOLATION_PPT_RESIDENCY_ACCUMULATED, .uint64 violationStats.pptResidencyAccumulated),
   (GPU_VIOLATION_SOCKET_THERMAL_RESIDENCY_ACCUMULATED,
     .uint64 violationStats.socketThermalResidencyAccumulated),
   (GPU_VIOLATION_VR_THERMAL_RESIDENCY_ACCUMULATED,
     .uint64 violationStats.vrThermalResidencyAccumulated),
   (GPU_VIOLATION_HBM_THERMAL_RESIDENCY_ACCUMULATED,
     .uint64 violationStats.hbmThermalResidencyAccumulated),
   (GPU_VIOLATION_PROCESSOR_HOT_RESIDENCY_PERCENTAGE,
     .uint64 violationStats.processorHotResidencyPercentage),
   (GPU_VIOLATION_PPT_RESIDENCY_PERCENTAGE, .uint64 violationStats.pptResidencyPercentage),
   (GPU_VIOLATION_SOCKET_THERMAL_RESIDENCY_PERCENTAGE,
     .uint64 violationStats.socketThermalResidencyPercentage),
   (GPU_VIOLATION_VR_THERMAL_RESIDENCY_PERCENTAGE,
     .uint64 violationStats.vrThermalResidencyPercentage),
   (GPU_VIOLATION_HBM_THERMAL_RESIDENCY_PERCENTAGE,
     .uint64 violationStats.hbmThermalResidencyPercentage)]

def xccLoop (field : GPUMetricField) (xs : List UInt64) (labelsWithIndex : Labels)
    : List MetricOp × Labels :=
  indexLoop field "xcc_index" (fun _ => .mark field) uint64Applicable float64OfUint64 xs labelsWithIndex

def xccValues (violationStats : Amdgpu.GPUViolationStats) : List (GPUMetricField × List UInt64) :=
  [(GPU_VIOLATION_GFX_CLOCK_BELOW_HOST_LIMIT_POWER_ACCUMULATED,
      violationStats.gfxBelowHostLimitPowerAccumulated),
    (GPU_VIOLATION_GFX_CLOCK_BELOW_HOST_LIMIT_THERMAL_ACCUMULATED,
      violationStats.gfxBelowHostLimitTHMAccumulated),
    (GPU_VIOLATION_LOW_UTILIZATION_ACCUMULATED, violationStats.gfxLowUtilizationAccumulated),
    (GPU_VIOLATION_GFX_CLOCK_BELOW_HOST_LIMIT_TOTAL_ACCUMULATED,
      violationStats.gfxBelowHostLimitTotalAccumulated),
    (GPU_VIOLATION_GFX_CLOCK_BELOW_HOST_LIMIT_POWER_PERCENTAGE,
      violationStats.gfxBelowHostLimitPowerPercentage),
    (GPU_VIOLATION_GFX_CLOCK_BELOW_HOST_LIMIT_THERMAL_PERCENTAGE,
      violationStats.gfxBelowHostLimitTHMPercentage),
    (GPU_VIOLATION_LOW_UTILIZATION_PERCENTAGE, violationStats.gfxLowUtilizationPercentage),
    (GPU_VIOLATION_GFX_CLOCK_BELOW_HOST_LIMIT_TOTAL_PERCENTAGE,
      violationStats.gfxBelowHostLimitTotalPercentage)]

def xccOps (labelsWithIndex : Labels)
    : List (GPUMetricField × List UInt64) → List MetricOp × Labels
  | [] => ([], labelsWithIndex)
  | (field, xs) :: fields =>
    let (ops, labelsWithIndex) := xccLoop field xs labelsWithIndex
    let (rest, labelsWithIndex) := xccOps labelsWithIndex fields
    (ops ++ rest, labelsWithIndex)

def violationOps (violationStats : Option Amdgpu.GPUViolationStats) : List MetricOp × Labels :=
  match violationStats with
  | none => ([], labelsWithIndex)
  | some violationStats =>
    let (xcc, labelsWithIndex) := xccOps labelsWithIndex (xccValues violationStats)
    (exportAll labels (violationValues violationStats) ++ xcc, labelsWithIndex.erase "xcc_index")

def CPERSeverity.toString : CPERSeverity → String
  | NONE => "CPER_SEVERITY_NONE"
  | NON_FATAL_UNCORRECTED => "CPER_SEVERITY_NON_FATAL_UNCORRECTED"
  | FATAL => "CPER_SEVERITY_FATAL"
  | NON_FATAL_CORRECTED => "CPER_SEVERITY_NON_FATAL_CORRECTED"
  | unrecognized value => value.repr

def afidLoop (i : Nat) (labelsWithIndex : Labels) : List UInt64 → List MetricOp × Labels
  | [] => ([], labelsWithIndex)
  | afid :: afids =>
    let labelsWithIndex := labelsWithIndex.insert "afid_index" i.repr
    let (ops, rest) := afidLoop (i + 1) labelsWithIndex afids
    (.set GPU_AFID_ERRORS labelsWithIndex (float64OfUint64 afid) :: ops, rest)

def afidOps [CaseMap] (cper : Option Amdgpu.CPEREntry) : List MetricOp × Labels :=
  match cper with
  | none => ([], labelsWithIndex)
  | some c =>
    let labelsWithIndex :=
      labelsWithIndex.insert "severity"
        (normalizeStringWithoutPrefix c.severity.toString "CPER_SEVERITY_")
    let (ops, labelsWithIndex) := afidLoop 0 labelsWithIndex c.afId
    (ops, (labelsWithIndex.erase "afid_index").erase "severity")

def processLoop (labelsWithIndex : Labels) : List Amdgpu.ProcessInfo → List MetricOp × Labels
  | [] => ([], labelsWithIndex)
  | procInfo :: processInfo =>
    if procInfo.pId = 0 ∨ !uint32Applicable procInfo.cuOccupancy then
      processLoop labelsWithIndex processInfo
    else
      let labelsWithIndex := labelsWithIndex.insert "process_id" procInfo.pId.toNat.repr
      let (ops, rest) := processLoop labelsWithIndex processInfo
      (.set GPU_PROCESS_CU_OCCUPANCY labelsWithIndex (float64OfUint32 procInfo.cuOccupancy) :: ops,
        rest)

def processOps (processStatus : Option (List Amdgpu.ProcessInfo)) : List MetricOp × Labels :=
  match processStatus with
  | none | some [] => ([], labelsWithIndex)
  | some processInfo =>
    let (ops, labelsWithIndex) := processLoop labelsWithIndex processInfo
    (ops, labelsWithIndex.erase "process_id")

end Sections

section Profiler

def normalizePercent (v : ℚ) : ℚ := min (max v 0) 100

def normalizeFraction (v : ℚ) : ℚ := min (max v 0) 1

def profilerCases : List (String × GPUMetricField) :=
  [("GRBM_GUI_ACTIVE", GPU_PROF_GRBM_GUI_ACTIVE),
   ("SQ_WAVES", GPU_PROF_SQ_WAVES),
   ("GRBM_COUNT", GPU_PROF_GRBM_COUNT),
   ("GPU_UTIL", GPU_PROF_GUI_UTIL_PERCENT),
   ("FETCH_SIZE", GPU_PROF_FETCH_SIZE),
   ("WRITE_SIZE", GPU_PROF_WRITE_SIZE),
   ("TOTAL_16_OPS", GPU_PROF_TOTAL_16_OPS),
   ("TOTAL_32_OPS", GPU_PROF_TOTAL_32_OPS),
   ("TOTAL_64_OPS", GPU_PROF_TOTAL_64_OPS),
   ("CPC_CPC_STAT_BUSY", GPU_PROF_CPC_CPC_STAT_BUSY),
   ("CPC_CPC_STAT_IDLE", GPU_PROF_CPC_CPC_STAT_IDLE),
   ("CPC_CPC_STAT_STALL", GPU_PROF_CPC_CPC_STAT_STALL),
   ("CPC_CPC_TCIU_BUSY", GPU_PROF_CPC_CPC_TCIU_BUSY),
   ("CPC_CPC_TCIU_IDLE", GPU_PROF_CPC_CPC_TCIU_IDLE),
   ("CPC_CPC_UTCL2IU_BUSY", GPU_PROF_CPC_CPC_UTCL2IU_BUSY),
   ("CPC_CPC_UTCL2IU_IDLE", GPU_PROF_CPC_CPC_UTCL2IU_IDLE),
   ("CPC_CPC_UTCL2IU_STALL", GPU_PROF_CPC_CPC_UTCL2IU_STALL),
   ("CPC_ME1_BUSY_FOR_PACKET_DECODE", GPU_PROF_CPC_ME1_BUSY_FOR_PACKET_DECODE),
   ("CPC_ME1_DC0_SPI_BUSY", GPU_PROF_CPC_ME1_DC0_SPI_BUSY),
   ("CPC_UTCL1_STALL_ON_TRANSLATION", GPU_PROF_CPC_UTCL1_STALL_ON_TRANSLATION),
   ("CPC_ALWAYS_COUNT", GPU_PROF_CPC_ALWAYS_COUNT),
   ("CPC_ADC_VALID_CHUNK_NOT_AVAIL", GPU_PROF_CPC_ADC_VALID_CHUNK_NOT_AVAIL),
   ("CPC_ADC_DISPATCH_ALLOC_DONE", GPU_PROF_CPC_ADC_DISPATCH_ALLOC_DONE),
   ("CPC_ADC_VALID_CHUNK_END", GPU_PROF_CPC_ADC_VALID_CHUNK_END),
   ("CPC_SYNC_FIFO_FULL_LEVEL", GPU_PROF_CPC_SYNC_FIFO_FULL_LEVEL),
   ("CPC_SYNC_FIFO_FULL", GPU_PROF_CPC_SYNC_FIFO_FULL),
   ("CPC_GD_BUSY", GPU_PROF_CPC_GD_BUSY),
   ("CPC_TG_SEND", GPU_PROF_CPC_TG_SEND),
   ("CPC_WALK_NEXT_CHUNK", GPU_PROF_CPC_WALK_NEXT_CHUNK),
   ("CPC_STALLED_BY_SE0_SPI", GPU_PROF_CPC_STALLED_BY_SE0_SPI),
   ("CPC_STALLED_BY_SE1_SPI", GPU_PROF_CPC_STALLED_BY_SE1_SPI),
   ("CPC_STALLED_BY_SE2_SPI", GPU_PROF_CPC_STALLED_BY_SE2_SPI),
   ("CPC_STALLED_BY_SE3_SPI", GPU_PROF_CPC_STALLED_BY_SE3_SPI),
   ("CPC_LTE_ALL", GPU_PROF_CPC_LTE_ALL),
   ("CPC_SYNC_WRREQ_FIFO_BUSY", GPU_PROF_CPC_SYNC_WRREQ_FIFO_BUSY),
   ("CPC_CANE_BUSY", GPU_PROF_CPC_CANE_BUSY),
   ("CPC_CANE_STALL", GPU_PROF_CPC_CANE_STALL),
   ("CPF_CMP_UTCL1_STALL_ON_TRANSLATION", GPU_PROF_CPF_CMP_UTCL1_STALL_ON_TRANSLATION),
   ("CPF_CPF_STAT_BUSY", GPU_PROF_CPF_CPF_STAT_BUSY),
   ("CPF_CPF_STAT_IDLE", GPU_PROF_CPF_CPF_STAT_IDLE),
   ("CPF_CPF_STAT_STALL", GPU_PROF_CPF_CPF_STAT_STALL),
   ("CPF_CPF_TCIU_BUSY", GPU_PROF_CPF_CPF_TCIU_BUSY),
   ("CPF_CPF_TCIU_IDLE", GPU_PROF_CPF_CPF_TCIU_IDLE),
   ("CPF_CPF_TCIU_STALL", GPU_PROF_CPF_CPF_TCIU_STALL),
   ("OccupancyPercent", GPU_PROF_OCCUPANCY_PERCENT),
   ("MfmaUtil", GPU_PROF_TENSOR_ACTIVE_PERCENT),
   ("ValuPipeIssueUtil", GPU_PROF_VALU_PIPE_ISSUE_UTIL),
   ("VALUBusy", GPU_PROF_SM_ACTIVE),
   ("MeanOccupancyPerActiveCU", GPU_PROF_OCCUPANCY_PER_ACTIVE_CU),
   ("MeanOccupancyPerCU", GPU_PROF_OCCUPANCY_PER_CU),
   ("SIMD_UTILIZATION", GPU_PROF_SIMD_UTILIZATION)]

def profilerValue (field : GPUMetricField) (value : ℚ) : ℚ :=
  match field with
  | GPU_PROF_GUI_UTIL_PERCENT | GPU_PROF_OCCUPANCY_PERCENT | GPU_PROF_TENSOR_ACTIVE_PERCENT
  | GPU_PROF_VALU_PIPE_ISSUE_UTIL | GPU_PROF_SM_ACTIVE => normalizePercent value
  | GPU_PROF_SIMD_UTILIZATION => normalizeFraction value
  | _ => value

def profilerField (mkey : String) : Option GPUMetricField :=
  (profilerCases.find? (·.1 = mkey)).map (·.2)

def markMissingCounters (exportFieldMap : GoMap String Bool) (profMetrics : GoMap String ℚ)
    : List MetricOp :=
  exportFieldMap.entries.filterMap fun e =>
    if !e.2 then
      none
    else
      match HealthCLI.metricFieldOfName e.1 with
      | none => none
      | some field => if field.alias ≠ "" ∧ field.alias ∉ profMetrics then some (.mark field) else none

def setCounters (labels : Labels) (profMetrics : GoMap String ℚ) : List MetricOp :=
  profMetrics.entries.filterMap fun e =>
    (profilerField e.1).map fun field => .set field labels (profilerValue field e.2)

def occupancyElapsedOps [FloatOps] (labels : Labels) (profMetrics : GoMap String ℚ)
    : List MetricOp :=
  match profMetrics.lookup "GRBM_GUI_ACTIVE", profMetrics.lookup "MeanOccupancyPerActiveCU" with
  | some grbmActive, some occPerActiveCU =>
    if grbmActive ≠ 0 then
      [.set GPU_PROF_OCCUPANCY_ELAPSED labels (FloatOps.div occPerActiveCU grbmActive)]
    else
      []
  | _, _ => []

def profilerOps [FloatOps] (labels : Labels) (exportFieldMap : GoMap String Bool)
    (profMetrics : Option (GoMap String ℚ)) : List MetricOp :=
  match profMetrics with
  | none => []
  | some profMetrics =>
    markMissingCounters exportFieldMap profMetrics ++ setCounters labels profMetrics
      ++ occupancyElapsedOps labels profMetrics

end Profiler

end GPUAgent
