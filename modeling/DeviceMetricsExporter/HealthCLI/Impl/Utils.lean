import Mathlib.Algebra.Order.Ring.Rat
import DeviceMetricsExporter.Lib.Float64
import DeviceMetricsExporter.GPUAgent.Impl.Fields
import DeviceMetricsExporter.HealthCLI.Impl.Messages

/-!
This module contains what `amdgpuhealth` takes out of the answers of the exporter: the values of a
metric for each GPU, and the CPER records of each GPU. `json.Unmarshal` is a parameter.
-/

namespace HealthCLI

open GPUAgent (GPUMetricField)
open GPUAgent.GPUMetricField

def toFloat64 (x : UInt64) : ℚ := float64 x.toNat

/--
The difference of two numbers without a fraction, rounded.
-/
def subFloat64 (x y : Nat) : ℚ :=
  if y ≤ x then float64 (x - y) else -float64 (y - x)

/--
The conversion to `int64`. It truncates, and outside of the range it is the least number on amd64.
-/
def toInt64 (x : ℚ) : Int :=
  let n := x.num.tdiv x.den
  if -2 ^ 63 ≤ n ∧ n < 2 ^ 63 then n else -2 ^ 63

def metricFieldOfName (s : String) : Option GPUMetricField :=
  GPUMetricField.values.find? (·.name = s)

def metricOfField (gpu : GPU) (stats : GPUStats) : GPUMetricField → List ℚ
  | GPU_PACKAGE_POWER => [toFloat64 stats.packagePower]
  | GPU_AVERAGE_PACKAGE_POWER => [toFloat64 stats.avgPackagePower]
  | GPU_EDGE_TEMPERATURE => [stats.temperature.elim 0 (·.edgeTemperature)]
  | GPU_JUNCTION_TEMPERATURE => [stats.temperature.elim 0 (·.junctionTemperature)]
  | GPU_MEMORY_TEMPERATURE => [stats.temperature.elim 0 (·.memoryTemperature)]
  | GPU_HBM_TEMPERATURE => stats.temperature.elim [0] (·.hbmTemperature)
  | GPU_GFX_ACTIVITY => [stats.usage.elim 0 (toFloat64 ·.gfxActivity.toUInt64)]
  | GPU_UMC_ACTIVITY => [stats.usage.elim 0 (toFloat64 ·.umcActivity.toUInt64)]
  | GPU_MMA_ACTIVITY => [stats.usage.elim 0 (toFloat64 ·.mmActivity.toUInt64)]
  | GPU_VCN_ACTIVITY =>
    stats.usage.elim [0] fun usage => usage.vcnActivity.map (toFloat64 ·.toUInt64)
  | GPU_JPEG_ACTIVITY =>
    stats.usage.elim [0] fun usage => usage.jpegActivity.map (toFloat64 ·.toUInt64)
  | GPU_VOLTAGE => [stats.voltage.elim 0 (toFloat64 ·.voltage)]
  | GPU_GFX_VOLTAGE => [stats.voltage.elim 0 (toFloat64 ·.gfxVoltage)]
  | GPU_MEMORY_VOLTAGE => [stats.voltage.elim 0 (toFloat64 ·.memoryVoltage)]
  | PCIE_SPEED => [gpu.status.pcieStatus.elim 0 (toFloat64 ·.speed.toUInt64)]
  | PCIE_MAX_SPEED => [gpu.status.pcieStatus.elim 0 (toFloat64 ·.maxSpeed.toUInt64)]
  | PCIE_BANDWIDTH => [gpu.status.pcieStatus.elim 0 (toFloat64 ·.bandwidth)]
  | GPU_ENERGY_CONSUMED => [stats.energyConsumed]
  | PCIE_REPLAY_COUNT => [stats.pcieStats.elim 0 (toFloat64 ·.replayCount)]
  | PCIE_RECOVERY_COUNT => [stats.pcieStats.elim 0 (toFloat64 ·.recoveryCount)]
  | PCIE_REPLAY_ROLLOVER_COUNT => [stats.pcieStats.elim 0 (toFloat64 ·.replayRolloverCount)]
  | PCIE_NACK_SENT_COUNT => [stats.pcieStats.elim 0 (toFloat64 ·.nackSentCount)]
  | PCIE_NACK_RECEIVED_COUNT => [stats.pcieStats.elim 0 (toFloat64 ·.nackReceivedCount)]
  | GPU_CLOCK => gpu.status.clockStatus.elim [0] (·.map (toFloat64 ·.frequency.toUInt64))
  | GPU_POWER_USAGE => [toFloat64 stats.powerUsage]
  | GPU_TOTAL_VRAM => [gpu.status.vramStatus.elim 0 (toFloat64 ·.size)]
  | GPU_ECC_CORRECT_TOTAL => [toFloat64 stats.totalCorrectableErrors]
  | GPU_ECC_UNCORRECT_TOTAL => [toFloat64 stats.totalUncorrectableErrors]
  | GPU_ECC_CORRECT_SDMA => [toFloat64 stats.sdmaCorrectableErrors]
  | GPU_ECC_UNCORRECT_SDMA => [toFloat64 stats.sdmaUncorrectableErrors]
  | GPU_ECC_CORRECT_GFX => [toFloat64 stats.gfxCorrectableErrors]
  | GPU_ECC_UNCORRECT_GFX => [toFloat64 stats.gfxUncorrectableErrors]
  | GPU_ECC_CORRECT_MMHUB => [toFloat64 stats.mmhubCorrectableErrors]
  | GPU_ECC_UNCORRECT_MMHUB => [toFloat64 stats.mmhubUncorrectableErrors]
  | GPU_ECC_CORRECT_ATHUB => [toFloat64 stats.athubCorrectableErrors]
  | GPU_ECC_UNCORRECT_ATHUB => [toFloat64 stats.athubUncorrectableErrors]
  | GPU_ECC_CORRECT_BIF => [toFloat64 stats.bifCorrectableErrors]
  | GPU_ECC_UNCORRECT_BIF => [toFloat64 stats.bifUncorrectableErrors]
  | GPU_ECC_CORRECT_HDP => [toFloat64 stats.hdpCorrectableErrors]
  | GPU_ECC_UNCORRECT_HDP => [toFloat64 stats.hdpUncorrectableErrors]
  | GPU_ECC_CORRECT_XGMI_WAFL => [toFloat64 stats.xgmiWaflCorrectableErrors]
  | GPU_ECC_UNCORRECT_XGMI_WAFL => [toFloat64 stats.xgmiWaflUncorrectableErrors]
  | GPU_ECC_CORRECT_DF => [toFloat64 stats.dfCorrectableErrors]
  | GPU_ECC_UNCORRECT_DF => [toFloat64 stats.dfUncorrectableErrors]
  | GPU_ECC_CORRECT_SMN => [toFloat64 stats.smnCorrectableErrors]
  | GPU_ECC_UNCORRECT_SMN => [toFloat64 stats.smnUncorrectableErrors]
  | GPU_ECC_CORRECT_SEM => [toFloat64 stats.semCorrectableErrors]
  | GPU_ECC_UNCORRECT_SEM => [toFloat64 stats.semUncorrectableErrors]
  | GPU_ECC_CORRECT_MP0 => [toFloat64 stats.mp0CorrectableErrors]
  | GPU_ECC_UNCORRECT_MP0 => [toFloat64 stats.mp0UncorrectableErrors]
  | GPU_ECC_CORRECT_MP1 => [toFloat64 stats.mp1CorrectableErrors]
  | GPU_ECC_UNCORRECT_MP1 => [toFloat64 stats.mp1UncorrectableErrors]
  | GPU_ECC_CORRECT_FUSE => [toFloat64 stats.fuseCorrectableErrors]
  | GPU_ECC_UNCORRECT_FUSE => [toFloat64 stats.fuseUncorrectableErrors]
  | GPU_ECC_CORRECT_UMC => [toFloat64 stats.umcCorrectableErrors]
  | GPU_ECC_UNCORRECT_UMC => [toFloat64 stats.umcUncorrectableErrors]
  | GPU_XGMI_NBR_0_NOP_TX => [toFloat64 stats.xgmiNeighbor0TxNOPs]
  | GPU_XGMI_NBR_0_REQ_TX => [toFloat64 stats.xgmiNeighbor0TxRequests]
  | GPU_XGMI_NBR_0_RESP_TX => [toFloat64 stats.xgmiNeighbor0TxResponses]
  | GPU_XGMI_NBR_0_BEATS_TX => [toFloat64 stats.xgmiNeighbor0TXBeats]
  | GPU_XGMI_NBR_1_NOP_TX => [toFloat64 stats.xgmiNeighbor1TxNOPs]
  | GPU_XGMI_NBR_1_REQ_TX => [toFloat64 stats.xgmiNeighbor1TxRequests]
  | GPU_XGMI_NBR_1_RESP_TX => [toFloat64 stats.xgmiNeighbor1TxResponses]
  | GPU_XGMI_NBR_1_BEATS_TX => [toFloat64 stats.xgmiNeighbor1TXBeats]
  | GPU_XGMI_NBR_0_TX_THRPUT => [toFloat64 stats.xgmiNeighbor0TxThroughput]
  | GPU_XGMI_NBR_1_TX_THRPUT => [toFloat64 stats.xgmiNeighbor1TxThroughput]
  | GPU_XGMI_NBR_2_TX_THRPUT => [toFloat64 stats.xgmiNeighbor2TxThroughput]
  | GPU_XGMI_NBR_3_TX_THRPUT => [toFloat64 stats.xgmiNeighbor3TxThroughput]
  | GPU_XGMI_NBR_4_TX_THRPUT => [toFloat64 stats.xgmiNeighbor4TxThroughput]
  | GPU_XGMI_NBR_5_TX_THRPUT => [toFloat64 stats.xgmiNeighbor5TxThroughput]
  | GPU_USED_VRAM => [stats.vramUsage.elim 0 (toFloat64 ·.usedVRAM)]
  | GPU_FREE_VRAM =>
    let total := gpu.status.vramStatus.elim 0 (float64 ·.size.toNat)
    let used := stats.vramUsage.elim 0 (float64 ·.usedVRAM.toNat)
    [if total > 0 then subFloat64 total used else 0]
  | GPU_TOTAL_VISIBLE_VRAM => [stats.vramUsage.elim 0 (toFloat64 ·.totalVisibleVRAM)]
  | GPU_USED_VISIBLE_VRAM => [stats.vramUsage.elim 0 (toFloat64 ·.usedVisibleVRAM)]
  | GPU_FREE_VISIBLE_VRAM => [stats.vramUsage.elim 0 (toFloat64 ·.freeVisibleVRAM)]
  | GPU_TOTAL_GTT => [stats.vramUsage.elim 0 (toFloat64 ·.totalGTT)]
  | GPU_USED_GTT => [stats.vramUsage.elim 0 (toFloat64 ·.usedGTT)]
  | GPU_FREE_GTT => [stats.vramUsage.elim 0 (toFloat64 ·.freeGTT)]
  | GPU_ECC_CORRECT_MCA => [toFloat64 stats.mcaCorrectableErrors]
  | GPU_ECC_UNCORRECT_MCA => [toFloat64 stats.mcaUncorrectableErrors]
  | GPU_ECC_CORRECT_VCN => [toFloat64 stats.vcnCorrectableErrors]
  | GPU_ECC_UNCORRECT_VCN => [toFloat64 stats.vcnUncorrectableErrors]
  | GPU_ECC_CORRECT_JPEG => [toFloat64 stats.jpegCorrectableErrors]
  | GPU_ECC_UNCORRECT_JPEG => [toFloat64 stats.jpegUncorrectableErrors]
  | GPU_ECC_CORRECT_IH => [toFloat64 stats.ihCorrectableErrors]
  | GPU_ECC_UNCORRECT_IH => [toFloat64 stats.ihUncorrectableErrors]
  | GPU_ECC_CORRECT_MPIO => [toFloat64 stats.mpioCorrectableErrors]
  | GPU_ECC_UNCORRECT_MPIO => [toFloat64 stats.mpioUncorrectableErrors]
  | GPU_XGMI_LINK_RX => stats.xgmiLinkStats.elim [0] (·.map (toFloat64 ·.dataRead))
  | GPU_XGMI_LINK_TX => stats.xgmiLinkStats.elim [0] (·.map (toFloat64 ·.dataWrite))
  | GPU_VIOLATION_CURRENT_ACCUMULATED_COUNTER =>
    [stats.violationStats.elim 0 (toFloat64 ·.currentAccumulatedCounter)]
  | GPU_VIOLATION_PROCESSOR_HOT_RESIDENCY_ACCUMULATED =>
    [stats.violationStats.elim 0 (toFloat64 ·.processorHotResidencyAccumulated)]
  | GPU_VIOLATION_PPT_RESIDENCY_ACCUMULATED =>
    [stats.violationStats.elim 0 (toFloat64 ·.pptResidencyAccumulated)]
  | GPU_VIOLATION_SOCKET_THERMAL_RESIDENCY_ACCUMULATED =>
    [stats.violationStats.elim 0 (toFloat64 ·.socketThermalResidencyAccumulated)]
  | GPU_VIOLATION_VR_THERMAL_RESIDENCY_ACCUMULATED =>
    [stats.violationStats.elim 0 (toFloat64 ·.vrThermalResidencyAccumulated)]
  | GPU_VIOLATION_HBM_THERMAL_RESIDENCY_ACCUMULATED =>
    [stats.violationStats.elim 0 (toFloat64 ·.hbmThermalResidencyAccumulated)]
  | _ => []

section Parse

variable [CaseMap]

def fetchMetricFromGPU (gpu : GPU) (metricName : String) : List ℚ :=
  match gpu.stats with
  | none => []
  | some stats =>
    match metricFieldOfName (toUpper metricName) with
    | none => []
    | some field => metricOfField gpu stats field

def parseGPUMetricsResponse (unmarshal : String → Option GPUGetResponse)
    (response metricName : String) : List ℚ :=
  match unmarshal response with
  | none => []
  | some gpuResponse =>
    if GPUMetricField.GPU_NODES_TOTAL.name = toUpper metricName then
      [(float64 gpuResponse.response.length : ℚ)]
    else
      gpuResponse.response.flatMap fun gpu => fetchMetricFromGPU gpu metricName

end Parse

def parseInbandRasErrorsResponse (unmarshal : String → Option GPUCPERGetResponse)
    (response : String) : List (Option GPUCPEREntry) :=
  match unmarshal response with
  | none => []
  | some cperResponse => if cperResponse.apiStatus ≠ 0 then [] else cperResponse.cper

def isAFIDPresentInCPER (cper : CPEREntry) (id : UInt64) : Bool :=
  cper.afId.any fun afid => afid = id

end HealthCLI
