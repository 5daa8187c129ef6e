import DeviceMetricsExporter.HealthCLI.Impl.Messages

/-!
This module contains the GPU messages with everything that a scrape reads. The parts that the other
components read of the same messages are projections of them.
-/

namespace Amdgpu

inductive GPUClockType where
  | NONE | FABRIC | MEMORY | SYSTEM | SOC | DCE | PCIE | VIDEO | DATA | unrecognized (value : Int)
  deriving DecidableEq

def GPUClockType.toString : GPUClockType → String
  | NONE => "GPU_CLOCK_TYPE_NONE"
  | FABRIC => "GPU_CLOCK_TYPE_FABRIC"
  | MEMORY => "GPU_CLOCK_TYPE_MEMORY"
  | SYSTEM => "GPU_CLOCK_TYPE_SYSTEM"
  | SOC => "GPU_CLOCK_TYPE_SOC"
  | DCE => "GPU_CLOCK_TYPE_DCE"
  | PCIE => "GPU_CLOCK_TYPE_PCIE"
  | VIDEO => "GPU_CLOCK_TYPE_VIDEO"
  | DATA => "GPU_CLOCK_TYPE_DATA"
  | unrecognized value => value.repr

structure GPUClockStatus extends HealthCLI.GPUClockStatus where
  type : GPUClockType := .NONE
  lowFrequency : UInt32 := 0
  highFrequency : UInt32 := 0

structure GPUVRAMStatus extends HealthCLI.GPUVRAMStatus where
  maxBandwidth : UInt64 := 0

structure ProcessInfo where
  pId : UInt32 := 0
  cuOccupancy : UInt32 := 0

/--
The bus id is a part of the PCIe status.
-/
structure GPUStatus extends GPUAgent.GPUStatus where
  clockStatus : Option (List GPUClockStatus) := none
  vramStatus : Option GPUVRAMStatus := none
  pcieStatus : Option HealthCLI.GPUPCIeStatus := none
  processStatus : Option (List ProcessInfo) := none
  isSome_pcieBusId : pcieBusId.isSome = pcieStatus.isSome := by rfl

structure GPUUsage extends HealthCLI.GPUUsage where
  gfxBusyInst : List UInt32 := []
  jpegBusyInst : List UInt32 := []
  vcnBusyInst : List UInt32 := []

structure GPUPCIeStats extends HealthCLI.GPUPCIeStats where
  rxBytes : UInt64 := 0
  txBytes : UInt64 := 0
  biDirBandwidth : UInt64 := 0

structure GPUViolationStats extends HealthCLI.GPUViolationStats where
  processorHotResidencyPercentage : UInt64 := 0
  pptResidencyPercentage : UInt64 := 0
  socketThermalResidencyPercentage : UInt64 := 0
  vrThermalResidencyPercentage : UInt64 := 0
  hbmThermalResidencyPercentage : UInt64 := 0
  gfxBelowHostLimitPowerAccumulated : List UInt64 := []
  gfxBelowHostLimitTHMAccumulated : List UInt64 := []
  gfxLowUtilizationAccumulated : List UInt64 := []
  gfxBelowHostLimitTotalAccumulated : List UInt64 := []
  gfxBelowHostLimitPowerPercentage : List UInt64 := []
  gfxBelowHostLimitTHMPercentage : List UInt64 := []
  gfxLowUtilizationPercentage : List UInt64 := []
  gfxBelowHostLimitTotalPercentage : List UInt64 := []

structure GPUStats extends GPUAgent.GPUStats where
  packagePower : UInt64 := 0
  avgPackagePower : UInt64 := 0
  temperature : Option HealthCLI.GPUTemperatureStats := none
  usage : Option GPUUsage := none
  voltage : Option HealthCLI.GPUVoltage := none
  pcieStats : Option GPUPCIeStats := none
  energyConsumed : ℚ := 0
  totalCorrectableErrors : UInt64 := 0
  totalUncorrectableErrors : UInt64 := 0
  sdmaCorrectableErrors : UInt64 := 0
  gfxCorrectableErrors : UInt64 := 0
  mmhubCorrectableErrors : UInt64 := 0
  athubCorrectableErrors : UInt64 := 0
  bifCorrectableErrors : UInt64 := 0
  hdpCorrectableErrors : UInt64 := 0
  xgmiWaflCorrectableErrors : UInt64 := 0
  dfCorrectableErrors : UInt64 := 0
  smnCorrectableErrors : UInt64 := 0
  semCorrectableErrors : UInt64 := 0
  mp0CorrectableErrors : UInt64 := 0
  mp1CorrectableErrors : UInt64 := 0
  fuseCorrectableErrors : UInt64 := 0
  umcCorrectableErrors : UInt64 := 0
  mcaCorrectableErrors : UInt64 := 0
  vcnCorrectableErrors : UInt64 := 0
  jpegCorrectableErrors : UInt64 := 0
  ihCorrectableErrors : UInt64 := 0
  mpioCorrectableErrors : UInt64 := 0
  xgmiNeighbor0TxNOPs : UInt64 := 0
  xgmiNeighbor0TxRequests : UInt64 := 0
  xgmiNeighbor0TxResponses : UInt64 := 0
  xgmiNeighbor0TXBeats : UInt64 := 0
  xgmiNeighbor1TxNOPs : UInt64 := 0
  xgmiNeighbor1TxRequests : UInt64 := 0
  xgmiNeighbor1TxResponses : UInt64 := 0
  xgmiNeighbor1TXBeats : UInt64 := 0
  xgmiNeighbor0TxThroughput : UInt64 := 0
  xgmiNeighbor1TxThroughput : UInt64 := 0
  xgmiNeighbor2TxThroughput : UInt64 := 0
  xgmiNeighbor3TxThroughput : UInt64 := 0
  xgmiNeighbor4TxThroughput : UInt64 := 0
  xgmiNeighbor5TxThroughput : UInt64 := 0
  powerUsage : UInt64 := 0
  vramUsage : Option HealthCLI.GPUVRAMUsage := none
  xgmiLinkStats : Option (List HealthCLI.GPUXGMILinkStats) := none
  violationStats : Option GPUViolationStats := none
  totalDeferredErrors : UInt64 := 0
  sdmaDeferredErrors : UInt64 := 0
  gfxDeferredErrors : UInt64 := 0
  mmhubDeferredErrors : UInt64 := 0
  athubDeferredErrors : UInt64 := 0
  bifDeferredErrors : UInt64 := 0
  hdpDeferredErrors : UInt64 := 0
  xgmiWaflDeferredErrors : UInt64 := 0
  dfDeferredErrors : UInt64 := 0
  smnDeferredErrors : UInt64 := 0
  semDeferredErrors : UInt64 := 0
  mp0DeferredErrors : UInt64 := 0
  mp1DeferredErrors : UInt64 := 0
  fuseDeferredErrors : UInt64 := 0
  umcDeferredErrors : UInt64 := 0
  mcaDeferredErrors : UInt64 := 0
  vcnDeferredErrors : UInt64 := 0
  jpegDeferredErrors : UInt64 := 0
  ihDeferredErrors : UInt64 := 0
  mpioDeferredErrors : UInt64 := 0

structure GPU where
  spec : GPUAgent.GPUSpec
  status : GPUStatus
  stats : Option GPUStats

structure GPUGetResponse where
  apiStatus : Int
  response : List GPU

structure CPEREntry extends GPUAgent.CPEREntry where
  afId : List UInt64 := []

def GPUStats.toHealthCLI (stats : GPUStats) : HealthCLI.GPUStats where
  toGPUStats := stats.toGPUStats
  packagePower := stats.packagePower
  avgPackagePower := stats.avgPackagePower
  temperature := stats.temperature
  usage := stats.usage.map (·.toGPUUsage)
  voltage := stats.voltage
  pcieStats := stats.pcieStats.map (·.toGPUPCIeStats)
  energyConsumed := stats.energyConsumed
  totalCorrectableErrors := stats.totalCorrectableErrors
  totalUncorrectableErrors := stats.totalUncorrectableErrors
  sdmaCorrectableErrors := stats.sdmaCorrectableErrors
  gfxCorrectableErrors := stats.gfxCorrectableErrors
  mmhubCorrectableErrors := stats.mmhubCorrectableErrors
  athubCorrectableErrors := stats.athubCorrectableErrors
  bifCorrectableErrors := stats.bifCorrectableErrors
  hdpCorrectableErrors := stats.hdpCorrectableErrors
  xgmiWaflCorrectableErrors := stats.xgmiWaflCorrectableErrors
  dfCorrectableErrors := stats.dfCorrectableErrors
  smnCorrectableErrors := stats.smnCorrectableErrors
  semCorrectableErrors := stats.semCorrectableErrors
  mp0CorrectableErrors := stats.mp0CorrectableErrors
  mp1CorrectableErrors := stats.mp1CorrectableErrors
  fuseCorrectableErrors := stats.fuseCorrectableErrors
  umcCorrectableErrors := stats.umcCorrectableErrors
  mcaCorrectableErrors := stats.mcaCorrectableErrors
  vcnCorrectableErrors := stats.vcnCorrectableErrors
  jpegCorrectableErrors := stats.jpegCorrectableErrors
  ihCorrectableErrors := stats.ihCorrectableErrors
  mpioCorrectableErrors := stats.mpioCorrectableErrors
  xgmiNeighbor0TxNOPs := stats.xgmiNeighbor0TxNOPs
  xgmiNeighbor0TxRequests := stats.xgmiNeighbor0TxRequests
  xgmiNeighbor0TxResponses := stats.xgmiNeighbor0TxResponses
  xgmiNeighbor0TXBeats := stats.xgmiNeighbor0TXBeats
  xgmiNeighbor1TxNOPs := stats.xgmiNeighbor1TxNOPs
  xgmiNeighbor1TxRequests := stats.xgmiNeighbor1TxRequests
  xgmiNeighbor1TxResponses := stats.xgmiNeighbor1TxResponses
  xgmiNeighbor1TXBeats := stats.xgmiNeighbor1TXBeats
  xgmiNeighbor0TxThroughput := stats.xgmiNeighbor0TxThroughput
  xgmiNeighbor1TxThroughput := stats.xgmiNeighbor1TxThroughput
  xgmiNeighbor2TxThroughput := stats.xgmiNeighbor2TxThroughput
  xgmiNeighbor3TxThroughput := stats.xgmiNeighbor3TxThroughput
  xgmiNeighbor4TxThroughput := stats.xgmiNeighbor4TxThroughput
  xgmiNeighbor5TxThroughput := stats.xgmiNeighbor5TxThroughput
  powerUsage := stats.powerUsage
  vramUsage := stats.vramUsage
  xgmiLinkStats := stats.xgmiLinkStats
  violationStats := stats.violationStats.map (·.toGPUViolationStats)

def GPUStatus.toHealthCLI (status : GPUStatus) : HealthCLI.GPUStatus where
  toGPUStatus := status.toGPUStatus
  clockStatus := status.clockStatus.map fun clockStatus => clockStatus.map (·.toGPUClockStatus)
  vramStatus := status.vramStatus.map (·.toGPUVRAMStatus)
  pcieStatus := status.pcieStatus

def GPU.toHealthCLI (gpu : GPU) : HealthCLI.GPU where
  spec := gpu.spec
  status := gpu.status.toHealthCLI
  stats := gpu.stats.map GPUStats.toHealthCLI

def GPU.toAgent (gpu : GPU) : GPUAgent.GPU :=
  gpu.toHealthCLI.toAgent

end Amdgpu
