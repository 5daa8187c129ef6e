import Mathlib.Algebra.Order.Ring.Rat
import DeviceMetricsExporter.GPUAgent.Impl.Messages

/-!
This module contains the messages that `amdgpuhealth` decodes from the answers of the exporter, as far
as it reads them. The GPU messages extend what the exporter reads of the same messages. A binary32 or
binary64 number is its rational value, and a slice that may be nil is an `Option`.
-/

namespace HealthCLI

structure GPUTemperatureStats where
  edgeTemperature : ℚ := 0
  junctionTemperature : ℚ := 0
  memoryTemperature : ℚ := 0
  hbmTemperature : List ℚ := []

structure GPUUsage where
  gfxActivity : UInt32 := 0
  umcActivity : UInt32 := 0
  mmActivity : UInt32 := 0
  vcnActivity : List UInt32 := []
  jpegActivity : List UInt32 := []

structure GPUVoltage where
  voltage : UInt64 := 0
  gfxVoltage : UInt64 := 0
  memoryVoltage : UInt64 := 0

structure GPUPCIeStats where
  replayCount : UInt64 := 0
  recoveryCount : UInt64 := 0
  replayRolloverCount : UInt64 := 0
  nackSentCount : UInt64 := 0
  nackReceivedCount : UInt64 := 0

structure GPUVRAMUsage where
  usedVRAM : UInt64 := 0
  totalVisibleVRAM : UInt64 := 0
  usedVisibleVRAM : UInt64 := 0
  freeVisibleVRAM : UInt64 := 0
  totalGTT : UInt64 := 0
  usedGTT : UInt64 := 0
  freeGTT : UInt64 := 0

structure GPUXGMILinkStats where
  dataRead : UInt64 := 0
  dataWrite : UInt64 := 0

structure GPUViolationStats where
  currentAccumulatedCounter : UInt64 := 0
  processorHotResidencyAccumulated : UInt64 := 0
  pptResidencyAccumulated : UInt64 := 0
  socketThermalResidencyAccumulated : UInt64 := 0
  vrThermalResidencyAccumulated : UInt64 := 0
  hbmThermalResidencyAccumulated : UInt64 := 0

structure GPUStats extends GPUAgent.GPUStats where
  packagePower : UInt64 := 0
  avgPackagePower : UInt64 := 0
  temperature : Option GPUTemperatureStats := none
  usage : Option GPUUsage := none
  voltage : Option GPUVoltage := none
  pcieStats : Option GPUPCIeStats := none
  energyConsumed : ℚ := 0
  totalCorrectableErrors : UInt64 := 0
  totalUncorrectableErrors : UInt64 := 0
  sdmaCorrectableErrors : UInt64 := 0
  gfxCorrectableErrors : UInt64 := 0
  mmhubCorrectableErrors : UInt64 := 0
  athubCorrectableErrors : UInt64 := 0
  bifCorrectableErrors : UInt64 := 0
  hdpCorrectableErrors : UInt64 := 0
  xgmiWaflCorrectableErrors : UInt64 := 0
  dfCorrectableErrors : UInt64 := 0
  smnCorrectableErrors : UInt64 := 0
  semCorrectableErrors : UInt64 := 0
  mp0CorrectableErrors : UInt64 := 0
  mp1CorrectableErrors : UInt64 := 0
  fuseCorrectableErrors : UInt64 := 0
  umcCorrectableErrors : UInt64 := 0
  mcaCorrectableErrors : UInt64 := 0
  vcnCorrectableErrors : UInt64 := 0
  jpegCorrectableErrors : UInt64 := 0
  ihCorrectableErrors : UInt64 := 0
  mpioCorrectableErrors : UInt64 := 0
  xgmiNeighbor0TxNOPs : UInt64 := 0
  xgmiNeighbor0TxRequests : UInt64 := 0
  xgmiNeighbor0TxResponses : UInt64 := 0
  xgmiNeighbor0TXBeats : UInt64 := 0
  xgmiNeighbor1TxNOPs : UInt64 := 0
  xgmiNeighbor1TxRequests : UInt64 := 0
  xgmiNeighbor1TxResponses : UInt64 := 0
  xgmiNeighbor1TXBeats : UInt64 := 0
  xgmiNeighbor0TxThroughput : UInt64 := 0
  xgmiNeighbor1TxThroughput : UInt64 := 0
  xgmiNeighbor2TxThroughput : UInt64 := 0
  xgmiNeighbor3TxThroughput : UInt64 := 0
  xgmiNeighbor4TxThroughput : UInt64 := 0
  xgmiNeighbor5TxThroughput : UInt64 := 0
  powerUsage : UInt64 := 0
  vramUsage : Option GPUVRAMUsage := none
  xgmiLinkStats : Option (List GPUXGMILinkStats) := none
  violationStats : Option GPUViolationStats := none

structure GPUClockStatus where
  frequency : UInt32 := 0

structure GPUVRAMStatus where
  size : UInt64 := 0

structure GPUPCIeStatus where
  speed : UInt32 := 0
  maxSpeed : UInt32 := 0
  bandwidth : UInt64 := 0

structure GPUStatus extends GPUAgent.GPUStatus where
  clockStatus : Option (List GPUClockStatus) := none
  vramStatus : Option GPUVRAMStatus := none
  pcieStatus : Option GPUPCIeStatus := none

structure GPU where
  spec : GPUAgent.GPUSpec
  status : GPUStatus
  stats : Option GPUStats

def GPU.toAgent (gpu : GPU) : GPUAgent.GPU where
  spec := gpu.spec
  status := gpu.status.toGPUStatus
  stats := gpu.stats.map (·.toGPUStats)

structure GPUGetResponse where
  response : List GPU

structure CPEREntry where
  afId : List UInt64
  deriving DecidableEq

/--
The records of a GPU. An element that is `null` in the body is nil.
-/
structure GPUCPEREntry where
  cperEntry : List (Option CPEREntry)
  deriving DecidableEq

structure GPUCPERGetResponse where
  apiStatus : Int
  cper : List (Option GPUCPEREntry)

end HealthCLI
