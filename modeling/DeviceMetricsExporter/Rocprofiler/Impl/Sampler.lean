import DeviceMetricsExporter.Lib.Accumulate
import DeviceMetricsExporter.Lib.TransitionSystem
import Mathlib.Data.List.Sort
import Mathlib.Algebra.Order.Ring.Rat
import Mathlib.Data.String.Basic

/-!
This module contains the sampler of hardware counters: the greedy packing of the requested counters into
profiles, and the sums of the records that are sampled with each profile.
-/

namespace Rocprofiler

inductive RocprofilerStatus where
  | success
  | exceedsHwLimit
  | error (code : Int)
  deriving DecidableEq

/--
What the profiler library knows about a GPU: the counters with their ids, the number of records of a
counter, and which lists of counters it makes a config of. A config that is made has a handle.
-/
structure Agent where
  supportedCounters : AList fun _ : String => UInt64
  getCounterSize : UInt64 → UInt64
  createCounterConfig : List UInt64 → RocprofilerStatus × UInt64
  handle_ne_zero : ∀ ids, (createCounterConfig ids).1 = .success → (createCounterConfig ids).2 ≠ 0

def maxCounterPerProfile : Nat := 10

structure Profile where
  config : UInt64
  counterNames : List String
  expectedSize : UInt64
  deriving DecidableEq

/--
The variables of one round of the outer loop. A handle of 0 is no config.
-/
structure ProfileRound where
  currentProfileCounters : List String := []
  failedCounters : List String := []
  lastValidConfig : UInt64 := 0
  lastValidSize : UInt64 := 0

namespace Agent

variable (agent : Agent)

def gpuCounters (names : List String) : List UInt64 :=
  names.filterMap agent.supportedCounters.lookup

def expectedSize (names : List String) : UInt64 :=
  ((agent.gpuCounters names).map agent.getCounterSize).foldl (· + ·) 0

def tryCounter (r : ProfileRound) (counterName : String) : ProfileRound :=
  if (agent.supportedCounters.lookup counterName).isNone then
    r
  else
    let currentProfileCounters := r.currentProfileCounters ++ [counterName]
    let (status, config) := agent.createCounterConfig (agent.gpuCounters currentProfileCounters)
    if status = .exceedsHwLimit ∨ currentProfileCounters.length > maxCounterPerProfile then
      { r with failedCounters := r.failedCounters ++ [counterName] }
    else if status = .success then
      { r with
        currentProfileCounters := currentProfileCounters
        lastValidConfig := config
        lastValidSize := agent.expectedSize currentProfileCounters }
    else
      { r with failedCounters := r.failedCounters ++ [counterName] }

def round (remainingCounters : List String) : ProfileRound :=
  remainingCounters.foldl agent.tryCounter {}

def ProfileRound.save (r : ProfileRound) (profiles : List Profile) : List Profile :=
  if r.currentProfileCounters ≠ [] ∧ r.lastValidConfig ≠ 0 then
    profiles ++ [⟨r.lastValidConfig, r.currentProfileCounters, r.lastValidSize⟩]
  else
    profiles

def createProfilesForCounters.go (n : Nat) (remainingCounters : List String)
    (profiles : List Profile) : Option (List Profile) :=
  match n with
  | 0 => none
  | n + 1 =>
    if remainingCounters = [] then
      some profiles
    else
      let r := agent.round remainingCounters
      let profiles := ProfileRound.save r profiles
      if r.currentProfileCounters = [] ∧ r.failedCounters ≠ [] then
        some profiles
      else
        go n r.failedCounters profiles

/--
The profiles for the counters, `none` if `n` rounds of the outer loop are not enough.
-/
def createProfilesForCounters (n : Nat) (counters : List String) : Option (List Profile) :=
  createProfilesForCounters.go agent n counters []

end Agent

def allFields : List String :=
  ["GRBM_GUI_ACTIVE", "SQ_WAVES", "GRBM_COUNT", "GPU_UTIL", "FETCH_SIZE", "WRITE_SIZE",
    "TOTAL_16_OPS", "TOTAL_32_OPS", "TOTAL_64_OPS", "CPC_CPC_STAT_BUSY", "CPC_CPC_STAT_IDLE",
    "CPC_CPC_STAT_STALL", "CPC_CPC_TCIU_BUSY", "CPC_CPC_TCIU_IDLE", "CPC_CPC_UTCL2IU_BUSY",
    "CPC_CPC_UTCL2IU_IDLE", "CPC_CPC_UTCL2IU_STALL", "CPC_ME1_BUSY_FOR_PACKET_DECODE",
    "CPC_ME1_DC0_SPI_BUSY", "CPC_UTCL1_STALL_ON_TRANSLATION", "CPC_ALWAYS_COUNT",
    "CPC_ADC_VALID_CHUNK_NOT_AVAIL", "CPC_ADC_DISPATCH_ALLOC_DONE", "CPC_ADC_VALID_CHUNK_END",
    "CPC_SYNC_FIFO_FULL_LEVEL", "CPC_SYNC_FIFO_FULL", "CPC_GD_BUSY", "CPC_TG_SEND",
    "CPC_WALK_NEXT_CHUNK", "CPC_STALLED_BY_SE0_SPI", "CPC_STALLED_BY_SE1_SPI",
    "CPC_STALLED_BY_SE2_SPI", "CPC_STALLED_BY_SE3_SPI", "CPC_LTE_ALL", "CPC_SYNC_WRREQ_FIFO_BUSY",
    "CPC_CANE_BUSY", "CPC_CANE_STALL", "CPF_CMP_UTCL1_STALL_ON_TRANSLATION", "CPF_CPF_STAT_BUSY",
    "CPF_CPF_STAT_IDLE", "CPF_CPF_STAT_STALL", "CPF_CPF_TCIU_BUSY", "CPF_CPF_TCIU_IDLE",
    "CPF_CPF_TCIU_STALL"]

def metrics (metricFields : List String) : List String :=
  if metricFields = [] then
    allFields
  else
    metricFields

/--
Sampling a profile yields the records of each of its counters, in any order.
-/
structure Hardware where
  agent : Agent
  records : String → List ℚ
  sample : Profile → List (String × ℚ)
  sample_perm : ∀ profile, (sample profile).Perm
    (profile.counterNames.flatMap fun name => (records name).map fun value => (name, value))

abbrev SampledValues := AList fun _ : String => ℚ

abbrev ProfileSets := AList fun _ : List String => List Profile

namespace Hardware

variable (hw : Hardware)

def createProfileSet (cachedProfileSets : ProfileSets) (sortedCounters : List String)
    : Option ProfileSets := do
  let profileSet ← hw.agent.createProfilesForCounters (sortedCounters.length + 1) sortedCounters
  return cachedProfileSets.insert sortedCounters profileSet

/--
The values of the counters and the cached profile sets after the call.
-/
def sampleCountersWithPacking (cachedProfileSets : ProfileSets) (counters : List String)
    : Option (SampledValues × ProfileSets) := do
  let sortedCounters := counters.insertionSort (· ≤ ·)
  let cachedProfileSets ←
    if (cachedProfileSets.lookup sortedCounters).isSome then
      some cachedProfileSets
    else
      hw.createProfileSet cachedProfileSets sortedCounters
  let profiles ← cachedProfileSets.lookup sortedCounters
  let records := profiles.flatMap hw.sample
  return (Accumulate.addAll records, cachedProfileSets)

def samplerSystem : TransitionSystem ProfileSets (List String) where
  step cachedProfileSets counters :=
    (hw.sampleCountersWithPacking cachedProfileSets counters).map Prod.snd

end Hardware

end Rocprofiler
