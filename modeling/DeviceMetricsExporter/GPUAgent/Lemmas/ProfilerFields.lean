import DeviceMetricsExporter.GPUAgent.Impl.ProfilerFields
import DeviceMetricsExporter.Rocprofiler.Lemmas.Duplicates

/-!
This module contains the counters that the exporter asks the sampler for: two metrics share a counter,
which is thus asked for twice.
-/

namespace GPUAgent

open Rocprofiler

def sharedCounter : String := "MeanOccupancyPerActiveCU"

theorem count_alias_le : ∀ name ∈ getAllSupportedProfilerFields GPUMetricField.values,
    name ≠ sharedCounter →
      (getAllSupportedProfilerFields GPUMetricField.values).count name ≤ 1 := by
  decide +kernel

theorem count_sharedCounter
    : (getAllSupportedProfilerFields GPUMetricField.values).count sharedCounter = 2 := by
  decide +kernel

section Ranges

variable {fieldMetricsMap : List GPUMetricField} (h : fieldMetricsMap.Perm GPUMetricField.values)

include h

theorem count_getAllSupportedProfilerFields (name : String)
    : (getAllSupportedProfilerFields fieldMetricsMap).count name
      = (getAllSupportedProfilerFields GPUMetricField.values).count name :=
  ((h.map GPUMetricField.alias).filter _).count_eq name

theorem metrics_getAllSupportedProfilerFields
    : metrics (getAllSupportedProfilerFields fieldMetricsMap)
      = getAllSupportedProfilerFields fieldMetricsMap := by
  have hcount := count_getAllSupportedProfilerFields h sharedCounter
  rw [count_sharedCounter] at hcount
  unfold metrics
  rw [if_neg]
  intro hnil
  rw [hnil] at hcount
  cases hcount

theorem count_le_one_iff {name : String}
    : (getAllSupportedProfilerFields fieldMetricsMap).count name ≤ 1 ↔ name ≠ sharedCounter := by
  rw [count_getAllSupportedProfilerFields h]
  constructor
  . intro hle heq
    rw [heq, count_sharedCounter] at hle
    omega
  . intro hne
    by_cases hmem : name ∈ getAllSupportedProfilerFields GPUMetricField.values
    . exact count_alias_le name hmem hne
    . rw [List.count_eq_zero.mpr hmem]
      omega

end Ranges

section Instances

/--
Duplicates change nothing on any hardware with these counters exactly if none of the duplicates is one
of them. On hardware that takes each counter alone they change nothing exactly if the records of those
that are add up to 0. In whatever order `range` visits the metrics table, the exporter asks twice for
the shared counter and for no other.
-/
theorem duplicates_iff (supportedCounters : AList fun _ : String => UInt64)
    : (∀ counters, DuplicatesUnchanged supportedCounters counters
        ↔ ∀ name, (supportedCounters.lookup name).isSome → counters.count name ≤ 1)
      ∧ (∀ (hw : Hardware) (counters : List String),
        (∀ name ∈ counters, hw.agent.Supported name → hw.agent.Accepts [name]) →
          (hw.SameValues counters
            ↔ ∀ name, hw.agent.Supported name → 2 ≤ counters.count name →
              (hw.records name).sum = 0))
      ∧ ∀ fieldMetricsMap : List GPUMetricField, fieldMetricsMap.Perm GPUMetricField.values →
        (DuplicatesUnchanged supportedCounters (metrics (getAllSupportedProfilerFields fieldMetricsMap))
          ↔ supportedCounters.lookup "MeanOccupancyPerActiveCU" = none) := by
  refine ⟨?_, ?_, ?_⟩
  . intro counters
    apply duplicatesUnchanged_iff
  . intro hw counters halone
    apply Hardware.sameValues_iff_sum halone
  . intro fieldMetricsMap h
    rw [metrics_getAllSupportedProfilerFields h, duplicatesUnchanged_iff]
    simp only [count_le_one_iff h]
    constructor
    . intro hne
      by_contra hsome
      have hsupported := Option.isSome_iff_ne_none.mpr hsome
      exact hne sharedCounter hsupported rfl
    . intro hnone name hname heq
      rw [heq, sharedCounter, hnone] at hname
      cases hname

/--
The exporter's own list, on hardware that has the shared counter.
-/
theorem not_duplicates : ¬∀ (hw : Hardware) (counters : List String), hw.SameValues counters := by
  intro h
  let hw := Hardware.ones (AList.singleton sharedCounter 7)
  let counters := metrics (getAllSupportedProfilerFields GPUMetricField.values)
  have hcounters : counters = getAllSupportedProfilerFields GPUMetricField.values :=
    metrics_getAllSupportedProfilerFields (.refl _)
  have hcount : counters.count sharedCounter = 2 := by
    rw [hcounters, count_sharedCounter]
  have halone : ∀ name ∈ counters, hw.agent.Supported name → hw.agent.Accepts [name] := by
    intro _ _ _
    rfl
  have hsum := (Hardware.sameValues_iff_sum halone).mp (h hw counters) sharedCounter
    (by decide) (by omega)
  simp [hw, Hardware.ones] at hsum

end Instances

end GPUAgent
