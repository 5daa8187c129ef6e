import DeviceMetricsExporter.GPUAgent.Lemmas.Reload
import DeviceMetricsExporter.NICAgent.Lemmas.Reload

/-!
This module contains when the exporter forgets the configurations it has loaded before the last one.
-/

namespace Exporter

open GPUAgent NICAgent

/--
The GPU client and the NIC client forget what they have loaded before exactly if the last configuration
supersedes it.
-/
theorem historyIndependent_iff [CaseMap] (handler : GPUHandler)
    (configs : List (Option GPUMetricConfig)) (config : Option GPUMetricConfig) (ga : GPUConfigs)
    (hga : (gpuConfigSystem handler).exec (configs ++ [config]) (newGPUConfigs handler) = some ga)
    (isKubernetes : Bool) (nicConfigs : List (Option MetricConfig))
    (nicConfig : Option MetricConfig) (na : NICConfigs)
    (hna : nicConfigSystem.exec (nicConfigs ++ [nicConfig]) (newNICConfigs isKubernetes) = some na)
    : (GPUAgent.HistoryIndependent handler ga config ↔ GPUAgent.Supersedes configs config)
        ∧ (NICAgent.HistoryIndependent isKubernetes na nicConfig ↔
          NICAgent.Supersedes nicConfigs nicConfig) :=
  ⟨gpu_historyIndependent_iff hga, nic_historyIndependent_iff hna⟩

section Instances

def plainHandler : GPUHandler where
  enableSriov := false
  enableGPUMonitoring := true
  hostName := "node"
  isCperEnabled := false

def selecting (selector : String) : Option GPUMetricConfig :=
  some { selector }

def podLabelConfig : Option MetricConfig :=
  some { extraPodLabels := (∅ : GoMap String String).insert "app" "app" }

theorem historyIndependent_iff_widened
    : ∃ ga na, (@gpuConfigSystem CaseMap.ascii plainHandler).exec
          ([selecting "0"] ++ [selecting "0-1"]) (newGPUConfigs plainHandler) = some ga
        ∧ (@nicConfigSystem CaseMap.ascii).exec ([none] ++ [podLabelConfig]) (newNICConfigs true)
          = some na
        ∧ @GPUAgent.HistoryIndependent CaseMap.ascii plainHandler ga (selecting "0-1")
        ∧ @NICAgent.HistoryIndependent CaseMap.ascii true na podLabelConfig := by
  have hgpu : @GPUAgent.Supersedes CaseMap.ascii [selecting "0"] (selecting "0-1") := by
    refine @GPUAgent.Supersedes.mk CaseMap.ascii _ _ (by decide) (by decide) ?_
    rintro c ⟨⟩
    exact @MetricConfig.Unordered.mk CaseMap.ascii _ _ ⟨nofun, nofun⟩ ⟨nofun, nofun⟩
  have hnic : @NICAgent.Supersedes CaseMap.ascii [none] podLabelConfig := by
    refine @NICAgent.Supersedes.mk CaseMap.ascii _ _ (by decide) ?_
    rintro c ⟨⟩
    exact @MetricConfig.Unordered.mk CaseMap.ascii _ _ ⟨nofun, nofun⟩ ⟨by decide, by decide⟩
  have hiff := @historyIndependent_iff CaseMap.ascii plainHandler [selecting "0"] (selecting "0-1") _
    rfl true [none] podLabelConfig _ rfl
  exact ⟨_, _, rfl, rfl, hiff.1.mpr hgpu, hiff.2.mpr hnic⟩

theorem not_historyIndependent
    : (¬∀ [CaseMap] (handler : GPUHandler) (configs : List (Option GPUMetricConfig))
          (config : Option GPUMetricConfig) (ga : GPUConfigs),
          (gpuConfigSystem handler).exec (configs ++ [config]) (newGPUConfigs handler) = some ga →
            GPUAgent.HistoryIndependent handler ga config)
        ∧ ¬∀ [CaseMap] (isKubernetes : Bool) (configs : List (Option MetricConfig))
          (config : Option MetricConfig) (na : NICConfigs),
          nicConfigSystem.exec (configs ++ [config]) (newNICConfigs isKubernetes) = some na →
            NICAgent.HistoryIndependent isKubernetes na config := by
  constructor
  . -- a selector is dropped from the configuration, but the other GPUs are still not exported
    intro h
    rcases @h CaseMap.ascii plainHandler [selecting "0"] (selecting "") _ rfl _ (rel_refl _) with
      ⟨s', hs', hsame⟩
    have hexported := hsame.exportedGPUs 1
    cases hs'
    revert hexported
    decide
  . -- the NIC section is dropped, but its pod labels are still exported
    intro h
    have hsame := (@h CaseMap.ascii true [podLabelConfig] none _ rfl none .none).1
    have hlabel := hsame.extraPodLabelsMap "app"
    revert hlabel
    decide

end Instances

end Exporter
