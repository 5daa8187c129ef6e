import DeviceMetricsExporter.Exporter.Lemmas.Labels
import DeviceMetricsExporter.GPUAgent.Impl.Labels

/-!
This module contains the theorem that tells for which configurations the label maps of the GPU metrics
fit the label names that the metrics are registered with.
-/

namespace GPUAgent

open Exporter

instance : LabelEnum GPULabel where
  ascii := by decide
  nodup_lower := by decide
  lower_ne := by decide

theorem IndexLabels.nodup_names (index : IndexLabels) : index.names.Nodup := by
  cases index <;> decide

theorem IndexLabels.lowerName_ne (index : IndexLabels)
    : ∀ name ∈ index.names, ∀ a : GPULabel, lowerName a ≠ name := by
  have hvalues : ∀ name ∈ index.names, ∀ a ∈ (ProtoEnum.values : List GPULabel), lowerName a ≠ name := by
    cases index <;> decide
  intro name hname a
  apply hvalues name hname a (ProtoEnum.mem_values a)

theorem mem_labelsWithIndex {labels : GoMap String String} {done : List IndexLabels}
    {index : IndexLabels} {value : String → String} {k : String}
    : k ∈ labelsWithIndex labels done index value ↔
        (k ∈ labels ∧ ∀ other ∈ done, k ∉ other.names) ∨ k ∈ index.names := by
  rw [labelsWithIndex, GoMap.mem_insertEach, GoMap.mem_eraseAll]
  simp

section Node

variable [CaseMap] {on : GPULabel → Prop} {pod custom : List String} {lc : LabelConfig}

omit [CaseMap] in
theorem labelOfNode_isSome {staticHostLabels : GoMap String String} {a : GPULabel}
    : (labelOfNode staticHostLabels a).isSome ↔ a = .common .HOSTNAME := by
  cases a with
  | common label => cases label <;> simp [labelOfNode]
  | device label => simp [labelOfNode]

theorem mem_populateNodeLabels (h : Configured on pod custom lc) (hostname : on (.common .HOSTNAME))
    {staticHostLabels : GoMap String String} {k : String}
    : k ∈ populateNodeLabels lc staticHostLabels ↔ k = "hostname" ∨ k ∈ custom := by
  have hname : lowerName (.common .HOSTNAME : GPULabel) = "hostname" := by decide
  simp only [populateNodeLabels]
  rw [h.mem_addCustomLabels, h.mem_populateEnabled]
  simp only [ProtoEnum.ofName?_name, Option.bind_some, labelOfNode_isSome]
  constructor
  . intro hk
    rcases hk with ⟨a, ⟨-, rfl⟩, rfl⟩ | hk
    . exact Or.inl hname
    . exact Or.inr hk
  . intro hk
    rcases hk with rfl | hk
    . exact Or.inl ⟨_, ⟨hostname, rfl⟩, hname⟩
    . exact Or.inr hk

theorem labelsMatch_node_iff (h : Configured on pod custom lc) (hostname : on (.common .HOSTNAME))
    (staticHostLabels : GoMap String String)
    : LabelsMatch (getExporterNonDeviceLabels lc) (populateNodeLabels lc staticHostLabels) ↔
        "hostname" ∉ custom := by
  rw [← h.nodup_getExporterNonDeviceLabels]
  constructor
  . intro hmatch
    exact hmatch.nodup
  . intro hnodup
    refine ⟨hnodup, fun k => ?_⟩
    rw [mem_populateNodeLabels h hostname, h.mem_getExporterNonDeviceLabels]

end Node

namespace GPULabelClient

variable [CaseMap] (ga : GPULabelClient)

structure LabelsConsistent (wls : GoMap String Workload) (gpu : GPU) (partitionMap : GoMap String GPU)
    : Prop where
  node : LabelsMatch ga.getExporterNonGPULabels (ga.populateLabelsFromGPU ∅ none ∅)
  device :
    LabelsMatch (getExportLabels ga.toLabelConfig) (ga.populateLabelsFromGPU wls gpu partitionMap)
  indexed : ∀ (done : List IndexLabels) (index : IndexLabels) (value : String → String),
    LabelsMatch (index.names ++ getExportLabels ga.toLabelConfig)
      (labelsWithIndex (ga.populateLabelsFromGPU wls gpu partitionMap) done index value)

structure NoClash (config : MetricConfig) : Prop where
  hostname : "hostname" ∉ acceptedCustomLabels disallowedLabels config
  index : ∀ (index : IndexLabels), ∀ name ∈ index.names,
    name ∉ acceptedPodLabels config ∧ name ∉ acceptedCustomLabels disallowedLabels config

section Scrape

variable {ga} {on : GPULabel → Prop} {pod custom : List String}
  (h : Configured on pod custom ga.toLabelConfig)

include h

theorem mem_populateLabelsFromGPU_some {wls : GoMap String Workload} {gpu : GPU}
    {partitionMap : GoMap String GPU} {k : String}
    : k ∈ ga.populateLabelsFromGPU wls gpu partitionMap ↔ k ∈ getExportLabels ga.toLabelConfig := by
  simp only [populateLabelsFromGPU]
  rw [h.mem_addCustomLabels, h.mem_addExtraPodLabels, h.mem_populateEnabled, h.mem_getExportLabels]
  simp [or_assoc]

theorem labelsMatch_gpu (wls : GoMap String Workload) (gpu : GPU) (partitionMap : GoMap String GPU)
    : LabelsMatch (getExportLabels ga.toLabelConfig)
        (ga.populateLabelsFromGPU wls gpu partitionMap) where
  nodup := h.nodup_getExportLabels
  mem_iff _ := mem_populateLabelsFromGPU_some h

theorem nodup_index_iff (index : IndexLabels)
    : (index.names ++ getExportLabels ga.toLabelConfig).Nodup ↔
        ∀ name ∈ index.names, name ∉ pod ∧ name ∉ custom :=
  h.nodup_append_getExportLabels index.nodup_names index.lowerName_ne

theorem labelsMatch_indexed_iff (wls : GoMap String Workload) (gpu : GPU)
    (partitionMap : GoMap String GPU)
    : (∀ (done : List IndexLabels) (index : IndexLabels) (value : String → String),
        LabelsMatch (index.names ++ getExportLabels ga.toLabelConfig)
          (labelsWithIndex (ga.populateLabelsFromGPU wls gpu partitionMap) done index value)) ↔
        ∀ (index : IndexLabels), ∀ name ∈ index.names, name ∉ pod ∧ name ∉ custom := by
  -- The loop over one list deletes its index labels, so a clash also breaks the lists exported
  -- after it. The names of the list itself are the first to be registered twice.
  constructor
  . intro hmatch index
    rw [← nodup_index_iff h]
    exact (hmatch [] index id).nodup
  . intro hfree done index value
    have hnodup : ∀ other : IndexLabels,
        (other.names ++ getExportLabels ga.toLabelConfig).Nodup := by
      intro other
      rw [nodup_index_iff h]
      apply hfree other
    refine ⟨hnodup index, fun k => ?_⟩
    rw [mem_labelsWithIndex, mem_populateLabelsFromGPU_some h, List.mem_append, or_comm]
    have hkept : k ∈ getExportLabels ga.toLabelConfig → ∀ other ∈ done, k ∉ other.names := by
      intro hk other _ hother
      apply List.disjoint_of_nodup_append (hnodup other) hother hk
    constructor
    . intro hmem
      apply hmem.imp_right
      intro hk
      exact hk.1
    . intro hmem
      apply hmem.imp_right
      intro hk
      exact ⟨hk, hkept hk⟩

end Scrape

theorem configured_refresh (config : MetricConfig) (client : GPUAgentGPUClient)
    (k8PodInfoMap : GoMap String K8sPodInfo)
    : Configured (LabelOn gpuMandatoryLables (fun _ => true) config) (acceptedPodLabels config)
        (acceptedCustomLabels disallowedLabels config)
        ((ga.initConfigs (some config)).refresh client k8PodInfoMap).toLabelConfig := by
  apply configured_initConfigs

theorem labelsConsistent_iff (config : MetricConfig) (client : GPUAgentGPUClient)
    (k8PodInfoMap : GoMap String K8sPodInfo) (wls : GoMap String Workload) (gpu : GPU)
    (partitionMap : GoMap String GPU)
    : ((ga.initConfigs (some config)).refresh client k8PodInfoMap).LabelsConsistent wls gpu partitionMap ↔
        NoClash config := by
  have h := ga.configured_refresh config client k8PodInfoMap
  have hostname : LabelOn gpuMandatoryLables (fun _ => true) config (.common .HOSTNAME) := by
    apply Or.inl
    decide
  constructor
  . intro hconsistent
    exact ⟨(labelsMatch_node_iff h hostname _).mp hconsistent.node,
      (labelsMatch_indexed_iff h wls gpu partitionMap).mp hconsistent.indexed⟩
  . intro hfree
    exact ⟨(labelsMatch_node_iff h hostname _).mpr hfree.hostname, labelsMatch_gpu h wls gpu partitionMap,
      (labelsMatch_indexed_iff h wls gpu partitionMap).mpr hfree.index⟩

omit [CaseMap] in
theorem not_labelsConsistent
    : ¬∀ (_ : CaseMap) (ga : GPULabelClient) (config : MetricConfig) (client : GPUAgentGPUClient)
        (k8PodInfoMap : GoMap String K8sPodInfo) (wls : GoMap String Workload) (gpu : GPU)
        (partitionMap : GoMap String GPU),
        ((ga.initConfigs (some config)).refresh client k8PodInfoMap).LabelsConsistent wls gpu
          partitionMap := by
  -- A custom label called like the host name is registered twice.
  intro hconsistent
  let ga : GPULabelClient :=
    { client := newGPUAgentGPUClient ∅
      k8PodInfoMap := ∅
      staticHostLabels := AList.singleton "HOSTNAME" "node-1" }
  let config : MetricConfig := { customLabels := AList.singleton "hostname" "rack-7" }
  let gpu : GPU := { spec := { id := [] }, status := { index := 0 }, stats := none }
  rcases hconsistent CaseMap.ascii ga config ga.client ∅ ∅ gpu ∅ with ⟨⟨hnodup, -⟩, -, -⟩
  revert hnodup
  decide

end GPULabelClient

end GPUAgent
