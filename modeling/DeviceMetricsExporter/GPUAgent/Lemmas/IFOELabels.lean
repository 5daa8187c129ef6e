import DeviceMetricsExporter.GPUAgent.Impl.IFOELabels
import DeviceMetricsExporter.GPUAgent.Lemmas.Labels

/-!
This module contains the theorem that tells for which configurations the label maps of the network port
metrics fit the label names that the metrics are registered with.
-/

namespace GPUAgent

open Exporter

theorem nodup_portLabels : portLabels.Nodup := by
  decide

theorem portLabels_lowerName_ne : ∀ name ∈ portLabels, ∀ a : GPULabel, lowerName a ≠ name := by
  have hvalues : ∀ name ∈ portLabels, ∀ a ∈ (ProtoEnum.values : List GPULabel), lowerName a ≠ name := by
    decide
  intro name hname a
  apply hvalues name hname a (ProtoEnum.mem_values a)

theorem mem_addPortLabels {labels : GoMap String String} {stationUuid portName devUuid k : String}
    : k ∈ addPortLabels labels stationUuid portName devUuid ↔ k ∈ portLabels ∨ k ∈ labels := by
  simp only [addPortLabels, portLabels, AList.mem_insert, List.mem_cons, List.not_mem_nil]
  grind

namespace IFOELabelClient

def ignoredLabels : List GPULabel :=
  [.common .POD_UUID, .device .GPU_ID, .device .GPU_PARTITION_ID, .device .GPU_COMPUTE_PARTITION_TYPE,
    .device .GPU_MEMORY_PARTITION_TYPE, .device .KFD_PROCESS_ID, .device .DEPLOYMENT_MODE]

variable [CaseMap] (ga : IFOELabelClient)

structure LabelsConsistent (ualPort : UALNetworkPort) : Prop where
  port : ∀ stationUuid portName devUuid : String,
    LabelsMatch (portLabels ++ getExportLabels ga.toLabelConfig)
      (addPortLabels (ga.populateLabelsFromObject ualPort) stationUuid portName devUuid)
  node : LabelsMatch ga.getExporterNonIFOELabels (ga.populateLabelsFromObject none)

structure NoGap (config : MetricConfig) : Prop where
  ignored : ∀ a ∈ ignoredLabels, (∃ label ∈ config.labels, toUpper label = ProtoEnum.name a) →
    lowerName a ∈ acceptedPodLabels config ∨
      lowerName a ∈ acceptedCustomLabels GPULabelClient.disallowedLabels config
  port : ∀ name ∈ portLabels, name ∉ acceptedPodLabels config ∧
    name ∉ acceptedCustomLabels GPULabelClient.disallowedLabels config
  hostname : "hostname" ∉ acceptedCustomLabels GPULabelClient.disallowedLabels config

omit [CaseMap] in
theorem labelOfPort_isSome {ualPort : UALNetworkPort} {a : GPULabel}
    : (ga.labelOfPort ualPort a).isSome ↔ a ∉ ignoredLabels := by
  cases a with
  | common label => cases label <;> simp [labelOfPort, ignoredLabels]
  | device label => cases label <;> simp [labelOfPort, ignoredLabels]

section Scrape

variable {ga} {on : GPULabel → Prop} {pod custom : List String}
  (h : Configured on pod custom ga.toLabelConfig)

include h

theorem mem_populateLabelsFromObject_some {ualPort : UALNetworkPort} {k : String}
    : k ∈ ga.populateLabelsFromObject ualPort ↔
        (∃ a, (on a ∧ a ∉ ignoredLabels) ∧ lowerName a = k) ∨ k ∈ pod ∨ k ∈ custom := by
  simp only [populateLabelsFromObject]
  rw [h.mem_addCustomLabels, h.mem_addExtraPodLabels, h.mem_populateEnabled]
  simp only [ProtoEnum.ofName?_name, Option.bind_some, labelOfPort_isSome, or_assoc]

theorem mem_populateLabelsFromObject_iff_of_filled
    (hfilled : ∀ a ∈ ignoredLabels, on a → lowerName a ∈ pod ∨ lowerName a ∈ custom)
    {ualPort : UALNetworkPort} {k : String}
    : k ∈ ga.populateLabelsFromObject ualPort ↔ k ∈ getExportLabels ga.toLabelConfig := by
  rw [mem_populateLabelsFromObject_some h, h.mem_getExportLabels]
  constructor
  . intro hk
    apply hk.imp_left
    intro hon
    rcases hon with ⟨a, ⟨ha, -⟩, rfl⟩
    exact ⟨a, ha, rfl⟩
  . intro hk
    rcases hk with ⟨a, ha, rfl⟩ | hk
    . by_cases hignored : a ∈ ignoredLabels
      . exact Or.inr (hfilled a hignored ha)
      . exact Or.inl ⟨a, ⟨ha, hignored⟩, rfl⟩
    . exact Or.inr hk

theorem filled_of_populateLabelsFromObject {ualPort : UALNetworkPort} {a : GPULabel}
    (hignored : a ∈ ignoredLabels) (hmem : lowerName a ∈ ga.populateLabelsFromObject ualPort)
    : lowerName a ∈ pod ∨ lowerName a ∈ custom := by
  rw [mem_populateLabelsFromObject_some h] at hmem
  rcases hmem with ⟨b, ⟨-, hb⟩, hlower⟩ | hmem
  . rw [lowerName_injective hlower] at hb
    contradiction
  . exact hmem

theorem labelsMatch_port_iff (ualPort : UALNetworkPort)
    : (∀ stationUuid portName devUuid : String,
        LabelsMatch (portLabels ++ getExportLabels ga.toLabelConfig)
          (addPortLabels (ga.populateLabelsFromObject ualPort) stationUuid portName devUuid)) ↔
        (∀ a ∈ ignoredLabels, on a → lowerName a ∈ pod ∨ lowerName a ∈ custom) ∧
          ∀ name ∈ portLabels, name ∉ pod ∧ name ∉ custom := by
  rw [← h.nodup_append_getExportLabels nodup_portLabels portLabels_lowerName_ne]
  constructor
  . intro hmatch
    refine ⟨?_, (hmatch "" "" "").nodup⟩
    intro a hignored ha
    have hexported : lowerName a ∈ getExportLabels ga.toLabelConfig := by
      rw [h.mem_getExportLabels]
      exact Or.inl ⟨a, ha, rfl⟩
    have hmem := ((hmatch "" "" "").mem_iff (lowerName a)).mpr (List.mem_append_right _ hexported)
    rw [mem_addPortLabels] at hmem
    apply filled_of_populateLabelsFromObject h hignored
    apply hmem.resolve_left
    intro hport
    apply portLabels_lowerName_ne _ hport a rfl
  . intro hfree stationUuid portName devUuid
    refine ⟨hfree.2, fun k => ?_⟩
    rw [mem_addPortLabels, mem_populateLabelsFromObject_iff_of_filled h hfree.1, List.mem_append]

end Scrape

theorem configured (config : MetricConfig)
    : Configured (LabelOn ifoeMandatoryLables (fun _ => true) config) (acceptedPodLabels config)
        (acceptedCustomLabels GPULabelClient.disallowedLabels config)
        (ga.initConfigs (some config)).toLabelConfig := by
  apply configured_initConfigs

theorem labelOn_iff_of_ignored (config : MetricConfig) {a : GPULabel} (ha : a ∈ ignoredLabels)
    : LabelOn ifoeMandatoryLables (fun _ => true) config a ↔
        ∃ label ∈ config.labels, toUpper label = ProtoEnum.name a := by
  have : a ∉ ifoeMandatoryLables := by
    revert a
    decide
  simp [LabelOn, this]

theorem NoGap.labelsMatch_port {config : MetricConfig} (hfree : NoGap config) (ualPort : UALNetworkPort)
    : ∀ stationUuid portName devUuid : String,
        LabelsMatch (portLabels ++ getExportLabels (ga.initConfigs (some config)).toLabelConfig)
          (addPortLabels ((ga.initConfigs (some config)).populateLabelsFromObject ualPort) stationUuid
            portName devUuid) := by
  rw [labelsMatch_port_iff (ga.configured config)]
  refine ⟨?_, hfree.port⟩
  intro a ha hon
  apply hfree.ignored a ha
  rw [← labelOn_iff_of_ignored config ha]
  exact hon

theorem NoGap.labelsMatch_ifoeLabels {config : MetricConfig} (hfree : NoGap config)
    {ualStationMap : GoMap String UALStation} {ualPort : UALNetworkPort} {labels : GoMap String String}
    (hlabels : (ga.initConfigs (some config)).ifoeLabels ualStationMap ualPort = some labels)
    : LabelsMatch (portLabels ++ getExportLabels (ga.initConfigs (some config)).toLabelConfig) labels := by
  simp only [ifoeLabels] at hlabels
  split at hlabels
  . cases hlabels
  . rw [← Option.some.inj hlabels]
    apply hfree.labelsMatch_port

theorem portLabelsConsistent_iff (config : MetricConfig) (ualPort : UALNetworkPort)
    : (ga.initConfigs (some config)).LabelsConsistent ualPort ↔ NoGap config := by
  have h := ga.configured config
  have hostname : LabelOn ifoeMandatoryLables (fun _ => true) config (.common .HOSTNAME) := by
    apply Or.inl
    decide
  constructor
  . intro hconsistent
    have hport := (labelsMatch_port_iff h ualPort).mp hconsistent.port
    refine ⟨?_, hport.2, (labelsMatch_node_iff h hostname _).mp hconsistent.node⟩
    intro a ha hlabel
    apply hport.1 a ha
    rw [labelOn_iff_of_ignored config ha]
    exact hlabel
  . intro hfree
    exact ⟨hfree.labelsMatch_port ga ualPort, (labelsMatch_node_iff h hostname _).mpr hfree.hostname⟩

omit [CaseMap] in
theorem not_portLabelsConsistent
    : ¬∀ (_ : CaseMap) (ga : IFOELabelClient) (config : MetricConfig) (ualPort : UALNetworkPort),
        (ga.initConfigs (some config)).LabelsConsistent ualPort := by
  -- The label `gpu_id` can be turned on but is never filled.
  intro hconsistent
  let ga : IFOELabelClient :=
    { k8PodInfoMap := ∅
      staticHostLabels := AList.singleton "HOSTNAME" "node-1" }
  let config : MetricConfig := { labels := ["gpu_id"] }
  let ualPort : UALNetworkPort := { id := [], ualStation := [], name := none }
  rcases hconsistent CaseMap.ascii ga config ualPort with ⟨hport, -⟩
  have hmem := ((hport "" "" "").mem_iff "gpu_id").mpr
  revert hmem
  decide

end IFOELabelClient

end GPUAgent
