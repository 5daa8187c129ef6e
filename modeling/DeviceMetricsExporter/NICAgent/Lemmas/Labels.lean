import DeviceMetricsExporter.Exporter.Lemmas.Labels
import DeviceMetricsExporter.NICAgent.Impl.Labels

/-!
This module contains the theorem that tells for which configurations the label maps of the NIC metrics
fit the label names that the metrics are registered with.
-/

namespace NICAgent

open Exporter

instance : LabelEnum NICLabel where
  ascii := by decide
  nodup_lower := by decide
  lower_ne := by decide

theorem intfLabels_lowerName_ne : ∀ name ∈ intfLabels, ∀ a : NICLabel, lowerName a ≠ name := by
  have hvalues : ∀ name ∈ intfLabels, ∀ a ∈ (ProtoEnum.values : List NICLabel), lowerName a ≠ name := by
    decide
  intro name hname a
  apply hvalues name hname a (ProtoEnum.mem_values a)

theorem mem_appendLabelsWithoutDuplicates {existingLabels newLabels : List String} {k : String}
    : k ∈ appendLabelsWithoutDuplicates existingLabels newLabels ↔
        k ∈ existingLabels ∨ k ∈ newLabels := by
  rw [appendLabelsWithoutDuplicates, List.mem_append, List.mem_filter]
  grind

theorem nodup_appendLabelsWithoutDuplicates {existingLabels newLabels : List String}
    (hexisting : existingLabels.Nodup) (hnew : newLabels.Nodup)
    : (appendLabelsWithoutDuplicates existingLabels newLabels).Nodup := by
  rw [appendLabelsWithoutDuplicates, List.nodup_append']
  refine ⟨hexisting, hnew.filter _, ?_⟩
  rw [List.disjoint_left]
  intro k hk hfilter
  simp [hk] at hfilter

namespace NICAgentClient

def unfilledLabels : List NICLabel :=
  [.common .CLUSTER_NAME, .common .JOB_ID, .common .JOB_USER, .common .JOB_PARTITION,
    .common .CARD_SERIES, .common .CARD_MODEL, .common .CARD_VENDOR, .common .DRIVER_VERSION,
    .common .VBIOS_VERSION]

def filledLabels : List NICLabel :=
  [.common .HOSTNAME, .common .SERIAL_NUMBER, .device .NIC_UUID, .device .NIC_ID,
    .device .FIRMWARE_VERSION, .common .POD, .common .POD_UUID, .common .CONTAINER, .common .NAMESPACE]

theorem mem_filledLabels (a : NICLabel) : a ∈ filledLabels ↔ a ∉ unfilledLabels := by
  have hvalues : ∀ a ∈ (ProtoEnum.values : List NICLabel), a ∈ filledLabels ↔ a ∉ unfilledLabels := by
    decide
  apply hvalues a (ProtoEnum.mem_values a)

variable [CaseMap] (na : NICAgentClient)

structure LabelsConsistent (netDev : NetDevice) (podInfo : Option PodResourceInfo) (uuid : String)
    : Prop where
  netDevice : LabelsMatch na.getNetworkDeviceLabels (na.populateLabelsForNetDevice netDev podInfo)
  nic : LabelsMatch (getExportLabels na.toLabelConfig) (na.populateLabelsFromNIC uuid)

structure NoGap (config : MetricConfig) (uuid : String) : Prop where
  unfilled : ∀ a ∈ unfilledLabels, (∃ label ∈ config.labels, toUpper label = ProtoEnum.name a) →
    lowerName a ∈ acceptedPodLabels config ∨ lowerName a ∈ acceptedCustomLabels disallowedLabels config
  intf : ∀ name ∈ intfLabels,
    name ∉ acceptedPodLabels config ∧ name ∉ acceptedCustomLabels disallowedLabels config
  inventory : uuid ∈ na.nics ∨ ∀ k ∈ acceptedPodLabels config,
    (∃ a, LabelOn mandatoryLables na.allowedLabel config a ∧ lowerName a = k) ∨
      k ∈ acceptedCustomLabels disallowedLabels config

theorem workloadLabels_eq
    : workloadLabels = kubernetesLabels.map fun label => lowerName (.common label : NICLabel) := by
  have hlower (l : MetricLabel) : toLower l.name = lowerName (.common l : NICLabel) :=
    toLower_name (.common l : NICLabel)
  simp only [workloadLabels, kubernetesLabels, hlower, List.map_cons, List.map_nil]

theorem labelOfNetDevice_isSome {netDev : NetDevice} {nic : Option NIC}
    {podInfo : Option PodResourceInfo} {key : String}
    : (na.labelOfNetDevice netDev nic podInfo key).isSome ↔
        key ∈ filledLabels.map lowerName ∨ key ∈ intfLabels := by
  have hlower (a : NICLabel) : toLower a.name = lowerName a := toLower_name a
  have hcommon (l : MetricLabel) : toLower l.name = lowerName (.common l : NICLabel) := hlower (.common l)
  have hdevice (l : NICMetricLabel) : toLower l.name = lowerName (.device l : NICLabel) :=
    hlower (.device l)
  have hcase (k : String) (v : String) (rest : Option String)
      : (if key = k then some v else rest).isSome ↔ key = k ∨ rest.isSome := by
    split
    . next h => simp [h]
    . next h => simp [h]
  simp only [labelOfNetDevice, hcase, hcommon, hdevice, filledLabels, intfLabels, List.map_cons,
    List.map_nil, List.mem_cons, List.not_mem_nil, Option.isSome_none, Bool.false_eq_true, or_false,
    or_assoc]

section Scrape

variable {na} {on : NICLabel → Prop} {pod custom : List String}
  (h : Configured on pod custom na.toLabelConfig)

include h

theorem isExtraOrCustomLabel_iff {key : String}
    : na.isExtraOrCustomLabel key ↔ key ∈ pod ∨ key ∈ custom := by
  rw [isExtraOrCustomLabel, Bool.or_eq_true, decide_eq_true_iff, decide_eq_true_iff,
    h.mem_extraPodLabelsMap, h.mem_customLabelMap]

theorem isExtraOrCustomLabel_name (a : NICLabel)
    : na.isExtraOrCustomLabel (ProtoEnum.name a) = false := by
  -- The test is made on the name in upper case and so never succeeds.
  have hne : toLower (ProtoEnum.name a) ≠ ProtoEnum.name a := by
    rw [toLower_name]
    apply LabelEnum.lower_ne a (ProtoEnum.mem_values a)
  rw [Bool.eq_false_iff, Ne, isExtraOrCustomLabel_iff h, not_or]
  constructor
  . intro hpod
    apply hne (h.lower_pod _ hpod)
  . intro hcustom
    apply hne (h.lower_custom _ hcustom)

theorem mem_netDeviceLabels_of_intf {name : String} (hname : name ∈ intfLabels)
    : name ∈ appendLabelsWithoutDuplicates (getExportLabels na.toLabelConfig) workloadLabels ↔
        name ∈ pod ∨ name ∈ custom := by
  have hne := intfLabels_lowerName_ne name hname
  rw [mem_appendLabelsWithoutDuplicates, h.mem_getExportLabels, workloadLabels_eq]
  simp [hne]

theorem nodup_getNetworkDeviceLabels
    : na.getNetworkDeviceLabels.Nodup ↔ ∀ name ∈ intfLabels, name ∉ pod ∧ name ∉ custom := by
  have hfirst : (appendLabelsWithoutDuplicates (getExportLabels na.toLabelConfig) workloadLabels).Nodup := by
    apply nodup_appendLabelsWithoutDuplicates h.nodup_getExportLabels
    rw [workloadLabels_eq]
    apply List.Nodup.map
    . intro l l' hl
      apply DeviceLabel.common.inj (lowerName_injective hl)
    . decide
  have hintf : intfLabels.Nodup := by decide
  rw [getNetworkDeviceLabels, List.nodup_append']
  simp only [hfirst, hintf, true_and, List.disjoint_right]
  constructor
  . intro hdisj name hname
    have := hdisj hname
    rw [mem_netDeviceLabels_of_intf h hname, not_or] at this
    exact this
  . intro hfree name hname
    rw [mem_netDeviceLabels_of_intf h hname, not_or]
    apply hfree name hname

theorem mem_populateLabelsForNetDevice {netDev : NetDevice} {podInfo : Option PodResourceInfo}
    {k : String}
    : k ∈ na.populateLabelsForNetDevice netDev podInfo ↔
        (k ∈ na.getNetworkDeviceLabels ∧ (k ∈ filledLabels.map lowerName ∨ k ∈ intfLabels)) ∨
          k ∈ pod ∨ k ∈ custom := by
  simp only [populateLabelsForNetDevice]
  rw [h.mem_addCustomLabels, h.mem_addExtraPodLabels, GoMap.mem_insertSome]
  simp only [List.mem_filter, labelOfNetDevice_isSome, Bool.not_eq_true', Bool.eq_false_iff, Ne,
    isExtraOrCustomLabel_iff h, id]
  constructor
  . intro hk
    rcases hk with ((hk | ⟨key, ⟨hkey, -⟩, rfl, hfilled⟩) | hk) | hk
    . simp at hk
    . exact Or.inl ⟨hkey, hfilled⟩
    . exact Or.inr (Or.inl hk)
    . exact Or.inr (Or.inr hk)
  . intro hk
    by_cases hset : k ∈ pod ∨ k ∈ custom
    . rcases hset with hset | hset
      . exact Or.inl (Or.inr hset)
      . exact Or.inr hset
    . have hk := hk.resolve_right hset
      exact Or.inl (Or.inl (Or.inr ⟨k, ⟨hk.1, hset⟩, rfl, hk.2⟩))

theorem mem_populateLabelsFromNIC {uuid k : String}
    : k ∈ na.populateLabelsFromNIC uuid ↔
        (∃ a, on a ∧ lowerName a = k) ∨ (uuid ∈ na.nics ∧ k ∈ pod) ∨ k ∈ custom := by
  have henabled {nic : Option NIC} : k ∈ populateEnabled na.exportLabels (fun ckey =>
      if na.isExtraOrCustomLabel ckey then none else some (na.labelOfNIC nic ckey)) ↔
        ∃ a, on a ∧ lowerName a = k := by
    rw [h.mem_populateEnabled]
    simp [isExtraOrCustomLabel_name h]
  have hknown : uuid ∈ na.nics ↔ (na.nics.lookup uuid).isSome := AList.lookup_isSome.symm
  simp only [populateLabelsFromNIC]
  rw [h.mem_addCustomLabels, hknown]
  cases na.nics.lookup uuid with
  | none => simp [henabled]
  | some nic =>
    have hpod : (∃ x ∈ na.extraPodLabelsMap.keys, toLower x = k) ↔ k ∈ pod := by
      simp only [← AList.mem_keys, h.mem_extraPodLabelsMap]
      apply Configured.exists_toLower_iff h.lower_pod
    rw [Option.elim_some, GoMap.mem_insertEach, henabled, hpod]
    simp [or_assoc]

theorem labelsMatch_nic_iff (uuid : String)
    : LabelsMatch (getExportLabels na.toLabelConfig) (na.populateLabelsFromNIC uuid) ↔
        uuid ∈ na.nics ∨ ∀ k ∈ pod, (∃ a, on a ∧ lowerName a = k) ∨ k ∈ custom := by
  have hmatch : LabelsMatch (getExportLabels na.toLabelConfig) (na.populateLabelsFromNIC uuid) ↔
      ∀ k, k ∈ na.populateLabelsFromNIC uuid ↔ k ∈ getExportLabels na.toLabelConfig :=
    ⟨fun hmatch => hmatch.mem_iff, fun hmem => ⟨h.nodup_getExportLabels, hmem⟩⟩
  simp only [hmatch, mem_populateLabelsFromNIC h, h.mem_getExportLabels]
  by_cases hknown : uuid ∈ na.nics
  . simp [hknown]
  . simp only [hknown, false_and, false_or]
    constructor
    . intro hiff k hk
      exact (hiff k).mpr (Or.inr (Or.inl hk))
    . intro hfilled k
      constructor
      . intro hk
        apply hk.imp_right Or.inr
      . intro hk
        rcases hk with hk | hk | hk
        . exact Or.inl hk
        . apply hfilled k hk
        . exact Or.inr hk

omit h in
theorem mem_getNetworkDeviceLabels {k : String}
    : k ∈ na.getNetworkDeviceLabels ↔
        (k ∈ getExportLabels na.toLabelConfig ∨ k ∈ workloadLabels) ∨ k ∈ intfLabels := by
  rw [getNetworkDeviceLabels, List.mem_append, mem_appendLabelsWithoutDuplicates]

omit h in
theorem workloadLabels_subset : workloadLabels ⊆ filledLabels.map lowerName := by
  intro k hk
  rw [workloadLabels_eq, List.mem_map] at hk
  rcases hk with ⟨l, hl, rfl⟩
  apply List.mem_map_of_mem
  revert l
  decide

theorem mem_populateLabelsForNetDevice_of_filled
    (hfilled : ∀ a ∈ unfilledLabels, on a → lowerName a ∈ pod ∨ lowerName a ∈ custom)
    {netDev : NetDevice} {podInfo : Option PodResourceInfo} {k : String}
    (hk : k ∈ na.getNetworkDeviceLabels) : k ∈ na.populateLabelsForNetDevice netDev podInfo := by
  rw [mem_populateLabelsForNetDevice h]
  have hcases := hk
  rw [mem_getNetworkDeviceLabels, h.mem_getExportLabels] at hcases
  rcases hcases with ((⟨a, ha, rfl⟩ | hset) | hworkload) | hintf
  . by_cases hunfilled : a ∈ unfilledLabels
    . exact Or.inr (hfilled a hunfilled ha)
    . rw [← mem_filledLabels] at hunfilled
      exact Or.inl ⟨hk, Or.inl (List.mem_map_of_mem hunfilled)⟩
  . exact Or.inr hset
  . exact Or.inl ⟨hk, Or.inl (workloadLabels_subset hworkload)⟩
  . exact Or.inl ⟨hk, Or.inr hintf⟩

theorem filled_of_populateLabelsForNetDevice {netDev : NetDevice} {podInfo : Option PodResourceInfo}
    {a : NICLabel} (hunfilled : a ∈ unfilledLabels)
    (hmem : lowerName a ∈ na.populateLabelsForNetDevice netDev podInfo)
    : lowerName a ∈ pod ∨ lowerName a ∈ custom := by
  rw [mem_populateLabelsForNetDevice h] at hmem
  rcases hmem with ⟨-, hmem | hmem⟩ | hmem
  . rw [List.mem_map] at hmem
    rcases hmem with ⟨b, hb, hlower⟩
    rw [lowerName_injective hlower, mem_filledLabels] at hb
    contradiction
  . exact absurd rfl (intfLabels_lowerName_ne _ hmem a)
  . exact hmem

theorem labelsMatch_netDevice_iff (netDev : NetDevice) (podInfo : Option PodResourceInfo)
    : LabelsMatch na.getNetworkDeviceLabels (na.populateLabelsForNetDevice netDev podInfo) ↔
        (∀ a ∈ unfilledLabels, on a → lowerName a ∈ pod ∨ lowerName a ∈ custom) ∧
          ∀ name ∈ intfLabels, name ∉ pod ∧ name ∉ custom := by
  rw [← nodup_getNetworkDeviceLabels h]
  constructor
  . intro hmatch
    refine ⟨?_, hmatch.nodup⟩
    intro a hunfilled ha
    apply filled_of_populateLabelsForNetDevice h hunfilled
    rw [hmatch.mem_iff, mem_getNetworkDeviceLabels, h.mem_getExportLabels]
    exact Or.inl (Or.inl (Or.inl ⟨a, ha, rfl⟩))
  . intro hfree
    refine ⟨hfree.2, fun k => ⟨?_, mem_populateLabelsForNetDevice_of_filled h hfree.1⟩⟩
    intro hk
    rw [mem_populateLabelsForNetDevice h] at hk
    rcases hk with hk | hk
    . exact hk.1
    . rw [mem_getNetworkDeviceLabels, h.mem_getExportLabels]
      exact Or.inl (Or.inl (Or.inr hk))

theorem mem_populateNonNICLabels {k : String}
    : k ∈ na.populateNonNICLabels ↔ k ∈ na.getExporterNonNICLabels := by
  have hhostname : toLower "hostname" = "hostname" := by
    rw [← toLower_hostname, toLower_toLower]
  have hlower : ∀ x ∈ na.getExporterNonNICLabels, toLower x = x := by
    intro x hx
    rw [getExporterNonNICLabels, h.mem_getExporterNonDeviceLabels] at hx
    rcases hx with rfl | hx
    . exact hhostname
    . apply h.lower_custom x hx
  simp only [populateNonNICLabels]
  rw [h.mem_addCustomLabels, GoMap.mem_insertEach_empty, Configured.exists_toLower_iff hlower]
  constructor
  . intro hk
    rcases hk with hk | hk
    . exact hk
    . rw [getExporterNonNICLabels, h.mem_getExporterNonDeviceLabels]
      exact Or.inr hk
  . exact Or.inl

end Scrape

theorem configured_refresh (config : MetricConfig) (k8PodInfoMap : GoMap String K8sPodInfo)
    : Configured (LabelOn mandatoryLables na.allowedLabel config) (acceptedPodLabels config)
        (acceptedCustomLabels disallowedLabels config)
        ((na.initConfigs (some config)).refresh k8PodInfoMap).toLabelConfig := by
  apply configured_initConfigs

theorem labelsMatch_nonNIC (config : MetricConfig) (k8PodInfoMap : GoMap String K8sPodInfo)
    : LabelsMatch ((na.initConfigs (some config)).refresh k8PodInfoMap).getExporterNonNICLabels
        ((na.initConfigs (some config)).refresh k8PodInfoMap).populateNonNICLabels := by
  -- Unlike the clients of the GPU agent this one does not accept a custom label called like a
  -- mandatory one, so the labels of the node always fit.
  have h := na.configured_refresh config k8PodInfoMap
  refine ⟨h.nodup_getExporterNonDeviceLabels.mpr ?_, fun k => mem_populateNonNICLabels h⟩
  intro hmem
  have hallowed := List.of_mem_filter (List.mem_of_mem_take hmem)
  have hdisallowed : "hostname" ∈ disallowedLabels := by
    rw [← toLower_hostname, disallowedLabels]
    apply List.mem_map_of_mem (f := fun label : NICLabel => toLower (ProtoEnum.name label))
      (a := .common .HOSTNAME)
    decide
  simp [hdisallowed] at hallowed

theorem labelOn_iff_of_unfilled (config : MetricConfig) {a : NICLabel} (ha : a ∈ unfilledLabels)
    : LabelOn mandatoryLables na.allowedLabel config a ↔
        ∃ label ∈ config.labels, toUpper label = ProtoEnum.name a := by
  have hmandatory : a ∉ mandatoryLables := by
    revert a
    decide
  have hallowed : ProtoEnum.name a ∉ kubernetesLabels.map MetricLabel.name := by
    revert a
    decide
  simp [LabelOn, hmandatory, allowedLabel, hallowed]

theorem nicLabelsConsistent_iff (config : MetricConfig) (k8PodInfoMap : GoMap String K8sPodInfo)
    (netDev : NetDevice) (podInfo : Option PodResourceInfo) (uuid : String)
    : ((na.initConfigs (some config)).refresh k8PodInfoMap).LabelsConsistent netDev podInfo uuid ↔
        na.NoGap config uuid := by
  have h := na.configured_refresh config k8PodInfoMap
  have hunfilled : (∀ a ∈ unfilledLabels, LabelOn mandatoryLables na.allowedLabel config a →
        lowerName a ∈ acceptedPodLabels config ∨
          lowerName a ∈ acceptedCustomLabels disallowedLabels config) ↔
      ∀ a ∈ unfilledLabels, (∃ label ∈ config.labels, toUpper label = ProtoEnum.name a) →
        lowerName a ∈ acceptedPodLabels config ∨
          lowerName a ∈ acceptedCustomLabels disallowedLabels config := by
    apply forall₂_congr
    intro a ha
    rw [labelOn_iff_of_unfilled na config ha]
  have hnetDevice := labelsMatch_netDevice_iff h netDev podInfo
  rw [hunfilled] at hnetDevice
  constructor
  . intro hconsistent
    have hfree := hnetDevice.mp hconsistent.netDevice
    exact ⟨hfree.1, hfree.2, (labelsMatch_nic_iff h uuid).mp hconsistent.nic⟩
  . intro hfree
    exact ⟨hnetDevice.mpr ⟨hfree.unfilled, hfree.intf⟩, (labelsMatch_nic_iff h uuid).mpr hfree.inventory⟩

omit [CaseMap] in
theorem not_nicLabelsConsistent
    : ¬∀ (_ : CaseMap) (na : NICAgentClient) (config : MetricConfig)
        (k8PodInfoMap : GoMap String K8sPodInfo) (netDev : NetDevice)
        (podInfo : Option PodResourceInfo) (uuid : String),
        ((na.initConfigs (some config)).refresh k8PodInfoMap).LabelsConsistent netDev podInfo uuid := by
  -- The label `cluster_name` can be turned on but a network device is given no value for it.
  intro hconsistent
  let na : NICAgentClient :=
    { nics := ∅
      isKubernetes := true
      k8PodInfoMap := ∅
      staticHostLabels := AList.singleton "HOSTNAME" "node-1" }
  let config : MetricConfig := { labels := ["cluster_name"] }
  let netDev : NetDevice :=
    { intfName := "eth0"
      intfAlias := "eth0"
      roceDevName := "rdma0"
      pcieBusId := "0000:41:00.0" }
  rcases hconsistent CaseMap.ascii na config ∅ netDev none "" with ⟨⟨-, hmem⟩, -⟩
  have hfilled := (hmem "cluster_name").mpr
  revert hfilled
  decide

end NICAgentClient

end NICAgent
