import DeviceMetricsExporter.Exporter.Lemmas.Reload
import DeviceMetricsExporter.GPUAgent.Lemmas.Labels
import DeviceMetricsExporter.GPUAgent.Lemmas.Verdict

/-!
This module contains for which configurations the custom labels and the extra pod labels leave the
mandatory labels of a GPU alone.
-/

namespace GPUAgent

open Exporter

namespace GPULabelClient

variable [CaseMap]

section Values

variable (ga : GPULabelClient)

def gpuLabel (wls : GoMap String Workload) (gpu : GPU) (partitionMap : GoMap String GPU)
    (a : GPULabel) : String :=
  let owners := workloadOwners (ga.client.getWorkloadInfo wls (getGPUInstanceIDString gpu))
  ga.labelOfGPU owners.1 owners.2 gpu (findParentPartition partitionMap gpu) a

def gpuPodLabels (wls : GoMap String Workload) (gpu : GPU) : GoMap String String :=
  getPodLabels (workloadOwners (ga.client.getWorkloadInfo wls (getGPUInstanceIDString gpu))).1
    ga.k8PodInfoMap

theorem lookup_populateLabelsFromGPU {on : GPULabel → Prop} {pod custom : List String}
    (h : Configured on pod custom ga.toLabelConfig) (wls : GoMap String Workload) (gpu : GPU)
    (partitionMap : GoMap String GPU) (k : String)
    : (ga.populateLabelsFromGPU wls gpu partitionMap).lookup k
        = (ga.customLabelMap.lookup k).or
          (((ga.extraPodLabelsMap.lookup k).map (getString (ga.gpuPodLabels wls gpu))).or
            ((populateEnabled ga.exportLabels fun ckey =>
              (ProtoEnum.ofName? ckey).map (ga.gpuLabel wls gpu partitionMap)).lookup k)) := by
  simp only [populateLabelsFromGPU]
  rw [lookup_addCustomLabels, h.lookup_addExtraPodLabels]
  rfl

end Values

def withoutUserLabels (config : MetricConfig) : MetricConfig :=
  { config with
    customLabels := ∅
    extraPodLabels := ∅ }

/--
What a scrape computes the labels of a GPU from, next to the configuration. The configuration is read
by a client in any state.
-/
structure LabelSources where
  ga : GPULabelClient
  client : GPUAgentGPUClient
  k8PodInfoMap : GoMap String K8sPodInfo
  wls : GoMap String Workload
  partitionMap : GoMap String GPU

namespace LabelSources

variable (sources : LabelSources) (config : MetricConfig)

def labelClient : GPULabelClient :=
  (sources.ga.initConfigs (some config)).refresh sources.client sources.k8PodInfoMap

def labels (gpu : GPU) : GoMap String String :=
  (sources.labelClient config).populateLabelsFromGPU sources.wls gpu sources.partitionMap

def value (gpu : GPU) (a : GPULabel) : String :=
  (sources.labelClient {}).gpuLabel sources.wls gpu sources.partitionMap a

def podLabels (gpu : GPU) : GoMap String String :=
  (sources.labelClient {}).gpuPodLabels sources.wls gpu

theorem configured_labelClient
    : Configured (LabelOn gpuMandatoryLables (fun _ => true) config) (acceptedPodLabels config)
        (acceptedCustomLabels disallowedLabels config) (sources.labelClient config).toLabelConfig := by
  apply configured_refresh

theorem lookup_labels (gpu : GPU) {a : GPULabel} (ha : a ∈ gpuMandatoryLables)
    : (sources.labels config gpu).lookup (lowerName a)
        = ((initCustomLabels disallowedLabels config.customLabels).lookup (lowerName a)).or
          (((normalizeExtraPodLabels config.extraPodLabels).lookup (lowerName a)).map
            (getString (sources.podLabels gpu)) |>.or (some (sources.value gpu a))) := by
  have h := sources.configured_labelClient config
  rw [labels, lookup_populateLabelsFromGPU _ h, h.lookup_populateEnabled _ (Or.inl ha)]
  rfl

theorem lookup_withoutUserLabels (gpu : GPU) {a : GPULabel} (ha : a ∈ gpuMandatoryLables)
    : (sources.labels (withoutUserLabels config) gpu).lookup (lowerName a)
        = some (sources.value gpu a) := by
  rw [lookup_labels _ _ gpu ha]
  rfl

end LabelSources

section Unchanged

variable (config : MetricConfig)

/--
In every order in which the maps of the configuration are visited, the mandatory labels have the values
that they have without custom labels and pod labels.
-/
def MandatoryUnchanged : Prop :=
  ∀ config', config.Reorders config' → ∀ (sources : LabelSources) (gpu : GPU),
    ∀ a ∈ gpuMandatoryLables, (sources.labels config' gpu).lookup (lowerName a)
      = (sources.labels (withoutUserLabels config) gpu).lookup (lowerName a)

def IndexesDistinguished : Prop :=
  ∀ config', config.Reorders config' → ∀ (sources : LabelSources) (gpu gpu' : GPU),
    gpu.status.index ≠ gpu'.status.index →
      ∃ k, (sources.labels config' gpu).lookup k ≠ (sources.labels config' gpu').lookup k

/--
No key of the two maps is, in lower case, the name of a mandatory label. Custom labels with the name
of a label of the GPU are ignored and may stay.
-/
structure NoneShadowed : Prop where
  custom : ∀ l ∈ config.customLabels, ∀ label, .common label ∈ gpuMandatoryLables →
    toLower l ≠ lowerName (.common label : GPULabel)
  pod : ∀ l ∈ config.extraPodLabels, ∀ a ∈ gpuMandatoryLables, toLower l ≠ lowerName a

variable {config}

theorem toLower_mem_disallowedLabels (label : GPUMetricLabel)
    : lowerName (.device label : GPULabel) ∈ disallowedLabels := by
  have hlower : lowerName (.device label : GPULabel) = toLower (ProtoEnum.name label) := by
    rw [toLower_eq_of_ascii]
    . rfl
    . cases label <;> decide
  rw [hlower, disallowedLabels]
  apply List.mem_map_of_mem
  rw [List.mem_filter]
  refine ⟨ProtoEnum.name_mem_names label, ?_⟩
  cases label <;> decide

theorem lowerName_common_not_mem (label : MetricLabel)
    : lowerName (.common label : GPULabel) ∉ disallowedLabels := by
  intro h
  rcases List.mem_map.mp h with ⟨name, hname, hlower⟩
  rcases ProtoEnum.mem_names.mp (List.mem_of_mem_filter hname) with ⟨device, rfl⟩
  have heq : lowerName (.device device : GPULabel) = lowerName (.common label : GPULabel) := by
    rw [← hlower, toLower_eq_of_ascii]
    . rfl
    . cases device <;> decide
  cases lowerName_injective heq

omit [CaseMap] in
theorem mem_of_perm {m m' : GoMap String String} (h : m'.entries.Perm m.entries) {k : String}
    : k ∈ m' ↔ k ∈ m := by
  simp only [GoMap.mem_iff_entries, h.mem_iff]

variable (config) in
theorem lookup_custom_device (label : GPUMetricLabel)
    : (initCustomLabels disallowedLabels config.customLabels).lookup
        (lowerName (.device label : GPULabel)) = none := by
  rw [AList.lookup_eq_none, mem_initCustomLabels]
  intro hmem
  have hallowed := (List.mem_filter.mp (List.mem_of_mem_take hmem)).2
  simp [toLower_mem_disallowedLabels] at hallowed

theorem lookup_custom_eq_none
    (hcustom : ∀ l ∈ config.customLabels, ∀ label, .common label ∈ gpuMandatoryLables →
      toLower l ≠ lowerName (.common label : GPULabel))
    {config' : MetricConfig} (horder : config.Reorders config') {a : GPULabel}
    (ha : a ∈ gpuMandatoryLables)
    : (initCustomLabels disallowedLabels config'.customLabels).lookup (lowerName a) = none := by
  cases a with
  | device label => apply lookup_custom_device
  | common label =>
    rw [AList.lookup_eq_none, mem_initCustomLabels]
    intro hmem
    have hkey := List.mem_of_mem_filter (List.mem_of_mem_take hmem)
    rcases List.mem_map.mp hkey with ⟨l, hl, hlower⟩
    exact hcustom l ((mem_of_perm horder.customLabels).mp hl) label ha hlower

theorem lookup_pod_eq_none {k : String} (hpod : ∀ l ∈ config.extraPodLabels, toLower l ≠ k)
    {config' : MetricConfig} (horder : config.Reorders config')
    : (normalizeExtraPodLabels config'.extraPodLabels).lookup k = none := by
  rw [AList.lookup_eq_none, mem_normalizeExtraPodLabels]
  intro hmem
  rcases List.mem_map.mp hmem with ⟨l, hl, hlower⟩
  exact hpod l ((mem_of_perm horder.extraPodLabels).mp (List.mem_of_mem_take hl)) hlower

theorem NoneShadowed.mandatoryUnchanged (h : NoneShadowed config) : MandatoryUnchanged config := by
  intro config' horder sources gpu a ha
  rw [sources.lookup_labels _ gpu ha, sources.lookup_withoutUserLabels _ gpu ha,
    lookup_custom_eq_none h.custom horder ha,
    lookup_pod_eq_none (fun l hl => h.pod l hl a ha) horder]
  rfl

theorem indexesDistinguished (hpod : ∀ l ∈ config.extraPodLabels, toLower l ≠ "gpu_id")
    : IndexesDistinguished config := by
  intro config' horder sources gpu gpu' hindex
  have hmandatory : (.device .GPU_ID : GPULabel) ∈ gpuMandatoryLables := by decide
  have hname : lowerName (.device .GPU_ID : GPULabel) = "gpu_id" := by decide
  refine ⟨lowerName (.device .GPU_ID : GPULabel), ?_⟩
  rw [sources.lookup_labels _ gpu hmandatory, sources.lookup_labels _ gpu' hmandatory,
    lookup_custom_device, hname, lookup_pod_eq_none hpod horder]
  intro hsame
  apply hindex
  exact getGPUInstanceIDString_inj (Option.some.inj hsame)

end Unchanged

section Shadowed

/--
A GPU with a pod and a job, whose mandatory labels that are not about the GPU have the value `s`.
-/
def ownedSources (s : String) : LabelSources where
  ga :=
    { client := newGPUAgentGPUClient ∅
      k8PodInfoMap := ∅
      staticHostLabels := AList.singleton "HOSTNAME" s }
  client :=
    { newGPUAgentGPUClient ∅ with
      gpuIDMap := AList.singleton "0" ⟨"0", "0", "0", "128", "0000:01:00.0", "", "", ""⟩ }
  k8PodInfoMap := ∅
  wls := (AList.singleton "0" (.slurm ⟨s, s, s, s⟩)).insert "0000:01:00.0" (.kubernetes ⟨s, s, s⟩)
  partitionMap := ∅

def ownedGPU (s : String) : GPU where
  spec := { id := [] }
  status :=
    { index := 0
      serialNum := s
      cardSeries := s
      cardModel := s }
  stats := none

omit [CaseMap] in
theorem owners_ownedSources (s : String)
    : workloadOwners ((ownedSources s).client.getWorkloadInfo (ownedSources s).wls
        (getGPUInstanceIDString (ownedGPU s))) = (⟨s, s, s⟩, ⟨s, s, s, s⟩) := by
  have hid : getGPUInstanceIDString (ownedGPU s) = "0" := by
    have hzero : (0 : UInt32).toNat.repr = "0" := by decide
    exact hzero
  rw [hid]
  rfl

theorem value_eq_labelOfGPU (s : String) (a : GPULabel)
    : (ownedSources s).value (ownedGPU s) a
        = ((ownedSources s).labelClient {}).labelOfGPU ⟨s, s, s⟩ ⟨s, s, s, s⟩ (ownedGPU s) none a := by
  have hclient : ((ownedSources s).labelClient {}).client = (ownedSources s).client := rfl
  rw [LabelSources.value, gpuLabel, hclient, owners_ownedSources]
  rfl

theorem value_ownedSources (s : String) {label : MetricLabel}
    (hlabel : .common label ∈ gpuMandatoryLables)
    : (ownedSources s).value (ownedGPU s) (.common label) = s := by
  have hmodel : (if s = "" then s else s) = s := by simp
  rw [value_eq_labelOfGPU]
  revert hlabel
  cases label with
  | HOSTNAME | SERIAL_NUMBER | POD | NAMESPACE | CONTAINER | JOB_ID | JOB_USER | JOB_PARTITION =>
    intro _
    rfl
  | CARD_MODEL =>
    intro _
    exact hmodel
  | CLUSTER_NAME | CARD_SERIES | CARD_VENDOR | DRIVER_VERSION | VBIOS_VERSION | POD_UUID =>
    intro hlabel
    simp [gpuMandatoryLables] at hlabel

theorem normalizeStringWithoutPrefix_ne_empty {str trimmed : String}
    (htrim : String.ofList ((str.toList.dropPrefix? trimmed.toList).getD str.toList) = "NONE")
    : normalizeStringWithoutPrefix str trimmed ≠ "" := by
  rw [normalizeStringWithoutPrefix, htrim, toLower_eq_of_ascii]
  . decide
  . decide

theorem virtualizationModeToDeploymentMode_ne_empty (virtualizationMode : String)
    : virtualizationModeToDeploymentMode virtualizationMode ≠ "" := by
  simp only [virtualizationModeToDeploymentMode]
  split
  . decide
  . split
    . decide
    . split
      . decide
      . split
        . decide
        . decide

theorem value_ne_empty {s : String} (hs : s ≠ "") {a : GPULabel} (ha : a ∈ gpuMandatoryLables)
    : (ownedSources s).value (ownedGPU s) a ≠ "" := by
  cases a with
  | common label =>
    rw [value_ownedSources s ha]
    exact hs
  | device label =>
    have hzero : (0 : UInt32).toNat.repr ≠ "" := by decide
    rw [value_eq_labelOfGPU]
    cases label with
    | GPU_ID | GPU_PARTITION_ID => exact hzero
    | GPU_COMPUTE_PARTITION_TYPE =>
      simp only [labelOfGPU, Option.getD_none, ownedGPU, GPUComputePartitionType.toString]
      apply normalizeStringWithoutPrefix_ne_empty
      decide
    | GPU_MEMORY_PARTITION_TYPE =>
      simp only [labelOfGPU, Option.getD_none, ownedGPU, GPUMemoryPartitionType.toString]
      apply normalizeStringWithoutPrefix_ne_empty
      decide
    | DEPLOYMENT_MODE =>
      simp only [labelOfGPU]
      apply virtualizationModeToDeploymentMode_ne_empty
    | GPU_UUID | KFD_PROCESS_ID => simp [gpuMandatoryLables] at ha

theorem exists_reorders_custom (config : MetricConfig) {e : Sigma fun _ : String => String}
    (he : e ∈ config.customLabels.entries) (hallowed : toLower e.1 ∉ disallowedLabels)
    : ∃ config', config.Reorders config' ∧
        (initCustomLabels disallowedLabels config'.customLabels).lookup (toLower e.1) = some e.2 := by
  have hmem : e ∈ MetricConfig.customEntries disallowedLabels config.customLabels := by
    rw [MetricConfig.customEntries, List.mem_filter]
    exact ⟨he, by simpa using hallowed⟩
  rcases GoMap.exists_perm_lookup_insertFirst (fun e : Sigma fun _ : String => String => toLower e.1)
    (·.2) 9 hmem with ⟨ys, hperm, hlookup⟩
  rcases GoMap.exists_perm_filter _ config.customLabels hperm with ⟨customLabels, horder, rfl⟩
  refine ⟨{ config with customLabels }, ⟨rfl, horder, .refl _⟩, ?_⟩
  rw [initCustomLabels_eq]
  exact hlookup

theorem exists_reorders_pod (config : MetricConfig) {e : Sigma fun _ : String => String}
    (he : e ∈ config.extraPodLabels.entries)
    : ∃ config', config.Reorders config' ∧
        (normalizeExtraPodLabels config'.extraPodLabels).lookup (toLower e.1) = some e.2 := by
  rcases GoMap.exists_perm_lookup_insertFirst (fun e : Sigma fun _ : String => String => toLower e.1)
    (·.2) 19 he with ⟨ys, hperm, hlookup⟩
  refine ⟨{ config with
    extraPodLabels := ⟨ys, (List.perm_nodupKeys hperm).mpr config.extraPodLabels.nodupKeys⟩ },
    ⟨rfl, .refl _, hperm⟩, ?_⟩
  rw [normalizeExtraPodLabels_eq]
  exact hlookup

theorem MandatoryUnchanged.custom {config : MetricConfig} (h : MandatoryUnchanged config)
    {l : String} (hl : l ∈ config.customLabels) {label : MetricLabel}
    (hlabel : .common label ∈ gpuMandatoryLables)
    : toLower l ≠ lowerName (.common label : GPULabel) := by
  intro hlower
  rcases GoMap.mem_iff_entries.mp hl with ⟨e, he, rfl⟩
  have hallowed := lowerName_common_not_mem label
  rw [← hlower] at hallowed
  rcases exists_reorders_custom config he hallowed with ⟨config', horder, hlookup⟩
  -- the label has the custom value, whatever it should be
  have hvalue (s : String) : e.2 = s := by
    have hsame := h config' horder (ownedSources s) (ownedGPU s) _ hlabel
    rw [LabelSources.lookup_labels _ _ _ hlabel, LabelSources.lookup_withoutUserLabels _ _ _ hlabel,
      ← hlower, hlookup, value_ownedSources s hlabel] at hsame
    exact Option.some.inj hsame
  have := (hvalue "a").symm.trans (hvalue "b")
  revert this
  decide

theorem MandatoryUnchanged.pod {config : MetricConfig} (h : MandatoryUnchanged config)
    {l : String} (hl : l ∈ config.extraPodLabels) {a : GPULabel} (ha : a ∈ gpuMandatoryLables)
    : toLower l ≠ lowerName a := by
  intro hlower
  rcases GoMap.mem_iff_entries.mp hl with ⟨e, he, rfl⟩
  rcases exists_reorders_pod config he with ⟨config', horder, hlookup⟩
  have hsame := h config' horder (ownedSources "a") (ownedGPU "a") a ha
  rw [LabelSources.lookup_labels _ _ _ ha, LabelSources.lookup_withoutUserLabels _ _ _ ha,
    lookup_custom_eq_none (fun l hl label hlabel => h.custom hl hlabel) horder ha, ← hlower, hlookup]
    at hsame
  -- no pod is known, so that the label is empty
  apply value_ne_empty (by decide : "a" ≠ "") ha
  exact (Option.some.inj hsame).symm

def unownedSources : LabelSources where
  ga :=
    { client := newGPUAgentGPUClient ∅
      k8PodInfoMap := ∅
      staticHostLabels := ∅ }
  client := newGPUAgentGPUClient ∅
  k8PodInfoMap := ∅
  wls := ∅
  partitionMap := ∅

theorem gpuLabel_unownedSources (config : MetricConfig) (id : List UInt8) (index index' : UInt32)
    {a : GPULabel} (ha : lowerName a ≠ "gpu_id")
    : (unownedSources.labelClient config).gpuLabel ∅ (idleGPU index id) ∅ a
        = (unownedSources.labelClient config).gpuLabel ∅ (idleGPU index' id) ∅ a := by
  cases a with
  | common label => cases label <;> rfl
  | device label =>
    cases label with
    | GPU_ID => exact absurd (by decide) ha
    | GPU_UUID | GPU_PARTITION_ID | GPU_COMPUTE_PARTITION_TYPE | GPU_MEMORY_PARTITION_TYPE
      | KFD_PROCESS_ID | DEPLOYMENT_MODE => rfl

theorem IndexesDistinguished.pod {config : MetricConfig} (h : IndexesDistinguished config) {l : String}
    (hl : l ∈ config.extraPodLabels) : toLower l ≠ "gpu_id" := by
  intro hlower
  rcases GoMap.mem_iff_entries.mp hl with ⟨e, he, rfl⟩
  rcases exists_reorders_pod config he with ⟨config', horder, hlookup⟩
  rcases h config' horder unownedSources (idleGPU 0 []) (idleGPU 1 []) (by decide) with ⟨k, hk⟩
  have hconfigured := unownedSources.configured_labelClient config'
  apply hk
  simp only [LabelSources.labels]
  rw [lookup_populateLabelsFromGPU _ hconfigured, lookup_populateLabelsFromGPU _ hconfigured]
  by_cases hgpuid : k = "gpu_id"
  . -- no GPU has a pod, all have the same empty label
    have hpod : (unownedSources.labelClient config').extraPodLabelsMap.lookup k = some e.2 := by
      rw [hgpuid, ← hlower]
      exact hlookup
    rw [hpod]
    rfl
  . have hvalues := hconfigured.lookup_populateEnabled_congr fun a ha =>
      gpuLabel_unownedSources config' [] 0 1 (fun hid => hgpuid (ha.symm.trans hid))
    have howners (index : UInt32)
        : (unownedSources.labelClient config').gpuPodLabels ∅ (idleGPU index []) = ∅ := rfl
    simp only [unownedSources] at hvalues howners ⊢
    rw [hvalues, howners, howners]

end Shadowed

section Instances

/--
Exactly for which configurations the mandatory labels are unchanged, and exactly for which two GPUs
with different indexes have different label maps.
-/
theorem userLabels_iff (config : MetricConfig)
    : (MandatoryUnchanged config ↔ NoneShadowed config)
        ∧ (IndexesDistinguished config ↔ ∀ l ∈ config.extraPodLabels, toLower l ≠ "gpu_id") := by
  constructor
  . constructor
    . intro h
      exact ⟨fun l hl label hlabel => h.custom hl hlabel, fun l hl a ha => h.pod hl ha⟩
    . intro h
      exact h.mandatoryUnchanged
  . constructor
    . intro h l hl
      exact h.pod hl
    . intro h
      exact indexesDistinguished h

omit [CaseMap] in
theorem not_userLabels
    : (¬∀ (_ : CaseMap) (config : MetricConfig), MandatoryUnchanged config)
        ∧ ¬∀ (_ : CaseMap) (config : MetricConfig), IndexesDistinguished config := by
  constructor
  . -- a custom label called like the pod hides the pod
    intro h
    have hpod := h CaseMap.ascii { customLabels := AList.singleton "Pod" "web" } _ (.refl _)
      (@ownedSources "train-0") (ownedGPU "train-0") (.common .POD) (by decide)
    revert hpod
    let _ := CaseMap.ascii
    decide
  . -- a pod label called like the index of the GPU is the same on all GPUs without a pod
    intro h
    let _ := CaseMap.ascii
    let config : MetricConfig := { extraPodLabels := AList.singleton "gpu_id" "app" }
    let gpu := idleGPU 0 (List.replicate 16 1)
    let gpu' := idleGPU 1 (List.replicate 16 2)
    have hlabels : unownedSources.labels config gpu = unownedSources.labels config gpu' := by
      decide +kernel
    rcases h CaseMap.ascii config _ (.refl _) unownedSources gpu gpu' (by decide) with ⟨k, hk⟩
    apply hk
    rw [hlabels]

end Instances

end GPULabelClient

end GPUAgent
