import DeviceMetricsExporter.Exporter.Lemmas.Reload
import DeviceMetricsExporter.GPUAgent.Impl.Configs

/-!
This module contains what a GPU client is configured to after any sequence of configurations, compared
with a new client that loads the last one only.
-/

namespace GPUAgent

open Exporter

theorem podUUIDOptional_gpu : PodUUIDOptional gpuMandatoryLables fun _ => true where
  exists_label := ⟨.common .POD_UUID, rfl, by decide⟩
  allowed := rfl

structure GPUMetricConfig.Reorders (config config' : GPUMetricConfig) : Prop where
  toMetricConfig : MetricConfig.Reorders config.toMetricConfig config'.toMetricConfig
  selector : config'.selector = config.selector
  fields : config'.fields = config.fields
  profilerMetrics : config'.profilerMetrics = config.profilerMetrics

def selectedGPUs (config : Option GPUMetricConfig) : List Int :=
  match config with
  | none => []
  | some config =>
    match rangeStrToIntIndices config.selector with
    | some (indices, none) => indices
    | _ => []

def labelConfigOf (config : Option GPUMetricConfig) : Option MetricConfig :=
  config.map (·.toMetricConfig)

structure SameGPUConfigs (s s' : GPUConfigs) : Prop where
  labels : SameLabelConfig s.toLabelConfig s'.toLabelConfig
  exportFieldMap : ∀ k, s.exportFieldMap.lookup k = s'.exportFieldMap.lookup k
  podInfoEnabled : s.podInfoEnabled = s'.podInfoEnabled
  gpuSelectorMap : ∀ i, s.gpuSelectorMap.lookup i = s'.gpuSelectorMap.lookup i
  exportedGPUs : ∀ i, s.exporterEnabledGPU i = s'.exporterEnabledGPU i

section Reorders

theorem initGPUSelectorConfig_eq_some {gpuSelectorMap gpuSelectorMap' : GoMap Int Bool}
    {config : Option GPUMetricConfig}
    (h : initGPUSelectorConfig gpuSelectorMap config = some gpuSelectorMap')
    : gpuSelectorMap' = gpuSelectorMap.setAll (selectedGPUs config) true := by
  unfold initGPUSelectorConfig at h
  unfold selectedGPUs
  cases config with
  | none =>
    cases h
    rfl
  | some config =>
    dsimp only at h ⊢
    split at h
    . next hempty =>
      cases h
      rw [hempty]
      rfl
    . split at h
      . cases h
      . next hparse =>
        cases h
        rw [hparse]
        rfl
      . next hparse =>
        cases h
        rw [hparse]

theorem isSome_initGPUSelectorConfig {config config' : Option GPUMetricConfig}
    (h : Option.Rel GPUMetricConfig.Reorders config config') (m m' : GoMap Int Bool)
    : (initGPUSelectorConfig m config).isSome = (initGPUSelectorConfig m' config').isSome := by
  cases h with
  | none => rfl
  | some h =>
    simp only [initGPUSelectorConfig, h.selector]
    split
    . rfl
    . split
      . rfl
      . rfl
      . rfl

theorem selectedGPUs_eq_of_rel {config config' : Option GPUMetricConfig}
    (h : Option.Rel GPUMetricConfig.Reorders config config')
    : selectedGPUs config' = selectedGPUs config := by
  cases h with
  | none => rfl
  | some h => simp only [selectedGPUs, h.selector]

theorem rel_refl (config : Option GPUMetricConfig)
    : Option.Rel GPUMetricConfig.Reorders config config := by
  cases config with
  | none => exact .none
  | some config => exact .some ⟨.refl config.toMetricConfig, rfl, rfl, rfl⟩

theorem rel_labelConfigOf {config config' : Option GPUMetricConfig}
    (h : Option.Rel GPUMetricConfig.Reorders config config')
    : Option.Rel MetricConfig.Reorders (labelConfigOf config) (labelConfigOf config') := by
  cases h with
  | none => exact .none
  | some h => exact .some h.toMetricConfig

theorem exists_rel_of_labelConfigOf {config : Option GPUMetricConfig}
    {metricConfig' : Option MetricConfig}
    (h : Option.Rel MetricConfig.Reorders (labelConfigOf config) metricConfig')
    : ∃ config', Option.Rel GPUMetricConfig.Reorders config config'
        ∧ labelConfigOf config' = metricConfig' := by
  cases config with
  | none =>
    cases h
    exact ⟨none, .none, rfl⟩
  | some config =>
    cases h with
    | some h => exact ⟨some { config with toMetricConfig := _ }, .some ⟨h, rfl, rfl, rfl⟩, rfl⟩

end Reorders

section Load

variable [CaseMap] {handler : GPUHandler} {s s' : GPUConfigs} {config : Option GPUMetricConfig}

/--
`s` is configured as a new client that loads `config`, in any order of its maps.
-/
def HistoryIndependent (handler : GPUHandler) (s : GPUConfigs) (config : Option GPUMetricConfig)
    : Prop :=
  ∀ config', Option.Rel GPUMetricConfig.Reorders config config' →
    ∃ s', (newGPUConfigs handler).initConfigs handler config' = some s' ∧ SameGPUConfigs s s'

def exportFieldsOf (handler : GPUHandler) (isDisabledOnFailure : Bool)
    (config : Option GPUMetricConfig) : GoMap String Bool :=
  if handler.enableGPUMonitoring && initProfilerMetrics handler.hostName config
      && !isDisabledOnFailure then
    initFieldConfig config
  else
    profilerFields.foldl disableField (initFieldConfig config)

/--
What one `InitConfigs` computes from the configuration and what it keeps.
-/
structure Loads (handler : GPUHandler) (s : GPUConfigs) (config : Option GPUMetricConfig)
    (s' : GPUConfigs) : Prop where
  labels : s'.toLabelConfig =
    Exporter.initConfigs gpuMandatoryLables (fun _ => true) GPULabelClient.disallowedLabels
      s.toLabelConfig (labelConfigOf config)
  podInfoEnabled : s'.podInfoEnabled =
    initPodInfo (Exporter.initConfigs gpuMandatoryLables (fun _ => true)
      GPULabelClient.disallowedLabels s.toLabelConfig (labelConfigOf config)) (labelConfigOf config)
      s.podInfoEnabled
  exportFieldMap : s'.exportFieldMap = exportFieldsOf handler s.isDisabledOnFailure config
  gpuSelectorMap : s'.gpuSelectorMap = s.gpuSelectorMap.setAll (selectedGPUs config) true
  isDisabledOnFailure : s'.isDisabledOnFailure = s.isDisabledOnFailure

theorem initConfigs_loads (h : s.initConfigs handler config = some s')
    : Loads handler s config s' := by
  unfold GPUConfigs.initConfigs at h
  dsimp only at h
  split at h
  . cases h
  . next gpuSelectorMap hselector =>
    cases h
    have hmap := initGPUSelectorConfig_eq_some hselector
    unfold GPUConfigs.initProfilerMetricsField
    split
    . next henabled =>
      refine ⟨rfl, rfl, ?_, hmap, rfl⟩
      unfold GPUConfigs.isProfilerEnabled at henabled
      rw [exportFieldsOf, if_pos henabled]
    . next henabled =>
      refine ⟨rfl, rfl, ?_, hmap, rfl⟩
      unfold GPUConfigs.isProfilerEnabled at henabled
      rw [exportFieldsOf, if_neg henabled]

theorem exists_initConfigs_eq_some {config' : Option GPUMetricConfig}
    (h : s.initConfigs handler config = some s')
    (hrel : Option.Rel GPUMetricConfig.Reorders config config') (t : GPUConfigs)
    : ∃ t', t.initConfigs handler config' = some t' := by
  have hsome := isSome_initGPUSelectorConfig hrel s.gpuSelectorMap t.gpuSelectorMap
  unfold GPUConfigs.initConfigs at h ⊢
  dsimp only at h ⊢
  split at h
  . cases h
  . next hselector =>
    rw [hselector, Option.isSome_some] at hsome
    rcases Option.isSome_iff_exists.mp hsome.symm with ⟨m, hm⟩
    rw [hm]
    exact ⟨_, rfl⟩

structure GPULoaded (configs : List (Option GPUMetricConfig)) (s : GPUConfigs) : Prop where
  podInfo : PodInfoLoaded (configs.map labelConfigOf) s.toLabelConfig s.podInfoEnabled
  selected : ∀ i, s.gpuSelectorMap.lookup i
    = if i ∈ configs.flatMap selectedGPUs then some true else none
  isDisabledOnFailure : s.isDisabledOnFailure = false

theorem gpuLoaded_nil (handler : GPUHandler) : GPULoaded [] (newGPUConfigs handler) where
  podInfo := podInfoLoaded_nil
  selected _ := rfl
  isDisabledOnFailure := rfl

theorem GPULoaded.step {configs : List (Option GPUMetricConfig)} (hloaded : GPULoaded configs s)
    (hloads : Loads handler s config s') : GPULoaded (configs ++ [config]) s' where
  podInfo := by
    rw [List.map_append, hloads.labels, hloads.podInfoEnabled]
    exact hloaded.podInfo.initConfigs podUUIDOptional_gpu (labelConfigOf config)
  selected i := by
    rw [hloads.gpuSelectorMap, GoMap.lookup_setAll, hloaded.selected, List.flatMap_append,
      List.flatMap_singleton]
    by_cases hlast : i ∈ selectedGPUs config
    . simp [hlast]
    . simp [hlast]
  isDisabledOnFailure := hloads.isDisabledOnFailure.trans hloaded.isDisabledOnFailure

theorem gpuLoaded_of_exec {configs : List (Option GPUMetricConfig)}
    (hexec : (gpuConfigSystem handler).exec configs (newGPUConfigs handler) = some s)
    : GPULoaded configs s := by
  refine (gpuConfigSystem handler).exec_history (fun configs s config s' hloaded _ hstep => ?_)
    configs [] (newGPUConfigs handler) s (gpuLoaded_nil handler)
    ((gpuConfigSystem handler).respects_true configs _) hexec
  exact hloaded.step (initConfigs_loads hstep)

end Load

theorem exporterEnabledGPU_congr {s s' : GPUConfigs}
    (h : ∀ i, s.gpuSelectorMap.lookup i = s'.gpuSelectorMap.lookup i) (i : Int)
    : s.exporterEnabledGPU i = s'.exporterEnabledGPU i := by
  have hempty : s.gpuSelectorMap.entries.isEmpty = s'.gpuSelectorMap.entries.isEmpty := by
    rw [Bool.eq_iff_iff, List.isEmpty_iff, List.isEmpty_iff, GoMap.entries_eq_nil_iff,
      GoMap.entries_eq_nil_iff]
    simp only [h]
  rw [GPUConfigs.exporterEnabledGPU, GPUConfigs.exporterEnabledGPU, hempty, h]

section Reload

variable [CaseMap] {handler : GPUHandler} {s t : GPUConfigs}
  {configs : List (Option GPUMetricConfig)} {config : Option GPUMetricConfig}

/--
The last configuration selects every GPU and enables the pod information that one of those before has
selected and enabled, and the order of its maps does not matter.
-/
structure Supersedes (configs : List (Option GPUMetricConfig)) (config : Option GPUMetricConfig)
    : Prop where
  podInfo : ∀ c ∈ configs, enablesPodInfo (labelConfigOf c) = true →
    enablesPodInfo (labelConfigOf config) = true
  selected : ∀ c ∈ configs, ∀ i ∈ selectedGPUs c, i ∈ selectedGPUs config
  unordered : ∀ c ∈ config, c.toMetricConfig.Unordered GPULabelClient.disallowedLabels

theorem exportFieldsOf_eq_of_rel {config' : Option GPUMetricConfig}
    (h : Option.Rel GPUMetricConfig.Reorders config config') (isDisabledOnFailure : Bool)
    : exportFieldsOf handler isDisabledOnFailure config'
        = exportFieldsOf handler isDisabledOnFailure config := by
  cases h with
  | none => rfl
  | @some config config' h =>
    have hprofiler : initProfilerMetrics handler.hostName (some config')
        = initProfilerMetrics handler.hostName (some config) := by
      simp only [initProfilerMetrics, Option.elim_some, h.profilerMetrics]
    have hfields : initFieldConfig (some config') = initFieldConfig (some config) := by
      simp only [initFieldConfig, Option.elim_some, h.fields]
    rw [exportFieldsOf, exportFieldsOf, hprofiler, hfields]

/--
The client that has loaded `configs` and then `config` and the new one that has loaded `config'`, which
is `config` in another order, differ at most in the labels, the flag and the selected GPUs.
-/
theorem sameGPUConfigs_iff {config' : Option GPUMetricConfig} {s' : GPUConfigs}
    (hloaded : GPULoaded configs t) (hloads : Loads handler t config s)
    (hrel : Option.Rel GPUMetricConfig.Reorders config config')
    (hloads' : Loads handler (newGPUConfigs handler) config' s')
    : SameGPUConfigs s s' ↔
        (SameLabelConfig s.toLabelConfig s'.toLabelConfig ∧ s.podInfoEnabled = s'.podInfoEnabled)
          ∧ ∀ c ∈ configs, ∀ i ∈ selectedGPUs c, i ∈ selectedGPUs config := by
  have hlookup (i : Int) : s.gpuSelectorMap.lookup i
      = if i ∈ configs.flatMap selectedGPUs ∨ i ∈ selectedGPUs config then some true else none := by
    rw [(hloaded.step hloads).selected]
    simp
  have hlookup' (i : Int) : s'.gpuSelectorMap.lookup i
      = if i ∈ selectedGPUs config then some true else none := by
    rw [((gpuLoaded_nil handler).step hloads').selected]
    simp [selectedGPUs_eq_of_rel hrel]
  constructor
  . intro h
    refine ⟨⟨h.labels, h.podInfoEnabled⟩, fun c hc i hi => ?_⟩
    have hmem : i ∈ configs.flatMap selectedGPUs := List.mem_flatMap.mpr ⟨c, hc, hi⟩
    have hsame := h.gpuSelectorMap i
    rw [hlookup, hlookup', if_pos (.inl hmem)] at hsame
    by_contra hlast
    rw [if_neg hlast] at hsame
    cases hsame
  . rintro ⟨⟨hlabels, hpodInfo⟩, hselected⟩
    have hsame (i : Int) : s.gpuSelectorMap.lookup i = s'.gpuSelectorMap.lookup i := by
      have himp : i ∈ configs.flatMap selectedGPUs → i ∈ selectedGPUs config := by
        rw [List.mem_flatMap]
        rintro ⟨c, hc, hi⟩
        exact hselected c hc i hi
      rw [hlookup, hlookup']
      simp only [or_iff_right_of_imp himp]
    refine ⟨hlabels, fun k => ?_, hpodInfo, hsame, exporterEnabledGPU_congr hsame⟩
    rw [hloads.exportFieldMap, hloads'.exportFieldMap, hloaded.isDisabledOnFailure,
      exportFieldsOf_eq_of_rel hrel]
    rfl

theorem gpu_historyIndependent_iff
    (hexec : (gpuConfigSystem handler).exec (configs ++ [config]) (newGPUConfigs handler) = some s)
    : HistoryIndependent handler s config ↔ Supersedes configs config := by
  rcases ((gpuConfigSystem handler).exec_concat_eq_some).mp hexec with ⟨t, hbefore, hstep⟩
  have hloaded := gpuLoaded_of_exec hbefore
  have hloads := initConfigs_loads hstep
  have hreload : LabelReload gpuMandatoryLables (fun _ => true) GPULabelClient.disallowedLabels
      t.toLabelConfig t.podInfoEnabled (labelConfigOf config) ↔ _ :=
    labelReload_iff podUUIDOptional_gpu hloaded.podInfo (labelConfigOf config)
  have hany : ((configs.map labelConfigOf).any enablesPodInfo = true →
      enablesPodInfo (labelConfigOf config) = true) ↔
        ∀ c ∈ configs, enablesPodInfo (labelConfigOf c) = true →
          enablesPodInfo (labelConfigOf config) = true := by
    simp
  have hunordered : (∀ c ∈ labelConfigOf config, c.Unordered GPULabelClient.disallowedLabels) ↔
      ∀ c ∈ config, c.toMetricConfig.Unordered GPULabelClient.disallowedLabels := by
    simp [labelConfigOf]
  rw [hany, hunordered] at hreload
  constructor
  . intro h
    have hlabels : LabelReload gpuMandatoryLables (fun _ => true) GPULabelClient.disallowedLabels
        t.toLabelConfig t.podInfoEnabled (labelConfigOf config) := by
      intro metricConfig' hrel'
      rcases exists_rel_of_labelConfigOf hrel' with ⟨config', hrel, rfl⟩
      rcases h config' hrel with ⟨s', hs', hsame⟩
      have hloads' := initConfigs_loads hs'
      have hconj := ((sameGPUConfigs_iff hloaded hloads hrel hloads').mp hsame).1
      rwa [hloads.labels, hloads.podInfoEnabled, hloads'.labels, hloads'.podInfoEnabled] at hconj
    rcases hreload.mp hlabels with ⟨hpodInfo, hunordered⟩
    rcases h config (rel_refl config) with ⟨s', hs', hsame⟩
    have hselected :=
      ((sameGPUConfigs_iff hloaded hloads (rel_refl config) (initConfigs_loads hs')).mp hsame).2
    exact ⟨hpodInfo, hselected, hunordered⟩
  . intro h config' hrel
    rcases exists_initConfigs_eq_some hstep hrel (newGPUConfigs handler) with ⟨s', hs'⟩
    have hloads' := initConfigs_loads hs'
    refine ⟨s', hs', (sameGPUConfigs_iff hloaded hloads hrel hloads').mpr ⟨?_, h.selected⟩⟩
    rw [hloads.labels, hloads.podInfoEnabled, hloads'.labels, hloads'.podInfoEnabled]
    exact hreload.mpr ⟨h.podInfo, h.unordered⟩ (labelConfigOf config') (rel_labelConfigOf hrel)

end Reload

end GPUAgent
