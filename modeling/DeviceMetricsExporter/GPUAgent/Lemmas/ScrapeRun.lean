import DeviceMetricsExporter.GPUAgent.Lemmas.Agreement
import DeviceMetricsExporter.GPUAgent.Lemmas.Entries
import DeviceMetricsExporter.GPUAgent.Lemmas.Reload

/-!
This module contains the runs of the GPU client: when a run panics, and what the metrics hold after a
scrape, whatever has happened before it.
-/

namespace GPUAgent

open Exporter

@[reducible]
def FloatOps.truncate : FloatOps where
  toUint32 x := UInt32.ofNat ⌊x⌋₊
  toUint64 x := UInt64.ofNat ⌊x⌋₊
  div x y := x / y
  toUint32_eq x hx hlt := by
    have hfloor : ⌊x⌋₊ < 2 ^ 32 := (Nat.floor_lt hx).mpr (by exact_mod_cast hlt)
    simpa using Nat.mod_eq_of_lt hfloor
  toUint64_eq x hx hlt := by
    have hfloor : ⌊x⌋₊ < 2 ^ 64 := (Nat.floor_lt hx).mpr (by exact_mod_cast hlt)
    simpa using Nat.mod_eq_of_lt hfloor

/--
The configuration is read to its end, and its labels do not clash with each other.
-/
structure Loadable [CaseMap] (config : Option GPUMetricConfig) : Prop where
  selector : (initGPUSelectorConfig ∅ config).isSome = true
  noClash : ∀ c ∈ config, GPULabelClient.NoClash c.toMetricConfig

def AvoidsPods [CaseMap] (avoid : List String) (config : Option GPUMetricConfig) : Prop :=
  ∀ c ∈ config, ∀ k ∈ avoid, k ∉ acceptedPodLabels c.toMetricConfig

namespace GPUMetricsClient

variable [CaseMap]

/--
The pod labels that a client without a configuration keeps.
-/
structure KeptPods (avoid pod : List String) (ga : GPUMetricsClient) : Prop where
  mem_iff : ∀ k, k ∈ ga.configs.extraPodLabelsMap ↔ k ∈ pod
  lower : ∀ k ∈ pod, toLower k = k
  index : ∀ (index : IndexLabels), ∀ name ∈ index.names, name ∉ pod
  avoids : ∀ k ∈ avoid, k ∉ pod

structure Loaded (avoid : List String) (ga : GPUMetricsClient) : Prop where
  exists_ready : ∃ on pod custom, Ready on pod custom ga ∧ (∀ k ∈ avoid, k ∉ pod)
    ∧ ∀ k ∈ custom, k ∉ GPULabelClient.disallowedLabels

section InitConfigs

variable {handler : GPUHandler} {config : Option GPUMetricConfig} {avoid : List String}
  {ga : GPUMetricsClient}

theorem keptPods_newGPUMetricsClient (handler : GPUHandler) (client : GPUAgentGPUClient)
    (hostLabels : GoMap String String) (avoid : List String)
    : KeptPods avoid [] (newGPUMetricsClient handler client hostLabels) where
  mem_iff k := by
    simp only [List.not_mem_nil, iff_false]
    exact AList.notMem_empty k
  lower := by simp
  index := by simp
  avoids := by simp

theorem Ready.keptPods {on : GPULabel → Prop} {pod custom : List String}
    (h : Ready on pod custom ga) (havoid : ∀ k ∈ avoid, k ∉ pod) : KeptPods avoid pod ga where
  mem_iff := h.configured.mem_extraPodLabelsMap
  lower := h.configured.lower_pod
  index index name hname := (h.index index name hname).1
  avoids := havoid

theorem exists_initConfigs (hselector : (initGPUSelectorConfig ∅ config).isSome = true)
    : ∃ configs, ga.configs.initConfigs handler config = some configs
        ∧ Loads handler ga.configs config configs := by
  have hsome : (initGPUSelectorConfig ga.configs.gpuSelectorMap config).isSome = true := by
    rw [isSome_initGPUSelectorConfig (rel_refl config) _ ∅, hselector]
  rcases Option.isSome_iff_exists.mp hsome with ⟨m, hm⟩
  have hinit : (ga.configs.initConfigs handler config).isSome = true := by
    simp [GPUConfigs.initConfigs, hm]
  rcases Option.isSome_iff_exists.mp hinit with ⟨configs, hconfigs⟩
  exact ⟨configs, hconfigs, initConfigs_loads hconfigs⟩

theorem not_mem_disallowedLabels_of_accepted {config : MetricConfig} {k : String}
    (h : k ∈ acceptedCustomLabels GPULabelClient.disallowedLabels config)
    : k ∉ GPULabelClient.disallowedLabels := by
  have hkey := (List.mem_filter.mp (List.mem_of_mem_take h)).2
  simpa using hkey

theorem loaded_initConfigs {pod : List String} (hpods : KeptPods avoid pod ga)
    (hload : Loadable config) (havoid : AvoidsPods avoid config)
    : ∃ ga', ga.initConfigs handler config = some ga' ∧ Loaded avoid ga' := by
  have hinit : ∃ configs, ga.configs.initConfigs handler config = some configs
      ∧ Loads handler ga.configs config configs := exists_initConfigs hload.selector
  rcases hinit with ⟨configs, hconfigs, hloads⟩
  refine ⟨_, by rw [initConfigs, hconfigs, Option.map_some], ?_⟩
  cases config with
  | some c =>
    have hclash := hload.noClash c rfl
    refine ⟨LabelOn gpuMandatoryLables (fun _ => true) c.toMetricConfig, _, _,
      ⟨?_, fun a ha => Or.inl ha, rfl, hclash.hostname, hclash.index⟩, havoid c rfl,
      fun k hk => not_mem_disallowedLabels_of_accepted hk⟩
    rw [hloads.labels]
    exact configured_initConfigs _ _ _ _ _
  | none =>
    have hempty := configured_initConfigs gpuMandatoryLables (fun _ => true)
      GPULabelClient.disallowedLabels ga.configs.toLabelConfig {}
    refine ⟨LabelOn gpuMandatoryLables (fun _ => true) {}, pod, [],
      ⟨?_, fun a ha => Or.inl ha, rfl, by simp, ?_⟩, hpods.avoids, by simp⟩
    . rw [hloads.labels]
      exact
        { lookup_exportLabels := hempty.lookup_exportLabels
          mem_extraPodLabelsMap := hpods.mem_iff
          mem_customLabelMap := hempty.mem_customLabelMap
          lower_pod := hpods.lower
          lower_custom := by simp }
    . intro index name hname
      exact ⟨hpods.index index name hname, by simp⟩

end InitConfigs

variable [FloatOps] {handler : GPUHandler} {avoid : List String} {ga : GPUMetricsClient}

section Passes

variable {on : GPULabel → Prop} {pod custom : List String} (h : Ready on pod custom ga)
  (data : ScrapeData) (cperEntryMap : GoMap String Amdgpu.CPEREntry)

include h

theorem foldlM_updateGPU_eq_none (partitionMap : GoMap String GPU) {gpus : List Amdgpu.GPU}
    (hgpus : ¬ga.Complete gpus)
    : gpus.foldlM (fun ga gpu => ga.updateGPU handler data partitionMap cperEntryMap gpu) ga = none := by
  induction gpus generalizing ga with
  | nil => exact absurd (by simp [Complete]) hgpus
  | cons gpu gpus ih =>
    rw [List.foldlM_cons]
    by_cases hstats : ga.configs.exporterEnabledGPU gpu.status.index.toNat = true →
        gpu.stats.isSome = true
    . rw [updateGPU_eq handler data partitionMap cperEntryMap h hstats]
      have hrest : ¬ga.Complete gpus := by
        intro hcomplete
        exact hgpus (List.forall_mem_cons.mpr ⟨hstats, hcomplete⟩)
      exact ih ⟨h.configured, h.mandatory, h.labelNames, h.hostname, h.index⟩ hrest
    . rw [Classical.not_imp, Option.not_isSome_iff_eq_none] at hstats
      simp [updateGPU, updateGPUInfoToMetrics, hstats.1, hstats.2]

theorem updateGPUs_eq_none {gpus : List Amdgpu.GPU} (hgpus : ¬ga.Complete gpus)
    : ga.updateGPUs handler data gpus cperEntryMap = none := by
  have hpass : ga.updateGPUs handler data gpus cperEntryMap
      = (ga.metrics.write
          ⟨.GPU_NODES_TOTAL, (ga.podded data).labelClient.populateLabelsFromGPU ∅ none ∅,
            float64 gpus.length⟩).bind fun metrics =>
        gpus.foldlM
          (fun ga gpu => ga.updateGPU handler data (GPUAgent.partitionMap gpus) cperEntryMap gpu)
          { ga.podded data with metrics } := rfl
  rw [hpass, Option.bind_eq_none_iff]
  intro metrics hmetrics
  have hnames : metrics.labelNames = ga.metrics.labelNames := by
    rw [GaugeStore.write, Option.map_eq_some_iff] at hmetrics
    rcases hmetrics with ⟨values, _, rfl⟩
    rfl
  have h' : Ready on pod custom { ga.podded data with metrics } :=
    ⟨h.configured, h.mandatory, hnames.trans h.labelNames, h.hostname, h.index⟩
  exact foldlM_updateGPU_eq_none h' data cperEntryMap _ hgpus

end Passes

section Steps

/--
What a step needs of the agent: the static pass reads the counters of all GPUs, a scrape those of the
GPUs that are exported.
-/
def HasStats (ga : GPUMetricsClient) : MetricsAction → Prop
  | .initConfigs _ => True
  | .updateStaticMetrics _ data =>
    ∀ resp ∈ data.gpus, resp.apiStatus = 0 → ∀ gpu ∈ resp.response, gpu.stats.isSome = true
  | .updateMetrics data =>
    ∀ resp ∈ data.gpus, resp.apiStatus = 0 → data.cancelled = false → ga.Complete resp.response
  | .setClient _ => True

def Admits (avoid : List String) : MetricsAction → Prop
  | .initConfigs config => Loadable config ∧ AvoidsPods avoid config
  | _ => True

omit [FloatOps] in
theorem Loaded.congr {ga' : GPUMetricsClient} (h : Loaded avoid ga)
    (hconfigs : ga'.configs = ga.configs) (hnames : ga'.metrics.labelNames = ga.metrics.labelNames)
    : Loaded avoid ga' := by
  rcases h.exists_ready with ⟨on, pod, custom, hready, havoid, hcustom⟩
  refine ⟨on, pod, custom, ⟨?_, hready.mandatory, ?_, hready.hostname, hready.index⟩, havoid, hcustom⟩
  . rw [hconfigs]
    exact hready.configured
  . rw [hnames, hready.labelNames, hconfigs]

theorem Loaded.updateGPUs (h : Loaded avoid ga) {data : ScrapeData}
    {cperEntryMap : GoMap String Amdgpu.CPEREntry} {gpus : List Amdgpu.GPU} (hgpus : ga.Complete gpus)
    : ∃ ga', ga.updateGPUs handler data gpus cperEntryMap = some ga' ∧ Loaded avoid ga' := by
  rcases h.exists_ready with ⟨on, pod, custom, hready, havoid, hcustom⟩
  exact ⟨_, updateGPUs_eq handler data cperEntryMap hready hgpus, h.congr rfl rfl⟩

theorem loaded_updateMetrics (h : Loaded avoid ga) {data : ScrapeData}
    (hstats : HasStats ga (.updateMetrics data))
    : ∃ ga', ga.updateMetrics handler data = some ga' ∧ Loaded avoid ga' := by
  have hreset : Loaded avoid { ga with metrics := resetMetrics ga.metrics } := h.congr rfl rfl
  unfold updateMetrics getMetricsAll
  split
  . exact ⟨_, rfl, hreset⟩
  . next resp hresp =>
    split
    . exact ⟨_, rfl, hreset⟩
    . next hok =>
      rw [not_or, not_not, Bool.not_eq_true] at hok
      exact hreset.updateGPUs (hstats resp hresp hok.1 hok.2)

theorem updateMetrics_eq_none (h : Loaded avoid ga) {data : ScrapeData}
    (hstats : ¬HasStats ga (.updateMetrics data)) : ga.updateMetrics handler data = none := by
  simp only [HasStats, Classical.not_forall] at hstats
  rcases hstats with ⟨resp, hresp, hstatus, hcancel, hgpus⟩
  have hreset : Loaded avoid { ga with metrics := resetMetrics ga.metrics } := h.congr rfl rfl
  rcases hreset.exists_ready with ⟨on, pod, custom, hready, -⟩
  have hok : ¬(resp.apiStatus ≠ 0 ∨ data.cancelled = true) := by simp [hstatus, hcancel]
  unfold updateMetrics getMetricsAll
  rw [Option.mem_def.mp hresp]
  simp only [if_neg hok]
  exact updateGPUs_eq_none hready data _ hgpus

def staticData (data : ScrapeData) (resp : Amdgpu.GPUGetResponse) : HealthData where
  wls := data.wls
  gpus := some ⟨resp.apiStatus, resp.response.map Amdgpu.GPU.toAgent⟩
  events := none
  cper := none
  cperErr := false

omit [CaseMap] [FloatOps] in
theorem all_toAgent_isSome {gpus : List Amdgpu.GPU}
    : (gpus.map Amdgpu.GPU.toAgent).all (·.stats.isSome) = true ↔
        ∀ gpu ∈ gpus, gpu.stats.isSome = true := by
  simp [Amdgpu.GPU.toAgent, Amdgpu.GPU.toHealthCLI, HealthCLI.GPU.toAgent]

theorem loaded_updateStaticMetrics (h : Loaded avoid ga) {cfg : HealthConfig} {data : ScrapeData}
    (hstats : HasStats ga (.updateStaticMetrics cfg data))
    : ∃ ga', ga.updateStaticMetrics handler cfg data = some ga' ∧ Loaded avoid ga' := by
  unfold updateStaticMetrics
  split
  . exact ⟨ga, rfl, h⟩
  . next resp hresp =>
    split
    . exact ⟨ga, rfl, h⟩
    . next hstatus =>
      rw [not_not] at hstatus
      have hall := hstats resp hresp hstatus
      have hgpus : (staticData data resp).gpus
          = some ⟨resp.apiStatus, resp.response.map Amdgpu.GPU.toAgent⟩ := rfl
      rcases GPUAgentGPUClient.updateStaticMetrics_of_stats ga.client cfg hgpus hstatus
        (all_toAgent_isSome.mpr hall) with ⟨client, hclient, -⟩
      have hloaded : Loaded avoid { ga with client } := h.congr rfl rfl
      have hcomplete : Complete { ga with client } resp.response := fun gpu hgpu _ => hall gpu hgpu
      have hpass : ∃ ga', { ga with client }.updateGPUs handler data resp.response ∅ = some ga'
          ∧ Loaded avoid ga' := hloaded.updateGPUs hcomplete
      rcases hpass with ⟨ga', hga', hloaded'⟩
      refine ⟨{ ga' with fl := ga'.fl.setFilterDone }, ?_, hloaded'.congr rfl rfl⟩
      simp only [staticData] at hclient
      simp only [hclient, Option.bind_eq_bind, Option.bind_some, hga', Option.pure_def]

theorem updateStaticMetrics_eq_none {cfg : HealthConfig} {data : ScrapeData}
    (hstats : ¬HasStats ga (.updateStaticMetrics cfg data))
    : ga.updateStaticMetrics handler cfg data = none := by
  simp only [HasStats, Classical.not_forall] at hstats
  rcases hstats with ⟨resp, hresp, hstatus, gpu, hgpu, hnone⟩
  have hall : ¬(resp.response.map Amdgpu.GPU.toAgent).all (·.stats.isSome) = true :=
    fun hall => hnone (all_toAgent_isSome.mp hall gpu hgpu)
  unfold updateStaticMetrics
  rw [Option.mem_def.mp hresp]
  simp only [hstatus, ne_eq, not_true_eq_false, if_false, GPUAgentGPUClient.updateStaticMetrics,
    GPUAgentGPUClient.processEccErrorMetrics_eq, hall, Option.bind_eq_bind]
  rfl

theorem loaded_step (a : MetricsAction) (h : Loaded avoid ga) (hadmits : Admits avoid a)
    (hstats : HasStats ga a) : ∃ ga', (metricsSystem handler).step ga a = some ga' ∧ Loaded avoid ga' := by
  cases a with
  | initConfigs config =>
    rcases h.exists_ready with ⟨on, pod, custom, hready, havoid, hcustom⟩
    exact loaded_initConfigs (hready.keptPods havoid) hadmits.1 hadmits.2
  | updateStaticMetrics cfg data => exact loaded_updateStaticMetrics h hstats
  | updateMetrics data => exact loaded_updateMetrics h hstats
  | setClient client => exact ⟨_, rfl, h.congr rfl rfl⟩

theorem step_eq_none (a : MetricsAction) (h : Loaded avoid ga) (hstats : ¬HasStats ga a)
    : (metricsSystem handler).step ga a = none := by
  cases a with
  | initConfigs config => exact absurd trivial hstats
  | updateStaticMetrics cfg data => exact updateStaticMetrics_eq_none hstats
  | updateMetrics data => exact updateMetrics_eq_none h hstats
  | setClient client => exact absurd trivial hstats

theorem configs_updateGPU {data : ScrapeData} {partitionMap : GoMap String GPU}
    {cperEntryMap : GoMap String Amdgpu.CPEREntry} {gpu : Amdgpu.GPU} {ga' : GPUMetricsClient}
    (h : ga.updateGPU handler data partitionMap cperEntryMap gpu = some ga')
    : ga'.configs = ga.configs ∧ ga'.registered = ga.registered := by
  simp only [updateGPU, Option.bind_eq_bind, Option.bind_eq_some_iff, Option.pure_def,
    Option.some.injEq] at h
  rcases h with ⟨ops, _, metrics, _, rfl⟩
  exact ⟨rfl, rfl⟩

theorem kept_updateGPUs {β : Type*} (f : GPUMetricsClient → β) {data : ScrapeData}
    {gpus : List Amdgpu.GPU} {cperEntryMap : GoMap String Amdgpu.CPEREntry} {ga' : GPUMetricsClient}
    (hmetrics : ∀ k8PodInfoMap metrics, f { ga with k8PodInfoMap, metrics } = f ga)
    (hgpu : ∀ partitionMap gpu t t', t.updateGPU handler data partitionMap cperEntryMap gpu = some t' →
      f t' = f t)
    (h : ga.updateGPUs handler data gpus cperEntryMap = some ga') : f ga' = f ga := by
  have hfold (partitionMap : GoMap String GPU) (gpus : List Amdgpu.GPU) (t t' : GPUMetricsClient)
      (h : gpus.foldlM (fun ga gpu => ga.updateGPU handler data partitionMap cperEntryMap gpu) t
        = some t') : f t' = f t := by
    induction gpus generalizing t with
    | nil =>
      cases h
      rfl
    | cons gpu gpus ih =>
      rw [List.foldlM_cons, Option.bind_eq_bind, Option.bind_eq_some_iff] at h
      rcases h with ⟨u, hu, hrest⟩
      exact (ih u hrest).trans (hgpu partitionMap gpu t u hu)
  simp only [updateGPUs, Option.bind_eq_bind, Option.bind_eq_some_iff] at h
  rcases h with ⟨metrics, _, hrest⟩
  exact (hfold _ _ _ _ hrest).trans (hmetrics data.podInfo metrics)

theorem configs_updateGPUs {data : ScrapeData} {gpus : List Amdgpu.GPU}
    {cperEntryMap : GoMap String Amdgpu.CPEREntry} {ga' : GPUMetricsClient}
    (h : ga.updateGPUs handler data gpus cperEntryMap = some ga')
    : ga'.configs = ga.configs ∧ ga'.registered = ga.registered := by
  have hkept := kept_updateGPUs (fun ga => (ga.configs, ga.registered)) (fun _ _ => rfl)
    (fun _ _ _ _ hstep => Prod.ext (configs_updateGPU hstep).1 (configs_updateGPU hstep).2) h
  exact Prod.mk.inj hkept

theorem configs_step {a : MetricsAction} {ga' : GPUMetricsClient}
    (h : (metricsSystem handler).step ga a = some ga') (ha : ∀ config, a ≠ .initConfigs config)
    : ga'.configs = ga.configs ∧ ga'.registered = ga.registered := by
  cases a with
  | initConfigs config => exact absurd rfl (ha config)
  | updateStaticMetrics cfg data =>
    simp only [metricsSystem, updateStaticMetrics] at h
    split at h
    . cases h
      exact ⟨rfl, rfl⟩
    . split at h
      . cases h
        exact ⟨rfl, rfl⟩
      . simp only [Option.bind_eq_bind, Option.bind_eq_some_iff, Option.pure_def,
          Option.some.injEq] at h
        rcases h with ⟨client, _, ga₁, hga₁, rfl⟩
        have hconfigs := configs_updateGPUs hga₁
        exact hconfigs
  | updateMetrics data =>
    simp only [metricsSystem, updateMetrics, getMetricsAll] at h
    split at h
    . cases h
      exact ⟨rfl, rfl⟩
    . split at h
      . cases h
        exact ⟨rfl, rfl⟩
      . have hconfigs := configs_updateGPUs h
        exact hconfigs
  | setClient client =>
    cases h
    exact ⟨rfl, rfl⟩

omit [FloatOps] in
theorem admits_of_configs {as : List MetricsAction}
    (hconfigs : ∀ c, .initConfigs c ∈ as → Loadable c ∧ AvoidsPods avoid c)
    : ∀ a ∈ as, Admits avoid a := by
  intro a ha
  cases a with
  | initConfigs c => exact hconfigs c ha
  | updateStaticMetrics cfg data => trivial
  | updateMetrics data => trivial
  | setClient client => trivial

structure HistoryInv (avoid : List String) (hist : List MetricsAction) (ga : GPUMetricsClient)
    : Prop where
  keptPods : ∃ pod, KeptPods avoid pod ga
  loaded : (∃ config, .initConfigs config ∈ hist) → Loaded avoid ga

theorem HistoryInv.step {hist : List MetricsAction} (h : HistoryInv avoid hist ga) {a : MetricsAction}
    {ga' : GPUMetricsClient} (hadmits : Admits avoid a)
    (hstep : (metricsSystem handler).step ga a = some ga') : HistoryInv avoid (hist ++ [a]) ga' := by
  by_cases ha : ∃ config, a = .initConfigs config
  . rcases ha with ⟨config, rfl⟩
    rcases h.keptPods with ⟨pod, hpods⟩
    have hinit : ∃ t, ga.initConfigs handler config = some t ∧ Loaded avoid t :=
      loaded_initConfigs hpods hadmits.1 hadmits.2
    rcases hinit with ⟨t, ht, hloaded⟩
    cases Option.some.inj (ht.symm.trans hstep)
    rcases hloaded.exists_ready with ⟨on, pod, custom, hready, havoid, -⟩
    exact ⟨⟨pod, hready.keptPods havoid⟩, fun _ => hloaded⟩
  . have hne : ∀ config, a ≠ .initConfigs config := fun config heq => ha ⟨config, heq⟩
    constructor
    . rcases h.keptPods with ⟨pod, hpods⟩
      have hconfigs := (configs_step hstep hne).1
      refine ⟨pod, ?_, hpods.lower, hpods.index, hpods.avoids⟩
      rw [hconfigs]
      exact hpods.mem_iff
    . rintro ⟨config, hmem⟩
      have hloaded : Loaded avoid ga := by
        apply h.loaded
        rcases List.mem_append.mp hmem with hmem | hmem
        . exact ⟨config, hmem⟩
        . exact absurd (List.mem_singleton.mp hmem).symm (hne config)
      by_cases hstats : HasStats ga a
      . rcases loaded_step a hloaded hadmits hstats with ⟨t, ht, hloaded'⟩
        cases Option.some.inj (ht.symm.trans hstep)
        exact hloaded'
      . rw [step_eq_none a hloaded hstats] at hstep
        cases hstep

theorem loaded_of_exec {client : GPUAgentGPUClient} {hostLabels : GoMap String String}
    {as : List MetricsAction} (hinit : ∃ config, .initConfigs config ∈ as)
    (hconfigs : ∀ c, .initConfigs c ∈ as → Loadable c ∧ AvoidsPods avoid c)
    (hexec : (metricsSystem handler).exec as (newGPUMetricsClient handler client hostLabels) = some ga)
    : Loaded avoid ga := by
  have hnew : HistoryInv avoid [] (newGPUMetricsClient handler client hostLabels) :=
    ⟨⟨[], keptPods_newGPUMetricsClient handler client hostLabels avoid⟩, by simp⟩
  have hinv := (metricsSystem handler).exec_history (I := HistoryInv avoid)
    (fun _ _ _ _ h hadmits hstep => h.step hadmits hstep) as [] _ ga hnew
    ((metricsSystem handler).respects_of_forall_mem (admits_of_configs hconfigs) _) hexec
  exact hinv.loaded hinit

end Steps

/--
A run panics exactly if a pass meets a GPU without counters that it has to read.
-/
theorem exec_isSome_iff_hasStats (handler : GPUHandler) (client : GPUAgentGPUClient)
    (hostLabels : GoMap String String) (config : Option GPUMetricConfig) (as : List MetricsAction)
    (hconfigs : ∀ c, .initConfigs c ∈ .initConfigs config :: as → Loadable c)
    : ((metricsSystem handler).exec (.initConfigs config :: as)
          (newGPUMetricsClient handler client hostLabels)).isSome = true ↔
        (metricsSystem handler).Respects HasStats (.initConfigs config :: as)
          (newGPUMetricsClient handler client hostLabels) := by
  have hadmits : ∀ a ∈ as, Admits [] a :=
    admits_of_configs fun c hc => ⟨hconfigs c (List.mem_cons_of_mem _ hc), by simp [AvoidsPods]⟩
  have hpods := keptPods_newGPUMetricsClient handler client hostLabels []
  have hinit : ∃ ga, (newGPUMetricsClient handler client hostLabels).initConfigs handler config = some ga
      ∧ Loaded [] ga := loaded_initConfigs hpods (hconfigs config List.mem_cons_self) (by simp [AvoidsPods])
  rcases hinit with ⟨ga, hga, hloaded⟩
  have hrest : ((metricsSystem handler).exec as ga).isSome = true ↔
      (metricsSystem handler).Respects HasStats as ga :=
    (metricsSystem handler).exec_isSome_iff_respects (I := Loaded [])
      (fun _ a h hadmits hstats => loaded_step a h hadmits hstats)
      (fun _ a h _ hstats => step_eq_none a h hstats) as ga hloaded hadmits
  have hstep : (metricsSystem handler).step (newGPUMetricsClient handler client hostLabels)
      (.initConfigs config) = some ga := hga
  simp only [TransitionSystem.exec, TransitionSystem.Respects, hstep, Option.bind_some, hrest, HasStats,
    true_and]

section Instances

def plainHandler : GPUHandler where
  enableSriov := false
  enableGPUMonitoring := true
  hostName := "node-1"
  isCperEnabled := false

omit [CaseMap] [FloatOps] in
theorem loadable_none (_ : CaseMap) : Loadable none where
  selector := rfl
  noClash := by simp

def bareGPU : Amdgpu.GPU where
  spec := { id := [] }
  status := { index := 0 }
  stats := none

def bareData : ScrapeData where
  gpus := some ⟨0, [bareGPU]⟩

omit [CaseMap] [FloatOps] in
/--
The scrape of a GPU without counters panics.
-/
theorem exec_isSome_iff_hasStats_bareData
    : ¬@TransitionSystem.Respects _ _ (@metricsSystem CaseMap.ascii .truncate plainHandler) HasStats
        [.initConfigs none, .updateMetrics bareData]
        (newGPUMetricsClient plainHandler (newGPUAgentGPUClient ∅) ∅) := by
  let _ := CaseMap.ascii
  let _ := FloatOps.truncate
  have hrun := exec_isSome_iff_hasStats plainHandler (newGPUAgentGPUClient ∅) ∅ none
    [.updateMetrics bareData] (by
      intro c hc
      have hnone : c = none := by simpa using hc
      rw [hnone]
      exact loadable_none _)
  rw [← hrun]
  decide +kernel

end Instances

end GPUMetricsClient

end GPUAgent
