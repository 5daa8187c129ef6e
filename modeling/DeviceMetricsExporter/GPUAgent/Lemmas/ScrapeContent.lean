import DeviceMetricsExporter.GPUAgent.Lemmas.ScrapeRun

/-!
This module contains what the metrics hold after a scrape: the values that the scrape has read, and
nothing of what any pass before it has written.
-/

namespace GPUAgent

open Exporter

section Filter

theorem filterDone_apply (fl : FieldLogger) (gpuid : String) (op : MetricOp)
    (hdone : fl.filterDone = true) : (op.apply fl gpuid).1 = fl := by
  cases op with
  | mark field => simp [MetricOp.apply, FieldLogger.markUnsupportedFields, hdone]
  | «set» field labels value => rfl
  | «export» field labels value =>
    simp only [MetricOp.apply, FieldLogger.logWithValidateAndExport]
    split
    . rfl
    . split
      . rfl
      . simp [FieldLogger.logUnsupportedField, hdone]
      . rfl

theorem applyOps_of_filterDone {fl : FieldLogger} (hdone : fl.filterDone = true)
    (ops : List (String × MetricOp))
    : applyOps fl ops = (fl, ops.filterMap fun op => (op.2.apply fl op.1).2) := by
  induction ops with
  | nil => rfl
  | cons op ops ih =>
    rcases op with ⟨gpuid, op⟩
    have happly := filterDone_apply fl gpuid op hdone
    simp only [applyOps, happly, ih, List.filterMap_cons]
    cases (op.apply fl gpuid).2 with
    | none => rfl
    | some w => rfl

theorem filterDone_applyOps (fl : FieldLogger) (ops : List (String × MetricOp))
    : (applyOps fl ops).1.filterDone = fl.filterDone := by
  induction ops generalizing fl with
  | nil => rfl
  | cons op ops ih =>
    simp only [applyOps, ih]
    cases op.2 with
    | mark field =>
      simp only [MetricOp.apply, FieldLogger.markUnsupportedFields]
      split <;> rfl
    | «set» field labels value => rfl
    | «export» field labels value =>
      simp only [MetricOp.apply, FieldLogger.logWithValidateAndExport]
      split
      . rfl
      . split
        . rfl
        . simp only [FieldLogger.logUnsupportedField]
          split
          . rfl
          . split <;> rfl
        . rfl

def MetricEntry.Kept (fl : FieldLogger) (gpuid : String) (e : MetricEntry) : Prop :=
  e.filtered = true → fieldKey gpuid e.field.name ∉ fl.unsupportedFieldMap

def indexValues (field : GPUMetricField) (labels : Labels) : List String :=
  field.indexNames.map fun name => (labels.lookup name).getD ""

theorem exists_entry_of_apply {fl : FieldLogger} {gpuid : String} {op : MetricOp} {w : MetricWrite}
    (h : (op.apply fl gpuid).2 = some w)
    : ∃ e, op.entry? = some e ∧ e.Kept fl gpuid ∧ e.field = w.vec ∧ e.value = w.value
        ∧ e.index = indexValues w.vec w.labels := by
  rcases apply_eq_some h with rfl | ⟨value, rfl, hvalue, hkey, hw⟩
  . exact ⟨_, rfl, nofun, rfl, rfl, rfl⟩
  . refine ⟨⟨w.vec, indexValues w.vec w.labels, value.normalizeUint64, true⟩, ?_, fun _ => hkey, rfl,
      hw.symm, rfl⟩
    simp [MetricOp.entry?, hvalue, indexValues]

theorem exists_apply_of_entry {fl : FieldLogger} {gpuid : String} {op : MetricOp} {e : MetricEntry}
    (h : op.entry? = some e) (hkept : e.Kept fl gpuid)
    : ∃ w, (op.apply fl gpuid).2 = some w ∧ e.field = w.vec ∧ e.value = w.value
        ∧ e.index = indexValues w.vec w.labels := by
  cases op with
  | mark field => cases h
  | «set» field labels value =>
    cases h
    exact ⟨⟨field, labels, value⟩, rfl, rfl, rfl, rfl⟩
  | «export» field labels value =>
    cases hvalue : value.isValueApplicable with
    | false => simp [MetricOp.entry?, hvalue] at h
    | true =>
      simp only [MetricOp.entry?, hvalue, if_true, Option.some.injEq] at h
      subst h
      refine ⟨⟨field, labels, value.normalizeUint64⟩, ?_, rfl, rfl, rfl⟩
      simp [MetricOp.apply, FieldLogger.logWithValidateAndExport, FieldLogger.checkUnsupportedFields,
        hkept rfl, validateAndExport, hvalue]

end Filter

/--
The GPUs that a scrape passes over. `none` if the agent does not answer or the request is cancelled.
-/
def ScrapeData.answer (data : ScrapeData) : Option (List Amdgpu.GPU) :=
  data.gpus.bind fun resp =>
    if resp.apiStatus ≠ 0 ∨ data.cancelled then none else some resp.response

/--
Whether the field filter is set after the step: a configuration clears it, and a static pass that the agent
answers sets it.
-/
def MetricsAction.setsFilter (done : Bool) : MetricsAction → Bool
  | .initConfigs _ => false
  | .updateStaticMetrics _ data => data.gpus.any (·.apiStatus = 0) || done
  | _ => done

/--
After the last configuration of the run the agent has answered a static pass.
-/
def StaticAnswered (run : List MetricsAction) : Prop :=
  run.foldl MetricsAction.setsFilter false = true

instance StaticAnswered.decidable : DecidablePred StaticAnswered := fun run =>
  inferInstanceAs (Decidable (run.foldl MetricsAction.setsFilter false = true))

namespace GPUMetricsClient

variable [CaseMap]

def gpuValues (ga : GPUMetricsClient) (data : ScrapeData) (gpus : List Amdgpu.GPU) (gpu : Amdgpu.GPU)
    : List String :=
  (getExportLabels ga.configs.toLabelConfig).map fun name =>
    (((ga.podded data).gpuLabels data (GPUAgent.partitionMap gpus) gpu).lookup name).getD ""

def nodeValues (ga : GPUMetricsClient) : List String :=
  (getExporterNonDeviceLabels ga.configs.toLabelConfig).map fun name =>
    ((populateNodeLabels ga.configs.toLabelConfig ga.staticHostLabels).lookup name).getD ""

variable [FloatOps]

/--
A scrape of the GPUs shows the value `x` under the label values `values`.
-/
inductive Shows (ga : GPUMetricsClient) (handler : GPUHandler) (data : ScrapeData)
    (gpus : List Amdgpu.GPU) : GPUMetricField → List String → ℚ → Prop where
  | nodes : Shows ga handler data gpus .GPU_NODES_TOTAL ga.nodeValues (float64 gpus.length)
  | gpu {gpu : Amdgpu.GPU} {e : MetricEntry} (hgpu : gpu ∈ gpus)
    (he : e ∈ ga.gpuEntries handler data
      (if ga.configs.enableAfidMetrics then data.cper else ∅) gpu)
    (hkept : e.Kept ga.fl (getGPUInstanceIDString gpu.toAgent))
    : Shows ga handler data gpus e.field (e.index ++ ga.gpuValues data gpus gpu) e.value

theorem Shows.congr {ga ga' : GPUMetricsClient} {handler : GPUHandler} {data : ScrapeData}
    {gpus : List Amdgpu.GPU} {field : GPUMetricField} {values : List String} {x : ℚ}
    (hconfigs : ga'.configs = ga.configs) (hclient : ga'.client = ga.client)
    (hhost : ga'.staticHostLabels = ga.staticHostLabels) (hfl : ga'.fl = ga.fl)
    (h : ga.Shows handler data gpus field values x) : ga'.Shows handler data gpus field values x := by
  rcases ga with ⟨configs, client, pods, hostLabels, fl, metrics, registered⟩
  rcases ga' with ⟨configs', client', pods', hostLabels', fl', metrics', registered'⟩
  cases hconfigs
  cases hclient
  cases hhost
  cases hfl
  cases h with
  | nodes => exact Shows.nodes
  | gpu hgpu he hkept => exact Shows.gpu hgpu he hkept

theorem shows_iff {ga ga' : GPUMetricsClient} {handler : GPUHandler} {data : ScrapeData}
    {gpus : List Amdgpu.GPU} {field : GPUMetricField} {values : List String} {x : ℚ}
    (hconfigs : ga'.configs = ga.configs) (hclient : ga'.client = ga.client)
    (hhost : ga'.staticHostLabels = ga.staticHostLabels) (hfl : ga'.fl = ga.fl)
    : ga.Shows handler data gpus field values x ↔ ga'.Shows handler data gpus field values x :=
  ⟨Shows.congr hconfigs hclient hhost hfl, Shows.congr hconfigs.symm hclient.symm hhost.symm hfl.symm⟩

section Content

variable {handler : GPUHandler} {on : GPULabel → Prop} {pod custom : List String}
  {ga : GPUMetricsClient} (h : Ready on pod custom ga)

include h

omit [FloatOps] in
theorem gpuValues_inj (hpod : "gpu_id" ∉ pod) (hcustom : "gpu_id" ∉ custom) {data : ScrapeData}
    {gpus : List Amdgpu.GPU} {gpu gpu' : Amdgpu.GPU}
    (heq : ga.gpuValues data gpus gpu = ga.gpuValues data gpus gpu')
    : gpu.status.index = gpu'.status.index := by
  have hname : lowerName (.device .GPU_ID : GPULabel) = "gpu_id" := by decide
  have hmandatory := h.mandatory (.device .GPU_ID) (by decide)
  have hmem : "gpu_id" ∈ getExportLabels ga.configs.toLabelConfig :=
    h.configured.mem_getExportLabels.mpr (.inl ⟨_, hmandatory, hname⟩)
  have hlookup (gpu : Amdgpu.GPU)
      : ((ga.podded data).gpuLabels data (GPUAgent.partitionMap gpus) gpu).lookup "gpu_id"
        = some (getGPUInstanceIDString gpu.toAgent) := by
    have hconfigured : Configured on pod custom (ga.podded data).labelClient.toLabelConfig := h.configured
    have hnotCustom : "gpu_id" ∉ (ga.podded data).labelClient.customLabelMap :=
      fun hk => hcustom ((hconfigured.mem_customLabelMap _).mp hk)
    have hnotPod : "gpu_id" ∉ (ga.podded data).labelClient.extraPodLabelsMap :=
      fun hk => hpod ((hconfigured.mem_extraPodLabelsMap _).mp hk)
    rw [gpuLabels, GPULabelClient.lookup_populateLabelsFromGPU _ hconfigured,
      AList.lookup_eq_none.mpr hnotCustom, AList.lookup_eq_none.mpr hnotPod, ← hname]
    rw [hconfigured.lookup_populateEnabled _ hmandatory]
    rfl
  have hvalues := List.map_inj_left.mp heq "gpu_id" hmem
  rw [hlookup, hlookup] at hvalues
  exact getGPUInstanceIDString_inj hvalues

omit [FloatOps] in
theorem seriesKey_of_indexed {data : ScrapeData} {gpus : List Amdgpu.GPU} {gpu : Amdgpu.GPU}
    {w : MetricWrite}
    (hw : Indexed ((ga.podded data).gpuLabels data (GPUAgent.partitionMap gpus) gpu) w.vec w.labels)
    : GaugeStore.seriesKey ga.metrics.labelNames w
        = (w.vec, indexValues w.vec w.labels ++ ga.gpuValues data gpus gpu) := by
  have h' : Ready on pod custom (ga.podded data) :=
    ⟨h.configured, h.mandatory, h.labelNames, h.hostname, h.index⟩
  have hvalues := h'.labelValues_eq hw
  have hnames : (ga.podded data).metrics.labelNames = ga.metrics.labelNames := rfl
  rw [hnames] at hvalues
  rw [GaugeStore.seriesKey, hvalues]
  rfl

variable {data : ScrapeData} {gpus : List Amdgpu.GPU} {cperEntryMap : GoMap String Amdgpu.CPEREntry}

theorem exists_write_gpuOps_iff {gpu : Amdgpu.GPU}
    (hstats : ga.configs.exporterEnabledGPU gpu.status.index.toNat = true → gpu.stats.isSome = true)
    {k : GPUMetricField × List String} {x : ℚ}
    : (∃ op ∈ (ga.podded data).gpuOps handler data (GPUAgent.partitionMap gpus) cperEntryMap gpu,
        ∃ w, (op.2.apply ga.fl op.1).2 = some w ∧ GaugeStore.seriesKey ga.metrics.labelNames w = k
          ∧ w.value = x) ↔
        ∃ e ∈ ga.gpuEntries handler data cperEntryMap gpu,
          e.Kept ga.fl (getGPUInstanceIDString gpu.toAgent)
            ∧ (e.field, e.index ++ ga.gpuValues data gpus gpu) = k ∧ e.value = x := by
  have h' : Ready on pod custom (ga.podded data) :=
    ⟨h.configured, h.mandatory, h.labelNames, h.hostname, h.index⟩
  have hkeys {fl : FieldLogger} {gpuid : String} {op : MetricOp} {w : MetricWrite}
      (hlabels : op.WellLabelled ((ga.podded data).gpuLabels data (GPUAgent.partitionMap gpus) gpu))
      (hw : (op.apply fl gpuid).2 = some w)
      : GaugeStore.seriesKey ga.metrics.labelNames w
        = (w.vec, indexValues w.vec w.labels ++ ga.gpuValues data gpus gpu) := by
    apply seriesKey_of_indexed h
    rcases apply_eq_some hw with rfl | ⟨value, rfl, hvalue, _, _⟩
    . exact hlabels
    . exact hlabels hvalue
  rcases updateGPUInfoToMetrics_emits handler data (GPUAgent.partitionMap gpus) cperEntryMap h'
    hstats with ⟨ops, hops, hemit⟩
  rw [gpuOps, hops, Option.getD_some]
  have hentries : ops.filterMap MetricOp.entry? = ga.gpuEntries handler data cperEntryMap gpu :=
    hemit.entries
  constructor
  . rintro ⟨p, hp, w, hw, hk, hx⟩
    rcases List.mem_map.mp hp with ⟨op, hop, rfl⟩
    rcases exists_entry_of_apply hw with ⟨e, he, hkept, hfield, hvalue, hindex⟩
    rw [hkeys (hemit.wellLabelled op hop) hw, ← hindex, ← hfield] at hk
    refine ⟨e, ?_, hkept, hk, hvalue.trans hx⟩
    rw [← hentries]
    exact List.mem_filterMap.mpr ⟨op, hop, he⟩
  . rintro ⟨e, he, hkept, hk, hx⟩
    rw [← hentries] at he
    rcases List.mem_filterMap.mp he with ⟨op, hop, he⟩
    rcases exists_apply_of_entry he hkept with ⟨w, hw, hfield, hvalue, hindex⟩
    refine ⟨_, List.mem_map_of_mem hop, w, hw, ?_, hvalue.symm.trans hx⟩
    rw [hkeys (hemit.wellLabelled op hop) hw, ← hindex, ← hfield]
    exact hk

theorem exists_write_passOps_iff (hdone : ga.fl.filterDone = true) (hgpus : ga.Complete gpus)
    {k : GPUMetricField × List String} {x : ℚ}
    : (∃ w ∈ (applyOps ga.fl (ga.passOps handler data cperEntryMap gpus)).2,
        GaugeStore.seriesKey ga.metrics.labelNames w = k ∧ w.value = x) ↔
        ∃ gpu ∈ gpus, ∃ e ∈ ga.gpuEntries handler data cperEntryMap gpu,
          e.Kept ga.fl (getGPUInstanceIDString gpu.toAgent)
            ∧ (e.field, e.index ++ ga.gpuValues data gpus gpu) = k ∧ e.value = x := by
  rw [applyOps_of_filterDone hdone]
  constructor
  . rintro ⟨w, hw, hk, hx⟩
    rcases List.mem_filterMap.mp hw with ⟨op, hop, hw⟩
    rcases List.mem_flatMap.mp hop with ⟨gpu, hgpu, hop⟩
    exact ⟨gpu, hgpu, (exists_write_gpuOps_iff h (hgpus gpu hgpu)).mp ⟨op, hop, w, hw, hk, hx⟩⟩
  . rintro ⟨gpu, hgpu, hentry⟩
    rcases (exists_write_gpuOps_iff h (hgpus gpu hgpu)).mpr hentry with ⟨op, hop, w, hw, hk, hx⟩
    exact ⟨w, List.mem_filterMap.mpr ⟨op, List.mem_flatMap.mpr ⟨gpu, hgpu, hop⟩, hw⟩, hk, hx⟩

theorem eq_of_same_series (hpod : "gpu_id" ∉ pod) (hcustom : "gpu_id" ∉ custom)
    (hindex : (gpus.map (·.status.index)).Nodup) (hpids : ∀ gpu ∈ gpus, DistinctProcesses gpu)
    {gpu gpu' : Amdgpu.GPU} (hgpu : gpu ∈ gpus) (hgpu' : gpu' ∈ gpus) {e e' : MetricEntry}
    (he : e ∈ ga.gpuEntries handler data cperEntryMap gpu)
    (he' : e' ∈ ga.gpuEntries handler data cperEntryMap gpu')
    (hfield : e.field = e'.field)
    (hvalues : e.index ++ ga.gpuValues data gpus gpu = e'.index ++ ga.gpuValues data gpus gpu')
    : e = e' := by
  have hlength : (ga.gpuValues data gpus gpu).length = (ga.gpuValues data gpus gpu').length := by
    simp [gpuValues]
  rcases List.append_inj' hvalues hlength with ⟨hindex', hgpuValues⟩
  cases List.inj_on_of_nodup_map hindex hgpu hgpu' (gpuValues_inj h hpod hcustom hgpuValues)
  exact (keyed_gpuEntries ga handler data cperEntryMap (hpids gpu hgpu)).eq_of_key e he e' he' hfield hindex'

omit h in
theorem field_ne_nodes {gpu : Amdgpu.GPU} {e : MetricEntry}
    (he : e ∈ ga.gpuEntries handler data cperEntryMap gpu) : e.field ≠ .GPU_NODES_TOTAL := by
  have hfield := field_mem_gpuEntries he
  intro hnodes
  rw [hnodes] at hfield
  revert hfield
  decide +kernel

omit [FloatOps] in
theorem seriesKey_nodes (value : ℚ)
    : GaugeStore.seriesKey ga.metrics.labelNames
        ⟨.GPU_NODES_TOTAL, (ga.podded data).labelClient.populateLabelsFromGPU ∅ none ∅, value⟩
        = (.GPU_NODES_TOTAL, ga.nodeValues) := by
  have hmatch := (labelsMatch_node_iff h.configured_labelClient
    (h.mandatory _ (by decide)) ga.staticHostLabels).mpr h.hostname
  have hvalues := labelValues_eq_some hmatch.nodup hmatch.mem_iff
  have hnames : ga.metrics.labelNames .GPU_NODES_TOTAL
      = getExporterNonDeviceLabels ga.labelClient.toLabelConfig := by
    rw [h.labelNames]
    rfl
  rw [GaugeStore.seriesKey, hnames]
  simp only [podded, labelClient, GPULabelClient.populateLabelsFromGPU] at hvalues ⊢
  rw [hvalues]
  rfl

omit h [FloatOps] [CaseMap] in
theorem mem_fieldMetricsMap (field : GPUMetricField) : field ∈ fieldMetricsMap := by
  cases field <;> decide

/--
A pass over the GPUs leaves what it shows, if the metrics have been reset before.
-/
theorem lookup_pass_iff (hpod : "gpu_id" ∉ pod) (hcustom : "gpu_id" ∉ custom)
    (hdone : ga.fl.filterDone = true) (hgpus : ga.Complete gpus)
    (hindex : (gpus.map (·.status.index)).Nodup) (hpids : ∀ gpu ∈ gpus, DistinctProcesses gpu)
    {field : GPUMetricField} {values : List String} {x : ℚ}
    : ((resetMetrics ga.metrics).writeAll
          (ga.passWrites handler data (if ga.configs.enableAfidMetrics then data.cper else ∅) gpus)
        ).series.lookup (field, values) = some x ↔
        ga.Shows handler data gpus field values x := by
  let cperEntryMap := if ga.configs.enableAfidMetrics then data.cper else ∅
  have hpass {w : MetricWrite} (hw : w ∈ (applyOps ga.fl (ga.passOps handler data cperEntryMap gpus)).2)
      : ∃ gpu ∈ gpus, ∃ e ∈ ga.gpuEntries handler data cperEntryMap gpu,
        e.Kept ga.fl (getGPUInstanceIDString gpu.toAgent)
          ∧ (e.field, e.index ++ ga.gpuValues data gpus gpu)
            = GaugeStore.seriesKey ga.metrics.labelNames w ∧ e.value = w.value :=
    (exists_write_passOps_iff h hdone hgpus).mp ⟨w, hw, rfl, rfl⟩
  rw [resetMetrics, GaugeStore.lookup_writeAll_reset_eq_some mem_fieldMetricsMap]
  . constructor
    . rintro ⟨w, hw, hk, rfl⟩
      rcases List.mem_cons.mp hw with rfl | hw
      . rw [seriesKey_nodes h] at hk
        cases hk
        exact Shows.nodes
      . rcases hpass hw with ⟨gpu, hgpu, e, he, hkept, hkey, hvalue⟩
        rw [hk] at hkey
        cases hkey
        rw [← hvalue]
        exact Shows.gpu hgpu he hkept
    . intro hshows
      cases hshows with
      | nodes => exact ⟨_, List.mem_cons_self, seriesKey_nodes h _, rfl⟩
      | @gpu gpu e hgpu he hkept =>
        have hentry := (exists_write_passOps_iff h hdone hgpus).mpr ⟨gpu, hgpu, e, he, hkept, rfl, rfl⟩
        rcases hentry with ⟨w, hw, hk, hx⟩
        exact ⟨w, List.mem_cons_of_mem _ hw, hk, hx⟩
  . -- a series is either the number of GPUs or that of one GPU
    intro w hw w' hw' hk hk'
    rcases List.mem_cons.mp hw with rfl | hw
    . rcases List.mem_cons.mp hw' with rfl | hw'
      . rfl
      . rcases hpass hw' with ⟨gpu, hgpu, e, he, _, hkey, _⟩
        rw [hk', ← hk, seriesKey_nodes h] at hkey
        exact absurd (congrArg Prod.fst hkey) (field_ne_nodes he)
    . rcases hpass hw with ⟨gpu, hgpu, e, he, _, hkey, hvalue⟩
      rcases List.mem_cons.mp hw' with rfl | hw'
      . rw [hk, ← hk', seriesKey_nodes h] at hkey
        exact absurd (congrArg Prod.fst hkey) (field_ne_nodes he)
      . rcases hpass hw' with ⟨gpu', hgpu', e', he', _, hkey', hvalue'⟩
        rw [hk, ← hk', ← hkey'] at hkey
        rcases Prod.mk.inj hkey with ⟨hfield, hvalues⟩
        rw [← hvalue, ← hvalue',
          eq_of_same_series h hpod hcustom hindex hpids hgpu hgpu' he he' hfield hvalues]

theorem updateMetrics_cases {s : GPUMetricsClient} (hstep : ga.updateMetrics handler data = some s)
    : (data.answer = none ∧ s = { ga with metrics := resetMetrics ga.metrics }) ∨
      ∃ gpus, data.answer = some gpus ∧ ga.Complete gpus
        ∧ s =
          { ga with
            k8PodInfoMap := data.podInfo
            fl := (applyOps ga.fl (ga.passOps handler data
              (if ga.configs.enableAfidMetrics then data.cper else ∅) gpus)).1
            metrics := (resetMetrics ga.metrics).writeAll (ga.passWrites handler data
              (if ga.configs.enableAfidMetrics then data.cper else ∅) gpus) } := by
  have h' : Ready on pod custom { ga with metrics := resetMetrics ga.metrics } :=
    ⟨h.configured, h.mandatory, h.labelNames, h.hostname, h.index⟩
  unfold updateMetrics getMetricsAll at hstep
  unfold ScrapeData.answer
  cases hgpus : data.gpus with
  | none =>
    rw [hgpus] at hstep
    exact .inl ⟨rfl, (Option.some.inj hstep).symm⟩
  | some resp =>
    rw [hgpus] at hstep
    simp only [Option.bind_some] at hstep ⊢
    split at hstep
    . next hfail => exact .inl ⟨if_pos hfail, (Option.some.inj hstep).symm⟩
    . next hok =>
      refine .inr ⟨resp.response, if_neg hok, ?_⟩
      by_cases hcomplete : ga.Complete resp.response
      . rw [updateGPUs_eq handler data _ h' hcomplete] at hstep
        exact ⟨hcomplete, (Option.some.inj hstep).symm⟩
      . rw [updateGPUs_eq_none h' data _ hcomplete] at hstep
        cases hstep

end Content

section Run

variable {handler : GPUHandler} {client : GPUAgentGPUClient} {hostLabels : GoMap String String}
  {as : List MetricsAction} {data : ScrapeData} {s : GPUMetricsClient}

theorem filterDone_updateGPUs {ga ga' : GPUMetricsClient} {gpus : List Amdgpu.GPU}
    {cperEntryMap : GoMap String Amdgpu.CPEREntry}
    (h : ga.updateGPUs handler data gpus cperEntryMap = some ga') : ga'.fl.filterDone = ga.fl.filterDone := by
  refine kept_updateGPUs (·.fl.filterDone) (fun _ _ => rfl) (fun partitionMap gpu t t' hstep => ?_) h
  simp only [updateGPU, Option.bind_eq_bind, Option.bind_eq_some_iff, Option.pure_def, Option.some.injEq]
    at hstep
  rcases hstep with ⟨ops, _, metrics, _, rfl⟩
  exact filterDone_applyOps _ _

theorem filterDone_step {ga ga' : GPUMetricsClient} {a : MetricsAction}
    (h : (metricsSystem handler).step ga a = some ga')
    : ga'.fl.filterDone = a.setsFilter ga.fl.filterDone := by
  cases a with
  | setClient client =>
    cases h
    rfl
  | initConfigs config =>
    rcases Option.map_eq_some_iff.mp h with ⟨configs, _, rfl⟩
    rfl
  | updateStaticMetrics cfg data =>
    simp only [metricsSystem, updateStaticMetrics] at h
    split at h
    . next hgpus =>
      cases h
      simp [MetricsAction.setsFilter, hgpus]
    . next resp hgpus =>
      split at h
      . next hstatus =>
        cases h
        simp [MetricsAction.setsFilter, hgpus, hstatus]
      . next hstatus =>
        simp only [Option.bind_eq_bind, Option.bind_eq_some_iff, Option.pure_def, Option.some.injEq] at h
        rcases h with ⟨client, _, t, _, rfl⟩
        rw [not_not] at hstatus
        simp [MetricsAction.setsFilter, hgpus, hstatus, FieldLogger.setFilterDone]
  | updateMetrics data =>
    simp only [metricsSystem, updateMetrics, getMetricsAll] at h
    split at h
    . cases h
      rfl
    . split at h
      . cases h
        rfl
      . have hkept := filterDone_updateGPUs h
        exact hkept

theorem filterDone_of_exec {ga ga' : GPUMetricsClient}
    (hexec : (metricsSystem handler).exec as ga = some ga')
    : ga'.fl.filterDone = as.foldl MetricsAction.setsFilter ga.fl.filterDone := by
  induction as generalizing ga with
  | nil =>
    cases hexec
    rfl
  | cons a as ih =>
    rcases ((metricsSystem handler).exec_cons_eq_some).mp hexec with ⟨t, ht, hrest⟩
    rw [ih hrest, filterDone_step ht, List.foldl_cons]

theorem lookup_updateMetrics_iff {ga : GPUMetricsClient} (hloaded : Loaded ["gpu_id"] ga)
    (hstep : ga.updateMetrics handler data = some s) (hdone : s.fl.filterDone = true)
    (hindex : ∀ gpus ∈ data.answer, (gpus.map (·.status.index)).Nodup)
    (hpids : ∀ gpus ∈ data.answer, ∀ gpu ∈ gpus, DistinctProcesses gpu)
    (field : GPUMetricField) (values : List String) (x : ℚ)
    : s.metrics.series.lookup (field, values) = some x ↔
        ∃ gpus ∈ data.answer, s.Shows handler data gpus field values x := by
  rcases hloaded.exists_ready with ⟨on, pod, custom, hready, havoid, hcustom⟩
  rcases updateMetrics_cases hready hstep with ⟨hanswer, rfl⟩ | ⟨gpus, hanswer, hgpus, rfl⟩
  . simp only [hanswer, Option.not_mem_none, false_and, exists_false, iff_false]
    rw [resetMetrics, GaugeStore.lookup_reset, if_pos (mem_fieldMetricsMap field)]
    nofun
  . have hgpuId : "gpu_id" ∈ GPULabelClient.disallowedLabels :=
      GPULabelClient.toLower_mem_disallowedLabels .GPU_ID
    rw [filterDone_applyOps] at hdone
    have hpass : _ ↔ ga.Shows handler data gpus field values x :=
      lookup_pass_iff hready (havoid _ List.mem_cons_self) (fun hmem => hcustom _ hmem hgpuId) hdone hgpus
        (hindex gpus hanswer) (hpids gpus hanswer)
    rw [hanswer, hpass]
    simp only [Option.mem_def, Option.some.injEq, exists_eq_left', applyOps_of_filterDone hdone]
    exact shows_iff rfl rfl rfl rfl

/--
Whatever a run has done before, after a scrape the metrics hold what the scrape shows and nothing else.
They are empty if the agent has not answered.
-/
theorem lookup_scrape_iff (hinit : ∃ config, .initConfigs config ∈ as)
    (hconfigs : ∀ c, .initConfigs c ∈ as → Loadable c ∧ AvoidsPods ["gpu_id"] c)
    (hanswered : StaticAnswered as)
    (hexec : (metricsSystem handler).exec (as ++ [.updateMetrics data])
      (newGPUMetricsClient handler client hostLabels) = some s)
    (hindex : ∀ gpus ∈ data.answer, (gpus.map (·.status.index)).Nodup)
    (hpids : ∀ gpus ∈ data.answer, ∀ gpu ∈ gpus, DistinctProcesses gpu)
    (field : GPUMetricField) (values : List String) (x : ℚ)
    : s.metrics.series.lookup (field, values) = some x ↔
        ∃ gpus ∈ data.answer, s.Shows handler data gpus field values x := by
  rcases ((metricsSystem handler).exec_concat_eq_some).mp hexec with ⟨ga, hbefore, hstep⟩
  have hloaded : Loaded ["gpu_id"] ga := loaded_of_exec hinit hconfigs hbefore
  have hdone : s.fl.filterDone = true := by
    exact (filterDone_step hstep).trans ((filterDone_of_exec hbefore).trans hanswered)
  exact lookup_updateMetrics_iff hloaded hstep hdone hindex hpids field values x

end Run

section Instances

def plainHealthConfig : HealthConfig := ⟨none, false, false, false⟩

def plainGPU : Amdgpu.GPU :=
  { bareGPU with stats := some { packagePower := 250 } }

def plainData : ScrapeData where
  gpus := some ⟨0, [plainGPU]⟩

def secondGPU : Amdgpu.GPU :=
  { bareGPU with
    spec := { id := [1] }
    status := { bareGPU.status with index := 1 }
    stats := some { packagePower := 300 } }

def twoData : ScrapeData where
  gpus := some ⟨0, [plainGPU, secondGPU]⟩

def lateRun : List MetricsAction :=
  [.initConfigs none, .updateStaticMetrics plainHealthConfig { gpus := some ⟨0, []⟩ }]

omit [CaseMap] [FloatOps] in
theorem lookup_scrape_iff_lateRun
    : ∃ s, (@metricsSystem CaseMap.ascii .truncate plainHandler).exec
          (lateRun ++ [.updateMetrics twoData])
          (newGPUMetricsClient plainHandler (newGPUAgentGPUClient ∅) ∅) = some s
        ∧ ∀ field values x, s.metrics.series.lookup (field, values) = some x ↔
          ∃ gpus ∈ twoData.answer,
            @Shows CaseMap.ascii .truncate s plainHandler twoData gpus field values x := by
  let _ := CaseMap.ascii
  let _ := FloatOps.truncate
  have hsome : ((metricsSystem plainHandler).exec (lateRun ++ [.updateMetrics twoData])
      (newGPUMetricsClient plainHandler (newGPUAgentGPUClient ∅) ∅)).isSome = true := by
    decide +kernel
  rcases Option.isSome_iff_exists.mp hsome with ⟨s, hs⟩
  refine ⟨s, hs, fun field values x => ?_⟩
  have hanswer : twoData.answer = some [plainGPU, secondGPU] := rfl
  have hinit : ∃ config, .initConfigs config ∈ lateRun := ⟨none, List.mem_cons_self⟩
  have hanswered : StaticAnswered lateRun := rfl
  refine lookup_scrape_iff hinit ?_ hanswered hs ?_ ?_ field values x
  . intro c hc
    have hnone : c = none := by simpa [lateRun] using hc
    rw [hnone]
    exact ⟨loadable_none _, by simp [AvoidsPods]⟩
  . rw [hanswer]
    intro gpus hgpus
    cases hgpus
    decide
  . rw [hanswer]
    intro gpus hgpus gpu hgpu
    cases hgpus
    rcases List.mem_pair.mp hgpu with rfl | rfl
    . exact List.nodup_nil
    . exact List.nodup_nil

end Instances

end GPUMetricsClient

end GPUAgent
