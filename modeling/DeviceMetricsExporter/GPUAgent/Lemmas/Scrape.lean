import DeviceMetricsExporter.GPUAgent.Lemmas.FieldLogger
import DeviceMetricsExporter.GPUAgent.Lemmas.Metrics
import DeviceMetricsExporter.GPUAgent.Lemmas.UserLabels

/-!
This module contains the runs of the GPU client: with labels that do not clash no pass over the GPUs
panics, and after a scrape the metrics hold exactly what the scrape has read.
-/

namespace GPUAgent

open Exporter

section Apply

theorem applyOps_append (fl : FieldLogger) (ops ops' : List (String × MetricOp))
    : applyOps fl (ops ++ ops')
        = ((applyOps (applyOps fl ops).1 ops').1,
          (applyOps fl ops).2 ++ (applyOps (applyOps fl ops).1 ops').2) := by
  induction ops generalizing fl with
  | nil => rfl
  | cons op ops ih => simp [applyOps, ih]

theorem apply_eq_some {fl : FieldLogger} {gpuid : String} {op : MetricOp} {w : MetricWrite}
    (h : (op.apply fl gpuid).2 = some w)
    : op = .set w.vec w.labels w.value ∨
      ∃ value, op = .export w.vec w.labels value ∧ value.isValueApplicable = true
        ∧ fieldKey gpuid w.vec.name ∉ fl.unsupportedFieldMap ∧ w.value = value.normalizeUint64 := by
  cases op with
  | mark field => cases h
  | «set» field labels value =>
    cases h
    exact .inl rfl
  | «export» field labels value =>
    refine .inr ⟨value, ?_⟩
    by_cases hkey : fieldKey gpuid field.name ∈ fl.unsupportedFieldMap
    . simp [MetricOp.apply, FieldLogger.logWithValidateAndExport,
        FieldLogger.checkUnsupportedFields, hkey] at h
    . cases hvalue : value.isValueApplicable with
      | false =>
        simp [MetricOp.apply, FieldLogger.logWithValidateAndExport,
          FieldLogger.checkUnsupportedFields, hkey, validateAndExport, hvalue] at h
      | true =>
        simp [MetricOp.apply, FieldLogger.logWithValidateAndExport,
          FieldLogger.checkUnsupportedFields, hkey, validateAndExport, hvalue] at h
        subst h
        exact ⟨rfl, rfl, hkey, rfl⟩

theorem indexed_of_mem_applyOps {base : Labels} {gpuid : String} {ops : List MetricOp}
    (h : ∀ op ∈ ops, op.WellLabelled base) {fl : FieldLogger} {w : MetricWrite}
    (hw : w ∈ (applyOps fl (ops.map fun op => (gpuid, op))).2) : Indexed base w.vec w.labels := by
  induction ops generalizing fl with
  | nil => cases hw
  | cons op ops ih =>
    rw [List.forall_mem_cons] at h
    simp only [List.map_cons, applyOps, List.mem_append, Option.mem_toList] at hw
    rcases hw with hw | hw
    . rcases apply_eq_some hw with rfl | ⟨value, rfl, hvalue, _, _⟩
      . exact h.1
      . exact h.1 hvalue
    . exact ih h.2 hw

end Apply

namespace GPUMetricsClient

variable [CaseMap]

/--
The client after it has read a configuration whose labels do not clash.
-/
structure Ready (on : GPULabel → Prop) (pod custom : List String) (ga : GPUMetricsClient) : Prop where
  configured : Configured on pod custom ga.configs.toLabelConfig
  mandatory : ∀ a ∈ gpuMandatoryLables, on a
  labelNames : ga.metrics.labelNames = metricLabelNames ga.configs.toLabelConfig
  hostname : "hostname" ∉ custom
  index : ∀ (index : IndexLabels), ∀ name ∈ index.names, name ∉ pod ∧ name ∉ custom

theorem Ready.configured_labelClient {on : GPULabel → Prop} {pod custom : List String}
    {ga : GPUMetricsClient} (h : Ready on pod custom ga)
    : Configured on pod custom ga.labelClient.toLabelConfig :=
  h.configured

section Fits

variable {on : GPULabel → Prop} {pod custom : List String} {ga : GPUMetricsClient}
  (h : Ready on pod custom ga)

include h

theorem Ready.noIndex (wls : GoMap String Workload) (gpu : GPU) (partitionMap : GoMap String GPU)
    : NoIndex (ga.labelClient.populateLabelsFromGPU wls gpu partitionMap) := by
  intro index name hname hmem
  have hlabels : name ∈ getExportLabels ga.configs.toLabelConfig :=
    (GPULabelClient.mem_populateLabelsFromGPU_some h.configured_labelClient).mp hmem
  rcases h.configured.mem_getExportLabels.mp hlabels with ⟨a, _, ha⟩ | hpod | hcustom
  . exact index.lowerName_ne name hname a ha
  . exact (h.index index name hname).1 hpod
  . exact (h.index index name hname).2 hcustom

theorem Ready.nodup_metricLabelNames (field : GPUMetricField)
    : (field.indexNames ++ getExportLabels ga.configs.toLabelConfig).Nodup := by
  cases hindex : field.indexLabels with
  | none => simpa [GPUMetricField.indexNames, hindex] using h.configured.nodup_getExportLabels
  | some index =>
    rw [GPUMetricField.indexNames, hindex]
    exact (GPULabelClient.nodup_index_iff h.configured_labelClient index).mpr (h.index index)

omit h in
theorem metricLabelNames_of_ne {field : GPUMetricField} (hfield : field ≠ .GPU_NODES_TOTAL)
    (lc : LabelConfig) : metricLabelNames lc field = field.indexNames ++ getExportLabels lc := by
  cases field <;> first | rfl | exact absurd rfl hfield

theorem Ready.labelValues_eq {wls : GoMap String Workload} {gpu : GPU}
    {partitionMap : GoMap String GPU} {field : GPUMetricField} {labels : Labels}
    (hlabels : Indexed (ga.labelClient.populateLabelsFromGPU wls gpu partitionMap) field labels)
    : labelValues (ga.metrics.labelNames field) labels
        = some (field.indexNames.map (fun name => (labels.lookup name).getD "")
          ++ (getExportLabels ga.configs.toLabelConfig).map fun name =>
            ((ga.labelClient.populateLabelsFromGPU wls gpu partitionMap).lookup name).getD "") := by
  have hnodup := h.nodup_metricLabelNames field
  have hbase (k : String) : k ∈ ga.labelClient.populateLabelsFromGPU wls gpu partitionMap ↔
      k ∈ getExportLabels ga.configs.toLabelConfig :=
    GPULabelClient.mem_populateLabelsFromGPU_some h.configured_labelClient
  have hdisj : ∀ k ∈ getExportLabels ga.configs.toLabelConfig, k ∉ field.indexNames := by
    intro k hk hindex
    exact List.disjoint_of_nodup_append hnodup hindex hk
  have hmem : ∀ k, k ∈ labels ↔ k ∈ field.indexNames ++ getExportLabels ga.configs.toLabelConfig := by
    intro k
    rw [List.mem_append, ← hbase]
    by_cases hindex : k ∈ field.indexNames
    . simp [hindex, hlabels.mem_index k hindex]
    . rw [← AList.lookup_isSome, hlabels.agree k hindex, AList.lookup_isSome]
      simp [hindex]
  rw [h.labelNames, metricLabelNames_of_ne hlabels.ne_nodes, labelValues_eq_some hnodup hmem,
    List.map_append]
  congr 2
  apply List.map_congr_left
  intro k hk
  rw [hlabels.agree k (hdisj k hk)]

theorem Ready.fits_nodes (value : ℚ)
    : GaugeStore.Fits ga.metrics.labelNames
        ⟨.GPU_NODES_TOTAL, ga.labelClient.populateLabelsFromGPU ∅ none ∅, value⟩ := by
  have hmatch := (labelsMatch_node_iff h.configured_labelClient
    (h.mandatory _ (by decide)) ga.staticHostLabels).mpr h.hostname
  rw [GaugeStore.Fits, h.labelNames]
  exact Option.isSome_iff_exists.mpr ⟨_, labelValues_eq_some hmatch.nodup hmatch.mem_iff⟩

theorem Ready.fits {wls : GoMap String Workload} {gpu : GPU} {partitionMap : GoMap String GPU}
    {w : MetricWrite}
    (hw : Indexed (ga.labelClient.populateLabelsFromGPU wls gpu partitionMap) w.vec w.labels)
    : GaugeStore.Fits ga.metrics.labelNames w :=
  Option.isSome_iff_exists.mpr ⟨_, h.labelValues_eq hw⟩

end Fits

section Pass

variable [FloatOps] (handler : GPUHandler) (data : ScrapeData) (partitionMap : GoMap String GPU)
  (cperEntryMap : GoMap String Amdgpu.CPEREntry)

def gpuEntries (ga : GPUMetricsClient) (gpu : Amdgpu.GPU) : List MetricEntry :=
  if ga.configs.exporterEnabledGPU gpu.status.index.toNat then
    healthEntries (ga.client.healthState.lookup (getGPUInstanceIDString gpu.toAgent))
      ++ gpu.stats.elim [] (fun stats =>
        counterEntries gpu stats (cperEntryMap.lookup (getGPUUUID gpu.toAgent)))
      ++ (ga.profMetrics handler data gpu).elim [] profilerEntries
  else
    []

def gpuLabels (ga : GPUMetricsClient) (gpu : Amdgpu.GPU) : Labels :=
  ga.labelClient.populateLabelsFromGPU data.wls gpu.toAgent partitionMap

def gpuOps (ga : GPUMetricsClient) (gpu : Amdgpu.GPU) : List (String × MetricOp) :=
  ((ga.updateGPUInfoToMetrics data.wls partitionMap (ga.profMetrics handler data gpu) cperEntryMap
    gpu).getD []).map fun op => (getGPUInstanceIDString gpu.toAgent, op)

def Complete (ga : GPUMetricsClient) (gpus : List Amdgpu.GPU) : Prop :=
  ∀ gpu ∈ gpus, ga.configs.exporterEnabledGPU gpu.status.index.toNat = true → gpu.stats.isSome = true

def podded (ga : GPUMetricsClient) : GPUMetricsClient :=
  { ga with k8PodInfoMap := data.podInfo }

def passOps (ga : GPUMetricsClient) (gpus : List Amdgpu.GPU) : List (String × MetricOp) :=
  gpus.flatMap
    ((ga.podded data).gpuOps handler data (GPUAgent.partitionMap gpus) cperEntryMap)

def passWrites (ga : GPUMetricsClient) (gpus : List Amdgpu.GPU) : List MetricWrite :=
  ⟨.GPU_NODES_TOTAL, (ga.podded data).labelClient.populateLabelsFromGPU ∅ none ∅, float64 gpus.length⟩
    :: (applyOps ga.fl (ga.passOps handler data cperEntryMap gpus)).2

variable {on : GPULabel → Prop} {pod custom : List String} {ga : GPUMetricsClient}
  (h : Ready on pod custom ga)

include h

theorem updateGPUInfoToMetrics_emits {gpu : Amdgpu.GPU}
    (hstats : ga.configs.exporterEnabledGPU gpu.status.index.toNat = true → gpu.stats.isSome = true)
    : ∃ ops, ga.updateGPUInfoToMetrics data.wls partitionMap (ga.profMetrics handler data gpu)
        cperEntryMap gpu = some ops
      ∧ OpsEmit (ga.gpuLabels data partitionMap gpu) ops
        (ga.gpuEntries handler data cperEntryMap gpu) := by
  rw [updateGPUInfoToMetrics, gpuEntries]
  cases henabled : ga.configs.exporterEnabledGPU gpu.status.index.toNat with
  | false => exact ⟨[], rfl, OpsEmit.nil⟩
  | true =>
    rcases Option.isSome_iff_exists.mp (hstats henabled) with ⟨stats, hstats⟩
    have hbase := h.noIndex data.wls gpu.toAgent partitionMap
    rw [hstats]
    exact ⟨_, rfl, ((opsEmit_healthOps _).append (opsEmit_counterOps hbase gpu stats _)).append
      (opsEmit_profilerOps _ _)⟩

theorem indexed_of_mem_gpuOps {gpu : Amdgpu.GPU}
    (hstats : ga.configs.exporterEnabledGPU gpu.status.index.toNat = true → gpu.stats.isSome = true)
    {fl : FieldLogger} {w : MetricWrite}
    (hw : w ∈ (applyOps fl (ga.gpuOps handler data partitionMap cperEntryMap gpu)).2)
    : Indexed (ga.gpuLabels data partitionMap gpu) w.vec w.labels := by
  rcases updateGPUInfoToMetrics_emits handler data partitionMap cperEntryMap h hstats
    with ⟨ops, hops, hemit⟩
  rw [gpuOps, hops] at hw
  exact indexed_of_mem_applyOps hemit.wellLabelled hw

theorem updateGPU_eq {gpu : Amdgpu.GPU}
    (hstats : ga.configs.exporterEnabledGPU gpu.status.index.toNat = true → gpu.stats.isSome = true)
    : ga.updateGPU handler data partitionMap cperEntryMap gpu
        = some
          { ga with
            fl := (applyOps ga.fl (ga.gpuOps handler data partitionMap cperEntryMap gpu)).1
            metrics := ga.metrics.writeAll
              (applyOps ga.fl (ga.gpuOps handler data partitionMap cperEntryMap gpu)).2 } := by
  have hfits : ∀ w ∈ (applyOps ga.fl (ga.gpuOps handler data partitionMap cperEntryMap gpu)).2,
      GaugeStore.Fits ga.metrics.labelNames w :=
    fun w hw => h.fits (indexed_of_mem_gpuOps handler data partitionMap cperEntryMap h hstats hw)
  have hwrite := GaugeStore.foldlM_write hfits
  rcases updateGPUInfoToMetrics_emits handler data partitionMap cperEntryMap h hstats with ⟨ops, hops, -⟩
  simp only [gpuOps, hops, Option.getD_some] at hwrite ⊢
  simp only [updateGPU, hops, Option.bind_eq_bind, Option.bind_some, hwrite, Option.pure_def]

theorem foldlM_updateGPU {gpus : List Amdgpu.GPU} (hgpus : ga.Complete gpus)
    : gpus.foldlM (fun ga gpu => ga.updateGPU handler data partitionMap cperEntryMap gpu) ga
        = some
          { ga with
            fl := (applyOps ga.fl (gpus.flatMap (ga.gpuOps handler data partitionMap cperEntryMap))).1
            metrics := ga.metrics.writeAll
              (applyOps ga.fl
                (gpus.flatMap (ga.gpuOps handler data partitionMap cperEntryMap))).2 } := by
  induction gpus generalizing ga with
  | nil => rfl
  | cons gpu gpus ih =>
    have hstats := hgpus gpu List.mem_cons_self
    let ga' : GPUMetricsClient :=
      { ga with
        fl := (applyOps ga.fl (ga.gpuOps handler data partitionMap cperEntryMap gpu)).1
        metrics := ga.metrics.writeAll
          (applyOps ga.fl (ga.gpuOps handler data partitionMap cperEntryMap gpu)).2 }
    have h' : Ready on pod custom ga' := ⟨h.configured, h.mandatory, h.labelNames, h.hostname, h.index⟩
    have hgpus' : ga'.Complete gpus := fun gpu hgpu => hgpus gpu (List.mem_cons_of_mem _ hgpu)
    rw [List.foldlM_cons, updateGPU_eq handler data partitionMap cperEntryMap h hstats,
      Option.bind_eq_bind, Option.bind_some, List.flatMap_cons, applyOps_append]
    simp only [GaugeStore.writeAll_append]
    exact ih h' hgpus'

theorem updateGPUs_eq {gpus : List Amdgpu.GPU} (hgpus : ga.Complete gpus)
    : ga.updateGPUs handler data gpus cperEntryMap
        = some
          { ga with
            k8PodInfoMap := data.podInfo
            fl := (applyOps ga.fl (ga.passOps handler data cperEntryMap gpus)).1
            metrics := ga.metrics.writeAll (ga.passWrites handler data cperEntryMap gpus) } := by
  have h₁ : Ready on pod custom (ga.podded data) :=
    ⟨h.configured, h.mandatory, h.labelNames, h.hostname, h.index⟩
  let nodes : MetricWrite :=
    ⟨.GPU_NODES_TOTAL, (ga.podded data).labelClient.populateLabelsFromGPU ∅ none ∅,
      float64 gpus.length⟩
  have hnodes : ga.metrics.write nodes = some (ga.metrics.writeAll [nodes]) := by
    have hfits : ∀ w ∈ [nodes], GaugeStore.Fits ga.metrics.labelNames w := by
      intro w hw
      rw [List.mem_singleton.mp hw]
      exact h₁.fits_nodes _
    simpa using GaugeStore.foldlM_write hfits
  let ga₂ : GPUMetricsClient := { ga.podded data with metrics := ga.metrics.writeAll [nodes] }
  have h₂ : Ready on pod custom ga₂ :=
    ⟨h.configured, h.mandatory, h.labelNames, h.hostname, h.index⟩
  have hgpus₂ : ga₂.Complete gpus := hgpus
  have hfold := foldlM_updateGPU handler data (GPUAgent.partitionMap gpus) cperEntryMap h₂ hgpus₂
  have hwrites : ga.metrics.writeAll (ga.passWrites handler data cperEntryMap gpus)
      = (ga.metrics.writeAll [nodes]).writeAll
        (applyOps ga.fl (ga.passOps handler data cperEntryMap gpus)).2 := by
    rw [← GaugeStore.writeAll_append]
    rfl
  have hpass : ga.updateGPUs handler data gpus cperEntryMap
      = (ga.metrics.write nodes).bind fun metrics =>
        gpus.foldlM
          (fun ga gpu => ga.updateGPU handler data (GPUAgent.partitionMap gpus) cperEntryMap gpu)
          { ga.podded data with metrics } := rfl
  rw [hpass, hnodes, Option.bind_some, hwrites]
  exact hfold

end Pass

end GPUMetricsClient

end GPUAgent
