import DeviceMetricsExporter.Exporter.Lemmas.ClientRun
import DeviceMetricsExporter.GPUAgent.Lemmas.ScrapeContent

/-!
This module contains the GPU client behind the handler of the metrics requests, and the theorem about
what the responses of the exporter show.
-/

namespace GPUAgent

open Exporter

/--
What the registry collects: the values of the fields that are registered.
-/
abbrev Exposition := GPUMetricField → List String → Option ℚ

namespace GPUMetricsClient

def gather (ga : GPUMetricsClient) : Exposition := fun field values =>
  if field ∈ ga.registered then ga.metrics.series.lookup (field, values) else none

section Interface

variable [CaseMap] [FloatOps] (handler : GPUHandler)

def metricsInterface
    : MetricsInterface GPUMetricsClient (Option GPUMetricConfig × HealthConfig) ScrapeData
        GPUAgentGPUClient Exposition where
  initConfigs ga config := ga.initConfigs handler config.1
  updateStaticMetrics ga config data := ga.updateStaticMetrics handler config.2 data
  resetMetrics ga := { ga with metrics := GPUAgent.resetMetrics ga.metrics }
  updateMetricsStats ga data := ga.getMetricsAll handler data
  env ga client := some { ga with client }
  gather := gather

/--
The clients differ in the series of their metrics only.
-/
def EqUpToSeries (ga ga' : GPUMetricsClient) : Prop :=
  ∃ metrics, metrics.labelNames = ga.metrics.labelNames ∧ ga' = { ga with metrics }

variable {handler} {ga ga' s : GPUMetricsClient}

omit [CaseMap] [FloatOps] in
theorem resetMetrics_eq (metrics : GpuMetrics)
    : GPUAgent.resetMetrics metrics = { metrics with series := ∅ } :=
  GaugeStore.reset_eq mem_fieldMetricsMap

theorem same_iff : (metricsInterface handler).Same ga ga' ↔ EqUpToSeries ga ga' := by
  simp only [MetricsInterface.Same, metricsInterface, resetMetrics_eq]
  constructor
  . intro h
    have hnames := congrArg (fun ga : GPUMetricsClient => ga.metrics.labelNames) h
    refine ⟨ga'.metrics, hnames.symm, ?_⟩
    cases ga
    cases ga'
    simp only [GPUMetricsClient.mk.injEq] at h ⊢
    rcases h with ⟨rfl, rfl, rfl, rfl, rfl, _, rfl⟩
    trivial
  . rintro ⟨metrics, hnames, rfl⟩
    simp only [hnames]

theorem EqUpToSeries.updateGPU {data : ScrapeData} {partitionMap : GoMap String GPU}
    {cperEntryMap : GoMap String Amdgpu.CPEREntry} {gpu : Amdgpu.GPU} (h : EqUpToSeries ga ga')
    (hstep : ga.updateGPU handler data partitionMap cperEntryMap gpu = some s)
    : ∃ s', ga'.updateGPU handler data partitionMap cperEntryMap gpu = some s' ∧ EqUpToSeries s s' := by
  rcases h with ⟨metrics, hnames, rfl⟩
  simp only [GPUMetricsClient.updateGPU, Option.bind_eq_bind, Option.bind_eq_some_iff, Option.pure_def,
    Option.some.injEq] at hstep
  rcases hstep with ⟨ops, hops, written, hwritten, rfl⟩
  rcases GaugeStore.exists_foldlM_write hwritten hnames with ⟨written', hwritten', hnames'⟩
  refine ⟨{ ga with fl := _, metrics := written' }, ?_, written', hnames', rfl⟩
  simp only [GPUMetricsClient.updateGPU, Option.bind_eq_bind, Option.bind_eq_some_iff, Option.pure_def,
    Option.some.injEq]
  exact ⟨ops, hops, written', hwritten', rfl⟩

theorem EqUpToSeries.foldlM_updateGPU {data : ScrapeData} {partitionMap : GoMap String GPU}
    {cperEntryMap : GoMap String Amdgpu.CPEREntry} {gpus : List Amdgpu.GPU} (h : EqUpToSeries ga ga')
    (hstep : gpus.foldlM (fun ga gpu => ga.updateGPU handler data partitionMap cperEntryMap gpu) ga
      = some s)
    : ∃ s', gpus.foldlM (fun ga gpu => ga.updateGPU handler data partitionMap cperEntryMap gpu) ga'
        = some s' ∧ EqUpToSeries s s' := by
  induction gpus generalizing ga ga' with
  | nil =>
    cases hstep
    exact ⟨ga', rfl, h⟩
  | cons gpu gpus ih =>
    rw [List.foldlM_cons, Option.bind_eq_bind, Option.bind_eq_some_iff] at hstep
    rcases hstep with ⟨t, ht, hrest⟩
    rcases h.updateGPU ht with ⟨t', ht', h'⟩
    rw [List.foldlM_cons, ht', Option.bind_eq_bind, Option.bind_some]
    exact ih h' hrest

theorem EqUpToSeries.updateGPUs {data : ScrapeData} {gpus : List Amdgpu.GPU}
    {cperEntryMap : GoMap String Amdgpu.CPEREntry} (h : EqUpToSeries ga ga')
    (hstep : ga.updateGPUs handler data gpus cperEntryMap = some s)
    : ∃ s', ga'.updateGPUs handler data gpus cperEntryMap = some s' ∧ EqUpToSeries s s' := by
  rcases h with ⟨metrics, hnames, rfl⟩
  simp only [GPUMetricsClient.updateGPUs, Option.bind_eq_bind, Option.bind_eq_some_iff] at hstep ⊢
  rcases hstep with ⟨written, hwritten, hrest⟩
  rcases GaugeStore.exists_write hwritten hnames with ⟨written', hwritten', hnames'⟩
  have heq : EqUpToSeries { ga with k8PodInfoMap := data.podInfo, metrics := written }
      { ga with k8PodInfoMap := data.podInfo, metrics := written' } := ⟨written', hnames', rfl⟩
  rcases heq.foldlM_updateGPU hrest with ⟨s', hs', h'⟩
  exact ⟨s', ⟨written', hwritten', hs'⟩, h'⟩

theorem EqUpToSeries.getMetricsAll {data : ScrapeData} (h : EqUpToSeries ga ga')
    (hstep : ga.getMetricsAll handler data = some s)
    : ∃ s', ga'.getMetricsAll handler data = some s' ∧ EqUpToSeries s s' := by
  have hconfigs : ga'.configs = ga.configs := by
    rcases h with ⟨metrics, _, rfl⟩
    rfl
  unfold GPUMetricsClient.getMetricsAll at hstep ⊢
  cases hgpus : data.gpus with
  | none =>
    rw [hgpus] at hstep
    cases hstep
    exact ⟨ga', rfl, h⟩
  | some resp =>
    rw [hgpus] at hstep
    simp only [hconfigs] at hstep ⊢
    split at hstep
    . next hfail =>
      cases hstep
      exact ⟨ga', if_pos hfail, h⟩
    . next hok =>
      rcases h.updateGPUs hstep with ⟨s', hs', h'⟩
      exact ⟨s', (if_neg hok).trans hs', h'⟩

theorem EqUpToSeries.updateStaticMetrics {cfg : HealthConfig} {data : ScrapeData}
    (h : EqUpToSeries ga ga') (hstep : ga.updateStaticMetrics handler cfg data = some s)
    : ∃ s', ga'.updateStaticMetrics handler cfg data = some s' ∧ EqUpToSeries s s' := by
  unfold GPUMetricsClient.updateStaticMetrics at hstep ⊢
  cases hgpus : data.gpus with
  | none =>
    rw [hgpus] at hstep
    cases hstep
    exact ⟨ga', rfl, h⟩
  | some resp =>
    rw [hgpus] at hstep
    simp only at hstep ⊢
    split at hstep
    . next hfail =>
      cases hstep
      exact ⟨ga', if_pos hfail, h⟩
    . next hok =>
      simp only [Option.bind_eq_bind, Option.bind_eq_some_iff, Option.pure_def, Option.some.injEq]
        at hstep
      rcases h with ⟨metrics, hnames, rfl⟩
      rcases hstep with ⟨client, hclient, t, ht, rfl⟩
      have heq : EqUpToSeries { ga with client } { ga with client, metrics } := ⟨metrics, hnames, rfl⟩
      rcases heq.updateGPUs ht with ⟨t', ht', metrics', hnames', rfl⟩
      rw [if_neg hok]
      simp only [Option.bind_eq_bind, Option.bind_eq_some_iff, Option.pure_def, Option.some.injEq]
      exact ⟨_, ⟨client, hclient, _, ht', rfl⟩, metrics', hnames', rfl⟩

theorem lawful : (metricsInterface handler).Lawful where
  reset_idem ga := by
    simp only [metricsInterface, resetMetrics_eq]
  initConfigs_congr ga ga' config h := by
    rcases same_iff.mp h with ⟨metrics, hnames, rfl⟩
    rfl
  updateStaticMetrics_congr ga ga' config data s h hstep := by
    rcases (same_iff.mp h).updateStaticMetrics hstep with ⟨s', hs', h'⟩
    exact ⟨s', hs', same_iff.mpr h'⟩
  updateMetricsStats_congr ga ga' data s h hstep := by
    rcases (same_iff.mp h).getMetricsAll hstep with ⟨s', hs', h'⟩
    exact ⟨s', hs', same_iff.mpr h'⟩
  env_congr ga ga' client s h hstep := by
    rcases same_iff.mp h with ⟨metrics, hnames, rfl⟩
    cases hstep
    exact ⟨_, rfl, same_iff.mpr ⟨metrics, hnames, rfl⟩⟩
  env_reset ga client s hstep := by
    cases hstep
    exact ⟨_, rfl, rfl⟩
  gather_env ga client s hstep := by
    cases hstep
    rfl

end Interface

section Server

variable [CaseMap] [FloatOps] {handler : GPUHandler} {client : GPUAgentGPUClient}
  {hostLabels : GoMap String String}

abbrev GPUClientAction := ClientAction (Option GPUMetricConfig × HealthConfig) ScrapeData GPUAgentGPUClient

def toMetricsAction : GPUClientAction → MetricsAction
  | .initConfigs config => .initConfigs config.1
  | .updateStaticMetrics config data => .updateStaticMetrics config.2 data
  | .updateMetrics data => .updateMetrics data
  | .env client => .setClient client

theorem exec_toMetricsAction (run : List GPUClientAction) (ga : GPUMetricsClient)
    : (metricsSystem handler).exec (run.map toMetricsAction) ga
        = (metricsInterface handler).system.exec run ga := by
  apply TransitionSystem.exec_map
  intro s a
  cases a with
  | _ => rfl

def LoadableConfig (config : Option GPUMetricConfig × HealthConfig) : Prop :=
  Loadable config.1 ∧ AvoidsPods ["gpu_id"] config.1

/--
The GPUs of the answer have different indices, and the processes of each of them different ids.
-/
def TellsApart (data : ScrapeData) : Prop :=
  ∀ gpus ∈ data.answer, (gpus.map (·.status.index)).Nodup ∧ ∀ gpu ∈ gpus, DistinctProcesses gpu

instance TellsApart.decidable : DecidablePred TellsApart := fun data =>
  inferInstanceAs (Decidable (∀ gpus ∈ data.answer, (gpus.map (·.status.index)).Nodup
    ∧ ∀ gpu ∈ gpus, ((gpu.status.processStatus.getD []).map (·.pId)).Nodup))

/--
`x` has the values that the client shows after the steps, the last of which is a scrape of the data, for the
fields that it has registered, and no others.
-/
def ShowsScrape (handler : GPUHandler) (client : GPUAgentGPUClient) (hostLabels : GoMap String String)
    (run : List GPUClientAction) (data : ScrapeData) (x : Exposition) : Prop :=
  run.getLast? = some (.updateMetrics data) ∧
    ∃ t, (metricsInterface handler).system.exec run (newGPUMetricsClient handler client hostLabels) = some t
      ∧ ∀ field values v, x field values = some v ↔
        field ∈ t.registered ∧ ∃ gpus ∈ data.answer, t.Shows handler data gpus field values v

theorem gather_scrape_iff {data : ScrapeData} {t : GPUMetricsClient} {run : List GPUClientAction}
    (hK : ∀ config, .initConfigs config ∈ run → LoadableConfig config)
    (hconfig : ∃ config, .initConfigs config ∈ run)
    (hrun : (metricsInterface handler).system.exec (run ++ [.updateMetrics data])
      (newGPUMetricsClient handler client hostLabels) = some t)
    (hanswered : StaticAnswered ((run ++ [ClientAction.updateMetrics data]).map toMetricsAction))
    (hdistinct : TellsApart data) (field : GPUMetricField) (values : List String) (v : ℚ)
    : t.gather field values = some v ↔
        field ∈ t.registered ∧ ∃ gpus ∈ data.answer, t.Shows handler data gpus field values v := by
  rcases hconfig with ⟨config, hconfig⟩
  rw [← exec_toMetricsAction] at hrun
  have hdone : t.fl.filterDone = true := (filterDone_of_exec hrun).trans hanswered
  rw [List.map_append] at hrun
  rcases ((metricsSystem handler).exec_concat_eq_some).mp hrun with ⟨ga, hbefore, hstep⟩
  have hloaded : Loaded ["gpu_id"] ga := by
    refine loaded_of_exec ⟨config.1, List.mem_map.mpr ⟨_, hconfig, rfl⟩⟩ (fun c hc => ?_) hbefore
    rcases List.mem_map.mp hc with ⟨a, ha, hac⟩
    cases a with
    | initConfigs config =>
      cases hac
      exact hK config ha
    | updateStaticMetrics config data => cases hac
    | updateMetrics data => cases hac
    | env client => cases hac
  rw [← lookup_updateMetrics_iff hloaded hstep hdone (fun gpus hgpus => (hdistinct gpus hgpus).1)
    (fun gpus hgpus => (hdistinct gpus hgpus).2)]
  show (if field ∈ t.registered then t.metrics.series.lookup (field, values) else none) = some v ↔ _
  split
  . next hmem => simp [hmem]
  . next hmem => simp [hmem]

end Server

section Instances

def restartedRun : List (CallPool.Action Nat (RequestStep ScrapeData)
    (HandlerEvent (Option GPUMetricConfig × HealthConfig) ScrapeData GPUAgentGPUClient)) :=
  [.env .initConfig, .env (.initConfigs 0 (none, plainHealthConfig)),
    .env (.updateStaticMetrics 0 (none, plainHealthConfig) { gpus := some ⟨0, []⟩ }), .env .startServer,
    .start 0, .call 0 .next, .call 0 .next, .call 0 (.client 0 twoData), .call 0 (.client 0 twoData),
    .call 0 .next, .call 0 .next, .env .stopServer]

end Instances

end GPUMetricsClient

end GPUAgent
