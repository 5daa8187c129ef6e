import DeviceMetricsExporter.Exporter.Lemmas.Lifecycle
import DeviceMetricsExporter.GPUAgent.Lemmas.Fields
import DeviceMetricsExporter.GPUAgent.Lemmas.ScrapeServer

/-!
This module contains the theorem about the GPU metrics of the exporter as a whole: its responses show the
fields that the configuration in the file asks for, with the values of the GPUs that the request has read.
-/

universe u v

namespace GPUAgent

open Exporter

namespace GPUMetricsClient

section Served

variable [CaseMap] [FloatOps] {handler : GPUHandler} {client : GPUAgentGPUClient}
  {hostLabels : GoMap String String}

structure RegistryInv (handler : GPUHandler) (hist : List GPUClientAction) (ga : GPUMetricsClient)
    : Prop where
  isDisabledOnFailure : ga.configs.isDisabledOnFailure = false
  registered : ∀ config, lastConfig hist = some config →
    ga.registered = initFieldRegistration (exportFieldsOf handler false config.1)

theorem RegistryInv.step {hist : List GPUClientAction} {ga ga' : GPUMetricsClient}
    (h : RegistryInv handler hist ga) {a : GPUClientAction}
    (hstep : (metricsInterface handler).system.step ga a = some ga')
    : RegistryInv handler (hist ++ [a]) ga' := by
  have hkeep (hne : a.config = none)
      (hmetrics : (metricsSystem handler).step ga (toMetricsAction a) = some ga')
      (hne' : ∀ config, toMetricsAction a ≠ .initConfigs config)
      : RegistryInv handler (hist ++ [a]) ga' := by
    rcases configs_step hmetrics hne' with ⟨hconfigs, hregistered⟩
    refine ⟨by rw [hconfigs, h.isDisabledOnFailure], fun config hconfig => ?_⟩
    rw [hregistered]
    apply h.registered
    rw [lastConfig_concat, hne] at hconfig
    exact hconfig
  cases a with
  | updateStaticMetrics config data => exact hkeep rfl hstep fun _ h => by cases h
  | updateMetrics data => exact hkeep rfl hstep fun _ h => by cases h
  | env client => exact hkeep rfl hstep fun _ h => by cases h
  | initConfigs config =>
    rcases Option.map_eq_some_iff.mp hstep with ⟨configs, hconfigs, rfl⟩
    have hloads := initConfigs_loads hconfigs
    refine ⟨hloads.isDisabledOnFailure.trans h.isDisabledOnFailure, fun config' hconfig' => ?_⟩
    rw [lastConfig_concat] at hconfig'
    cases hconfig'
    rw [hloads.exportFieldMap, h.isDisabledOnFailure]

theorem registered_of_exec {run : List GPUClientAction} {config : Option GPUMetricConfig × HealthConfig}
    {ga : GPUMetricsClient} (hlast : lastConfig run = some config)
    (hexec : (metricsInterface handler).system.exec run (newGPUMetricsClient handler client hostLabels)
      = some ga)
    : ga.registered = initFieldRegistration (exportFieldsOf handler false config.1) := by
  have hinv : RegistryInv handler run ga :=
    (metricsInterface handler).system.exec_history (fun _ _ _ _ h _ hstep => h.step hstep) run [] _ ga
      ⟨rfl, fun _ h => by cases h⟩ ((metricsInterface handler).system.respects_true _ _) hexec
  exact hinv.registered config hlast

/--
`x` has the values that the client shows after the steps, the last configuration of which is the given one
and the last of which is a scrape of the data, for the fields that the configuration asks for, and no others.
-/
def ShowsConfig (handler : GPUHandler) (client : GPUAgentGPUClient) (hostLabels : GoMap String String)
    (config : Option GPUMetricConfig × HealthConfig) (run : List GPUClientAction) (data : ScrapeData)
    (x : Exposition) : Prop :=
  lastConfig run = some config ∧ run.getLast? = some (.updateMetrics data) ∧
    ∃ t, (metricsInterface handler).system.exec run (newGPUMetricsClient handler client hostLabels) = some t
      ∧ ∀ field values v, x field values = some v ↔
        SelectsField config.1 field
          ∧ (field ∈ profilerFields → profilesHost handler config.1 = true)
          ∧ ∃ gpus ∈ data.answer, t.Shows handler data gpus field values v

variable {φ : Type u} {κ : Type v} {reader : ConfigReader φ κ}
  {view : Config κ → Option GPUMetricConfig × HealthConfig}

end Served

section Instances

def servedRun : List (LifecycleAction (Option UInt32) ScrapeData GPUAgentGPUClient) :=
  [.watcher .main, .initConfigs 0, .updateStaticMetrics 0 twoData, .watcher .main, .watcher .main,
    .watcher .expire, .watcher .timer, .watcher (.stopServer true), .watcher .startServer,
    .initConfigs 0, .updateStaticMetrics 0 twoData, .watcher .startServer, .request 1,
    .serve 0 .next, .serve 0 .next, .serve 0 (.client 0 twoData), .serve 0 (.client 0 twoData),
    .serve 0 .next, .serve 0 .next]

def allFields (_ : Config UInt32) : Option GPUMetricConfig × HealthConfig :=
  (none, plainHealthConfig)

def servedWatcher : ConfigWatcher (Option UInt32) UInt32 where
  maxQueuedEvents := 16384
  file := none
  runConf := NewConfig
  server := some 5000
  main := .waiting
  loop := .selecting
  debounce := .stopped
  queue := []

theorem orderly_allFields [CaseMap]
    {s : Lifecycle (Option UInt32) UInt32 GPUMetricsClient ScrapeData Exposition}
    {a : LifecycleAction (Option UInt32) ScrapeData GPUAgentGPUClient}
    (h : s.Orderly ConfigWatcher.portReader allFields (fun _ => True) a)
    : s.Orderly ConfigWatcher.portReader allFields LoadableConfig a := by
  cases a with
  | watcher b =>
    refine ⟨h.1, ?_⟩
    cases b with
    | change file op => exact ⟨loadable_none _, by simp [allFields, AvoidsPods]⟩
    | _ => trivial
  | _ => trivial

end Instances

end GPUMetricsClient

end GPUAgent
