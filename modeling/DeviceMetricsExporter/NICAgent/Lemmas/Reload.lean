import DeviceMetricsExporter.Exporter.Lemmas.Reload
import DeviceMetricsExporter.NICAgent.Impl.Configs

/-!
This module contains what the NIC client is configured to after any sequence of configurations, compared
with a new client that loads the last one only.
-/

namespace NICAgent

open Exporter

theorem podUUIDOptional_nic (client : NICAgentClient)
    : PodUUIDOptional mandatoryLables client.allowedLabel where
  exists_label := ⟨.common .POD_UUID, rfl, by decide⟩
  allowed := by
    have hnot : MetricLabel.POD_UUID.name ∉ kubernetesLabels.map MetricLabel.name := by decide
    simp [NICAgentClient.allowedLabel, hnot]

theorem allowedLabel_congr {client client' : NICAgentClient}
    (h : client.isKubernetes = client'.isKubernetes)
    : client.allowedLabel = client'.allowedLabel := by
  funext name
  rw [NICAgentClient.allowedLabel, NICAgentClient.allowedLabel, h]

section Load

variable [CaseMap] {isKubernetes : Bool} {na : NICConfigs} {configs : List (Option MetricConfig)}

structure NICLoaded (isKubernetes : Bool) (configs : List (Option MetricConfig)) (na : NICConfigs)
    : Prop where
  podInfo : PodInfoLoaded configs na.toLabelConfig na.podInfoEnabled
  isKubernetes_eq : na.isKubernetes = isKubernetes

theorem NICLoaded.initConfigs (hloaded : NICLoaded isKubernetes configs na)
    (config : Option MetricConfig)
    : NICLoaded isKubernetes (configs ++ [config]) (na.initConfigs config) where
  podInfo := hloaded.podInfo.initConfigs (podUUIDOptional_nic na.toNICAgentClient) config
  isKubernetes_eq := hloaded.isKubernetes_eq

theorem nicLoaded_of_exec
    (hexec : nicConfigSystem.exec configs (newNICConfigs isKubernetes) = some na)
    : NICLoaded isKubernetes configs na := by
  refine nicConfigSystem.exec_history (fun configs na config na' hloaded _ hstep => ?_) configs []
    (newNICConfigs isKubernetes) na ⟨podInfoLoaded_nil, rfl⟩ (nicConfigSystem.respects_true configs _)
    hexec
  cases hstep
  exact hloaded.initConfigs config

end Load

section Reload

variable [CaseMap] {isKubernetes : Bool} {na : NICConfigs} {configs : List (Option MetricConfig)}
  {config : Option MetricConfig}

/--
`na` is configured as a new client that loads `config`, in any order of its maps.
-/
def HistoryIndependent (isKubernetes : Bool) (na : NICConfigs) (config : Option MetricConfig)
    : Prop :=
  ∀ config', Option.Rel MetricConfig.Reorders config config' →
    SameLabelConfig na.toLabelConfig
        ((newNICConfigs isKubernetes).initConfigs config').toLabelConfig
      ∧ na.podInfoEnabled = ((newNICConfigs isKubernetes).initConfigs config').podInfoEnabled

structure Supersedes (configs : List (Option MetricConfig)) (config : Option MetricConfig)
    : Prop where
  podInfo : ∀ c ∈ configs, enablesPodInfo c = true → enablesPodInfo config = true
  unordered : ∀ c ∈ config, c.Unordered NICAgentClient.disallowedLabels

theorem nic_historyIndependent_iff
    (hexec : nicConfigSystem.exec (configs ++ [config]) (newNICConfigs isKubernetes) = some na)
    : HistoryIndependent isKubernetes na config ↔ Supersedes configs config := by
  rcases (nicConfigSystem.exec_concat_eq_some).mp hexec with ⟨before, hbefore, hstep⟩
  cases hstep
  have hloaded := nicLoaded_of_exec hbefore
  have hallowed : before.toNICAgentClient.allowedLabel
      = (newNICConfigs isKubernetes).toNICAgentClient.allowedLabel :=
    allowedLabel_congr hloaded.isKubernetes_eq
  have hreload : LabelReload mandatoryLables before.toNICAgentClient.allowedLabel
      NICAgentClient.disallowedLabels before.toLabelConfig before.podInfoEnabled config ↔ _ :=
    labelReload_iff (podUUIDOptional_nic before.toNICAgentClient) hloaded.podInfo config
  have hiff : HistoryIndependent isKubernetes (before.initConfigs config) config ↔
      LabelReload mandatoryLables before.toNICAgentClient.allowedLabel
        NICAgentClient.disallowedLabels before.toLabelConfig before.podInfoEnabled config := by
    simp only [HistoryIndependent, LabelReload, NICConfigs.initConfigs, NICAgentClient.initConfigs,
      hallowed]
    exact Iff.rfl
  rw [hiff, hreload]
  constructor
  . rintro ⟨hkeep, hunordered⟩
    exact ⟨by simpa using hkeep, hunordered⟩
  . rintro ⟨hkeep, hunordered⟩
    exact ⟨by simpa using hkeep, hunordered⟩

end Reload

end NICAgent
