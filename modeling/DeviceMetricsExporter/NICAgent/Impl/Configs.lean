import DeviceMetricsExporter.Lib.TransitionSystem
import DeviceMetricsExporter.NICAgent.Impl.Labels

/-!
This module contains the configuration of the NIC client. It is kept in variables of the package.
-/

namespace NICAgent

open Exporter

structure NICConfigs extends NICAgentClient where
  podInfoEnabled : Bool

def newNICConfigs (isKubernetes : Bool) : NICConfigs where
  nics := ∅
  isKubernetes := isKubernetes
  k8PodInfoMap := ∅
  staticHostLabels := ∅
  podInfoEnabled := false

def NICConfigs.initConfigs [CaseMap] (na : NICConfigs) (config : Option MetricConfig) : NICConfigs :=
  let client := na.toNICAgentClient.initConfigs config
  { toNICAgentClient := client
    podInfoEnabled := initPodInfo client.toLabelConfig config na.podInfoEnabled }

def nicConfigSystem [CaseMap] : TransitionSystem NICConfigs (Option MetricConfig) where
  step na config := some (na.initConfigs config)

end NICAgent
