import DeviceMetricsExporter.Exporter.Impl.PodResources
import DeviceMetricsExporter.Exporter.Impl.Slurm
import DeviceMetricsExporter.GPUAgent.Impl.Client

/-!
This module contains the workloads of all schedulers: the devices that the kubelet reports and the job
table of the Slurm client in one map.
-/

namespace GPUAgent

open Exporter

/--
What the agent asks for workloads: the kubelet, which it asks in a cluster only, and the Slurm client
with its table of jobs.
-/
structure Schedulers where
  isKubernetes : Bool
  k8sScheduler : Option PodResourcesClient.Kubelet
  slurmScheduler : Option (GoMap String JobInfo)

def slurmWorkloads (gpuJobs : GoMap String JobInfo) : GoMap String Workload :=
  gpuJobs.map fun _ jobInfo => .slurm jobInfo

namespace Schedulers

variable [CaseMap]

def k8sWorkloads (ga : Schedulers) : Except String (GoMap String Workload) :=
  match ga.isKubernetes, ga.k8sScheduler with
  | true, some k8sScheduler => PodResourcesClient.listWorkloads k8sScheduler
  | _, _ => .ok ∅

def listWorkloads (ga : Schedulers) : GoMap String Workload × Option String :=
  match ga.k8sWorkloads with
  | .error err => (∅, some err)
  | .ok k8sWls =>
    let wls := GoMap.insertEach ∅ k8sWls.entries (·.1) (·.2)
    match ga.slurmScheduler with
    | none => (wls, none)
    | some gpuJobs => (wls.insertEach (slurmWorkloads gpuJobs).entries (·.1) (·.2), none)

end Schedulers

end GPUAgent
