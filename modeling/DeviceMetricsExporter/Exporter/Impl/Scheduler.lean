import DeviceMetricsExporter.Lib.GoMap

/-!
This module contains the workloads a scheduler reports and the pods the Kubernetes API reports.
-/

namespace Exporter

structure PodResourceInfo where
  pod : String
  «namespace» : String
  container : String
  deriving DecidableEq

structure JobInfo where
  id : String
  user : String
  partition : String
  cluster : String
  deriving DecidableEq

inductive Workload where
  | kubernetes (podInfo : PodResourceInfo)
  | slurm (jobInfo : JobInfo)
  deriving DecidableEq

def Workload.toString : Workload → String
  | .kubernetes podInfo =>
    "Pod: " ++ podInfo.pod ++ ", Namespace: " ++ podInfo.namespace ++ ", Container: "
      ++ podInfo.container
  | .slurm jobInfo =>
    "Job: " ++ jobInfo.id ++ ", User: " ++ jobInfo.user ++ ", Partition: " ++ jobInfo.partition
      ++ ", Cluster: " ++ jobInfo.cluster

structure K8sPodInfo where
  labels : GoMap String String
  uid : String

end Exporter
