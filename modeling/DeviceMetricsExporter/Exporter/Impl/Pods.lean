import DeviceMetricsExporter.Exporter.Impl.Labels

/-!
This module contains the map of the pods on the node, keyed by the string form of their unique key.
-/

namespace Exporter

structure Pod where
  name : String
  «namespace» : String
  uid : String
  labels : GoMap String String

def Pod.key (pod : Pod) : String :=
  podUniqueKey pod.name pod.namespace

def k8PodLabelsMap (pods : List Pod) : GoMap String K8sPodInfo :=
  GoMap.insertEach ∅ pods Pod.key fun pod => ⟨pod.labels, pod.uid⟩

def getAllPods (listPods : Option (List Pod)) : Option (GoMap String K8sPodInfo) :=
  listPods.map k8PodLabelsMap

def Pod.resourceInfo (pod : Pod) (container : String) : PodResourceInfo where
  pod := pod.name
  «namespace» := pod.namespace
  container := container

end Exporter
