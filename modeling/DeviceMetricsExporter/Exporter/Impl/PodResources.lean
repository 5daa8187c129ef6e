import DeviceMetricsExporter.Lib.CaseMap
import DeviceMetricsExporter.Exporter.Impl.Scheduler

/-!
This module contains the workloads that the Kubernetes scheduler client reads from the answer of the
kubelet: the devices that the device plugin or the DRA driver has allocated to containers.
-/

namespace Exporter

structure ContainerDevices where
  resourceName : String
  deviceIds : List String

structure ClaimResource where
  driverName : String
  deviceName : String

structure DynamicResource where
  claimResources : List ClaimResource

structure ContainerResources where
  name : String
  devices : List ContainerDevices
  dynamicResources : List DynamicResource

structure PodResources where
  name : String
  «namespace» : String
  containers : List ContainerResources

def amdGPUResourcePrefix : String := "amd.com/"

def amdGPUDriverName : String := "gpu.amd.com"

def ContainerDevices.isAMD (devs : ContainerDevices) : Bool :=
  amdGPUResourcePrefix.toList.isPrefixOf devs.resourceName.toList

def ClaimResource.isAMD (claim : ClaimResource) : Bool :=
  amdGPUDriverName.toList.isPrefixOf claim.driverName.toList

namespace PodResourcesClient

/--
The mode is `unlocked` until the first allocation has been found.
-/
inductive Mode where
  | unlocked
  | plugin
  | dra
  deriving DecidableEq

structure Listing where
  mode : Mode := .unlocked
  podInfo : GoMap String Workload := ∅

def workload (pod : PodResources) (container : ContainerResources) : Workload :=
  .kubernetes
    { pod := pod.name
      «namespace» := pod.namespace
      container := container.name }

section Listing

variable [CaseMap]

def listDevices (wl : Workload) (l : Listing) (devs : ContainerDevices) : Listing :=
  if devs.isAMD then
    { mode := .plugin
      podInfo := l.podInfo.setAll (devs.deviceIds.map toLower) wl }
  else
    l

def listClaim (wl : Workload) (l : Listing) (claim : ClaimResource) : Listing :=
  if claim.isAMD then
    { mode := .dra
      podInfo := l.podInfo.insert (toLower claim.deviceName) wl }
  else
    l

def listContainer (pod : PodResources) (l : Listing) (container : ContainerResources) : Listing :=
  let wl := workload pod container
  let l := if l.mode ≠ .dra then container.devices.foldl (listDevices wl) l else l
  if l.mode ≠ .plugin then
    container.dynamicResources.foldl (fun l dyn => dyn.claimResources.foldl (listClaim wl) l) l
  else
    l

def listPods (podResources : List PodResources) : GoMap String Workload :=
  (podResources.foldl (fun l (pod : PodResources) => pod.containers.foldl (listContainer pod) l)
    {}).podInfo

end Listing

def isConnectionError (err : String) : Bool :=
  ["connection refused", "connection reset", "transport is closing"].any fun text =>
    err.toList.tails.any text.toList.isPrefixOf

/--
What the kubelet answers: the first request, the attempt to reconnect and the request after it.
-/
structure Kubelet where
  list : Except String (List PodResources)
  reconnect : Except String Unit
  retry : Except String (List PodResources)

def podResources (kubelet : Kubelet) : Except String (List PodResources) :=
  match kubelet.list with
  | .ok resp => .ok resp
  | .error err =>
    if isConnectionError err then
      match kubelet.reconnect with
      | .error recErr =>
        .error ("failed to reconnect: " ++ recErr ++ " (original error: " ++ err ++ ")")
      | .ok () =>
        match kubelet.retry with
        | .ok resp => .ok resp
        | .error err => .error ("failed to list pod resources after reconnect, " ++ err)
    else
      .error ("failed to list pod resources, " ++ err)

def listWorkloads [CaseMap] (kubelet : Kubelet) : Except String (GoMap String Workload) :=
  (podResources kubelet).map listPods

end PodResourcesClient

end Exporter
