import DeviceMetricsExporter.Lib.GoStrings
import DeviceMetricsExporter.Lib.LRU
import DeviceMetricsExporter.Lib.TransitionSystem
import DeviceMetricsExporter.NICAgent.Impl.Labels

/-!
This module contains the two caches of the NIC agent that are keyed by the name of a pod, the one for
its pid and the one for its network devices, and the pods that run on the node next to them.
-/

namespace NICAgent

open Exporter

structure PodNetDevice extends NetDevice where
  podName : String

/--
One instance of a pod. `netns` is what a command prints in its network namespace, `none` if it fails.
-/
structure PodInstance where
  pid : Int
  netns : String → Option String

/--
What a command prints on the host and whether devices of other vendors are reported too. The kernel
links of a device do not change, so that `rdmaDevToPcieAddr` is the command it remembers.
-/
structure Host where
  run : String → Option String
  nonAMDMetricsEnabled : Bool

def amdVendorID : String := "0x1dd8"

def showRdmaDevicesCmd : String := "rdma link"

def showNetDeviceCmd (intfName : String) : String := "ip link show " ++ intfName

namespace Host

variable [CaseMap] (host : Host)

def getVendor (rdmaDev : String) : Option String :=
  (host.run ("cat /sys/class/infiniband/" ++ rdmaDev ++ "/device/vendor")).map fun data =>
    toLower (trimSpace data)

def isVendorAllowed (vendorID : String) : Bool :=
  vendorID = amdVendorID || host.nonAMDMetricsEnabled

def pcieAddr (rdmaDev : String) : Option String :=
  match host.run ("cat /sys/class/infiniband/" ++ rdmaDev ++ "/device/uevent  | grep PCI_SLOT") with
  | none => none
  | some out =>
    match split (trimSpace out) '=' with
    | _ :: addr :: _ => if addr = "" then none else some addr
    | _ => none

end Host

def lastAlias (intfAlias : String) : List String → String
  | "alias" :: word :: words => lastAlias word (word :: words)
  | _ :: words => lastAlias intfAlias words
  | [] => intfAlias

section Scan

variable [CaseMap] (host : Host) (exec : String → Option String) (podName : String)

def netDevice (roceDevName pcieBusId intfName : String) : PodNetDevice where
  intfName := intfName
  intfAlias :=
    match exec (showNetDeviceCmd intfName) with
    | some res => lastAlias intfName (fields res)
    | none => intfName
  roceDevName := roceDevName
  pcieBusId := pcieBusId
  podName := podName

def scanParts (roceDevName pcieBusId : String) (netDevices : List PodNetDevice)
    : List String → Option (List PodNetDevice)
  -- One line of `rdma link`. A device without vendor or of another vendor ends the line, an unknown
  -- PCIe address the whole scan.
  | "link" :: dev :: parts =>
    let roceDevName := (split dev '/').headD ""
    match host.getVendor roceDevName with
    | none => some netDevices
    | some vendorID =>
      if host.isVendorAllowed vendorID then
        match host.pcieAddr roceDevName with
        | none => none
        | some pcieBusId => scanParts roceDevName pcieBusId netDevices (dev :: parts)
      else
        some netDevices
  | "netdev" :: intfName :: parts =>
    let netDevices := netDevices ++ [netDevice exec podName roceDevName pcieBusId intfName]
    scanParts roceDevName pcieBusId netDevices (intfName :: parts)
  | _ :: parts => scanParts roceDevName pcieBusId netDevices parts
  | [] => some netDevices

def scanLines (netDevices : List PodNetDevice) : List String → Option (List PodNetDevice)
  | [] => some netDevices
  | line :: lines =>
    match scanParts host exec podName "" "" netDevices (fields line) with
    | none => none
    | some netDevices => scanLines netDevices lines

def readNetDevices : Option (List PodNetDevice) :=
  match exec showRdmaDevicesCmd with
  | none => none
  | some res => scanLines host exec podName [] (split res '\n')

end Scan

def podCacheSize : Nat := 100

/--
The running pods by namespace and name, and the caches of the agent.
-/
structure NICNode where
  running : GoMap (String × String) PodInstance
  podnameToPidCache : LRU String Int podCacheSize
  podnameToNetDeviceCache : LRU String (List PodNetDevice) podCacheSize

namespace NICNode

def getPidOfPod (s : NICNode) (criOk : Bool) (podName «namespace» : String) : Option Int :=
  -- the answer of the container runtime, which may fail
  if criOk then (s.running.lookup («namespace», podName)).map (·.pid) else none

def netnsExec (s : NICNode) (pid : Int) (cmd : String) : Option String :=
  match s.running.entries.find? (·.2.pid = pid) with
  | some e => e.2.netns cmd
  | none => none

def addPodPidIfAbsent (s : NICNode) (criOk : Bool) (podName «namespace» : String)
    : NICNode × Bool :=
  match s.podnameToPidCache.get podName with
  | (podnameToPidCache, some _) => ({ s with podnameToPidCache }, true)
  | (podnameToPidCache, none) =>
    let s := { s with podnameToPidCache }
    match s.getPidOfPod criOk podName «namespace» with
    | none => (s, false)
    | some processId =>
      ({ s with podnameToPidCache := podnameToPidCache.add podName processId }, true)

def podnameToPidCacheGet (s : NICNode) (criOk : Bool) (podInfo : Option PodResourceInfo)
    : NICNode × Option Int :=
  match podInfo with
  | none => (s, none)
  | some podInfo =>
    match s.podnameToPidCache.get podInfo.pod with
    | (podnameToPidCache, some pid) => ({ s with podnameToPidCache }, some pid)
    | (podnameToPidCache, none) =>
      match { s with podnameToPidCache }.addPodPidIfAbsent criOk podInfo.pod podInfo.namespace with
      | (s, false) => (s, none)
      | (s, true) =>
        let (podnameToPidCache, pid) := s.podnameToPidCache.get podInfo.pod
        ({ s with podnameToPidCache }, pid)

def getNetDevicesList [CaseMap] (host : Host) (s : NICNode) (criOk : Bool)
    (podInfo : Option PodResourceInfo) : NICNode × Option (List PodNetDevice) :=
  match podInfo with
  | none => (s, readNetDevices host host.run "")
  | some podInfo =>
    match s.podnameToNetDeviceCache.get podInfo.pod with
    | (podnameToNetDeviceCache, some netDevices) =>
      ({ s with podnameToNetDeviceCache }, some netDevices)
    | (podnameToNetDeviceCache, none) =>
      match { s with podnameToNetDeviceCache }.podnameToPidCacheGet criOk (some podInfo) with
      | (s, none) => (s, none)
      | (s, some pid) =>
        match readNetDevices host (s.netnsExec pid) podInfo.pod with
        | none => (s, none)
        | some netDevices =>
          let podnameToNetDeviceCache := s.podnameToNetDeviceCache.add podInfo.pod netDevices
          ({ s with podnameToNetDeviceCache }, some netDevices)

end NICNode

inductive NICAction where
  | create («namespace» podName : String) (inst : PodInstance)
  | delete («namespace» podName : String)
  | addPodPidIfAbsent (criOk : Bool) (podName «namespace» : String)
  | podnameToPidCacheGet (criOk : Bool) (podInfo : Option PodResourceInfo)
  | getNetDevicesList (criOk : Bool) (podInfo : Option PodResourceInfo)

def NICNode.step [CaseMap] (host : Host) (s : NICNode) (a : NICAction) : Option NICNode :=
  match a with
  | .create «namespace» podName inst =>
    -- no two processes have the same pid at the same time
    if (s.running.lookup («namespace», podName)).isNone
        && s.running.entries.all (·.2.pid ≠ inst.pid) then
      some { s with running := s.running.insert («namespace», podName) inst }
    else
      none
  | .delete «namespace» podName =>
    some { s with running := s.running.erase («namespace», podName) }
  | .addPodPidIfAbsent criOk podName «namespace» =>
    some (s.addPodPidIfAbsent criOk podName «namespace»).1
  | .podnameToPidCacheGet criOk podInfo => some (s.podnameToPidCacheGet criOk podInfo).1
  | .getNetDevicesList criOk podInfo => some (s.getNetDevicesList host criOk podInfo).1

def nicSystem [CaseMap] (host : Host) : TransitionSystem NICNode NICAction where
  step := NICNode.step host

def newNICNode : NICNode where
  running := ∅
  podnameToPidCache := .empty
  podnameToNetDeviceCache := .empty

end NICAgent
