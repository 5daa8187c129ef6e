import DeviceMetricsExporter.NICAgent.Impl.Labels

/-!
This module contains the labels of the statistics that `nicctl` reports for the ports, the LIFs and the
queue pairs of the NICs. All counters of an entry are exported with the same label map.
-/

namespace NICAgent

open Exporter

namespace NIC

/--
The ports that `range` may visit first.
-/
def FirstPort (nic : NIC) (port : Option Port) : Prop :=
  match port with
  | none => nic.ports.entries = []
  | some port => ∃ e ∈ nic.ports.entries, e.2 = port

def getLifName (nic : NIC) (uuid : String) : String :=
  (nic.lifs.lookup uuid).elim "" (·.name)

def getLifPcieAddr (nic : NIC) (uuid : String) : String :=
  (nic.lifs.lookup uuid).elim "" (·.pcieAddress)

def getPortPcieAddr (nic : NIC) : String :=
  nic.ethBDF

end NIC

def getPortName (firstPort : Option Port) : String :=
  firstPort.elim "" (·.name)

def getPortIndex (firstPort : Option Port) : String :=
  firstPort.elim "" (·.index)

/--
A LIF of the response and the port that `range` visits first when it is its turn.
-/
structure LifStats (α : Type) where
  specID : String
  statistics : α
  firstPort : Option Port

structure NICLifStats (α : Type) where
  id : String
  lif : List (LifStats α)

structure Export (α : Type) where
  labels : GoMap String String
  statistics : α

/--
The workloads by PCIe address. All of them come from the Kubernetes scheduler.
-/
abbrev PodWorkloads := GoMap String PodResourceInfo

namespace NICAgentClient

variable [CaseMap] (na : NICAgentClient) (workloads : PodWorkloads) {α : Type}

def noWorkloadLabels : GoMap String String :=
  GoMap.setAll ∅ workloadLabels ""

def getAssociatedWorkloadLabelsForPcieAddr (pcieAddr : String) : GoMap String String :=
  match workloads.lookup pcieAddr with
  | none => noWorkloadLabels
  | some podInfo =>
    let labels := noWorkloadLabels.insert (toLower MetricLabel.POD.name) podInfo.pod
    let labels := labels.insert (toLower MetricLabel.NAMESPACE.name) podInfo.namespace
    let labels := labels.insert (toLower MetricLabel.CONTAINER.name) podInfo.container
    addExtraPodLabels labels na.extraPodLabelsMap (getPodLabels (some podInfo) na.k8PodInfoMap)

def getAssociatedWorkloadLabels (nicID lifID : String) : GoMap String String :=
  match (na.nics.lookup nicID).bind fun nic => nic.lifs.lookup lifID with
  | none => noWorkloadLabels
  | some lif =>
    if lif.pcieAddress ≠ "" then
      na.getAssociatedWorkloadLabelsForPcieAddr workloads lif.pcieAddress
    else
      noWorkloadLabels

/--
The labels of a LIF on top of those that the map has got. The map is not cloned.
-/
def addLifLabels (nicID : String) (nic : NIC) (labels : GoMap String String) (lif : LifStats α)
    : GoMap String String :=
  let workloadLabels := na.getAssociatedWorkloadLabels workloads nicID lif.specID
  let labels := labels.insertEach workloadLabels.entries (·.1) (·.2)
  let labels := labels.insert labelEthIntfName (nic.getLifName lif.specID)
  let labels := labels.insert labelPortName (getPortName lif.firstPort)
  labels.insert labelPcieBusId (nic.getLifPcieAddr lif.specID)

def updateLifStats.lifs (nicID : String) (labels : GoMap String String)
    : List (LifStats α) → Option (List (Export α))
  | [] => some []
  | lif :: lifs => do
    -- the methods of a NIC that is not in the inventory dereference a nil pointer
    let nic ← na.nics.lookup nicID
    let labels := na.addLifLabels workloads nicID nic labels lif
    let exports ← updateLifStats.lifs nicID labels lifs
    return ⟨labels, lif.statistics⟩ :: exports

/--
The exports of each NIC of the response. `none` is a nil pointer.
-/
def updateLifStats (lifStats : List (NICLifStats α)) : Option (List (List (Export α))) :=
  lifStats.mapM fun nic =>
    updateLifStats.lifs na workloads nic.id (na.populateLabelsFromNIC nic.id) nic.lif

/--
The labels that `UpdateQPStats` has for a LIF. They start from a clone of those of the NIC.
-/
def lifQPLabels (nicID : String) (nic : NIC) (lifID : String) : GoMap String String :=
  let labels := na.populateLabelsFromNIC nicID
  let workloadLabels := na.getAssociatedWorkloadLabels workloads nicID lifID
  let labels := labels.insertEach workloadLabels.entries (·.1) (·.2)
  let labels := labels.insert labelEthIntfName (nic.getLifName lifID)
  labels.insert labelPcieBusId (nic.getLifPcieAddr lifID)

end NICAgentClient

/--
A port of the response and the ports that the two loops over the ports visit first when it is its turn.
-/
structure PortStats (α : Type) where
  specID : Option String
  statistics : α
  firstPort : Option Port
  firstPort' : Option Port

structure NICPortStats (α : Type) where
  id : String
  port : List (PortStats α)

structure PortRate (β : Type) where
  specID : Option String
  statistics : Option β

structure NICPortRates (β : Type) where
  id : String
  port : List (PortRate β)

section Rates

variable {β : Type}

def rateStatsMap (portRateStats : List (NICPortRates β)) : GoMap String (GoMap String (Option β)) :=
  GoMap.insertEach ∅ portRateStats (·.id) fun nic =>
    let ports := nic.port.filterMap fun port => port.specID.map fun id => (id, port.statistics)
    GoMap.insertEach ∅ ports (·.1) (·.2)

def portRate (portRateStats : Option (List (NICPortRates β))) (nicID : String)
    (specID : Option String) : Option β := do
  let portRateStats ← portRateStats
  let id ← specID
  let ports ← (rateStatsMap portRateStats).lookup nicID
  let ratePort ← ports.lookup id
  ratePort

end Rates

namespace NICAgentClient

variable [CaseMap] (na : NICAgentClient) {α β : Type}
  (portRateStats : Option (List (NICPortRates β)))

def addPortLabels (nic : NIC) (labels : GoMap String String) (port : PortStats α)
    : GoMap String String :=
  let labels := labels.insert labelPortName (getPortName port.firstPort)
  let labels := labels.insert labelPortID (getPortIndex port.firstPort')
  labels.insert labelPcieBusId nic.getPortPcieAddr

def updatePortStats.ports (nicID : String) (labels : GoMap String String)
    : List (PortStats α) → Option (List (Export (α × Option β)))
  | [] => some []
  | port :: ports => do
    let nic ← na.nics.lookup nicID
    let labels := addPortLabels nic labels port
    let exports ← updatePortStats.ports nicID labels ports
    return ⟨labels, port.statistics, portRate portRateStats nicID port.specID⟩ :: exports

def updatePortStats (portStats : List (NICPortStats α))
    : Option (List (List (Export (α × Option β)))) :=
  portStats.mapM fun nic =>
    updatePortStats.ports na portRateStats nic.id (na.populateLabelsFromNIC nic.id) nic.port

end NICAgentClient

end NICAgent
