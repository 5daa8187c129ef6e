import DeviceMetricsExporter.Exporter.Impl.Labels

/-!
This module contains the labels of the NIC metrics: those of a NIC that `nicctl` reports statistics for
and those of a network device of a pod.
-/

namespace NICAgent

open Exporter

inductive NICMetricLabel where
  | NIC_UUID | NIC_ID | FIRMWARE_VERSION
  deriving DecidableEq

namespace NICMetricLabel

def name : NICMetricLabel → String
  | NIC_UUID => "NIC_UUID"
  | NIC_ID => "NIC_ID"
  | FIRMWARE_VERSION => "FIRMWARE_VERSION"

def values : List NICMetricLabel :=
  [NIC_UUID, NIC_ID, FIRMWARE_VERSION]

instance : ProtoEnum NICMetricLabel where
  name := name
  values := values
  mem_values l := by cases l <;> decide
  nodup_names := by decide

end NICMetricLabel

abbrev NICLabel := DeviceLabel NICMetricLabel

instance : ProtoEnum NICLabel where
  name := DeviceLabel.name
  values := DeviceLabel.values
  mem_values := DeviceLabel.mem_values
  nodup_names := by decide

structure Lif where
  name : String
  uuid : String := ""
  pcieAddress : String := ""
  isPF : Bool := false

structure Port where
  index : String
  uuid : String
  name : String

structure NIC where
  index : String
  uuid : String
  serialNumber : String
  firmwareVersion : String
  lifs : GoMap String Lif
  ethBDF : String := ""
  ports : GoMap String Port := ∅
  sriovConfiguredOnHost : Bool := false

structure NetDevice where
  intfName : String
  intfAlias : String
  roceDevName : String
  pcieBusId : String

def mandatoryLables : List NICLabel :=
  [.device .NIC_ID, .common .SERIAL_NUMBER, .common .HOSTNAME]

def kubernetesLabels : List MetricLabel :=
  [.POD, .NAMESPACE, .CONTAINER]

def labelEthIntfName : String := "eth_intf_name"

def labelEthIntfAlias : String := "eth_intf_alias"

def labelRdmaDevName : String := "rdma_dev_name"

def labelPcieBusId : String := "pcie_bus_id"

def labelPortName : String := "port_name"

def labelPortID : String := "port_id"

def intfLabels : List String :=
  [labelEthIntfName, labelEthIntfAlias, labelRdmaDevName, labelPcieBusId]

structure NICAgentClient extends LabelConfig where
  nics : GoMap String NIC
  isKubernetes : Bool
  k8PodInfoMap : GoMap String K8sPodInfo
  staticHostLabels : GoMap String String

def appendLabelsWithoutDuplicates (existingLabels newLabels : List String) : List String :=
  existingLabels ++ newLabels.filter (· ∉ existingLabels)

namespace NICAgentClient

variable [CaseMap] (na : NICAgentClient)

def workloadLabels : List String :=
  [toLower MetricLabel.POD.name, toLower MetricLabel.NAMESPACE.name,
    toLower MetricLabel.CONTAINER.name]

def allowedLabel (name : String) : Bool :=
  -- Outside of Kubernetes a configuration cannot turn on the labels of its scheduler.
  !(name ∈ kubernetesLabels.map MetricLabel.name && !na.isKubernetes)

def disallowedLabels : List String :=
  mandatoryLables.map fun label => toLower (ProtoEnum.name label)

def initConfigs (config : Option MetricConfig) : NICAgentClient :=
  { na with
    toLabelConfig :=
      Exporter.initConfigs mandatoryLables na.allowedLabel disallowedLabels na.toLabelConfig config
    k8PodInfoMap := ∅ }

def refresh (k8PodInfoMap : GoMap String K8sPodInfo) : NICAgentClient :=
  { na with k8PodInfoMap := k8PodInfoMap }

def isExtraOrCustomLabel (key : String) : Bool :=
  key ∈ na.extraPodLabelsMap || key ∈ na.customLabelMap

def getExporterNonNICLabels : List String :=
  getExporterNonDeviceLabels na.toLabelConfig

def getNetworkDeviceLabels : List String :=
  appendLabelsWithoutDuplicates (getExportLabels na.toLabelConfig) workloadLabels ++ intfLabels

def findNIC (netDev : NetDevice) : Option NIC :=
  (na.nics.entries.filter fun e => e.2.lifs.entries.any fun l => l.2.name = netDev.intfName).getLast?.map
    (·.2)

def labelOfNetDevice (netDev : NetDevice) (nic : Option NIC) (podInfo : Option PodResourceInfo)
    (key : String) : Option String :=
  if key = toLower MetricLabel.HOSTNAME.name then
    some (getString na.staticHostLabels MetricLabel.HOSTNAME.name)
  else if key = toLower MetricLabel.SERIAL_NUMBER.name then
    some (nic.elim "" (·.serialNumber))
  else if key = toLower NICMetricLabel.NIC_UUID.name then
    some (nic.elim "" (·.uuid))
  else if key = toLower NICMetricLabel.NIC_ID.name then
    some (nic.elim "" (·.index))
  else if key = toLower NICMetricLabel.FIRMWARE_VERSION.name then
    some (nic.elim "" (·.firmwareVersion))
  else if key = toLower MetricLabel.POD.name then
    some (podInfo.elim "" (·.pod))
  else if key = toLower MetricLabel.POD_UUID.name then
    some (getPodUID podInfo na.k8PodInfoMap)
  else if key = toLower MetricLabel.CONTAINER.name then
    some (podInfo.elim "" (·.container))
  else if key = toLower MetricLabel.NAMESPACE.name then
    some (podInfo.elim "" (·.namespace))
  else if key = labelEthIntfName then
    some netDev.intfName
  else if key = labelEthIntfAlias then
    some netDev.intfAlias
  else if key = labelRdmaDevName then
    some netDev.roceDevName
  else if key = labelPcieBusId then
    some netDev.pcieBusId
  else
    none

def populateLabelsForNetDevice (netDev : NetDevice) (podInfo : Option PodResourceInfo)
    : GoMap String String :=
  let nic := na.findNIC netDev
  let keys := na.getNetworkDeviceLabels.filter fun key => !na.isExtraOrCustomLabel key
  let labelMap := GoMap.insertSome ∅ keys id (na.labelOfNetDevice netDev nic podInfo)
  let labelMap :=
    addExtraPodLabels labelMap na.extraPodLabelsMap (getPodLabels podInfo na.k8PodInfoMap)
  addCustomLabels labelMap na.customLabelMap

def labelOfNIC (nic : Option NIC) (ckey : String) : String :=
  -- The switch of `populateLabelsFromNIC`. A label without a case is filled with the empty text.
  match (ProtoEnum.ofName? ckey : Option NICLabel) with
  | some (.device .NIC_UUID) => nic.elim "" (·.uuid)
  | some (.device .NIC_ID) => nic.elim "" (·.index)
  | some (.device .FIRMWARE_VERSION) => nic.elim "" (·.firmwareVersion)
  | some (.common .SERIAL_NUMBER) => nic.elim "" (·.serialNumber)
  | some (.common .HOSTNAME) => getString na.staticHostLabels MetricLabel.HOSTNAME.name
  | _ => ""

def populateLabelsFromNIC (uuid : String) : GoMap String String :=
  let nic := na.nics.lookup uuid
  let labels := populateEnabled na.exportLabels fun ckey =>
    if na.isExtraOrCustomLabel ckey then none else some (na.labelOfNIC nic ckey)
  -- the pod labels of a NIC that is not in the inventory are left out
  let labels := nic.elim labels fun _ =>
    labels.insertEach na.extraPodLabelsMap.keys toLower fun _ => ""
  addCustomLabels labels na.customLabelMap

def populateNonNICLabels : GoMap String String :=
  let labels := GoMap.insertEach ∅ na.getExporterNonNICLabels toLower fun ckey =>
    if ckey = toLower MetricLabel.HOSTNAME.name then
      getString na.staticHostLabels MetricLabel.HOSTNAME.name
    else
      ""
  addCustomLabels labels na.customLabelMap

end NICAgentClient

end NICAgent
