import DeviceMetricsExporter.GPUAgent.Impl.Labels

/-!
This module contains the labels of the metrics about the network ports of a GPU.
-/

namespace GPUAgent

open Exporter

structure UALStation where
  id : List UInt8
  ualDevice : List UInt8

structure UALNetworkPort where
  id : List UInt8
  ualStation : List UInt8
  name : Option String

def ifoeMandatoryLables : List GPULabel :=
  [.common .HOSTNAME, .device .GPU_UUID]

def portLabels : List String :=
  ["station_uuid", "port_name", "device_uuid"]

def addPortLabels (labels : GoMap String String) (stationUuid portName devUuid : String)
    : GoMap String String :=
  ((labels.insert "station_uuid" stationUuid).insert "port_name" portName).insert "device_uuid" devUuid

structure IFOELabelClient extends LabelConfig where
  k8PodInfoMap : GoMap String K8sPodInfo
  staticHostLabels : GoMap String String

namespace IFOELabelClient

variable [CaseMap] (ga : IFOELabelClient)

def initConfigs (config : Option MetricConfig) : IFOELabelClient :=
  { ga with
    toLabelConfig :=
      Exporter.initConfigs ifoeMandatoryLables (fun _ => true) GPULabelClient.disallowedLabels
        ga.toLabelConfig config
    k8PodInfoMap := ∅ }

def getExporterNonIFOELabels : List String :=
  getExporterNonDeviceLabels ga.toLabelConfig

def labelOfPort (ualPort : UALNetworkPort) : GPULabel → Option String
  | .device .GPU_UUID => some (uuidToString ualPort.id)
  | .common .CARD_SERIES => some "card_series_placeholder"
  | .common .CARD_MODEL => some "card_model_placeholder"
  | .common .CARD_VENDOR => some "AMD"
  | .common .DRIVER_VERSION => some "driver_version_placeholder"
  | .common .VBIOS_VERSION => some "vbios_version_placeholder"
  | .common .POD => some "pod_placeholder"
  | .common .NAMESPACE => some "namespace_placeholder"
  | .common .CONTAINER => some "container_placeholder"
  | .common .JOB_ID => some "job_id_placeholder"
  | .common .JOB_USER => some "job_user_placeholder"
  | .common .JOB_PARTITION => some "job_partition_placeholder"
  | .common .CLUSTER_NAME => some "cluster_name_placeholder"
  | .common .SERIAL_NUMBER => some "serial_number_placeholder"
  | .common .HOSTNAME => some (getString ga.staticHostLabels MetricLabel.HOSTNAME.name)
  | .common .POD_UUID => none
  | .device .GPU_ID => none
  | .device .GPU_PARTITION_ID => none
  | .device .GPU_COMPUTE_PARTITION_TYPE => none
  | .device .GPU_MEMORY_PARTITION_TYPE => none
  | .device .KFD_PROCESS_ID => none
  | .device .DEPLOYMENT_MODE => none

def populateLabelsFromObject (ualPort : Option UALNetworkPort) : GoMap String String :=
  -- The workloads and stations that the source passes too are not read. No pod is ever known, the
  -- pod labels are those of the zero `PodResourceInfo`.
  match ualPort with
  | none => populateNodeLabels ga.toLabelConfig ga.staticHostLabels
  | some ualPort =>
    let labels := populateEnabled ga.exportLabels fun ckey =>
      (ProtoEnum.ofName? ckey).bind (ga.labelOfPort ualPort)
    let podInfo : PodResourceInfo := ⟨"", "", ""⟩
    let labels :=
      addExtraPodLabels labels ga.extraPodLabelsMap (getPodLabels podInfo ga.k8PodInfoMap)
    addCustomLabels labels ga.customLabelMap

def ifoeLabels (ualStationMap : GoMap String UALStation) (ualPort : UALNetworkPort)
    : Option (GoMap String String) :=
  let labels := ga.populateLabelsFromObject ualPort
  let stationUuid := uuidToString ualPort.ualStation
  match ualStationMap.lookup stationUuid with
  | none => none
  | some station =>
    some (addPortLabels labels stationUuid (ualPort.name.getD "") (uuidToString station.ualDevice))

end IFOELabelClient

end GPUAgent
