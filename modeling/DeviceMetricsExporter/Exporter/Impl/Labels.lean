import DeviceMetricsExporter.Lib.CaseMap
import DeviceMetricsExporter.Lib.ProtoEnum
import DeviceMetricsExporter.Exporter.Impl.Scheduler

/-!
This module contains the labels that all devices share: which of them a configuration turns on, the
custom and pod labels it adds, the list of label names that a metric is registered with and the loops
that fill a label map.
-/

namespace Exporter

inductive MetricLabel where
  | CLUSTER_NAME | HOSTNAME | SERIAL_NUMBER | POD | NAMESPACE | CONTAINER | JOB_ID | JOB_USER
  | JOB_PARTITION | CARD_SERIES | CARD_MODEL | CARD_VENDOR | DRIVER_VERSION | VBIOS_VERSION | POD_UUID
  deriving DecidableEq

namespace MetricLabel

def name : MetricLabel → String
  | CLUSTER_NAME => "CLUSTER_NAME"
  | HOSTNAME => "HOSTNAME"
  | SERIAL_NUMBER => "SERIAL_NUMBER"
  | POD => "POD"
  | NAMESPACE => "NAMESPACE"
  | CONTAINER => "CONTAINER"
  | JOB_ID => "JOB_ID"
  | JOB_USER => "JOB_USER"
  | JOB_PARTITION => "JOB_PARTITION"
  | CARD_SERIES => "CARD_SERIES"
  | CARD_MODEL => "CARD_MODEL"
  | CARD_VENDOR => "CARD_VENDOR"
  | DRIVER_VERSION => "DRIVER_VERSION"
  | VBIOS_VERSION => "VBIOS_VERSION"
  | POD_UUID => "POD_UUID"

def values : List MetricLabel :=
  [CLUSTER_NAME, HOSTNAME, SERIAL_NUMBER, POD, NAMESPACE, CONTAINER, JOB_ID, JOB_USER, JOB_PARTITION,
    CARD_SERIES, CARD_MODEL, CARD_VENDOR, DRIVER_VERSION, VBIOS_VERSION, POD_UUID]

instance : ProtoEnum MetricLabel where
  name := name
  values := values
  mem_values l := by cases l <;> decide
  nodup_names := by decide

end MetricLabel

inductive DeviceLabel (α : Type) where
  | common (label : MetricLabel)
  | device (label : α)
  deriving DecidableEq

namespace DeviceLabel

variable {α : Type} [ProtoEnum α]

def name : DeviceLabel α → String
  | common label => ProtoEnum.name label
  | device label => ProtoEnum.name label

def values : List (DeviceLabel α) :=
  ProtoEnum.values.map common ++ ProtoEnum.values.map device

theorem mem_values (l : DeviceLabel α) : l ∈ values := by
  cases l with
  | common label => simp [values, ProtoEnum.mem_values]
  | device label => simp [values, ProtoEnum.mem_values]

end DeviceLabel

structure MetricConfig where
  labels : List String := []
  customLabels : GoMap String String := ∅
  extraPodLabels : GoMap String String := ∅

structure LabelConfig where
  -- The fields of a client that `InitConfigs` fills. `customLabelMap` and `extraPodLabelsMap` have
  -- lower case keys, `exportLabels` has the names of the enumerations.
  exportLabels : GoMap String Bool := ∅
  customLabelMap : GoMap String String := ∅
  extraPodLabelsMap : GoMap String String := ∅

def maxSupportedCustomLabels : Nat := 10

def maxSupportedPodLabels : Nat := 20

section Config

variable [CaseMap]

def enableLabel (allowed : String → Bool) (exportLabels : GoMap String Bool) (label : String)
    : GoMap String Bool :=
  let name := toUpper label
  if name ∈ exportLabels ∧ allowed name then exportLabels.insert name true else exportLabels

def initLabelConfigs (names mandatory : List String) (allowed : String → Bool) (labels : List String)
    : GoMap String Bool :=
  labels.foldl (enableLabel allowed) ((GoMap.setAll ∅ names false).setAll mandatory true)

def initCustomLabels.go (disallowedLabels : List String) (cl : List (Sigma fun _ : String => String))
    (labelCount : Nat) (customLabelMap : GoMap String String) : GoMap String String :=
  match cl with
  | [] => customLabelMap
  | ⟨l, value⟩ :: cl =>
    if labelCount ≥ maxSupportedCustomLabels then
      customLabelMap
    else
      let label := toLower l
      if label ∈ disallowedLabels then
        go disallowedLabels cl labelCount customLabelMap
      else
        go disallowedLabels cl (labelCount + 1) (customLabelMap.insert label value)

def initCustomLabels (disallowedLabels : List String) (customLabels : GoMap String String)
    : GoMap String String :=
  initCustomLabels.go disallowedLabels customLabels.entries 0 ∅

def normalizeExtraPodLabels.go (extraPodLabels : List (Sigma fun _ : String => String))
    (labelCount : Nat) (extraPodLabelsMap : GoMap String String) : GoMap String String :=
  match extraPodLabels with
  | [] => extraPodLabelsMap
  | ⟨prometheusLabel, k8PodLabelName⟩ :: extraPodLabels =>
    if labelCount ≥ maxSupportedPodLabels then
      extraPodLabelsMap
    else
      go extraPodLabels (labelCount + 1)
        (extraPodLabelsMap.insert (toLower prometheusLabel) k8PodLabelName)

def normalizeExtraPodLabels (extraPodLabels : GoMap String String) : GoMap String String :=
  normalizeExtraPodLabels.go extraPodLabels.entries 0 ∅

def initConfigs {α : Type} [ProtoEnum α] (mandatory : List α) (allowed : String → Bool)
    (disallowedLabels : List String) (lc : LabelConfig) (config : Option MetricConfig)
    : LabelConfig where
  -- The label part of `InitConfigs`. A client without a configuration keeps its pod labels.
  exportLabels :=
    initLabelConfigs (ProtoEnum.names α) (mandatory.map ProtoEnum.name) allowed
      (config.elim [] (·.labels))
  customLabelMap := initCustomLabels disallowedLabels (config.elim ∅ (·.customLabels))
  extraPodLabelsMap :=
    config.elim lc.extraPodLabelsMap fun config => normalizeExtraPodLabels config.extraPodLabels

def initPodInfo (lc : LabelConfig) (config : Option MetricConfig) (podInfoEnabled : Bool) : Bool :=
  -- The flag after `InitConfigs` has filled `lc`. It is set and never reset.
  if lc.exportLabels.lookup MetricLabel.POD_UUID.name = some true then true
  else if config.isSome && !lc.extraPodLabelsMap.entries.isEmpty then true
  else podInfoEnabled

end Config

def getString (labels : GoMap String String) (k : String) : String :=
  (labels.lookup k).getD ""

def podUniqueKey (podName «namespace» : String) : String :=
  «namespace» ++ "-" ++ podName

section Pods

variable (podInfo : Option PodResourceInfo) (k8sPodInfoMap : GoMap String K8sPodInfo)

def getPod : Option K8sPodInfo :=
  match podInfo with
  | none => none
  | some podInfo =>
    if podInfo.pod ≠ "" ∧ podInfo.namespace ≠ "" then
      k8sPodInfoMap.lookup (podUniqueKey podInfo.pod podInfo.namespace)
    else
      none

def getPodLabels : GoMap String String :=
  (getPod podInfo k8sPodInfoMap).elim ∅ (·.labels)

def getPodUID : String :=
  (getPod podInfo k8sPodInfoMap).elim "" (·.uid)

end Pods

section Names

variable [CaseMap]

def enabledLabels (exportLabels : GoMap String Bool) : List String :=
  (exportLabels.entries.filter (·.2)).map fun e => toLower e.1

def appendUnique (labelList : List String) (label : String) : List String :=
  if label ∈ labelList then labelList else labelList ++ [label]

def getExportLabels (lc : LabelConfig) : List String :=
  let labelList := enabledLabels lc.exportLabels
  let labelList := lc.extraPodLabelsMap.keys.foldl appendUnique labelList
  lc.customLabelMap.keys.foldl appendUnique labelList

def getExporterNonDeviceLabels (lc : LabelConfig) : List String :=
  toLower MetricLabel.HOSTNAME.name :: lc.customLabelMap.keys.map toLower

def populateEnabled (exportLabels : GoMap String Bool) (value : String → Option String)
    : GoMap String String :=
  GoMap.insertSome ∅ (exportLabels.entries.filter (·.2)) (fun e => toLower e.1) fun e => value e.1

def addExtraPodLabels (labels extraPodLabelsMap : GoMap String String)
    (podLabels : GoMap String String) : GoMap String String :=
  labels.insertEach extraPodLabelsMap.entries (fun e => toLower e.1) fun e => getString podLabels e.2

def addCustomLabels (labels customLabelMap : GoMap String String) : GoMap String String :=
  labels.insertEach customLabelMap.entries (·.1) (·.2)

end Names

end Exporter
