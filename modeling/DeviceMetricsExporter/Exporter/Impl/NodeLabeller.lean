import DeviceMetricsExporter.Lib.GoMap

/-!
This module contains the health labels of a node: how a health map is written to the labels, read back
from them and brought up to date.
-/

namespace Exporter

def gpuHealthLabelPrefix : String := "metricsexporter.amd.com.gpu"

structure NodeHealthLabellerConfig where
  labelPrefix : String

namespace NodeHealthLabellerConfig

variable (cfg : NodeHealthLabellerConfig)

def isHealthLabel (key : String) : Bool :=
  cfg.labelPrefix.toList.isPrefixOf key.toList && ".state".toList.isSuffixOf key.toList

def extractDeviceID (label : String) : String :=
  -- The match of the pattern `^prefix\.(.+)\.state$`, the dot does not match a newline. The result
  -- is empty if there is no match.
  match label.toList.dropPrefix? (cfg.labelPrefix ++ ".").toList with
  | none => ""
  | some rest =>
    match rest.dropSuffix? ".state".toList with
    | none => ""
    | some deviceID =>
      if deviceID = [] ∨ '\n' ∈ deviceID then "" else String.ofList deviceID

def parseNodeHealthLabel (nodeLabels : GoMap String String) : GoMap String String :=
  let labels := nodeLabels.entries.filter fun e =>
    cfg.isHealthLabel e.1 && cfg.extractDeviceID e.1 != ""
  GoMap.insertEach ∅ labels (fun e => cfg.extractDeviceID e.1) (·.2)

def removeNodeHealthLabel (nodeLabels : GoMap String String) : GoMap String String :=
  nodeLabels.filter fun key _ => !cfg.isHealthLabel key

def labelKey (deviceID : String) : String :=
  cfg.labelPrefix ++ "." ++ deviceID ++ ".state"

def addNodeHealthLabel (nodeLabels healthMap : GoMap String String) : GoMap String String :=
  let labels := healthMap.entries.filter fun e => !(e.1 = "" || e.2 = "healthy")
  nodeLabels.insertEach labels (fun e => cfg.labelKey e.1) (·.2)

def updateHealthLabel (nodeLabels newHealthMap : GoMap String String) : GoMap String String :=
  let oldHealthMap := cfg.parseNodeHealthLabel nodeLabels
  if GoMap.deepEqual oldHealthMap newHealthMap then
    nodeLabels
  else
    cfg.addNodeHealthLabel (cfg.removeNodeHealthLabel nodeLabels) newHealthMap

end NodeHealthLabellerConfig

end Exporter
