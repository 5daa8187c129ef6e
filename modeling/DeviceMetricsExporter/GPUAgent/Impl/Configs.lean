import DeviceMetricsExporter.Lib.TransitionSystem
import DeviceMetricsExporter.Exporter.Impl.Selector
import DeviceMetricsExporter.GPUAgent.Impl.Fields
import DeviceMetricsExporter.GPUAgent.Impl.Labels

/-!
This module contains the configuration of a GPU client: what `InitConfigs` computes from the
configuration file, and what it keeps of the configuration that was loaded before.
-/

namespace GPUAgent

open Exporter

structure GPUMetricConfig extends MetricConfig where
  selector : String := ""
  fields : List String := []
  profilerMetrics : GoMap String Bool := ∅

/--
What does not change while the agent runs: its flags, the host name, which is empty if it is unknown,
and whether CPER is enabled.
-/
structure GPUHandler where
  enableSriov : Bool
  enableGPUMonitoring : Bool
  hostName : String
  isCperEnabled : Bool

structure GPUConfigs extends LabelConfig where
  exportFieldMap : GoMap String Bool := ∅
  gpuSelectorMap : GoMap Int Bool := ∅
  podInfoEnabled : Bool := false
  enableProfileMetrics : Bool
  enableAfidMetrics : Bool := false
  -- the latch of the profiler client, which no configuration changes
  isDisabledOnFailure : Bool := false

def newGPUConfigs (handler : GPUHandler) : GPUConfigs where
  enableProfileMetrics := !handler.enableSriov

def profilerStarIndex : Nat := 801

def profilerEndIndex : Nat := 1200

def GPUMetricField.ofNumber? (n : Nat) : Option GPUMetricField :=
  values.find? fun field => field.number = n

def profilerFields : List GPUMetricField :=
  (List.range' profilerStarIndex (profilerEndIndex + 1 - profilerStarIndex)).filterMap
    GPUMetricField.ofNumber?

section Fields

variable [CaseMap]

def initFieldConfig (config : Option GPUMetricConfig) : GoMap String Bool :=
  let fields := config.elim [] (·.fields)
  let exportFieldMap :=
    GoMap.setAll ∅ (GPUMetricField.values.map GPUMetricField.name) fields.isEmpty
  fields.foldl (enableLabel fun _ => true) exportFieldMap

def getExporterFieldState (exportFieldMap : GoMap String Bool) (field : String) : Bool :=
  (exportFieldMap.lookup (toUpper field)).getD false

def disableField (exportFieldMap : GoMap String Bool) (field : GPUMetricField)
    : GoMap String Bool :=
  let fieldName := toUpper field.name
  if fieldName ∈ exportFieldMap then exportFieldMap.insert fieldName false else exportFieldMap

end Fields

def initProfilerMetrics (hostName : String) (config : Option GPUMetricConfig) : Bool :=
  let profilerConfigMap := config.elim ∅ (·.profilerMetrics)
  match profilerConfigMap.lookup hostName with
  | some enabled => enabled
  | none => (profilerConfigMap.lookup "all").getD false

def initGPUSelectorConfig (gpuSelectorMap : GoMap Int Bool) (config : Option GPUMetricConfig)
    : Option (GoMap Int Bool) :=
  -- `none` if the selector is never read to its end
  match config with
  | none => some gpuSelectorMap
  | some config =>
    if config.selector = "" then
      some gpuSelectorMap
    else
      match rangeStrToIntIndices config.selector with
      | none => none
      | some (_, some _) => some gpuSelectorMap
      | some (indices, none) => some (gpuSelectorMap.setAll indices true)

namespace GPUConfigs

def isProfilerEnabled (handler : GPUHandler) (ga : GPUConfigs) : Bool :=
  handler.enableGPUMonitoring && ga.enableProfileMetrics && !ga.isDisabledOnFailure

def exporterEnabledGPU (ga : GPUConfigs) (inst : Int) : Bool :=
  if ga.gpuSelectorMap.entries.isEmpty then true else (ga.gpuSelectorMap.lookup inst).isSome

variable [CaseMap]

def initProfilerMetricsField (handler : GPUHandler) (ga : GPUConfigs) : GPUConfigs :=
  if ga.isProfilerEnabled handler then
    ga
  else
    { ga with exportFieldMap := profilerFields.foldl disableField ga.exportFieldMap }

def initConfigs (handler : GPUHandler) (ga : GPUConfigs) (config : Option GPUMetricConfig)
    : Option GPUConfigs :=
  let metricConfig := config.map (·.toMetricConfig)
  let lc :=
    Exporter.initConfigs gpuMandatoryLables (fun _ => true) GPULabelClient.disallowedLabels
      ga.toLabelConfig metricConfig
  let exportFieldMap := initFieldConfig config
  match initGPUSelectorConfig ga.gpuSelectorMap config with
  | none => none
  | some gpuSelectorMap =>
    some <| initProfilerMetricsField handler
      { toLabelConfig := lc
        exportFieldMap := exportFieldMap
        gpuSelectorMap := gpuSelectorMap
        podInfoEnabled := initPodInfo lc metricConfig ga.podInfoEnabled
        enableProfileMetrics := initProfilerMetrics handler.hostName config
        enableAfidMetrics :=
          getExporterFieldState exportFieldMap GPUMetricField.GPU_AFID_ERRORS.name
            && handler.isCperEnabled
        isDisabledOnFailure := ga.isDisabledOnFailure }

end GPUConfigs

def gpuConfigSystem [CaseMap] (handler : GPUHandler)
    : TransitionSystem GPUConfigs (Option GPUMetricConfig) where
  step := GPUConfigs.initConfigs handler

end GPUAgent
