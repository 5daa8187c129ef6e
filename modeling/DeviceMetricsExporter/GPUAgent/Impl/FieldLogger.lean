import DeviceMetricsExporter.Lib.TransitionSystem
import DeviceMetricsExporter.Lib.GoMap
import DeviceMetricsExporter.Lib.Float64

/-!
This module contains the filter of unsupported fields: which values are exported, which fields are
given up, and the static pass after which no more are given up.
-/

namespace GPUAgent

/--
A value as the agent reports it. A floating-point value is given by the integer it converts to.
-/
inductive MetricValue where
  | uint64 (x : UInt64)
  | uint32 (x : UInt32)
  | uint16 (x : UInt16)
  | uint8 (x : UInt8)
  | double (asUint : UInt64)
  | single (asUint : UInt32)
  deriving DecidableEq

namespace MetricValue

def convertFloatToUint : MetricValue → Nat
  | .uint64 x => x.toNat
  | .uint32 x => x.toNat
  | .uint16 x => x.toNat
  | .uint8 x => x.toNat
  | .double asUint => asUint.toNat
  | .single asUint => asUint.toNat

/--
The values that mean NA: the largest ones of the type of the value and of the smaller types.
-/
def sentinels : MetricValue → List Nat
  | .uint64 _ | .double _ =>
    [UInt64.size - 1, UInt32.size - 1, UInt16.size - 1, UInt8.size - 1]
  | .uint32 _ | .single _ => [UInt32.size - 1, UInt16.size - 1, UInt8.size - 1]
  | .uint16 _ => [UInt16.size - 1, UInt8.size - 1]
  | .uint8 _ => [UInt8.size - 1]

def isValueApplicable (val : MetricValue) : Bool :=
  !val.sentinels.contains val.convertFloatToUint

def normalizeUint64 (val : MetricValue) : Nat :=
  if val.isValueApplicable then float64 val.convertFloatToUint else 0

end MetricValue

abbrev Labels := GoMap String String

structure Export where
  gpuid : String
  fieldName : String
  labels : Labels
  value : Nat
  deriving DecidableEq

inductive ErrorCode where
  | ErrorNone
  | ErrorInvalidArgument
  | ErrorNotApplicable
  deriving DecidableEq

/--
The second component is the value that the gauge is set to.
-/
def validateAndExport (labels : Option Labels) (value : Option MetricValue)
    : ErrorCode × Option (Labels × Nat) :=
  match labels, value with
  | some labels, some value =>
    if !value.isValueApplicable then
      (.ErrorNotApplicable, none)
    else
      (.ErrorNone, some (labels, value.normalizeUint64))
  | _, _ => (.ErrorInvalidArgument, none)

structure FieldLogger where
  unsupportedFieldMap : GoMap String Bool
  filterDone : Bool
  deriving DecidableEq

def newFieldLogger : FieldLogger where
  unsupportedFieldMap := ∅
  filterDone := false

def fieldKey (gpuid fieldName : String) : String :=
  gpuid ++ "-" ++ fieldName

namespace FieldLogger

def checkUnsupportedFields (fl : FieldLogger) (gpuid fieldName : String) : Bool :=
  fieldKey gpuid fieldName ∈ fl.unsupportedFieldMap

def markUnsupportedFields (fl : FieldLogger) (gpuid fieldName : String) : FieldLogger :=
  if fl.filterDone then
    fl
  else
    { fl with
      unsupportedFieldMap := fl.unsupportedFieldMap.insert (fieldKey gpuid fieldName) true }

def logUnsupportedField (fl : FieldLogger) (gpuid fieldName : String) : FieldLogger :=
  if fl.filterDone then
    fl
  else if fieldKey gpuid fieldName ∈ fl.unsupportedFieldMap then
    fl
  else
    { fl with
      unsupportedFieldMap := fl.unsupportedFieldMap.insert (fieldKey gpuid fieldName) true }

def logWithValidateAndExport (fl : FieldLogger) (gpuid fieldName : String)
    (labels : Option Labels) (value : Option MetricValue) : FieldLogger × Option Export :=
  if fl.checkUnsupportedFields gpuid fieldName then
    (fl, none)
  else
    match validateAndExport labels value with
    | (.ErrorNone, gauge) => (fl, gauge.map fun (labels, x) => ⟨gpuid, fieldName, labels, x⟩)
    | (.ErrorNotApplicable, _) => (fl.logUnsupportedField gpuid fieldName, none)
    | (.ErrorInvalidArgument, _) => (fl, none)

def reset : FieldLogger :=
  newFieldLogger

def setFilterDone (fl : FieldLogger) : FieldLogger :=
  { fl with filterDone := true }

end FieldLogger

/--
What a pass does with a field of a GPU: it gives the field up, or it exports a value, which is never
nil and comes with labels.
-/
inductive FieldOp where
  | mark (fieldName : String)
  | export (fieldName : String) (labels : Labels) (value : MetricValue)
  deriving DecidableEq

/--
A GPU of a response with what `updateGPUInfoToMetrics` does with its fields, in order.
-/
structure GPUFields where
  gpuid : String
  ops : List FieldOp
  deriving DecidableEq

def FieldLogger.apply (fl : FieldLogger) (gpuid : String) (op : FieldOp)
    : FieldLogger × Option Export :=
  match op with
  | .mark fieldName => (fl.markUnsupportedFields gpuid fieldName, none)
  | .export fieldName labels value =>
    fl.logWithValidateAndExport gpuid fieldName (some labels) (some value)

def FieldLogger.applyAll (fl : FieldLogger) : List (String × FieldOp) → FieldLogger × List Export
  | [] => (fl, [])
  | (gpuid, op) :: ops =>
    let (fl, exported) := fl.apply gpuid op
    let (fl, rest) := fl.applyAll ops
    (fl, exported.toList ++ rest)

def fieldOps (gpus : List GPUFields) : List (String × FieldOp) :=
  gpus.flatMap fun gpu => gpu.ops.map fun op => (gpu.gpuid, op)

structure FieldFilter where
  fl : FieldLogger
  exported : List Export
  deriving DecidableEq

/--
`updateStaticMetrics` and `getMetricsAll` come with the GPUs of the response, `none` for a request
that fails.
-/
inductive FieldAction where
  | initConfigs
  | updateStaticMetrics (resp : Option (List GPUFields))
  | getMetricsAll (resp : Option (List GPUFields))
  deriving DecidableEq

namespace FieldFilter

def update (s : FieldFilter) (gpus : List GPUFields) : FieldFilter :=
  let (fl, exported) := s.fl.applyAll (fieldOps gpus)
  { fl, exported := s.exported ++ exported }

def step (s : FieldFilter) (a : FieldAction) : FieldFilter :=
  match a with
  | .initConfigs => { fl := FieldLogger.reset, exported := [] }
  | .updateStaticMetrics none => s
  | .updateStaticMetrics (some gpus) =>
    let s := s.update gpus
    { s with fl := s.fl.setFilterDone }
  | .getMetricsAll none => s
  | .getMetricsAll (some gpus) => s.update gpus

end FieldFilter

def newFieldFilter : FieldFilter where
  fl := newFieldLogger
  exported := []

def fieldFilterSystem : TransitionSystem FieldFilter FieldAction where
  step s a := some (s.step a)

end GPUAgent
