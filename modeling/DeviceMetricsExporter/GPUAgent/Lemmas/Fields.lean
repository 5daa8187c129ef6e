import DeviceMetricsExporter.Lib.ProtoEnum
import DeviceMetricsExporter.GPUAgent.Lemmas.ScrapeContent

/-!
This module contains the fields that a configuration of the GPU client puts into the registry.
-/

namespace GPUAgent

open Exporter

namespace GPUMetricField

set_option maxRecDepth 20000 in
theorem nodup_names : (values.map name).Nodup := by
  apply nodup_of_forall₂_ofList fun l => l.foldl (fun hash c => hash * 31 + c.toNat) 0
  constructor
  constructor
  . repeat' constructor
  . decide +kernel

instance protoEnum : ProtoEnum GPUMetricField where
  name := name
  values := values
  mem_values := GPUMetricsClient.mem_fieldMetricsMap
  nodup_names := nodup_names

theorem toUpper_ofList [CaseMap] {l : List Char}
    (h : l.all (fun c => c.toNat < 128 && c.toUpper = c) = true)
    : toUpper (String.ofList l) = String.ofList l := by
  have hmap : ∀ c ∈ l, CaseMap.upper c = id c := by
    intro c hc
    have hascii : c.toNat < 128 ∧ c.toUpper = c := by simpa using List.all_eq_true.mp h c hc
    exact (CaseMap.upper_ascii c hascii.1).trans hascii.2
  rw [toUpper, String.toList_ofList, List.map_congr_left hmap, List.map_id]

theorem toUpper_name [CaseMap] (field : GPUMetricField) : toUpper field.name = field.name := by
  cases field <;> exact toUpper_ofList (by rfl)

theorem metricFieldOfName_eq_some {s : String} {field : GPUMetricField}
    : HealthCLI.metricFieldOfName s = some field ↔ s = field.name := by
  have hfind (s : String) : HealthCLI.metricFieldOfName s = ProtoEnum.ofName? s := rfl
  constructor
  . intro h
    have hname : field.name = s := by
      simpa using List.find?_some h
    exact hname.symm
  . rintro rfl
    exact (hfind _).trans (ProtoEnum.ofName?_name field)

end GPUMetricField

section Selected

variable [CaseMap] {config : Option GPUMetricConfig} {field : GPUMetricField}

/--
The configuration asks for the field: it lists it in any case, or it lists no field at all.
-/
def SelectsField (config : Option GPUMetricConfig) (field : GPUMetricField) : Prop :=
  config.elim [] (·.fields) = [] ∨ ∃ name ∈ config.elim [] (·.fields), toUpper name = field.name

theorem lookup_initFieldConfig
    : (initFieldConfig config).lookup field.name = some true ↔ SelectsField config field := by
  have hmem : field.name ∈ GPUMetricField.values.map GPUMetricField.name :=
    List.mem_map_of_mem (ProtoEnum.mem_values field)
  have hset (v : Bool) (m : GoMap String Bool)
      : (m.setAll (GPUMetricField.values.map GPUMetricField.name) v).lookup field.name = some v := by
    rw [GoMap.lookup_setAll, if_pos hmem]
  rw [initFieldConfig, lookup_foldl_enableLabel, ← AList.lookup_isSome, hset]
  simp [SelectsField]

theorem lookup_disableField {m : GoMap String Bool} {f : GPUMetricField}
    : (disableField m f).lookup field.name = some true ↔
        m.lookup field.name = some true ∧ field ≠ f := by
  have hname : f.name = field.name ↔ f = field :=
    (ProtoEnum.name_injective (α := GPUMetricField)).eq_iff
  simp only [disableField, GPUMetricField.toUpper_name]
  split
  . next hmem =>
    rw [GoMap.lookup_insert_eq_ite]
    grind
  . next hmem =>
    have hnone : m.lookup f.name = none := AList.lookup_eq_none.mpr hmem
    grind

theorem lookup_foldl_disableField {m : GoMap String Bool} {fields : List GPUMetricField}
    : (fields.foldl disableField m).lookup field.name = some true ↔
        m.lookup field.name = some true ∧ field ∉ fields := by
  induction fields generalizing m with
  | nil => simp
  | cons f fields ih =>
    rw [List.foldl_cons, ih, lookup_disableField, List.mem_cons, not_or, and_assoc]

omit [CaseMap] in
theorem mem_initFieldRegistration {m : GoMap String Bool}
    : field ∈ initFieldRegistration m ↔ m.lookup field.name = some true := by
  rw [initFieldRegistration, List.mem_filterMap, ← Option.mem_def, AList.mem_lookup_iff]
  constructor
  . rintro ⟨⟨key, enabled⟩, hmem, hfield⟩
    cases enabled with
    | false => cases hfield
    | true =>
      cases GPUMetricField.metricFieldOfName_eq_some.mp hfield
      exact hmem
  . intro hmem
    exact ⟨_, hmem, GPUMetricField.metricFieldOfName_eq_some.mpr rfl⟩

def profilesHost (handler : GPUHandler) (config : Option GPUMetricConfig) : Bool :=
  handler.enableGPUMonitoring && initProfilerMetrics handler.hostName config

theorem mem_registered_iff {handler : GPUHandler}
    : field ∈ initFieldRegistration (exportFieldsOf handler false config) ↔
        SelectsField config field ∧ (field ∈ profilerFields → profilesHost handler config = true) := by
  rw [mem_initFieldRegistration, exportFieldsOf, Bool.not_false, Bool.and_true]
  split
  . next hprofiles =>
    rw [lookup_initFieldConfig]
    simp [profilesHost, hprofiles]
  . next hprofiles =>
    rw [lookup_foldl_disableField, lookup_initFieldConfig]
    simp [profilesHost, hprofiles]

end Selected

end GPUAgent
