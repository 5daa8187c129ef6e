import DeviceMetricsExporter.Lib.GoStrings
import DeviceMetricsExporter.GPUAgent.Lemmas.Scrape

/-!
This module contains which entries a pass writes for one GPU are the same series: no two of them, if
the process ids of the GPU are distinct.
-/

namespace GPUAgent

open Exporter GPUMetricField

structure Keyed (fields : List GPUMetricField) (entries : List MetricEntry) : Prop where
  field_mem : ∀ e ∈ entries, e.field ∈ fields
  eq_of_key : ∀ e ∈ entries, ∀ e' ∈ entries, e.field = e'.field → e.index = e'.index → e = e'

namespace Keyed

variable {fields fields' : List GPUMetricField} {entries entries' : List MetricEntry}

theorem nil (fields : List GPUMetricField) : Keyed fields [] where
  field_mem := by simp
  eq_of_key := by simp

theorem append (h : Keyed fields entries) (h' : Keyed fields' entries')
    (hdisj : ∀ field ∈ fields, field ∉ fields') : Keyed (fields ++ fields') (entries ++ entries') where
  field_mem e he := by
    rcases List.mem_append.mp he with he | he
    . exact List.mem_append_left _ (h.field_mem e he)
    . exact List.mem_append_right _ (h'.field_mem e he)
  eq_of_key e he e' he' hfield hindex := by
    rcases List.mem_append.mp he with he | he
    . rcases List.mem_append.mp he' with he' | he'
      . exact h.eq_of_key e he e' he' hfield hindex
      . exact absurd (h'.field_mem e' he') (hfield ▸ hdisj _ (h.field_mem e he))
    . rcases List.mem_append.mp he' with he' | he'
      . exact absurd (h'.field_mem e he) (hfield ▸ hdisj _ (h.field_mem e' he'))
      . exact h'.eq_of_key e he e' he' hfield hindex

theorem elim {α : Type} {o : Option α} {f : α → List MetricEntry} (h : ∀ x, Keyed fields (f x))
    : Keyed fields (o.elim [] f) := by
  cases o with
  | none => exact nil fields
  | some x => exact h x

end Keyed

section Tables

theorem keyed_scalarEntries {fields : List GPUMetricField}
    {values : List (GPUMetricField × MetricValue)} (hvalues : values.map (·.1) = fields)
    (hnodup : fields.Nodup) : Keyed fields (scalarEntries values) := by
  have hmem : ∀ e ∈ scalarEntries values, ∃ v ∈ values,
      e = ⟨v.1, [], v.2.normalizeUint64, true⟩ := by
    intro e he
    rcases List.mem_filterMap.mp he with ⟨v, hv, heq⟩
    split at heq
    . exact ⟨v, hv, (Option.some.inj heq).symm⟩
    . cases heq
  subst hvalues
  constructor
  . intro e he
    rcases hmem e he with ⟨v, hv, rfl⟩
    exact List.mem_map_of_mem hv
  . intro e he e' he' hfield _
    rcases hmem e he with ⟨v, hv, rfl⟩
    rcases hmem e' he' with ⟨v', hv', rfl⟩
    rw [List.inj_on_of_nodup_map hnodup hv hv' hfield]

theorem mem_entryIf {applicable : Bool} {field : GPUMetricField} {index : List String} {value : ℚ}
    {e : MetricEntry}
    : e ∈ entryIf applicable field index value ↔ applicable = true ∧ e = ⟨field, index, value, false⟩ := by
  unfold entryIf
  split
  . simp [*]
  . simp [*]

theorem keyed_entryIf (applicable : Bool) (field : GPUMetricField) (index : List String) (value : ℚ)
    : Keyed [field] (entryIf applicable field index value) where
  field_mem e he := by
    rw [(mem_entryIf.mp he).2]
    exact List.mem_cons_self
  eq_of_key e he e' he' _ _ := by
    rw [(mem_entryIf.mp he).2, (mem_entryIf.mp he').2]

theorem keyed_flatMap {α : Type} {fields : List GPUMetricField} {xs : List α}
    {f : α → List MetricEntry} (hf : ∀ x ∈ xs, Keyed fields (f x))
    (hindex : ∀ x ∈ xs, ∀ y ∈ xs, ∀ e ∈ f x, ∀ e' ∈ f y, e.index = e'.index → x = y)
    : Keyed fields (xs.flatMap f) where
  field_mem e he := by
    rcases List.mem_flatMap.mp he with ⟨x, hx, he⟩
    exact (hf x hx).field_mem e he
  eq_of_key e he e' he' hfield hkey := by
    rcases List.mem_flatMap.mp he with ⟨x, hx, he⟩
    rcases List.mem_flatMap.mp he' with ⟨y, hy, he'⟩
    cases hindex x hx y hy e he e' he' hkey
    exact (hf x hx).eq_of_key e he e' he' hfield hkey

theorem zipIdx_inj {α : Type} {xs : List α} {j : Nat} {p q : α × Nat} (hp : p ∈ xs.zipIdx j)
    (hq : q ∈ xs.zipIdx j) (h : p.2.repr = q.2.repr) : p = q := by
  rcases p with ⟨x, i⟩
  rcases q with ⟨y, i'⟩
  cases natRepr_injective h
  rw [List.mk_mem_zipIdx_iff_le_and_getElem?_sub] at hp hq
  cases Option.some.inj (hp.2.symm.trans hq.2)
  rfl

theorem keyed_listEntries {α : Type} (field : GPUMetricField) (applicable : α → Bool) (value : α → ℚ)
    (xs : List α) : Keyed [field] (listEntries field applicable value xs) := by
  have hmem : ∀ e ∈ listEntries field applicable value xs, ∃ p ∈ xs.zipIdx,
      e = ⟨field, [p.2.repr], value p.1, false⟩ := by
    intro e he
    unfold listEntries at he
    split at he
    . rcases List.mem_filterMap.mp he with ⟨p, hp, heq⟩
      split at heq
      . exact ⟨p, hp, (Option.some.inj heq).symm⟩
      . cases heq
    . cases he
  constructor
  . intro e he
    rcases hmem e he with ⟨p, _, rfl⟩
    exact List.mem_cons_self
  . intro e he e' he' _ hindex
    rcases hmem e he with ⟨p, hp, rfl⟩
    rcases hmem e' he' with ⟨q, hq, rfl⟩
    cases zipIdx_inj hp hq (by simpa using hindex)
    rfl

theorem keyed_clockEntries [CaseMap] (clocks : List Amdgpu.GPUClockStatus) (j : Nat)
    : Keyed [GPU_CLOCK, GPU_MIN_CLOCK, GPU_MAX_CLOCK] (clockEntries clocks j) := by
  apply keyed_flatMap
  . intro p _
    exact ((keyed_entryIf _ GPU_CLOCK _ _).append (keyed_entryIf _ GPU_MIN_CLOCK _ _) (by decide)).append
      (keyed_entryIf _ GPU_MAX_CLOCK _ _) (by decide)
  . intro p hp q hq e he e' he' hindex
    apply zipIdx_inj hp hq
    simp only [List.mem_append, mem_entryIf] at he he'
    grind

theorem keyed_linkEntries (xgmiStats : List HealthCLI.GPUXGMILinkStats) (j : Nat)
    : Keyed [GPU_XGMI_LINK_RX, GPU_XGMI_LINK_TX] (linkEntries xgmiStats j) := by
  apply keyed_flatMap
  . intro p _
    exact (keyed_entryIf _ GPU_XGMI_LINK_RX _ _).append (keyed_entryIf _ GPU_XGMI_LINK_TX _ _)
      (by decide)
  . intro p hp q hq e he e' he' hindex
    apply zipIdx_inj hp hq
    simp only [List.mem_append, mem_entryIf] at he he'
    grind

theorem keyed_afidEntries (severity : String) (afids : List UInt64) (i : Nat)
    : Keyed [GPU_AFID_ERRORS] (afidEntries severity afids i) where
  field_mem e he := by
    rcases List.mem_map.mp he with ⟨p, _, rfl⟩
    exact List.mem_cons_self
  eq_of_key e he e' he' _ hindex := by
    rcases List.mem_map.mp he with ⟨p, hp, rfl⟩
    rcases List.mem_map.mp he' with ⟨q, hq, rfl⟩
    cases zipIdx_inj hp hq (by simpa using hindex)
    rfl

theorem keyed_processEntries {processInfo : List Amdgpu.ProcessInfo}
    (hpids : (processInfo.map (·.pId)).Nodup)
    : Keyed [GPU_PROCESS_CU_OCCUPANCY] (processEntries processInfo) := by
  apply keyed_flatMap
  . intro procInfo _
    apply keyed_entryIf
  . intro procInfo hproc procInfo' hproc' e he e' he' hindex
    rw [(mem_entryIf.mp he).2, (mem_entryIf.mp he').2] at hindex
    apply List.inj_on_of_nodup_map hpids hproc hproc'
    apply UInt32.toNat_inj.mp
    apply natRepr_injective
    simpa using hindex

theorem keyed_xccEntries {values : List (GPUMetricField × List UInt64)}
    (hnodup : (values.map (·.1)).Nodup) : Keyed (values.map (·.1)) (xccEntries values) := by
  induction values with
  | nil => exact Keyed.nil []
  | cons v values ih =>
    rw [List.map_cons, List.nodup_cons] at hnodup
    have hdisj : ∀ field ∈ [v.1], field ∉ values.map (·.1) := by
      simpa using hnodup.1
    exact (keyed_listEntries v.1 uint64Applicable float64OfUint64 v.2).append (ih hnodup.2) hdisj

theorem keyed_healthEntries (hstate : Option GPUState) : Keyed [GPU_HEALTH] (healthEntries hstate) := by
  apply Keyed.elim
  intro hstate
  constructor
  . simp
  . simp

end Tables

section Profiler

theorem profilerField_inj {mkey mkey' : String} {field : GPUMetricField}
    (h : profilerField mkey = some field) (h' : profilerField mkey' = some field) : mkey = mkey' := by
  have hnodup : (profilerCases.map (·.2)).Nodup := by decide
  rcases Option.map_eq_some_iff.mp h with ⟨v, hv, rfl⟩
  rcases Option.map_eq_some_iff.mp h' with ⟨v', hv', heq⟩
  have hname : v.1 = mkey := by simpa using List.find?_some hv
  have hname' : v'.1 = mkey' := by simpa using List.find?_some hv'
  rw [← hname, ← hname', List.inj_on_of_nodup_map hnodup (List.mem_of_find?_eq_some hv')
    (List.mem_of_find?_eq_some hv) heq]

theorem mem_setEntries {profMetrics : GoMap String ℚ} {e : MetricEntry}
    (he : e ∈ profMetrics.entries.filterMap fun e =>
      (profilerField e.1).map fun field => ⟨field, [], profilerValue field e.2, false⟩)
    : ∃ mkey value field, profMetrics.lookup mkey = some value ∧ profilerField mkey = some field
        ∧ e = ⟨field, [], profilerValue field value, false⟩ := by
  rcases List.mem_filterMap.mp he with ⟨⟨mkey, value⟩, hmem, heq⟩
  rcases Option.map_eq_some_iff.mp heq with ⟨field, hfield, rfl⟩
  exact ⟨mkey, value, field, AList.mem_lookup_iff.mpr hmem, hfield, rfl⟩

def profilerCaseFields : List GPUMetricField :=
  profilerCases.map (·.2) ++ [GPU_PROF_OCCUPANCY_ELAPSED]

theorem keyed_profilerEntries [FloatOps] (profMetrics : GoMap String ℚ)
    : Keyed profilerCaseFields (profilerEntries profMetrics) := by
  apply Keyed.append _ _ (by decide)
  . constructor
    . intro e he
      rcases mem_setEntries he with ⟨mkey, value, field, _, hfield, rfl⟩
      rcases Option.map_eq_some_iff.mp hfield with ⟨v, hv, rfl⟩
      exact List.mem_map_of_mem (List.mem_of_find?_eq_some hv)
    . intro e he e' he' heq _
      rcases mem_setEntries he with ⟨mkey, value, field, hvalue, hfield, rfl⟩
      rcases mem_setEntries he' with ⟨mkey', value', field', hvalue', hfield', rfl⟩
      cases heq
      cases profilerField_inj hfield hfield'
      cases Option.some.inj (hvalue.symm.trans hvalue')
      rfl
  . unfold elapsedEntries
    split
    . apply keyed_entryIf
    . exact Keyed.nil _

end Profiler

section Counters

theorem keyed_temperatureEntries [FloatOps] (tempStats : HealthCLI.GPUTemperatureStats)
    : Keyed
        ([GPU_EDGE_TEMPERATURE, GPU_JUNCTION_TEMPERATURE, GPU_MEMORY_TEMPERATURE] ++ [GPU_HBM_TEMPERATURE])
        (temperatureEntries tempStats) := by
  apply Keyed.append _ _ (by decide)
  . exact keyed_scalarEntries rfl (by decide)
  . apply keyed_listEntries

def usageFields : List GPUMetricField :=
  (usageValues {}).map (·.1) ++ [GPU_VCN_ACTIVITY] ++ [GPU_JPEG_ACTIVITY] ++ [GPU_GFX_BUSY_INSTANTANEOUS]
    ++ [GPU_VCN_BUSY_INSTANTANEOUS] ++ [GPU_JPEG_BUSY_INSTANTANEOUS]

theorem keyed_usageEntries (gpuUsage : Amdgpu.GPUUsage) : Keyed usageFields (usageEntries gpuUsage) := by
  have hscalar : Keyed ((usageValues {}).map (·.1)) (scalarEntries (usageValues gpuUsage)) :=
    keyed_scalarEntries rfl (by decide)
  exact hscalar.append (keyed_listEntries GPU_VCN_ACTIVITY _ _ _) (by decide)
    |>.append (keyed_listEntries GPU_JPEG_ACTIVITY _ _ _) (by decide)
    |>.append (keyed_listEntries GPU_GFX_BUSY_INSTANTANEOUS _ _ _) (by decide)
    |>.append (keyed_listEntries GPU_VCN_BUSY_INSTANTANEOUS _ _ _) (by decide)
    |>.append (keyed_listEntries GPU_JPEG_BUSY_INSTANTANEOUS _ _ _) (by decide)

def violationFields : List GPUMetricField :=
  (violationValues {}).map (·.1) ++ (xccValues {}).map (·.1)

theorem keyed_violationEntries (violationStats : Amdgpu.GPUViolationStats)
    : Keyed violationFields (violationEntries violationStats) := by
  apply Keyed.append _ _ (by decide)
  . exact keyed_scalarEntries rfl (by decide)
  . have hnodup : ((xccValues {}).map (·.1)).Nodup := by decide
    have hkeyed : Keyed ((xccValues violationStats).map (·.1)) (xccEntries (xccValues violationStats)) :=
      keyed_xccEntries hnodup
    exact hkeyed

theorem keyed_vramValues [FloatOps] (vramUsage : Option HealthCLI.GPUVRAMUsage)
    (vramStatus : Option Amdgpu.GPUVRAMStatus)
    : Keyed [GPU_TOTAL_VRAM, GPU_USED_VRAM, GPU_FREE_VRAM]
        (scalarEntries (vramValues vramUsage vramStatus)) := by
  unfold vramValues
  dsimp only
  split
  . exact keyed_scalarEntries rfl (by decide)
  . exact Keyed.nil _

theorem keyed_scalarEntries_elim {α : Type} {fields : List GPUMetricField} (o : Option α)
    {values : α → List (GPUMetricField × MetricValue)} (hvalues : ∀ x, (values x).map (·.1) = fields)
    (hnodup : fields.Nodup) : Keyed fields (scalarEntries (o.elim [] values)) := by
  cases o with
  | none => exact Keyed.nil fields
  | some x => exact keyed_scalarEntries (hvalues x) hnodup

def DistinctProcesses (gpu : Amdgpu.GPU) : Prop :=
  ((gpu.status.processStatus.getD []).map (·.pId)).Nodup

def counterFields : List GPUMetricField :=
  [GPU_PACKAGE_POWER, GPU_AVERAGE_PACKAGE_POWER]
    ++ ([GPU_EDGE_TEMPERATURE, GPU_JUNCTION_TEMPERATURE, GPU_MEMORY_TEMPERATURE] ++ [GPU_HBM_TEMPERATURE])
    ++ usageFields
    ++ (voltageValues {}).map (·.1)
    ++ (pcieStatusValues {}).map (·.1)
    ++ (pcieStatsValues {}).map (·.1)
    ++ [GPU_ENERGY_CONSUMED]
    ++ [GPU_CLOCK, GPU_MIN_CLOCK, GPU_MAX_CLOCK]
    ++ [GPU_POWER_USAGE]
    ++ [GPU_VRAM_MAX_BANDWIDTH]
    ++ (eccValues {}).map (·.1)
    ++ (xgmiNeighborValues {}).map (·.1)
    ++ (vramUsageValues {}).map (·.1)
    ++ [GPU_TOTAL_VRAM, GPU_USED_VRAM, GPU_FREE_VRAM]
    ++ [GPU_XGMI_LINK_RX, GPU_XGMI_LINK_TX]
    ++ violationFields
    ++ [GPU_AFID_ERRORS]
    ++ [GPU_PROCESS_CU_OCCUPANCY]

set_option maxRecDepth 1000 in
theorem keyed_counterEntries [FloatOps] [CaseMap] {gpu : Amdgpu.GPU} (hpids : DistinctProcesses gpu)
    (stats : Amdgpu.GPUStats) (cper : Option Amdgpu.CPEREntry)
    : Keyed counterFields (counterEntries gpu stats cper) := by
  have hpower : Keyed [GPU_PACKAGE_POWER, GPU_AVERAGE_PACKAGE_POWER]
      (scalarEntries (unconditional (packagePowerValues stats))) :=
    keyed_scalarEntries rfl (by decide)
  have hvoltage : Keyed ((voltageValues {}).map (·.1))
      (scalarEntries (stats.voltage.elim [] voltageValues)) :=
    keyed_scalarEntries_elim stats.voltage (fun _ => rfl) (by decide)
  have hpcieStatus : Keyed ((pcieStatusValues {}).map (·.1))
      (scalarEntries (gpu.status.pcieStatus.elim [] pcieStatusValues)) :=
    keyed_scalarEntries_elim gpu.status.pcieStatus (fun _ => rfl) (by decide)
  have hpcieStats : Keyed ((pcieStatsValues {}).map (·.1))
      (scalarEntries (stats.pcieStats.elim [] pcieStatsValues)) :=
    keyed_scalarEntries_elim stats.pcieStats (fun _ => rfl) (by decide)
  have henergy : Keyed [GPU_ENERGY_CONSUMED] (scalarEntries (unconditional (energyValues stats))) :=
    keyed_scalarEntries rfl (by decide)
  have husage : Keyed [GPU_POWER_USAGE] (scalarEntries (unconditional (powerUsageValues stats))) :=
    keyed_scalarEntries rfl (by decide)
  have hbandwidth : Keyed [GPU_VRAM_MAX_BANDWIDTH]
      (scalarEntries (vramMaxBandwidthValues gpu.status.vramStatus)) :=
    keyed_scalarEntries rfl (by decide)
  have hecc : Keyed ((eccValues {}).map (·.1)) (scalarEntries (eccValues stats)) :=
    keyed_scalarEntries rfl (by decide)
  have hneighbor : Keyed ((xgmiNeighborValues {}).map (·.1)) (scalarEntries (xgmiNeighborValues stats)) :=
    keyed_scalarEntries rfl (by decide)
  have hvramUsage : Keyed ((vramUsageValues {}).map (·.1))
      (scalarEntries (stats.vramUsage.elim [] vramUsageValues)) :=
    keyed_scalarEntries_elim stats.vramUsage (fun _ => rfl) (by decide)
  have hafids : Keyed [GPU_AFID_ERRORS] (cper.elim [] cperEntries) :=
    Keyed.elim fun cper => keyed_afidEntries _ cper.afId 0
  have hprocesses : Keyed [GPU_PROCESS_CU_OCCUPANCY]
      (gpu.status.processStatus.elim [] processEntries) := by
    unfold DistinctProcesses at hpids
    cases hstatus : gpu.status.processStatus with
    | none => exact Keyed.nil _
    | some processInfo =>
      rw [hstatus] at hpids
      exact keyed_processEntries hpids
  unfold counterEntries counterFields
  exact hpower.append (Keyed.elim keyed_temperatureEntries) (by decide)
    |>.append (Keyed.elim keyed_usageEntries) (by decide)
    |>.append hvoltage (by decide)
    |>.append hpcieStatus (by decide)
    |>.append hpcieStats (by decide)
    |>.append henergy (by decide)
    |>.append (Keyed.elim (keyed_clockEntries · 0)) (by decide)
    |>.append husage (by decide)
    |>.append hbandwidth (by decide)
    |>.append hecc (by decide)
    |>.append hneighbor (by decide)
    |>.append hvramUsage (by decide)
    |>.append (keyed_vramValues _ _) (by decide)
    |>.append (Keyed.elim (keyed_linkEntries · 0)) (by decide)
    |>.append (Keyed.elim keyed_violationEntries) (by decide)
    |>.append hafids (by decide)
    |>.append hprocesses (by decide)

theorem field_mem_counterEntries [FloatOps] [CaseMap] {gpu : Amdgpu.GPU} {stats : Amdgpu.GPUStats}
    {cper : Option Amdgpu.CPEREntry} {e : MetricEntry} (he : e ∈ counterEntries gpu stats cper)
    : e.field ∈ counterFields := by
  let idle : Amdgpu.GPU := { gpu with status := { gpu.status with processStatus := none } }
  have hsplit : counterEntries gpu stats cper
      = counterEntries idle stats cper ++ gpu.status.processStatus.elim [] processEntries := by
    unfold counterEntries
    rw [show idle.status.processStatus.elim [] processEntries = [] from rfl, List.append_nil]
  rw [hsplit] at he
  rcases List.mem_append.mp he with he | he
  . have hidle : DistinctProcesses idle := List.nodup_nil
    exact (keyed_counterEntries hidle stats cper).field_mem e he
  . cases hstatus : gpu.status.processStatus with
    | none =>
      rw [hstatus] at he
      exact absurd he List.not_mem_nil
    | some processInfo =>
      rw [hstatus] at he
      rcases List.mem_flatMap.mp he with ⟨procInfo, _, he⟩
      have hfield : GPU_PROCESS_CU_OCCUPANCY ∈ counterFields := by decide
      rw [(mem_entryIf.mp he).2]
      exact hfield

end Counters

namespace GPUMetricsClient

variable [CaseMap] [FloatOps]

theorem keyed_gpuEntries (ga : GPUMetricsClient) (handler : GPUHandler) (data : ScrapeData)
    (cperEntryMap : GoMap String Amdgpu.CPEREntry) {gpu : Amdgpu.GPU} (hpids : DistinctProcesses gpu)
    : Keyed ([GPU_HEALTH] ++ counterFields ++ profilerCaseFields)
        (ga.gpuEntries handler data cperEntryMap gpu) := by
  unfold gpuEntries
  split
  . exact ((keyed_healthEntries _).append (Keyed.elim fun _ => keyed_counterEntries hpids _ _)
      (by decide)).append (Keyed.elim keyed_profilerEntries) (by decide +kernel)
  . exact Keyed.nil _

theorem field_mem_gpuEntries {ga : GPUMetricsClient} {handler : GPUHandler} {data : ScrapeData}
    {cperEntryMap : GoMap String Amdgpu.CPEREntry} {gpu : Amdgpu.GPU} {e : MetricEntry}
    (he : e ∈ ga.gpuEntries handler data cperEntryMap gpu)
    : e.field ∈ [GPU_HEALTH] ++ counterFields ++ profilerCaseFields := by
  unfold gpuEntries at he
  split at he
  . rcases List.mem_append.mp he with he | he
    . apply List.mem_append_left
      rcases List.mem_append.mp he with he | he
      . exact List.mem_append_left _ ((keyed_healthEntries _).field_mem e he)
      . apply List.mem_append_right
        cases hstats : gpu.stats with
        | none =>
          rw [hstats] at he
          exact absurd he List.not_mem_nil
        | some stats =>
          rw [hstats] at he
          exact field_mem_counterEntries he
    . exact List.mem_append_right _ ((Keyed.elim keyed_profilerEntries).field_mem e he)
  . exact absurd he List.not_mem_nil

end GPUMetricsClient

end GPUAgent
