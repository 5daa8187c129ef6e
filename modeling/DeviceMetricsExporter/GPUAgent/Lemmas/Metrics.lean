import DeviceMetricsExporter.GPUAgent.Impl.Scrape
import DeviceMetricsExporter.GPUAgent.Lemmas.Labels

/-!
This module contains what the pass over one GPU does with the metrics: the loops over indexed values in
closed form, and the labels of everything that is written.
-/

namespace GPUAgent

open Exporter GPUMetricField

/--
The labels `l` are the labels `base` of a GPU with index labels `names` added or changed.
-/
def AgreeOff (names : List String) (base l : Labels) : Prop :=
  ∀ k, k ∉ names → l.lookup k = base.lookup k

def GPUMetricField.isScalar (field : GPUMetricField) : Bool :=
  field.indexLabels.isNone && field ≠ GPU_NODES_TOTAL

structure Indexed (base : Labels) (field : GPUMetricField) (l : Labels) : Prop where
  ne_nodes : field ≠ GPU_NODES_TOTAL
  mem_index : ∀ name ∈ field.indexNames, name ∈ l
  agree : AgreeOff field.indexNames base l

/--
A value of the field under an index, and whether the field can be given up.
-/
structure MetricEntry where
  field : GPUMetricField
  index : List String
  value : ℚ
  filtered : Bool
  deriving DecidableEq

namespace MetricOp

def WellLabelled (base : Labels) : MetricOp → Prop
  | .mark _ => True
  | .export field labels value => value.isValueApplicable = true → Indexed base field labels
  | .set field labels _ => Indexed base field labels

def entry? : MetricOp → Option MetricEntry
  | .mark _ => none
  | .export field labels value =>
    if value.isValueApplicable then
      some
        ⟨field, field.indexNames.map fun name => (labels.lookup name).getD "", value.normalizeUint64, true⟩
    else
      none
  | .set field labels value =>
    some ⟨field, field.indexNames.map fun name => (labels.lookup name).getD "", value, false⟩

end MetricOp

structure OpsEmit (base : Labels) (ops : List MetricOp) (table : List MetricEntry) : Prop where
  wellLabelled : ∀ op ∈ ops, op.WellLabelled base
  entries : ops.filterMap MetricOp.entry? = table

structure Emits (names : List String) (base : Labels) (r : List MetricOp × Labels)
    (table : List MetricEntry) : Prop where
  ops : OpsEmit base r.1 table
  rest : AgreeOff names base r.2

section AgreeOff

variable {names : List String} {base l : Labels}

theorem AgreeOff.refl (names : List String) (base : Labels) : AgreeOff names base base :=
  fun _ _ => rfl

theorem AgreeOff.mono {names' : List String} (h : AgreeOff names base l) (hsub : names ⊆ names')
    : AgreeOff names' base l :=
  fun k hk => h k fun hmem => hk (hsub hmem)

theorem AgreeOff.insert {name : String} (h : AgreeOff names base l) (hname : name ∈ names)
    (v : String) : AgreeOff names base (l.insert name v) := by
  intro k hk
  have hne : k ≠ name := fun heq => hk (heq ▸ hname)
  rw [AList.lookup_insert_ne hne]
  exact h k hk

theorem AgreeOff.erase {name : String} (h : AgreeOff (name :: names) base l) (hname : name ∉ base)
    : AgreeOff names base (l.erase name) := by
  intro k hk
  rw [GoMap.lookup_erase_eq_ite]
  split
  . next heq => rw [heq, (AList.lookup_eq_none).mpr hname]
  . next hne => exact h k (by simp [hne, hk])

theorem GPUMetricField.indexNames_of_isScalar {field : GPUMetricField} (h : field.isScalar = true)
    : field.indexNames = [] := by
  simp only [isScalar, Bool.and_eq_true, Option.isNone_iff_eq_none] at h
  rw [indexNames, h.1]
  rfl

theorem GPUMetricField.ne_nodes_of_indexNames {field : GPUMetricField} {name : String}
    {names : List String} (h : field.indexNames = name :: names) : field ≠ GPU_NODES_TOTAL := by
  rintro rfl
  cases h

theorem Indexed.self {field : GPUMetricField} (hfield : field.isScalar = true)
    : Indexed base field base where
  ne_nodes := by
    rintro rfl
    cases hfield
  mem_index := by simp [GPUMetricField.indexNames_of_isScalar hfield]
  agree := AgreeOff.refl _ _

end AgreeOff

section IndexLoop

variable {α : Type} (field : GPUMetricField) (name : String) (missing : Labels → MetricOp)
  (applicable : α → Bool) (value : α → ℚ)

def indexedSets (j : Nat) (labels : Labels) (xs : List α) : List MetricOp :=
  (xs.zipIdx j).filterMap fun p =>
    if applicable p.1 then some (.set field (labels.insert name p.2.repr) (value p.1)) else none

theorem indexedSets_insert (j : Nat) (labels : Labels) (v : String) (xs : List α)
    : indexedSets field name applicable value j (labels.insert name v) xs
        = indexedSets field name applicable value j labels xs := by
  simp only [indexedSets, AList.insert_insert]

theorem indexLoop_go_eq (j : Nat) (labels : Labels) (xs : List α)
    (hhead : j = 0 → ∀ x ∈ xs.head?, applicable x = true)
    : (indexLoop.go field name missing applicable value j labels xs).1
        = indexedSets field name applicable value j labels xs := by
  induction xs generalizing j labels with
  | nil => rfl
  | cons x xs ih =>
    have hcond : ¬(j = 0 ∧ (!applicable x) = true) := by
      rintro ⟨hj, hx⟩
      simp [hhead hj x (by simp)] at hx
    have hrest := ih (j + 1) (labels.insert name j.repr) (by simp)
    simp only [indexLoop.go, hcond, if_false, hrest, indexedSets_insert]
    cases hx : applicable x with
    | true => simp [indexedSets, hx]
    | false => simp [indexedSets, hx]

theorem indexLoop_go_erase (j : Nat) (labels : Labels) (xs : List α)
    : (indexLoop.go field name missing applicable value j labels xs).2.erase name
        = labels.erase name := by
  induction xs generalizing j labels with
  | nil => rfl
  | cons x xs ih =>
    simp only [indexLoop.go]
    split
    . exact GoMap.erase_insert_self labels name _
    . rw [ih, GoMap.erase_insert_self]

theorem indexLoop_erase (labels : Labels) (xs : List α)
    : (indexLoop field name missing applicable value xs labels).2.erase name = labels.erase name :=
  indexLoop_go_erase field name missing applicable value 0 labels xs

theorem indexLoop_eq (labels : Labels) (xs : List α)
    : (indexLoop field name missing applicable value xs labels).1
        = if ∀ x ∈ xs.head?, applicable x = true then
            indexedSets field name applicable value 0 labels xs
          else
            [missing (labels.insert name (Nat.repr 0))] := by
  split
  . next h => exact indexLoop_go_eq field name missing applicable value 0 labels xs fun _ => h
  . next h =>
    cases xs with
    | nil => simp at h
    | cons x xs =>
      have hx : applicable x = false := by simpa using h
      simp [indexLoop, indexLoop.go, hx]

end IndexLoop

namespace OpsEmit

variable {base : Labels} {ops ops' : List MetricOp} {table table' : List MetricEntry}

theorem nil : OpsEmit base [] [] where
  wellLabelled := by simp
  entries := rfl

theorem append (h : OpsEmit base ops table) (h' : OpsEmit base ops' table')
    : OpsEmit base (ops ++ ops') (table ++ table') where
  wellLabelled op hop := (List.mem_append.mp hop).elim (h.wellLabelled op) (h'.wellLabelled op)
  entries := by rw [List.filterMap_append, h.entries, h'.entries]

theorem mark (field : GPUMetricField) : OpsEmit base [.mark field] [] where
  wellLabelled := by simp [MetricOp.WellLabelled]
  entries := rfl

theorem markUnless (field : GPUMetricField) (supported : Bool)
    : OpsEmit base (GPUAgent.markUnless field supported) [] := by
  unfold GPUAgent.markUnless
  split
  . exact nil
  . exact mark field

theorem append_markUnless (h : OpsEmit base ops table) (field : GPUMetricField) (supported : Bool)
    : OpsEmit base (ops ++ GPUAgent.markUnless field supported) table := by
  have := h.append (markUnless field supported)
  rw [List.append_nil] at this
  exact this

theorem «set» {field : GPUMetricField} {labels : Labels} (h : Indexed base field labels) (value : ℚ)
    : OpsEmit base [.set field labels value]
        [⟨field, field.indexNames.map fun name => (labels.lookup name).getD "", value, false⟩] where
  wellLabelled := by simpa [MetricOp.WellLabelled] using h
  entries := rfl

theorem export_not_applicable {field : GPUMetricField} {labels : Labels} {value : MetricValue}
    (h : value.isValueApplicable = false) : OpsEmit base [.export field labels value] [] where
  wellLabelled := by simp [MetricOp.WellLabelled, h]
  entries := by simp [MetricOp.entry?, h]

end OpsEmit

def scalarEntries (values : List (GPUMetricField × MetricValue)) : List MetricEntry :=
  values.filterMap fun v =>
    if v.2.isValueApplicable then some ⟨v.1, [], v.2.normalizeUint64, true⟩ else none

def listEntries {α : Type} (field : GPUMetricField) (applicable : α → Bool) (value : α → ℚ)
    (xs : List α) : List MetricEntry :=
  if ∀ x ∈ xs.head?, applicable x = true then
    xs.zipIdx.filterMap fun p =>
      if applicable p.1 then some ⟨field, [p.2.repr], value p.1, false⟩ else none
  else
    []

section Tables

def entryIf (applicable : Bool) (field : GPUMetricField) (index : List String) (value : ℚ)
    : List MetricEntry :=
  if applicable then [⟨field, index, value, false⟩] else []

def clockEntries [CaseMap] (clocks : List Amdgpu.GPUClockStatus) (j : Nat) : List MetricEntry :=
  (clocks.zipIdx j).flatMap fun (clock, j) =>
    let index := [j.repr, normalizeStringWithoutPrefix clock.type.toString "GPU_CLOCK_TYPE_"]
    entryIf (uint32Applicable clock.frequency) GPU_CLOCK index (float64OfUint32 clock.frequency)
      ++ entryIf (uint32Applicable clock.lowFrequency) GPU_MIN_CLOCK index
        (float64OfUint32 clock.lowFrequency)
      ++ entryIf (uint32Applicable clock.highFrequency) GPU_MAX_CLOCK index
        (float64OfUint32 clock.highFrequency)

def linkEntries (xgmiStats : List HealthCLI.GPUXGMILinkStats) (j : Nat) : List MetricEntry :=
  (xgmiStats.zipIdx j).flatMap fun (linkStat, j) =>
    entryIf (uint64Applicable linkStat.dataRead) GPU_XGMI_LINK_RX [j.repr]
        (float64OfUint64 linkStat.dataRead)
      ++ entryIf (uint64Applicable linkStat.dataWrite) GPU_XGMI_LINK_TX [j.repr]
        (float64OfUint64 linkStat.dataWrite)

def afidEntries (severity : String) (afids : List UInt64) (i : Nat) : List MetricEntry :=
  (afids.zipIdx i).map fun (afid, i) =>
    ⟨GPU_AFID_ERRORS, [severity, i.repr], float64OfUint64 afid, false⟩

def processEntries (processInfo : List Amdgpu.ProcessInfo) : List MetricEntry :=
  processInfo.flatMap fun procInfo =>
    entryIf (procInfo.pId ≠ 0 && uint32Applicable procInfo.cuOccupancy) GPU_PROCESS_CU_OCCUPANCY
      [procInfo.pId.toNat.repr] (float64OfUint32 procInfo.cuOccupancy)

def xccEntries (fields : List (GPUMetricField × List UInt64)) : List MetricEntry :=
  fields.flatMap fun v => listEntries v.1 uint64Applicable float64OfUint64 v.2

variable [FloatOps]

def unconditional (values : List (GPUMetricField × MetricValue × Bool))
    : List (GPUMetricField × MetricValue) :=
  values.map fun v => (v.1, v.2.1)

def temperatureEntries (tempStats : HealthCLI.GPUTemperatureStats) : List MetricEntry :=
  scalarEntries (unconditional (temperatureValues tempStats))
    ++ listEntries GPU_HBM_TEMPERATURE hbmApplicable id tempStats.hbmTemperature

def usageEntries (gpuUsage : Amdgpu.GPUUsage) : List MetricEntry :=
  scalarEntries (usageValues gpuUsage)
    ++ listEntries GPU_VCN_ACTIVITY uint32Applicable float64OfUint32 gpuUsage.vcnActivity
    ++ listEntries GPU_JPEG_ACTIVITY uint32Applicable float64OfUint32 gpuUsage.jpegActivity
    ++ listEntries GPU_GFX_BUSY_INSTANTANEOUS uint32Applicable float64OfUint32 gpuUsage.gfxBusyInst
    ++ listEntries GPU_VCN_BUSY_INSTANTANEOUS uint32Applicable float64OfUint32 gpuUsage.vcnBusyInst
    ++ listEntries GPU_JPEG_BUSY_INSTANTANEOUS uint32Applicable float64OfUint32 gpuUsage.jpegBusyInst

def violationEntries (violationStats : Amdgpu.GPUViolationStats) : List MetricEntry :=
  scalarEntries (violationValues violationStats) ++ xccEntries (xccValues violationStats)

def cperEntries [CaseMap] (cper : Amdgpu.CPEREntry) : List MetricEntry :=
  afidEntries (normalizeStringWithoutPrefix cper.severity.toString "CPER_SEVERITY_") cper.afId 0

/--
All that is written for the counters of a GPU, each value under the field it belongs to.
-/
def counterEntries [CaseMap] (gpu : Amdgpu.GPU) (stats : Amdgpu.GPUStats)
    (cper : Option Amdgpu.CPEREntry) : List MetricEntry :=
  scalarEntries (unconditional (packagePowerValues stats))
    ++ stats.temperature.elim [] temperatureEntries
    ++ stats.usage.elim [] usageEntries
    ++ scalarEntries (stats.voltage.elim [] voltageValues)
    ++ scalarEntries (gpu.status.pcieStatus.elim [] pcieStatusValues)
    ++ scalarEntries (stats.pcieStats.elim [] pcieStatsValues)
    ++ scalarEntries (unconditional (energyValues stats))
    ++ gpu.status.clockStatus.elim [] (clockEntries · 0)
    ++ scalarEntries (unconditional (powerUsageValues stats))
    ++ scalarEntries (vramMaxBandwidthValues gpu.status.vramStatus)
    ++ scalarEntries (eccValues stats)
    ++ scalarEntries (xgmiNeighborValues stats)
    ++ scalarEntries (stats.vramUsage.elim [] vramUsageValues)
    ++ scalarEntries (vramValues stats.vramUsage gpu.status.vramStatus)
    ++ stats.xgmiLinkStats.elim [] (linkEntries · 0)
    ++ stats.violationStats.elim [] violationEntries
    ++ cper.elim [] cperEntries
    ++ gpu.status.processStatus.elim [] processEntries

def healthEntries (hstate : Option GPUState) : List MetricEntry :=
  hstate.elim [] fun hstate =>
    [⟨GPU_HEALTH, [], if hstate.health.name = GPUHealth.HEALTHY.name then 1 else 0, false⟩]

def elapsedEntries (profMetrics : GoMap String ℚ) : List MetricEntry :=
  match profMetrics.lookup "GRBM_GUI_ACTIVE", profMetrics.lookup "MeanOccupancyPerActiveCU" with
  | some grbmActive, some occPerActiveCU =>
    entryIf (grbmActive ≠ 0) GPU_PROF_OCCUPANCY_ELAPSED [] (FloatOps.div occPerActiveCU grbmActive)
  | _, _ => []

def profilerEntries (profMetrics : GoMap String ℚ) : List MetricEntry :=
  profMetrics.entries.filterMap (fun e =>
      (profilerField e.1).map fun field => ⟨field, [], profilerValue field e.2, false⟩)
    ++ elapsedEntries profMetrics

end Tables

section Export

variable {base : Labels}

theorem opsEmit_export {field : GPUMetricField} (hfield : field.isScalar = true) (value : MetricValue)
    : OpsEmit base [.export field base value] (scalarEntries [(field, value)]) where
  wellLabelled := by
    simp only [List.mem_singleton, forall_eq]
    intro _
    exact Indexed.self hfield
  entries := by
    cases hvalue : value.isValueApplicable with
    | true =>
      simp [MetricOp.entry?, scalarEntries, hvalue, GPUMetricField.indexNames_of_isScalar hfield]
    | false => simp [MetricOp.entry?, scalarEntries, hvalue]

theorem opsEmit_exportAll {values : List (GPUMetricField × MetricValue)}
    (hvalues : ∀ v ∈ values, v.1.isScalar = true)
    : OpsEmit base (exportAll base values) (scalarEntries values) := by
  induction values with
  | nil => exact OpsEmit.nil
  | cons v values ih =>
    rw [List.forall_mem_cons] at hvalues
    have hcons : scalarEntries (v :: values) = scalarEntries [v] ++ scalarEntries values := by
      rw [scalarEntries, ← List.singleton_append, List.filterMap_append]
      rfl
    rw [hcons]
    exact (opsEmit_export hvalues.1 v.2).append (ih hvalues.2)

theorem opsEmit_exportNonZero {values : List (GPUMetricField × MetricValue × Bool)}
    (hvalues : ∀ v ∈ values, v.1.isScalar = true)
    : OpsEmit base (exportNonZero base values) (scalarEntries (unconditional values)) := by
  induction values with
  | nil => exact OpsEmit.nil
  | cons v values ih =>
    rw [List.forall_mem_cons] at hvalues
    have hcons : scalarEntries (unconditional (v :: values))
        = ([] ++ scalarEntries [(v.1, v.2.1)]) ++ scalarEntries (unconditional values) := by
      rw [scalarEntries, unconditional, List.map_cons, ← List.singleton_append, List.filterMap_append]
      rfl
    rw [hcons, exportNonZero, List.flatMap_cons]
    exact ((OpsEmit.markUnless v.1 v.2.2).append (opsEmit_export hvalues.1 v.2.1)).append
      (ih hvalues.2)

end Export

section Loops

variable {base l : Labels} {names : List String}

theorem opsEmit_setIf {field : GPUMetricField} {index : List String} (h : Indexed base field l)
    (hindex : (field.indexNames.map fun name => (l.lookup name).getD "") = index) (applicable : Bool)
    (value : ℚ)
    : OpsEmit base (if applicable then [.set field l value] else [])
        (entryIf applicable field index value) := by
  subst hindex
  unfold entryIf
  split
  . exact OpsEmit.set h value
  . exact OpsEmit.nil

section IndexLoop

variable {α : Type} {field : GPUMetricField} {name : String} {missing : Labels → MetricOp}
  {applicable : α → Bool} {value : α → ℚ}

theorem indexed_insert (hfield : field.indexNames = [name]) (hl : AgreeOff [name] base l) (v : String)
    : Indexed base field (l.insert name v) where
  ne_nodes := GPUMetricField.ne_nodes_of_indexNames hfield
  mem_index := by simp [hfield]
  agree := by
    rw [hfield]
    exact hl.insert List.mem_cons_self v

theorem opsEmit_indexedSets (hfield : field.indexNames = [name]) (hl : AgreeOff [name] base l)
    (j : Nat) (xs : List α)
    : OpsEmit base (indexedSets field name applicable value j l xs)
        ((xs.zipIdx j).filterMap fun p =>
          if applicable p.1 then some ⟨field, [p.2.repr], value p.1, false⟩ else none) where
  wellLabelled := by
    intro op hop
    rcases List.mem_filterMap.mp hop with ⟨p, _, hp⟩
    split at hp
    . cases hp
      exact indexed_insert hfield hl _
    . cases hp
  entries := by
    rw [indexedSets, List.filterMap_filterMap]
    congr 1
    funext p
    cases applicable p.1 with
    | true => simp [MetricOp.entry?, hfield]
    | false => rfl

theorem emits_indexLoop (hfield : field.indexNames = [name]) (hl : AgreeOff [name] base l)
    (hmissing : ∀ l, OpsEmit base [missing l] []) (xs : List α)
    : Emits [name] base (indexLoop field name missing applicable value xs l)
        (listEntries field applicable value xs) where
  ops := by
    rw [indexLoop_eq, listEntries]
    split
    . exact opsEmit_indexedSets hfield hl 0 xs
    . exact hmissing _
  rest := by
    intro k hk
    have hne : k ≠ name := by simpa using hk
    have herase := congrArg (AList.lookup k) (indexLoop_erase field name missing applicable value l xs)
    rw [AList.lookup_erase_ne hne, AList.lookup_erase_ne hne] at herase
    rw [herase]
    exact hl k hk

end IndexLoop

section Clocks

variable [CaseMap]

theorem emits_clockLoop (hl : AgreeOff IndexLabels.clock.names base l) (j : Nat)
    (clocks : List Amdgpu.GPUClockStatus)
    : Emits IndexLabels.clock.names base (clockLoop j l clocks) (clockEntries clocks j) := by
  induction clocks generalizing j l with
  | nil => exact ⟨OpsEmit.nil, hl⟩
  | cons clock clocks ih =>
    let l' :=
      (l.insert "clock_index" j.repr).insert "clock_type"
        (normalizeStringWithoutPrefix clock.type.toString "GPU_CLOCK_TYPE_")
    have hl' : AgreeOff IndexLabels.clock.names base l' :=
      (hl.insert (by decide) _).insert (by decide) _
    have hmem : ∀ name ∈ IndexLabels.clock.names, name ∈ l' := by
      simp [l', IndexLabels.names]
    have hrest := ih hl' (j + 1)
    refine ⟨?_, hrest.rest⟩
    have hindex : (IndexLabels.clock.names.map fun name => (l'.lookup name).getD "")
        = [j.repr, normalizeStringWithoutPrefix clock.type.toString "GPU_CLOCK_TYPE_"] := by
      simp [l', IndexLabels.names, AList.lookup_insert_ne]
    have hset (field : GPUMetricField) (hfield : field.indexNames = IndexLabels.clock.names)
        (x : UInt32)
        : OpsEmit base (if uint32Applicable x then [.set field l' (float64OfUint32 x)] else [])
            (entryIf (uint32Applicable x) field
              [j.repr, normalizeStringWithoutPrefix clock.type.toString "GPU_CLOCK_TYPE_"]
              (float64OfUint32 x)) := by
      apply opsEmit_setIf
      . have hne := GPUMetricField.ne_nodes_of_indexNames hfield
        rw [← hfield] at hmem hl'
        exact ⟨hne, hmem, hl'⟩
      . rw [hfield]
        exact hindex
    exact ((hset GPU_CLOCK rfl _).append (hset GPU_MIN_CLOCK rfl _)).append (hset GPU_MAX_CLOCK rfl _)
      |>.append hrest.ops

end Clocks

theorem emits_linkLoop (hl : AgreeOff ["link_index"] base l) (j : Nat)
    (xgmiStats : List HealthCLI.GPUXGMILinkStats)
    : Emits ["link_index"] base (linkLoop j l xgmiStats).1 (linkEntries xgmiStats j) := by
  induction xgmiStats generalizing j l with
  | nil => exact ⟨OpsEmit.nil, hl⟩
  | cons linkStat xgmiStats ih =>
    have hl' := hl.insert List.mem_cons_self j.repr
    have hrest := ih hl' (j + 1)
    refine ⟨?_, hrest.rest⟩
    have hset (field : GPUMetricField) (hfield : field.indexNames = ["link_index"]) (x : UInt64)
        : OpsEmit base
            (if uint64Applicable x then [.set field (l.insert "link_index" j.repr) (float64OfUint64 x)]
              else [])
            (entryIf (uint64Applicable x) field [j.repr] (float64OfUint64 x)) :=
      opsEmit_setIf (indexed_insert hfield hl _) (by simp [hfield]) _ _
    exact ((hset GPU_XGMI_LINK_RX rfl _).append (hset GPU_XGMI_LINK_TX rfl _)).append hrest.ops

theorem emits_afidLoop {severity : String} (hl : AgreeOff IndexLabels.afid.names base l)
    (hseverity : l.lookup "severity" = some severity) (i : Nat) (afids : List UInt64)
    : Emits IndexLabels.afid.names base (afidLoop i l afids) (afidEntries severity afids i) := by
  induction afids generalizing i l with
  | nil => exact ⟨OpsEmit.nil, hl⟩
  | cons afid afids ih =>
    have hl' : AgreeOff IndexLabels.afid.names base (l.insert "afid_index" i.repr) :=
      hl.insert (by decide) _
    have hseverity' : (l.insert "afid_index" i.repr).lookup "severity" = some severity := by
      rw [AList.lookup_insert_ne (by decide)]
      exact hseverity
    have hmem : ∀ name ∈ IndexLabels.afid.names, name ∈ l.insert "afid_index" i.repr := by
      have := GoMap.mem_iff_exists_lookup.mpr ⟨_, hseverity⟩
      simp [IndexLabels.names, this]
    have hrest := ih hl' hseverity' (i + 1)
    refine ⟨?_, hrest.rest⟩
    have hindexed : Indexed base GPU_AFID_ERRORS (l.insert "afid_index" i.repr) :=
      ⟨by decide, hmem, hl'⟩
    have hset := OpsEmit.set hindexed (float64OfUint64 afid)
    have hindex : (GPU_AFID_ERRORS.indexNames.map fun name =>
        ((l.insert "afid_index" i.repr).lookup name).getD "") = [severity, i.repr] := by
      simp [GPUMetricField.indexNames, GPUMetricField.indexLabels, IndexLabels.names, hseverity']
    rw [hindex] at hset
    exact hset.append hrest.ops

theorem emits_processLoop (hl : AgreeOff ["process_id"] base l) (processInfo : List Amdgpu.ProcessInfo)
    : Emits ["process_id"] base (processLoop l processInfo) (processEntries processInfo) := by
  induction processInfo generalizing l with
  | nil => exact ⟨OpsEmit.nil, hl⟩
  | cons procInfo processInfo ih =>
    have hcons : processEntries (procInfo :: processInfo)
        = entryIf (procInfo.pId ≠ 0 && uint32Applicable procInfo.cuOccupancy) GPU_PROCESS_CU_OCCUPANCY
            [procInfo.pId.toNat.repr] (float64OfUint32 procInfo.cuOccupancy)
          ++ processEntries processInfo := rfl
    rw [processLoop, hcons]
    split
    . next hskip =>
      have hfalse : (procInfo.pId ≠ 0 && uint32Applicable procInfo.cuOccupancy) = false := by
        rcases hskip with hpid | hval
        . simp [hpid]
        . simpa using fun _ => hval
      rw [hfalse]
      exact ih hl
    . next hexport =>
      have htrue : (procInfo.pId ≠ 0 && uint32Applicable procInfo.cuOccupancy) = true := by
        simpa [not_or] using hexport
      have hl' := hl.insert List.mem_cons_self procInfo.pId.toNat.repr
      have hrest := ih hl'
      have hindexed : Indexed base GPU_PROCESS_CU_OCCUPANCY
          (l.insert "process_id" procInfo.pId.toNat.repr) := indexed_insert rfl hl _
      have hset := OpsEmit.set hindexed (float64OfUint32 procInfo.cuOccupancy)
      have hindex : (GPU_PROCESS_CU_OCCUPANCY.indexNames.map fun name =>
          ((l.insert "process_id" procInfo.pId.toNat.repr).lookup name).getD "")
            = [procInfo.pId.toNat.repr] := by
        simp [GPUMetricField.indexNames, GPUMetricField.indexLabels, IndexLabels.names]
      rw [hindex] at hset
      rw [htrue]
      exact ⟨hset.append hrest.ops, hrest.rest⟩

theorem emits_xccOps (hl : AgreeOff ["xcc_index"] base l) {fields : List (GPUMetricField × List UInt64)}
    (hfields : ∀ v ∈ fields, v.1.indexNames = ["xcc_index"])
    : Emits ["xcc_index"] base (xccOps l fields) (xccEntries fields) := by
  induction fields generalizing l with
  | nil => exact ⟨OpsEmit.nil, hl⟩
  | cons v fields ih =>
    rw [List.forall_mem_cons] at hfields
    have hloop : Emits ["xcc_index"] base (xccLoop v.1 v.2 l)
        (listEntries v.1 uint64Applicable float64OfUint64 v.2) :=
      emits_indexLoop hfields.1 hl (fun _ => OpsEmit.mark v.1) v.2
    have hrest := ih hloop.rest hfields.2
    exact ⟨hloop.ops.append hrest.ops, hrest.rest⟩

end Loops

theorem forall_isScalar {β : Type*} {values : List (GPUMetricField × β)}
    (h : (values.all fun v => v.1.isScalar) = true) : ∀ v ∈ values, v.1.isScalar = true :=
  List.all_eq_true.mp h

def NoIndex (base : Labels) : Prop :=
  ∀ (index : IndexLabels), ∀ name ∈ index.names, name ∉ base

section Sections

variable [FloatOps] {base l : Labels} (hbase : NoIndex base) (hl : AgreeOff [] base l)

theorem float64Value_maxUint32 : (float64Value maxUint32).isValueApplicable = false := by
  have hvalue : (FloatOps.toUint64 maxUint32).toNat = 4294967295 := by
    rw [FloatOps.toUint64_eq _ (by decide) (by decide)]
    decide
  simp [float64Value, MetricValue.isValueApplicable, MetricValue.convertFloatToUint, MetricValue.sentinels,
    hvalue]

theorem emits_engineLoop {field : GPUMetricField} {name : String} (hfield : field.indexNames = [name])
    (hl : AgreeOff [name] base l) (xs : List UInt32)
    : Emits [name] base (engineLoop field name xs l)
        (listEntries field uint32Applicable float64OfUint32 xs) :=
  emits_indexLoop hfield hl (fun _ => OpsEmit.export_not_applicable float64Value_maxUint32) xs

omit [FloatOps] in
theorem opsEmit_voltageOps (volt : Option HealthCLI.GPUVoltage)
    : OpsEmit base (voltageOps base volt) (scalarEntries (volt.elim [] voltageValues)) := by
  cases volt with
  | none => exact OpsEmit.nil
  | some volt =>
    exact ((OpsEmit.markUnless _ _).append (OpsEmit.markUnless _ _)).append (OpsEmit.markUnless _ _)
      |>.append (opsEmit_exportAll (forall_isScalar rfl))

omit [FloatOps] in
theorem opsEmit_pcieStatusOps (pcieStatus : Option HealthCLI.GPUPCIeStatus)
    : OpsEmit base (pcieStatusOps base pcieStatus)
        (scalarEntries (pcieStatus.elim [] pcieStatusValues)) := by
  cases pcieStatus with
  | none => exact OpsEmit.nil
  | some pcieStatus =>
    exact ((OpsEmit.markUnless _ _).append (OpsEmit.markUnless _ _)).append (OpsEmit.markUnless _ _)
      |>.append (opsEmit_exportAll (forall_isScalar rfl))

omit [FloatOps] in
theorem opsEmit_healthOps (hstate : Option GPUState)
    : OpsEmit base (healthOps base hstate) (healthEntries hstate) := by
  cases hstate with
  | none => exact OpsEmit.nil
  | some hstate => exact OpsEmit.set (Indexed.self rfl) _

omit [FloatOps] in
theorem opsEmit_markMissingCounters (exportFieldMap : GoMap String Bool) (profMetrics : GoMap String ℚ)
    : OpsEmit base (markMissingCounters exportFieldMap profMetrics) [] := by
  have hmark : ∀ op ∈ markMissingCounters exportFieldMap profMetrics, ∃ field, op = .mark field := by
    intro op hop
    rcases List.mem_filterMap.mp hop with ⟨e, _, he⟩
    split at he
    . cases he
    . split at he
      . cases he
      . split at he
        . cases he
          exact ⟨_, rfl⟩
        . cases he
  constructor
  . intro op hop
    rcases hmark op hop with ⟨field, rfl⟩
    trivial
  . rw [List.filterMap_eq_nil_iff]
    intro op hop
    rcases hmark op hop with ⟨field, rfl⟩
    rfl

omit [FloatOps] in
theorem isScalar_profilerField {mkey : String} {field : GPUMetricField}
    (h : profilerField mkey = some field) : field.isScalar = true := by
  rcases Option.map_eq_some_iff.mp h with ⟨v, hv, rfl⟩
  have hcases : ∀ v ∈ profilerCases, v.2.isScalar = true := by decide
  exact hcases v (List.mem_of_find?_eq_some hv)

theorem opsEmit_profilerOps (exportFieldMap : GoMap String Bool)
    (profMetrics : Option (GoMap String ℚ))
    : OpsEmit base (profilerOps base exportFieldMap profMetrics)
        (profMetrics.elim [] profilerEntries) := by
  cases profMetrics with
  | none => exact OpsEmit.nil
  | some profMetrics =>
    have hset : OpsEmit base (setCounters base profMetrics)
        (profMetrics.entries.filterMap fun e =>
          (profilerField e.1).map fun field => ⟨field, [], profilerValue field e.2, false⟩) := by
      constructor
      . intro op hop
        rcases List.mem_filterMap.mp hop with ⟨e, _, he⟩
        rcases Option.map_eq_some_iff.mp he with ⟨field, hfield, rfl⟩
        exact Indexed.self (isScalar_profilerField hfield)
      . rw [setCounters, List.filterMap_filterMap]
        congr 1
        funext e
        cases hfield : profilerField e.1 with
        | none => rfl
        | some field =>
          have hnames := GPUMetricField.indexNames_of_isScalar (isScalar_profilerField hfield)
          simp [MetricOp.entry?, hnames]
    have helapsed : OpsEmit base (occupancyElapsedOps base profMetrics) (elapsedEntries profMetrics) := by
      unfold occupancyElapsedOps elapsedEntries
      cases profMetrics.lookup "GRBM_GUI_ACTIVE" with
      | none => exact OpsEmit.nil
      | some grbmActive =>
        cases profMetrics.lookup "MeanOccupancyPerActiveCU" with
        | none => exact OpsEmit.nil
        | some occPerActiveCU =>
          have hset : OpsEmit base
              (if decide (grbmActive ≠ 0) then
                [.set GPU_PROF_OCCUPANCY_ELAPSED base (FloatOps.div occPerActiveCU grbmActive)]
              else
                [])
              (entryIf (grbmActive ≠ 0) GPU_PROF_OCCUPANCY_ELAPSED []
                (FloatOps.div occPerActiveCU grbmActive)) :=
            opsEmit_setIf (Indexed.self rfl) rfl _ _
          simpa using hset
    exact ((opsEmit_markMissingCounters exportFieldMap profMetrics).append hset).append helapsed

include hbase hl

theorem emits_temperatureOps (tempStats : Option HealthCLI.GPUTemperatureStats)
    : Emits [] base (temperatureOps base l tempStats) (tempStats.elim [] temperatureEntries) := by
  cases tempStats with
  | none => exact ⟨OpsEmit.nil, hl⟩
  | some tempStats =>
    have hscalar : OpsEmit base (exportNonZero base (temperatureValues tempStats))
        (scalarEntries (unconditional (temperatureValues tempStats))) :=
      opsEmit_exportNonZero (forall_isScalar rfl)
    have hloop : Emits ["hbm_index"] base
        (indexLoop GPU_HBM_TEMPERATURE "hbm_index" (fun _ => .mark GPU_HBM_TEMPERATURE) hbmApplicable id
          tempStats.hbmTemperature l)
        (listEntries GPU_HBM_TEMPERATURE hbmApplicable id tempStats.hbmTemperature) :=
      emits_indexLoop rfl (hl.mono (by simp)) (fun _ => OpsEmit.mark _) _
    have hops := (hscalar.append_markUnless GPU_HBM_TEMPERATURE (!tempStats.hbmTemperature.isEmpty)).append
      hloop.ops
    exact ⟨hops, hloop.rest.erase (hbase .hbm _ (by decide))⟩

theorem emits_usageOps (gpuUsage : Option Amdgpu.GPUUsage)
    : Emits [] base (usageOps base l gpuUsage) (gpuUsage.elim [] usageEntries) := by
  cases gpuUsage with
  | none => exact ⟨OpsEmit.nil, hl⟩
  | some gpuUsage =>
    have hscalar : OpsEmit base (exportAll base (usageValues gpuUsage))
        (scalarEntries (usageValues gpuUsage)) :=
      opsEmit_exportAll (forall_isScalar rfl)
    have hempty : OpsEmit base
        (if gpuUsage.vcnActivity.isEmpty then
          [.export GPU_VCN_ACTIVITY base (float64Value maxUint32)]
        else
          []) [] := by
      split
      . exact OpsEmit.export_not_applicable float64Value_maxUint32
      . exact OpsEmit.nil
    have hvcn : Emits ["vcn_index"] base
        (indexLoop GPU_VCN_ACTIVITY "vcn_index" (fun _ => .mark GPU_VCN_ACTIVITY) uint32Applicable
          float64OfUint32 gpuUsage.vcnActivity l)
        (listEntries GPU_VCN_ACTIVITY uint32Applicable float64OfUint32 gpuUsage.vcnActivity) :=
      emits_indexLoop rfl (hl.mono (by simp)) (fun _ => OpsEmit.mark _) _
    have hl₁ := hvcn.rest.erase (hbase .vcn _ (by decide))
    have hjpeg := emits_engineLoop (show GPU_JPEG_ACTIVITY.indexNames = ["jpeg_index"] from rfl)
      (hl₁.mono (by simp)) gpuUsage.jpegActivity
    have hl₂ := hjpeg.rest.erase (hbase .jpeg _ (by decide))
    have hgfxBusy := emits_engineLoop
      (show GPU_GFX_BUSY_INSTANTANEOUS.indexNames = ["xcc_index"] from rfl) (hl₂.mono (by simp))
      gpuUsage.gfxBusyInst
    have hvcnBusy := emits_engineLoop
      (show GPU_VCN_BUSY_INSTANTANEOUS.indexNames = ["xcc_index"] from rfl) hgfxBusy.rest
      gpuUsage.vcnBusyInst
    have hjpegBusy := emits_engineLoop
      (show GPU_JPEG_BUSY_INSTANTANEOUS.indexNames = ["xcc_index"] from rfl) hvcnBusy.rest
      gpuUsage.jpegBusyInst
    have hops := (hscalar.append hempty).append hvcn.ops
      |>.append_markUnless GPU_JPEG_ACTIVITY (!gpuUsage.jpegActivity.isEmpty)
      |>.append hjpeg.ops
      |>.append_markUnless GPU_GFX_BUSY_INSTANTANEOUS (!gpuUsage.gfxBusyInst.isEmpty)
      |>.append hgfxBusy.ops
      |>.append_markUnless GPU_VCN_BUSY_INSTANTANEOUS (!gpuUsage.vcnBusyInst.isEmpty)
      |>.append hvcnBusy.ops
      |>.append_markUnless GPU_JPEG_BUSY_INSTANTANEOUS (!gpuUsage.jpegBusyInst.isEmpty)
      |>.append hjpegBusy.ops
    rw [List.append_nil] at hops
    exact ⟨hops, hjpegBusy.rest.erase (hbase .xcc _ (by decide))⟩

theorem emits_clockOps [CaseMap] (clockStatus : Option (List Amdgpu.GPUClockStatus))
    : Emits [] base (clockOps base l clockStatus) (clockStatus.elim [] (clockEntries · 0)) := by
  cases clockStatus with
  | none => exact ⟨OpsEmit.export_not_applicable float64Value_maxUint32, hl⟩
  | some clockStatus =>
    have hloop := emits_clockLoop (hl.mono (by simp)) 0 clockStatus
    refine ⟨(OpsEmit.markUnless GPU_CLOCK _).append hloop.ops, ?_⟩
    apply AgreeOff.erase _ (hbase .clock "clock_type" (by decide))
    exact hloop.rest.erase (hbase .clock "clock_index" (by decide))

omit [FloatOps] in
theorem emits_xgmiLinkOps (xgmiStats : Option (List HealthCLI.GPUXGMILinkStats))
    : Emits [] base (xgmiLinkOps l xgmiStats) (xgmiStats.elim [] (linkEntries · 0)) := by
  cases xgmiStats with
  | none => exact ⟨OpsEmit.nil, hl⟩
  | some xgmiStats =>
    have hloop := emits_linkLoop (hl.mono (by simp)) 0 xgmiStats
    have hops := (hloop.ops.append_markUnless GPU_XGMI_LINK_RX (linkLoop 0 l xgmiStats).2.1)
      |>.append_markUnless GPU_XGMI_LINK_TX (linkLoop 0 l xgmiStats).2.2
    exact ⟨hops, hloop.rest.erase (hbase .link _ (by decide))⟩

omit [FloatOps] in
theorem emits_violationOps (violationStats : Option Amdgpu.GPUViolationStats)
    : Emits [] base (violationOps base l violationStats) (violationStats.elim [] violationEntries) := by
  cases violationStats with
  | none => exact ⟨OpsEmit.nil, hl⟩
  | some violationStats =>
    have hscalar : OpsEmit base (exportAll base (violationValues violationStats))
        (scalarEntries (violationValues violationStats)) :=
      opsEmit_exportAll (forall_isScalar rfl)
    have hfields : ∀ v ∈ xccValues violationStats, v.1.indexNames = ["xcc_index"] := by
      simp only [xccValues, List.forall_mem_cons]
      and_intros <;> first | rfl | simp
    have hloop := emits_xccOps (hl.mono (by simp)) hfields
    exact ⟨hscalar.append hloop.ops, hloop.rest.erase (hbase .xcc _ (by decide))⟩

omit [FloatOps] in
theorem emits_afidOps [CaseMap] (cper : Option Amdgpu.CPEREntry)
    : Emits [] base (afidOps l cper) (cper.elim [] cperEntries) := by
  cases cper with
  | none => exact ⟨OpsEmit.nil, hl⟩
  | some c =>
    let severity := normalizeStringWithoutPrefix c.severity.toString "CPER_SEVERITY_"
    have hl' : AgreeOff IndexLabels.afid.names base (l.insert "severity" severity) :=
      (hl.mono (by simp)).insert (by decide) _
    have hloop := emits_afidLoop hl' (AList.lookup_insert _) 0 c.afId
    refine ⟨hloop.ops, ?_⟩
    apply AgreeOff.erase _ (hbase .afid "severity" (by decide))
    apply AgreeOff.erase _ (hbase .afid "afid_index" (by decide))
    apply hloop.rest.mono
    decide

omit [FloatOps] in
theorem emits_processOps (processStatus : Option (List Amdgpu.ProcessInfo))
    : Emits [] base (processOps l processStatus) (processStatus.elim [] processEntries) := by
  rcases processStatus with _ | _ | ⟨procInfo, processInfo⟩
  . exact ⟨OpsEmit.nil, hl⟩
  . exact ⟨OpsEmit.nil, hl⟩
  . have hloop := emits_processLoop (hl.mono (by simp)) (procInfo :: processInfo)
    exact ⟨hloop.ops, hloop.rest.erase (hbase .process _ (by decide))⟩

omit hl in
/--
The pass over the counters of one GPU writes what the table says, with the labels of the GPU.
-/
theorem opsEmit_counterOps [CaseMap] (gpu : Amdgpu.GPU) (stats : Amdgpu.GPUStats)
    (cper : Option Amdgpu.CPEREntry)
    : OpsEmit base (GPUMetricsClient.counterOps base gpu stats cper) (counterEntries gpu stats cper) := by
  have htemperature := emits_temperatureOps hbase (AgreeOff.refl [] base) stats.temperature
  have husage := emits_usageOps hbase htemperature.rest stats.usage
  have hclocks := emits_clockOps hbase husage.rest gpu.status.clockStatus
  have hlinks := emits_xgmiLinkOps hbase hclocks.rest stats.xgmiLinkStats
  have hviolations := emits_violationOps hbase hlinks.rest stats.violationStats
  have hafids := emits_afidOps hbase hviolations.rest cper
  have hprocesses := emits_processOps hbase hafids.rest gpu.status.processStatus
  have hpcieStats : ∀ v ∈ stats.pcieStats.elim [] pcieStatsValues, v.1.isScalar = true := by
    cases stats.pcieStats with
    | none => simp
    | some pcieStats => exact forall_isScalar rfl
  have hvramUsage : ∀ v ∈ stats.vramUsage.elim [] vramUsageValues, v.1.isScalar = true := by
    cases stats.vramUsage with
    | none => simp
    | some vramUsage => exact forall_isScalar rfl
  have hvram : ∀ v ∈ vramValues stats.vramUsage gpu.status.vramStatus, v.1.isScalar = true := by
    unfold vramValues
    dsimp only
    split
    . exact forall_isScalar rfl
    . simp
  exact (opsEmit_exportNonZero (forall_isScalar rfl)).append htemperature.ops
    |>.append husage.ops
    |>.append (opsEmit_voltageOps stats.voltage)
    |>.append (opsEmit_pcieStatusOps gpu.status.pcieStatus)
    |>.append (opsEmit_exportAll hpcieStats)
    |>.append (opsEmit_exportNonZero (forall_isScalar rfl))
    |>.append hclocks.ops
    |>.append (opsEmit_exportNonZero (forall_isScalar rfl))
    |>.append (opsEmit_exportAll (forall_isScalar rfl))
    |>.append (opsEmit_exportAll (forall_isScalar rfl))
    |>.append (opsEmit_exportAll (forall_isScalar rfl))
    |>.append (opsEmit_exportAll hvramUsage)
    |>.append (opsEmit_exportAll hvram)
    |>.append hlinks.ops
    |>.append hviolations.ops
    |>.append hafids.ops
    |>.append hprocesses.ops

end Sections

end GPUAgent
