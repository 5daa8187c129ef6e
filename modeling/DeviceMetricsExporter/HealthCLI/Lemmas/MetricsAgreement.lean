import DeviceMetricsExporter.GPUAgent.Lemmas.ScrapeContent
import DeviceMetricsExporter.HealthCLI.Lemmas.EccAgreement

/-!
This module contains the agreement of the `counter-metric` command with the metrics of the exporter on all
fields that both of them know: what a metric shows of a GPU, the command reads from the same message.
-/

namespace HealthCLI

open GPUAgent GPUMetricField

section Convert

theorem toInt64_natCast {n : Nat} (h : n < 2 ^ 63) : toInt64 (n : ℚ) = n := by
  have htdiv : ((n : ℚ)).num.tdiv ((n : ℚ)).den = n := by
    rw [Rat.num_natCast, Rat.den_natCast]
    exact Int.tdiv_one _
  simp only [toInt64, htdiv]
  apply if_pos
  omega

theorem toInt64_of_nonneg {x : ℚ} (h : 0 ≤ x) (hlt : x < 2 ^ 63) : toInt64 x = ⌊x⌋₊ := by
  have hnum : 0 ≤ x.num := Rat.num_nonneg.mpr h
  have htdiv : x.num.tdiv x.den = ⌊x⌋ := by
    rw [Int.tdiv_eq_ediv_of_nonneg hnum, Rat.floor_def']
  have hfloor : (⌊x⌋₊ : Int) = ⌊x⌋ := Int.natCast_floor_eq_floor h
  have hbound : ⌊x⌋₊ < 2 ^ 63 := by
    rw [Nat.floor_lt h]
    exact_mod_cast hlt
  simp only [toInt64, htdiv, ← hfloor]
  apply if_pos
  omega

theorem float64OfUint32_eq : float64OfUint32 = fun x => toFloat64 x.toUInt64 := by
  funext x
  have hlt : x.toNat < 2 ^ 53 := lt_trans x.toNat_lt (by norm_num)
  rw [float64OfUint32, toFloat64, UInt32.toNat_toUInt64, Float64.float64_of_lt hlt]

theorem normalizeUint64_of_applicable {x : UInt64} (h : uint64Applicable x = true)
    : GPUAgent.normalizeUint64 x = float64 x.toNat := by
  apply if_neg
  intro hsentinel
  have hmem : x.toNat ∈ (MetricValue.uint64 x).sentinels := by
    simpa [MetricValue.sentinels, UInt64.size, UInt32.size, UInt16.size, UInt8.size] using hsentinel
  simp [uint64Applicable, MetricValue.isValueApplicable, MetricValue.convertFloatToUint, hmem] at h

theorem normalizeUint64_of_ne_zero {x : UInt64} (h : GPUAgent.normalizeUint64 x ≠ 0)
    : GPUAgent.normalizeUint64 x = float64 x.toNat := by
  unfold GPUAgent.normalizeUint64 at h ⊢
  split at h
  . exact absurd rfl h
  . next hsentinel => exact if_neg hsentinel

variable [FloatOps]

theorem toInt64_float32Value {x : ℚ} (h : 0 ≤ x) (hlt : x < 2 ^ 32)
    (happlicable : (float32Value x).isValueApplicable = true)
    : toInt64 (float32Value x).normalizeUint64 = toInt64 x := by
  have hbound : ⌊x⌋₊ < 2 ^ 32 := by
    rw [Nat.floor_lt h]
    exact_mod_cast hlt
  have hlt' : x < 2 ^ 63 := lt_trans hlt (by norm_num)
  rw [toInt64_of_nonneg h hlt', MetricValue.normalizeUint64, if_pos happlicable]
  have hvalue : (float32Value x).convertFloatToUint = ⌊x⌋₊ := FloatOps.toUint32_eq x h hlt
  rw [hvalue, Float64.float64_of_lt (by omega)]
  exact toInt64_natCast (by omega)

theorem toInt64_float64Value {x : ℚ} (h : 0 ≤ x) (hlt : x < 2 ^ 53)
    (happlicable : (float64Value x).isValueApplicable = true)
    : toInt64 (float64Value x).normalizeUint64 = toInt64 x := by
  have hbound : ⌊x⌋₊ < 2 ^ 53 := by
    rw [Nat.floor_lt h]
    exact_mod_cast hlt
  have hlt' : x < 2 ^ 63 := lt_trans hlt (by norm_num)
  have hlt'' : x < 2 ^ 64 := lt_trans hlt (by norm_num)
  rw [toInt64_of_nonneg h hlt', MetricValue.normalizeUint64, if_pos happlicable]
  have hvalue : (float64Value x).convertFloatToUint = ⌊x⌋₊ := FloatOps.toUint64_eq x h hlt''
  rw [hvalue, Float64.float64_of_lt hbound]
  exact toInt64_natCast (by omega)

end Convert

section Agreement

def emptyGPU : GPU where
  spec := { id := [] }
  status := { index := 0 }
  stats := none

/--
The fields that the command has a case for. It finds a value for them in a message without any data.
-/
def Switched (field : GPUMetricField) : Prop :=
  metricOfField emptyGPU {} field ≠ []

def Known (field : GPUMetricField) : Prop :=
  field = GPU_NODES_TOTAL ∨ Switched field

variable (gpu : Amdgpu.GPU) (stats : Amdgpu.GPUStats)

def commandValues (field : GPUMetricField) : List ℚ :=
  metricOfField gpu.toHealthCLI stats.toHealthCLI field

/--
The command has a value that it compares as the given one, if it knows the field at all.
-/
def Reads (field : GPUMetricField) (value : ℚ) : Prop :=
  Switched field → ∃ v ∈ commandValues gpu stats field, toInt64 value = toInt64 v

def ReadsAll (entries : List MetricEntry) : Prop :=
  ∀ e ∈ entries, Reads gpu stats e.field e.value

/--
The readings that are not integers are within the range of the integers that the exporter makes of them,
and the used memory stands for itself and fits into the memory.
-/
structure Measurable : Prop where
  temperature : ∀ t ∈ stats.temperature,
    ∀ x ∈ [t.edgeTemperature, t.junctionTemperature, t.memoryTemperature], 0 ≤ x ∧ x < 2 ^ 32
  energy : 0 ≤ stats.energyConsumed ∧ stats.energyConsumed < 2 ^ 53
  size : ∀ vramStatus ∈ gpu.status.vramStatus, vramStatus.size.toNat < 2 ^ 53
  used : ∀ vramUsage ∈ stats.vramUsage, uint64Applicable vramUsage.usedVRAM = true
    ∧ vramUsage.usedVRAM.toNat ≤ gpu.status.vramStatus.elim 0 (·.size.toNat)

variable {gpu stats}

theorem reads_of_mem {field : GPUMetricField} {value : ℚ} (h : value ∈ commandValues gpu stats field)
    : Reads gpu stats field value :=
  fun _ => ⟨value, h, rfl⟩

theorem reads_of_unknown {field : GPUMetricField} {value : ℚ} (h : metricOfField emptyGPU {} field = [])
    : Reads gpu stats field value :=
  fun hne => absurd h hne

theorem ReadsAll.append {entries entries' : List MetricEntry} (h : ReadsAll gpu stats entries)
    (h' : ReadsAll gpu stats entries') : ReadsAll gpu stats (entries ++ entries') :=
  fun e he => (List.mem_append.mp he).elim (h e) (h' e)

theorem readsAll_elim {α : Type} {o : Option α} {f : α → List MetricEntry}
    (h : ∀ x ∈ o, ReadsAll gpu stats (f x)) : ReadsAll gpu stats (o.elim [] f) := by
  cases o with
  | none => exact fun e he => absurd he List.not_mem_nil
  | some x => exact h x rfl

def ReadsValue (gpu : Amdgpu.GPU) (stats : Amdgpu.GPUStats) (v : GPUMetricField × MetricValue) : Prop :=
  v.2.isValueApplicable = true → Reads gpu stats v.1 v.2.normalizeUint64

theorem readsAll_scalarEntries {values : List (GPUMetricField × MetricValue)}
    (h : ∀ v ∈ values, ReadsValue gpu stats v) : ReadsAll gpu stats (scalarEntries values) := by
  intro e he
  rcases List.mem_filterMap.mp he with ⟨v, hv, hentry⟩
  split at hentry
  . next happlicable =>
    cases hentry
    exact h v hv happlicable
  . cases hentry

theorem readsAll_scalar_elim {α : Type} {o : Option α} {f : α → List (GPUMetricField × MetricValue)}
    (h : ∀ x ∈ o, ReadsAll gpu stats (scalarEntries (f x)))
    : ReadsAll gpu stats (scalarEntries (o.elim [] f)) := by
  cases o with
  | none => exact fun e he => absurd he List.not_mem_nil
  | some x => exact h x rfl

theorem readsValue_uint64 {field : GPUMetricField} {x : UInt64}
    (h : commandValues gpu stats field = [toFloat64 x]) : ReadsValue gpu stats (field, .uint64 x) := by
  intro happlicable
  apply reads_of_mem
  rw [h, MetricValue.normalizeUint64, if_pos happlicable]
  exact List.mem_singleton_self _

theorem readsValue_uint32 {field : GPUMetricField} {x : UInt32}
    (h : commandValues gpu stats field = [toFloat64 x.toUInt64])
    : ReadsValue gpu stats (field, .uint32 x) := by
  intro happlicable
  apply reads_of_mem
  rw [h, MetricValue.normalizeUint64, if_pos happlicable]
  exact List.mem_singleton_self _

theorem readsValue_unknown {v : GPUMetricField × MetricValue} (h : metricOfField emptyGPU {} v.1 = [])
    : ReadsValue gpu stats v :=
  fun _ => reads_of_unknown h

theorem elim_of_some {α : Type} {o : Option α} {x : α} (h : o = some x) (f : α → ℚ)
    : [o.elim 0 f] = [f x] := by
  rw [h, Option.elim_some]

theorem readsAll_packagePower
    : ReadsAll gpu stats (scalarEntries (unconditional (packagePowerValues stats))) := by
  apply readsAll_scalarEntries
  simp only [unconditional, packagePowerValues, List.map_cons, List.map_nil, List.forall_mem_cons]
  exact ⟨readsValue_uint64 rfl, readsValue_uint64 rfl, List.forall_mem_nil _⟩

theorem readsAll_powerUsage
    : ReadsAll gpu stats (scalarEntries (unconditional (powerUsageValues stats))) := by
  apply readsAll_scalarEntries
  simp only [unconditional, powerUsageValues, List.map_cons, List.map_nil, List.forall_mem_cons]
  exact ⟨readsValue_uint64 rfl, List.forall_mem_nil _⟩

theorem readsAll_eccEntries : ReadsAll gpu stats (scalarEntries (eccValues stats)) := by
  apply readsAll_scalarEntries
  unfold eccValues
  -- the command does not know the deferred errors
  repeat' first
    | exact List.forall_mem_nil _
    | refine List.forall_mem_cons.mpr ⟨readsValue_uint64 rfl, ?_⟩
    | refine List.forall_mem_cons.mpr ⟨readsValue_unknown rfl, ?_⟩

theorem readsAll_xgmiNeighbor : ReadsAll gpu stats (scalarEntries (xgmiNeighborValues stats)) := by
  apply readsAll_scalarEntries
  unfold xgmiNeighborValues
  repeat' first
    | exact List.forall_mem_nil _
    | refine List.forall_mem_cons.mpr ⟨readsValue_uint64 rfl, ?_⟩

theorem readsAll_voltage {volt : HealthCLI.GPUVoltage} (h : stats.voltage = some volt)
    : ReadsAll gpu stats (scalarEntries (voltageValues volt)) := by
  apply readsAll_scalarEntries
  simp only [voltageValues, List.forall_mem_cons]
  exact ⟨readsValue_uint64 (elim_of_some h (toFloat64 ·.voltage)),
    readsValue_uint64 (elim_of_some h (toFloat64 ·.gfxVoltage)),
    readsValue_uint64 (elim_of_some h (toFloat64 ·.memoryVoltage)), List.forall_mem_nil _⟩

theorem readsAll_pcieStatus {pcieStatus : HealthCLI.GPUPCIeStatus}
    (h : gpu.status.pcieStatus = some pcieStatus)
    : ReadsAll gpu stats (scalarEntries (pcieStatusValues pcieStatus)) := by
  apply readsAll_scalarEntries
  simp only [pcieStatusValues, List.forall_mem_cons]
  exact ⟨readsValue_uint32 (elim_of_some h (toFloat64 ·.speed.toUInt64)),
    readsValue_uint32 (elim_of_some h (toFloat64 ·.maxSpeed.toUInt64)),
    readsValue_uint64 (elim_of_some h (toFloat64 ·.bandwidth)), List.forall_mem_nil _⟩

theorem readsAll_pcieStats {pcieStats : Amdgpu.GPUPCIeStats} (h : stats.pcieStats = some pcieStats)
    : ReadsAll gpu stats (scalarEntries (pcieStatsValues pcieStats)) := by
  have hread : stats.toHealthCLI.pcieStats = some pcieStats.toGPUPCIeStats :=
    congrArg (Option.map Amdgpu.GPUPCIeStats.toGPUPCIeStats) h
  apply readsAll_scalarEntries
  simp only [pcieStatsValues, List.forall_mem_cons]
  exact ⟨readsValue_uint64 (elim_of_some hread (toFloat64 ·.replayCount)),
    readsValue_uint64 (elim_of_some hread (toFloat64 ·.recoveryCount)),
    readsValue_uint64 (elim_of_some hread (toFloat64 ·.replayRolloverCount)),
    readsValue_uint64 (elim_of_some hread (toFloat64 ·.nackSentCount)),
    readsValue_uint64 (elim_of_some hread (toFloat64 ·.nackReceivedCount)),
    readsValue_unknown rfl, readsValue_unknown rfl, readsValue_unknown rfl, List.forall_mem_nil _⟩

theorem readsAll_vramUsage {vramUsage : HealthCLI.GPUVRAMUsage} (h : stats.vramUsage = some vramUsage)
    : ReadsAll gpu stats (scalarEntries (vramUsageValues vramUsage)) := by
  apply readsAll_scalarEntries
  simp only [vramUsageValues, List.forall_mem_cons]
  exact ⟨readsValue_uint64 (elim_of_some h (toFloat64 ·.totalVisibleVRAM)),
    readsValue_uint64 (elim_of_some h (toFloat64 ·.usedVisibleVRAM)),
    readsValue_uint64 (elim_of_some h (toFloat64 ·.freeVisibleVRAM)),
    readsValue_uint64 (elim_of_some h (toFloat64 ·.totalGTT)),
    readsValue_uint64 (elim_of_some h (toFloat64 ·.usedGTT)),
    readsValue_uint64 (elim_of_some h (toFloat64 ·.freeGTT)), List.forall_mem_nil _⟩

section Lists

variable {α : Type} {field : GPUMetricField} {applicable : α → Bool} {value : α → ℚ} {xs : List α}

theorem readsAll_listEntries (h : commandValues gpu stats field = xs.map value ∨
      metricOfField emptyGPU {} field = [])
    : ReadsAll gpu stats (listEntries field applicable value xs) := by
  intro e he
  unfold listEntries at he
  split at he
  . rcases List.mem_filterMap.mp he with ⟨⟨x, i⟩, hx, hentry⟩
    split at hentry
    . cases hentry
      rcases h with h | h
      . apply reads_of_mem
        rw [h]
        exact List.mem_map_of_mem (List.fst_mem_of_mem_zipIdx hx)
      . exact reads_of_unknown h
    . cases hentry
  . exact absurd he List.not_mem_nil

theorem readsAll_flatMap {f : α → List MetricEntry} (h : ∀ x ∈ xs, ReadsAll gpu stats (f x))
    : ReadsAll gpu stats (xs.flatMap f) := by
  intro e he
  rcases List.mem_flatMap.mp he with ⟨x, hx, he⟩
  exact h x hx e he

theorem readsAll_xccEntries {values : List (GPUMetricField × List UInt64)}
    (h : ∀ v ∈ values, metricOfField emptyGPU {} v.1 = [])
    : ReadsAll gpu stats (xccEntries values) :=
  readsAll_flatMap fun v hv => readsAll_listEntries (.inr (h v hv))

theorem readsAll_entryIf {applicable : Bool} {index : List String} {x : ℚ}
    (h : x ∈ commandValues gpu stats field ∨ metricOfField emptyGPU {} field = [])
    : ReadsAll gpu stats (entryIf applicable field index x) := by
  intro e he
  unfold entryIf at he
  split at he
  . cases List.mem_singleton.mp he
    exact h.elim reads_of_mem reads_of_unknown
  . exact absurd he List.not_mem_nil

end Lists

theorem readsAll_usage {gpuUsage : Amdgpu.GPUUsage} (h : stats.usage = some gpuUsage)
    : ReadsAll gpu stats (usageEntries gpuUsage) := by
  have hread : stats.toHealthCLI.usage = some gpuUsage.toGPUUsage :=
    congrArg (Option.map Amdgpu.GPUUsage.toGPUUsage) h
  have hscalars : ReadsAll gpu stats (scalarEntries (usageValues gpuUsage)) := by
    apply readsAll_scalarEntries
    simp only [usageValues, List.forall_mem_cons]
    exact ⟨readsValue_uint32 (elim_of_some hread (toFloat64 ·.gfxActivity.toUInt64)),
      readsValue_uint32 (elim_of_some hread (toFloat64 ·.umcActivity.toUInt64)),
      readsValue_uint32 (elim_of_some hread (toFloat64 ·.mmActivity.toUInt64)), List.forall_mem_nil _⟩
  have hvcn : commandValues gpu stats GPU_VCN_ACTIVITY = gpuUsage.vcnActivity.map float64OfUint32 := by
    unfold commandValues metricOfField
    dsimp only
    rw [hread, float64OfUint32_eq, Option.elim_some]
  have hjpeg : commandValues gpu stats GPU_JPEG_ACTIVITY
      = gpuUsage.jpegActivity.map float64OfUint32 := by
    unfold commandValues metricOfField
    dsimp only
    rw [hread, float64OfUint32_eq, Option.elim_some]
  have hgfxBusy : metricOfField emptyGPU {} GPU_GFX_BUSY_INSTANTANEOUS = [] := rfl
  have hvcnBusy : metricOfField emptyGPU {} GPU_VCN_BUSY_INSTANTANEOUS = [] := rfl
  have hjpegBusy : metricOfField emptyGPU {} GPU_JPEG_BUSY_INSTANTANEOUS = [] := rfl
  unfold usageEntries
  apply ReadsAll.append _ (readsAll_listEntries (.inr hjpegBusy))
  apply ReadsAll.append _ (readsAll_listEntries (.inr hvcnBusy))
  apply ReadsAll.append _ (readsAll_listEntries (.inr hgfxBusy))
  apply ReadsAll.append _ (readsAll_listEntries (.inl hjpeg))
  exact hscalars.append (readsAll_listEntries (.inl hvcn))

theorem readsAll_clock [CaseMap] {clocks : List Amdgpu.GPUClockStatus}
    (h : gpu.status.clockStatus = some clocks) : ReadsAll gpu stats (clockEntries clocks 0) := by
  have hread : gpu.toHealthCLI.status.clockStatus
      = some (clocks.map Amdgpu.GPUClockStatus.toGPUClockStatus) :=
    congrArg (Option.map (List.map Amdgpu.GPUClockStatus.toGPUClockStatus)) h
  have hclock : commandValues gpu stats GPU_CLOCK = clocks.map (float64OfUint32 ·.frequency) := by
    unfold commandValues metricOfField
    dsimp only
    rw [hread, float64OfUint32_eq, Option.elim_some, List.map_map]
    rfl
  have hmin : metricOfField emptyGPU {} GPU_MIN_CLOCK = [] := rfl
  have hmax : metricOfField emptyGPU {} GPU_MAX_CLOCK = [] := rfl
  apply readsAll_flatMap
  rintro ⟨clock, j⟩ hclocks
  have hmem : float64OfUint32 clock.frequency ∈ commandValues gpu stats GPU_CLOCK := by
    rw [hclock]
    exact List.mem_map_of_mem (List.fst_mem_of_mem_zipIdx hclocks)
  apply ReadsAll.append _ (readsAll_entryIf (.inr hmax))
  exact (readsAll_entryIf (.inl hmem)).append (readsAll_entryIf (.inr hmin))

theorem readsAll_link {xgmiStats : List HealthCLI.GPUXGMILinkStats}
    (h : stats.xgmiLinkStats = some xgmiStats) : ReadsAll gpu stats (linkEntries xgmiStats 0) := by
  have hread : stats.toHealthCLI.xgmiLinkStats = some xgmiStats := h
  have hrx : commandValues gpu stats GPU_XGMI_LINK_RX = xgmiStats.map (toFloat64 ·.dataRead) := by
    unfold commandValues metricOfField
    dsimp only
    rw [hread, Option.elim_some]
  have htx : commandValues gpu stats GPU_XGMI_LINK_TX = xgmiStats.map (toFloat64 ·.dataWrite) := by
    unfold commandValues metricOfField
    dsimp only
    rw [hread, Option.elim_some]
  apply readsAll_flatMap
  rintro ⟨linkStat, j⟩ hlinks
  have hlink : linkStat ∈ xgmiStats := List.fst_mem_of_mem_zipIdx hlinks
  have hread : float64OfUint64 linkStat.dataRead ∈ commandValues gpu stats GPU_XGMI_LINK_RX := by
    rw [hrx]
    exact List.mem_map.mpr ⟨linkStat, hlink, rfl⟩
  have hwrite : float64OfUint64 linkStat.dataWrite ∈ commandValues gpu stats GPU_XGMI_LINK_TX := by
    rw [htx]
    exact List.mem_map.mpr ⟨linkStat, hlink, rfl⟩
  exact (readsAll_entryIf (.inl hread)).append (readsAll_entryIf (.inl hwrite))

theorem readsAll_violation {violationStats : Amdgpu.GPUViolationStats}
    (h : stats.violationStats = some violationStats)
    : ReadsAll gpu stats (violationEntries violationStats) := by
  have hread : stats.toHealthCLI.violationStats = some violationStats.toGPUViolationStats :=
    congrArg (Option.map Amdgpu.GPUViolationStats.toGPUViolationStats) h
  have hscalars : ReadsAll gpu stats (scalarEntries (violationValues violationStats)) := by
    apply readsAll_scalarEntries
    simp only [violationValues, List.forall_mem_cons]
    exact ⟨readsValue_uint64 (elim_of_some hread (toFloat64 ·.currentAccumulatedCounter)),
      readsValue_uint64 (elim_of_some hread (toFloat64 ·.processorHotResidencyAccumulated)),
      readsValue_uint64 (elim_of_some hread (toFloat64 ·.pptResidencyAccumulated)),
      readsValue_uint64 (elim_of_some hread (toFloat64 ·.socketThermalResidencyAccumulated)),
      readsValue_uint64 (elim_of_some hread (toFloat64 ·.vrThermalResidencyAccumulated)),
      readsValue_uint64 (elim_of_some hread (toFloat64 ·.hbmThermalResidencyAccumulated)),
      readsValue_unknown rfl, readsValue_unknown rfl, readsValue_unknown rfl, readsValue_unknown rfl,
      readsValue_unknown rfl, List.forall_mem_nil _⟩
  have hunknown : ∀ v ∈ xccValues violationStats, metricOfField emptyGPU {} v.1 = [] := by
    simp only [xccValues, List.forall_mem_cons]
    exact ⟨rfl, rfl, rfl, rfl, rfl, rfl, rfl, rfl, List.forall_mem_nil _⟩
  exact hscalars.append (readsAll_xccEntries hunknown)

variable [FloatOps]

theorem readsAll_temperature (hmeasurable : Measurable gpu stats)
    {tempStats : HealthCLI.GPUTemperatureStats} (h : stats.temperature = some tempStats)
    : ReadsAll gpu stats (temperatureEntries tempStats) := by
  have hvalue {field : GPUMetricField} {x : ℚ}
      (hx : x ∈ [tempStats.edgeTemperature, tempStats.junctionTemperature, tempStats.memoryTemperature])
      (hfield : commandValues gpu stats field = [x]) : ReadsValue gpu stats (field, float32Value x) := by
    intro happlicable _
    rcases hmeasurable.temperature tempStats h x hx with ⟨hnonneg, hlt⟩
    refine ⟨x, ?_, toInt64_float32Value hnonneg hlt happlicable⟩
    rw [hfield]
    exact List.mem_singleton_self x
  have hscalars : ReadsAll gpu stats (scalarEntries (unconditional (temperatureValues tempStats))) := by
    apply readsAll_scalarEntries
    simp only [unconditional, temperatureValues, List.map_cons, List.map_nil, List.forall_mem_cons]
    exact ⟨hvalue (by simp) (elim_of_some h (·.edgeTemperature)),
      hvalue (by simp) (elim_of_some h (·.junctionTemperature)),
      hvalue (by simp) (elim_of_some h (·.memoryTemperature)), List.forall_mem_nil _⟩
  have hhbm : commandValues gpu stats GPU_HBM_TEMPERATURE = tempStats.hbmTemperature.map id := by
    have hread : stats.toHealthCLI.temperature = some tempStats := h
    unfold commandValues metricOfField
    dsimp only
    rw [hread, Option.elim_some, List.map_id]
  exact hscalars.append (readsAll_listEntries (.inl hhbm))

theorem readsAll_energy (hmeasurable : Measurable gpu stats)
    : ReadsAll gpu stats (scalarEntries (unconditional (energyValues stats))) := by
  apply readsAll_scalarEntries
  simp only [unconditional, energyValues, List.map_cons, List.map_nil, List.forall_mem_cons]
  refine ⟨fun happlicable _ => ?_, List.forall_mem_nil _⟩
  exact ⟨stats.energyConsumed, List.mem_singleton_self _,
    toInt64_float64Value hmeasurable.energy.1 hmeasurable.energy.2 happlicable⟩

theorem readsValue_natCast {field : GPUMetricField} {n : Nat} (hn : n < 2 ^ 53)
    (h : commandValues gpu stats field = [(n : ℚ)]) : ReadsValue gpu stats (field, float64Value n) := by
  intro happlicable _
  have hlt : (n : ℚ) < 2 ^ 53 := by exact_mod_cast hn
  refine ⟨n, ?_, toInt64_float64Value (Nat.cast_nonneg n) hlt happlicable⟩
  rw [h]
  exact List.mem_singleton_self _

theorem readsAll_vram (hmeasurable : Measurable gpu stats)
    : ReadsAll gpu stats (scalarEntries (vramValues stats.vramUsage gpu.status.vramStatus)) := by
  apply readsAll_scalarEntries
  cases hstatus : gpu.status.vramStatus with
  | none => exact List.forall_mem_nil _
  | some vramStatus =>
    have hread : gpu.toHealthCLI.status.vramStatus = some vramStatus.toGPUVRAMStatus :=
      congrArg (Option.map Amdgpu.GPUVRAMStatus.toGPUVRAMStatus) hstatus
    have hsize := hmeasurable.size vramStatus hstatus
    -- both compute with the same used memory
    have hused : ∃ used : Nat, used ≤ vramStatus.size.toNat
        ∧ (stats.vramUsage.elim 0 fun vramUsage => GPUAgent.normalizeUint64 vramUsage.usedVRAM) = used
        ∧ (stats.vramUsage.elim 0 fun vramUsage => float64 vramUsage.usedVRAM.toNat) = used := by
      cases husage : stats.vramUsage with
      | none => exact ⟨0, Nat.zero_le _, rfl, rfl⟩
      | some vramUsage =>
        rcases hmeasurable.used vramUsage husage with ⟨happlicable, hle⟩
        rw [hstatus, Option.elim_some] at hle
        have hfits : float64 vramUsage.usedVRAM.toNat = vramUsage.usedVRAM.toNat :=
          Float64.float64_of_lt (lt_of_le_of_lt hle hsize)
        refine ⟨vramUsage.usedVRAM.toNat, hle, ?_, hfits⟩
        rw [Option.elim_some, normalizeUint64_of_applicable happlicable, hfits]
    rcases hused with ⟨used, hle, hexporter, hcommand⟩
    have hfree : HealthCLI.subFloat64 vramStatus.size.toNat used = (vramStatus.size.toNat - used : Nat) := by
      rw [HealthCLI.subFloat64, if_pos hle, Float64.float64_of_lt (by omega)]
    unfold vramValues
    simp only [Option.elim_some, hexporter]
    by_cases htotal : GPUAgent.normalizeUint64 vramStatus.size ≠ 0
    . have htotal' : GPUAgent.normalizeUint64 vramStatus.size = vramStatus.size.toNat := by
        rw [normalizeUint64_of_ne_zero htotal, Float64.float64_of_lt hsize]
      have hpos : 0 < vramStatus.size.toNat := by omega
      simp only [htotal', if_pos (Nat.pos_iff_ne_zero.mp hpos), List.forall_mem_cons]
      rw [hfree]
      refine ⟨readsValue_natCast hsize ?_, readsValue_natCast (by omega) ?_,
        readsValue_natCast (by omega) ?_, List.forall_mem_nil _⟩
      . unfold commandValues metricOfField
        dsimp only
        rw [hread, Option.elim_some, toFloat64, Float64.float64_of_lt hsize]
      . unfold commandValues metricOfField
        dsimp only
        rw [← hcommand]
        show [stats.vramUsage.elim 0 _] = _
        cases stats.vramUsage with
        | none => simp
        | some vramUsage => rfl
      . have hcommand' : (stats.toHealthCLI.vramUsage.elim 0 fun vramUsage =>
            float64 vramUsage.usedVRAM.toNat) = used := hcommand
        unfold commandValues metricOfField
        dsimp only
        rw [hread, Option.elim_some, hcommand', Float64.float64_of_lt hsize, if_pos hpos, hfree]
    . rw [if_neg htotal]
      exact List.forall_mem_nil _

omit [FloatOps] in
theorem readsAll_cper [CaseMap] (cper : Amdgpu.CPEREntry) : ReadsAll gpu stats (cperEntries cper) := by
  have hunknown : metricOfField emptyGPU {} GPU_AFID_ERRORS = [] := rfl
  intro e he
  rcases List.mem_map.mp he with ⟨p, _, rfl⟩
  exact reads_of_unknown hunknown

omit [FloatOps] in
theorem readsAll_process (processInfo : List Amdgpu.ProcessInfo)
    : ReadsAll gpu stats (processEntries processInfo) := by
  have hunknown : metricOfField emptyGPU {} GPU_PROCESS_CU_OCCUPANCY = [] := rfl
  exact readsAll_flatMap fun _ _ => readsAll_entryIf (.inr hunknown)

theorem readsAll_bandwidth
    : ReadsAll gpu stats (scalarEntries (vramMaxBandwidthValues gpu.status.vramStatus)) := by
  apply readsAll_scalarEntries
  simp only [vramMaxBandwidthValues, List.forall_mem_cons]
  exact ⟨readsValue_unknown rfl, List.forall_mem_nil _⟩

/--
Whatever a metric shows of the counters of a GPU, the command reads from the message of the GPU.
-/
theorem readsAll_counterEntries [CaseMap] (hmeasurable : Measurable gpu stats)
    (cper : Option Amdgpu.CPEREntry) : ReadsAll gpu stats (counterEntries gpu stats cper) := by
  unfold counterEntries
  apply ReadsAll.append _ (readsAll_elim fun _ _ => readsAll_process _)
  apply ReadsAll.append _ (readsAll_elim fun _ _ => readsAll_cper _)
  apply ReadsAll.append _ (readsAll_elim fun _ h => readsAll_violation h)
  apply ReadsAll.append _ (readsAll_elim fun _ h => readsAll_link h)
  apply ReadsAll.append _ (readsAll_vram hmeasurable)
  apply ReadsAll.append _ (readsAll_scalar_elim fun _ h => readsAll_vramUsage h)
  apply ReadsAll.append _ readsAll_xgmiNeighbor
  apply ReadsAll.append _ readsAll_eccEntries
  apply ReadsAll.append _ readsAll_bandwidth
  apply ReadsAll.append _ readsAll_powerUsage
  apply ReadsAll.append _ (readsAll_elim fun _ h => readsAll_clock h)
  apply ReadsAll.append _ (readsAll_energy hmeasurable)
  apply ReadsAll.append _ (readsAll_scalar_elim fun _ h => readsAll_pcieStats h)
  apply ReadsAll.append _ (readsAll_scalar_elim fun _ h => readsAll_pcieStatus h)
  apply ReadsAll.append _ (readsAll_scalar_elim fun _ h => readsAll_voltage h)
  apply ReadsAll.append _ (readsAll_elim fun _ h => readsAll_usage h)
  apply ReadsAll.append _ (readsAll_elim fun _ h => readsAll_temperature hmeasurable h)
  exact readsAll_packagePower

end Agreement

section Command

variable [CaseMap] [FloatOps] {ga : GPUMetricsClient} {handler : GPUHandler} {data : ScrapeData}
  {cperEntryMap : GoMap String Amdgpu.CPEREntry}

omit [CaseMap] [FloatOps] in
theorem not_switched_profiler
    : ∀ field ∈ profilerCaseFields, metricOfField emptyGPU {} field = [] := by
  simp only [profilerCaseFields, profilerCases, List.map_cons, List.map_nil, List.cons_append,
    List.nil_append, List.forall_mem_cons]
  repeat' first
    | exact List.forall_mem_nil _
    | refine ⟨rfl, ?_⟩

theorem mem_counterEntries_of_switched {gpu : Amdgpu.GPU} {e : MetricEntry}
    (he : e ∈ ga.gpuEntries handler data cperEntryMap gpu) (hswitched : Switched e.field)
    : ∃ stats, gpu.stats = some stats
        ∧ e ∈ counterEntries gpu stats (cperEntryMap.lookup (getGPUUUID gpu.toAgent)) := by
  unfold GPUMetricsClient.gpuEntries at he
  split at he
  . rcases List.mem_append.mp he with he | he
    . rcases List.mem_append.mp he with he | he
      . cases hstate : ga.client.healthState.lookup (getGPUInstanceIDString gpu.toAgent) with
        | none =>
          rw [hstate] at he
          exact absurd he List.not_mem_nil
        | some hstate' =>
          rw [hstate] at he
          cases List.mem_singleton.mp he
          exact absurd rfl hswitched
      . cases hstats : gpu.stats with
        | none =>
          rw [hstats] at he
          exact absurd he List.not_mem_nil
        | some stats =>
          rw [hstats] at he
          exact ⟨stats, rfl, he⟩
    . cases hprofiler : ga.profMetrics handler data gpu with
      | none =>
        rw [hprofiler] at he
        exact absurd he List.not_mem_nil
      | some profMetrics =>
        rw [hprofiler] at he
        have hfield := (keyed_profilerEntries profMetrics).field_mem e he
        exact absurd (not_switched_profiler e.field hfield) hswitched
  . exact absurd he List.not_mem_nil

omit [FloatOps] in
theorem mem_parseGPUMetricsResponse_of_stats {unmarshal : String → Option GPUGetResponse}
    {response metricName : String} {gpus : List Amdgpu.GPU} {field : GPUMetricField}
    (hdecoded : unmarshal response = some ⟨gpus.map (·.toHealthCLI)⟩)
    (hname : metricFieldOfName (toUpper metricName) = some field) (hnodes : field ≠ GPU_NODES_TOTAL)
    {gpu : Amdgpu.GPU} (hgpu : gpu ∈ gpus) {stats : Amdgpu.GPUStats} (hstats : gpu.stats = some stats)
    {v : ℚ} (hv : v ∈ commandValues gpu stats field)
    : v ∈ parseGPUMetricsResponse unmarshal response metricName := by
  have hne : GPUMetricField.GPU_NODES_TOTAL.name ≠ toUpper metricName := by
    intro heq
    rw [← heq] at hname
    exact hnodes (Option.some.inj (hname.symm.trans rfl))
  have hstats' : gpu.toHealthCLI.stats = some stats.toHealthCLI :=
    congrArg (Option.map Amdgpu.GPUStats.toHealthCLI) hstats
  rw [parseGPUMetricsResponse, hdecoded]
  simp only [if_neg hne]
  refine List.mem_flatMap.mpr ⟨gpu.toHealthCLI, List.mem_map_of_mem hgpu, ?_⟩
  rw [fetchMetricFromGPU, hstats']
  simp only [hname]
  exact hv

omit [FloatOps] in
theorem mem_parseGPUMetricsResponse_of_nodes {unmarshal : String → Option GPUGetResponse}
    {response metricName : String} {gpus : List Amdgpu.GPU}
    (hdecoded : unmarshal response = some ⟨gpus.map (·.toHealthCLI)⟩)
    (hname : metricFieldOfName (toUpper metricName) = some GPU_NODES_TOTAL)
    : (float64 gpus.length : ℚ) ∈ parseGPUMetricsResponse unmarshal response metricName := by
  have hnodes : GPUMetricField.GPU_NODES_TOTAL.name = toUpper metricName := by
    simpa using List.find?_some hname
  rw [parseGPUMetricsResponse, hdecoded]
  simp only [if_pos hnodes, List.length_map, List.mem_singleton]

section Instances

def plainBody : String :=
  "\x7b\"Response\":[\x7b\"Status\":\x7b\x7d,\"Stats\":\x7b\"PackagePower\":250\x7d\x7d]\x7d"

def unmarshalPlain (body : String) : Option GPUGetResponse :=
  if body = plainBody then some ⟨[GPUMetricsClient.plainGPU].map (·.toHealthCLI)⟩ else none

end Instances

end Command

end HealthCLI
