import DeviceMetricsExporter.GPUAgent.Impl.Health

/-!
This module contains what one pass over the ECC counters computes: the fields that are checked, when
one of them exceeds its threshold, and the health map of a list of GPUs.
-/

namespace GPUAgent

open Exporter

inductive EccField where
  | sdma | gfx | mmhub | athub | bif | hdp | xgmiWafl
  | df | smn | sem | mp0 | mp1 | fuse | umc
  | mca | vcn | jpeg | ih | mpio
  deriving DecidableEq

namespace EccField

def all : List EccField :=
  [.sdma, .gfx, .mmhub, .athub, .bif, .hdp, .xgmiWafl, .df, .smn, .sem,
    .mp0, .mp1, .fuse, .umc, .mca, .vcn, .jpeg, .ih, .mpio]

theorem mem_all (f : EccField) : f ∈ all := by
  cases f <;> decide

def name : EccField → String
  | .sdma => "GPU_ECC_UNCORRECT_SDMA"
  | .gfx => "GPU_ECC_UNCORRECT_GFX"
  | .mmhub => "GPU_ECC_UNCORRECT_MMHUB"
  | .athub => "GPU_ECC_UNCORRECT_ATHUB"
  | .bif => "GPU_ECC_UNCORRECT_BIF"
  | .hdp => "GPU_ECC_UNCORRECT_HDP"
  | .xgmiWafl => "GPU_ECC_UNCORRECT_XGMI_WAFL"
  | .df => "GPU_ECC_UNCORRECT_DF"
  | .smn => "GPU_ECC_UNCORRECT_SMN"
  | .sem => "GPU_ECC_UNCORRECT_SEM"
  | .mp0 => "GPU_ECC_UNCORRECT_MP0"
  | .mp1 => "GPU_ECC_UNCORRECT_MP1"
  | .fuse => "GPU_ECC_UNCORRECT_FUSE"
  | .umc => "GPU_ECC_UNCORRECT_UMC"
  | .mca => "GPU_ECC_UNCORRECT_MCA"
  | .vcn => "GPU_ECC_UNCORRECT_VCN"
  | .jpeg => "GPU_ECC_UNCORRECT_JPEG"
  | .ih => "GPU_ECC_UNCORRECT_IH"
  | .mpio => "GPU_ECC_UNCORRECT_MPIO"

def threshold (thresholds : GPUHealthThresholds) : EccField → UInt32
  | .sdma => thresholds.GPU_ECC_UNCORRECT_SDMA
  | .gfx => thresholds.GPU_ECC_UNCORRECT_GFX
  | .mmhub => thresholds.GPU_ECC_UNCORRECT_MMHUB
  | .athub => thresholds.GPU_ECC_UNCORRECT_ATHUB
  | .bif => thresholds.GPU_ECC_UNCORRECT_BIF
  | .hdp => thresholds.GPU_ECC_UNCORRECT_HDP
  | .xgmiWafl => thresholds.GPU_ECC_UNCORRECT_XGMI_WAFL
  | .df => thresholds.GPU_ECC_UNCORRECT_DF
  | .smn => thresholds.GPU_ECC_UNCORRECT_SMN
  | .sem => thresholds.GPU_ECC_UNCORRECT_SEM
  | .mp0 => thresholds.GPU_ECC_UNCORRECT_MP0
  | .mp1 => thresholds.GPU_ECC_UNCORRECT_MP1
  | .fuse => thresholds.GPU_ECC_UNCORRECT_FUSE
  | .umc => thresholds.GPU_ECC_UNCORRECT_UMC
  | .mca => thresholds.GPU_ECC_UNCORRECT_MCA
  | .vcn => thresholds.GPU_ECC_UNCORRECT_VCN
  | .jpeg => thresholds.GPU_ECC_UNCORRECT_JPEG
  | .ih => thresholds.GPU_ECC_UNCORRECT_IH
  | .mpio => thresholds.GPU_ECC_UNCORRECT_MPIO

def counter (stats : GPUStats) : EccField → UInt64
  | .sdma => stats.sdmaUncorrectableErrors
  | .gfx => stats.gfxUncorrectableErrors
  | .mmhub => stats.mmhubUncorrectableErrors
  | .athub => stats.athubUncorrectableErrors
  | .bif => stats.bifUncorrectableErrors
  | .hdp => stats.hdpUncorrectableErrors
  | .xgmiWafl => stats.xgmiWaflUncorrectableErrors
  | .df => stats.dfUncorrectableErrors
  | .smn => stats.smnUncorrectableErrors
  | .sem => stats.semUncorrectableErrors
  | .mp0 => stats.mp0UncorrectableErrors
  | .mp1 => stats.mp1UncorrectableErrors
  | .fuse => stats.fuseUncorrectableErrors
  | .umc => stats.umcUncorrectableErrors
  | .mca => stats.mcaUncorrectableErrors
  | .vcn => stats.vcnUncorrectableErrors
  | .jpeg => stats.jpegUncorrectableErrors
  | .ih => stats.ihUncorrectableErrors
  | .mpio => stats.mpioUncorrectableErrors

def count (ga : GPUAgentGPUClient) (gpuid : String) (stats : GPUStats) (f : EccField) : Nat :=
  let mockVal := ga.getMockError gpuid f.name
  let x := (f.counter stats).toNat
  if mockVal > 0 then
    mockVal.toNat
  else if x = 2 ^ 64 - 1 ∨ x = 2 ^ 32 - 1 ∨ x = 2 ^ 16 - 1 ∨ x = 2 ^ 8 - 1 then
    0
  else
    x

end EccField

namespace GPUAgentGPUClient

def eccExceeded (ga : GPUAgentGPUClient) (thresholds : GPUHealthThresholds) (gpu : GPU) : Bool :=
  match gpu.stats with
  | none => false
  | some stats =>
    EccField.all.any fun f =>
      (f.threshold thresholds).toNat < f.count ga (getGPUInstanceIDString gpu) stats

theorem eccExceeded_eq_true (ga : GPUAgentGPUClient) (thresholds : GPUHealthThresholds) (gpu : GPU)
    : ga.eccExceeded thresholds gpu = true
        ↔ ∃ stats, gpu.stats = some stats ∧ ∃ f : EccField,
          (f.threshold thresholds).toNat < f.count ga (getGPUInstanceIDString gpu) stats := by
  unfold eccExceeded
  cases gpu.stats with
  | none => simp
  | some stats => simp [EccField.mem_all]

def eccHealth (ga : GPUAgentGPUClient) (thresholds : GPUHealthThresholds) (gpu : GPU) : GPUHealth :=
  if ga.eccExceeded thresholds gpu then .UNHEALTHY else .HEALTHY

theorem eccHealth_eq_unhealthy (ga : GPUAgentGPUClient) (thresholds : GPUHealthThresholds)
    (gpu : GPU)
    : ga.eccHealth thresholds gpu = .UNHEALTHY ↔ ga.eccExceeded thresholds gpu = true := by
  simp [eccHealth]

theorem eccHealth_eq_healthy (ga : GPUAgentGPUClient) (thresholds : GPUHealthThresholds) (gpu : GPU)
    : ga.eccHealth thresholds gpu = .HEALTHY ↔ ga.eccExceeded thresholds gpu = false := by
  simp [eccHealth]

def eccState [CaseMap] (ga : GPUAgentGPUClient) (thresholds : GPUHealthThresholds)
    (wls : GoMap String Workload) (gpu : GPU) : GPUState :=
  { id := getGPUInstanceIDString gpu
    uuid := uuidString gpu.spec.id
    health := ga.eccHealth thresholds gpu
    device := getPCIeBusID gpu
    associatedWorkload := ga.getWorkloadsListString wls (getGPUInstanceIDString gpu) }

end GPUAgentGPUClient

theorem setHealth_insert (m : GoMap String GPUState) (gpuid : String) (state : GPUState)
    (health : GPUHealth)
    : setHealth (m.insert gpuid state) gpuid health = some (m.insert gpuid { state with health }) := by
  simp [setHealth]

def EccCheck.exceeded (ga : GPUAgentGPUClient) (gpuid : String) (check : EccCheck) : Bool :=
  let mockVal := ga.getMockError gpuid check.fieldName
  (if mockVal > 0 then float64 mockVal.toNat else check.count) > float64 check.threshold.toNat

theorem exceeded_iff_threshold_lt_count (ga : GPUAgentGPUClient) (gpuid : String)
    (thresholds : GPUHealthThresholds) (stats : GPUStats) (f : EccField)
    : EccCheck.exceeded ga gpuid
          ⟨f.name, f.threshold thresholds, normalizeUint64 (f.counter stats)⟩ = true
        ↔ (f.threshold thresholds).toNat < f.count ga gpuid stats := by
  -- Neither the rounding of the counter nor that of the threshold changes the outcome of a check.
  have hthreshold : (f.threshold thresholds).toNat < 2 ^ 53 :=
    Nat.lt_trans (f.threshold thresholds).toNat_lt (by decide)
  have hmock : (ga.getMockError gpuid f.name).toNat < 2 ^ 53 :=
    Nat.lt_trans (ga.getMockError gpuid f.name).toNat_lt (by decide)
  simp only [EccCheck.exceeded, EccField.count, decide_eq_true_eq, gt_iff_lt,
    Float64.float64_of_lt hthreshold, Float64.float64_of_lt hmock]
  split
  . rfl
  . simp only [normalizeUint64]
    split
    . rfl
    . apply Float64.lt_float64_iff hthreshold

theorem eccChecks_eq_map (thresholds : GPUHealthThresholds) (stats : GPUStats)
    : eccChecks thresholds stats = EccField.all.map fun f =>
        ⟨f.name, f.threshold thresholds, normalizeUint64 (f.counter stats)⟩ := rfl

namespace GPUAgentGPUClient

variable (ga : GPUAgentGPUClient) (thresholds : GPUHealthThresholds) (wls : GoMap String Workload)

theorem any_eccChecks_exceeded (gpuid : String) (stats : GPUStats)
    : (eccChecks thresholds stats).any (EccCheck.exceeded ga gpuid)
        = EccField.all.any fun f => (f.threshold thresholds).toNat < f.count ga gpuid stats := by
  rw [eccChecks_eq_map, List.any_map, Bool.eq_iff_iff]
  simp only [List.any_eq_true, Function.comp_apply, exceeded_iff_threshold_lt_count,
    decide_eq_true_eq]

theorem foldlM_metricErrCheck (gpuid : String) (checks : List EccCheck) (m : GoMap String GPUState)
    (state : GPUState)
    : checks.foldlM (ga.metricErrCheck gpuid) (m.insert gpuid state)
        = some (m.insert gpuid { state with
            health := if checks.any (EccCheck.exceeded ga gpuid) then .UNHEALTHY else state.health }) := by
  induction checks generalizing state with
  | nil => simp
  | cons check checks ih =>
    by_cases h : EccCheck.exceeded ga gpuid check = true
    . have hstep : ga.metricErrCheck gpuid (m.insert gpuid state) check
          = some (m.insert gpuid { state with health := .UNHEALTHY }) := by
        simp only [EccCheck.exceeded, decide_eq_true_eq] at h
        simp only [metricErrCheck, if_pos h, setHealth_insert]
      rw [List.foldlM_cons, hstep, Option.bind_eq_bind, Option.bind_some, ih]
      simp [h]
    . have hstep : ga.metricErrCheck gpuid (m.insert gpuid state) check
          = some (m.insert gpuid state) := by
        simp only [EccCheck.exceeded, decide_eq_true_eq] at h
        simp only [metricErrCheck, if_neg h]
      rw [List.foldlM_cons, hstep, Option.bind_eq_bind, Option.bind_some, ih]
      simp [h]

variable [CaseMap]

theorem processEccErrorMetricsOf_eq (m : GoMap String GPUState) (gpu : GPU)
    : ga.processEccErrorMetricsOf thresholds wls m gpu
        = if gpu.stats.isSome then
            some (m.insert (getGPUInstanceIDString gpu) (ga.eccState thresholds wls gpu))
          else
            none := by
  unfold processEccErrorMetricsOf eccState eccHealth eccExceeded
  cases gpu.stats with
  | none => rfl
  | some stats =>
    simp only [Option.isSome_some, if_true]
    rw [foldlM_metricErrCheck, any_eccChecks_exceeded]

theorem processEccErrorMetrics_eq (gpus : List GPU)
    : ga.processEccErrorMetrics thresholds gpus wls
        = if gpus.all (·.stats.isSome) then
            some (GoMap.insertEach ∅ gpus getGPUInstanceIDString (ga.eccState thresholds wls))
          else
            none := by
  unfold processEccErrorMetrics
  generalize (∅ : GoMap String GPUState) = m
  induction gpus generalizing m with
  | nil => rfl
  | cons gpu gpus ih =>
    rw [List.foldlM_cons, processEccErrorMetricsOf_eq, List.all_cons]
    cases gpu.stats.isSome with
    | false => rfl
    | true =>
      simp only [if_true, Option.bind_eq_bind, Option.bind_some, Bool.true_and]
      apply ih _

end GPUAgentGPUClient

end GPUAgent
