import DeviceMetricsExporter.GPUAgent.Lemmas.EccMonotone
import DeviceMetricsExporter.HealthCLI.Impl.QueryMetric

/-!
This module contains when the `counter-metric` command and the health check of the exporter agree on an
ECC field. The command reads the counters as they are, the exporter takes some values for not
applicable and keeps one GPU for each index.
-/

namespace HealthCLI

open GPUAgent GPUMetricField

def metricField : EccField → GPUMetricField
  | .sdma => GPU_ECC_UNCORRECT_SDMA
  | .gfx => GPU_ECC_UNCORRECT_GFX
  | .mmhub => GPU_ECC_UNCORRECT_MMHUB
  | .athub => GPU_ECC_UNCORRECT_ATHUB
  | .bif => GPU_ECC_UNCORRECT_BIF
  | .hdp => GPU_ECC_UNCORRECT_HDP
  | .xgmiWafl => GPU_ECC_UNCORRECT_XGMI_WAFL
  | .df => GPU_ECC_UNCORRECT_DF
  | .smn => GPU_ECC_UNCORRECT_SMN
  | .sem => GPU_ECC_UNCORRECT_SEM
  | .mp0 => GPU_ECC_UNCORRECT_MP0
  | .mp1 => GPU_ECC_UNCORRECT_MP1
  | .fuse => GPU_ECC_UNCORRECT_FUSE
  | .umc => GPU_ECC_UNCORRECT_UMC
  | .mca => GPU_ECC_UNCORRECT_MCA
  | .vcn => GPU_ECC_UNCORRECT_VCN
  | .jpeg => GPU_ECC_UNCORRECT_JPEG
  | .ih => GPU_ECC_UNCORRECT_IH
  | .mpio => GPU_ECC_UNCORRECT_MPIO

theorem metricFieldOfName_name
    : ∀ f ∈ EccField.all, metricFieldOfName f.name = some (metricField f) := by
  decide +kernel

section Counters

variable (f : EccField) (t : UInt32)

def Exceeds (gpu : GPU) : Prop :=
  ∃ stats, gpu.stats = some stats ∧ t.toNat < (f.counter stats.toGPUStats).toNat

def ExceedsApplicable (gpu : GPU) : Prop :=
  ∃ stats, gpu.stats = some stats ∧ t.toNat < (f.counter stats.toGPUStats).toNat
    ∧ ¬NotApplicable (f.counter stats.toGPUStats)

def gpuIndex (gpu : GPU) : String :=
  getGPUInstanceIDString gpu.toAgent

def IsLast (gpus : List GPU) (gpu : GPU) : Prop :=
  GoMap.lastWith gpuIndex gpus (gpuIndex gpu) = some gpu

theorem toInt64_toFloat64 {x : UInt64} (h : x.toNat < 2 ^ 53) : toInt64 (toFloat64 x) = x.toNat := by
  have hnum : ((x.toNat : ℚ)).num.tdiv ((x.toNat : ℚ)).den = x.toNat := by
    rw [Rat.num_natCast, Rat.den_natCast]
    exact Int.tdiv_one _
  simp only [toInt64, toFloat64, Float64.float64_of_lt h, hnum]
  apply if_pos
  omega

theorem metricOfField_eccField (gpu : GPU) (stats : GPUStats)
    : (metricFieldOfName f.name).map (metricOfField gpu stats)
      = some [toFloat64 (f.counter stats.toGPUStats)] := by
  rw [metricFieldOfName_name f (EccField.mem_all f)]
  cases f <;> rfl

theorem nodesTotal_ne_name : GPUMetricField.GPU_NODES_TOTAL.name ≠ f.name := by
  cases f <;> decide

theorem code_checkCounters (env : Environment) (flags : Flags) (metricName : String) (metrics : List ℚ)
    : (env.checkCounters flags metricName metrics).code = 1
      ↔ ∃ metric ∈ metrics, toInt64 metric > flags.threshold := by
  unfold Environment.checkCounters
  cases metrics with
  | nil => simp
  | cons metric metrics =>
    by_cases h : (metric :: metrics).any (toInt64 · > flags.threshold) = true
    . simp only [List.isEmpty_cons, h, if_true]
      simpa using h
    . simp only [List.isEmpty_cons, h]
      simpa using h

section CLI

variable [CaseMap] {metricName : String}

theorem fetchMetricFromGPU_eq (hname : toUpper metricName = f.name) (gpu : GPU)
    : fetchMetricFromGPU gpu metricName
      = gpu.stats.elim [] fun stats => [toFloat64 (f.counter stats.toGPUStats)] := by
  unfold fetchMetricFromGPU
  cases gpu.stats with
  | none => rfl
  | some stats =>
    rcases Option.map_eq_some_iff.mp (metricOfField_eccField f gpu stats) with ⟨field, hfield, hmetric⟩
    simp only [hname, hfield, hmetric, Option.elim_some]

theorem mem_parseGPUMetricsResponse {unmarshal : String → Option GPUGetResponse}
    {response : String} {gpus : List GPU} (hname : toUpper metricName = f.name)
    (hdecoded : unmarshal response = some ⟨gpus⟩) (metric : ℚ)
    : metric ∈ parseGPUMetricsResponse unmarshal response metricName
      ↔ ∃ gpu ∈ gpus, ∃ stats, gpu.stats = some stats
        ∧ metric = toFloat64 (f.counter stats.toGPUStats) := by
  have hne : ¬GPUMetricField.GPU_NODES_TOTAL.name = toUpper metricName := by
    rw [hname]
    exact nodesTotal_ne_name f
  simp only [parseGPUMetricsResponse, hdecoded, if_neg hne, List.mem_flatMap]
  apply exists_congr
  intro gpu
  apply and_congr_right
  intro hgpu
  rw [fetchMetricFromGPU_eq f hname]
  cases gpu.stats with
  | none => simp
  | some stats => simp

theorem crossed_iff (env : Environment) (flags : Flags) {unmarshal : String → Option GPUGetResponse}
    {response : String} {gpus : List GPU} (hname : toUpper metricName = f.name)
    (hresponse : env.counterMetricResponse flags = .ok (metricName, response))
    (hdecoded : unmarshal response = some ⟨gpus⟩) (hthreshold : flags.threshold = t.toNat)
    (hcounter : ∀ gpu ∈ gpus, ∀ stats, gpu.stats = some stats →
      (f.counter stats.toGPUStats).toNat < 2 ^ 53)
    : (env.counterMetricCmdHandler flags unmarshal).code = 1 ↔ ∃ gpu ∈ gpus, Exceeds f t gpu := by
  have hcode : (env.counterMetricCmdHandler flags unmarshal).code = 1
      ↔ ∃ metric ∈ parseGPUMetricsResponse unmarshal response metricName,
        toInt64 metric > flags.threshold := by
    rw [← code_checkCounters env flags metricName]
    simp only [Environment.counterMetricCmdHandler, hresponse]
  rw [hcode]
  constructor
  . rintro ⟨metric, hmetric, hlt⟩
    rw [mem_parseGPUMetricsResponse f hname hdecoded] at hmetric
    rcases hmetric with ⟨gpu, hgpu, stats, hstats, rfl⟩
    rw [toInt64_toFloat64 (hcounter gpu hgpu stats hstats), hthreshold] at hlt
    exact ⟨gpu, hgpu, stats, hstats, by omega⟩
  . rintro ⟨gpu, hgpu, stats, hstats, hlt⟩
    refine ⟨toFloat64 (f.counter stats.toGPUStats), ?_, ?_⟩
    . rw [mem_parseGPUMetricsResponse f hname hdecoded]
      exact ⟨gpu, hgpu, stats, hstats, rfl⟩
    . rw [toInt64_toFloat64 (hcounter gpu hgpu stats hstats), hthreshold]
      omega

end CLI

section Exporter

variable (ga : GPUAgentGPUClient) (thresholds : GPUHealthThresholds)

def OnlyExceeds (gpu : GPU) : Prop :=
  ∀ stats, gpu.stats = some stats → ∀ g : EccField, g ≠ f →
    g.count ga (gpuIndex gpu) stats.toGPUStats ≤ (g.threshold thresholds).toNat

theorem eccExceeded_iff (hmock : ∀ gpuid field, ga.getMockError gpuid field = 0)
    (hthreshold : f.threshold thresholds = t) {gpu : GPU} (honly : OnlyExceeds f ga thresholds gpu)
    : ga.eccExceeded thresholds gpu.toAgent = true ↔ ExceedsApplicable f t gpu := by
  have hnomock : ¬0 < ga.getMockError (getGPUInstanceIDString gpu.toAgent) f.name := by
    rw [hmock]
    decide
  rw [GPUAgentGPUClient.eccExceeded_eq_true]
  constructor
  . rintro ⟨u, hu, g, hg⟩
    rcases Option.map_eq_some_iff.mp hu with ⟨stats, hstats, rfl⟩
    have heq : g = f := by
      by_contra hne
      have := honly stats hstats g hne
      exact absurd hg (Nat.not_lt.mpr this)
    subst heq
    rw [hthreshold] at hg
    have happlicable : ¬NotApplicable (g.counter stats.toGPUStats) := by
      intro hna
      rw [EccField.count_of_notApplicable _ _ _ _ hnomock hna] at hg
      exact Nat.not_lt_zero _ hg
    rw [EccField.count_of_applicable _ _ _ _ hnomock happlicable] at hg
    exact ⟨stats, hstats, hg, happlicable⟩
  . rintro ⟨stats, hstats, hlt, happlicable⟩
    refine ⟨stats.toGPUStats, ?_, f, ?_⟩
    . simp [GPU.toAgent, hstats]
    . rw [EccField.count_of_applicable _ _ _ _ hnomock happlicable, hthreshold]
      exact hlt

variable [CaseMap] (wls : GoMap String Exporter.Workload)

/--
The exporter marks the last GPU with an index for its counter, unless it stands for not applicable.
-/
theorem exists_markedUnhealthy_iff (hmock : ∀ gpuid field, ga.getMockError gpuid field = 0)
    (hthreshold : f.threshold thresholds = t) {gpus : List GPU}
    (honly : ∀ gpu ∈ gpus, OnlyExceeds f ga thresholds gpu)
    : (∃ gpuid, GPUAgentGPUClient.MarkedUnhealthy
          (ga.processEccErrorMetrics thresholds (gpus.map GPU.toAgent) wls) gpuid)
      ↔ (∀ gpu ∈ gpus, gpu.stats.isSome) ∧ ∃ gpu, IsLast gpus gpu ∧ ExceedsApplicable f t gpu := by
  have hmem {gpu : GPU} (hlast : IsLast gpus gpu) : gpu ∈ gpus :=
    (GoMap.mem_of_lastWith gpuIndex hlast).1
  have hall : ((gpus.map GPU.toAgent).all (·.stats.isSome) = true)
      ↔ ∀ gpu ∈ gpus, gpu.stats.isSome := by
    simp [GPU.toAgent]
  simp only [GPUAgentGPUClient.markedUnhealthy_iff, hall, exists_and_left]
  apply and_congr_right
  intro _
  constructor
  . rintro ⟨gpuid, gpu', hlast, hexceeded⟩
    rw [GoMap.lastWith_map, Option.map_eq_some_iff] at hlast
    rcases hlast with ⟨gpu, hlast, rfl⟩
    have hgpu := GoMap.mem_of_lastWith _ hlast
    refine ⟨gpu, ?_, (eccExceeded_iff f t ga thresholds hmock hthreshold (honly gpu hgpu.1)).mp
      hexceeded⟩
    rw [← hgpu.2] at hlast
    exact hlast
  . rintro ⟨gpu, hlast, hexceeds⟩
    refine ⟨gpuIndex gpu, gpu.toAgent, ?_, ?_⟩
    . rw [GoMap.lastWith_map, Option.map_eq_some_iff]
      exact ⟨gpu, hlast, rfl⟩
    . exact (eccExceeded_iff f t ga thresholds hmock hthreshold (honly gpu (hmem hlast))).mpr hexceeds

end Exporter

section Instances

theorem crossed_iff_markedUnhealthy_iff [CaseMap] (env : Environment) (flags : Flags)
    (unmarshal : String → Option GPUGetResponse) (metricName response : String) (gpus : List GPU)
    (ga : GPUAgentGPUClient) (thresholds : GPUHealthThresholds)
    (wls : GoMap String Exporter.Workload)
    (hresponse : env.counterMetricResponse flags = .ok (metricName, response))
    (hname : toUpper metricName = f.name) (hflag : flags.threshold = t.toNat)
    (hdecoded : unmarshal response = some ⟨gpus⟩)
    (hcounter : ∀ gpu ∈ gpus, ∀ stats, gpu.stats = some stats →
      (f.counter stats.toGPUStats).toNat < 2 ^ 53)
    (hmock : ∀ gpuid field, ga.getMockError gpuid field = 0)
    (hthreshold : f.threshold thresholds = t)
    (honly : ∀ gpu ∈ gpus, OnlyExceeds f ga thresholds gpu)
    : ((env.counterMetricCmdHandler flags unmarshal).code = 1
        ↔ ∃ gpuid, GPUAgentGPUClient.MarkedUnhealthy
          (ga.processEccErrorMetrics thresholds (gpus.map GPU.toAgent) wls) gpuid)
      ↔ ((∃ gpu ∈ gpus, Exceeds f t gpu) →
        (∀ gpu ∈ gpus, gpu.stats.isSome) ∧ ∃ gpu, IsLast gpus gpu ∧ ExceedsApplicable f t gpu) := by
  rw [crossed_iff f t env flags hname hresponse hdecoded hflag hcounter,
    exists_markedUnhealthy_iff f t ga thresholds wls hmock hthreshold honly]
  constructor
  . exact Iff.mp
  . intro h
    refine ⟨h, ?_⟩
    -- A GPU that the exporter marks is one whose raw counter the command sees.
    rintro ⟨-, gpu, hlast, stats, hstats, hlt, -⟩
    exact ⟨gpu, (GoMap.mem_of_lastWith gpuIndex hlast).1, stats, hstats, hlt⟩

def sdmaGPU (count : UInt64) : GPU where
  spec := ⟨[], .NONE, .NONE⟩
  status := { index := 0 }
  stats := some { sdmaUncorrectableErrors := count }

def sdmaBody (count : String) : String :=
  "\x7b\"Response\":[\x7b\"Status\":\x7b\x7d,\"Stats\":\x7b\"SDMAUncorrectableErrors\":" ++ count
    ++ "\x7d\x7d]\x7d"

def unmarshalSDMA (count : UInt64) (body : String) : Option GPUGetResponse :=
  if body = sdmaBody count.toNat.repr then some ⟨[sdmaGPU count]⟩ else none

theorem onlyExceeds_sdmaGPU (count : UInt64) (thresholds : GPUHealthThresholds)
    : ∀ gpu ∈ [sdmaGPU count], OnlyExceeds .sdma (newGPUAgentGPUClient ∅) thresholds gpu := by
  intro gpu hgpu stats hstats g hne
  rw [List.mem_singleton] at hgpu
  subst hgpu
  cases hstats
  have hcount : g.count (newGPUAgentGPUClient ∅) (gpuIndex (sdmaGPU count))
      { sdmaUncorrectableErrors := count } = 0 := by
    cases g with
    | sdma => exact absurd rfl hne
    | _ => rfl
  simp only [hcount, Nat.zero_le]

theorem counter_sdmaGPU_lt {count : UInt64} (h : count.toNat < 2 ^ 53)
    : ∀ gpu ∈ [sdmaGPU count], ∀ stats, gpu.stats = some stats → ∀ g : EccField,
        (g.counter stats.toGPUStats).toNat < 2 ^ 53 := by
  intro gpu hgpu stats hstats g
  rw [List.mem_singleton] at hgpu
  subst hgpu
  cases hstats
  cases g with
  | sdma => exact h
  | _ => exact Nat.two_pow_pos 53

theorem crossed_iff_markedUnhealthy_sdma
    : (@Environment.counterMetricCmdHandler (Environment.answering (sdmaBody "300"))
          { metric := some "gpu_ecc_uncorrect_sdma", threshold := 10 } CaseMap.ascii
          (unmarshalSDMA 300)).code = 1
      ↔ ∃ gpuid, GPUAgentGPUClient.MarkedUnhealthy
          (@GPUAgentGPUClient.processEccErrorMetrics CaseMap.ascii (newGPUAgentGPUClient ∅)
            { GPU_ECC_UNCORRECT_SDMA := 10 } [(sdmaGPU 300).toAgent] ∅) gpuid := by
  let _ := CaseMap.ascii
  apply (crossed_iff_markedUnhealthy_iff .sdma 10 (Environment.answering (sdmaBody "300"))
    { metric := some "gpu_ecc_uncorrect_sdma", threshold := 10 } (unmarshalSDMA 300)
    "gpu_ecc_uncorrect_sdma" (sdmaBody "300") [sdmaGPU 300] (newGPUAgentGPUClient ∅)
    { GPU_ECC_UNCORRECT_SDMA := 10 } ∅ rfl (by decide) (by decide) (if_pos (by decide)) ?_
    (fun _ _ => rfl) rfl (onlyExceeds_sdmaGPU 300 _)).mpr
  . intro _
    refine ⟨by simp [sdmaGPU], sdmaGPU 300, by simp [IsLast, GoMap.lastWith], ?_⟩
    exact ⟨_, rfl, by decide, by decide⟩
  . intro gpu hgpu stats hstats
    exact counter_sdmaGPU_lt (by decide) gpu hgpu stats hstats .sdma

theorem not_crossed_iff_markedUnhealthy
    : ¬∀ (_ : CaseMap) (f : EccField) (t : UInt32) (env : Environment) (flags : Flags)
        (unmarshal : String → Option GPUGetResponse) (metricName response : String)
        (gpus : List GPU) (ga : GPUAgentGPUClient) (thresholds : GPUHealthThresholds)
        (wls : GoMap String Exporter.Workload),
        env.counterMetricResponse flags = .ok (metricName, response) →
        toUpper metricName = f.name → flags.threshold = t.toNat →
        unmarshal response = some ⟨gpus⟩ →
        (∀ gpu ∈ gpus, ∀ stats, gpu.stats = some stats → ∀ g : EccField,
          (g.counter stats.toGPUStats).toNat < 2 ^ 53) →
        (∀ gpuid field, ga.getMockError gpuid field = 0) →
        f.threshold thresholds = t → (∀ gpu ∈ gpus, OnlyExceeds f ga thresholds gpu) →
        ((env.counterMetricCmdHandler flags unmarshal).code = 1
          ↔ ∃ gpuid, GPUAgentGPUClient.MarkedUnhealthy
            (ga.processEccErrorMetrics thresholds (gpus.map GPU.toAgent) wls) gpuid) := by
  -- 255 errors of one GPU cross the threshold 0 of the command and are none for the exporter.
  intro h
  let _ := CaseMap.ascii
  have hmock (gpuid field : String)
      : (newGPUAgentGPUClient ∅).getMockError gpuid field = 0 := rfl
  have hiff := h CaseMap.ascii .sdma 0 (Environment.answering (sdmaBody "255"))
    { metric := some "GPU_ECC_UNCORRECT_SDMA" } (unmarshalSDMA 255) "GPU_ECC_UNCORRECT_SDMA" _
    [sdmaGPU 255] (newGPUAgentGPUClient ∅) {} ∅ rfl (by decide) rfl (if_pos (by decide))
    (counter_sdmaGPU_lt (by decide)) hmock rfl (onlyExceeds_sdmaGPU 255 {})
  rw [exists_markedUnhealthy_iff .sdma 0 _ {} ∅ hmock rfl (onlyExceeds_sdmaGPU 255 {})] at hiff
  rcases hiff.mp (by decide +kernel) with ⟨-, gpu, hlast, stats, hstats, -, happlicable⟩
  have hgpu := (GoMap.mem_of_lastWith gpuIndex hlast).1
  rw [List.mem_singleton] at hgpu
  subst hgpu
  cases hstats
  revert happlicable
  decide

end Instances

end Counters

end HealthCLI
