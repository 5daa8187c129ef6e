import DeviceMetricsExporter.GPUAgent.Lemmas.Health

/-!
This module contains when the other two writers of the health map, a config reload and a compute node
that goes down and comes back, leave the verdicts of a validation alone.
-/

namespace GPUAgent

open Exporter GoMap

namespace GPUAgentGPUClient

def healthOf (ga : GPUAgentGPUClient) (gpuid : String) : Option GPUHealth :=
  (ga.healthState.lookup gpuid).map (·.health)

theorem healthOf_setUnhealthyGPU (ga : GPUAgentGPUClient) (wls : GoMap String Workload)
    (gpuid : String)
    : (ga.setUnhealthyGPU wls).healthOf gpuid
        = (ga.healthState.lookup gpuid).map fun _ => .UNHEALTHY := by
  simp [healthOf, setUnhealthyGPU, lookup_map, Function.comp_def]

theorem healthOf_insertEach_eccState [CaseMap] (ga : GPUAgentGPUClient)
    (thresholds : GPUHealthThresholds) (wls : GoMap String Workload) (gpus : List GPU)
    (gpuid : String)
    : ((GoMap.insertEach ∅ gpus getGPUInstanceIDString (ga.eccState thresholds wls)).lookup gpuid).map
          (·.health)
        = (lastWith getGPUInstanceIDString gpus gpuid).map (ga.eccHealth thresholds) := by
  simp [lookup_insertEach_empty, eccState, Function.comp_def]

theorem eccHealth_with_healthState (ga : GPUAgentGPUClient) (m : GoMap String GPUState)
    (thresholds : GPUHealthThresholds)
    : { ga with healthState := m }.eccHealth thresholds = ga.eccHealth thresholds := rfl

def recoverComputeNode (ga : GPUAgentGPUClient) (wls wls' : GoMap String Workload)
    : GPUAgentGPUClient :=
  (ga.setComputeNodeHealthState wls false).setComputeNodeHealthState wls' true

theorem healthOf_recoverComputeNode (ga : GPUAgentGPUClient) (wls wls' : GoMap String Workload)
    (hnode : ga.computeNodeHealthState = true) (gpuid : String)
    : (ga.recoverComputeNode wls wls').healthOf gpuid
        = if ga.healthState.entries.isEmpty then
            (ga.gpuIDMap.lookup gpuid).map fun _ => .HEALTHY
          else
            (ga.healthOf gpuid).map fun _ => .HEALTHY := by
  unfold healthOf recoverComputeNode setComputeNodeHealthState updateAllGPUsHealthState
  simp only [hnode, Bool.true_eq_false, if_false, Bool.not_false, if_true]
  by_cases h : ga.healthState.entries.isEmpty
  . by_cases hmeta : ga.gpuIDMap.entries.isEmpty
    . simp [h, hmeta, lookup_map, Function.comp_def]
    . simp [h, hmeta, lookup_map, Function.comp_def]
  . simp [h, lookup_map, Function.comp_def]

/--
A reload on this data changes no verdict: whatever the events and the CPER records set to unhealthy is
unhealthy by its counters too, and no known GPU is forgotten.
-/
structure ReloadHarmless (ga : GPUAgentGPUClient) (time : Time) (cfg : HealthConfig)
    (data : HealthData) : Prop where
  marked : ∀ resp, Usable data resp → ∀ gpuid gpu,
    lastWith getGPUInstanceIDString resp.response gpuid = some gpu →
      Marked time cfg data resp.response gpuid →
        ga.eccExceeded cfg.getHealthThreshholds gpu = true
  zeroGPUs : ∀ resp, data.gpus = some resp → resp.apiStatus = 0 → resp.response = [] →
    ga.healthState.entries = []

/--
A compute node that goes down and comes back changes no verdict: there is nothing against any GPU, and
without a usable response no GPU is known at all.
-/
structure RecoveryHarmless (ga : GPUAgentGPUClient) (time : Time) (cfg : HealthConfig)
    (data : HealthData) : Prop where
  healthy : ∀ resp, Usable data resp → ∀ gpuid gpu,
    lastWith getGPUInstanceIDString resp.response gpuid = some gpu →
      ga.eccExceeded cfg.getHealthThreshholds gpu = false ∧ ¬Marked time cfg data resp.response gpuid
  unknown : (¬∃ resp, Usable data resp) →
    ga.healthState.entries = [] ∧ ga.gpuIDMap.entries = []

section Writers

variable [CaseMap] {ga : GPUAgentGPUClient} {time : Time} {cfg : HealthConfig} {data : HealthData}

theorem healthOf_published {resp : GPUGetResponse} {m : GoMap String GPUState}
    (hm : ModifiedOn GPUState.setUnhealthy (Marked time cfg data resp.response)
      (GoMap.insertEach ∅ resp.response getGPUInstanceIDString
        (ga.eccState cfg.getHealthThreshholds data.wls)) m) (gpuid : String)
    : (Marked time cfg data resp.response gpuid →
          { ga with healthState := m }.healthOf gpuid
            = (lastWith getGPUInstanceIDString resp.response gpuid).map fun _ => .UNHEALTHY)
        ∧ (¬Marked time cfg data resp.response gpuid →
          { ga with healthState := m }.healthOf gpuid
            = (lastWith getGPUInstanceIDString resp.response gpuid).map
                (ga.eccHealth cfg.getHealthThreshholds)) := by
  constructor
  . intro h
    simp only [healthOf, hm.changed gpuid h, lookup_insertEach_empty, Option.map_map]
    rfl
  . intro h
    rw [healthOf, hm.unchanged gpuid h, healthOf_insertEach_eccState]

theorem updateStaticMetrics_of_stats (ga : GPUAgentGPUClient) (cfg : HealthConfig)
    {resp : GPUGetResponse} (hgpus : data.gpus = some resp) (hstatus : resp.apiStatus = 0)
    (hstats : resp.response.all (·.stats.isSome))
    : ∃ ga₂, ga.updateStaticMetrics cfg data = some ga₂ ∧ ∀ gpuid, ga₂.healthOf gpuid
        = (lastWith getGPUInstanceIDString resp.response gpuid).map
            (ga.eccHealth cfg.getHealthThreshholds) := by
  simp only [updateStaticMetrics, hgpus, hstatus, ne_eq, not_true_eq_false, if_false,
    processEccErrorMetrics_eq, hstats, if_true, Option.bind_eq_bind, Option.bind_some,
    Option.pure_def, Option.some.injEq, exists_eq_left']
  intro gpuid
  rw [updateNewHealthState, healthOf, healthOf_insertEach_eccState]
  rfl

section Published

variable {resp : GPUGetResponse} {m : GoMap String GPUState} (hresp : Usable data resp)
  (hm : ModifiedOn GPUState.setUnhealthy (Marked time cfg data resp.response)
    (GoMap.insertEach ∅ resp.response getGPUInstanceIDString
      (ga.eccState cfg.getHealthThreshholds data.wls)) m)

include hresp hm

theorem reload_published_iff (hstats : resp.response.all (·.stats.isSome))
    : (∃ ga₂, { ga with healthState := m }.updateStaticMetrics cfg data = some ga₂
          ∧ ∀ gpuid, ga₂.healthOf gpuid = { ga with healthState := m }.healthOf gpuid)
        ↔ ga.ReloadHarmless time cfg data := by
  rcases updateStaticMetrics_of_stats { ga with healthState := m } cfg hresp.gpus hresp.apiStatus
    hstats with ⟨ga₂, hga₂, hhealth₂⟩
  simp only [eccHealth_with_healthState] at hhealth₂
  have hhealth₁ := healthOf_published hm
  constructor
  . rintro ⟨ga₃, hga₃, hagree⟩
    rw [hga₂, Option.some.injEq] at hga₃
    subst hga₃
    constructor
    . intro resp' hresp' gpuid gpu hlast hmarked
      cases hresp.unique hresp'
      have hverdict := hagree gpuid
      rw [hhealth₂, (hhealth₁ gpuid).1 hmarked, hlast] at hverdict
      simpa [eccHealth_eq_unhealthy] using hverdict
    . intro resp' hgpus' hstatus' hnil
      rw [hresp.gpus, Option.some.injEq] at hgpus'
      subst hgpus'
      exact absurd hnil hresp.nonempty
  . intro hharmless
    refine ⟨ga₂, hga₂, ?_⟩
    intro gpuid
    rw [hhealth₂]
    by_cases hmarked : Marked time cfg data resp.response gpuid
    . rw [(hhealth₁ gpuid).1 hmarked]
      cases hlast : lastWith getGPUInstanceIDString resp.response gpuid with
      | none => rfl
      | some gpu =>
        have hecc := hharmless.marked resp hresp gpuid gpu hlast hmarked
        simp [(eccHealth_eq_unhealthy ga cfg.getHealthThreshholds gpu).mpr hecc]
    . rw [(hhealth₁ gpuid).2 hmarked]

theorem recovery_published_iff (hnode : ga.computeNodeHealthState = true)
    (wls wls' : GoMap String Workload)
    : (∀ gpuid, ({ ga with healthState := m }.recoverComputeNode wls wls').healthOf gpuid
          = { ga with healthState := m }.healthOf gpuid)
        ↔ ga.RecoveryHarmless time cfg data := by
  have hhealth₁ := healthOf_published hm
  have hrecover := healthOf_recoverComputeNode { ga with healthState := m } wls wls' hnode
  have hknown : m.entries.isEmpty = false := by
    rcases List.exists_mem_of_ne_nil _ hresp.nonempty with ⟨gpu, hgpu⟩
    have hmem : getGPUInstanceIDString gpu ∈ m := by
      rw [hm.mem_iff, mem_insertEach_empty]
      exact ⟨gpu, hgpu, rfl⟩
    rw [← Bool.not_eq_true, List.isEmpty_iff, entries_eq_nil_iff]
    intro hnone
    simp [← AList.lookup_isSome, hnone] at hmem
  simp only [hknown, Bool.false_eq_true, if_false] at hrecover
  simp only [hrecover]
  constructor
  . intro hagree
    constructor
    . intro resp' hresp' gpuid gpu hlast
      cases hresp.unique hresp'
      have hverdict := hagree gpuid
      by_cases hmarked : Marked time cfg data resp.response gpuid
      . simp [(hhealth₁ gpuid).1 hmarked, hlast] at hverdict
      . refine ⟨?_, hmarked⟩
        rw [(hhealth₁ gpuid).2 hmarked, hlast] at hverdict
        simpa [eccHealth_eq_healthy] using hverdict.symm
    . intro husable
      exact absurd ⟨resp, hresp⟩ husable
  . intro hharmless gpuid
    cases hlast : lastWith getGPUInstanceIDString resp.response gpuid with
    | none =>
      by_cases hmarked : Marked time cfg data resp.response gpuid
      . simp [(hhealth₁ gpuid).1 hmarked, hlast]
      . simp [(hhealth₁ gpuid).2 hmarked, hlast]
    | some gpu =>
      have hgood := hharmless.healthy resp hresp gpuid gpu hlast
      simp [(hhealth₁ gpuid).2 hgood.2, hlast,
        (eccHealth_eq_healthy ga cfg.getHealthThreshholds gpu).mpr hgood.1]

end Published

section Unusable

variable (husable : ¬∃ resp, Usable data resp)

include husable

theorem reload_unusable_iff
    : (∃ ga₂, (ga.setUnhealthyGPU data.wls).updateStaticMetrics cfg data = some ga₂
          ∧ ∀ gpuid, ga₂.healthOf gpuid = (ga.setUnhealthyGPU data.wls).healthOf gpuid)
        ↔ ga.ReloadHarmless time cfg data := by
  constructor
  . rintro ⟨ga₂, hga₂, hagree⟩
    constructor
    . intro resp hresp
      exact absurd ⟨resp, hresp⟩ husable
    . intro resp hgpus hstatus hnil
      rcases updateStaticMetrics_of_stats (ga.setUnhealthyGPU data.wls) cfg hgpus hstatus
        (by simp [hnil]) with ⟨ga₃, hga₃, hhealth₃⟩
      rw [hga₃, Option.some.injEq] at hga₂
      subst hga₂
      rw [entries_eq_nil_iff]
      intro gpuid
      have hverdict := hagree gpuid
      rw [hhealth₃, hnil, healthOf_setUnhealthyGPU] at hverdict
      simpa [lastWith] using hverdict.symm
  . intro hharmless
    cases hgpus : data.gpus with
    | none => exact ⟨_, by simp [updateStaticMetrics, hgpus], fun _ => rfl⟩
    | some resp =>
      by_cases hstatus : resp.apiStatus = 0
      . have hnil := response_eq_nil husable hgpus hstatus
        rcases updateStaticMetrics_of_stats (ga.setUnhealthyGPU data.wls) cfg hgpus hstatus
          (by simp [hnil]) with ⟨ga₂, hga₂, hhealth₂⟩
        refine ⟨ga₂, hga₂, ?_⟩
        intro gpuid
        have hnone := (entries_eq_nil_iff _).mp
          (hharmless.zeroGPUs resp hgpus hstatus hnil) gpuid
        rw [hhealth₂, healthOf_setUnhealthyGPU, hnone, hnil]
        rfl
      . exact ⟨_, by simp [updateStaticMetrics, hgpus, hstatus], fun _ => rfl⟩

omit [CaseMap] in
theorem recovery_unusable_iff (hnode : ga.computeNodeHealthState = true)
    (wls wls' : GoMap String Workload)
    : (∀ gpuid, ((ga.setUnhealthyGPU data.wls).recoverComputeNode wls wls').healthOf gpuid
          = (ga.setUnhealthyGPU data.wls).healthOf gpuid)
        ↔ ga.RecoveryHarmless time cfg data := by
  have hrecover := healthOf_recoverComputeNode (ga.setUnhealthyGPU data.wls) wls wls' hnode
  simp only [hrecover, healthOf_setUnhealthyGPU, Option.map_map]
  constructor
  . intro hagree
    refine ⟨fun resp hresp => absurd ⟨resp, hresp⟩ husable, fun _ => ?_⟩
    by_cases hknown : ga.healthState.entries = []
    . refine ⟨hknown, ?_⟩
      rw [entries_eq_nil_iff]
      intro gpuid
      have hverdict := hagree gpuid
      have hnone := (entries_eq_nil_iff _).mp hknown gpuid
      simpa [setUnhealthyGPU, hknown, hnone] using hverdict
    . exfalso
      have hnonempty : ga.healthState.entries.isEmpty = false := by
        simpa using hknown
      rw [entries_eq_nil_iff, not_forall] at hknown
      rcases hknown with ⟨gpuid, hsome⟩
      rcases Option.ne_none_iff_exists'.mp hsome with ⟨state, hstate⟩
      have hverdict := hagree gpuid
      simp [setUnhealthyGPU, hnonempty, hstate] at hverdict
  . intro hharmless gpuid
    have hunknown := hharmless.unknown husable
    have hnone := (entries_eq_nil_iff _).mp hunknown.1 gpuid
    have hnone' := (entries_eq_nil_iff _).mp hunknown.2 gpuid
    simp [setUnhealthyGPU, hunknown.1, hnone, hnone']

end Unusable

variable {ga₁ : GPUAgentGPUClient} {err : Option HealthError}

theorem reload_agrees_iff (hnode : ga.computeNodeHealthState = true)
    (hrun : ga.processHealthValidation time cfg data = some (ga₁, err))
    : (∃ ga₂, ga₁.updateStaticMetrics cfg data = some ga₂
          ∧ ∀ gpuid, ga₂.healthOf gpuid = ga₁.healthOf gpuid)
        ↔ ga.ReloadHarmless time cfg data := by
  rcases processHealthValidation_cases hnode hrun with
    ⟨resp, m, hresp, hstats, rfl, -, hm⟩ | ⟨husable, rfl, -⟩
  . exact reload_published_iff hresp hm hstats
  . exact reload_unusable_iff husable

theorem recovery_agrees_iff (hnode : ga.computeNodeHealthState = true)
    (hrun : ga.processHealthValidation time cfg data = some (ga₁, err))
    (wls wls' : GoMap String Workload)
    : (∀ gpuid, (ga₁.recoverComputeNode wls wls').healthOf gpuid = ga₁.healthOf gpuid)
        ↔ ga.RecoveryHarmless time cfg data := by
  rcases processHealthValidation_cases hnode hrun with
    ⟨resp, m, hresp, hstats, rfl, -, hm⟩ | ⟨husable, rfl, -⟩
  . exact recovery_published_iff hresp hm hnode wls wls'
  . exact recovery_unusable_iff husable hnode wls wls'

/--
Exactly when the verdicts of a validation survive a reload, and exactly when they survive a compute node
that goes down and comes back.
-/
theorem writers_agree_iff (hnode : ga.computeNodeHealthState = true)
    (hrun : ga.processHealthValidation time cfg data = some (ga₁, err))
    (wls wls' : GoMap String Workload)
    : ((∃ ga₂, ga₁.updateStaticMetrics cfg data = some ga₂
            ∧ ∀ gpuid, ga₂.healthOf gpuid = ga₁.healthOf gpuid)
          ↔ ga.ReloadHarmless time cfg data)
        ∧ ((∀ gpuid, (ga₁.recoverComputeNode wls wls').healthOf gpuid = ga₁.healthOf gpuid)
          ↔ ga.RecoveryHarmless time cfg data) :=
  ⟨reload_agrees_iff hnode hrun, recovery_agrees_iff hnode hrun wls wls'⟩

end Writers

section Instances

theorem usable_oneGPU (event : List Event)
    : Usable (oneGPU event) ⟨0, [idleGPU 0 (List.replicate 16 7)]⟩ :=
  ⟨rfl, rfl, by simp⟩

theorem not_marked_oneGPU (gpus : List GPU) (gpuid : String)
    : ¬Marked stoppedTime defaultHealthConfig (oneGPU [⟨List.replicate 16 7, .WARN⟩]) gpus gpuid := by
  simp [Marked, oneGPU, acceptedEvents, cperActionable]

def failingGPU : GPU :=
  { idleGPU 0 (List.replicate 16 7) with stats := some { umcUncorrectableErrors := 1 } }

def failingData : HealthData :=
  { oneGPU [⟨List.replicate 16 7, .CRITICAL⟩] with gpus := some ⟨0, [failingGPU]⟩ }

theorem usable_failingData : Usable failingData ⟨0, [failingGPU]⟩ :=
  ⟨rfl, rfl, by simp⟩

/--
Nothing is against the idle GPU, and the counters of the failing one are as bad as the event for it.
-/
theorem writers_agree_iff_failingGPU
    : (∃ ga₁ err, @processHealthValidation CaseMap.ascii (newGPUAgentGPUClient ∅) stoppedTime
          defaultHealthConfig failingData = some (ga₁, err)
        ∧ ga₁.healthOf "0" = some .UNHEALTHY
        ∧ ∃ ga₂, @updateStaticMetrics CaseMap.ascii ga₁ defaultHealthConfig failingData = some ga₂
          ∧ ∀ gpuid, ga₂.healthOf gpuid = ga₁.healthOf gpuid)
      ∧ ∃ ga₁ err, @processHealthValidation CaseMap.ascii (newGPUAgentGPUClient ∅) stoppedTime
          defaultHealthConfig (oneGPU [⟨List.replicate 16 7, .WARN⟩]) = some (ga₁, err)
        ∧ ∀ gpuid, (ga₁.recoverComputeNode ∅ ∅).healthOf gpuid = ga₁.healthOf gpuid := by
  let _ := CaseMap.ascii
  constructor
  . have hhealth : ((newGPUAgentGPUClient ∅).processHealthValidation stoppedTime defaultHealthConfig
        failingData).map (fun r => r.1.healthOf "0") = some (some .UNHEALTHY) := by
      decide
    rcases Option.map_eq_some_iff.mp hhealth with ⟨⟨ga₁, err⟩, hrun, hunhealthy⟩
    refine ⟨ga₁, err, hrun, hunhealthy, (writers_agree_iff rfl hrun ∅ ∅).1.mpr ⟨?_, ?_⟩⟩
    . intro resp hresp gpuid gpu hlast _
      cases hresp.unique usable_failingData
      rw [List.mem_singleton.mp (mem_of_lastWith _ hlast).1]
      decide
    . intro resp hgpus _ hnil
      cases hgpus
      cases hnil
  . have hsome : ((newGPUAgentGPUClient ∅).processHealthValidation stoppedTime defaultHealthConfig
        (oneGPU [⟨List.replicate 16 7, .WARN⟩])).isSome := by
      decide
    rcases Option.isSome_iff_exists.mp hsome with ⟨⟨ga₁, err⟩, hrun⟩
    refine ⟨ga₁, err, hrun, (writers_agree_iff rfl hrun ∅ ∅).2.mpr ⟨?_, ?_⟩⟩
    . intro resp hresp gpuid gpu hlast
      refine ⟨?_, not_marked_oneGPU resp.response gpuid⟩
      cases hresp.unique (usable_oneGPU _)
      rw [List.mem_singleton.mp (mem_of_lastWith _ hlast).1]
      decide
    . intro husable
      exact absurd ⟨_, usable_oneGPU _⟩ husable

theorem not_writers_agree
    : ¬∀ (_ : CaseMap) (ga ga₁ : GPUAgentGPUClient) (time : Time) (cfg : HealthConfig)
        (data : HealthData) (err : Option HealthError) (wls wls' : GoMap String Workload),
        ga.computeNodeHealthState = true →
        ga.processHealthValidation time cfg data = some (ga₁, err) →
        (∃ ga₂, ga₁.updateStaticMetrics cfg data = some ga₂
            ∧ ∀ gpuid, ga₂.healthOf gpuid = ga₁.healthOf gpuid)
          ∧ ∀ gpuid, (ga₁.recoverComputeNode wls wls').healthOf gpuid = ga₁.healthOf gpuid := by
  -- A GPU that a critical event has set to unhealthy is healthy again after a reload on the same
  -- data, and after the compute node has come back.
  intro h
  let _ := CaseMap.ascii
  have hhealth : (((newGPUAgentGPUClient ∅).processHealthValidation stoppedTime defaultHealthConfig
      (oneGPU [⟨List.replicate 16 7, .CRITICAL⟩])).bind fun r =>
        (r.1.updateStaticMetrics defaultHealthConfig
          (oneGPU [⟨List.replicate 16 7, .CRITICAL⟩])).map fun ga₂ =>
            (r.1.healthOf "0", ga₂.healthOf "0"))
      = some (some .UNHEALTHY, some .HEALTHY) := by
    decide
  rcases Option.bind_eq_some_iff.mp hhealth with ⟨⟨ga₁, err⟩, hrun, hreload⟩
  rcases Option.map_eq_some_iff.mp hreload with ⟨ga₂, hga₂, hpair⟩
  rcases (h CaseMap.ascii _ ga₁ _ _ _ err ∅ ∅ rfl hrun).1 with ⟨ga₃, hga₃, hagree⟩
  rw [hga₂, Option.some.injEq] at hga₃
  subst hga₃
  rw [hagree, Prod.mk.injEq] at hpair
  have := hpair.1.symm.trans hpair.2
  simp at this

end Instances

end GPUAgentGPUClient

end GPUAgent
