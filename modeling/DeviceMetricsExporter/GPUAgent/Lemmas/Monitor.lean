import DeviceMetricsExporter.Exporter.Lemmas.K8sClient
import DeviceMetricsExporter.GPUAgent.Impl.Monitor
import DeviceMetricsExporter.GPUAgent.Lemmas.Health

/-!
This module contains how the labels of the node follow the health map over the ticks of the monitor.
-/

namespace GPUAgent

open Exporter GoMap

structure GPUAgentGPUClient.ValidIDs (ga : GPUAgentGPUClient) : Prop where
  healthState : ∀ gpuid, gpuid ∈ ga.healthState → ValidDeviceID gpuid
  gpuIDMap : ∀ gpuid, gpuid ∈ ga.gpuIDMap → ValidDeviceID gpuid

theorem validDeviceID_getGPUInstanceIDString (gpu : GPU)
    : ValidDeviceID (getGPUInstanceIDString gpu) := by
  unfold getGPUInstanceIDString
  constructor
  . intro h
    have := congrArg String.toList h
    rw [Nat.toList_repr] at this
    apply Nat.toDigits_ne_nil this
  . intro h
    rw [Nat.toList_repr] at h
    have := Nat.isDigit_of_mem_toDigits (by decide) (by decide) h
    exact absurd this (by decide)

namespace GPUAgentGPUClient

theorem ValidIDs.setUnhealthyGPU {ga : GPUAgentGPUClient} (h : ga.ValidIDs)
    (wls : GoMap String Workload) : (ga.setUnhealthyGPU wls).ValidIDs where
  healthState gpuid hmem := h.healthState gpuid (mem_map_iff.mp hmem)
  gpuIDMap := h.gpuIDMap

theorem ValidIDs.setComputeNodeHealthState {ga : GPUAgentGPUClient} (h : ga.ValidIDs)
    (wls : GoMap String Workload) (state : Bool) : (ga.setComputeNodeHealthState wls state).ValidIDs := by
  unfold GPUAgentGPUClient.setComputeNodeHealthState
  split
  . exact h
  . simp only [updateAllGPUsHealthState]
    split
    . exact ⟨fun gpuid hmem => h.healthState gpuid (mem_map_iff.mp hmem), h.gpuIDMap⟩
    . exact ⟨fun gpuid hmem => h.gpuIDMap gpuid (mem_map_iff.mp hmem), h.gpuIDMap⟩

theorem validDeviceID_of_mem_insertEach {gpus : List GPU} {val : GPU → GPUState} {gpuid : String}
    (hmem : gpuid ∈ GoMap.insertEach ∅ gpus getGPUInstanceIDString val) : ValidDeviceID gpuid := by
  rcases (mem_insertEach_empty _ _).mp hmem with ⟨gpu, -, rfl⟩
  apply validDeviceID_getGPUInstanceIDString gpu

variable [CaseMap]

theorem ValidIDs.processHealthValidation {ga ga' : GPUAgentGPUClient} (h : ga.ValidIDs)
    {time : Time} {cfg : HealthConfig} {data : HealthData} {err : Option HealthError}
    (hrun : ga.processHealthValidation time cfg data = some (ga', err)) : ga'.ValidIDs := by
  cases hnode : ga.computeNodeHealthState with
  | false =>
    simp only [GPUAgentGPUClient.processHealthValidation, hnode, Bool.not_false, if_true,
      Option.some.injEq, Prod.mk.injEq] at hrun
    rw [← hrun.1]
    apply h.setUnhealthyGPU data.wls
  | true =>
    rcases processHealthValidation_cases hnode hrun with
      ⟨resp, m, -, -, rfl, -, hm⟩ | ⟨-, rfl, -⟩
    . refine ⟨fun gpuid hmem => ?_, h.gpuIDMap⟩
      rw [hm.mem_iff] at hmem
      apply validDeviceID_of_mem_insertEach hmem
    . apply h.setUnhealthyGPU data.wls

theorem ValidIDs.initGPUMetadata {ga : GPUAgentGPUClient} (h : ga.ValidIDs) (gpus : List GPU)
    : (ga.initGPUMetadata gpus).ValidIDs where
  healthState := h.healthState
  gpuIDMap gpuid hmem := by
    rw [GPUAgentGPUClient.initGPUMetadata, ← AList.lookup_isSome, lookup_insertEach] at hmem
    split at hmem
    . next gpu hlast =>
      rw [← (mem_of_lastWith _ hlast).2]
      apply validDeviceID_getGPUInstanceIDString gpu
    . apply h.gpuIDMap gpuid (AList.lookup_isSome.mp hmem)

theorem ValidIDs.updateStaticMetrics {ga ga' : GPUAgentGPUClient} (h : ga.ValidIDs)
    {cfg : HealthConfig} {data : HealthData} (hrun : ga.updateStaticMetrics cfg data = some ga')
    : ga'.ValidIDs := by
  unfold GPUAgentGPUClient.updateStaticMetrics at hrun
  split at hrun
  . cases hrun
    exact h
  . next resp _ =>
    split at hrun
    . cases hrun
      exact h
    . simp only [processEccErrorMetrics_eq] at hrun
      split at hrun
      . cases hrun
        exact ⟨fun gpuid hmem => validDeviceID_of_mem_insertEach hmem,
          (h.initGPUMetadata resp.response).gpuIDMap⟩
      . cases hrun

end GPUAgentGPUClient

def gpuLabeller : NodeHealthLabellerConfig := ⟨gpuHealthLabelPrefix⟩

def Monitor.Labelled (s : Monitor) : Prop :=
  ∀ gpuid value,
    (gpuLabeller.parseNodeHealthLabelOf s.api.node.labels).lookup gpuid = some value
      ↔ ∃ state, s.client.healthState.lookup gpuid = some state
          ∧ state.health ≠ .HEALTHY ∧ state.health.name = value

structure MonitorConfig.Kubernetes (cfg : MonitorConfig) : Prop where
  enabledK8sApi : cfg.enabledK8sApi = true
  nodeName : cfg.nodeName ≠ ""

theorem GPUHealth.name_ne_healthy {health : GPUHealth} (h : health ≠ .HEALTHY)
    : health.name ≠ "healthy" := by
  cases health with
  | HEALTHY => exact absurd rfl h
  | UNKNOWN => decide
  | UNHEALTHY => decide

theorem lookup_gpuHealthStates (ga : GPUAgentGPUClient) (gpuid value : String)
    : ga.gpuHealthStates.lookup gpuid = some value
        ↔ ∃ state, ga.healthState.lookup gpuid = some state
            ∧ state.health ≠ .HEALTHY ∧ state.health.name = value := by
  simp only [GPUAgentGPUClient.gpuHealthStates, lookup_map, Option.map_eq_some_iff,
    lookup_filter_eq_some, decide_eq_true_eq, and_assoc]

/--
What holds between two ticks: the ids of the GPUs can be read back from labels, and the label map of the
node is not nil.
-/
structure Monitor.Pushable (s : Monitor) : Prop where
  validIDs : s.client.ValidIDs
  foreignLabel : K8sClient.HasForeignLabel gpuLabeller s.api.node

theorem Monitor.Pushable.pushLabels {cfg : MonitorConfig} (hcfg : cfg.Kubernetes) {s : Monitor}
    (h : s.Pushable) : ∃ s', s.pushLabels cfg = some s' ∧ s'.Pushable ∧ s'.Labelled := by
  have hvalid : ∀ gpuid, gpuid ∈ s.client.gpuHealthStates → ValidDeviceID gpuid := by
    intro gpuid hmem
    rcases GoMap.mem_iff_exists_lookup.mp hmem with ⟨value, hvalue⟩
    rcases (lookup_gpuHealthStates _ _ _).mp hvalue with ⟨state, hstate, -⟩
    apply h.validIDs.healthState gpuid (AList.lookup_isSome.mp (by simp [hstate]))
  have hhealth : ∀ gpuid, s.client.gpuHealthStates.lookup gpuid ≠ some "healthy" := by
    intro gpuid hlookup
    rcases (lookup_gpuHealthStates _ _ _).mp hlookup with ⟨state, -, hne, hname⟩
    apply GPUHealth.name_ne_healthy hne hname
  rcases K8sClient.updateHealthLabel_of_foreignLabel h.foreignLabel s.client.gpuHealthStates with
    ⟨api, hupdate, hread, hforeign⟩
  have hsend : s.client.sendNodeLabelUpdate cfg s.api = .ok api := by
    simp only [GPUAgentGPUClient.sendNodeLabelUpdate, hcfg.enabledK8sApi, Bool.not_true,
      Bool.false_eq_true, if_false, if_neg hcfg.nodeName]
    rw [gpuLabeller] at hupdate
    rw [hupdate]
    rfl
  refine ⟨{ s with api }, ?_, ⟨h.validIDs, hforeign⟩, ?_⟩
  . rw [Monitor.pushLabels, hsend]
    rfl
  . intro gpuid value
    rw [NodeHealthLabellerConfig.parseNodeHealthLabelOf, hread,
      NodeHealthLabellerConfig.lookup_parseNodeHealthLabel_updateHealthLabel _ _ _ hvalid hhealth,
      lookup_gpuHealthStates]

section Runs

variable [CaseMap] {cfg : MonitorConfig}

theorem tick_eq_bind {s : Monitor} {t : Tick} (henabled : cfg.enableGPUMonitoring = true)
    (hreach : (t.active || t.reconnects) = true)
    : s.tick cfg t = (s.client.processHealthValidation t.time t.cfg t.data).bind fun (client, err) =>
        let s := { s with client }
        match err with
        | some err =>
          if isRestartableFailure err then
            let s := s.fail cfg
            if s.alive && err = .errZeroGPUs then s.pushLabels cfg else some s
          else
            some (s.succeed cfg t)
        | none => (s.pushLabels cfg).map (·.succeed cfg t) := by
  have hreach' : (!t.active && !t.reconnects) = false := by
    rw [← Bool.not_or, hreach]
    rfl
  rw [Monitor.tick, hreach', henabled]
  rfl

theorem tick_eq (hcfg : cfg.Kubernetes) {s : Monitor} {t : Tick} (hs : s.Pushable)
    (henabled : cfg.enableGPUMonitoring = true) (hreach : (t.active || t.reconnects) = true)
    {client : GPUAgentGPUClient} {err : Option HealthError}
    (hrun : s.client.processHealthValidation t.time t.cfg t.data = some (client, err))
    : ∃ s', s.tick cfg t = some s' ∧ s'.Pushable
        ∧ ((err = none ∨ err = some .errZeroGPUs) → s'.alive = true → s'.Labelled)
        ∧ (err = some .errAgentUnreachable → s'.api = s.api) := by
  rw [tick_eq_bind henabled hreach, hrun, Option.bind_some]
  have hpushable : Monitor.Pushable { s with client } :=
    ⟨hs.validIDs.processHealthValidation hrun, hs.foreignLabel⟩
  cases err with
  | none =>
    rcases hpushable.pushLabels hcfg with ⟨s', hpush, hs', hlabelled⟩
    dsimp only
    rw [hpush]
    refine ⟨s'.succeed cfg t, rfl, ⟨hs'.validIDs, hs'.foreignLabel⟩, fun _ _ => hlabelled, fun h => ?_⟩
    cases h
  | some err =>
    cases err with
    | computeNodeUnhealthy =>
      refine ⟨_, rfl, ⟨hpushable.validIDs, hpushable.foreignLabel⟩, fun h => ?_, fun h => ?_⟩
      . simp at h
      . cases h
    | errAgentUnreachable =>
      refine ⟨Monitor.fail cfg { s with client }, ?_, ⟨hpushable.validIDs, hpushable.foreignLabel⟩,
        fun h => ?_, fun _ => rfl⟩
      . simp [isRestartableFailure]
      . simp at h
    | errZeroGPUs =>
      have hfail : (Monitor.fail cfg { s with client }).Pushable :=
        ⟨hpushable.validIDs, hpushable.foreignLabel⟩
      simp only [isRestartableFailure, reduceCtorEq, decide_false, decide_true, Bool.or_true, if_true,
        Bool.and_true]
      split
      . rcases hfail.pushLabels hcfg with ⟨s', hpush, hs', hlabelled⟩
        exact ⟨s', hpush, hs', fun _ _ => hlabelled, fun h => by cases h⟩
      . next hdead => exact ⟨_, rfl, hfail, fun _ halive => absurd halive hdead, fun h => by cases h⟩

theorem pushable_tick (hcfg : cfg.Kubernetes) {s s' : Monitor} {t : Tick} (hs : s.Pushable)
    (htick : s.tick cfg t = some s') : s'.Pushable := by
  by_cases hvalidates : (t.active || t.reconnects) = true ∧ cfg.enableGPUMonitoring = true
  . rcases hvalidates with ⟨hreach, henabled⟩
    cases hrun : s.client.processHealthValidation t.time t.cfg t.data with
    | none =>
      rw [tick_eq_bind henabled hreach, hrun] at htick
      cases htick
    | some r =>
      rcases tick_eq hcfg hs henabled hreach hrun with ⟨u, htick', hu, -⟩
      rw [htick] at htick'
      cases htick'
      exact hu
  . unfold Monitor.tick at htick
    split at htick
    . cases htick
      exact ⟨hs.validIDs, hs.foreignLabel⟩
    . split at htick
      . cases htick
        exact ⟨hs.validIDs, hs.foreignLabel⟩
      . next hreach henabled =>
        simp only [Bool.not_eq_true', Bool.not_eq_false] at henabled
        rw [← Bool.not_or, Bool.not_eq_true', Bool.not_eq_false] at hreach
        exact absurd ⟨hreach, henabled⟩ hvalidates

theorem pushable_step (hcfg : cfg.Kubernetes) (s : Monitor) (a : MonitorAction) (s' : Monitor)
    (hs : s.Pushable) (_ : True) (hstep : (monitorSystem cfg).step s a = some s') : s'.Pushable := by
  simp only [monitorSystem, Monitor.step] at hstep
  split at hstep
  . cases hstep
  . cases a with
    | tick t => exact pushable_tick hcfg hs hstep
    | setComputeNodeHealthState wls state =>
      cases hstep
      exact ⟨hs.validIDs.setComputeNodeHealthState wls state, hs.foreignLabel⟩
    | updateStaticMetrics hcfg data =>
      rcases Option.map_eq_some_iff.mp hstep with ⟨client, hrun, rfl⟩
      exact ⟨hs.validIDs.updateStaticMetrics hrun, hs.foreignLabel⟩
    | setError gpuid fields values =>
      rcases Option.map_eq_some_iff.mp hstep with ⟨client, hrun, rfl⟩
      simp only [GPUAgentGPUClient.setError] at hrun
      split at hrun
      . cases hrun
      . cases hrun
        exact ⟨⟨hs.validIDs.healthState, hs.validIDs.gpuIDMap⟩, hs.foreignLabel⟩

/--
Over every run of the monitor on a node that has other labels, every tick that validates ends. If the
validation succeeds or finds no GPUs, the labels then parse to what is not healthy, and they stay as they
are if it does not reach the agent.
-/
theorem labels_follow_health (hcfg : cfg.Kubernetes) (henabled : cfg.enableGPUMonitoring = true)
    (lgpuMap : GoMap String String) (node : Node) (hnode : K8sClient.HasForeignLabel gpuLabeller node)
    (as : List MonitorAction) (s : Monitor) (t : Tick)
    (hexec : (monitorSystem cfg).exec as (.start lgpuMap node) = some s) (halive : s.alive = true)
    (hreach : (t.active || t.reconnects) = true) (client : GPUAgentGPUClient)
    (err : Option HealthError)
    (hrun : s.client.processHealthValidation t.time t.cfg t.data = some (client, err))
    : ∃ s', (monitorSystem cfg).step s (.tick t) = some s'
        ∧ ((err = none ∨ err = some .errZeroGPUs) → s'.alive = true → s'.Labelled)
        ∧ (err = some .errAgentUnreachable → s'.api.node = s.api.node) := by
  have hs : s.Pushable := by
    refine (monitorSystem cfg).exec_invariant (I := Monitor.Pushable) (pushable_step hcfg) as _ s
      ⟨⟨?_, ?_⟩, hnode⟩ ((monitorSystem cfg).respects_true as _) hexec
    . intro gpuid hmem
      cases hmem
    . intro gpuid hmem
      cases hmem
  rcases tick_eq hcfg hs henabled hreach hrun with ⟨s', htick, -, hlabelled, hkept⟩
  refine ⟨s', ?_, hlabelled, fun herr => by rw [hkept herr]⟩
  simp only [monitorSystem, Monitor.step, halive, Bool.not_true, Bool.false_eq_true, if_false]
  exact htick

end Runs

section Instances

def k8sMonitorConfig : MonitorConfig where
  enabledK8sApi := true
  nodeName := "node"
  enableGPUMonitoring := true
  exitOnAgentDown := false
  exitOnRocpctlError := false

def pollTick (data : HealthData) : Tick where
  active := true
  reconnects := true
  time := stoppedTime
  cfg := defaultHealthConfig
  data := data
  disabledOnFailure := false

def hostNode : Node where
  labels := some (AList.singleton "kubernetes.io/hostname" "node")

theorem hasForeignLabel_hostNode : K8sClient.HasForeignLabel gpuLabeller hostNode :=
  ⟨"kubernetes.io/hostname", by decide, by decide⟩

def Monitor.labelAndHealth (s : Monitor) (gpuid : String) : Option String × Option GPUHealth :=
  ((gpuLabeller.parseNodeHealthLabelOf s.api.node.labels).lookup gpuid,
    (s.client.healthState.lookup gpuid).map (·.health))

theorem labels_follow_health_critical
    : ∃ s s', (@monitorSystem CaseMap.ascii k8sMonitorConfig).exec [.tick (pollTick (oneGPU []))]
          (.start ∅ hostNode) = some s
        ∧ (@monitorSystem CaseMap.ascii k8sMonitorConfig).step s
            (.tick (pollTick (oneGPU [⟨List.replicate 16 7, .CRITICAL⟩]))) = some s'
        ∧ s'.labelAndHealth "0" = (some "unhealthy", some .UNHEALTHY) ∧ s'.Labelled := by
  let _ := CaseMap.ascii
  have hrun : (((monitorSystem k8sMonitorConfig).exec [.tick (pollTick (oneGPU []))]
      (.start ∅ hostNode)).bind fun s => (((monitorSystem k8sMonitorConfig).step s
        (.tick (pollTick (oneGPU [⟨List.replicate 16 7, .CRITICAL⟩])))).bind fun s' =>
          (s.client.processHealthValidation stoppedTime defaultHealthConfig
            (oneGPU [⟨List.replicate 16 7, .CRITICAL⟩])).map fun r =>
              (s'.labelAndHealth "0", s.alive, s'.alive, r.2)))
      = some ((some "unhealthy", some .UNHEALTHY), true, true, none) := by
    decide
  rcases Option.bind_eq_some_iff.mp hrun with ⟨s, hexec, hrest⟩
  rcases Option.bind_eq_some_iff.mp hrest with ⟨s', hstep, hlast⟩
  rcases Option.map_eq_some_iff.mp hlast with ⟨⟨client, err⟩, hval, hs'⟩
  simp only [Prod.mk.injEq] at hs'
  rcases hs' with ⟨hlabel, halive, halive', herr⟩
  rcases labels_follow_health ⟨rfl, by decide⟩ rfl ∅ hostNode hasForeignLabel_hostNode _ s
    (pollTick (oneGPU [⟨List.replicate 16 7, .CRITICAL⟩])) hexec halive rfl client err hval with
    ⟨u, hstep', hlabelled, -⟩
  rw [hstep] at hstep'
  cases hstep'
  exact ⟨s, s', hexec, hstep, hlabel, hlabelled (.inl herr) halive'⟩

theorem not_labelled_after_every_validation
    : ¬∀ (_ : CaseMap) (cfg : MonitorConfig) (lgpuMap : GoMap String String) (node : Node)
        (as : List MonitorAction) (s s' : Monitor) (t : Tick),
        cfg.Kubernetes → cfg.enableGPUMonitoring = true → K8sClient.HasForeignLabel gpuLabeller node →
        (monitorSystem cfg).exec as (.start lgpuMap node) = some s →
        (monitorSystem cfg).step s (.tick t) = some s' → s'.alive = true →
        (t.active || t.reconnects) = true →
        s'.Labelled := by
  -- The second tick does not reach the agent: the GPU is set to unhealthy and has no label.
  intro h
  let _ := CaseMap.ascii
  have hrun : (((monitorSystem k8sMonitorConfig).exec [.tick (pollTick (oneGPU []))]
      (.start ∅ hostNode)).bind fun s => ((monitorSystem k8sMonitorConfig).step s
        (.tick (pollTick { oneGPU [] with gpus := none }))).map fun s' =>
          (s'.labelAndHealth "0", s'.alive))
      = some ((none, some .UNHEALTHY), true) := by
    decide
  rcases Option.bind_eq_some_iff.mp hrun with ⟨s, hexec, hrest⟩
  rcases Option.map_eq_some_iff.mp hrest with ⟨s', hstep, hs'⟩
  simp only [Monitor.labelAndHealth, Prod.mk.injEq, Option.map_eq_some_iff] at hs'
  rcases hs' with ⟨⟨hlabel, state, hstate, hunhealthy⟩, halive⟩
  have hlabelled := h CaseMap.ascii k8sMonitorConfig ∅ hostNode _ s s' _ ⟨rfl, by decide⟩ rfl
    hasForeignLabel_hostNode hexec hstep halive rfl
  have := (hlabelled "0" state.health.name).mpr ⟨state, hstate, by simp [hunhealthy], rfl⟩
  rw [hlabel] at this
  cases this

end Instances

end GPUAgent
