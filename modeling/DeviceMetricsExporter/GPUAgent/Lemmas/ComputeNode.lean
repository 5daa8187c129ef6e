import DeviceMetricsExporter.GPUAgent.Impl.ComputeNode
import DeviceMetricsExporter.GPUAgent.Lemmas.Health

/-!
This module contains what the notifications about the compute node achieve: when the agent survives a
sequence of them, and when a compute node that is down keeps every GPU unhealthy while validations and
reloads are under way.
-/

namespace GPUAgent

open Exporter GoMap

section Notifications

structure GPUAgentClient.Recorded (ga : GPUAgentClient) (state : Bool) : Prop where
  gpuUnlocked : ga.gpu.locked = false
  ifoeUnlocked : ga.ifoe.locked = false
  gpu : ga.gpu.client.computeNodeHealthState = state
  ifoe : ga.ifoe.client.computeNodeHealthState = state

theorem Guarded.setGPUComputeNodeHealthState_eq (c : Guarded GPUAgentGPUClient)
    (wls : GoMap String Workload) (state : Bool) (h : c.locked = false)
    : c.setGPUComputeNodeHealthState wls state
        = some ⟨false, c.client.setComputeNodeHealthState wls state⟩ := by
  unfold setGPUComputeNodeHealthState GPUAgentGPUClient.setComputeNodeHealthState
  simp only [lock, h, Bool.false_eq_true, if_false, Option.bind_eq_bind, Option.bind_some]
  split
  . simp [unlock]
  . simp [unlock]

theorem GPUAgentGPUClient.computeNodeHealthState_set (ga : GPUAgentGPUClient)
    (wls : GoMap String Workload) (state : Bool)
    : (ga.setComputeNodeHealthState wls state).computeNodeHealthState = state := by
  unfold setComputeNodeHealthState
  split
  . next h => exact h
  . simp only [updateAllGPUsHealthState]
    split
    . rfl
    . rfl

theorem Guarded.setIFOEComputeNodeHealthState_eq (c : Guarded GPUAgentIFOEClient) (state : Bool)
    (h : c.locked = false)
    : c.setIFOEComputeNodeHealthState state
        = some ⟨c.client.computeNodeHealthState = state, ⟨state⟩⟩ := by
  unfold setIFOEComputeNodeHealthState
  simp only [lock, h, Bool.false_eq_true, if_false, Option.bind_eq_bind, Option.bind_some]
  split
  . next heq => simp [← heq]
  . next hne => simp [unlock, hne]

theorem GPUAgentClient.setComputeNodeHealthState_eq (ga : GPUAgentClient)
    (wls : GoMap String Workload) (state : Bool) (hgpu : ga.gpu.locked = false)
    (hifoe : ga.ifoe.locked = false)
    : ga.setComputeNodeHealthState wls state
        = some ⟨⟨false, ga.gpu.client.setComputeNodeHealthState wls state⟩,
            ⟨ga.ifoe.client.computeNodeHealthState = state, ⟨state⟩⟩⟩ := by
  simp [setComputeNodeHealthState, Guarded.setGPUComputeNodeHealthState_eq _ _ _ hgpu,
    Guarded.setIFOEComputeNodeHealthState_eq _ _ hifoe]

theorem achieves_iff_isChain (ns : List Notification) (ga : GPUAgentClient)
    (hgpu : ga.gpu.locked = false) (hifoe : ga.ifoe.locked = false)
    : notifications.Achieves (fun n ga => ga.Recorded n.state) ns ga
        ↔ (ga.ifoe.client.computeNodeHealthState :: ns.map (·.state)).IsChain (· ≠ ·) := by
  induction ns generalizing ga with
  | nil => simp [TransitionSystem.Achieves]
  | cons n ns ih =>
    simp only [TransitionSystem.Achieves, notifications,
      GPUAgentClient.setComputeNodeHealthState_eq ga n.wls n.state hgpu hifoe, Option.some.injEq,
      exists_eq_left', List.map_cons, List.isChain_cons_cons]
    by_cases h : ga.ifoe.client.computeNodeHealthState = n.state
    . constructor
      . rintro ⟨hrecorded, -⟩
        have := hrecorded.ifoeUnlocked
        simp [h] at this
      . rintro ⟨hne, -⟩
        exact absurd h hne
    . constructor
      . rintro ⟨-, hrest⟩
        exact ⟨h, (ih _ rfl (by simp [h])).mp hrest⟩
      . rintro ⟨-, hrest⟩
        refine ⟨⟨rfl, by simp [h], ?_, rfl⟩, (ih _ rfl (by simp [h])).mpr hrest⟩
        apply GPUAgentGPUClient.computeNodeHealthState_set _ _ _

/--
The agent survives a sequence of notifications if and only if the first one reports the node as healthy
and each of the others reports a change.
-/
theorem notifications_recorded_iff (gpuClient : GPUAgentGPUClient) (ns : List Notification)
    : notifications.Achieves (fun n ga => ga.Recorded n.state) ns (.newAgent gpuClient)
        ↔ (false :: ns.map (·.state)).IsChain (· ≠ ·) :=
  achieves_iff_isChain ns (.newAgent gpuClient) rfl rfl

theorem not_notifications_recorded
    : ¬∀ (gpuClient : GPUAgentGPUClient) (ns : List Notification),
        notifications.Achieves (fun n ga => ga.Recorded n.state) ns (.newAgent gpuClient) := by
  -- A first notification that reports the node as unhealthy is nothing new to the IFOE client.
  intro h
  rcases h (newGPUAgentGPUClient ∅) [⟨∅, false⟩] with ⟨ga, hstep, hrecorded, -⟩
  cases hstep
  exact absurd hrecorded.ifoeUnlocked (by decide)

end Notifications

section Interleaving

def HealthCall.Pending (c : HealthCall) (gpuid : String) : Prop :=
  match c with
  | .flagged _ state => state = false
  | .marking state gpuids => state = false ∧ gpuid ∈ gpuids
  | _ => False

def HealthCall.writesUnhealthy : HealthCall → Bool
  | .marking state (_ :: _) => !state
  | .creating _ state (_ :: _) => !state
  | .publishing _ (.ok newGPUState) => newGPUState.entries.all fun e => e.2.health = .UNHEALTHY
  | _ => true

/--
The step is taken while the compute node is healthy, or writes unhealthy entries only.
-/
def HealthPool.timely (s : HealthPool) (a : HealthAction) : Bool :=
  match a with
  | .start _ => true
  | .call i =>
    match s.calls[i]? with
    | none => true
    | some c => s.client.computeNodeHealthState || c.writesUnhealthy

def HealthPool.NodeInv (s : HealthPool) : Prop :=
  s.client.computeNodeHealthState = false → ∀ gpuid state,
    s.client.healthState.lookup gpuid = some state →
      state.health = .UNHEALTHY ∨ ∃ c ∈ s.calls, c.Pending gpuid

namespace HealthCall

def Accounts (ga : GPUAgentGPUClient) (c c' : HealthCall) (gpuid : String) (state' : GPUState)
    : Prop :=
  state'.health = .UNHEALTHY ∨ c'.Pending gpuid ∨
    (ga.computeNodeHealthState = false ∧ ¬c.Pending gpuid ∧
      ∃ state, ga.healthState.lookup gpuid = some state ∧ state.health = state'.health)

theorem accounts_of_eq {ga : GPUAgentGPUClient} {c c' : HealthCall} {gpuid : String}
    {state : GPUState} (hdown : ga.computeNodeHealthState = false)
    (hstate : ga.healthState.lookup gpuid = some state)
    (hpending : c.Pending gpuid → c'.Pending gpuid) : Accounts ga c c' gpuid state := by
  by_cases h : c.Pending gpuid
  . exact .inr (.inl (hpending h))
  . exact .inr (.inr ⟨hdown, h, state, hstate, rfl⟩)

theorem lookup_setUnhealthyGPU {ga : GPUAgentGPUClient} {wls : GoMap String Workload}
    {gpuid : String} {state : GPUState}
    (h : (ga.setUnhealthyGPU wls).healthState.lookup gpuid = some state)
    : state.health = .UNHEALTHY := by
  simp only [GPUAgentGPUClient.setUnhealthyGPU, lookup_map, Option.map_eq_some_iff] at h
  rcases h with ⟨_, -, rfl⟩
  rfl

theorem healthFor_of_timely {state : Bool} {ga : GPUAgentGPUClient}
    (htimely : ga.computeNodeHealthState = true ∨ (!state) = true)
    (hdown : ga.computeNodeHealthState = false) : healthFor state = .UNHEALTHY := by
  rcases htimely with hup | hstate
  . rw [hup] at hdown
    cases hdown
  . rw [healthFor, if_pos hstate]

theorem accounts_step_idle [CaseMap] {ga ga' : GPUAgentGPUClient} {r : HealthRequest} {c' : HealthCall}
    (hstep : step ga (.idle r) = some (ga', c')) (hdown : ga'.computeNodeHealthState = false)
    {gpuid : String} {state' : GPUState} (hstate : ga'.healthState.lookup gpuid = some state')
    : Accounts ga (.idle r) c' gpuid state' := by
  cases r with
  | setComputeNodeHealthState wls state =>
    simp only [step] at hstep
    split at hstep
    . cases hstep
      apply accounts_of_eq hdown hstate False.elim
    . cases hstep
      exact .inr (.inl hdown)
  | processHealthValidation time cfg data =>
    simp only [step] at hstep
    split at hstep
    . cases hstep
      apply accounts_of_eq hdown hstate False.elim
    . cases hstep
      apply accounts_of_eq hdown hstate False.elim
  | updateStaticMetrics cfg data =>
    simp only [step] at hstep
    split at hstep
    . cases hstep
      apply accounts_of_eq hdown hstate False.elim
    . split at hstep
      . cases hstep
        apply accounts_of_eq hdown hstate False.elim
      . rcases Option.map_eq_some_iff.mp hstep with ⟨_, -, hpair⟩
        cases hpair
        apply accounts_of_eq hdown hstate False.elim

theorem accounts_step [CaseMap] {ga ga' : GPUAgentGPUClient} {c c' : HealthCall}
    (hstep : c.step ga = some (ga', c'))
    (htimely : ga.computeNodeHealthState = true ∨ c.writesUnhealthy = true)
    (hdown : ga'.computeNodeHealthState = false) {gpuid : String} {state' : GPUState}
    (hstate : ga'.healthState.lookup gpuid = some state') : Accounts ga c c' gpuid state' := by
  cases c with
  | idle r => exact accounts_step_idle hstep hdown hstate
  | flagged wls state =>
    simp only [step] at hstep
    split at hstep
    . cases hstep
      refine accounts_of_eq hdown hstate ?_
      intro hpending
      refine ⟨hpending, ?_⟩
      apply AList.lookup_isSome.mp (by simp [hstate])
    . next hempty =>
      cases hstep
      have hnil : ga.healthState.entries = [] := by
        simpa using hempty
      simp [(entries_eq_nil_iff _).mp hnil gpuid] at hstate
  | marking state gpuids =>
    cases gpuids with
    | nil =>
      cases hstep
      exact accounts_of_eq hdown hstate fun hpending => nomatch hpending.2
    | cons gpuid₁ gpuids =>
      simp only [step] at hstep
      rcases Option.map_eq_some_iff.mp hstep with ⟨healthState, hset, hpair⟩
      cases hpair
      have hmod := setHealth_modifiedOn hset
      by_cases hgpuid : gpuid = gpuid₁
      . refine .inl ?_
        simp only [hmod.changed gpuid hgpuid, Option.map_eq_some_iff] at hstate
        rcases hstate with ⟨_, -, rfl⟩
        apply healthFor_of_timely htimely hdown
      . rw [hmod.unchanged gpuid hgpuid] at hstate
        refine accounts_of_eq hdown hstate ?_
        rintro ⟨hfalse, hmem⟩
        exact ⟨hfalse, (List.mem_cons.mp hmem).resolve_left hgpuid⟩
  | creating wls state metas =>
    cases metas with
    | nil =>
      cases hstep
      apply accounts_of_eq hdown hstate False.elim
    | cons entry metas =>
      cases hstep
      simp only [lookup_insert_eq_ite] at hstate
      split at hstate
      . cases hstate
        exact .inl (healthFor_of_timely htimely hdown)
      . exact accounts_of_eq hdown hstate False.elim
  | validating time cfg data =>
    simp only [step] at hstep
    rcases Option.map_eq_some_iff.mp hstep with ⟨_, -, hpair⟩
    cases hpair
    apply accounts_of_eq hdown hstate False.elim
  | nodeDown wls =>
    cases hstep
    exact .inl (lookup_setUnhealthyGPU hstate)
  | publishing wls result =>
    cases hstep
    cases result with
    | error err => exact .inl (lookup_setUnhealthyGPU hstate)
    | ok newGPUState =>
      rcases htimely with hup | hunhealthy
      . have hwas : ga.computeNodeHealthState = false := hdown
        simp [hup] at hwas
      . refine .inl ?_
        have hmem := AList.mem_lookup_iff.mp hstate
        simpa using List.all_eq_true.mp hunhealthy _ hmem
  | finished => cases hstep

end HealthCall

section Alone

variable [CaseMap] {ga ga' : GPUAgentGPUClient}

theorem step_alone {c c' : HealthCall} (h : c.step ga = some (ga', c'))
    : healthSystem.step ⟨ga, [c]⟩ (.call 0) = some ⟨ga', [c']⟩ := by
  simp [healthSystem, HealthPool.step, h]

theorem reaches_of_marking (state : Bool) (gpuids : List String)
    (hknown : ∀ gpuid ∈ gpuids, gpuid ∈ ga.healthState)
    : ∃ m, healthSystem.Reaches ⟨ga, [.marking state gpuids]⟩
          ⟨{ ga with healthState := m }, [.finished]⟩
        ∧ ModifiedOn (fun s => { s with health := HealthCall.healthFor state }) (· ∈ gpuids)
            ga.healthState m := by
  induction gpuids generalizing ga with
  | nil =>
    refine ⟨ga.healthState, .head (step_alone rfl) (.refl _), ?_⟩
    apply (ModifiedOn.refl _ _).congr
    simp
  | cons gpuid gpuids ih =>
    have hmem := AList.lookup_isSome.mpr (hknown gpuid List.mem_cons_self)
    rcases Option.isSome_iff_exists.mp hmem with ⟨old, hold⟩
    have hset : ∃ m₁, setHealth ga.healthState gpuid (HealthCall.healthFor state) = some m₁ := by
      simp [setHealth, hold]
    rcases hset with ⟨m₁, hm₁⟩
    have hfirst := setHealth_modifiedOn hm₁
    have hstep : HealthCall.step ga (.marking state (gpuid :: gpuids))
        = some ({ ga with healthState := m₁ }, .marking state gpuids) := by
      simp only [HealthCall.step, hm₁, Option.map_some]
    have hknown' : ∀ k ∈ gpuids, k ∈ m₁ := by
      intro k hk
      rw [hfirst.mem_iff]
      apply hknown k (List.mem_cons_of_mem _ hk)
    rcases @ih { ga with healthState := m₁ } hknown' with ⟨m, hreaches, hrest⟩
    refine ⟨m, .head (step_alone hstep) hreaches, ?_⟩
    have htrans := ModifiedOn.trans (by simp) hfirst hrest
    apply htrans.congr
    simp

theorem reaches_of_creating (wls : GoMap String Workload) (state : Bool)
    (metas : List (String × GPUIDMeta))
    : healthSystem.Reaches ⟨ga, [.creating wls state metas]⟩
        ⟨{ ga with
            healthState := ga.healthState.insertEach metas (·.1) fun e =>
              { id := e.2.gpuID
                uuid := e.2.uuid
                health := HealthCall.healthFor state
                device := e.2.pcieBusId
                associatedWorkload := ga.getWorkloadsListString wls e.1 } }, [.finished]⟩ := by
  induction metas generalizing ga with
  | nil => exact .head (step_alone rfl) (.refl _)
  | cons e metas ih => exact .head (step_alone rfl) ih

theorem reaches_of_flagged (wls : GoMap String Workload) (state : Bool)
    : ∃ m, healthSystem.Reaches ⟨ga, [.flagged wls state]⟩ ⟨{ ga with healthState := m }, [.finished]⟩
        ∧ ∀ gpuid, m.lookup gpuid
            = (ga.updateAllGPUsHealthState wls (HealthCall.healthFor state)).healthState.lookup gpuid := by
  by_cases hempty : ga.healthState.entries.isEmpty
  . have hstep : HealthCall.step ga (.flagged wls state)
        = some (ga, .creating wls state (ga.gpuIDMap.entries.map fun e => (e.1, e.2))) := by
      simp only [HealthCall.step, hempty]
      rfl
    refine ⟨_, .head (step_alone hstep) (reaches_of_creating wls state _), ?_⟩
    intro gpuid
    have hnone : ga.healthState.lookup gpuid = none := by
      apply (entries_eq_nil_iff _).mp
      simpa using hempty
    have hcreated := lookup_insertEach_entries ga.healthState ga.gpuIDMap
      (fun gpuid gpuIdMeta =>
        { id := gpuIdMeta.gpuID
          uuid := gpuIdMeta.uuid
          health := HealthCall.healthFor state
          device := gpuIdMeta.pcieBusId
          associatedWorkload := ga.getWorkloadsListString wls gpuid }) gpuid
    rw [hnone, Option.or_none] at hcreated
    rw [hcreated]
    simp [GPUAgentGPUClient.updateAllGPUsHealthState, hempty, lookup_map]
  . have hstep : HealthCall.step ga (.flagged wls state)
        = some (ga, .marking state ga.healthState.keys) := by
      simp only [HealthCall.step, hempty]
      rfl
    have hknown : ∀ gpuid ∈ ga.healthState.keys, gpuid ∈ ga.healthState := by
      intro gpuid h
      rw [AList.mem_keys]
      exact h
    rcases reaches_of_marking state ga.healthState.keys hknown with ⟨m, hreaches, hmod⟩
    refine ⟨m, .head (step_alone hstep) hreaches, ?_⟩
    intro gpuid
    simp only [GPUAgentGPUClient.updateAllGPUsHealthState, hempty, Bool.not_false, if_true, lookup_map]
    by_cases hgpuid : gpuid ∈ ga.healthState.keys
    . exact hmod.changed gpuid hgpuid
    . have hnone : ga.healthState.lookup gpuid = none := by
        rw [AList.lookup_eq_none, AList.mem_keys]
        exact hgpuid
      rw [hmod.unchanged gpuid hgpuid, hnone]
      rfl

/--
The steps of a notification that is left alone lead to the health map of the notification as a whole.
-/
theorem reaches_setComputeNodeHealthState (wls : GoMap String Workload) (state : Bool)
    : ∃ m, healthSystem.Reaches ⟨ga, [.idle (.setComputeNodeHealthState wls state)]⟩
          ⟨{ ga with healthState := m, computeNodeHealthState := state }, [.finished]⟩
        ∧ ∀ gpuid,
            m.lookup gpuid = (ga.setComputeNodeHealthState wls state).healthState.lookup gpuid := by
  by_cases hstate : ga.computeNodeHealthState = state
  . have hstep : HealthCall.step ga (.idle (.setComputeNodeHealthState wls state))
        = some (ga, .finished) := by
      simp only [HealthCall.step, hstate, if_true]
    refine ⟨ga.healthState, ?_, ?_⟩
    . rw [← hstate] at hstep ⊢
      exact .head (step_alone hstep) (.refl _)
    . simp [GPUAgentGPUClient.setComputeNodeHealthState, hstate]
  . have hstep : HealthCall.step ga (.idle (.setComputeNodeHealthState wls state))
        = some ({ ga with computeNodeHealthState := state }, .flagged wls state) := by
      simp only [HealthCall.step, hstate, if_false]
    rcases @reaches_of_flagged _ { ga with computeNodeHealthState := state } wls state with
      ⟨m, hreaches, hlookup⟩
    refine ⟨m, .head (step_alone hstep) hreaches, ?_⟩
    intro gpuid
    rw [hlookup, GPUAgentGPUClient.setComputeNodeHealthState, if_neg hstate]
    rfl

theorem reaches_processHealthValidation {time : Time} {cfg : HealthConfig} {data : HealthData}
    {err : Option HealthError} (h : ga.processHealthValidation time cfg data = some (ga', err))
    : healthSystem.Reaches ⟨ga, [.idle (.processHealthValidation time cfg data)]⟩ ⟨ga', [.finished]⟩ := by
  unfold GPUAgentGPUClient.processHealthValidation at h
  split at h
  . next hdown =>
    cases h
    have hstep : HealthCall.step ga (.idle (.processHealthValidation time cfg data))
        = some (ga, .nodeDown data.wls) := by
      simp only [HealthCall.step, hdown, if_true]
    exact .head (step_alone hstep) (.head (step_alone rfl) (.refl _))
  . next hup =>
    rcases Option.map_eq_some_iff.mp h with ⟨result, hresult, happly⟩
    have hstep : HealthCall.step ga (.idle (.processHealthValidation time cfg data))
        = some (ga, .validating time cfg data) := by
      simp only [HealthCall.step, hup]
      rfl
    have hvalidate : HealthCall.step ga (.validating time cfg data)
        = some (ga, .publishing data.wls result) := by
      simp only [HealthCall.step, hresult, Option.map_some]
    have hpublish : HealthCall.step ga (.publishing data.wls result) = some (ga', .finished) := by
      simp only [HealthCall.step, happly]
    exact .head (step_alone hstep)
      (.head (step_alone hvalidate) (.head (step_alone hpublish) (.refl _)))

theorem reaches_updateStaticMetrics {cfg : HealthConfig} {data : HealthData}
    (h : ga.updateStaticMetrics cfg data = some ga')
    : healthSystem.Reaches ⟨ga, [.idle (.updateStaticMetrics cfg data)]⟩ ⟨ga', [.finished]⟩ := by
  unfold GPUAgentGPUClient.updateStaticMetrics at h
  split at h
  . next hgpus =>
    cases h
    have hstep : HealthCall.step ga (.idle (.updateStaticMetrics cfg data)) = some (ga, .finished) := by
      simp only [HealthCall.step, hgpus]
    exact .head (step_alone hstep) (.refl _)
  . next resp hgpus =>
    split at h
    . next hstatus =>
      cases h
      have hstep : HealthCall.step ga (.idle (.updateStaticMetrics cfg data))
          = some (ga, .finished) := by
        simp only [HealthCall.step, hgpus, if_pos hstatus]
      exact .head (step_alone hstep) (.refl _)
    . next hstatus =>
      rcases Option.bind_eq_some_iff.mp h with ⟨newGPUState, hecc, hpublish⟩
      cases hpublish
      have hstep : HealthCall.step ga (.idle (.updateStaticMetrics cfg data))
          = some (ga.initGPUMetadata resp.response, .publishing data.wls (.ok newGPUState)) := by
        simp only [HealthCall.step, hgpus, if_neg hstatus, hecc, Option.map_some]
      exact .head (step_alone hstep) (.head (step_alone rfl) (.refl _))

end Alone

theorem nodeInv_step [CaseMap] (s : HealthPool) (a : HealthAction) (s' : HealthPool)
    (hinv : s.NodeInv) (hok : s.timely a = true) (hstep : healthSystem.step s a = some s')
    : s'.NodeInv := by
  intro hdown gpuid state' hstate'
  cases a with
  | start r =>
    cases hstep
    rcases hinv hdown gpuid state' hstate' with hunhealthy | ⟨c, hc, hpending⟩
    . exact .inl hunhealthy
    . exact .inr ⟨c, List.mem_append_left _ hc, hpending⟩
  | call i =>
    simp only [healthSystem, HealthPool.step] at hstep
    split at hstep
    . cases hstep
    . next c hc =>
      rcases Option.map_eq_some_iff.mp hstep with ⟨⟨client, c'⟩, hcall, hpair⟩
      cases hpair
      have htimely : s.client.computeNodeHealthState = true ∨ c.writesUnhealthy = true := by
        simpa [HealthPool.timely, hc] using hok
      have hlt : i < s.calls.length := (List.getElem?_eq_some_iff.mp hc).1
      rcases HealthCall.accounts_step hcall htimely hdown hstate' with
        hunhealthy | hpending | ⟨hwas, hnot, state, hstate, hhealth⟩
      . exact .inl hunhealthy
      . exact .inr ⟨c', List.mem_set hlt c', hpending⟩
      . rcases hinv hwas gpuid state hstate with hunhealthy | ⟨c₁, hc₁, hpending⟩
        . exact .inl (hhealth ▸ hunhealthy)
        . -- the call that is still to set the entry is another one
          rcases List.getElem?_of_mem hc₁ with ⟨j, hj⟩
          have hne : j ≠ i := by
            rintro rfl
            rw [hc, Option.some.injEq] at hj
            exact hnot (hj ▸ hpending)
          refine .inr ⟨c₁, List.mem_of_getElem? (i := j) ?_, hpending⟩
          rw [List.getElem?_set_ne (Ne.symm hne)]
          exact hj

theorem HealthPool.NodeInv.unhealthy {s : HealthPool} (hinv : s.NodeInv)
    (hsetting : s.setting = false) (hdown : s.client.computeNodeHealthState = false)
    {gpuid : String} {state : GPUState} (hstate : s.client.healthState.lookup gpuid = some state)
    : state.health = .UNHEALTHY := by
  rcases hinv hdown gpuid state hstate with hunhealthy | ⟨c, hc, hpending⟩
  . exact hunhealthy
  . have hidle := List.any_eq_false.mp hsetting c hc
    cases c with
    | flagged => simp [HealthCall.setting] at hidle
    | marking => simp [HealthCall.setting] at hidle
    | _ => exact hpending.elim

/--
In every run in which only a healthy compute node lets a step write entries that are not unhealthy, a
compute node that is down has unhealthy GPUs only, as soon as the notification has been handled.
-/
theorem unhealthy_of_timely [CaseMap] (ga : GPUAgentGPUClient) (as : List HealthAction)
    (s : HealthPool)
    (hok : healthSystem.Respects (fun s a => s.timely a = true) as
      ⟨{ ga with computeNodeHealthState := true }, []⟩)
    (hexec : healthSystem.exec as ⟨{ ga with computeNodeHealthState := true }, []⟩ = some s)
    (hsetting : s.setting = false) (hdown : s.client.computeNodeHealthState = false)
    (gpuid : String) (state : GPUState)
    (hstate : s.client.healthState.lookup gpuid = some state) : state.health = .UNHEALTHY := by
  have hinv := healthSystem.exec_invariant nodeInv_step as _ s
    (fun hdown => by cases hdown) hok hexec
  apply hinv.unhealthy hsetting hdown hstate

section Instances

def downAfterValidation : List HealthAction :=
  [.start (.processHealthValidation stoppedTime defaultHealthConfig (oneGPU [])), .call 0, .call 0,
    .call 0, .start (.updateStaticMetrics defaultHealthConfig (oneGPU [])), .call 1, .call 1,
    .start (.setComputeNodeHealthState ∅ false), .call 2, .call 2, .call 2, .call 2]

theorem unhealthy_of_timely_downAfterValidation
    : ∃ s, (@healthSystem CaseMap.ascii).exec downAfterValidation ⟨newGPUAgentGPUClient ∅, []⟩ = some s
        ∧ s.setting = false ∧ s.client.computeNodeHealthState = false ∧ "0" ∈ s.client.healthState
        ∧ ∀ gpuid state, s.client.healthState.lookup gpuid = some state →
            state.health = .UNHEALTHY := by
  let _ := CaseMap.ascii
  have hrun : ((healthSystem.exec downAfterValidation ⟨newGPUAgentGPUClient ∅, []⟩).map fun s =>
      (s.setting, s.client.computeNodeHealthState, (s.client.healthState.lookup "0").isSome))
      = some (false, false, true) := by
    decide
  rcases Option.map_eq_some_iff.mp hrun with ⟨s, hexec, hs⟩
  simp only [Prod.mk.injEq] at hs
  refine ⟨s, hexec, hs.1, hs.2.1, AList.lookup_isSome.mp hs.2.2, ?_⟩
  exact unhealthy_of_timely (newGPUAgentGPUClient ∅) downAfterValidation s (by decide) hexec hs.1
    hs.2.1

theorem not_unhealthy_while_down
    : ¬∀ (_ : CaseMap) (ga : GPUAgentGPUClient) (as : List HealthAction) (s : HealthPool),
        healthSystem.exec as ⟨{ ga with computeNodeHealthState := true }, []⟩ = some s →
        s.setting = false → s.client.computeNodeHealthState = false →
        ∀ gpuid state, s.client.healthState.lookup gpuid = some state →
          state.health = .UNHEALTHY := by
  -- the validation has found the compute node healthy, and publishes its map after the notification
  -- that it is down
  intro h
  let _ := CaseMap.ascii
  have hrun : ((healthSystem.exec
      [.start (.processHealthValidation stoppedTime defaultHealthConfig (oneGPU [])), .call 0,
        .call 0, .start (.setComputeNodeHealthState ∅ false), .call 1, .call 1, .call 1, .call 0]
      ⟨newGPUAgentGPUClient ∅, []⟩).map fun s =>
        (s.setting, s.client.computeNodeHealthState,
          (s.client.healthState.lookup "0").map GPUState.health))
      = some (false, false, some .HEALTHY) := by
    decide
  rcases Option.map_eq_some_iff.mp hrun with ⟨s, hexec, hs⟩
  simp only [Prod.mk.injEq, Option.map_eq_some_iff] at hs
  rcases hs with ⟨hsetting, hdown, state, hstate, hhealthy⟩
  have hunhealthy := h _ (newGPUAgentGPUClient ∅) _ s hexec hsetting hdown "0" state hstate
  rw [hhealthy] at hunhealthy
  cases hunhealthy

end Instances

end Interleaving

end GPUAgent
