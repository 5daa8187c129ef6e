import DeviceMetricsExporter.GPUAgent.Impl.Profiler
import DeviceMetricsExporter.Rocprofiler.Lemmas.Cache

/-!
This module contains when the profiler of an agent with SR-IOV stays off: no configuration that is
loaded may turn it on, as `InitConfigs` does not look at SR-IOV.
-/

namespace GPUAgent

open Rocprofiler

/--
The profiler is off and the profiler command was never run.
-/
structure ProfilerOff (handler : GPUHandler) (s : ProfiledClient) : Prop where
  disabled : s.isProfilerEnabled handler = false
  neverRun : s.rocpclient.shared.executions = []

def LeavesOff (handler : GPUHandler) (_ : ProfiledClient) (a : ProfiledAction) : Prop :=
  match a with
  | .initConfigs config =>
    handler.enableGPUMonitoring = true → initProfilerMetrics handler.hostName config = false
  | _ => True

instance (handler : GPUHandler) (s : ProfiledClient)
    : (a : ProfiledAction) → Decidable (LeavesOff handler s a)
  | .initConfigs _ => inferInstanceAs (Decidable (_ → _))
  | .getProfilerMetrics => .isTrue trivial
  | .call _ _ => .isTrue trivial
  | .env _ => .isTrue trivial

structure OffInv (handler : GPUHandler) (s : ProfiledClient) : Prop where
  flag : handler.enableGPUMonitoring = true → s.configs.enableProfileMetrics = false
  idle : s.rocpclient.calls = []
  neverRun : s.rocpclient.shared.executions = []

theorem isProfilerEnabled_eq_false {handler : GPUHandler} {s : ProfiledClient}
    (h : handler.enableGPUMonitoring = true → s.configs.enableProfileMetrics = false)
    : s.isProfilerEnabled handler = false := by
  unfold ProfiledClient.isProfilerEnabled GPUConfigs.isProfilerEnabled
  cases hmonitoring : handler.enableGPUMonitoring with
  | false => rfl
  | true =>
    rw [show s.latched.enableProfileMetrics = false from h hmonitoring]
    rfl

theorem OffInv.off {handler : GPUHandler} {s : ProfiledClient} (h : OffInv handler s)
    : ProfilerOff handler s where
  disabled := isProfilerEnabled_eq_false h.flag
  neverRun := h.neverRun

theorem enableProfileMetrics_initConfigs [CaseMap] {handler : GPUHandler} {ga ga' : GPUConfigs}
    {config : Option GPUMetricConfig} (h : ga.initConfigs handler config = some ga')
    : ga'.enableProfileMetrics = initProfilerMetrics handler.hostName config := by
  unfold GPUConfigs.initConfigs at h
  dsimp only at h
  split at h
  . cases h
  . cases h
    unfold GPUConfigs.initProfilerMetricsField
    split
    . rfl
    . rfl

theorem offInv_rocpStep {handler : GPUHandler} {s s' : ProfiledClient} {a : ProfilerAction}
    (hinv : OffInv handler s) (ha : ∀ r, a ≠ .start r) (h : s.rocpStep a = some s')
    : OffInv handler s' := by
  rcases Option.map_eq_some_iff.mp h with ⟨pool, hstep, rfl⟩
  rcases CallPool.step_cases hstep with ⟨r, rfl, -⟩ | ⟨i, x, c, rpc, c', -, hc, -, -⟩ |
    ⟨e, rpc, -, henv, rfl⟩
  . exact absurd rfl (ha r)
  . rw [hinv.idle] at hc
    cases hc
  . exact ⟨hinv.flag, hinv.idle, (env_cache henv).2.1.trans hinv.neverRun⟩

theorem offInv_initConfigs [CaseMap] {handler : GPUHandler} {fields : List String}
    {s s' : ProfiledClient} {config : Option GPUMetricConfig} (hinv : OffInv handler s)
    (hoff : handler.enableGPUMonitoring = true →
      initProfilerMetrics handler.hostName config = false)
    (h : s.initConfigs handler fields config = some s') : OffInv handler s' := by
  rcases Option.map_eq_some_iff.mp h with ⟨configs, hload, hs'⟩
  have hflag : handler.enableGPUMonitoring = true → configs.enableProfileMetrics = false := by
    rw [enableProfileMetrics_initConfigs hload]
    exact hoff
  have hdisabled := @isProfilerEnabled_eq_false handler { s with configs } hflag
  dsimp only at hs'
  rw [hdisabled] at hs'
  cases hs'
  exact ⟨hflag, hinv.idle, hinv.neverRun⟩

theorem offInv_step [CaseMap] (handler : GPUHandler) (fields : List String) (s : ProfiledClient)
    (a : ProfiledAction) (s' : ProfiledClient) (hinv : OffInv handler s)
    (hok : LeavesOff handler s a) (h : (profiledSystem handler fields).step s a = some s')
    : OffInv handler s' := by
  cases a with
  | initConfigs config => exact offInv_initConfigs hinv hok h
  | getProfilerMetrics =>
    simp only [profiledSystem, ProfiledClient.step, ProfiledClient.getProfilerMetrics,
      isProfilerEnabled_eq_false hinv.flag] at h
    cases h
    exact hinv
  | call i x => exact offInv_rocpStep (a := .call i x) hinv nofun h
  | env e => exact offInv_rocpStep (a := .env e) hinv nofun h

theorem offInv_new {handler : GPUHandler} (hsriov : handler.enableSriov = true) (now : Int)
    : OffInv handler (newProfiledClient handler now) where
  flag _ := by
    simp [newProfiledClient, newGPUConfigs, hsriov]
  idle := rfl
  neverRun := rfl

/--
With SR-IOV the profiler stays off and its command is never run in every run that loads no
configuration which enables it.
-/
theorem profilerOff_of_leavesOff [CaseMap] (handler : GPUHandler) (fields : List String)
    (now : Int) (as : List ProfiledAction) (s : ProfiledClient)
    (hsriov : handler.enableSriov = true)
    (hok : (profiledSystem handler fields).Respects (LeavesOff handler) as
      (newProfiledClient handler now))
    (hexec : (profiledSystem handler fields).exec as (newProfiledClient handler now) = some s)
    : ProfilerOff handler s := by
  have hinv := (profiledSystem handler fields).exec_invariant (offInv_step handler fields) as _ s
    (offInv_new hsriov now) hok hexec
  exact hinv.off

section Instances

def sriovHandler : GPUHandler where
  enableSriov := true
  enableGPUMonitoring := true
  hostName := "node"
  isCperEnabled := false

def profiling (key : String) : Option GPUMetricConfig :=
  some { profilerMetrics := (∅ : GoMap String Bool).insert key true }

def requested : List ProfiledAction :=
  .getProfilerMetrics :: [none, none, none].map (.call 0)

theorem profilerOff_of_leavesOff_otherHost
    : ∃ s, (@profiledSystem CaseMap.ascii sriovHandler ["GRBM_COUNT"]).exec
          [.initConfigs (profiling "other"), .getProfilerMetrics]
          (newProfiledClient sriovHandler 0) = some s
        ∧ ProfilerOff sriovHandler s :=
  ⟨_, rfl, @profilerOff_of_leavesOff CaseMap.ascii sriovHandler ["GRBM_COUNT"] 0
    [.initConfigs (profiling "other"), .getProfilerMetrics] _ rfl
    ⟨by decide, trivial, trivial⟩ rfl⟩

theorem not_profilerOff
    : (¬∀ [CaseMap] (handler : GPUHandler) (fields : List String) (now : Int)
          (as : List ProfiledAction) (s : ProfiledClient), handler.enableSriov = true →
          (profiledSystem handler fields).exec as (newProfiledClient handler now) = some s →
            s.isProfilerEnabled handler = false)
        ∧ ¬∀ [CaseMap] (handler : GPUHandler) (fields : List String) (now : Int)
          (as : List ProfiledAction) (s : ProfiledClient), handler.enableSriov = true →
          (profiledSystem handler fields).exec as (newProfiledClient handler now) = some s →
            s.rocpclient.shared.executions = [] := by
  constructor
  . intro h
    have hdisabled := @h CaseMap.ascii sriovHandler [] 0 [.initConfigs (profiling "all")] _ rfl rfl
    revert hdisabled
    decide
  . intro h
    have hnever := @h CaseMap.ascii sriovHandler ["GRBM_COUNT"] 0
      (.initConfigs (profiling "all") :: requested) _ rfl rfl
    revert hnever
    decide

end Instances

end GPUAgent
