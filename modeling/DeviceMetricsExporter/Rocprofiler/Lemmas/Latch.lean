import DeviceMetricsExporter.Rocprofiler.Lemmas.Client

/-!
This module contains when a profiler that was disabled stays disabled and says so only once: calls
that were under way when it was disabled must not record a success or a second cause.
-/

namespace Rocprofiler

open CallPool

namespace ROCProfilerClient

def disabled (rpc : ROCProfilerClient) : Bool :=
  rpc.pCache.isDisabledOnFailure

def events (rpc : ROCProfilerClient) : Nat :=
  rpc.spawned.length + rpc.emitted.length

/--
The result changes nothing about a profiler that is disabled: neither does it enable the profiler
again nor is it the first to reach the threshold or the first crash.
-/
def settled (rpc : ROCProfilerClient) (result : CmdResult) : Bool :=
  !rpc.disabled ||
    match result with
    | .canceled => true
    | .output (some _) => false
    | .error err =>
      if isCrash err then
        rpc.pCache.fatalFailure
      else
        rpc.pCache.consecutiveFailures + 1 ≠ failThreshold
    | .deadlineExceeded | .output none => rpc.pCache.consecutiveFailures + 1 ≠ failThreshold

/--
Nothing is reported before the profiler is disabled, and only one event after it.
-/
structure Latched (rpc : ROCProfilerClient) : Prop where
  quiet : rpc.disabled = false → rpc.events = 0
  once : rpc.events ≤ 1

@[simp]
theorem incFailureCount_consecutiveFailures (rpc : ROCProfilerClient)
    : rpc.incFailureCount.pCache.consecutiveFailures = rpc.pCache.consecutiveFailures + 1 := by
  unfold incFailureCount
  dsimp only
  split
  . rfl
  . rfl

@[simp]
theorem incFailureCount_fatalFailure (rpc : ROCProfilerClient)
    : rpc.incFailureCount.pCache.fatalFailure = rpc.pCache.fatalFailure := by
  unfold incFailureCount
  dsimp only
  split
  . rfl
  . rfl

theorem disabled_incFailureCount {rpc : ROCProfilerClient} (h : rpc.disabled = true)
    : rpc.incFailureCount.disabled = true := by
  simp only [disabled, ProfilerCache.isDisabledOnFailure, Bool.or_eq_true, decide_eq_true_eq,
    incFailureCount_consecutiveFailures, incFailureCount_fatalFailure] at h ⊢
  rcases h with hfatal | hcount
  . exact .inl hfatal
  . exact .inr (by omega)

theorem latched_incFailureCount {rpc : ROCProfilerClient} (hinv : rpc.Latched)
    (h : rpc.disabled = false ∨ rpc.pCache.consecutiveFailures + 1 ≠ failThreshold)
    : rpc.incFailureCount.Latched := by
  by_cases heq : rpc.pCache.consecutiveFailures + 1 = failThreshold
  . have hzero : rpc.events = 0 := hinv.quiet (h.resolve_right (not_not.mpr heq))
    constructor
    . intro hdisabled
      simp [disabled, ProfilerCache.isDisabledOnFailure, heq] at hdisabled
    . simp only [events] at hzero
      simp only [incFailureCount, heq, if_true, events, spawnEmit, List.length_append,
        List.length_singleton]
      omega
  . have hevents : rpc.incFailureCount.events = rpc.events := by
      simp only [incFailureCount, heq, if_false]
      rfl
    constructor
    . intro hdisabled
      rw [hevents]
      apply hinv.quiet
      simp only [disabled, ProfilerCache.isDisabledOnFailure, Bool.or_eq_false_iff,
        decide_eq_false_iff_not, incFailureCount_consecutiveFailures,
        incFailureCount_fatalFailure] at hdisabled ⊢
      exact ⟨hdisabled.1, by omega⟩
    . rw [hevents]
      exact hinv.once

theorem disabled_setFatalFailureState (rpc : ROCProfilerClient)
    : rpc.setFatalFailureState.disabled = true := by
  unfold setFatalFailureState
  dsimp only
  split
  . rfl
  . rfl

theorem latched_setFatalFailureState {rpc : ROCProfilerClient} (hinv : rpc.Latched)
    (h : rpc.disabled = false ∨ rpc.pCache.fatalFailure = true)
    : rpc.setFatalFailureState.Latched := by
  refine ⟨fun hdisabled => by simp [disabled_setFatalFailureState] at hdisabled, ?_⟩
  unfold setFatalFailureState
  dsimp only
  split
  . exact hinv.once
  . next hfatal =>
    have hzero : rpc.events = 0 := hinv.quiet (h.resolve_right hfatal)
    simp only [events] at hzero
    simp only [events, spawnEmit, List.length_append, List.length_singleton]
    omega

theorem latched_resetFailureCount {rpc : ROCProfilerClient} (hinv : rpc.Latched)
    (h : rpc.disabled = false) : { rpc with pCache := rpc.pCache.resetFailureCount }.Latched where
  quiet _ := hinv.quiet h
  once := hinv.once

theorem disabled_recordResult {rpc : ROCProfilerClient} {result : CmdResult}
    (hsettled : rpc.settled result = true) (h : rpc.disabled = true)
    : (rpc.recordResult result).1.disabled = true := by
  cases result with
  | deadlineExceeded => exact disabled_incFailureCount h
  | canceled => exact h
  | error err =>
    simp only [recordResult]
    split
    . apply disabled_setFatalFailureState
    . apply disabled_incFailureCount h
  | output gpus =>
    cases gpus with
    | none => exact disabled_incFailureCount h
    | some gpus => simp [settled, h] at hsettled

theorem latched_recordResult {rpc : ROCProfilerClient} {result : CmdResult} (hinv : rpc.Latched)
    (hsettled : rpc.settled result = true) : (rpc.recordResult result).1.Latched := by
  simp only [settled, Bool.or_eq_true, Bool.not_eq_true'] at hsettled
  cases result with
  | deadlineExceeded =>
    apply latched_incFailureCount hinv
    simpa using hsettled
  | canceled => exact hinv
  | error err =>
    simp only [recordResult]
    split
    . next hcrash =>
      apply latched_setFatalFailureState hinv
      simpa [hcrash] using hsettled
    . next hcrash =>
      apply latched_incFailureCount hinv
      simpa [hcrash] using hsettled
  | output gpus =>
    cases gpus with
    | none =>
      apply latched_incFailureCount hinv
      simpa using hsettled
    | some gpus =>
      apply latched_resetFailureCount hinv
      simpa using hsettled

end ROCProfilerClient

def Fetch.settles (rpc : ROCProfilerClient) : Fetch → Bool
  | .exited result => rpc.settled result
  | _ => true

/--
`Close` is not called, and no call records a result that matters to a profiler that is disabled.
-/
def Orderly (s : CallPool ROCProfilerClient Fetch) (a : ProfilerAction) : Prop :=
  a ≠ .env .close ∧ s.OnCall (fun rpc _ f _ => f.settles rpc = true) a

instance (s : CallPool ROCProfilerClient Fetch) (a : ProfilerAction) : Decidable (Orderly s a) :=
  match a with
  | .env .close => .isFalse fun h => h.1 rfl
  | .start _ => .isTrue ⟨nofun, trivial⟩
  | .env (.elapse _) => .isTrue ⟨nofun, trivial⟩
  | .env (.emit _) => .isTrue ⟨nofun, trivial⟩
  | .call i x =>
    decidable_of_iff (s.OnCall (fun rpc _ f _ => f.settles rpc = true) (.call i x : ProfilerAction))
      ⟨fun h => ⟨nofun, h⟩, fun h => h.2⟩

theorem env_of_ne_close {rpc rpc' : ROCProfilerClient} {e : ProfilerEnv} (he : e ≠ .close)
    (h : rpc.env e = some rpc') : rpc'.pCache = rpc.pCache ∧ rpc'.events = rpc.events := by
  cases e with
  | elapse d =>
    cases h
    exact ⟨rfl, rfl⟩
  | emit i =>
    simp only [ROCProfilerClient.env] at h
    split at h
    . cases h
    . next event hevent =>
      cases h
      have hlt := (List.getElem?_eq_some_iff.mp hevent).1
      refine ⟨rfl, ?_⟩
      simp only [ROCProfilerClient.events, List.length_eraseIdx_of_lt hlt, List.length_cons]
      omega
  | close => contradiction

theorem ROCProfilerClient.Latched.congr {rpc rpc' : ROCProfilerClient} (h : rpc.Latched)
    (hcache : rpc'.pCache = rpc.pCache) (hevents : rpc'.events = rpc.events) : rpc'.Latched where
  quiet hdisabled := by
    rw [hevents]
    apply h.quiet
    rwa [disabled, ← hcache]
  once := hevents ▸ h.once

theorem step_shared {s s' : CallPool ROCProfilerClient Fetch} {a : ProfilerAction}
    (hok : Orderly s a) (hstep : fetchSystem.step s a = some s')
    : (s'.shared.pCache = s.shared.pCache ∧ s'.shared.events = s.shared.events) ∨
      ∃ result, s.shared.settled result = true ∧ s'.shared = (s.shared.recordResult result).1 := by
  rcases step_cases hstep with ⟨r, -, rfl⟩ | ⟨i, x, f, rpc, f', rfl, hf, hcall, rfl⟩ |
    ⟨e, rpc, rfl, henv, rfl⟩
  . exact .inl ⟨rfl, rfl⟩
  . have hsettles : f.settles s.shared = true := by
      simpa [OnCall, hf] using hok.2
    rcases getMetrics_cases hcall with ⟨-, rfl, -⟩ | ⟨-, rfl, -⟩ | ⟨result, -, -, rfl⟩ |
      ⟨result, rfl, -, rfl⟩
    . exact .inl ⟨rfl, rfl⟩
    . exact .inl ⟨rfl, rfl⟩
    . exact .inl ⟨rfl, rfl⟩
    . exact .inr ⟨result, hsettles, rfl⟩
  . apply Or.inl
    apply env_of_ne_close _ henv
    rintro rfl
    exact hok.1 rfl

theorem latched_step (s : CallPool ROCProfilerClient Fetch) (a : ProfilerAction)
    (s' : CallPool ROCProfilerClient Fetch) (hinv : s.shared.Latched) (hok : Orderly s a)
    (hstep : fetchSystem.step s a = some s') : s'.shared.Latched := by
  rcases step_shared hok hstep with ⟨hcache, hevents⟩ | ⟨result, hsettled, hshared⟩
  . exact hinv.congr hcache hevents
  . rw [hshared]
    apply ROCProfilerClient.latched_recordResult hinv hsettled

theorem disabled_step (s : CallPool ROCProfilerClient Fetch) (a : ProfilerAction)
    (s' : CallPool ROCProfilerClient Fetch) (hdisabled : s.shared.disabled = true)
    (hok : Orderly s a) (hstep : fetchSystem.step s a = some s') : s'.shared.disabled = true := by
  rcases step_shared hok hstep with ⟨hcache, -⟩ | ⟨result, hsettled, hshared⟩
  . rwa [ROCProfilerClient.disabled, hcache]
  . rw [hshared]
    apply ROCProfilerClient.disabled_recordResult hsettled hdisabled

def newPool (metricFields : List String) (now : Int) : CallPool ROCProfilerClient Fetch :=
  ⟨newRocProfilerClient metricFields now, []⟩

/--
Along the run `cs` a profiler that is disabled stays disabled, and from the step that disables it on
the emitter is invoked at most once.
-/
structure DisableLatch (s₀ : CallPool ROCProfilerClient Fetch) (cs : List ProfilerAction)
    : Prop where
  stays : ∀ as bs s s', cs = as ++ bs → fetchSystem.exec as s₀ = some s →
    fetchSystem.exec bs s = some s' → s.shared.disabled = true → s'.shared.disabled = true
  emitsOnce : ∀ as bs s s', cs = as ++ bs → fetchSystem.exec as s₀ = some s →
    s.shared.disabled = false → fetchSystem.Achieves (fun _ t => t.shared.disabled = true) bs s →
      fetchSystem.exec bs s = some s' →
        s'.shared.emitted.length ≤ s.shared.emitted.length + 1

/--
In every run without `Close` in which the calls under way when the profiler is disabled record
nothing that matters, the profiler stays disabled and reports it once.
-/
theorem disableLatch_of_orderly (metricFields : List String) (now : Int) (cs : List ProfilerAction)
    (hok : fetchSystem.Respects Orderly cs (newPool metricFields now))
    : DisableLatch (newPool metricFields now) cs where
  stays as bs s s' hcs has hbs hdisabled := by
    subst hcs
    apply fetchSystem.exec_invariant disabled_step bs s s' hdisabled
      (TransitionSystem.Respects.append_right _ hok has) hbs
  emitsOnce as bs s s' hcs has _ _ hbs := by
    subst hcs
    have hnew : (newPool metricFields now).shared.Latched := ⟨fun _ => rfl, Nat.zero_le 1⟩
    have hs := fetchSystem.exec_invariant latched_step as _ s hnew
      (TransitionSystem.Respects.append_left _ hok) has
    have hs' := fetchSystem.exec_invariant latched_step bs s s' hs
      (TransitionSystem.Respects.append_right _ hok has) hbs
    have honce := hs'.once
    simp only [ROCProfilerClient.events] at honce
    omega

section Instances

def inFlight (n : Nat) : List ProfilerAction :=
  (List.replicate n (.start ())) ++
    (List.range n).flatMap fun i => [.call i none, .call i none]

def records (i : Nat) (result : CmdResult) : List ProfilerAction :=
  [.call i (some result), .call i none]

def failingCalls : List ProfilerAction :=
  inFlight 3 ++ records 0 .deadlineExceeded ++ records 1 .deadlineExceeded
    ++ records 2 (.error "exit status 1") ++ [.env (.emit 0), .start (), .call 3 none]

theorem disableLatch_of_orderly_failingCalls
    : (∃ s, fetchSystem.exec failingCalls (newPool ["f"] 0) = some s ∧ s.shared.disabled = true
          ∧ s.shared.emitted.length = 1)
        ∧ DisableLatch (newPool ["f"] 0) failingCalls := by
  constructor
  . exact ⟨_, rfl, by decide, by decide⟩
  . apply disableLatch_of_orderly ["f"] 0 failingCalls
    decide

theorem not_disableLatch
    : (¬∀ (metricFields : List String) (now : Int) (as bs : List ProfilerAction)
          (s s' : CallPool ROCProfilerClient Fetch), .env .close ∉ as ++ bs →
          fetchSystem.exec as (newPool metricFields now) = some s →
          fetchSystem.exec bs s = some s' → s.shared.disabled = true → s'.shared.disabled = true)
        ∧ ¬∀ (metricFields : List String) (now : Int) (as bs : List ProfilerAction)
          (s s' : CallPool ROCProfilerClient Fetch), .env .close ∉ as ++ bs →
          fetchSystem.exec as (newPool metricFields now) = some s → s.shared.disabled = false →
          fetchSystem.Achieves (fun _ t => t.shared.disabled = true) bs s →
          fetchSystem.exec bs s = some s' →
            s'.shared.emitted.length ≤ s.shared.emitted.length + 1 := by
  constructor
  . -- three calls that fail disable the profiler, the success of a fourth one that was under way
    -- enables it again
    intro h
    have hdisabled := h ["f"] 0
      (inFlight 4 ++ records 0 .deadlineExceeded ++ records 1 .deadlineExceeded
        ++ records 2 .deadlineExceeded)
      (records 3 (.output (some ⟨[]⟩))) _ _ (by simp [inFlight, records]) rfl rfl (by decide)
    revert hdisabled
    decide
  . -- three calls that fail disable the profiler, the crash of a fourth one that was under way is
    -- reported as well
    intro h
    have honce := h ["f"] 0
      (inFlight 4 ++ records 0 .deadlineExceeded ++ records 1 .deadlineExceeded
        ++ [.call 2 (some .deadlineExceeded), .call 3 (some (.error "signal: aborted"))])
      [.call 2 none, .call 3 none, .env (.emit 0), .env (.emit 0)] _ _
      (by simp [inFlight, records]) rfl (by decide)
      ⟨_, rfl, by decide, _, rfl, by decide, _, rfl, by decide, _, rfl, by decide, trivial⟩ rfl
    revert honce
    decide

end Instances

end Rocprofiler
