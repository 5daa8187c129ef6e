import DeviceMetricsExporter.Rocprofiler.Lemmas.Client

/-!
This module contains how often the profiler command is run: executions neither overlap nor follow a
successful one too early as long as no call finds the cache stale while another one is about to fill
it.
-/

namespace Rocprofiler

open CallPool

namespace CacheCall

def isRunning : CacheCall → Bool
  | .fetching .running => true
  | _ => false

def isFetching : CacheCall → Bool
  | .fetching _ => true
  | _ => false

def carriesMetrics : CacheCall → Bool
  | .fetching (.exited (.output (some _))) | .fetching (.returned (some _)) => true
  | _ => false

theorem isFetching_of_isRunning {c : CacheCall} (h : c.isRunning = true) : c.isFetching = true := by
  unfold isRunning at h
  split at h
  . rfl
  . cases h

theorem isFetching_of_carriesMetrics {c : CacheCall} (h : c.carriesMetrics = true)
    : c.isFetching = true := by
  unfold carriesMetrics at h
  split at h
  . rfl
  . rfl
  . cases h

end CacheCall

/--
No execution was started less than `cachedTimer` after a successful one had completed.
-/
def Spaced : List Execution → Prop
  | [] => True
  | .started time :: older =>
    (∀ time', .completed time' true ∈ older → time' + cachedTimer ≤ time) ∧ Spaced older
  | .completed _ _ :: older => Spaced older

structure Disciplined (s : CallPool ROCProfilerClient CacheCall) : Prop where
  noOverlap : s.calls.countP CacheCall.isRunning ≤ 1
  spaced : Spaced s.shared.executions

/--
A call finds the cache stale only while no other call is between its own check and its update.
-/
def Exclusive (rpc : ROCProfilerClient) (others : List CacheCall) (c : CacheCall)
    (_ : Option CmdResult) : Prop :=
  c = .idle → rpc.pCache.isFresh rpc.now = true ∨ ∀ d ∈ others, d.isFetching = false

instance (rpc : ROCProfilerClient) (others : List CacheCall) (c : CacheCall) (x : Option CmdResult)
    : Decidable (Exclusive rpc others c x) :=
  inferInstanceAs (Decidable (c = .idle → _))

/--
A successful execution is long ago, or a call is about to store its metrics, or they are stored.
-/
def Accounted (s : CallPool ROCProfilerClient CacheCall) (time : Int) : Prop :=
  time + cachedTimer ≤ s.shared.now ∨
    (∃ c ∈ s.calls, c.carriesMetrics = true) ∨
    s.shared.pCache.cachedMetrics.isSome ∧ time ≤ s.shared.pCache.cacheLastRead
      ∧ s.calls.countP CacheCall.isFetching = 0

structure CacheInv (s : CallPool ROCProfilerClient CacheCall) : Prop where
  alone : s.calls.countP CacheCall.isFetching ≤ 1
  past : ∀ time success, .completed time success ∈ s.shared.executions → time ≤ s.shared.now
  spaced : Spaced s.shared.executions
  accounted : ∀ time, .completed time true ∈ s.shared.executions → Accounted s time

theorem CacheInv.perm {rpc : ROCProfilerClient} {cs ds : List CacheCall} (hinv : CacheInv ⟨rpc, cs⟩)
    (h : cs.Perm ds) : CacheInv ⟨rpc, ds⟩ where
  alone := by
    rw [← h.countP_eq]
    exact hinv.alone
  past := hinv.past
  spaced := hinv.spaced
  accounted time hmem := by
    rcases hinv.accounted time hmem with hold | ⟨c, hc, hcarries⟩ | ⟨hsome, hread, hcount⟩
    . exact .inl hold
    . exact .inr (.inl ⟨c, h.mem_iff.mp hc, hcarries⟩)
    . exact .inr (.inr ⟨hsome, hread, by rwa [← h.countP_eq]⟩)

theorem le_now_of_not_isFresh {pCache : ProfilerCache} {now : Int}
    (h : pCache.isFresh now = false) (hsome : pCache.cachedMetrics.isSome = true)
    : pCache.cacheLastRead + cachedTimer ≤ now := by
  simp only [ProfilerCache.isFresh, hsome, Bool.and_true] at h
  have hsince := of_decide_eq_false h
  simp only [GPUAgent.since, cachedTimer] at hsince ⊢
  omega

section Call

variable {rpc rpc' : ROCProfilerClient} {others : List CacheCall} {c c' : CacheCall}

theorem others_of_isFetching (hinv : CacheInv ⟨rpc, c :: others⟩) (h : c.isFetching = true)
    : others.countP CacheCall.isFetching = 0 := by
  have halone := hinv.alone
  simp only [List.countP_cons, h, if_true] at halone
  omega

theorem countP_le_one_of_others (h : others.countP CacheCall.isFetching = 0)
    : (c :: others).countP CacheCall.isFetching ≤ 1 := by
  rw [List.countP_cons, h]
  split
  . decide
  . decide

/--
While a call fetches metrics and does not carry them yet, every successful execution is long ago.
-/
theorem longAgo_of_isFetching (hinv : CacheInv ⟨rpc, c :: others⟩) (h : c.isFetching = true)
    (hcarries : c.carriesMetrics = false) (time : Int)
    (hmem : .completed time true ∈ rpc.executions) : time + cachedTimer ≤ rpc.now := by
  have hothers := List.countP_eq_zero.mp (others_of_isFetching hinv h)
  rcases hinv.accounted time hmem with hold | ⟨d, hd, hdcarries⟩ | ⟨-, -, hcount⟩
  . exact hold
  . rcases List.mem_cons.mp hd with rfl | hd
    . rw [hcarries] at hdcarries
      cases hdcarries
    . exact absurd (CacheCall.isFetching_of_carriesMetrics hdcarries) (hothers d hd)
  . simp [h] at hcount

theorem cacheInv_of_not_isFetching (hinv : CacheInv ⟨rpc, c :: others⟩)
    (h : c.isFetching = false) (h' : c'.isFetching = false) : CacheInv ⟨rpc, c' :: others⟩ where
  alone := by
    have halone := hinv.alone
    simp only [List.countP_cons, h, h'] at halone ⊢
    exact halone
  past := hinv.past
  spaced := hinv.spaced
  accounted time hmem := by
    rcases hinv.accounted time hmem with hold | ⟨d, hd, hdcarries⟩ | ⟨hsome, hread, hcount⟩
    . exact .inl hold
    . rcases List.mem_cons.mp hd with rfl | hd
      . rw [CacheCall.isFetching_of_carriesMetrics hdcarries] at h
        cases h
      . exact .inr (.inl ⟨d, List.mem_cons_of_mem c' hd, hdcarries⟩)
    . refine .inr (.inr ⟨hsome, hread, ?_⟩)
      simp only [List.countP_cons, h, h'] at hcount ⊢
      exact hcount

theorem cacheInv_stale (hinv : CacheInv ⟨rpc, .idle :: others⟩)
    (hstale : rpc.pCache.isFresh rpc.now = false) (hothers : ∀ d ∈ others, d.isFetching = false)
    : CacheInv ⟨rpc, .fetching .checking :: others⟩ where
  alone := by
    have hzero : others.countP CacheCall.isFetching = 0 := by
      rw [List.countP_eq_zero]
      intro d hd
      simp [hothers d hd]
    exact countP_le_one_of_others hzero
  past := hinv.past
  spaced := hinv.spaced
  accounted time hmem := by
    rcases hinv.accounted time hmem with hold | ⟨d, hd, hdcarries⟩ | ⟨hsome, hread, -⟩
    . exact .inl hold
    . rcases List.mem_cons.mp hd with rfl | hd
      . cases hdcarries
      . have := CacheCall.isFetching_of_carriesMetrics hdcarries
        rw [hothers d hd] at this
        cases this
    . have := le_now_of_not_isFresh hstale hsome
      exact .inl (by dsimp only at hread ⊢; omega)

theorem cacheInv_update {metrics : Option GpuProfiler}
    (hinv : CacheInv ⟨rpc, .fetching (.returned metrics) :: others⟩)
    : CacheInv ⟨{ rpc with pCache := rpc.pCache.update rpc.now metrics },
        .finished metrics :: others⟩ where
  alone := countP_le_one_of_others (others_of_isFetching hinv rfl)
  past := hinv.past
  spaced := hinv.spaced
  accounted time hmem := by
    cases metrics with
    | none => exact .inl (longAgo_of_isFetching hinv rfl rfl time hmem)
    | some gpus =>
      refine .inr (.inr ⟨rfl, hinv.past time true hmem, ?_⟩)
      rw [List.countP_cons, others_of_isFetching hinv rfl]
      rfl

theorem cacheInv_fetch {f f' : Fetch} (hinv : CacheInv ⟨rpc, .fetching f :: others⟩)
    (hexecs : rpc'.executions = rpc.executions) (hnow : rpc'.now = rpc.now)
    (hcarries : (CacheCall.fetching f).carriesMetrics = true →
      (CacheCall.fetching f').carriesMetrics = true)
    : CacheInv ⟨rpc', .fetching f' :: others⟩ where
  alone := countP_le_one_of_others (others_of_isFetching hinv rfl)
  past := by
    simp only [hexecs, hnow]
    exact hinv.past
  spaced := by
    simp only [hexecs]
    exact hinv.spaced
  accounted time hmem := by
    simp only [hexecs] at hmem
    cases hf : (CacheCall.fetching f).carriesMetrics with
    | true => exact .inr (.inl ⟨_, List.mem_cons_self, hcarries hf⟩)
    | false =>
      have := longAgo_of_isFetching hinv rfl hf time hmem
      exact .inl (by simp only [hnow]; exact this)

theorem cacheInv_started (hinv : CacheInv ⟨rpc, .fetching .ready :: others⟩)
    : CacheInv ⟨rpc.recordExecution (.started rpc.now), .fetching .running :: others⟩ where
  alone := countP_le_one_of_others (others_of_isFetching hinv rfl)
  past time success hmem := by
    apply hinv.past time success
    simpa [ROCProfilerClient.recordExecution] using hmem
  spaced := ⟨longAgo_of_isFetching hinv rfl rfl, hinv.spaced⟩
  accounted time hmem := by
    apply Or.inl
    apply longAgo_of_isFetching hinv rfl rfl time
    simpa [ROCProfilerClient.recordExecution] using hmem

theorem cacheInv_completed {result : CmdResult}
    (hinv : CacheInv ⟨rpc, .fetching .running :: others⟩)
    : CacheInv ⟨rpc.recordExecution (.completed rpc.now result.success),
        .fetching (.exited result) :: others⟩ where
  alone := countP_le_one_of_others (others_of_isFetching hinv rfl)
  past time success hmem := by
    rcases List.mem_cons.mp hmem with heq | hmem
    . cases heq
      exact Int.le_refl rpc.now
    . exact hinv.past time success hmem
  spaced := hinv.spaced
  accounted time hmem := by
    rcases List.mem_cons.mp hmem with heq | hmem
    . -- the execution that has just completed, its metrics are still to be stored
      have hsuccess : result.success = true := by
        injection heq with _ h
        exact h.symm
      refine .inr (.inl ⟨_, List.mem_cons_self, ?_⟩)
      unfold CmdResult.success at hsuccess
      split at hsuccess
      . rfl
      . cases hsuccess
    . exact .inl (longAgo_of_isFetching hinv rfl rfl time hmem)

theorem carriesMetrics_recordResult {result : CmdResult}
    (h : (CacheCall.fetching (.exited result)).carriesMetrics = true)
    : (CacheCall.fetching (.returned (rpc.recordResult result).2)).carriesMetrics = true := by
  cases result with
  | output gpus =>
    cases gpus with
    | none => cases h
    | some gpus => rfl
  | _ => cases h

@[simp]
theorem recordResult_now (result : CmdResult) : (rpc.recordResult result).1.now = rpc.now := by
  unfold ROCProfilerClient.recordResult ROCProfilerClient.incFailureCount
    ROCProfilerClient.setFatalFailureState ROCProfilerClient.spawnEmit
  grind

@[simp]
theorem recordResult_executions (result : CmdResult)
    : (rpc.recordResult result).1.executions = rpc.executions := by
  unfold ROCProfilerClient.recordResult ROCProfilerClient.incFailureCount
    ROCProfilerClient.setFatalFailureState ROCProfilerClient.spawnEmit
  grind

theorem cacheInv_getMetrics {f f' : Fetch} {x : Option CmdResult}
    (hinv : CacheInv ⟨rpc, .fetching f :: others⟩) (hget : getMetrics rpc f x = some (rpc', f'))
    : CacheInv ⟨rpc', .fetching f' :: others⟩ := by
  rcases getMetrics_cases hget with ⟨rfl, rfl, -⟩ | ⟨rfl, rfl, rfl⟩ | ⟨result, rfl, rfl, rfl⟩ |
    ⟨result, rfl, rfl, rfl⟩
  . apply cacheInv_fetch hinv rfl rfl
    intro hcarries
    cases hcarries
  . exact cacheInv_started hinv
  . exact cacheInv_completed hinv
  . exact cacheInv_fetch hinv (recordResult_executions result) (recordResult_now result)
      carriesMetrics_recordResult

theorem cacheInv_call {x : Option CmdResult} (hinv : CacheInv ⟨rpc, c :: others⟩)
    (hok : Exclusive rpc others c x) (hcall : cacheMetrics rpc c x = some (rpc', c'))
    : CacheInv ⟨rpc', c' :: others⟩ := by
  rcases cacheMetrics_cases hcall with ⟨rfl, -, rfl, rfl⟩ | ⟨rfl, hstale, rfl, rfl⟩ |
    ⟨rfl, rfl, rfl⟩ | ⟨metrics, rfl, rfl, rfl⟩ | ⟨f, f', rfl, rfl, hget⟩
  . exact cacheInv_of_not_isFetching hinv rfl rfl
  . apply cacheInv_stale hinv hstale
    rcases hok rfl with hfresh | hothers
    . rw [hfresh] at hstale
      cases hstale
    . exact hothers
  . exact cacheInv_of_not_isFetching hinv rfl rfl
  . exact cacheInv_update hinv
  . exact cacheInv_getMetrics hinv hget

end Call

theorem env_cache {rpc rpc' : ROCProfilerClient} {e : ProfilerEnv} (h : rpc.env e = some rpc')
    : rpc.now ≤ rpc'.now ∧ rpc'.executions = rpc.executions
        ∧ rpc'.pCache.cachedMetrics = rpc.pCache.cachedMetrics
        ∧ rpc'.pCache.cacheLastRead = rpc.pCache.cacheLastRead := by
  cases e with
  | elapse d =>
    cases h
    refine ⟨?_, rfl, rfl, rfl⟩
    dsimp only
    omega
  | emit i =>
    simp only [ROCProfilerClient.env] at h
    split at h
    . cases h
    . cases h
      exact ⟨Int.le_refl _, rfl, rfl, rfl⟩
  | close =>
    cases h
    exact ⟨Int.le_refl _, rfl, rfl, rfl⟩

theorem cacheInv_env {rpc rpc' : ROCProfilerClient} {cs : List CacheCall} {e : ProfilerEnv}
    (hinv : CacheInv ⟨rpc, cs⟩) (h : rpc.env e = some rpc') : CacheInv ⟨rpc', cs⟩ := by
  rcases env_cache h with ⟨hnow, hexecs, hmetrics, hread⟩
  refine ⟨hinv.alone, ?_, ?_, ?_⟩
  . intro time success hmem
    dsimp only at hmem
    rw [hexecs] at hmem
    exact Int.le_trans (hinv.past time success hmem) hnow
  . dsimp only
    rw [hexecs]
    exact hinv.spaced
  . intro time hmem
    dsimp only at hmem
    rw [hexecs] at hmem
    rcases hinv.accounted time hmem with hold | hcarries | ⟨hsome, htime, hcount⟩
    . exact .inl (Int.le_trans hold hnow)
    . exact .inr (.inl hcarries)
    . refine .inr (.inr ⟨?_, ?_, hcount⟩)
      . rwa [hmetrics]
      . rwa [hread]

theorem cacheInv_start {rpc : ROCProfilerClient} {cs : List CacheCall} (hinv : CacheInv ⟨rpc, cs⟩)
    : CacheInv ⟨rpc, cs ++ [.idle]⟩ where
  alone := by
    simp only [List.countP_append]
    exact hinv.alone
  past := hinv.past
  spaced := hinv.spaced
  accounted time hmem := by
    rcases hinv.accounted time hmem with hold | ⟨c, hc, hcarries⟩ | ⟨hsome, htime, hcount⟩
    . exact .inl hold
    . exact .inr (.inl ⟨c, List.mem_append_left _ hc, hcarries⟩)
    . refine .inr (.inr ⟨hsome, htime, ?_⟩)
      simp only [List.countP_append]
      exact hcount

theorem cacheInv_step (s : CallPool ROCProfilerClient CacheCall) (a : ProfilerAction)
    (s' : CallPool ROCProfilerClient CacheCall) (hinv : CacheInv s) (hok : s.OnCall Exclusive a)
    (hstep : cacheSystem.step s a = some s') : CacheInv s' := by
  rcases step_cases hstep with ⟨r, -, rfl⟩ | ⟨i, x, c, rpc, c', rfl, hc, hcall, rfl⟩ |
    ⟨e, rpc, rfl, henv, rfl⟩
  . exact cacheInv_start hinv
  . -- neither the invariant nor the condition depends on the order of the calls, the one that takes
    -- the step is moved to the front
    have hexclusive : Exclusive s.shared (s.calls.eraseIdx i) c x := by
      simpa [OnCall, hc] using hok
    have hfront : CacheInv ⟨s.shared, c :: s.calls.eraseIdx i⟩ := hinv.perm (calls_perm hc)
    exact (cacheInv_call hfront hexclusive hcall).perm (calls_set_perm hc c').symm
  . exact cacheInv_env hinv henv

theorem CacheInv.disciplined {s : CallPool ROCProfilerClient CacheCall} (hinv : CacheInv s)
    : Disciplined s where
  noOverlap := by
    apply Nat.le_trans _ hinv.alone
    apply List.countP_mono_left
    intro c _ hrunning
    exact CacheCall.isFetching_of_isRunning hrunning
  spaced := hinv.spaced

def newCachePool (metricFields : List String) (now : Int) : CallPool ROCProfilerClient CacheCall :=
  ⟨newRocProfilerClient metricFields now, []⟩

theorem cacheInv_new (metricFields : List String) (now : Int)
    : CacheInv (newCachePool metricFields now) where
  alone := Nat.zero_le 1
  past _ _ hmem := by cases hmem
  spaced := trivial
  accounted _ hmem := by cases hmem

/--
Executions of the command do not overlap and keep their distance in every run in which a call finds
the cache stale only while no other call is about to fill it.
-/
theorem disciplined_of_exclusive (metricFields : List String) (now : Int)
    (as : List ProfilerAction) (s : CallPool ROCProfilerClient CacheCall)
    (hok : cacheSystem.Respects (OnCall Exclusive) as (newCachePool metricFields now))
    (hexec : cacheSystem.exec as (newCachePool metricFields now) = some s) : Disciplined s := by
  have hinv := cacheSystem.exec_invariant cacheInv_step as _ s (cacheInv_new metricFields now) hok
    hexec
  exact hinv.disciplined

section Instances

def callSteps (i : Nat) (xs : List (Option CmdResult)) : List ProfilerAction :=
  xs.map (.call i)

def successfulCall (i : Nat) : List ProfilerAction :=
  .start () :: callSteps i [none, none, none, some (.output (some ⟨[]⟩)), none, none]

def spacedCalls : List ProfilerAction :=
  successfulCall 0 ++ [.start (), .call 1 none, .call 1 none, .env (.elapse 10000000000)]
    ++ successfulCall 2

theorem disciplined_of_exclusive_spacedCalls
    : ∃ s, cacheSystem.exec spacedCalls (newCachePool ["f"] 0) = some s
        ∧ s.shared.executions = [.completed 10000000000 true, .started 10000000000,
            .completed 0 true, .started 0]
        ∧ Disciplined s :=
  ⟨_, rfl, rfl, disciplined_of_exclusive ["f"] 0 spacedCalls _ (by decide) rfl⟩

theorem not_disciplined
    : (¬∀ (metricFields : List String) (now : Int) (as : List ProfilerAction)
          (s : CallPool ROCProfilerClient CacheCall),
          cacheSystem.exec as (newCachePool metricFields now) = some s →
            s.calls.countP CacheCall.isRunning ≤ 1)
        ∧ ¬∀ (metricFields : List String) (now : Int) (as : List ProfilerAction)
          (s : CallPool ROCProfilerClient CacheCall),
          cacheSystem.exec as (newCachePool metricFields now) = some s →
            Spaced s.shared.executions := by
  constructor
  . -- both calls find the cache empty before either of them fills it
    intro h
    have hcount := h ["f"] 0
      ([.start (), .start ()] ++ callSteps 0 [none, none, none] ++ callSteps 1 [none, none, none]) _
      rfl
    revert hcount
    decide
  . -- the second call found the cache empty before the first one filled it
    intro h
    have hspaced := h ["f"] 0
      ([.start (), .start ()] ++ callSteps 1 [none, none]
        ++ callSteps 0 [none, none, none, some (.output (some ⟨[]⟩)), none, none]
        ++ callSteps 1 [none]) _ rfl
    have hearly := hspaced.1 0 (by decide)
    revert hearly
    decide

end Instances

end Rocprofiler
