import DeviceMetricsExporter.Lib.CallPool
import DeviceMetricsExporter.GPUAgent.Impl.Health

/-!
This module contains the client of the profiler: the cache of its metrics, the failures after which
it is disabled, and the command `rocpctl` that a call runs while it holds no lock. Each section under
the lock of `profilerCache` is a step of its own.
-/

namespace Rocprofiler

open GPUAgent (since)

structure GpuMetric where
  drmRenderId : String
  metrics : List (String × String)
  deriving DecidableEq

structure GpuProfiler where
  gpuMetrics : List GpuMetric
  deriving DecidableEq

structure ProfilerCache where
  cachedMetrics : Option GpuProfiler := none
  cacheLastRead : Int := 0
  consecutiveFailures : Nat := 0
  fatalFailure : Bool := false
  disabledReason : String := ""
  deriving DecidableEq

def cachedTimer : Int := 10 * 1000000000

def failThreshold : Nat := 3

def disabledReasonConsecutive : String :=
  "rocpctl failed " ++ failThreshold.repr ++ " consecutive times (timeouts or non-crash errors)"

def disabledReasonCrash : String := "rocpctl process core dumped/aborted"

def disabledMessage (reason : String) : String :=
  "GPU profiler metrics (gpu_prof_*) disabled: " ++ reason ++ ". Restart the pod to re-enable."

structure Event where
  reason : String
  msg : String
  deriving DecidableEq

/--
How `rocpctl` ends, in the order in which `getMetrics` asks: its context first, then its error, then
its output, with `none` for an output that `json.Unmarshal` rejects.
-/
inductive CmdResult where
  | deadlineExceeded
  | canceled
  | error (err : String)
  | output (gpus : Option GpuProfiler)
  deriving DecidableEq

inductive Execution where
  | started (time : Int)
  | completed (time : Int) (success : Bool)
  deriving DecidableEq

/--
The client and what surrounds it: the clock, the goroutines that are still to invoke the emitter, the
events it was invoked with, and the executions of `rocpctl`, latest first.
-/
structure ROCProfilerClient where
  metricFields : List String
  pCache : ProfilerCache
  now : Int
  spawned : List Event
  emitted : List Event
  executions : List Execution
  deriving DecidableEq

def newRocProfilerClient (metricFields : List String) (now : Int) : ROCProfilerClient where
  metricFields := metricFields
  pCache := {}
  now := now
  spawned := []
  emitted := []
  executions := []

namespace ProfilerCache

def resetFailureCount (pCache : ProfilerCache) : ProfilerCache :=
  { pCache with
    consecutiveFailures := 0
    fatalFailure := false
    disabledReason := "" }

def isDisabledOnFailure (pCache : ProfilerCache) : Bool :=
  pCache.fatalFailure || failThreshold ≤ pCache.consecutiveFailures

def isFresh (pCache : ProfilerCache) (now : Int) : Bool :=
  since now pCache.cacheLastRead < cachedTimer && pCache.cachedMetrics.isSome

def update (pCache : ProfilerCache) (now : Int) (metrics : Option GpuProfiler) : ProfilerCache :=
  { pCache with
    cacheLastRead := now
    cachedMetrics := metrics }

end ProfilerCache

def contains (s substr : String) : Bool :=
  s.toList.tails.any substr.toList.isPrefixOf

def isCrash (err : String) : Bool :=
  contains err "dumped" || contains err "aborted"

namespace ROCProfilerClient

def spawnEmit (rpc : ROCProfilerClient) (reason : String) : ROCProfilerClient :=
  { rpc with spawned := rpc.spawned ++ [⟨reason, disabledMessage reason⟩] }

def incFailureCount (rpc : ROCProfilerClient) : ROCProfilerClient :=
  let pCache := { rpc.pCache with consecutiveFailures := rpc.pCache.consecutiveFailures + 1 }
  if pCache.consecutiveFailures = failThreshold then
    let pCache := { pCache with disabledReason := disabledReasonConsecutive }
    { rpc with pCache }.spawnEmit disabledReasonConsecutive
  else
    { rpc with pCache }

def setFatalFailureState (rpc : ROCProfilerClient) : ROCProfilerClient :=
  let alreadyFatal := rpc.pCache.fatalFailure
  let pCache :=
    { rpc.pCache with
      fatalFailure := true
      disabledReason := disabledReasonCrash }
  if alreadyFatal then { rpc with pCache } else { rpc with pCache }.spawnEmit disabledReasonCrash

def recordResult (rpc : ROCProfilerClient) (result : CmdResult)
    : ROCProfilerClient × Option GpuProfiler :=
  -- The part of `getMetrics` after the command has ended, the second component is what it returns
  -- with `none` for an error.
  match result with
  | .deadlineExceeded => (rpc.incFailureCount, none)
  | .canceled => (rpc, none)
  | .error err =>
    if isCrash err then (rpc.setFatalFailureState, none) else (rpc.incFailureCount, none)
  | .output none => (rpc.incFailureCount, none)
  | .output (some gpus) => ({ rpc with pCache := rpc.pCache.resetFailureCount }, some gpus)

def recordExecution (rpc : ROCProfilerClient) (e : Execution) : ROCProfilerClient :=
  { rpc with executions := e :: rpc.executions }

end ROCProfilerClient

def CmdResult.success : CmdResult → Bool
  | .output (some _) => true
  | _ => false

/--
Where a call of `getMetrics` is. `ready` has found the profiler enabled and is about to run the
command.
-/
inductive Fetch where
  | checking
  | ready
  | running
  | exited (result : CmdResult)
  | returned (metrics : Option GpuProfiler)
  deriving DecidableEq

def getMetrics (rpc : ROCProfilerClient) (f : Fetch) (x : Option CmdResult)
    : Option (ROCProfilerClient × Fetch) :=
  match f, x with
  | .checking, none =>
    if rpc.pCache.isDisabledOnFailure then
      some (rpc, .returned none)
    else if rpc.metricFields = [] then
      some (rpc, .returned (some ⟨[]⟩))
    else
      some (rpc, .ready)
  | .ready, none => some (rpc.recordExecution (.started rpc.now), .running)
  | .running, some result =>
    some (rpc.recordExecution (.completed rpc.now result.success), .exited result)
  | .exited result, none =>
    let (rpc, metrics) := rpc.recordResult result
    some (rpc, .returned metrics)
  | _, _ => none

/--
Where a call of `GetMetrics` is, that is in `cacheMetrics`. `fresh` has found the cache fresh and
reads it again after it has released the lock.
-/
inductive CacheCall where
  | idle
  | fresh
  | fetching (f : Fetch)
  | finished (metrics : Option GpuProfiler)
  deriving DecidableEq

def cacheMetrics (rpc : ROCProfilerClient) (c : CacheCall) (x : Option CmdResult)
    : Option (ROCProfilerClient × CacheCall) :=
  match c with
  | .idle =>
    if rpc.pCache.isFresh rpc.now then
      some (rpc, .fresh)
    else
      some (rpc, .fetching .checking)
  | .fresh => some (rpc, .finished rpc.pCache.cachedMetrics)
  | .fetching (.returned metrics) =>
    some ({ rpc with pCache := rpc.pCache.update rpc.now metrics }, .finished metrics)
  | .fetching f => (getMetrics rpc f x).map fun (rpc, f) => (rpc, .fetching f)
  | .finished _ => none

/--
`elapse d` is the passing of time, `emit i` a goroutine that invokes the emitter, and `close` the
`ResetFailureCount` of `Close`.
-/
inductive ProfilerEnv where
  | elapse (d : Nat)
  | emit (i : Nat)
  | close
  deriving DecidableEq

def ROCProfilerClient.env (rpc : ROCProfilerClient) (e : ProfilerEnv) : Option ROCProfilerClient :=
  match e with
  | .elapse d => some { rpc with now := rpc.now + d }
  | .emit i =>
    match rpc.spawned[i]? with
    | none => none
    | some event =>
      some { rpc with
        spawned := rpc.spawned.eraseIdx i
        emitted := event :: rpc.emitted }
  | .close => some { rpc with pCache := rpc.pCache.resetFailureCount }

abbrev ProfilerAction := CallPool.Action Unit (Option CmdResult) ProfilerEnv

def fetchSystem : TransitionSystem (CallPool ROCProfilerClient Fetch) ProfilerAction :=
  CallPool.system ⟨fun _ => .checking, getMetrics, ROCProfilerClient.env⟩

def cacheSystem : TransitionSystem (CallPool ROCProfilerClient CacheCall) ProfilerAction :=
  CallPool.system ⟨fun _ => .idle, cacheMetrics, ROCProfilerClient.env⟩

end Rocprofiler
