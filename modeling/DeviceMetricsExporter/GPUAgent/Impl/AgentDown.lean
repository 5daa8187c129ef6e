import DeviceMetricsExporter.GPUAgent.Impl.Monitor

/-!
This module contains when the poll ticks of `StartMonitor` end the process: the errors they can end
in, the counter of consecutive failures, and the calls of `events.Fatal`.
-/

namespace GPUAgent

inductive EventReason where
  | AgentUnreachable
  | ZeroGPUsDetected
  | HealthValidationFailed
  | RocpctlFatalExit
  deriving DecidableEq

/--
An error value: one of the two sentinels, a new one, or one that wraps another with `%w`.
-/
inductive AgentError where
  | errAgentUnreachable
  | errZeroGPUs
  | new (msg : String)
  | wrap (msg : String) (err : AgentError)
  deriving DecidableEq

namespace AgentError

def text : AgentError → String
  | .errAgentUnreachable => "gpuagent unreachable"
  | .errZeroGPUs => "gpuagent reports zero GPUs"
  | .new msg => msg
  | .wrap msg err => msg ++ ": " ++ err.text

/--
`errors.Is` for one of the two sentinels.
-/
def is (err target : AgentError) : Bool :=
  match err with
  | .wrap _ inner => inner.is target
  | err => err = target

def isRestartableFailure (err : AgentError) : Bool :=
  err.is .errAgentUnreachable || err.is .errZeroGPUs

end AgentError

def HealthError.toError : HealthError → AgentError
  | .computeNodeUnhealthy => .new "compute node unhealthy, cannot process metrics"
  | .errAgentUnreachable => .wrap "data pull error occured" .errAgentUnreachable
  | .errZeroGPUs => .wrap "gpuagent returned 0 GPUs" .errZeroGPUs

structure FatalCall where
  reason : EventReason
  msg : String
  deriving DecidableEq

/--
What one tick meets: whether the agent is active, the error of `reconnect` if it is not, the error of
the validation, and why the profiler is disabled if it is.
-/
structure PollTick where
  active : Bool
  reconnectErr : Option String
  validationErr : Option AgentError
  disabledReason : Option String
  deriving DecidableEq

namespace PollTick

def reconnectFailure (t : PollTick) : Option String :=
  if !t.active then t.reconnectErr else none

def validationFailure (cfg : MonitorConfig) (t : PollTick) : Option AgentError :=
  if cfg.enableGPUMonitoring then t.validationErr else none

def agentDown (cfg : MonitorConfig) (consecutiveFailures : Nat) (reason : EventReason)
    (msg : String) : List FatalCall :=
  if cfg.exitOnAgentDown && maxConsecutiveFailures ≤ consecutiveFailures then
    [⟨reason, msg⟩]
  else
    []

def unreachableMsg (consecutiveFailures : Nat) (err : String) : String :=
  "gpuagent unreachable after " ++ consecutiveFailures.repr
    ++ " consecutive failures (last error: " ++ err
    ++ "); pod will exit. Restart pod or check gpuagent health."

def validationMsg (desc : String) (consecutiveFailures : Nat) (err : AgentError) : String :=
  desc ++ " after " ++ consecutiveFailures.repr ++ " consecutive polls (last error: " ++ err.text
    ++ "); pod will exit. Check amdgpu driver load timing."

def rocpctlMsg (reason : String) : String :=
  "exit-on-rocpctl-error: profiler auto-disabled (" ++ reason
    ++ "); pod will exit. Disable profiler or fix rocpctl."

def rocpctlError (cfg : MonitorConfig) (t : PollTick) : List FatalCall :=
  if cfg.exitOnRocpctlError && cfg.enableGPUMonitoring then
    (t.disabledReason.map fun reason => ⟨.RocpctlFatalExit, rocpctlMsg reason⟩).toList
  else
    []

/--
The counter after the tick and the calls of `events.Fatal` it makes, if these return.
-/
def poll (cfg : MonitorConfig) (consecutiveFailures : Nat) (t : PollTick)
    : Nat × List FatalCall :=
  match t.reconnectFailure with
  | some err =>
    let consecutiveFailures := consecutiveFailures + 1
    let msg := unreachableMsg consecutiveFailures err
    (consecutiveFailures, agentDown cfg consecutiveFailures .AgentUnreachable msg)
  | none =>
    match t.validationFailure cfg with
    | some err =>
      if err.isRestartableFailure then
        let consecutiveFailures := consecutiveFailures + 1
        let (reason, desc) :=
          if err.is .errZeroGPUs then
            (EventReason.ZeroGPUsDetected, "gpuagent reports zero GPUs")
          else
            (EventReason.HealthValidationFailed, "gpuagent health validation failed")
        let msg := validationMsg desc consecutiveFailures err
        (consecutiveFailures, agentDown cfg consecutiveFailures reason msg)
      else
        (0, t.rocpctlError cfg)
    | none => (0, t.rocpctlError cfg)

end PollTick

def consecutiveFailures (cfg : MonitorConfig) (ticks : Nat → PollTick) : Nat → Nat
  | 0 => 0
  | n + 1 => ((ticks n).poll cfg (consecutiveFailures cfg ticks n)).1

def fatalCalls (cfg : MonitorConfig) (ticks : Nat → PollTick) (n : Nat) : List FatalCall :=
  ((ticks n).poll cfg (consecutiveFailures cfg ticks n)).2

/--
The tick of the monitor as it is counted, where `err` is what its validation returned.
-/
def Tick.toPoll (t : Tick) (err : Option HealthError) : PollTick where
  active := t.active
  reconnectErr := if t.reconnects then none else some ""
  validationErr := err.map HealthError.toError
  disabledReason := if t.disabledOnFailure then some "" else none

end GPUAgent
