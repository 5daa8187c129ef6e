import DeviceMetricsExporter.Lib.TransitionSystem
import DeviceMetricsExporter.Exporter.Impl.K8sClient
import DeviceMetricsExporter.GPUAgent.Impl.Health

/-!
This module contains the poll ticks of `StartMonitor` with the node labels they push, and the other
calls that change the health map between two ticks.
-/

namespace GPUAgent

open Exporter

structure MonitorConfig where
  enabledK8sApi : Bool
  nodeName : String
  enableGPUMonitoring : Bool
  exitOnAgentDown : Bool
  exitOnRocpctlError : Bool

def isRestartableFailure (err : HealthError) : Bool :=
  err = .errAgentUnreachable || err = .errZeroGPUs

def maxConsecutiveFailures : Nat := 3

namespace GPUAgentGPUClient

def gpuHealthStates (ga : GPUAgentGPUClient) : GoMap String String :=
  (ga.healthState.filter fun _ state => state.health ≠ .HEALTHY).map fun _ state => state.health.name

def sendNodeLabelUpdate (ga : GPUAgentGPUClient) (cfg : MonitorConfig) (api : NodeAPI)
    : Except GoPanic NodeAPI :=
  if !cfg.enabledK8sApi then
    .ok api
  else if cfg.nodeName = "" then
    .ok api
  else
    -- The error of the update is ignored.
    (K8sClient.updateHealthLabel (some ⟨gpuHealthLabelPrefix⟩) api {} (some ga.gpuHealthStates)).map (·.1)

def setError (ga : GPUAgentGPUClient) (gpuid : String) (fields : List String)
    (values : List UInt32) : Option GPUAgentGPUClient :=
  if values.length < fields.length then
    none
  else
    let mock := (ga.mockEccField.lookup gpuid).getD ∅
    let mock := mock.insertEach (fields.zip values) (·.1) (·.2)
    some { ga with mockEccField := ga.mockEccField.insert gpuid mock }

end GPUAgentGPUClient

structure Monitor where
  client : GPUAgentGPUClient
  api : NodeAPI
  consecutiveFailures : Nat
  alive : Bool

structure Tick where
  active : Bool
  reconnects : Bool
  time : Time
  cfg : HealthConfig
  data : HealthData
  disabledOnFailure : Bool

inductive MonitorAction where
  | tick (t : Tick)
  | setComputeNodeHealthState (wls : GoMap String Workload) (state : Bool)
  | updateStaticMetrics (cfg : HealthConfig) (data : HealthData)
  | setError (gpuid : String) (fields : List String) (values : List UInt32)

namespace Monitor

def start (lgpuMap : GoMap String String) (node : Node) : Monitor where
  client := newGPUAgentGPUClient lgpuMap
  api :=
    { node
      updates := 0 }
  consecutiveFailures := 0
  alive := true

def fail (cfg : MonitorConfig) (s : Monitor) : Monitor :=
  -- One more failure, the process ends after too many of them in a row.
  let consecutiveFailures := s.consecutiveFailures + 1
  { s with
    consecutiveFailures
    alive := !(cfg.exitOnAgentDown && maxConsecutiveFailures ≤ consecutiveFailures) }

def succeed (cfg : MonitorConfig) (s : Monitor) (t : Tick) : Monitor :=
  { s with
    consecutiveFailures := 0
    alive := !(cfg.exitOnRocpctlError && cfg.enableGPUMonitoring && t.disabledOnFailure) }

def pushLabels (cfg : MonitorConfig) (s : Monitor) : Option Monitor :=
  (s.client.sendNodeLabelUpdate cfg s.api).toOption.map fun api => { s with api }

variable [CaseMap]

/--
One tick of `StartMonitor`, `none` if the validation or the push of the labels panics. Of the failures that
count only the one without GPUs pushes the labels.
-/
def tick (cfg : MonitorConfig) (s : Monitor) (t : Tick) : Option Monitor :=
  if !t.active && !t.reconnects then
    some (s.fail cfg)
  else if !cfg.enableGPUMonitoring then
    some (s.succeed cfg t)
  else
    (s.client.processHealthValidation t.time t.cfg t.data).bind fun (client, err) =>
      let s := { s with client }
      match err with
      | some err =>
        if isRestartableFailure err then
          let s := s.fail cfg
          if s.alive && err = .errZeroGPUs then s.pushLabels cfg else some s
        else
          some (s.succeed cfg t)
      | none => (s.pushLabels cfg).map (·.succeed cfg t)

def step (cfg : MonitorConfig) (s : Monitor) (a : MonitorAction) : Option Monitor :=
  if !s.alive then
    none
  else
    match a with
    | .tick t => s.tick cfg t
    | .setComputeNodeHealthState wls state =>
      some { s with client := s.client.setComputeNodeHealthState wls state }
    | .updateStaticMetrics hcfg data =>
      (s.client.updateStaticMetrics hcfg data).map fun client => { s with client }
    | .setError gpuid fields values =>
      (s.client.setError gpuid fields values).map fun client => { s with client }

end Monitor

def monitorSystem [CaseMap] (cfg : MonitorConfig) : TransitionSystem Monitor MonitorAction where
  step := Monitor.step cfg

end GPUAgent
