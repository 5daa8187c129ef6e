import DeviceMetricsExporter.Lib.TransitionSystem
import DeviceMetricsExporter.GPUAgent.Impl.Health

/-!
This module contains the notifications about the compute node, once one after another on all clients
of the agent with their mutexes, and once on the GPU client alone while validations and reloads are
under way. In the second the steps are the critical sections, and each write that is made without the
mutex.
-/

namespace GPUAgent

open Exporter

structure Guarded (σ : Type) where
  locked : Bool
  client : σ

namespace Guarded

variable {σ : Type}

def lock (c : Guarded σ) : Option (Guarded σ) :=
  -- `Lock` does not return while the mutex is locked.
  if c.locked then none else some { c with locked := true }

def unlock (c : Guarded σ) : Guarded σ :=
  { c with locked := false }

end Guarded

structure GPUAgentIFOEClient where
  computeNodeHealthState : Bool

def Guarded.setGPUComputeNodeHealthState (c : Guarded GPUAgentGPUClient)
    (wls : GoMap String Workload) (state : Bool) : Option (Guarded GPUAgentGPUClient) := do
  let c ← c.lock
  if c.client.computeNodeHealthState = state then
    return c.unlock
  else
    let c := { c with client.computeNodeHealthState := state }
    let c := c.unlock
    let health := if !state then .UNHEALTHY else .HEALTHY
    return { c with client := c.client.updateAllGPUsHealthState wls health }

def Guarded.setIFOEComputeNodeHealthState (c : Guarded GPUAgentIFOEClient) (state : Bool)
    : Option (Guarded GPUAgentIFOEClient) := do
  let c ← c.lock
  if c.client.computeNodeHealthState = state then
    -- the mutex stays locked
    return c
  else
    let c := { c with client.computeNodeHealthState := state }
    return c.unlock

structure GPUAgentClient where
  gpu : Guarded GPUAgentGPUClient
  ifoe : Guarded GPUAgentIFOEClient

namespace GPUAgentClient

def newAgent (gpuClient : GPUAgentGPUClient) : GPUAgentClient where
  gpu := ⟨false, { gpuClient with computeNodeHealthState := true }⟩
  ifoe := ⟨false, ⟨false⟩⟩

def setComputeNodeHealthState (ga : GPUAgentClient) (wls : GoMap String Workload) (state : Bool)
    : Option GPUAgentClient := do
  let gpu ← ga.gpu.setGPUComputeNodeHealthState wls state
  let ifoe ← ga.ifoe.setIFOEComputeNodeHealthState state
  return { gpu, ifoe }

end GPUAgentClient

structure Notification where
  wls : GoMap String Workload
  state : Bool

def notifications : TransitionSystem GPUAgentClient Notification where
  step ga n := ga.setComputeNodeHealthState n.wls n.state

inductive HealthRequest where
  | setComputeNodeHealthState (wls : GoMap String Workload) (state : Bool)
  | processHealthValidation (time : Time) (cfg : HealthConfig) (data : HealthData)
  | updateStaticMetrics (cfg : HealthConfig) (data : HealthData)

/--
What a call is about to do. `marking` and `creating` are the two loops of
`updateAllGPUsHealthState`, which run without the mutex over the keys they found at their start.
-/
inductive HealthCall where
  | idle (r : HealthRequest)
  | flagged (wls : GoMap String Workload) (state : Bool)
  | marking (state : Bool) (gpuids : List String)
  | creating (wls : GoMap String Workload) (state : Bool) (metas : List (String × GPUIDMeta))
  | validating (time : Time) (cfg : HealthConfig) (data : HealthData)
  | nodeDown (wls : GoMap String Workload)
  | publishing (wls : GoMap String Workload) (result : Except HealthError (GoMap String GPUState))
  | finished

namespace HealthCall

def healthFor (state : Bool) : GPUHealth :=
  if !state then .UNHEALTHY else .HEALTHY

def setting : HealthCall → Bool
  | .flagged .. | .marking .. | .creating .. => true
  | _ => false

variable [CaseMap]

def step (ga : GPUAgentGPUClient) (c : HealthCall) : Option (GPUAgentGPUClient × HealthCall) :=
  match c with
  | .idle (.setComputeNodeHealthState wls state) =>
    if ga.computeNodeHealthState = state then
      some (ga, .finished)
    else
      some ({ ga with computeNodeHealthState := state }, .flagged wls state)
  | .flagged wls state =>
    if !ga.healthState.entries.isEmpty then
      some (ga, .marking state ga.healthState.keys)
    else
      some (ga, .creating wls state (ga.gpuIDMap.entries.map fun e => (e.1, e.2)))
  | .marking _ [] => some (ga, .finished)
  | .marking state (gpuid :: gpuids) =>
    (setHealth ga.healthState gpuid (healthFor state)).map fun healthState =>
      ({ ga with healthState }, .marking state gpuids)
  | .creating _ _ [] => some (ga, .finished)
  | .creating wls state ((gpuid, gpuIdMeta) :: metas) =>
    let gpuState :=
      { id := gpuIdMeta.gpuID
        uuid := gpuIdMeta.uuid
        health := healthFor state
        device := gpuIdMeta.pcieBusId
        associatedWorkload := ga.getWorkloadsListString wls gpuid }
    some ({ ga with healthState := ga.healthState.insert gpuid gpuState }, .creating wls state metas)
  | .idle (.processHealthValidation time cfg data) =>
    if !ga.computeNodeHealthState then
      some (ga, .nodeDown data.wls)
    else
      some (ga, .validating time cfg data)
  | .nodeDown wls => some (ga.setUnhealthyGPU wls, .finished)
  | .validating time cfg data =>
    (ga.newHealthState time cfg data).map fun result => (ga, .publishing data.wls result)
  | .publishing wls result => some ((ga.applyHealthState wls result).1, .finished)
  | .idle (.updateStaticMetrics cfg data) =>
    match data.gpus with
    | none => some (ga, .finished)
    | some resp =>
      if resp.apiStatus ≠ 0 then
        some (ga, .finished)
      else
        let ga := ga.initGPUMetadata resp.response
        (ga.processEccErrorMetrics cfg.getHealthThreshholds resp.response data.wls).map
          fun newGPUState => (ga, .publishing data.wls (.ok newGPUState))
  | .finished => none

end HealthCall

structure HealthPool where
  client : GPUAgentGPUClient
  calls : List HealthCall

inductive HealthAction where
  | start (r : HealthRequest)
  | call (i : Nat)

namespace HealthPool

def setting (s : HealthPool) : Bool :=
  s.calls.any (·.setting)

def step [CaseMap] (s : HealthPool) (a : HealthAction) : Option HealthPool :=
  match a with
  | .start r => some { s with calls := s.calls ++ [.idle r] }
  | .call i =>
    match s.calls[i]? with
    | none => none
    | some c => (c.step s.client).map fun (client, c') => ⟨client, s.calls.set i c'⟩

end HealthPool

def healthSystem [CaseMap] : TransitionSystem HealthPool HealthAction where
  step := HealthPool.step

end GPUAgent
