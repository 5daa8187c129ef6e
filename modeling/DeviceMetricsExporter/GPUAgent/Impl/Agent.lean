import DeviceMetricsExporter.Lib.TransitionSystem
import DeviceMetricsExporter.Exporter.Impl.Scheduler

/-!
This module contains the life cycle of the agent: how its options build it, what `Init` sets up, what
`Close` tears down, and the workloads it lists from its schedulers.
-/

namespace GPUAgent

open Exporter

inductive DeviceType where
  | GPUDevice
  | IFOEDevice
  deriving DecidableEq

/--
A client of the agent, `active` once it has been given a connection.
-/
structure AgentClient where
  deviceType : DeviceType
  active : Bool := false
  deriving DecidableEq

/--
The options that decide on the clients and the schedulers, a scheduler client by whether it is not
nil.
-/
inductive AgentOption where
  | withK8sSchedulerClient (k8sScheduler : Bool)
  | withSlurmClient (enable : Bool)
  | withGPUMonitoring (enable : Bool)
  | withIFOEMonitoring (enable : Bool)
  deriving DecidableEq

structure Agent where
  conn : Bool := false
  k8sScheduler : Bool := false
  slurmScheduler : Bool := false
  enableGPUMonitoring : Bool := true
  enableIFOEMonitoring : Bool := false
  isKubernetes : Bool := false
  enableSlurmScl : Bool := false
  clients : List AgentClient := []
  deriving DecidableEq

/--
The errors of `grpc.NewClient` and of `NewSlurmClient` in one `Init`.
-/
structure InitErrors where
  grpc : Option String := none
  slurm : Option String := none
  deriving DecidableEq

abbrev Listing := Except String (GoMap String Workload)

def mergeWorkloads (wls more : GoMap String Workload) : GoMap String Workload :=
  wls.insertEach more.entries (·.1) (·.2)

def AgentClient.initClients (conn : Bool) (client : AgentClient) : AgentClient :=
  if conn then { client with active := true } else client

namespace Agent

def applyOption (isKubernetes : Bool) (ga : Agent) (option : AgentOption) : Agent :=
  match option with
  | .withK8sSchedulerClient k8sScheduler =>
    if isKubernetes then { ga with isKubernetes := true, k8sScheduler } else ga
  | .withSlurmClient enable => { ga with enableSlurmScl := enable }
  | .withGPUMonitoring enable => { ga with enableGPUMonitoring := enable }
  | .withIFOEMonitoring enable => { ga with enableIFOEMonitoring := enable }

def initializeContext (ga : Agent) : Agent :=
  { ga with clients := ga.clients.map (AgentClient.initClients ga.conn) }

def initclients (ga : Agent) (errs : InitErrors) : Agent × Option String :=
  match errs.grpc with
  | some err => (ga, some err)
  | none =>
    ({ ga with
      conn := true
      clients := ga.clients.map (AgentClient.initClients true) }, none)

def initalizeScheduler (ga : Agent) (errs : InitErrors) : Agent × Option String :=
  if ga.enableSlurmScl then
    match errs.slurm with
    | some err => (ga, some err)
    | none => ({ ga with slurmScheduler := true }, none)
  else
    (ga, none)

def init (ga : Agent) (errs : InitErrors) : Agent × Option String :=
  match ga.initializeContext.initclients errs with
  | (ga, some err) => (ga, some err)
  | (ga, none) => ga.initalizeScheduler errs

def close (ga : Agent) : Agent :=
  { ga with
    conn := false
    k8sScheduler := false
    slurmScheduler := false }

def reconnect (ga : Agent) (errs : InitErrors) : Agent × Option String :=
  ga.close.init errs

def isActive (ga : Agent) : Bool :=
  ga.clients.all (·.active)

def listWorkloads (ga : Agent) (k8sWls slurmWls : Listing) : Listing := do
  let wls ←
    if ga.isKubernetes && ga.k8sScheduler then
      mergeWorkloads ∅ <$> k8sWls
    else
      pure ∅
  if !ga.slurmScheduler then
    return wls
  return mergeWorkloads wls (← slurmWls)

end Agent

/--
`NewAgent`, where `isKubernetes` is whether the process runs in a Kubernetes pod. `none` is the nil
agent.
-/
def newAgent (isKubernetes : Bool) (opts : List AgentOption) : Option Agent :=
  let ga := opts.foldl (Agent.applyOption isKubernetes) {}
  if !ga.enableGPUMonitoring && !ga.enableIFOEMonitoring then
    none
  else
    let gpuClients := if ga.enableGPUMonitoring then [⟨.GPUDevice, false⟩] else []
    let ifoeClients := if ga.enableIFOEMonitoring then [⟨.IFOEDevice, false⟩] else []
    some { ga with clients := gpuClients ++ ifoeClients }

def reconnectSystem : TransitionSystem Agent InitErrors where
  step ga errs :=
    match ga.reconnect errs with
    | (ga, none) => some ga
    | (_, some _) => none

end GPUAgent
