import DeviceMetricsExporter.Exporter.Impl.ConfigWatcher
import DeviceMetricsExporter.Exporter.Impl.MetricsHandler

/-!
This module contains the exporter as a whole: the watcher of the configuration file that stops and starts
the server, the clients that read the configuration it has loaded, and the requests for the metrics.
-/

universe u v w

namespace Exporter

structure Lifecycle (φ : Type u) (κ : Type v) (σ δ ρ : Type w) where
  watcher : ConfigWatcher φ κ
  requests : CallPool (MetricsHandler σ) (MetricsRequest δ ρ)

/--
The steps of the watcher, those of the goroutines of `InitConfig`, and everything that goes on besides.
-/
inductive LifecycleAction (φ δ ε : Type*) where
  | watcher (a : WatcherAction φ)
  | initConfigs (i : Nat)
  | updateStaticMetrics (i : Nat) (data : δ)
  | request (server : Nat)
  | serve (i : Nat) (x : RequestStep δ)
  | client (i : Nat) (e : ε)

def LifecycleAction.toRequests {φ δ ε κ : Type*} (config : κ)
    : LifecycleAction φ δ ε → Option (CallPool.Action Nat (RequestStep δ) (HandlerEvent κ δ ε))
  | watcher _ => none
  | initConfigs i => some (.env (.initConfigs i config))
  | updateStaticMetrics i data => some (.env (.updateStaticMetrics i config data))
  | request server => some (.start server)
  | serve i x => some (.call i x)
  | client i e => some (.env (.client i e))

/--
What a step of the watcher does to the server. A server that could not be closed is not stopped again.
-/
def ConfigWatcher.handlerEvent {φ κ κ' δ ε : Type*} (s : ConfigWatcher φ κ) (server : ServerState)
    (a : WatcherAction φ) : Option (HandlerEvent κ' δ ε) :=
  match a with
  | .main =>
    match s.main with
    | .initConfig => some .initConfig
    | .startServer => some .startServer
    | .addWatch | .waiting => none
  | .stopServer _ =>
    match server with
    | .running _ => some .stopServer
    | _ => none
  | .startServer =>
    match s.loop with
    | .initConfig => if s.server.isSome then none else some .initConfig
    | .startServer => some .startServer
    | _ => none
  | _ => none

namespace Lifecycle

variable {φ : Type u} {κ : Type v} {σ κ' δ ε ρ : Type w}

def step (reader : ConfigReader φ κ) (view : Config κ → κ') (client : MetricsInterface σ κ' δ ε ρ)
    (s : Lifecycle φ κ σ δ ρ) (a : LifecycleAction φ δ ε) : Option (Lifecycle φ κ σ δ ρ) :=
  match a with
  | .watcher a =>
    (s.watcher.step reader a).bind fun watcher =>
      match s.watcher.handlerEvent s.requests.shared.server a with
      | none => some { s with watcher }
      | some e =>
        ((CallPool.system (metricsProgram client)).step s.requests (.env e)).map fun requests =>
          { watcher, requests }
  | a =>
    (a.toRequests (view s.watcher.runConf)).bind fun a =>
      ((CallPool.system (metricsProgram client)).step s.requests a).map fun requests =>
        { s with requests }

def system (reader : ConfigReader φ κ) (view : Config κ → κ') (client : MetricsInterface σ κ' δ ε ρ)
    : TransitionSystem (Lifecycle φ κ σ δ ρ) (LifecycleAction φ δ ε) where
  step := step reader view client

end Lifecycle

def newLifecycle {φ : Type u} {κ : Type v} {σ δ ρ : Type w} (maxQueuedEvents : Nat) (file : φ)
    (clients : List σ) : Lifecycle φ κ σ δ ρ where
  watcher := newConfigWatcher maxQueuedEvents file
  requests := newMetricsHandler clients

end Exporter
