import DeviceMetricsExporter.Lib.CallPool

/-!
This module contains the handler of the metrics requests: the requests that are served at the same time,
the mutex of the middleware, and the restarts of the server with the initialization of all clients. A
client is anything that implements `MetricsInterface`.
-/

universe u

namespace Exporter

/--
`κ` is the configuration of a client, `δ` what it reads from its device in one pass, `ε` what its other
goroutines do to its state, and `ρ` what the registry collects of it. `none` is a panic.
-/
structure MetricsInterface (σ κ δ ε ρ : Type*) where
  initConfigs : σ → κ → Option σ
  updateStaticMetrics : σ → κ → δ → Option σ
  resetMetrics : σ → σ
  updateMetricsStats : σ → δ → Option σ
  env : σ → ε → Option σ
  gather : σ → ρ

/--
The steps of a client whose requests come one after the other.
-/
inductive ClientAction (κ δ ε : Type*) where
  | initConfigs (config : κ)
  | updateStaticMetrics (config : κ) (data : δ)
  | updateMetrics (data : δ)
  | env (e : ε)
  deriving DecidableEq

def MetricsInterface.system {σ κ δ ε ρ : Type*} (client : MetricsInterface σ κ δ ε ρ)
    : TransitionSystem σ (ClientAction κ δ ε) where
  step s a :=
    match a with
    | .initConfigs config => client.initConfigs s config
    | .updateStaticMetrics config data => client.updateStaticMetrics s config data
    | .updateMetrics data => client.updateMetricsStats (client.resetMetrics s) data
    | .env e => client.env s e

/--
Where the goroutine of `InitConfig` for one client is.
-/
inductive InitPass where
  | initConfigs
  | updateStaticMetrics
  | finished
  deriving DecidableEq

/--
The servers are numbered. A server is only started when all goroutines of `InitConfig` have finished.
-/
inductive ServerState where
  | stopped
  | initializing (passes : List InitPass)
  | running (server : Nat)
  deriving DecidableEq

structure MetricsHandler (σ : Type u) where
  clients : List σ
  prometheusMiddlewareMu : Bool
  server : ServerState
  started : Nat

/--
Where the goroutine of `UpdateMetrics` for one client is, with what it has read.
-/
inductive UpdatePass (δ : Type*) where
  | reset
  | update
  | finished (data : δ)

namespace UpdatePass

def read {δ : Type*} : UpdatePass δ → Option δ
  | finished data => some data
  | _ => none

end UpdatePass

/--
Where a request for the metrics is. The response is `none` if its server has been closed.
-/
inductive RequestPhase (δ ρ : Type*) where
  | accepting
  | locking
  | updating (passes : List (UpdatePass δ))
  | serving (read : List δ)
  | served (read : List δ) (response : Option (List ρ))
  | finished (read : List δ) (response : Option (List ρ))

namespace RequestPhase

variable {δ ρ : Type*}

def holds : RequestPhase δ ρ → Bool
  | updating _ | serving _ | served _ _ => true
  | _ => false

def delivered : RequestPhase δ ρ → Option (List δ × List ρ)
  | served read (some response) | finished read (some response) => some (read, response)
  | _ => none

end RequestPhase

structure MetricsRequest (δ ρ : Type*) where
  server : Nat
  phase : RequestPhase δ ρ

/--
`client i data` is the next step of the goroutine of the request for the client `i`, and `next` that of
the handler of the request.
-/
inductive RequestStep (δ : Type*) where
  | next
  | client (i : Nat) (data : δ)

/--
What happens besides the requests: the restarts of the server, and the other goroutines of the clients.
-/
inductive HandlerEvent (κ δ ε : Type*) where
  | stopServer
  | initConfig
  | initConfigs (i : Nat) (config : κ)
  | updateStaticMetrics (i : Nat) (config : κ) (data : δ)
  | startServer
  | client (i : Nat) (e : ε)

section Step

variable {σ κ δ ε ρ : Type*} (client : MetricsInterface σ κ δ ε ρ)

def MetricsHandler.updateClient (mh : MetricsHandler σ) (i : Nat) (f : σ → Option σ)
    : Option (MetricsHandler σ) := do
  let s ← mh.clients[i]?
  let s ← f s
  return { mh with clients := mh.clients.set i s }

def MetricsRequest.step (mh : MetricsHandler σ) (r : MetricsRequest δ ρ) (x : RequestStep δ)
    : Option (MetricsHandler σ × MetricsRequest δ ρ) :=
  match r.phase, x with
  | .accepting, .next =>
    if mh.server = .running r.server then some (mh, { r with phase := .locking }) else none
  | .locking, .next =>
    if mh.prometheusMiddlewareMu then
      none
    else
      some ({ mh with prometheusMiddlewareMu := true },
        { r with phase := .updating (mh.clients.map fun _ => .reset) })
  | .updating passes, .client i data =>
    match passes[i]? with
    | some .reset =>
      (mh.updateClient i fun s => some (client.resetMetrics s)).map fun mh =>
        (mh, { r with phase := .updating (passes.set i .update) })
    | some .update =>
      (mh.updateClient i fun s => client.updateMetricsStats s data).map fun mh =>
        (mh, { r with phase := .updating (passes.set i (.finished data)) })
    | _ => none
  | .updating passes, .next =>
    (passes.mapM UpdatePass.read).map fun read => (mh, { r with phase := .serving read })
  | .serving read, .next =>
    let response := if mh.server = .running r.server then some (mh.clients.map client.gather) else none
    some (mh, { r with phase := .served read response })
  | .served read response, .next =>
    some ({ mh with prometheusMiddlewareMu := false }, { r with phase := .finished read response })
  | _, _ => none

/--
The server is closed with or without waiting for its requests: `stopServer` may come at any time.
-/
def MetricsHandler.event (mh : MetricsHandler σ) (e : HandlerEvent κ δ ε)
    : Option (MetricsHandler σ) :=
  match e, mh.server with
  | .stopServer, .running _ => some { mh with server := .stopped }
  | .initConfig, .stopped =>
    some { mh with server := .initializing (mh.clients.map fun _ => .initConfigs) }
  | .initConfigs i config, .initializing passes =>
    if passes[i]? = some .initConfigs then
      (mh.updateClient i fun s => client.initConfigs s config).map fun mh =>
        { mh with server := .initializing (passes.set i .updateStaticMetrics) }
    else
      none
  | .updateStaticMetrics i config data, .initializing passes =>
    if passes[i]? = some .updateStaticMetrics then
      (mh.updateClient i fun s => client.updateStaticMetrics s config data).map fun mh =>
        { mh with server := .initializing (passes.set i .finished) }
    else
      none
  | .startServer, .initializing passes =>
    if passes.all (· = .finished) then
      some { mh with server := .running mh.started, started := mh.started + 1 }
    else
      none
  | .client i e, _ => mh.updateClient i fun s => client.env s e
  | _, _ => none

def metricsProgram
    : CallProgram (MetricsHandler σ) (MetricsRequest δ ρ) Nat (RequestStep δ) (HandlerEvent κ δ ε) where
  init server := { server, phase := .accepting }
  step := MetricsRequest.step client
  env := MetricsHandler.event client

def newMetricsHandler (clients : List σ) : CallPool (MetricsHandler σ) (MetricsRequest δ ρ) where
  shared :=
    { clients
      prometheusMiddlewareMu := false
      server := .stopped
      started := 0 }
  calls := []

end Step

end Exporter
