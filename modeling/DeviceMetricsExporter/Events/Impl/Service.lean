import DeviceMetricsExporter.Lib.CallPool

/-!
This module contains the service that emits events to Kubernetes: its bounded queue, the dispatcher
goroutine that empties it, the `Stop` call that shuts it down, and any number of concurrent
`EmitWarning` and `EmitWarningSync` calls.
-/

namespace Events

def queueSize : Nat := 64

/--
An envelope with its number, which is fresh for every call. `sync` is whether it has an `errCh`.
-/
structure EventEnvelope where
  id : Nat
  reason : String
  msg : String
  sync : Bool
  deriving DecidableEq

inductive EmitError where
  | create (err : String)
  | timedOut (reason : String)
  deriving DecidableEq

inductive CreateResult where
  | created
  | forbidden
  | failed (err : String)
  deriving DecidableEq

/--
Where a call of `deliver` is: about to call `emitToK8s`, inside of it at `createFn`, or behind it with
the error it returned.
-/
inductive Delivery where
  | entered (env : EventEnvelope)
  | creating (env : EventEnvelope)
  | emitted (env : EventEnvelope) (err : Option EmitError)
  deriving DecidableEq

/--
Where the dispatcher is. `draining` has seen that `stopCh` is closed.
-/
inductive Dispatcher where
  | selecting
  | draining
  | delivering (stopping : Bool) (d : Delivery)
  | exited
  deriving DecidableEq

/--
Where the `Stop` call is: it takes `mu`, closes `stopCh`, and waits for the dispatcher.
-/
inductive Stopper where
  | called
  | locked
  | closed
  | returned
  deriving DecidableEq

inductive ServiceEvent where
  | enqueued (id : Nat)
  | handed (id : Nat)
  | emitted (id : Nat) (err : Option EmitError)
  deriving DecidableEq

structure EventService where
  hasClient : Bool
  rbacDisabled : Bool
  queue : List EventEnvelope
  stopCh : Bool
  dispatcher : Dispatcher
  deriving DecidableEq

/--
The service and what surrounds it: the singleton with its lock, the `Stop` call, the number of the
next envelope, the errors that are in an `errCh`, and what has happened so far, latest first.
-/
structure EventState extends EventService where
  singleton : Bool
  mu : Bool
  stopper : Stopper
  nextID : Nat
  replies : List (Nat × Option EmitError)
  history : List ServiceEvent
  deriving DecidableEq

structure EmitRequest where
  sync : Bool
  reason : String
  msg : String
  deriving DecidableEq

/--
Where a call of `EmitWarning` or `EmitWarningSync` is. `holding` has read the singleton and released
the lock. `returned` is a synchronous call with the error it returned, `noService` one of either kind
that has found no service.
-/
inductive Emit where
  | called (r : EmitRequest)
  | noService (r : EmitRequest)
  | holding (env : EventEnvelope)
  | delivering (env : EventEnvelope) (d : Delivery)
  | waiting (env : EventEnvelope)
  | returned (env : EventEnvelope) (err : Option EmitError)
  | done (env : EventEnvelope)
  deriving DecidableEq

inductive EmitInput where
  | proceed
  | created (res : CreateResult)
  | timeout
  deriving DecidableEq

namespace EventState

def record (s : EventState) (e : ServiceEvent) : EventState :=
  { s with history := e :: s.history }

def createEvent (s : EventState) (res : CreateResult) : EventState × Option EmitError :=
  match res with
  | .created => (s, none)
  | .forbidden => ({ s with rbacDisabled := true }, none)
  | .failed err => (s, some (.create err))

def reply? (s : EventState) (id : Nat) : Option (Option EmitError) :=
  s.replies.lookup id

def send (s : EventState) (id : Nat) (err : Option EmitError) : EventState :=
  { s with replies := (id, err) :: s.replies }

def receive (s : EventState) (id : Nat) : EventState :=
  { s with replies := s.replies.filter fun reply => reply.1 ≠ id }

/--
The next step of a call of `deliver`, whose second component is `none` when it returns. The `errCh`
has room for one error.
-/
def deliver (s : EventState) (d : Delivery) (x : EmitInput)
    : Option (EventState × Option Delivery) :=
  match d, x with
  | .entered env, .proceed =>
    let s := s.record (.handed env.id)
    if !s.hasClient || s.rbacDisabled then
      some (s.record (.emitted env.id none), some (.emitted env none))
    else
      some (s, some (.creating env))
  | .creating env, .created res =>
    let (s, err) := s.createEvent res
    some (s.record (.emitted env.id err), some (.emitted env err))
  | .emitted env err, .proceed =>
    if !env.sync then
      some (s, none)
    else if (s.reply? env.id).isSome then
      none
    else
      some (s.send env.id err, none)
  | _, _ => none

def enqueue (s : EventState) (env : EventEnvelope) : EventState :=
  { s with queue := s.queue ++ [env] }.record (.enqueued env.id)

end EventState

def emit (s : EventState) (c : Emit) (x : EmitInput) : Option (EventState × Emit) :=
  match c, x with
  | .called r, .proceed =>
    if s.mu then
      none
    else if s.singleton then
      some ({ s with nextID := s.nextID + 1 }, .holding ⟨s.nextID, r.reason, r.msg, r.sync⟩)
    else
      some (s, .noService r)
  | .holding env, .proceed =>
    if s.queue.length < queueSize then
      some (s.enqueue env, if env.sync then .waiting env else .done env)
    else if env.sync then
      some (s, .delivering env (.entered env))
    else
      -- the event is dropped
      some (s, .done env)
  | .delivering env d, x =>
    (s.deliver d x).map fun (s, d) => (s, d.elim (.waiting env) (.delivering env))
  | .waiting env, .proceed =>
    (s.reply? env.id).map fun err => (s.receive env.id, .returned env err)
  | .waiting env, .timeout => some (s, .returned env (some (.timedOut env.reason)))
  | _, _ => none

/--
What the dispatcher does next, a choice only where its `select` has several ready cases.
-/
inductive DispatchInput where
  | receive
  | stopped
  | empty
  | deliver (x : EmitInput)
  deriving DecidableEq

namespace EventState

def dispatch (s : EventState) (x : DispatchInput) : Option EventState :=
  match s.dispatcher, x with
  | .selecting, .receive =>
    match s.queue with
    | [] => none
    | env :: queue => some { s with queue, dispatcher := .delivering false (.entered env) }
  | .selecting, .stopped => if s.stopCh then some { s with dispatcher := .draining } else none
  | .draining, .receive =>
    match s.queue with
    | [] => none
    | env :: queue => some { s with queue, dispatcher := .delivering true (.entered env) }
  | .draining, .empty =>
    if s.queue.isEmpty then some { s with dispatcher := .exited } else none
  | .delivering stopping d, .deliver x =>
    (s.deliver d x).map fun (s, d) =>
      let next := if stopping then .draining else .selecting
      { s with dispatcher := d.elim next (.delivering stopping) }
  | _, _ => none

def stop (s : EventState) : Option EventState :=
  match s.stopper with
  | .called => some { s with mu := true, stopper := .locked }
  | .locked => some { s with stopCh := true, stopper := .closed }
  | .closed =>
    if s.dispatcher = .exited then
      some { s with singleton := false, mu := false, stopper := .returned }
    else
      none
  | .returned => none

end EventState

inductive EventEnv where
  | dispatch (x : DispatchInput)
  | stop
  deriving DecidableEq

def EventState.env (s : EventState) : EventEnv → Option EventState
  | .dispatch x => s.dispatch x
  | .stop => s.stop

abbrev EventAction := CallPool.Action EmitRequest EmitInput EventEnv

def eventSystem : TransitionSystem (CallPool EventState Emit) EventAction :=
  CallPool.system ⟨.called, emit, EventState.env⟩

def newEventService (hasClient : Bool) : EventService where
  hasClient := hasClient
  rbacDisabled := false
  queue := []
  stopCh := false
  dispatcher := .selecting

def initEvents (hasClient : Bool) : CallPool EventState Emit where
  shared :=
    { newEventService hasClient with
      singleton := true
      mu := false
      stopper := .called
      nextID := 0
      replies := []
      history := [] }
  calls := []

end Events
