import Mathlib.Logic.Function.Basic
import DeviceMetricsExporter.Lib.TransitionSystem
import DeviceMetricsExporter.Testrunner.Impl.Results

/-!
This module contains the goroutines of a `TestHandler`: `runTest`, the goroutine that waits for the
command of each iteration, and `StopTest`. They share the fields `process`, `cancelFunc` and
`stopTest`, which no lock protects, so every access is a step of its own.
-/

namespace Testrunner

/--
A command ends by itself or is killed after its context is done.
-/
inductive Command where
  | notStarted
  | running
  | exited
  | killed
  deriving DecidableEq

/--
The accesses `cancelCtx` makes to `cancelFunc`: the comparison with nil, the call and the reset.
-/
inductive CancelCtx where
  | check
  | call
  | clear
  deriving DecidableEq

inductive Waiter where
  | absent
  | waiting
  | sending
  | cancelling (c : CancelCtx)
  | finished
  deriving DecidableEq

structure Iteration where
  ctxDone : Bool := false
  command : Command := .notStarted
  waiter : Waiter := .absent
  deriving DecidableEq

/--
Where `runTest` is. `starting` is the top of the loop body, `draining` the receive after the context
was done, and `signalling` the send on `doneChan`.
-/
inductive RunTest where
  | starting (k : Nat)
  | launching (k : Nat)
  | selecting (k : Nat)
  | draining (k : Nat)
  | logging (k : Nat) (status : CommandStatus)
  | checkingStop (k : Nat)
  | closing
  | signalling
  | finished
  deriving DecidableEq

inductive StopTest where
  | idle
  | called
  | cancelling (c : CancelCtx)
  | awaiting
  | joining
  deriving DecidableEq

/--
The passes through the loop are counted without overflow, pass `k` has the number `k` modulo `2 ^ 32`.
`cancelFunc` is the pass whose context it cancels, and `crashed` follows a panic.
-/
structure TestHandler where
  process : Option Nat := none
  cancelFunc : Option Nat := none
  stopTest : Bool := false
  iterResults : List IterationResult := []
  iteration : Nat → Iteration := fun _ => {}
  runner : RunTest := .starting 1
  stopper : StopTest := .idle
  crashed : Bool := false

inductive TestAction where
  | prepare
  | start (ok : Bool)
  | receive (j : Nat)
  | ctxDone
  | log (stdout stderr : String)
  | checkStop
  | close
  | done
  | exit (k : Nat)
  | kill (k : Nat)
  | timeout (k : Nat)
  | waiter (k : Nat)
  | stopTest
  | stopper
  deriving DecidableEq

namespace TestHandler

def modify (s : TestHandler) (k : Nat) (f : Iteration → Iteration) : TestHandler :=
  { s with iteration := Function.update s.iteration k (f (s.iteration k)) }

def cancel (s : TestHandler) (k : Nat) : TestHandler :=
  s.modify k ({ · with ctxDone := true })

def setCommand (s : TestHandler) (k : Nat) (command : Command) : TestHandler :=
  s.modify k ({ · with command })

def setWaiter (s : TestHandler) (k : Nat) (waiter : Waiter) : TestHandler :=
  s.modify k ({ · with waiter })

def panic (s : TestHandler) : TestHandler :=
  { s with crashed := true }

def cancelCtx (s : TestHandler) (c : CancelCtx) : TestHandler × Option CancelCtx :=
  -- The second component is the next access, `none` once `cancelCtx` has returned. The call reads
  -- the field again, which is nil by then if another goroutine was faster.
  match c with
  | .check =>
    match s.cancelFunc with
    | none => (s, none)
    | some _ => (s, some .call)
  | .call =>
    match s.cancelFunc with
    | none => (s.panic, none)
    | some k => (s.cancel k, some .clear)
  | .clear => ({ s with cancelFunc := none }, none)

end TestHandler

namespace TestOptions

def next (th : TestOptions) (k : Nat) : RunTest :=
  if UInt32.ofNat (k + 1) ≤ th.iterations then .starting (k + 1) else .closing

def runTestStep (th : TestOptions) (s : TestHandler) (a : TestAction) : Option TestHandler :=
  match s.runner, a with
  | .starting k, .prepare =>
    some { s with process := some k, cancelFunc := some k, runner := .launching k }
  | .launching k, .start true =>
    -- `Start` fails if the context of the command is done already
    if (s.iteration k).ctxDone then
      none
    else
      some { (s.setCommand k .running).setWaiter k .waiting with runner := .selecting k }
  | .launching k, .start false => some { s with runner := th.next k }
  | .selecting k, .receive j =>
    if (s.iteration j).waiter = .sending then
      some { s.setWaiter j (.cancelling .check) with runner := .logging k .TestCompleted }
    else
      none
  | .selecting k, .ctxDone =>
    if (s.iteration k).ctxDone then some { s with runner := .draining k } else none
  | .draining k, .receive j =>
    if (s.iteration j).waiter = .sending then
      some { s.setWaiter j (.cancelling .check) with runner := .logging k .TestTimedOut }
    else
      none
  | .logging k status, .log stdout stderr =>
    let (iterResults, err) := th.logResults s.iterResults (UInt32.ofNat k) status stdout stderr
    let runner :=
      if err then .closing
      else if status = .TestTimedOut then .checkingStop k
      else th.next k
    some { s with iterResults, runner }
  | .checkingStop k, .checkStop => some { s with runner := if s.stopTest then .closing else th.next k }
  | .closing, .close => some { s with runner := .signalling }
  | .signalling, .done => some { s with runner := .finished }
  | _, _ => none

end TestOptions

namespace TestHandler

def commandStep (s : TestHandler) (a : TestAction) : Option TestHandler :=
  match a with
  | .exit k =>
    if (s.iteration k).command = .running then some (s.setCommand k .exited) else none
  | .kill k =>
    if (s.iteration k).command = .running ∧ (s.iteration k).ctxDone then
      some (s.setCommand k .killed)
    else
      none
  | .timeout k =>
    -- there is no context before it is made, and its timer is stopped when it is cancelled
    if s.process.any (k ≤ ·) ∧ 1 ≤ k ∧ (s.iteration k).ctxDone = false then
      some (s.cancel k)
    else
      none
  | _ => none

def waiterStep (s : TestHandler) (k : Nat) : Option TestHandler :=
  match (s.iteration k).waiter with
  | .waiting =>
    -- `Wait` is a method of the command that the field `process` holds
    match s.process with
    | none => some s.panic
    | some p =>
      match (s.iteration p).command with
      | .exited | .killed => some (s.setWaiter k .sending)
      | _ => none
  | .sending =>
    match s.runner with
    | .signalling | .finished => some s.panic
    | _ => none
  | .cancelling c =>
    let (s, c) := s.cancelCtx c
    some (s.setWaiter k (c.elim .finished .cancelling))
  | _ => none

def stopTestStep (s : TestHandler) : Option TestHandler :=
  match s.stopper with
  | .idle =>
    -- The first line reads `th.process.Process.Pid`, and `Process` is nil before the command is
    -- started.
    match s.process with
    | none => some s.panic
    | some k =>
      if (s.iteration k).command = .notStarted then
        some s.panic
      else
        some { s with stopper := .called }
  | _ => none

def stopperStep (s : TestHandler) : Option TestHandler :=
  match s.stopper with
  | .called => some { s with stopTest := true, stopper := .cancelling .check }
  | .cancelling c =>
    let (s, c) := s.cancelCtx c
    some { s with stopper := c.elim .awaiting .cancelling }
  | .awaiting =>
    match s.runner with
    | .signalling => some { s with runner := .finished, stopper := .joining }
    | _ => none
  | _ => none

end TestHandler

def TestOptions.step (th : TestOptions) (s : TestHandler) (a : TestAction) : Option TestHandler :=
  if s.crashed then
    none
  else
    match a with
    | .exit _ | .kill _ | .timeout _ => s.commandStep a
    | .waiter k => s.waiterStep k
    | .stopTest => s.stopTestStep
    | .stopper => s.stopperStep
    | _ => th.runTestStep s a

def TestOptions.startTest (th : TestOptions) : Option TestHandler :=
  if th.iterations = 0 then none else some {}

def handlerSystem (th : TestOptions) : TransitionSystem TestHandler TestAction where
  step := th.step

end Testrunner
