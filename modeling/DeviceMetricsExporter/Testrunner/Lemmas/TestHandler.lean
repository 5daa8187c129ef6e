import DeviceMetricsExporter.Testrunner.Impl.TestHandler

/-!
This module contains what one step of the goroutines of a `TestHandler` can do.
-/

namespace Testrunner

namespace TestHandler

variable (s : TestHandler)

@[simp]
theorem modify_runner (k : Nat) (f : Iteration → Iteration) : (s.modify k f).runner = s.runner := rfl

@[simp]
theorem modify_stopper (k : Nat) (f : Iteration → Iteration)
    : (s.modify k f).stopper = s.stopper := rfl

@[simp]
theorem modify_stopTest (k : Nat) (f : Iteration → Iteration)
    : (s.modify k f).stopTest = s.stopTest := rfl

theorem modify_iteration (k j : Nat) (f : Iteration → Iteration)
    : (s.modify k f).iteration j = if j = k then f (s.iteration j) else s.iteration j := by
  simp only [modify, Function.update_apply]
  split
  . next h => rw [h]
  . rfl

theorem cancel_ctxDone (k j : Nat)
    : ((s.cancel k).iteration j).ctxDone = (decide (j = k) || (s.iteration j).ctxDone) := by
  rw [cancel, modify_iteration]
  split
  . next h => simp [h]
  . next h => simp [h]

@[simp]
theorem cancel_command (k j : Nat)
    : ((s.cancel k).iteration j).command = (s.iteration j).command := by
  rw [cancel, modify_iteration]
  split
  . rfl
  . rfl

@[simp]
theorem setCommand_ctxDone (k j : Nat) (command : Command)
    : ((s.setCommand k command).iteration j).ctxDone = (s.iteration j).ctxDone := by
  rw [setCommand, modify_iteration]
  split
  . rfl
  . rfl

theorem setCommand_command (k j : Nat) (command : Command)
    : ((s.setCommand k command).iteration j).command
      = if j = k then command else (s.iteration j).command := by
  rw [setCommand, modify_iteration]
  split
  . rfl
  . rfl

@[simp]
theorem setWaiter_ctxDone (k j : Nat) (waiter : Waiter)
    : ((s.setWaiter k waiter).iteration j).ctxDone = (s.iteration j).ctxDone := by
  rw [setWaiter, modify_iteration]
  split
  . rfl
  . rfl

@[simp]
theorem setWaiter_command (k j : Nat) (waiter : Waiter)
    : ((s.setWaiter k waiter).iteration j).command = (s.iteration j).command := by
  rw [setWaiter, modify_iteration]
  split
  . rfl
  . rfl

end TestHandler

/--
The steps of `runTest` with the guards under which they are taken.
-/
inductive RunTestStep (th : TestOptions) (s : TestHandler) : TestAction → TestHandler → Prop where
  | prepare (k : Nat) (h : s.runner = .starting k)
    : RunTestStep th s .prepare
        { s with process := some k, cancelFunc := some k, runner := .launching k }
  | started (k : Nat) (h : s.runner = .launching k) (hctx : (s.iteration k).ctxDone = false)
    : RunTestStep th s (.start true)
        { (s.setCommand k .running).setWaiter k .waiting with runner := .selecting k }
  | notStarted (k : Nat) (h : s.runner = .launching k)
    : RunTestStep th s (.start false) { s with runner := th.next k }
  | completed (k j : Nat) (h : s.runner = .selecting k) (hj : (s.iteration j).waiter = .sending)
    : RunTestStep th s (.receive j)
        { s.setWaiter j (.cancelling .check) with runner := .logging k .TestCompleted }
  | ctxDone (k : Nat) (h : s.runner = .selecting k) (hctx : (s.iteration k).ctxDone = true)
    : RunTestStep th s .ctxDone { s with runner := .draining k }
  | drained (k j : Nat) (h : s.runner = .draining k) (hj : (s.iteration j).waiter = .sending)
    : RunTestStep th s (.receive j)
        { s.setWaiter j (.cancelling .check) with runner := .logging k .TestTimedOut }
  | log (k : Nat) (status : CommandStatus) (stdout stderr : String)
      (h : s.runner = .logging k status) (iterResults : List IterationResult) (runner : RunTest)
      (hrunner : runner = .closing ∨ (runner = .checkingStop k ∧ status = .TestTimedOut)
        ∨ (runner = th.next k ∧ status ≠ .TestTimedOut))
    : RunTestStep th s (.log stdout stderr) { s with iterResults, runner }
  | checkStop (k : Nat) (h : s.runner = .checkingStop k)
    : RunTestStep th s .checkStop { s with runner := if s.stopTest then .closing else th.next k }
  | close (h : s.runner = .closing) : RunTestStep th s .close { s with runner := .signalling }
  | done (h : s.runner = .signalling) : RunTestStep th s .done { s with runner := .finished }

theorem runTestStep_of_step {th : TestOptions} {s s' : TestHandler} {a : TestAction}
    (h : th.runTestStep s a = some s') : RunTestStep th s a s' := by
  unfold TestOptions.runTestStep at h
  split at h
  . next k hrunner =>
    cases h
    exact .prepare k hrunner
  . next k hrunner =>
    split at h
    . cases h
    . next hctx =>
      cases h
      exact .started k hrunner (by simpa using hctx)
  . next k hrunner =>
    cases h
    exact .notStarted k hrunner
  . next k j hrunner =>
    split at h
    . next hj =>
      cases h
      exact .completed k j hrunner hj
    . cases h
  . next k hrunner =>
    split at h
    . next hctx =>
      cases h
      exact .ctxDone k hrunner hctx
    . cases h
  . next k j hrunner =>
    split at h
    . next hj =>
      cases h
      exact .drained k j hrunner hj
    . cases h
  . next k status stdout stderr hrunner =>
    cases h
    apply RunTestStep.log k status stdout stderr hrunner
    split
    . exact .inl rfl
    . split
      . next hstatus => exact .inr (.inl ⟨rfl, hstatus⟩)
      . next hstatus => exact .inr (.inr ⟨rfl, hstatus⟩)
  . next k hrunner =>
    cases h
    exact .checkStop k hrunner
  . next hrunner =>
    cases h
    exact .close hrunner
  . next hrunner =>
    cases h
    exact .done hrunner
  . cases h

/--
What a step of `cancelCtx` does to the shared fields: it reads `cancelFunc`, calls or resets it, or
panics.
-/
inductive CancelStep (s : TestHandler) : CancelCtx → TestHandler → Option CancelCtx → Prop where
  | nil (h : s.cancelFunc = none) : CancelStep s .check s none
  | check : CancelStep s .check s (some .call)
  | panic : CancelStep s .call s.panic none
  | call (k : Nat) (h : s.cancelFunc = some k) : CancelStep s .call (s.cancel k) (some .clear)
  | clear : CancelStep s .clear { s with cancelFunc := none } none

theorem cancelStep_cancelCtx (s : TestHandler) (c : CancelCtx)
    : CancelStep s c (s.cancelCtx c).1 (s.cancelCtx c).2 := by
  cases c with
  | check =>
    simp only [TestHandler.cancelCtx]
    split
    . next h => exact .nil h
    . exact .check
  | call =>
    simp only [TestHandler.cancelCtx]
    split
    . exact .panic
    . next k h => exact .call k h
  | clear => exact .clear

inductive HandlerStep (th : TestOptions) (s : TestHandler) : TestAction → TestHandler → Prop where
  | runTest (a : TestAction) (s' : TestHandler) (h : RunTestStep th s a s') : HandlerStep th s a s'
  | exit (k : Nat) (h : (s.iteration k).command = .running)
    : HandlerStep th s (.exit k) (s.setCommand k .exited)
  | kill (k : Nat) (h : (s.iteration k).command = .running)
      (hctx : (s.iteration k).ctxDone = true)
    : HandlerStep th s (.kill k) (s.setCommand k .killed)
  | timeout (k : Nat) : HandlerStep th s (.timeout k) (s.cancel k)
  | waited (k : Nat) : HandlerStep th s (.waiter k) (s.setWaiter k .sending)
  | waiterCancel (k : Nat) (c : CancelCtx) (h : (s.iteration k).waiter = .cancelling c)
      (t : TestHandler) (c' : Option CancelCtx) (hcancel : CancelStep s c t c')
    : HandlerStep th s (.waiter k) (t.setWaiter k (c'.elim .finished .cancelling))
  | stopCalled (h : s.stopper = .idle) : HandlerStep th s .stopTest { s with stopper := .called }
  | stopFlagged (h : s.stopper = .called)
    : HandlerStep th s .stopper { s with stopTest := true, stopper := .cancelling .check }
  | stopCancel (c : CancelCtx) (h : s.stopper = .cancelling c) (t : TestHandler)
      (c' : Option CancelCtx) (hcancel : CancelStep s c t c')
    : HandlerStep th s .stopper { t with stopper := c'.elim .awaiting .cancelling }
  | stopDone (h : s.stopper = .awaiting) (hrunner : s.runner = .signalling)
    : HandlerStep th s .stopper { s with runner := .finished, stopper := .joining }
  | waiterPanic (k : Nat) : HandlerStep th s (.waiter k) s.panic
  | stopPanic (h : s.stopper = .idle) : HandlerStep th s .stopTest s.panic

theorem handlerStep_of_step {th : TestOptions} {s s' : TestHandler} {a : TestAction}
    (h : (handlerSystem th).step s a = some s') : HandlerStep th s a s' := by
  simp only [handlerSystem, TestOptions.step] at h
  split at h
  . cases h
  . split at h
    . next k =>
      simp only [TestHandler.commandStep] at h
      split at h
      . next hrunning =>
        cases h
        exact .exit k hrunning
      . cases h
    . next k =>
      simp only [TestHandler.commandStep] at h
      split at h
      . next hkill =>
        cases h
        exact .kill k hkill.1 hkill.2
      . cases h
    . next k =>
      simp only [TestHandler.commandStep] at h
      split at h
      . cases h
        exact .timeout k
      . cases h
    . next k =>
      unfold TestHandler.waiterStep at h
      split at h
      . split at h
        . cases h
          exact .waiterPanic k
        . split at h
          . cases h
            exact .waited k
          . cases h
            exact .waited k
          . cases h
      . split at h
        . cases h
          exact .waiterPanic k
        . cases h
          exact .waiterPanic k
        . cases h
      . next c hc =>
        cases h
        exact .waiterCancel k c hc _ _ (cancelStep_cancelCtx s c)
      . cases h
    . unfold TestHandler.stopTestStep at h
      split at h
      . next hidle =>
        split at h
        . cases h
          exact .stopPanic hidle
        . split at h
          . cases h
            exact .stopPanic hidle
          . cases h
            exact .stopCalled hidle
      . cases h
    . unfold TestHandler.stopperStep at h
      split at h
      . next hcalled =>
        cases h
        exact .stopFlagged hcalled
      . next c hc =>
        cases h
        exact .stopCancel c hc _ _ (cancelStep_cancelCtx s c)
      . next hawaiting =>
        split at h
        . next hrunner =>
          cases h
          exact .stopDone hawaiting hrunner
        . cases h
      . cases h
    . exact .runTest a s' (runTestStep_of_step h)

end Testrunner
