import DeviceMetricsExporter.Testrunner.Lemmas.TestHandler

/-!
This module contains when `StopTest` stops the run: its cancel must reach an iteration that is in its
`select`, and the `select` must not prefer the completion of the command to the context that is done.
-/

namespace Testrunner

def StopTest.cancelled : StopTest → Bool
  | .awaiting | .joining => true
  | _ => false

/--
Once `StopTest` has returned from `cancelCtx`, the run starts no command anymore.
-/
def StopsRun (th : TestOptions) (s₀ : TestHandler) (cs : List TestAction) : Prop :=
  ∀ as bs s s', cs = as ++ bs → (handlerSystem th).exec as s₀ = some s →
    (handlerSystem th).exec bs s = some s' → s.stopper.cancelled = true → .start true ∉ bs

namespace TestHandler

def ending (s : TestHandler) : Bool :=
  match s.runner with
  | .selecting k => (s.iteration k).ctxDone
  | .draining _ | .logging _ .TestTimedOut | .checkingStop _ => true
  | .closing | .signalling | .finished => true
  | _ => false

end TestHandler

/--
`cancelCtx` of `StopTest` finds an iteration in its `select` or a run that ends anyway, and no
`select` takes the completion of an iteration whose context is done after `stopTest` is set.
-/
def Effective (s : TestHandler) (a : TestAction) : Bool :=
  match a with
  | .stopper =>
    match s.stopper, s.cancelFunc with
    | .cancelling .check, none => s.ending
    | .cancelling .call, some k => s.runner = .selecting k || s.ending
    | _, _ => true
  | .receive _ =>
    match s.runner with
    | .selecting k => !(s.stopTest && (s.iteration k).ctxDone)
    | _ => true
  | _ => true

structure StopInv (s : TestHandler) : Prop where
  flagged : s.stopper ≠ .idle → s.stopper ≠ .called → s.stopTest = true
  ending : s.crashed = false → s.stopper = .cancelling .clear ∨ s.stopper.cancelled = true →
    s.ending = true

section Step

variable {th : TestOptions} {s s' : TestHandler} {a : TestAction}

theorem stopTest_of_cancelled (hinv : StopInv s)
    (h : s.stopper = .cancelling .clear ∨ s.stopper.cancelled = true) : s.stopTest = true := by
  apply hinv.flagged
  . intro hidle
    simp [hidle, StopTest.cancelled] at h
  . intro hcalled
    simp [hcalled, StopTest.cancelled] at h

theorem StopInv.of_stopper_eq (hinv : StopInv s) (hstopper : s'.stopper = s.stopper)
    (hflag : s'.stopTest = s.stopTest) (hcrashed : s'.crashed = false → s.crashed = false)
    (hending : s.stopTest = true → s.ending = true → s'.ending = true) : StopInv s' where
  flagged h h' := by
    rw [hstopper] at h h'
    rw [hflag]
    exact hinv.flagged h h'
  ending hcrash h := by
    rw [hstopper] at h
    exact hending (stopTest_of_cancelled hinv h) (hinv.ending (hcrashed hcrash) h)

theorem ending_congr (hrunner : s'.runner = s.runner)
    (hctx : ∀ k, (s.iteration k).ctxDone = true → (s'.iteration k).ctxDone = true)
    (h : s.ending = true) : s'.ending = true := by
  unfold TestHandler.ending at h ⊢
  rw [hrunner]
  cases hs : s.runner with
  | selecting k =>
    rw [hs] at h
    exact hctx k h
  | logging k status =>
    rw [hs] at h
    cases status <;> exact h
  | _ => simp [hs] at h ⊢

theorem stopInv_runTest (hinv : StopInv s) (hok : Effective s a = true)
    (hstep : RunTestStep th s a s') : StopInv s' := by
  cases hstep with
  | prepare k h =>
    refine hinv.of_stopper_eq rfl rfl id ?_
    simp [TestHandler.ending, h]
  | started k h hctx =>
    refine hinv.of_stopper_eq rfl rfl id ?_
    simp [TestHandler.ending, h]
  | notStarted k h =>
    refine hinv.of_stopper_eq rfl rfl id ?_
    simp [TestHandler.ending, h]
  | completed k j h hj =>
    -- this is the branch that goes on with the next iteration
    refine hinv.of_stopper_eq rfl rfl id ?_
    intro hflag hending
    simp only [TestHandler.ending, h] at hending
    simp [Effective, h, hflag, hending] at hok
  | ctxDone k h hctx => exact hinv.of_stopper_eq rfl rfl id fun _ _ => rfl
  | drained k j h hj => exact hinv.of_stopper_eq rfl rfl id fun _ _ => rfl
  | log k status stdout stderr h iterResults runner hrunner =>
    refine hinv.of_stopper_eq rfl rfl id ?_
    intro _ hending
    rcases hrunner with rfl | ⟨rfl, -⟩ | ⟨rfl, hstatus⟩
    . rfl
    . rfl
    . simp only [TestHandler.ending, h] at hending
      cases status with
      | TestTimedOut => contradiction
      | _ => cases hending
  | checkStop k h =>
    refine hinv.of_stopper_eq rfl rfl id ?_
    intro hflag _
    simp [TestHandler.ending, hflag]
  | close h => exact hinv.of_stopper_eq rfl rfl id fun _ _ => rfl
  | done h => exact hinv.of_stopper_eq rfl rfl id fun _ _ => rfl

theorem cancelStep_frame {t : TestHandler} {c : CancelCtx} {c' : Option CancelCtx}
    (h : CancelStep s c t c')
    : t.stopper = s.stopper ∧ t.stopTest = s.stopTest ∧ t.runner = s.runner
        ∧ (t.crashed = false → s.crashed = false)
        ∧ ∀ k, (s.iteration k).ctxDone = true → (t.iteration k).ctxDone = true := by
  cases h with
  | call k _ =>
    refine ⟨rfl, rfl, rfl, id, ?_⟩
    intro j hj
    simp [TestHandler.cancel_ctxDone, hj]
  | panic => exact ⟨rfl, rfl, rfl, nofun, fun _ => id⟩
  | _ => exact ⟨rfl, rfl, rfl, id, fun _ => id⟩

theorem stopInv_stopCancel {t : TestHandler} {c : CancelCtx} {c' : Option CancelCtx}
    (hinv : StopInv s) (hok : Effective s .stopper = true) (h : s.stopper = .cancelling c)
    (hcancel : CancelStep s c t c')
    : StopInv { t with stopper := c'.elim .awaiting .cancelling } where
  flagged _ _ := by
    rw [(cancelStep_frame hcancel).2.1]
    apply hinv.flagged
    . simp [h]
    . simp [h]
  ending hcrash hstopper := by
    cases hcancel with
    | nil hnone =>
      have hending : s.ending = true := by
        simpa [Effective, h, hnone] using hok
      exact ending_congr rfl (fun _ => id) hending
    | check => simp [StopTest.cancelled] at hstopper
    | panic => cases hcrash
    | call k hk =>
      simp only [Effective, h, hk, Bool.or_eq_true, decide_eq_true_eq] at hok
      rcases hok with hselecting | hending
      . simp only [TestHandler.ending]
        rw [show (s.cancel k).runner = .selecting k from hselecting]
        simp [TestHandler.cancel_ctxDone]
      . refine ending_congr (s := s) rfl ?_ hending
        intro j hj
        simp [TestHandler.cancel_ctxDone, hj]
    | clear => exact ending_congr rfl (fun _ => id) (hinv.ending hcrash (.inl h))

theorem stopInv_step (s : TestHandler) (a : TestAction) (s' : TestHandler) (hinv : StopInv s)
    (hok : Effective s a = true) (hstep : (handlerSystem th).step s a = some s') : StopInv s' := by
  cases handlerStep_of_step hstep with
  | runTest a s' h => exact stopInv_runTest hinv hok h
  | exit k h =>
    exact hinv.of_stopper_eq rfl rfl id fun _ => ending_congr rfl (fun j => by simp)
  | kill k h hctx =>
    exact hinv.of_stopper_eq rfl rfl id fun _ => ending_congr rfl (fun j => by simp)
  | timeout k =>
    refine hinv.of_stopper_eq rfl rfl id fun _ => ending_congr rfl ?_
    intro j hj
    simp [TestHandler.cancel_ctxDone, hj]
  | waited k =>
    exact hinv.of_stopper_eq rfl rfl id fun _ => ending_congr rfl (fun j => by simp)
  | waiterCancel k c h t c' hcancel =>
    rcases cancelStep_frame hcancel with ⟨hstopper, hflag, hrunner, hcrashed, hctx⟩
    refine hinv.of_stopper_eq hstopper hflag hcrashed fun _ => ending_congr hrunner ?_
    intro j hj
    simpa using hctx j hj
  | stopCalled h =>
    exact ⟨fun _ hcalled => absurd rfl hcalled, fun _ h => by simp [StopTest.cancelled] at h⟩
  | stopFlagged h => exact ⟨fun _ _ => rfl, fun _ h => by simp [StopTest.cancelled] at h⟩
  | stopCancel c h t c' hcancel => exact stopInv_stopCancel hinv hok h hcancel
  | stopDone h hrunner => exact ⟨fun _ _ => hinv.flagged (by simp [h]) (by simp [h]), fun _ _ => rfl⟩
  | waiterPanic k => exact hinv.of_stopper_eq rfl rfl nofun fun _ => id
  | stopPanic h => exact hinv.of_stopper_eq rfl rfl nofun fun _ => id

theorem cancelled_step (h : s.stopper.cancelled = true)
    (hstep : (handlerSystem th).step s a = some s') : s'.stopper.cancelled = true := by
  cases handlerStep_of_step hstep with
  | runTest a s' hrun =>
    cases hrun <;> exact h
  | waiterCancel k c _ t c' hcancel =>
    rw [← (cancelStep_frame hcancel).1] at h
    exact h
  | stopCalled hidle => simp [hidle, StopTest.cancelled] at h
  | stopFlagged hcalled => simp [hcalled, StopTest.cancelled] at h
  | stopCancel c hc t c' hcancel => simp [hc, StopTest.cancelled] at h
  | stopDone _ _ => rfl
  | stopPanic hidle => exact h
  | _ => exact h

theorem not_start_of_ending (h : s.ending = true)
    : (handlerSystem th).step s (.start true) ≠ some s' := by
  intro hstep
  cases handlerStep_of_step hstep with
  | runTest a s' hrun =>
    cases hrun with
    | started k hrunner _ => simp [TestHandler.ending, hrunner] at h

end Step

theorem stopInv_startTest {th : TestOptions} {s₀ : TestHandler} (h : th.startTest = some s₀)
    : StopInv s₀ := by
  unfold TestOptions.startTest at h
  split at h
  . cases h
  . cases h
    exact ⟨fun h => absurd rfl h, fun _ h => by simp [StopTest.cancelled] at h⟩

/--
From a state in which `StopTest` has cancelled a run that is ending, no command is started.
-/
theorem start_notMem_of_cancelled {th : TestOptions} (bs : List TestAction) (s s' : TestHandler)
    (hinv : StopInv s) (hcancelled : s.stopper.cancelled = true)
    (hok : (handlerSystem th).Respects (fun s a => Effective s a = true) bs s)
    (hexec : (handlerSystem th).exec bs s = some s') : .start true ∉ bs := by
  induction bs generalizing s with
  | nil => exact List.not_mem_nil
  | cons b bs ih =>
    rcases ((handlerSystem th).exec_cons_eq_some).mp hexec with ⟨t, ht, hrest⟩
    have hcrashed : s.crashed = false := by
      simp only [handlerSystem, TestOptions.step] at ht
      split at ht
      . cases ht
      . next hcrashed => simpa using hcrashed
    have hrest := ih t (stopInv_step s b t hinv hok.1 ht) (cancelled_step hcancelled ht)
      (TransitionSystem.Respects.of_step _ hok ht) hrest
    rw [List.mem_cons, not_or]
    refine ⟨?_, hrest⟩
    rintro rfl
    exact not_start_of_ending (hinv.ending hcrashed (.inr hcancelled)) ht

/--
In every run in which the cancel of `StopTest` is effective, no command is started after it.
-/
theorem stopsRun_of_effective (th : TestOptions) (s₀ : TestHandler) (cs : List TestAction)
    (hstart : th.startTest = some s₀)
    (hok : (handlerSystem th).Respects (fun s a => Effective s a = true) cs s₀)
    : StopsRun th s₀ cs := by
  intro as bs s s' hcs has hbs hcancelled
  subst hcs
  have hinv := (handlerSystem th).exec_invariant stopInv_step as s₀ s (stopInv_startTest hstart)
    (TransitionSystem.Respects.append_left _ hok) has
  exact start_notMem_of_cancelled bs s s' hinv hcancelled
    (TransitionSystem.Respects.append_right _ hok has) hbs

section Instances

def stopOptions : TestOptions where
  iterations := 3
  stopOnFailure := false
  parser := fun _ => some ∅

def stopTestCall : List TestAction :=
  [.stopTest, .stopper, .stopper, .stopper, .stopper]

def stoppedRun : List TestAction :=
  [.prepare, .start true] ++ stopTestCall ++ [.kill 1, .waiter 1, .ctxDone, .receive 1, .log "" "",
    .checkStop, .close, .stopper]

theorem stopsRun_of_effective_stoppedRun
    : (∃ s, (handlerSystem stopOptions).exec stoppedRun {} = some s ∧ s.runner = .finished
          ∧ s.stopper = .joining)
        ∧ StopsRun stopOptions {} stoppedRun :=
  ⟨⟨_, rfl, rfl, rfl⟩, stopsRun_of_effective stopOptions {} stoppedRun rfl (by decide)⟩

theorem not_stopsRun
    : ¬∀ (th : TestOptions) (s₀ : TestHandler) (cs : List TestAction), th.startTest = some s₀ →
        StopsRun th s₀ cs := by
  -- the cancel reaches the first iteration after its command has completed, so that it is the
  -- context of an iteration that is over
  intro h
  have hstart := h stopOptions {} _ rfl
    ([.prepare, .start true, .exit 1, .waiter 1, .receive 1] ++ stopTestCall)
    [.log "" "", .prepare, .start true] _ _ rfl rfl rfl rfl
  simp at hstart

end Instances

end Testrunner
