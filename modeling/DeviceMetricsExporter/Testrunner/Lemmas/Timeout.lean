import DeviceMetricsExporter.Testrunner.Lemmas.TestHandler

/-!
This module contains when a timeout that `runTest` records is a real one: the context of an iteration
must not be cancelled by the goroutine of an earlier iteration, nor after its command has ended by
itself and before `runTest` has noticed.
-/

namespace Testrunner

/--
Among the steps taken there is a timeout of pass `k` or a call of `StopTest`, and the command of pass
`k` has not ended by itself before it.
-/
def Justified (as : List TestAction) (k : Nat) : Prop :=
  ∃ as₁ a as₂, as = as₁ ++ a :: as₂ ∧ (a = .timeout k ∨ a = .stopTest) ∧ .exit k ∉ as₁

/--
Whatever the run `cs` records as timed out is justified by the steps before.
-/
def NoSpuriousTimeout (th : TestOptions) (s₀ : TestHandler) (cs : List TestAction) : Prop :=
  ∀ as stdout stderr bs s k, cs = as ++ .log stdout stderr :: bs →
    (handlerSystem th).exec as s₀ = some s → s.runner = .logging k .TestTimedOut → Justified as k

/--
The context of the iteration in `select` is not cancelled by the goroutine of another one. It neither
times out nor is `StopTest` called after its command has ended by itself.
-/
def Undisturbed (s : TestHandler) (a : TestAction) : Bool :=
  match a with
  | .waiter j =>
    match (s.iteration j).waiter, s.cancelFunc with
    | .cancelling .call, some k => s.runner ≠ .selecting k || (s.iteration k).ctxDone
    | _, _ => true
  | .timeout k => s.runner ≠ .selecting k || (s.iteration k).command ≠ .exited
  | .stopTest =>
    match s.runner with
    | .selecting k => (s.iteration k).command ≠ .exited
    | _ => true
  | _ => true

namespace RunTest

def Pending (r : RunTest) (k : Nat) : Prop :=
  match r with
  | .starting i | .launching i | .selecting i => i ≤ k
  | .draining i | .logging i _ | .checkingStop i => i < k
  | .closing | .signalling | .finished => False

def Unstarted (r : RunTest) (k : Nat) : Prop :=
  match r with
  | .starting i | .launching i => i ≤ k
  | .selecting i | .draining i | .logging i _ | .checkingStop i => i < k
  | .closing | .signalling | .finished => False

theorem lt_of_pending_next {th : TestOptions} {i k : Nat} (h : (th.next i).Pending k) : i < k := by
  unfold TestOptions.next at h
  split at h
  . exact h
  . exact h.elim

theorem lt_of_unstarted_next {th : TestOptions} {i k : Nat} (h : (th.next i).Unstarted k)
    : i < k := by
  unfold TestOptions.next at h
  split at h
  . exact h
  . exact h.elim

theorem Pending.selecting_or_unstarted {r : RunTest} {k : Nat} (h : r.Pending k)
    : r = .selecting k ∨ r.Unstarted k := by
  cases r with
  | selecting i =>
    rcases Nat.eq_or_lt_of_le h with rfl | hlt
    . exact .inl rfl
    . exact .inr hlt
  | _ => exact .inr h

end RunTest

structure TimeoutInv (as : List TestAction) (s : TestHandler) : Prop where
  unstarted : ∀ k, s.runner.Unstarted k → (s.iteration k).command = .notStarted
  exited : ∀ k, .exit k ∈ as → (s.iteration k).command = .exited
  selecting : ∀ k, s.runner = .selecting k → (s.iteration k).ctxDone = true → Justified as k
  timedOut : ∀ k, s.runner = .draining k ∨ s.runner = .logging k .TestTimedOut → Justified as k
  stopped : s.stopper ≠ .idle → ∀ k, s.runner.Pending k → Justified as k

theorem Justified.snoc {as : List TestAction} {k : Nat} (h : Justified as k) (a : TestAction)
    : Justified (as ++ [a]) k := by
  rcases h with ⟨as₁, b, as₂, rfl, hb, hexit⟩
  exact ⟨as₁, b, as₂ ++ [a], by simp, hb, hexit⟩

theorem justified_last {as : List TestAction} {a : TestAction} {k : Nat}
    (ha : a = .timeout k ∨ a = .stopTest) (hexit : .exit k ∉ as) : Justified (as ++ [a]) k :=
  ⟨as, a, [], rfl, ha, hexit⟩

section Step

variable {th : TestOptions} {as : List TestAction} {s s' : TestHandler} {a : TestAction}

theorem TimeoutInv.exit_notMem (hinv : TimeoutInv as s) {k : Nat}
    (h : (s.iteration k).command ≠ .exited) : .exit k ∉ as :=
  fun hmem => h (hinv.exited k hmem)

theorem TimeoutInv.of_runner_eq (hinv : TimeoutInv as s) (hrunner : s'.runner = s.runner)
    (hcommand : ∀ k, (s'.iteration k).command = (s.iteration k).command) (ha : ∀ k, a ≠ .exit k)
    (hctx : ∀ k, s.runner = .selecting k → (s'.iteration k).ctxDone = true →
      (s.iteration k).ctxDone = true ∨ Justified (as ++ [a]) k)
    (hstopper : s'.stopper ≠ .idle → s.stopper ≠ .idle ∨
      ∀ k, s.runner.Pending k → Justified (as ++ [a]) k)
    : TimeoutInv (as ++ [a]) s' where
  unstarted k h := by
    rw [hrunner] at h
    rw [hcommand]
    exact hinv.unstarted k h
  exited k h := by
    rw [hcommand]
    apply hinv.exited
    simpa [(ha k).symm] using h
  selecting k h hdone := by
    rw [hrunner] at h
    rcases hctx k h hdone with hold | hjust
    . exact (hinv.selecting k h hold).snoc a
    . exact hjust
  timedOut k h := by
    rw [hrunner] at h
    exact (hinv.timedOut k h).snoc a
  stopped h k hpending := by
    rw [hrunner] at hpending
    rcases hstopper h with hold | hjust
    . exact (hinv.stopped hold k hpending).snoc a
    . exact hjust k hpending

theorem TimeoutInv.of_runner (hinv : TimeoutInv as s)
    (hcommand : ∀ k, (s'.iteration k).command = (s.iteration k).command) (ha : ∀ k, a ≠ .exit k)
    (hstopper : s'.stopper ≠ .idle → s.stopper ≠ .idle)
    (hpending : ∀ k, s'.runner.Pending k → s.runner.Pending k)
    (hunstarted : ∀ k, s'.runner.Unstarted k → s.runner.Unstarted k)
    (hselecting : ∀ k, s'.runner ≠ .selecting k)
    (htimedOut : ∀ k, s'.runner = .draining k ∨ s'.runner = .logging k .TestTimedOut →
      Justified as k)
    : TimeoutInv (as ++ [a]) s' where
  unstarted k h := by
    rw [hcommand]
    exact hinv.unstarted k (hunstarted k h)
  exited k h := by
    rw [hcommand]
    apply hinv.exited
    simpa [(ha k).symm] using h
  selecting k h _ := absurd h (hselecting k)
  timedOut k h := (htimedOut k h).snoc a
  stopped h k hk := (hinv.stopped (hstopper h) k (hpending k hk)).snoc a

theorem TimeoutInv.of_next (hinv : TimeoutInv as s) (th : TestOptions) {k : Nat} (ha : ∀ k, a ≠ .exit k)
    (hiteration : s'.iteration = s.iteration) (hstopper : s'.stopper = s.stopper)
    (hrunner : s'.runner = .closing ∨ s'.runner = th.next k)
    (hpending : ∀ j, k < j → s.runner.Pending j) (hunstarted : ∀ j, k < j → s.runner.Unstarted j)
    : TimeoutInv (as ++ [a]) s' := by
  apply hinv.of_runner (fun _ => by rw [hiteration]) ha (by rw [hstopper]; exact id)
  . intro j h
    rcases hrunner with hrunner | hrunner
    . rw [hrunner] at h
      exact h.elim
    . rw [hrunner] at h
      exact hpending j (RunTest.lt_of_pending_next h)
  . intro j h
    rcases hrunner with hrunner | hrunner
    . rw [hrunner] at h
      exact h.elim
    . rw [hrunner] at h
      exact hunstarted j (RunTest.lt_of_unstarted_next h)
  . intro j h
    rcases hrunner with hrunner | hrunner
    . rw [hrunner] at h
      cases h
    . rw [hrunner, TestOptions.next] at h
      split at h <;> cases h
  . intro j h
    rcases hrunner with hrunner | hrunner
    . rw [hrunner] at h
      rcases h with h | h <;> cases h
    . rw [hrunner, TestOptions.next] at h
      rcases h with h | h <;> split at h <;> cases h

theorem timeoutInv_started (hinv : TimeoutInv as s) {k : Nat} (h : s.runner = .launching k)
    (hctx : (s.iteration k).ctxDone = false)
    : TimeoutInv (as ++ [.start true])
        { (s.setCommand k .running).setWaiter k .waiting with runner := .selecting k } where
  unstarted j hj := by
    have hne : j ≠ k := Nat.ne_of_gt hj
    simp only [TestHandler.setWaiter_command, TestHandler.setCommand_command, hne, if_false]
    apply hinv.unstarted
    rw [h]
    exact Nat.le_of_lt hj
  exited j hj := by
    have hold : (s.iteration j).command = .exited := hinv.exited j (by simpa using hj)
    have hne : j ≠ k := by
      rintro rfl
      rw [hinv.unstarted j (by rw [h]; exact Nat.le_refl j)] at hold
      cases hold
    simpa [TestHandler.setCommand_command, hne] using hold
  selecting j hj hdone := by
    cases hj
    simp [hctx] at hdone
  timedOut j hj := by
    rcases hj with hj | hj <;> cases hj
  stopped hstopper j hj := by
    apply Justified.snoc
    apply hinv.stopped hstopper
    rw [h]
    exact hj

theorem timeoutInv_setCommand (hinv : TimeoutInv as s) {k : Nat} {command : Command}
    (h : (s.iteration k).command = .running) (ha : ∀ j, a = .exit j → j = k ∧ command = .exited)
    : TimeoutInv (as ++ [a]) (s.setCommand k command) where
  unstarted j hj := by
    have hold := hinv.unstarted j hj
    have hne : j ≠ k := by
      rintro rfl
      rw [h] at hold
      cases hold
    simpa [TestHandler.setCommand_command, hne] using hold
  exited j hj := by
    rw [TestHandler.setCommand_command]
    rcases List.mem_append.mp hj with hj | hj
    . have hold := hinv.exited j hj
      have hne : j ≠ k := by
        rintro rfl
        rw [h] at hold
        cases hold
      rwa [if_neg hne]
    . rcases ha j (List.mem_singleton.mp hj).symm with ⟨rfl, rfl⟩
      rw [if_pos rfl]
  selecting j hj hdone := by
    rw [TestHandler.setCommand_ctxDone] at hdone
    exact (hinv.selecting j hj hdone).snoc a
  timedOut j hj := (hinv.timedOut j hj).snoc a
  stopped hstopper j hj := (hinv.stopped hstopper j hj).snoc a

theorem timeoutInv_runTest (hinv : TimeoutInv as s) (hstep : RunTestStep th s a s')
    : TimeoutInv (as ++ [a]) s' := by
  cases hstep with
  | prepare k h =>
    refine hinv.of_runner (fun _ => rfl) nofun id ?_ ?_ ?_ ?_ <;> simp [h, RunTest.Pending, RunTest.Unstarted]
  | started k h hctx => exact timeoutInv_started hinv h hctx
  | notStarted k h =>
    refine hinv.of_next th nofun rfl rfl (.inr rfl) ?_ ?_
    . intro j hj
      rw [h]
      exact Nat.le_of_lt hj
    . intro j hj
      rw [h]
      exact Nat.le_of_lt hj
  | completed k j h hj =>
    refine hinv.of_runner (fun _ => by simp) nofun id ?_ ?_ ?_ ?_
    . intro i hi
      rw [h]
      exact Nat.le_of_lt hi
    . simp [h, RunTest.Unstarted]
    . simp
    . simp
  | ctxDone k h hctx =>
    refine hinv.of_runner (fun _ => rfl) nofun id ?_ ?_ ?_ ?_
    . intro i hi
      rw [h]
      exact Nat.le_of_lt hi
    . simp [h, RunTest.Unstarted]
    . simp
    . intro i hi
      rcases hi with hi | hi
      . cases hi
        exact hinv.selecting k h hctx
      . cases hi
  | drained k j h hj =>
    refine hinv.of_runner (fun _ => by simp) nofun id ?_ ?_ ?_ ?_
    . simp [h, RunTest.Pending]
    . simp [h, RunTest.Unstarted]
    . simp
    . intro i hi
      rcases hi with hi | hi
      . cases hi
      . cases hi
        exact hinv.timedOut k (.inl h)
  | log k status stdout stderr h iterResults runner hrunner =>
    rcases hrunner with rfl | ⟨rfl, rfl⟩ | ⟨rfl, -⟩
    . refine hinv.of_runner (fun _ => rfl) nofun id ?_ ?_ ?_ ?_ <;>
        simp [RunTest.Pending, RunTest.Unstarted]
    . refine hinv.of_runner (fun _ => rfl) nofun id ?_ ?_ ?_ ?_ <;> simp [h, RunTest.Pending, RunTest.Unstarted]
    . exact hinv.of_next th nofun rfl rfl (.inr rfl) (by rw [h]; exact fun _ => id)
        (by rw [h]; exact fun _ => id)
  | checkStop k h =>
    refine hinv.of_next th nofun rfl rfl ?_ (by rw [h]; exact fun _ => id)
      (by rw [h]; exact fun _ => id)
    dsimp only
    split
    . exact .inl rfl
    . exact .inr rfl
  | close h =>
    refine hinv.of_runner (fun _ => rfl) nofun id ?_ ?_ ?_ ?_ <;> simp [RunTest.Pending, RunTest.Unstarted]
  | done h =>
    refine hinv.of_runner (fun _ => rfl) nofun id ?_ ?_ ?_ ?_ <;> simp [RunTest.Pending, RunTest.Unstarted]

theorem TimeoutInv.of_cancelStep (hinv : TimeoutInv as s) {t : TestHandler} {c : CancelCtx}
    {c' : Option CancelCtx} (hcancel : CancelStep s c t c') (ha : ∀ k, a ≠ .exit k)
    (hcall : ∀ k, c = .call → s.cancelFunc = some k → s.runner = .selecting k →
      (s.iteration k).ctxDone = true ∨ Justified (as ++ [a]) k)
    (hrunner : s'.runner = t.runner)
    (hcommand : ∀ k, (s'.iteration k).command = (t.iteration k).command)
    (hctxDone : ∀ k, (s'.iteration k).ctxDone = (t.iteration k).ctxDone)
    (hstopper : s'.stopper ≠ .idle → s.stopper ≠ .idle)
    : TimeoutInv (as ++ [a]) s' := by
  have htrunner : t.runner = s.runner := by
    cases hcancel <;> rfl
  have htcommand (k : Nat) : (t.iteration k).command = (s.iteration k).command := by
    cases hcancel with
    | call j _ => exact TestHandler.cancel_command s j k
    | _ => rfl
  apply hinv.of_runner_eq (hrunner.trans htrunner) (fun k => (hcommand k).trans (htcommand k)) ha
  . intro k hselecting hdone
    rw [hctxDone] at hdone
    cases hcancel with
    | call j hj =>
      rw [TestHandler.cancel_ctxDone, Bool.or_eq_true, decide_eq_true_eq] at hdone
      rcases hdone with rfl | hold
      . exact hcall k rfl hj hselecting
      . exact .inl hold
    | _ => exact .inl hdone
  . exact fun h => .inl (hstopper h)

theorem timeoutInv_step (as : List TestAction) (s : TestHandler) (a : TestAction)
    (s' : TestHandler) (hinv : TimeoutInv as s) (hok : Undisturbed s a = true)
    (hstep : (handlerSystem th).step s a = some s') : TimeoutInv (as ++ [a]) s' := by
  cases handlerStep_of_step hstep with
  | runTest a s' h => exact timeoutInv_runTest hinv h
  | exit k h =>
    apply timeoutInv_setCommand hinv h
    intro j hj
    cases hj
    exact ⟨rfl, rfl⟩
  | kill k h hctx => exact timeoutInv_setCommand hinv h nofun
  | timeout k =>
    refine hinv.of_runner_eq rfl (TestHandler.cancel_command s k) nofun ?_ .inl
    intro j hselecting hdone
    rw [TestHandler.cancel_ctxDone, Bool.or_eq_true, decide_eq_true_eq] at hdone
    rcases hdone with rfl | hold
    . have hrunning : (s.iteration j).command ≠ .exited := by
        simpa [Undisturbed, hselecting] using hok
      exact .inr (justified_last (.inl rfl) (hinv.exit_notMem hrunning))
    . exact .inl hold
  | waited k =>
    exact hinv.of_runner_eq rfl (fun j => by simp) nofun
      (fun j _ hdone => .inl (by simpa using hdone)) .inl
  | waiterCancel k c h t c' hcancel =>
    refine hinv.of_cancelStep hcancel nofun ?_ rfl (fun j => by simp) (fun j => by simp) ?_
    . rintro j rfl hj hselecting
      exact .inl (by simpa [Undisturbed, h, hj, hselecting] using hok)
    . cases hcancel <;> exact id
  | stopCalled h =>
    refine hinv.of_runner_eq rfl (fun _ => rfl) nofun (fun _ _ hdone => .inl hdone) ?_
    intro _
    apply Or.inr
    intro k hk
    apply justified_last (.inr rfl)
    apply hinv.exit_notMem
    rcases hk.selecting_or_unstarted with hselecting | hunstarted
    . simpa [Undisturbed, hselecting] using hok
    . rw [hinv.unstarted k hunstarted]
      nofun
  | stopFlagged h =>
    refine hinv.of_runner_eq rfl (fun _ => rfl) nofun (fun _ _ hdone => .inl hdone) ?_
    exact fun _ => .inl (by simp [h])
  | stopCancel c h t c' hcancel =>
    refine hinv.of_cancelStep hcancel nofun ?_ rfl (fun _ => rfl) (fun _ => rfl) (by simp [h])
    intro k _ _ hselecting
    apply Or.inr
    apply Justified.snoc
    apply hinv.stopped (by simp [h])
    rw [hselecting]
    exact Nat.le_refl k
  | stopDone h hrunner =>
    refine hinv.of_runner (fun _ => rfl) nofun (by simp [h]) ?_ ?_ ?_ ?_ <;>
      simp [RunTest.Pending, RunTest.Unstarted]
  | waiterPanic k => exact hinv.of_runner_eq rfl (fun _ => rfl) nofun (fun _ _ => .inl) .inl
  | stopPanic h => exact hinv.of_runner_eq rfl (fun _ => rfl) nofun (fun _ _ => .inl) .inl

end Step

theorem timeoutInv_startTest {th : TestOptions} {s₀ : TestHandler} (h : th.startTest = some s₀)
    : TimeoutInv [] s₀ := by
  unfold TestOptions.startTest at h
  split at h
  . cases h
  . cases h
    exact ⟨fun _ _ => rfl, nofun, nofun, nofun, fun h => absurd rfl h⟩

/--
In every run in which nothing disturbs the `select` of an iteration, an iteration is recorded as
timed out only after its own timeout or a call of `StopTest`, with its command still running then.
-/
theorem noSpuriousTimeout_of_undisturbed (th : TestOptions) (s₀ : TestHandler)
    (cs : List TestAction) (hstart : th.startTest = some s₀)
    (hok : (handlerSystem th).Respects (fun s a => Undisturbed s a = true) cs s₀)
    : NoSpuriousTimeout th s₀ cs := by
  intro as stdout stderr bs s k hcs hexec hlogging
  subst hcs
  have hinv := (handlerSystem th).exec_history timeoutInv_step as [] s₀ s
    (timeoutInv_startTest hstart) (TransitionSystem.Respects.append_left _ hok) hexec
  exact hinv.timedOut k (.inr hlogging)

section Instances

def twoIterations : TestOptions where
  iterations := 2
  stopOnFailure := false
  parser := fun _ => some ∅

/--
The steps of `runTest` and of its command until the goroutine of pass `k` is about to send.
-/
def untilSending (k : Nat) : List TestAction :=
  [.prepare, .start true, .exit k, .waiter k]

def timedOutIteration (k : Nat) : List TestAction :=
  [.prepare, .start true, .timeout k, .kill k, .waiter k, .ctxDone, .receive k]

theorem noSpuriousTimeout_of_undisturbed_timedOut
    : ∃ s, (handlerSystem twoIterations).exec (timedOutIteration 1) {} = some s
        ∧ s.runner = .logging 1 .TestTimedOut
        ∧ NoSpuriousTimeout twoIterations {} (timedOutIteration 1 ++ [.log "" ""]) :=
  ⟨_, rfl, rfl, noSpuriousTimeout_of_undisturbed twoIterations {} _ rfl (by decide)⟩

theorem not_noSpuriousTimeout
    : ¬∀ (th : TestOptions) (s₀ : TestHandler) (cs : List TestAction), th.startTest = some s₀ →
        NoSpuriousTimeout th s₀ cs := by
  -- the goroutine of pass 1 cancels the context of pass 2, whose command then exits by itself
  intro h
  have hjustified := h twoIterations {} _ rfl
    (untilSending 1 ++ [.receive 1, .log "" "", .prepare, .start true] ++ [.waiter 1, .waiter 1]
      ++ [.exit 2, .waiter 2, .ctxDone, .receive 2])
    "" "" [] _ 2 rfl rfl rfl
  rcases hjustified with ⟨as₁, a, as₂, heq, ha, -⟩
  have hmem : a ∈ untilSending 1 ++ [.receive 1, .log "" "", .prepare, .start true]
      ++ [.waiter 1, .waiter 1] ++ [.exit 2, .waiter 2, .ctxDone, .receive 2] := by
    rw [heq]
    simp
  rcases ha with rfl | rfl
  . revert hmem
    decide
  . revert hmem
    decide

end Instances

end Testrunner
