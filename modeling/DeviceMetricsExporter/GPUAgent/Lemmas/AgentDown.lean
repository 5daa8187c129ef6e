import DeviceMetricsExporter.Lib.Streak
import DeviceMetricsExporter.GPUAgent.Impl.AgentDown

/-!
This module contains when an agent that is down ends the process: at the first tick that ends as many
failures in a row as are tolerated, whichever way the single ticks have failed.
-/

namespace GPUAgent

open Streak

def EventReason.isAgentDown : EventReason → Bool
  | .AgentUnreachable | .ZeroGPUsDetected | .HealthValidationFailed => true
  | .RocpctlFatalExit => false

def AgentDownFatal (cfg : MonitorConfig) (ticks : Nat → PollTick) (n : Nat) : Prop :=
  ∃ call ∈ fatalCalls cfg ticks n, call.reason.isAgentDown = true

namespace PollTick

def fails (cfg : MonitorConfig) (t : PollTick) : Bool :=
  t.reconnectFailure.isSome
    || (t.validationFailure cfg).any AgentError.isRestartableFailure

theorem poll_of_fails {cfg : MonitorConfig} {t : PollTick} (h : t.fails cfg = true) (n : Nat)
    : ∃ reason msg, t.poll cfg n = (n + 1, agentDown cfg (n + 1) reason msg)
        ∧ reason.isAgentDown = true := by
  unfold poll
  cases hreconnect : t.reconnectFailure with
  | some err => exact ⟨.AgentUnreachable, _, rfl, rfl⟩
  | none =>
    simp only [fails, hreconnect, Option.isSome_none, Bool.false_or] at h
    cases hvalidation : t.validationFailure cfg with
    | none =>
      rw [hvalidation] at h
      cases h
    | some err =>
      rw [hvalidation, Option.any_some] at h
      simp only [h, if_true]
      split
      . exact ⟨.ZeroGPUsDetected, _, rfl, rfl⟩
      . exact ⟨.HealthValidationFailed, _, rfl, rfl⟩

theorem poll_of_not_fails {cfg : MonitorConfig} {t : PollTick} (h : t.fails cfg = false) (n : Nat)
    : t.poll cfg n = (0, t.rocpctlError cfg) := by
  rw [fails, Bool.or_eq_false_iff, Option.isSome_eq_false_iff, Option.isNone_iff_eq_none] at h
  unfold poll
  rw [h.1]
  cases hvalidation : t.validationFailure cfg with
  | none => rfl
  | some err =>
    rw [hvalidation, Option.any_some] at h
    simp only [h.2, Bool.false_eq_true, if_false]

theorem mem_agentDown {cfg : MonitorConfig} {n : Nat} {reason : EventReason} {msg : String}
    {call : FatalCall}
    : call ∈ agentDown cfg n reason msg
        ↔ cfg.exitOnAgentDown = true ∧ maxConsecutiveFailures ≤ n ∧ call = ⟨reason, msg⟩ := by
  unfold agentDown
  split
  . next h => simp_all
  . next h => simp_all

theorem not_isAgentDown_of_mem_rocpctlError {cfg : MonitorConfig} {t : PollTick} {call : FatalCall}
    (h : call ∈ t.rocpctlError cfg) : call.reason.isAgentDown = false := by
  unfold rocpctlError at h
  split at h
  . rw [Option.mem_toList, Option.map_eq_some_iff] at h
    rcases h with ⟨reason, -, rfl⟩
    rfl
  . cases h

end PollTick

section Run

variable (cfg : MonitorConfig) (ticks : Nat → PollTick)

def TickFails (n : Nat) : Bool :=
  (ticks n).fails cfg

/--
Tick `n` ends a block of as many failures as are tolerated.
-/
def EndsBlock (n : Nat) : Prop :=
  Ends (TickFails cfg ticks) maxConsecutiveFailures n

theorem consecutiveFailures_succ (n : Nat)
    : consecutiveFailures cfg ticks (n + 1)
        = ((ticks n).poll cfg (consecutiveFailures cfg ticks n)).1 := rfl

theorem consecutiveFailures_eq_count (n : Nat)
    : consecutiveFailures cfg ticks n = count (TickFails cfg ticks) n := by
  induction n with
  | zero => rfl
  | succ n ih =>
    rw [consecutiveFailures_succ]
    unfold count
    split
    . next hfails =>
      rcases PollTick.poll_of_fails hfails (consecutiveFailures cfg ticks n) with ⟨_, _, hpoll, -⟩
      rw [hpoll, ih]
    . next hfails =>
      rw [PollTick.poll_of_not_fails (Bool.eq_false_iff.mpr hfails)]

theorem agentDownFatal_iff (n : Nat)
    : AgentDownFatal cfg ticks n ↔ cfg.exitOnAgentDown = true ∧ EndsBlock cfg ticks n := by
  rw [EndsBlock, ends_iff, ← consecutiveFailures_eq_count, consecutiveFailures_succ]
  unfold AgentDownFatal fatalCalls
  cases hfails : (ticks n).fails cfg with
  | true =>
    rcases PollTick.poll_of_fails hfails (consecutiveFailures cfg ticks n) with
      ⟨reason, msg, hpoll, hreason⟩
    simp only [hpoll, PollTick.mem_agentDown]
    constructor
    . rintro ⟨call, ⟨hexit, hle, -⟩, -⟩
      exact ⟨hexit, hle⟩
    . rintro ⟨hexit, hle⟩
      exact ⟨_, ⟨hexit, hle, rfl⟩, hreason⟩
  | false =>
    simp only [PollTick.poll_of_not_fails hfails]
    constructor
    . rintro ⟨call, hmem, hreason⟩
      rw [PollTick.not_isAgentDown_of_mem_rocpctlError hmem] at hreason
      cases hreason
    . rintro ⟨-, hle⟩
      exact absurd hle (by decide)

/--
With `exitOnAgentDown`, the first call of `events.Fatal` for an agent that is down is made at the
first tick that ends a block of failures. Without such a block or without `exitOnAgentDown` there is
none.
-/
theorem firstAt_agentDownFatal
    : (∀ n, FirstAt (AgentDownFatal cfg ticks) n
          ↔ cfg.exitOnAgentDown = true ∧ FirstAt (EndsBlock cfg ticks) n)
        ∧ ((∀ n, ¬EndsBlock cfg ticks n) ∨ cfg.exitOnAgentDown = false →
          ∀ n, ¬AgentDownFatal cfg ticks n) := by
  constructor
  . intro n
    cases hexit : cfg.exitOnAgentDown with
    | true =>
      rw [FirstAt.congr (agentDownFatal_iff cfg ticks) n]
      simp only [hexit, true_and]
    | false =>
      constructor
      . rintro ⟨hfatal, -⟩
        rw [agentDownFatal_iff, hexit] at hfatal
        exact absurd hfatal.1 Bool.false_ne_true
      . rintro ⟨hexit, -⟩
        cases hexit
  . intro hnone n hfatal
    rw [agentDownFatal_iff] at hfatal
    rcases hnone with hnone | hexit
    . exact hnone n hfatal.2
    . rw [hexit] at hfatal
      cases hfatal.1

end Run

section Monitor

variable {cfg : MonitorConfig} {s s' : Monitor} {t : Tick}

theorem isRestartableFailure_toError (err : HealthError)
    : err.toError.isRestartableFailure = isRestartableFailure err := by
  cases err with
  | computeNodeUnhealthy => rfl
  | errAgentUnreachable => rfl
  | errZeroGPUs => rfl

/--
The tick leaves the counter of the monitor, and the process alive, as `poll` says.
-/
def Counts (cfg : MonitorConfig) (s s' : Monitor) (p : PollTick) : Prop :=
  s'.consecutiveFailures = (p.poll cfg s.consecutiveFailures).1
    ∧ (s'.alive = true ↔ (p.poll cfg s.consecutiveFailures).2 = [])

theorem counts_fail {p : PollTick} (hfails : p.fails cfg = true)
    (hcount : s'.consecutiveFailures = (s.fail cfg).consecutiveFailures)
    (halive : s'.alive = (s.fail cfg).alive) : Counts cfg s s' p := by
  rcases p.poll_of_fails hfails s.consecutiveFailures with ⟨reason, msg, hpoll, -⟩
  unfold Counts
  rw [hpoll, hcount, halive]
  refine ⟨rfl, ?_⟩
  simp only [Monitor.fail, PollTick.agentDown]
  split
  . next hdown => simp [hdown]
  . next hdown => simp [hdown]

theorem counts_succeed {err : Option HealthError} {t : Tick} {s₁ : Monitor}
    (hfails : (t.toPoll err).fails cfg = false)
    : Counts cfg s (s₁.succeed cfg t) (t.toPoll err) := by
  unfold Counts
  rw [PollTick.poll_of_not_fails hfails]
  refine ⟨rfl, ?_⟩
  simp only [Monitor.succeed, PollTick.rocpctlError, Tick.toPoll]
  cases cfg.exitOnRocpctlError && cfg.enableGPUMonitoring with
  | false => simp
  | true =>
    cases t.disabledOnFailure with
    | false => simp
    | true => simp

/--
What one tick does to the counter of the monitor, and whether it ends the process, is what counting
its failures says, where `err` is the error of its validation if there is one.
-/
theorem tick_counts [CaseMap] (h : s.tick cfg t = some s')
    : ∃ err, Counts cfg s s' (t.toPoll err)
        ∧ (cfg.enableGPUMonitoring = true → (t.active || t.reconnects) = true →
          ∃ client,
            s.client.processHealthValidation t.time t.cfg t.data = some (client, err)) := by
  unfold Monitor.tick at h
  split at h
  . next hreach =>
    cases h
    rw [Bool.and_eq_true, Bool.not_eq_true', Bool.not_eq_true'] at hreach
    refine ⟨none, counts_fail ?_ rfl rfl, ?_⟩
    . simp [PollTick.fails, PollTick.reconnectFailure, Tick.toPoll, hreach]
    . intro _ hreach'
      simp [hreach] at hreach'
  . next hreach =>
    have hreconnect (err : Option HealthError) : (t.toPoll err).reconnectFailure = none := by
      simp only [PollTick.reconnectFailure, Tick.toPoll]
      grind
    split at h
    . next hdisabled =>
      cases h
      refine ⟨none, counts_succeed ?_, ?_⟩
      . rw [PollTick.fails, hreconnect]
        simp [PollTick.validationFailure, Tick.toPoll]
      . intro henabled
        rw [henabled] at hdisabled
        cases hdisabled
    . next hdisabled =>
      rw [Bool.not_eq_true', Bool.not_eq_false] at hdisabled
      rcases Option.bind_eq_some_iff.mp h with ⟨⟨client, err⟩, hrun, htick⟩
      refine ⟨err, ?_, fun _ _ => ⟨client, hrun⟩⟩
      have hfails : (t.toPoll err).fails cfg = err.any isRestartableFailure := by
        simp only [PollTick.fails, hreconnect, PollTick.validationFailure, hdisabled, if_true,
          Option.isSome_none, Bool.false_or]
        cases err with
        | none => rfl
        | some err => exact isRestartableFailure_toError err
      cases err with
      | none =>
        rcases Option.map_eq_some_iff.mp htick with ⟨s₁, -, rfl⟩
        exact counts_succeed hfails
      | some err =>
        dsimp only at htick
        split at htick
        . next hrestartable =>
          split at htick
          . rcases Option.map_eq_some_iff.mp htick with ⟨api, -, rfl⟩
            exact counts_fail (hfails.trans hrestartable) rfl rfl
          . cases htick
            exact counts_fail (hfails.trans hrestartable) rfl rfl
        . next hrestartable =>
          cases htick
          exact counts_succeed (hfails.trans (Bool.eq_false_iff.mpr hrestartable))

end Monitor

end GPUAgent
