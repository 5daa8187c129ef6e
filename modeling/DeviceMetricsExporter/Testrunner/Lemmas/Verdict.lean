import Mathlib.Algebra.Group.Nat.Defs
import DeviceMetricsExporter.Testrunner.Lemmas.Results

/-!
This module contains what `runTest` records for a sequence of outcomes and when a verdict of success
on these records is earned.
-/

namespace Testrunner

namespace Outcome

def record (th : TestOptions) (i : UInt32) : Outcome → Option IterationResult
  | .notStarted => none
  | .exited stdout stderr => some (th.iterationResult i .TestCompleted stdout stderr)
  | .timedOut stdout stderr => some (th.iterationResult i .TestTimedOut stdout stderr)

def actions (th : TestOptions) : Outcome → List TestResult
  | .notStarted => []
  | .exited stdout _ | .timedOut stdout _ => actionsOf ((th.parser stdout).getD ∅)

def clean (th : TestOptions) : Outcome → Bool
  | .notStarted => true
  | .exited stdout _ => cleanSuites ((th.parser stdout).getD ∅)
  | .timedOut _ _ => false

end Outcome

def recordsFrom (th : TestOptions) (i : Nat) : List Outcome → List IterationResult
  | [] => []
  | outcome :: outcomes =>
    (outcome.record th (UInt32.ofNat i)).toList ++ recordsFrom th (i + 1) outcomes

/--
A verdict of success is earned: there is one record for each iteration and an action that passed.
-/
def PassEarned (th : TestOptions) (records : List IterationResult) (validIDs : List String) : Prop :=
  (getOverallResult records validIDs).1 = .Success →
    (∀ i, 1 ≤ i → i ≤ th.iterations → records.countP (·.number = i) = 1)
      ∧ ∃ r ∈ records, .Success ∈ r.actions

/--
An outcome prevents the success, or actions were skipped and none passed, or every command was
started and an action passed.
-/
def Earnable (th : TestOptions) (outcomes : List Outcome) : Prop :=
  (∃ outcome ∈ outcomes, outcome.clean th = false) ∨
    ((∀ outcome ∈ outcomes, .Success ∉ outcome.actions th)
      ∧ ∃ outcome ∈ outcomes, .Skipped ∈ outcome.actions th) ∨
    (∀ outcome ∈ outcomes, outcome ≠ .notStarted)
      ∧ ∃ outcome ∈ outcomes, .Success ∈ outcome.actions th

variable (th : TestOptions)

theorem toNat_ofNat {i : Nat} (h : i < 2 ^ 32) : (UInt32.ofNat i).toNat = i :=
  UInt32.toNat_ofNat_of_lt' h

theorem ofNat_le_iterations_iff {i : Nat} (h : i < 2 ^ 32)
    : UInt32.ofNat i ≤ th.iterations ↔ i ≤ th.iterations.toNat := by
  rw [UInt32.le_iff_toNat_le, toNat_ofNat h]

theorem logResults_eq (hstop : th.stopOnFailure = false) (iterResults : List IterationResult)
    (i : UInt32) (status : CommandStatus) (stdout stderr : String)
    : th.logResults iterResults i status stdout stderr
      = (iterResults ++ [th.iterationResult i status stdout stderr], false) := by
  simp [TestOptions.logResults, TestOptions.stopsAfter, hstop]

/--
The loop consumes one outcome for each iteration. With the largest number of iterations its counter
overflows and it does not end.
-/
theorem runTest.go_eq (hstop : th.stopOnFailure = false) (outcomes : List Outcome) (i : Nat)
    (iterResults : List IterationResult) (hi : i + outcomes.length = th.iterations.toNat + 1)
    : runTest.go th iterResults (UInt32.ofNat i) outcomes
      = if th.iterations.toNat + 1 < 2 ^ 32 then some (iterResults ++ recordsFrom th i outcomes)
        else none := by
  have hmax : th.iterations.toNat < 2 ^ 32 := th.iterations.toNat_lt
  induction outcomes generalizing i iterResults with
  | nil =>
    simp only [List.length_nil, Nat.add_zero] at hi
    simp only [go, recordsFrom, List.append_nil]
    by_cases hlt : th.iterations.toNat + 1 < 2 ^ 32
    . have hend : ¬UInt32.ofNat i ≤ th.iterations := by
        rw [ofNat_le_iterations_iff th (by omega)]
        omega
      rw [if_neg hend, if_pos hlt]
    . have hwrap : UInt32.ofNat i = 0 := by
        rw [hi, show th.iterations.toNat + 1 = 2 ^ 32 by omega]
        rfl
      have hloop : UInt32.ofNat i ≤ th.iterations := by
        rw [hwrap]
        exact UInt32.zero_le
      rw [if_pos hloop, if_neg hlt]
  | cons outcome outcomes ih =>
    simp only [List.length_cons] at hi
    have hle : UInt32.ofNat i ≤ th.iterations := by
      rw [ofNat_le_iterations_iff th (by omega)]
      omega
    have hsucc : UInt32.ofNat i + 1 = UInt32.ofNat (i + 1) := by
      rw [UInt32.ofNat_add]
      rfl
    have ih := fun iterResults => ih (i + 1) iterResults (by omega)
    cases outcome with
    | notStarted =>
      simp only [go, hle, if_true, hsucc, ih]
      rfl
    | exited stdout stderr =>
      simp only [go, hle, if_true, hsucc, logResults_eq th hstop, Bool.false_eq_true, if_false, ih,
        recordsFrom, Outcome.record, Option.toList_some, List.append_assoc]
    | timedOut stdout stderr =>
      simp only [go, hle, if_true, hsucc, logResults_eq th hstop, Bool.false_eq_true, if_false, ih,
        recordsFrom, Outcome.record, Option.toList_some, List.append_assoc]

theorem runTest_eq_some_iff (hstop : th.stopOnFailure = false) (outcomes : List Outcome)
    (hlen : outcomes.length = th.iterations.toNat) (records : List IterationResult)
    : runTest th outcomes = some records ↔
        th.iterations ≠ 0 ∧ th.iterations.toNat + 1 < 2 ^ 32
          ∧ records = recordsFrom th 1 outcomes := by
  unfold runTest
  split
  . next h => simp [h]
  . next h =>
    rw [show (1 : UInt32) = UInt32.ofNat 1 from rfl, runTest.go_eq th hstop outcomes 1 [] (by omega)]
    simp [h, eq_comm]

theorem mem_recordsFrom {outcomes : List Outcome} {i : Nat} {r : IterationResult}
    : r ∈ recordsFrom th i outcomes ↔
        ∃ (j : Nat) (outcome : Outcome), outcomes[j]? = some outcome
          ∧ outcome.record th (UInt32.ofNat (i + j)) = some r := by
  induction outcomes generalizing i with
  | nil => simp [recordsFrom]
  | cons outcome outcomes ih =>
    simp only [recordsFrom, List.mem_append, Option.mem_toList, ih]
    constructor
    . rintro (hr | ⟨j, o, ho, hr⟩)
      . exact ⟨0, outcome, rfl, hr⟩
      . exact ⟨j + 1, o, ho, by rwa [← Nat.add_assoc, Nat.add_right_comm]⟩
    . rintro ⟨j, o, ho, hr⟩
      cases j with
      | zero =>
        cases ho
        exact .inl hr
      | succ j => exact .inr ⟨j, o, ho, by rwa [Nat.add_assoc, Nat.add_comm 1]⟩

theorem exists_recordsFrom_iff {p : IterationResult → Prop} {q : Outcome → Prop}
    (h : ∀ outcome i, (∃ r, outcome.record th i = some r ∧ p r) ↔ q outcome)
    (outcomes : List Outcome) (i : Nat)
    : (∃ r ∈ recordsFrom th i outcomes, p r) ↔ ∃ outcome ∈ outcomes, q outcome := by
  constructor
  . rintro ⟨r, hr, hp⟩
    rcases (mem_recordsFrom th).mp hr with ⟨j, outcome, ho, hrecord⟩
    exact ⟨outcome, List.mem_of_getElem? ho, (h outcome _).mp ⟨r, hrecord, hp⟩⟩
  . rintro ⟨outcome, ho, hq⟩
    rcases List.getElem?_of_mem ho with ⟨j, hj⟩
    rcases (h outcome (UInt32.ofNat (i + j))).mpr hq with ⟨r, hrecord, hp⟩
    exact ⟨r, (mem_recordsFrom th).mpr ⟨j, outcome, hj, hrecord⟩, hp⟩

theorem exists_mem_actions_iff (result : TestResult) (outcomes : List Outcome) (i : Nat)
    : (∃ r ∈ recordsFrom th i outcomes, result ∈ r.actions) ↔
        ∃ outcome ∈ outcomes, result ∈ outcome.actions th := by
  apply exists_recordsFrom_iff
  intro outcome i
  cases outcome with
  | notStarted => simp [Outcome.record, Outcome.actions]
  | exited stdout stderr =>
    simp [Outcome.record, Outcome.actions, IterationResult.actions, TestOptions.iterationResult]
  | timedOut stdout stderr =>
    simp [Outcome.record, Outcome.actions, IterationResult.actions, TestOptions.iterationResult]

theorem exists_not_clean_iff (outcomes : List Outcome) (i : Nat)
    : (∃ r ∈ recordsFrom th i outcomes, r.clean = false) ↔
        ∃ outcome ∈ outcomes, outcome.clean th = false := by
  apply exists_recordsFrom_iff
  intro outcome i
  cases outcome with
  | notStarted => simp [Outcome.record, Outcome.clean]
  | exited stdout stderr =>
    simp [Outcome.record, Outcome.clean, IterationResult.clean, TestOptions.iterationResult]
  | timedOut stdout stderr =>
    simp [Outcome.record, Outcome.clean, IterationResult.clean, TestOptions.iterationResult]

theorem countP_record (outcome : Outcome) (i j : UInt32)
    : (outcome.record th i).toList.countP (·.number = j)
      = if i = j ∧ outcome ≠ .notStarted then 1 else 0 := by
  cases outcome with
  | notStarted => simp [Outcome.record]
  | exited stdout stderr => simp [Outcome.record, TestOptions.iterationResult, List.countP_cons]
  | timedOut stdout stderr => simp [Outcome.record, TestOptions.iterationResult, List.countP_cons]

theorem countP_recordsFrom {outcomes : List Outcome} {i j : Nat} (hi : i + outcomes.length ≤ 2 ^ 32)
    (hj : j < 2 ^ 32)
    : (recordsFrom th i outcomes).countP (·.number = UInt32.ofNat j)
      = if i ≤ j ∧ (outcomes[j - i]?).any (· ≠ .notStarted) then 1 else 0 := by
  induction outcomes generalizing i with
  | nil => simp [recordsFrom]
  | cons outcome outcomes ih =>
    simp only [List.length_cons] at hi
    have heq : UInt32.ofNat i = UInt32.ofNat j ↔ i = j := by
      rw [← UInt32.toNat_inj, toNat_ofNat (by omega), toNat_ofNat hj]
    rw [recordsFrom, List.countP_append, countP_record, ih (by omega)]
    simp only [heq]
    by_cases hij : i = j
    . subst hij
      have hle : ¬i + 1 ≤ i := by omega
      simp [hle]
    . by_cases hlt : i < j
      . have hsub : j - i = j - (i + 1) + 1 := by omega
        have hle : i ≤ j := Nat.le_of_lt hlt
        have hle' : i + 1 ≤ j := hlt
        simp only [hij, hle, hle', hsub, false_and, if_false, true_and, Nat.zero_add,
          List.getElem?_cons_succ]
      . have hle : ¬i ≤ j := by omega
        have hle' : ¬i + 1 ≤ j := by omega
        simp only [hij, hle, hle', false_and, if_false]

theorem oneRecordEach_iff {outcomes : List Outcome}
    (hlen : outcomes.length = th.iterations.toNat) (hlt : th.iterations.toNat + 1 < 2 ^ 32)
    : (∀ i, 1 ≤ i → i ≤ th.iterations →
          (recordsFrom th 1 outcomes).countP (·.number = i) = 1) ↔
        ∀ outcome ∈ outcomes, outcome ≠ .notStarted := by
  constructor
  . intro h outcome ho
    rcases List.getElem?_of_mem ho with ⟨j, hj⟩
    have hjlt := (List.getElem?_eq_some_iff.mp hj).1
    have hcount := h (UInt32.ofNat (j + 1))
      (by
        rw [UInt32.le_iff_toNat_le, toNat_ofNat (by omega)]
        simp)
      ((ofNat_le_iterations_iff th (by omega)).mpr (by omega))
    rw [countP_recordsFrom th (by omega) (by omega)] at hcount
    simpa [hj] using hcount
  . intro h i hi hle
    rw [UInt32.le_iff_toNat_le] at hi hle
    have hi : 1 ≤ i.toNat := hi
    rw [← UInt32.ofNat_toNat (x := i), countP_recordsFrom th (by omega) i.toNat_lt]
    have hget : i.toNat - 1 < outcomes.length := by omega
    have hstarted := h outcomes[i.toNat - 1] (List.getElem_mem hget)
    simp [hi, hget, hstarted]

/--
A verdict of success on what `runTest` recorded is earned exactly if the outcomes do not give the
success away: no command that was not started and no run without an action that passed goes
unnoticed.
-/
theorem passEarned_iff_earnable (outcomes : List Outcome) (records : List IterationResult)
    (validIDs : List String) (hstop : th.stopOnFailure = false)
    (hlen : outcomes.length = th.iterations.toNat) (hrun : runTest th outcomes = some records)
    : PassEarned th records validIDs ↔ Earnable th outcomes := by
  rcases (runTest_eq_some_iff th hstop outcomes hlen records).mp hrun with ⟨-, hlt, rfl⟩
  have hclean := exists_not_clean_iff th outcomes 1
  have hskipped := exists_mem_actions_iff th .Skipped outcomes 1
  have hsuccess := exists_mem_actions_iff th .Success outcomes 1
  rw [PassEarned, getOverallResult_eq_success_iff, oneRecordEach_iff th hlen hlt, hsuccess, Earnable,
    ← hclean, ← hskipped]
  constructor
  . intro h
    by_cases hall : ∀ r ∈ recordsFrom th 1 outcomes, r.clean = true
    . by_cases hpassed : ∃ outcome ∈ outcomes, .Success ∈ outcome.actions th
      . exact .inr (.inr (h ⟨hall, .inl hpassed⟩))
      . by_cases hskip : ∃ r ∈ recordsFrom th 1 outcomes, .Skipped ∈ r.actions
        . exact .inr (.inl ⟨fun outcome ho hmem => hpassed ⟨outcome, ho, hmem⟩, hskip⟩)
        . exact absurd (h ⟨hall, .inr fun r hr hmem => hskip ⟨r, hr, hmem⟩⟩).2 hpassed
    . simp only [not_forall, Bool.not_eq_true] at hall
      rcases hall with ⟨r, hr, hunclean⟩
      exact .inl ⟨r, hr, hunclean⟩
  . rintro (⟨r, hr, hunclean⟩ | ⟨hnone, r, hr, hskip⟩ | hearned) ⟨hall, hpassed⟩
    . rw [hall r hr] at hunclean
      cases hunclean
    . rcases hpassed with ⟨outcome, ho, hmem⟩ | hno
      . exact absurd hmem (hnone outcome ho)
      . exact absurd hskip (hno r hr)
    . exact hearned

section Instances

def onePassed : GoMap String TestResults :=
  (∅ : GoMap String TestResults).insert "0" ((∅ : TestResults).insert "gst_single" .Success)

def passingTest (iterations : UInt32) : TestOptions where
  iterations := iterations
  stopOnFailure := false
  parser := fun _ => some onePassed

theorem passEarned_iff_earnable_twoPassed
    : runTest (passingTest 2) [.exited "a" "", .exited "b" ""]
          = some [⟨1, "a", "", onePassed, .TestCompleted⟩, ⟨2, "b", "", onePassed, .TestCompleted⟩]
        ∧ (PassEarned (passingTest 2)
            [⟨1, "a", "", onePassed, .TestCompleted⟩, ⟨2, "b", "", onePassed, .TestCompleted⟩] ["0"] ↔
          Earnable (passingTest 2) [.exited "a" "", .exited "b" ""]) :=
  ⟨rfl, passEarned_iff_earnable (passingTest 2) _ _ ["0"] rfl rfl rfl⟩

theorem not_passEarned
    : ¬∀ (th : TestOptions) (outcomes : List Outcome) (records : List IterationResult)
        (validIDs : List String), th.stopOnFailure = false →
        outcomes.length = th.iterations.toNat → runTest th outcomes = some records →
          PassEarned th records validIDs := by
  -- the only command cannot be started, so that there is no record to find fault with
  intro h
  have hearned := h (passingTest 1) [.notStarted] [] ["0"] rfl rfl rfl (by decide)
  rcases hearned.2 with ⟨r, hr, -⟩
  cases hr

end Instances

end Testrunner
