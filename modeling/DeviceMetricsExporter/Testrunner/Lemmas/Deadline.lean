import DeviceMetricsExporter.Testrunner.Impl.Deadline
import DeviceMetricsExporter.Testrunner.Lemmas.Selection
import Mathlib.Algebra.Group.Int.Defs
import Mathlib.Algebra.Group.Nat.Defs

/-!
This module contains when the overall timeout of a test is the product it is meant to be: the product
must fit into 64 bits.
-/

namespace Testrunner

section Arithmetic

theorem toInt_toInt64 (n : UInt32) : n.toUInt64.toInt64.toInt = n.toNat := by
  have hlt := n.toNat_lt
  have hbits : n.toUInt64.toBitVec.toNat = n.toNat := n.toNat_toUInt64
  rw [← Int64.toInt_toBitVec, UInt64.toBitVec_toInt64, BitVec.toInt_eq_toNat_of_lt, hbits]
  rw [hbits]
  omega

theorem bmod_of_lt {n : Int} (hpos : 0 ≤ n) (hlt : n < 2 ^ 63) : n.bmod (2 ^ 64) = n := by
  apply Int.bmod_eq_of_le
  . omega
  . omega

theorem toInt_mul_second (n : UInt32)
    : (n.toUInt64.toInt64 * second).toInt = n.toNat * 1000000000 := by
  have hlt := n.toNat_lt
  have hsecond : second.toInt = 1000000000 := by
    decide
  rw [Int64.toInt_mul, toInt_toInt64, hsecond, bmod_of_lt]
  . omega
  . omega

end Arithmetic

namespace TestParameter

variable {testCase : TestParameter}

/--
The overall timeout is the product of its factors, and it is not shorter than the timeout of one
iteration.
-/
structure DeadlineSane (testCase : TestParameter) : Prop where
  product : testCase.overallTimeout.toInt
    = (testCase.timeoutSeconds.getD 0).toNat * 1000000000 * (testCase.iterations.getD 0).toNat
  positive : 0 < testCase.overallTimeout
  covers : testCase.iterationTimeout ≤ testCase.overallTimeout

theorem toInt_overallTimeout (testCase : TestParameter)
    : testCase.overallTimeout.toInt
      = ((testCase.timeoutSeconds.getD 0).toNat * 1000000000
          * (testCase.iterations.getD 0).toNat : Int).bmod (2 ^ 64) := by
  rw [overallTimeout, Int64.toInt_mul, toInt_mul_second, toInt_toInt64]

theorem toInt_iterationTimeout (htimeout : testCase.timeoutSeconds.getD 0 ≠ 0)
    : testCase.iterationTimeout.toInt = (testCase.timeoutSeconds.getD 0).toNat * 1000000000 := by
  have hpos : 0 < (testCase.timeoutSeconds.getD 0).toUInt64 := by
    rw [UInt64.lt_iff_toNat_lt, UInt32.toNat_toUInt64]
    apply Nat.pos_of_ne_zero
    intro h
    apply htimeout
    exact UInt32.toNat_inj.mp h
  rw [iterationTimeout, handlerTimeout]
  simp only [hpos, if_true]
  exact toInt_mul_second _

theorem deadlineSane_of_nonzero (hiterations : testCase.iterations.getD 0 ≠ 0)
    (htimeout : testCase.timeoutSeconds.getD 0 ≠ 0)
    : testCase.DeadlineSane ↔
        (testCase.timeoutSeconds.getD 0).toNat * (testCase.iterations.getD 0).toNat
          ≤ 9223372036 := by
  have hoverall := testCase.toInt_overallTimeout
  have hiteration := toInt_iterationTimeout htimeout
  have hpos {n : UInt32} (hn : n ≠ 0) : 0 < n.toNat :=
    Nat.pos_of_ne_zero fun h => hn (UInt32.toNat_inj.mp h)
  have ht := hpos htimeout
  have hi := hpos hiterations
  generalize hn : (testCase.timeoutSeconds.getD 0).toNat = t at *
  generalize hm : (testCase.iterations.getD 0).toNat = i at *
  have hproduct : (t * 1000000000 * i : Int) = 1000000000 * ((t * i : Nat) : Int) := by
    rw [Int.natCast_mul, Int.mul_right_comm, Int.mul_comm]
  have hle : t ≤ t * i := Nat.le_mul_of_pos_right t hi
  rw [hproduct] at hoverall
  constructor
  . intro h
    have hsame := h.product
    rw [hn, hm, hproduct] at hsame
    have hlt := testCase.overallTimeout.toInt_lt
    omega
  . intro hfits
    rw [bmod_of_lt (by omega) (by omega)] at hoverall
    constructor
    . rw [hn, hm, hproduct, hoverall]
    . rw [Int64.lt_iff_toInt_lt, hoverall, Int64.toInt_zero]
      omega
    . rw [Int64.le_iff_toInt_le, hoverall, hiteration]
      omega

end TestParameter

section Instances

/--
In seconds the longest overall timeout is 9223372036, a little more than 292 years.
-/
theorem deadlineSane_iff [CaseMap] (tr tr' : ConfigState) (env : ConfigEnv)
    (testCase : TestParameter) (hvalid : tr.validateCfg env = .ok tr')
    (hcase : tr'.firstTestCase = .ok testCase)
    : testCase.DeadlineSane ↔
        (testCase.timeoutSeconds.getD 0).toNat * (testCase.iterations.getD 0).toNat
          ≤ 9223372036 := by
  rcases ConfigState.firstTestCase_of_validateCfg hvalid with ⟨testCase', hcase', hnonzero⟩
  rw [hcase] at hcase'
  cases hcase'
  exact TestParameter.deadlineSane_of_nonzero hnonzero.1 hnonzero.2

def longTest (timeoutSeconds iterations : UInt32) : TestParameter where
  recipe := some "gst_single"
  timeoutSeconds := some timeoutSeconds
  iterations := some iterations
  stopOnFailure := some true
  deviceIDs := []
  framework := some frameworkRVS
  arguments := none

def longRunner (timeoutSeconds iterations : UInt32) : ConfigState :=
  let triggers : GoMap String (Option TestParameters) :=
    (∅ : GoMap String (Option TestParameters)).insert "MANUAL"
      (some ⟨[some (longTest timeoutSeconds iterations)], []⟩)
  let locations : GoMap String (Option TestTriggerConfig) :=
    (∅ : GoMap String (Option TestTriggerConfig)).insert "global" (some ⟨some triggers⟩)
  @ConfigState.withConfig CaseMap.ascii { manualRunner with testLocation := "global" }
    ⟨some ((∅ : GoMap String (Option TestCategoryConfig)).insert "GPU_HEALTH_CHECK"
      (some ⟨some locations⟩))⟩

theorem deadlineSane_iff_oneHour : (longTest 3600 24).DeadlineSane ↔ 3600 * 24 ≤ 9223372036 :=
  @deadlineSane_iff CaseMap.ascii (longRunner 3600 24) (longRunner 3600 24) anyRecipe
    (longTest 3600 24) rfl rfl

theorem not_deadlineSane
    : ¬∀ (_ : CaseMap) (tr tr' : ConfigState) (env : ConfigEnv) (testCase : TestParameter),
        tr.validateCfg env = .ok tr' → tr'.firstTestCase = .ok testCase → testCase.DeadlineSane := by
  -- three iterations of the longest timeout there is
  intro h
  have hsane := h CaseMap.ascii (longRunner 4294967295 3) (longRunner 4294967295 3) anyRecipe
    (longTest 4294967295 3) rfl rfl
  exact absurd hsane.positive (by decide)

end Instances

end Testrunner
