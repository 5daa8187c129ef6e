import DeviceMetricsExporter.Testrunner.Lemmas.Selection

/-!
This module contains when the validation of a configuration ends with an error report or with usable
test parameters: the entry it selects must not be null.
-/

namespace Testrunner

namespace ConfigState

/--
The parameters of the test are there, with a first test case that runs at least once for some time.
-/
def Usable (tr : ConfigState) : Prop :=
  ∃ params testCase rest, tr.getTestParameters = .ok (some params) ∧
    params.testCases = some testCase :: rest ∧ testCase.iterations.getD 0 ≠ 0 ∧
    testCase.timeoutSeconds.getD 0 ≠ 0

/--
Whatever the outcome, no nil pointer has been dereferenced.
-/
def Validated (outcome : Except Stop ConfigState) : Prop :=
  match outcome with
  | .error stop => stop ≠ .panic
  | .ok tr => tr.Usable

variable [CaseMap] {tr : ConfigState} {config : TestRunnerConfig} {env : ConfigEnv}

theorem usable_of_validateTestCase {params : TestParameters} {testCase : TestParameter}
    {tr' : ConfigState} (hparams : tr.getTestParameters = .ok (some params.setDefaults))
    (hcase : params.testCases.head?.join = some testCase)
    (h : tr.validateTestCase env testCase.setDefaults = .ok tr') : tr'.Usable := by
  rcases validateTestCase_eq_ok_iff.mp h with ⟨-, hiterations, htimeout⟩
  rw [Option.join_eq_some_iff, List.head?_eq_some_iff] at hcase
  rcases hcase with ⟨rest, hrest⟩
  refine ⟨params.setDefaults, testCase.setDefaults, rest.map (·.map TestParameter.setDefaults), ?_⟩
  refine ⟨?_, ?_, hiterations, htimeout⟩
  . rw [getTestParameters_of_validateTestCase h, hparams]
  . simp [TestParameters.setDefaults, hrest]

theorem validated_withConfig_iff
    : Validated ((tr.withConfig config).validateCfg env) ↔ tr.chosen config ≠ some none := by
  cases hchosen : tr.chosen config with
  | none =>
    rcases validateCfg_of_nothing env hchosen with ⟨stop, hstop, hne⟩
    rw [hstop]
    exact ⟨nofun, fun _ => hne⟩
  | some params =>
    cases params with
    | none =>
      rw [validateCfg_of_nil env hchosen]
      exact ⟨fun h => absurd rfl h, fun h => absurd rfl h⟩
    | some params =>
      refine ⟨nofun, fun _ => ?_⟩
      cases hcase : params.testCases.head?.join with
      | none =>
        rcases validateCfg_of_noTestCase env hchosen hcase with ⟨stop, hstop, hne⟩
        rw [hstop]
        exact hne
      | some testCase =>
        rcases validateCfg_of_testCase env hchosen hcase with ⟨location, hparams, hvalid⟩
        rw [hvalid]
        cases houtcome : { tr.withConfig config with testLocation := location }.validateTestCase env
            testCase.setDefaults with
        | error stop =>
          rintro rfl
          exact validateTestCase_ne_panic houtcome
        | ok tr' => exact usable_of_validateTestCase hparams hcase houtcome

section Default

omit [CaseMap] in
theorem setConfigDefaults_default
    : setConfigDefaults defaultGlobalTestRunnerConfig = defaultGlobalTestRunnerConfig := by
  decide

omit [CaseMap] in
theorem parameters_default : ∀ x ∈ nonNil defaultGlobalTestRunnerConfig.testConfig,
    ∀ y ∈ nonNil x.2.testLocationTrigger, ∀ z ∈ entriesOf y.2.testParameters, z.2 ≠ none := by
  decide

theorem chosen_default : tr.chosen defaultGlobalTestRunnerConfig ≠ some none := by
  intro h
  simp only [chosen, Option.bind_eq_some_iff] at h
  rcases h with ⟨triggerConfig, ⟨categoryConfig, hcategory, hlocation⟩, hparams⟩
  rcases mem_of_chosenCategory hcategory with ⟨x, hx, rfl⟩
  rcases mem_of_chosenLocation hlocation with ⟨y, hy, rfl⟩
  rcases mem_of_chosenParameters hparams with ⟨z, hz, hnil⟩
  exact parameters_default x hx y hy z hz hnil

end Default

end ConfigState

section Instances

/--
The validation neither stops at a nil pointer nor accepts unusable parameters exactly if the entry for
the trigger is not null, in the last of the maps and under the last of the names that are selected.
-/
theorem validated_iff [CaseMap] (tr : ConfigState) (file : ConfigFile) (env : ConfigEnv)
    : (∀ tr', tr.readCfg file = some tr' → ConfigState.Validated (tr'.validateCfg env)) ↔
        ∀ config, file = .decoded config → tr.chosen config ≠ some none := by
  cases file with
  | unreadable =>
    constructor
    . intro _ config hconfig
      cases hconfig
    . intro _ tr' hread
      cases hread
      have hvalid : ConfigState.Validated ((tr.withConfig defaultGlobalTestRunnerConfig).validateCfg env) :=
        ConfigState.validated_withConfig_iff.mpr ConfigState.chosen_default
      rw [ConfigState.withConfig, ConfigState.setConfigDefaults_default] at hvalid
      exact hvalid
  | malformed =>
    constructor
    . intro _ config hconfig
      cases hconfig
    . intro _ tr' hread
      cases hread
  | decoded config =>
    constructor
    . intro h config' hconfig
      cases hconfig
      exact ConfigState.validated_withConfig_iff.mp (h _ rfl)
    . intro h tr' hread
      cases hread
      exact ConfigState.validated_withConfig_iff.mpr (h config rfl)

def nullTrigger : ConfigFile :=
  let triggers : GoMap String (Option TestParameters) :=
    (∅ : GoMap String (Option TestParameters)).insert "MANUAL" none
  let locations : GoMap String (Option TestTriggerConfig) :=
    (∅ : GoMap String (Option TestTriggerConfig)).insert "global" (some ⟨some triggers⟩)
  .decoded ⟨some ((∅ : GoMap String (Option TestCategoryConfig)).insert "GPU_HEALTH_CHECK"
    (some ⟨some locations⟩))⟩

theorem not_validated
    : ¬∀ (_ : CaseMap) (tr : ConfigState) (file : ConfigFile) (env : ConfigEnv) (tr' : ConfigState),
        tr.readCfg file = some tr' → ConfigState.Validated (tr'.validateCfg env) := by
  intro h
  have hvalid := h CaseMap.ascii manualRunner nullTrigger anyRecipe _ rfl
  exact hvalid rfl

end Instances

end Testrunner
