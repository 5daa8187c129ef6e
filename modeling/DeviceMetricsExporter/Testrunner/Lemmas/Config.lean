import DeviceMetricsExporter.Testrunner.Impl.Config

/-!
This module contains when a reload of the configuration keeps the lookups of the running tests
intact: between `readCfg` and `validateCfg` they look up the new configuration at the old location.
-/

namespace Testrunner

/--
The lookups of a running test find its parameters with a first test case.
-/
def ConfigState.Resolves (tr : ConfigState) : Prop :=
  ∃ params testCase rest, tr.getTestParameters = .ok (some params)
    ∧ params.testCases = some testCase :: rest
    ∧ tr.getLogsExportConfig = .ok params.logsExportConfig

def Covered [CaseMap] (s : ConfigWatcher) (a : WatchAction) : Bool :=
  match a with
  | .validateCfg _ => true
  | .readCfg file =>
    match s.tr.readCfg file with
    | none => true
    | some tr =>
      match tr.firstTestCase with
      | .ok _ => true
      | .error _ => false

namespace ConfigState

variable {tr tr' : ConfigState}

theorem deref_eq_ok_iff {α : Type} {p : Option α} {a : α} : deref p = .ok a ↔ p = some a := by
  cases p <;> simp [deref]

theorem bind_eq_ok_iff {α β : Type} {x : Except Stop α} {f : α → Except Stop β} {b : β}
    : x >>= f = .ok b ↔ ∃ a, x = .ok a ∧ f a = .ok b := by
  cases x with
  | error e => simp [bind, Except.bind]
  | ok a => simp [bind, Except.bind]

theorem resolves_of_testCases {params : TestParameters} {testCase : TestParameter}
    (hparams : tr.getTestParameters = .ok (some params))
    (hcase : params.testCases.head? = some (some testCase)) : tr.Resolves := by
  rcases List.head?_eq_some_iff.mp hcase with ⟨rest, hrest⟩
  refine ⟨params, testCase, rest, hparams, hrest, ?_⟩
  simp only [getLogsExportConfig, hparams]
  rfl

theorem resolves_of_firstTestCase {testCase : TestParameter} (h : tr.firstTestCase = .ok testCase)
    : tr.Resolves := by
  simp only [firstTestCase, bind_eq_ok_iff, deref_eq_ok_iff] at h
  rcases h with ⟨_, hparams, params, rfl, _, hhead, rfl⟩
  exact resolves_of_testCases hparams hhead

variable [CaseMap]

theorem validateRecipe_eq_ok {env : ConfigEnv} {framework recipe : String}
    (h : tr.validateRecipe env framework recipe = .ok tr')
    : tr' = { tr with testCfgGPUModelName := tr'.testCfgGPUModelName } := by
  unfold validateRecipe at h
  split at h
  . unfold validateRVSRecipe at h
    dsimp only at h
    split at h
    . cases h
    . cases h
      rfl
  . split at h
    . unfold validateAGFHCRecipe at h
      split at h
      . cases h
      . dsimp only at h
        split at h
        . cases h
        . cases h
          rfl
    . cases h
      rfl

def validateTestCase (tr : ConfigState) (env : ConfigEnv) (testCase : TestParameter)
    : Except Stop ConfigState := do
  let framework := toUpper (testCase.framework.getD "")
  let tr ← tr.validateRecipe env framework (testCase.recipe.getD "")
  if testCase.iterations.getD 0 = 0 then
    .error (.zeroIterations framework)
  else if testCase.timeoutSeconds.getD 0 = 0 then
    .error (.zeroTimeoutSeconds framework)
  else
    .ok tr

theorem validateTestCase_eq_ok_iff {env : ConfigEnv} {testCase : TestParameter}
    : tr.validateTestCase env testCase = .ok tr' ↔
        tr.validateRecipe env (toUpper (testCase.framework.getD "")) (testCase.recipe.getD "")
            = .ok tr' ∧
          testCase.iterations.getD 0 ≠ 0 ∧ testCase.timeoutSeconds.getD 0 ≠ 0 := by
  rw [validateTestCase, bind_eq_ok_iff]
  constructor
  . rintro ⟨tr₁, hrecipe, h⟩
    split at h
    . cases h
    . next hiterations =>
      split at h
      . cases h
      . next htimeout =>
        cases h
        exact ⟨hrecipe, hiterations, htimeout⟩
  . rintro ⟨hrecipe, hiterations, htimeout⟩
    refine ⟨tr', hrecipe, ?_⟩
    rw [if_neg hiterations, if_neg htimeout]

theorem getTestParameters_of_validateTestCase {env : ConfigEnv} {testCase : TestParameter}
    (h : tr.validateTestCase env testCase = .ok tr')
    : tr'.getTestParameters = tr.getTestParameters := by
  rw [validateRecipe_eq_ok (validateTestCase_eq_ok_iff.mp h).1]
  rfl

theorem firstTestCase_of_validateCfg {env : ConfigEnv} (h : tr.validateCfg env = .ok tr')
    : ∃ testCase, tr'.firstTestCase = .ok testCase ∧ testCase.iterations.getD 0 ≠ 0 ∧
        testCase.timeoutSeconds.getD 0 ≠ 0 := by
  rw [validateCfg, bind_eq_ok_iff] at h
  rcases h with ⟨location, -, h⟩
  rw [bind_eq_ok_iff] at h
  rcases h with ⟨testCase, hcase, h⟩
  have hvalid := validateTestCase_eq_ok_iff.mp h
  refine ⟨testCase, ?_, hvalid.2⟩
  rw [← hcase, firstTestCase, firstTestCase, getTestParameters_of_validateTestCase h]

theorem resolves_of_validateCfg {env : ConfigEnv} (h : tr.validateCfg env = .ok tr')
    : tr'.Resolves := by
  rcases firstTestCase_of_validateCfg h with ⟨testCase, hcase, -⟩
  exact resolves_of_firstTestCase hcase

end ConfigState

section Watch

variable [CaseMap]

theorem resolves_step (s : ConfigWatcher) (a : WatchAction) (s' : ConfigWatcher)
    (_ : s.tr.Resolves) (hok : Covered s a = true) (hstep : watchConfigFile.step s a = some s')
    : s'.tr.Resolves := by
  cases a with
  | readCfg file =>
    simp only [watchConfigFile, ConfigWatcher.step] at hstep
    split at hstep
    . cases hstep
    . rcases Option.map_eq_some_iff.mp hstep with ⟨tr, htr, rfl⟩
      cases hcase : tr.firstTestCase with
      | error e => simp [Covered, htr, hcase] at hok
      | ok testCase => exact ConfigState.resolves_of_firstTestCase hcase
  | validateCfg env =>
    simp only [watchConfigFile, ConfigWatcher.step] at hstep
    split at hstep
    . split at hstep
      . next tr htr =>
        cases hstep
        exact ConfigState.resolves_of_validateCfg htr
      . cases hstep
    . cases hstep

/--
Once a configuration has been accepted, every lookup between the steps of the watcher finds its
parameters, as long as each configuration that is read also serves the location in force.
-/
theorem resolves_of_covered (tr tr₀ : ConfigState) (file : ConfigFile) (env : ConfigEnv)
    (hread : (tr.readCfg file).map (·.validateCfg env) = some (.ok tr₀)) (as : List WatchAction)
    (s : ConfigWatcher)
    (hok : watchConfigFile.Respects (fun s a => Covered s a = true) as ⟨tr₀, false⟩)
    (hexec : watchConfigFile.exec as ⟨tr₀, false⟩ = some s) : s.tr.Resolves := by
  rcases Option.map_eq_some_iff.mp hread with ⟨tr₁, -, hvalid⟩
  exact watchConfigFile.exec_invariant resolves_step as ⟨tr₀, false⟩ s
    (ConfigState.resolves_of_validateCfg hvalid) hok hexec

end Watch

section Instances

def locationConfig (locations : List String) : ConfigFile :=
  let triggers : GoMap String (Option TestParameters) :=
    (∅ : GoMap String (Option TestParameters)).insert "MANUAL" (some defaultTestParameters)
  let locationTrigger : GoMap String (Option TestTriggerConfig) :=
    (∅ : GoMap String (Option TestTriggerConfig)).setAll locations (some ⟨some triggers⟩)
  .decoded ⟨some ((∅ : GoMap String (Option TestCategoryConfig)).insert "GPU_HEALTH_CHECK"
    (some ⟨some locationTrigger⟩))⟩

def manualRunner : ConfigState where
  hostName := "node1"
  testCategory := "GPU_HEALTH_CHECK"
  testTrigger := "MANUAL"
  rvsTestCaseDir := "conf"
  agfhcTestCaseDir := "recipes"
  testLocation := ""
  testCfgGPUModelName := ""
  globalTestRunnerConfig := none

def anyRecipe : ConfigEnv where
  stat := fun _ => some false
  readDir := fun _ => none
  gpuModelTestRecipeDir := none
  equalFold := fun s t => s = t

def onNode1 (location : String) (file : ConfigFile) : ConfigState :=
  { manualRunner with
    testLocation := location
    globalTestRunnerConfig := @ConfigFile.config CaseMap.ascii file }

theorem resolves_of_covered_bothLocations
    : ∃ s, (@watchConfigFile CaseMap.ascii).exec
            [.readCfg (locationConfig ["global", "node1"]), .validateCfg anyRecipe]
            ⟨onNode1 "global" (locationConfig ["global"]), false⟩ = some s
        ∧ s.tr.testLocation = "node1" ∧ s.tr.Resolves :=
  ⟨_, rfl, rfl, @resolves_of_covered CaseMap.ascii manualRunner
    (onNode1 "global" (locationConfig ["global"])) (locationConfig ["global"]) anyRecipe rfl
    [.readCfg (locationConfig ["global", "node1"]), .validateCfg anyRecipe] _ (by decide) rfl⟩

theorem not_resolves
    : ¬∀ (_ : CaseMap) (tr tr₀ : ConfigState) (file : ConfigFile) (env : ConfigEnv),
        (tr.readCfg file).map (·.validateCfg env) = some (.ok tr₀) →
        ∀ (as bs : List WatchAction) (s s' : ConfigWatcher),
          watchConfigFile.exec as ⟨tr₀, false⟩ = some s → watchConfigFile.exec bs s = some s' →
          s'.pending = false → s.tr.Resolves := by
  -- the accepted configuration is one for all nodes, the new one is for this node alone
  intro h
  have hresolves := h CaseMap.ascii manualRunner (onNode1 "global" (locationConfig ["global"]))
    (locationConfig ["global"]) anyRecipe rfl [.readCfg (locationConfig ["node1"])]
    [.validateCfg anyRecipe] _ _ rfl rfl rfl
  rcases hresolves with ⟨params, testCase, rest, hparams, -, -⟩
  cases hparams

end Instances

end Testrunner
