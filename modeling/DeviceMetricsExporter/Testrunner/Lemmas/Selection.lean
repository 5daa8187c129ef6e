import DeviceMetricsExporter.Lib.NestedMap
import DeviceMetricsExporter.Testrunner.Lemmas.Config

/-!
This module contains which entries of a configuration file `validateCfg` gets to see, in terms of the
file itself: `setConfigDefaults` and `normalizeConfig` are read off it level by level.
-/

namespace Testrunner

section Maps

variable {β γ : Type}

def entriesOf (m : Option (GoMap String β)) : List (String × β) :=
  (m.elim [] (·.entries)).map fun e => (e.1, e.2)

def nonNil (m : Option (GoMap String (Option β))) : List (String × β) :=
  (entriesOf m).filterMap fun e => e.2.map fun b => (e.1, b)

theorem rangeNonNil_eq (m : Option (GoMap String (Option β))) (key : String → String) (f : β → γ)
    : rangeNonNil m key f
      = GoMap.insertEach ∅ (nonNil m) (fun e => key e.1) fun e => some (f e.2) := by
  simp only [rangeNonNil, nonNil, entriesOf, GoMap.insertEach]
  generalize m.elim [] (·.entries) = es
  generalize (∅ : GoMap String (Option γ)) = m'
  induction es generalizing m' with
  | nil => rfl
  | cons e es ih =>
    rcases e with ⟨k, v⟩
    cases v with
    | none => exact ih m'
    | some b => exact ih (m'.insert (key k) (some (f b)))

theorem lookup_rangeNonNil (m : Option (GoMap String (Option β))) (key : String → String)
    (f : β → γ) (k : String)
    : (rangeNonNil m key f).lookup k
      = (GoMap.lastWith (fun e => key e.1) (nonNil m) k).map fun e => some (f e.2) := by
  rw [rangeNonNil_eq, GoMap.lookup_insertEach_empty]

theorem entriesOf_map (m : Option (GoMap String β)) (f : β → γ)
    : entriesOf (m.map fun m => GoMap.map m fun _ v => f v)
      = (entriesOf m).map fun e => (e.1, f e.2) := by
  cases m with
  | none => rfl
  | some m => simp [entriesOf, GoMap.map]

theorem nonNil_map (m : Option (GoMap String (Option β))) (f : β → γ)
    : nonNil (m.map fun m => GoMap.map m fun _ v => v.map f)
      = (nonNil m).map fun e => (e.1, f e.2) := by
  rw [nonNil, entriesOf_map, nonNil, List.filterMap_map, List.map_filterMap]
  congr 1
  funext e
  rcases e with ⟨k, v⟩
  cases v with
  | none => rfl
  | some b => rfl

theorem lastWith_map_snd (key : String → String) (f : β → γ) (xs : List (String × β)) (k : String)
    : GoMap.lastWith (fun e => key e.1) (xs.map fun e => (e.1, f e.2)) k
      = (GoMap.lastWith (fun e => key e.1) xs k).map fun e => (e.1, f e.2) := by
  simp only [GoMap.lastWith, List.filter_map, Function.comp_def, List.getLast?_map]

end Maps

namespace ConfigState

variable [CaseMap] (tr : ConfigState)

/--
Of the categories whose names become equal the last one that is not nil.
-/
def chosenCategory (config : TestRunnerConfig) : Option TestCategoryConfig :=
  (GoMap.lastWith (fun e => toUpper e.1) (nonNil config.testConfig) tr.testCategory).map (·.2)

def chosenAt (categoryConfig : TestCategoryConfig) (location : String) : Option TestTriggerConfig :=
  (GoMap.lastWith (·.1) (nonNil categoryConfig.testLocationTrigger) location).map (·.2)

def chosenLocation (categoryConfig : TestCategoryConfig) : Option TestTriggerConfig :=
  (chosenAt categoryConfig tr.hostName).or (chosenAt categoryConfig globalTestTriggerKeyword)

/--
Of the triggers whose names become equal the last one, which may be nil.
-/
def chosenParameters (triggerConfig : TestTriggerConfig) : Option (Option TestParameters) :=
  (GoMap.lastWith (fun e => toUpper e.1) (entriesOf triggerConfig.testParameters) tr.testTrigger).map
    (·.2)

def chosen (config : TestRunnerConfig) : Option (Option TestParameters) :=
  ((tr.chosenCategory config).bind tr.chosenLocation).bind tr.chosenParameters

def chosenTestCase (config : TestRunnerConfig) : Option TestParameter :=
  (tr.chosen config).join.bind fun params => params.testCases.head?.join

section Mem

variable {tr} {config : TestRunnerConfig} {categoryConfig : TestCategoryConfig}
  {triggerConfig : TestTriggerConfig} {params : Option TestParameters}

theorem mem_of_chosenCategory (h : tr.chosenCategory config = some categoryConfig)
    : ∃ x ∈ nonNil config.testConfig, x.2 = categoryConfig := by
  rcases Option.map_eq_some_iff.mp h with ⟨x, hx, rfl⟩
  exact ⟨x, (GoMap.mem_of_lastWith _ hx).1, rfl⟩

omit [CaseMap] in
theorem mem_of_chosenLocation (h : tr.chosenLocation categoryConfig = some triggerConfig)
    : ∃ y ∈ nonNil categoryConfig.testLocationTrigger, y.2 = triggerConfig := by
  rw [chosenLocation, Option.or_eq_some_iff] at h
  rcases h with h | ⟨-, h⟩
  all_goals
    rcases Option.map_eq_some_iff.mp h with ⟨y, hy, rfl⟩
    exact ⟨y, (GoMap.mem_of_lastWith _ hy).1, rfl⟩

theorem mem_of_chosenParameters (h : tr.chosenParameters triggerConfig = some params)
    : ∃ z ∈ entriesOf triggerConfig.testParameters, z.2 = params := by
  rcases Option.map_eq_some_iff.mp h with ⟨z, hz, rfl⟩
  exact ⟨z, (GoMap.mem_of_lastWith _ hz).1, rfl⟩

end Mem

def locationOf (categoryConfig : TestCategoryConfig) : String :=
  if (chosenAt categoryConfig tr.hostName).isSome then tr.hostName else globalTestTriggerKeyword

def withConfig (config : TestRunnerConfig) : ConfigState :=
  { tr with globalTestRunnerConfig := some (normalizeConfig (setConfigDefaults config)) }

theorem lookup_category (config : TestRunnerConfig)
    : ∃ m, (normalizeConfig (setConfigDefaults config)).testConfig = some m ∧
        m.lookup tr.testCategory
          = (tr.chosenCategory config).map fun cc => some cc.setDefaults.normalize := by
  refine ⟨_, rfl, ?_⟩
  rw [lookup_rangeNonNil, setConfigDefaults, nonNil_map, lastWith_map_snd, chosenCategory,
    Option.map_map, Option.map_map]
  rfl

theorem lookup_location (categoryConfig : TestCategoryConfig)
    : ∃ m, categoryConfig.setDefaults.normalize.testLocationTrigger = some m ∧ ∀ location,
        m.lookup location
          = (chosenAt categoryConfig location).map fun tc => some tc.setDefaults.normalize := by
  refine ⟨_, rfl, ?_⟩
  intro location
  rw [lookup_rangeNonNil, TestCategoryConfig.setDefaults, nonNil_map, lastWith_map_snd, chosenAt,
    Option.map_map, Option.map_map]
  rfl

theorem lookup_trigger (triggerConfig : TestTriggerConfig)
    : ∃ m, triggerConfig.setDefaults.normalize.testParameters = some m ∧
        m.lookup tr.testTrigger
          = (tr.chosenParameters triggerConfig).map (·.map TestParameters.setDefaults) := by
  refine ⟨_, rfl, ?_⟩
  have hinsert (m : Option (GoMap String (Option TestParameters)))
      : (m.elim [] (·.entries)).foldl (fun newParams e => newParams.insert (toUpper e.1) e.2)
          (∅ : GoMap String (Option TestParameters))
        = GoMap.insertEach ∅ (entriesOf m) (fun e => toUpper e.1) (·.2) := by
    rw [GoMap.insertEach, entriesOf, List.foldl_map]
  rw [hinsert, GoMap.lookup_insertEach_empty, TestTriggerConfig.setDefaults, entriesOf_map,
    lastWith_map_snd, chosenParameters, Option.map_map, Option.map_map]
  rfl

omit [CaseMap] in
theorem index_location {categoryConfig : TestCategoryConfig} {triggerConfig : TestTriggerConfig}
    (h : tr.chosenLocation categoryConfig = some triggerConfig)
    : chosenAt categoryConfig (tr.locationOf categoryConfig) = some triggerConfig := by
  rw [chosenLocation] at h
  rw [locationOf]
  cases hhost : chosenAt categoryConfig tr.hostName with
  | none =>
    rw [hhost, Option.none_or] at h
    exact h
  | some tc =>
    rw [hhost, Option.some_or] at h
    simp only [Option.isSome_some, if_true, hhost, h]

omit [CaseMap] in
theorem ok_bind {α β : Type} (a : α) (f : α → Except Stop β) : Except.ok a >>= f = f a :=
  rfl

theorem selectLocation_withConfig (config : TestRunnerConfig)
    : (tr.withConfig config).selectLocation
      = match tr.chosenCategory config with
        | none => .error .noCategory
        | some categoryConfig =>
          match tr.chosenLocation categoryConfig with
          | none => .error .noLocation
          | some triggerConfig =>
            match tr.chosenParameters triggerConfig with
            | none => .error (.noTrigger (tr.locationOf categoryConfig))
            | some none => .error .panic
            | some (some params) =>
              match params.testCases with
              | [] | none :: _ => .error (.noTestCase (tr.locationOf categoryConfig))
              | some _ :: _ => .ok (tr.locationOf categoryConfig) := by
  rcases tr.lookup_category config with ⟨categories, hcategories, hcategory⟩
  simp only [selectLocation, withConfig, deref, Option.elim_some, ok_bind, hcategories, hcategory]
  cases tr.chosenCategory config with
  | none => rfl
  | some categoryConfig =>
    rcases lookup_location categoryConfig with ⟨locations, hlocations, hlocation⟩
    simp only [Option.map_some, hlocations, hlocation, Option.isSome_map]
    cases hchosen : tr.chosenLocation categoryConfig with
    | none =>
      rw [chosenLocation, Option.or_eq_none_iff] at hchosen
      simp [hchosen.1, hchosen.2]
    | some triggerConfig =>
      have hfound : (!(chosenAt categoryConfig globalTestTriggerKeyword).isSome &&
          !(chosenAt categoryConfig tr.hostName).isSome) = false := by
        rw [chosenLocation, Option.or_eq_some_iff] at hchosen
        rcases hchosen with hhost | ⟨-, hglobal⟩
        . simp [hhost]
        . simp [hglobal]
      have hindex : index (some locations) (tr.locationOf categoryConfig)
          = some triggerConfig.setDefaults.normalize := by
        rw [index, Option.bind_some, hlocation, tr.index_location hchosen]
        rfl
      rcases tr.lookup_trigger triggerConfig with ⟨triggers, htriggers, htrigger⟩
      simp only [hfound, Bool.false_eq_true, if_false]
      rw [← locationOf, hindex]
      simp only [Option.elim_some, ok_bind, htriggers, htrigger]
      cases tr.chosenParameters triggerConfig with
      | none => rfl
      | some params =>
        cases params with
        | none => rfl
        | some params =>
          simp only [Option.map_some, Option.elim_some, ok_bind, TestParameters.setDefaults]
          rcases params.testCases with _ | ⟨_ | testCase, testCases⟩
          . rfl
          . rfl
          . rfl

theorem getTestParameters_withConfig {config : TestRunnerConfig} {categoryConfig : TestCategoryConfig}
    {triggerConfig : TestTriggerConfig} (hcategory : tr.chosenCategory config = some categoryConfig)
    (hlocation : tr.chosenLocation categoryConfig = some triggerConfig)
    : { tr.withConfig config with testLocation := tr.locationOf categoryConfig }.getTestParameters
      = .ok ((tr.chosenParameters triggerConfig).join.map TestParameters.setDefaults) := by
  rcases tr.lookup_category config with ⟨categories, hcategories, hcategory'⟩
  rcases lookup_location categoryConfig with ⟨locations, hlocations, hlocation'⟩
  rcases tr.lookup_trigger triggerConfig with ⟨triggers, htriggers, htrigger⟩
  simp only [getTestParameters, withConfig, deref, Option.elim_some, ok_bind, index, hcategories,
    Option.bind_some, hcategory', hcategory, Option.map_some, Option.join_some, hlocations,
    hlocation', tr.index_location hlocation, htriggers, htrigger]
  cases tr.chosenParameters triggerConfig with
  | none => rfl
  | some params => rfl

section Validate

variable {tr} {config : TestRunnerConfig} (env : ConfigEnv)

theorem validateCfg_of_error {stop : Stop} (h : (tr.withConfig config).selectLocation = .error stop)
    : (tr.withConfig config).validateCfg env = .error stop := by
  rw [validateCfg, h]
  rfl

theorem validateCfg_of_nothing (h : tr.chosen config = none)
    : ∃ stop, (tr.withConfig config).validateCfg env = .error stop ∧ stop ≠ .panic := by
  have hselect := tr.selectLocation_withConfig config
  cases hcategory : tr.chosenCategory config with
  | none =>
    simp only [hcategory] at hselect
    exact ⟨_, validateCfg_of_error env hselect, nofun⟩
  | some categoryConfig =>
    cases hlocation : tr.chosenLocation categoryConfig with
    | none =>
      simp only [hcategory, hlocation] at hselect
      exact ⟨_, validateCfg_of_error env hselect, nofun⟩
    | some triggerConfig =>
      rw [chosen, hcategory, Option.bind_some, hlocation, Option.bind_some] at h
      simp only [hcategory, hlocation, h] at hselect
      exact ⟨_, validateCfg_of_error env hselect, nofun⟩

theorem validateCfg_of_nil (h : tr.chosen config = some none)
    : (tr.withConfig config).validateCfg env = .error .panic := by
  have hselect := tr.selectLocation_withConfig config
  simp only [chosen, Option.bind_eq_some_iff] at h
  rcases h with ⟨triggerConfig, ⟨categoryConfig, hcategory, hlocation⟩, hparams⟩
  simp only [hcategory, hlocation, hparams] at hselect
  exact validateCfg_of_error env hselect

theorem validateCfg_of_noTestCase {params : TestParameters}
    (h : tr.chosen config = some (some params)) (hcase : params.testCases.head?.join = none)
    : ∃ stop, (tr.withConfig config).validateCfg env = .error stop ∧ stop ≠ .panic := by
  have hselect := tr.selectLocation_withConfig config
  simp only [chosen, Option.bind_eq_some_iff] at h
  rcases h with ⟨triggerConfig, ⟨categoryConfig, hcategory, hlocation⟩, hparams⟩
  simp only [hcategory, hlocation, hparams] at hselect
  rcases hcases : params.testCases with _ | ⟨_ | testCase, testCases⟩
  . simp only [hcases] at hselect
    exact ⟨_, validateCfg_of_error env hselect, nofun⟩
  . simp only [hcases] at hselect
    exact ⟨_, validateCfg_of_error env hselect, nofun⟩
  . rw [hcases] at hcase
    cases hcase

omit [CaseMap] in
theorem firstTestCase_of_params {params : TestParameters} {testCase : TestParameter}
    (h : tr.getTestParameters = .ok (some params.setDefaults))
    (hcase : params.testCases.head?.join = some testCase)
    : tr.firstTestCase = .ok testCase.setDefaults := by
  rw [Option.join_eq_some_iff, List.head?_eq_some_iff] at hcase
  rcases hcase with ⟨rest, hrest⟩
  simp [firstTestCase, h, ok_bind, deref, TestParameters.setDefaults, hrest]

theorem validateCfg_of_testCase {params : TestParameters} {testCase : TestParameter}
    (h : tr.chosen config = some (some params))
    (hcase : params.testCases.head?.join = some testCase)
    : ∃ location,
        { tr.withConfig config with testLocation := location }.getTestParameters
            = .ok (some params.setDefaults) ∧
          (tr.withConfig config).validateCfg env
            = { tr.withConfig config with testLocation := location }.validateTestCase env
                testCase.setDefaults := by
  have hselect := tr.selectLocation_withConfig config
  simp only [chosen, Option.bind_eq_some_iff] at h
  rcases h with ⟨triggerConfig, ⟨categoryConfig, hcategory, hlocation⟩, hparams⟩
  have hlookup := tr.getTestParameters_withConfig hcategory hlocation
  rw [hparams, Option.join_some, Option.map_some] at hlookup
  refine ⟨_, hlookup, ?_⟩
  have hfirst := firstTestCase_of_params hlookup hcase
  rw [Option.join_eq_some_iff, List.head?_eq_some_iff] at hcase
  rcases hcase with ⟨rest, hrest⟩
  simp only [hcategory, hlocation, hparams, hrest] at hselect
  rw [validateCfg, hselect, ok_bind]
  dsimp only
  rw [hfirst, ok_bind]
  rfl

end Validate

section ValidateTestCase

variable {tr} {env : ConfigEnv} {testCase : TestParameter}

theorem validateRecipe_ne_panic (framework recipe : String)
    : tr.validateRecipe env framework recipe ≠ .error .panic := by
  unfold validateRecipe
  split
  . unfold validateRVSRecipe
    dsimp only
    split
    . nofun
    . nofun
  . split
    . unfold validateAGFHCRecipe
      split
      . nofun
      . dsimp only
        split
        . nofun
        . nofun
    . nofun

theorem validateTestCase_ne_panic : tr.validateTestCase env testCase ≠ .error .panic := by
  rw [validateTestCase]
  have hrecipe : tr.validateRecipe env (toUpper (testCase.framework.getD ""))
      (testCase.recipe.getD "") ≠ .error .panic := validateRecipe_ne_panic _ _
  cases hvalid : tr.validateRecipe env (toUpper (testCase.framework.getD ""))
      (testCase.recipe.getD "") with
  | error stop =>
    rw [hvalid] at hrecipe
    exact hrecipe
  | ok tr' =>
    rw [ok_bind]
    split
    . intro h
      cases h
    . split
      . intro h
        cases h
      . intro h
        cases h

end ValidateTestCase

end ConfigState

end Testrunner
