import DeviceMetricsExporter.Testrunner.Lemmas.Selection

/-!
This module contains when the letter case of a configuration makes a difference: the default of an
omitted recipe depends on how the framework is spelled.
-/

namespace Testrunner

section Variants

variable [CaseMap]

def UpperEq (s t : String) : Prop :=
  toUpper s = toUpper t

theorem UpperEq.refl (s : String) : UpperEq s s :=
  rfl

structure TestParameter.Variant (testCase testCase' : TestParameter) : Prop where
  framework : Option.Rel UpperEq testCase.framework testCase'.framework
  others : { testCase with framework := none } = { testCase' with framework := none }

structure TestParameters.Variant (params params' : TestParameters) : Prop where
  testCases : List.Forall₂ (Option.Rel TestParameter.Variant) params.testCases params'.testCases
  logsExportConfig : params.logsExportConfig = params'.logsExportConfig

def TestTriggerConfig.Variant (triggerConfig triggerConfig' : TestTriggerConfig) : Prop :=
  Option.Rel (GoMap.Matches UpperEq (Option.Rel TestParameters.Variant))
    triggerConfig.testParameters triggerConfig'.testParameters

def TestCategoryConfig.Variant (categoryConfig categoryConfig' : TestCategoryConfig) : Prop :=
  Option.Rel (GoMap.Matches Eq (Option.Rel TestTriggerConfig.Variant))
    categoryConfig.testLocationTrigger categoryConfig'.testLocationTrigger

/--
Configurations that differ in the letter case of categories, triggers and frameworks only.
-/
def TestRunnerConfig.Variant (config config' : TestRunnerConfig) : Prop :=
  Option.Rel (GoMap.Matches UpperEq (Option.Rel TestCategoryConfig.Variant))
    config.testConfig config'.testConfig

def DistinctKeys {β : Type} (m : Option (GoMap String β)) : Prop :=
  ((entriesOf m).map fun e => toUpper e.1).Nodup

structure TestRunnerConfig.Distinct (config : TestRunnerConfig) : Prop where
  categories : DistinctKeys config.testConfig
  triggers : ∀ x ∈ nonNil config.testConfig, ∀ y ∈ nonNil x.2.testLocationTrigger,
    DistinctKeys y.2.testParameters

end Variants

section Lists

variable {β β' : Type} {R : β → β' → Prop} {key : String → String}

theorem rel_lastWith {xs ys : List (String × β)} {zs : List (String × β')} (hperm : xs.Perm ys)
    (hall : List.Forall₂ (fun x z => key x.1 = key z.1 ∧ R x.2 z.2) xs zs)
    (hnodup : (ys.map fun e => key e.1).Nodup) (k : String)
    : Option.Rel R ((GoMap.lastWith (fun e => key e.1) ys k).map (·.2))
        ((GoMap.lastWith (fun e => key e.1) zs k).map (·.2)) := by
  have hkeys : (xs.map fun e => key e.1) = zs.map fun e => key e.1 := by
    clear hperm
    induction hall with
    | nil => rfl
    | cons h _ ih => rw [List.map_cons, List.map_cons, h.1, ih]
  have hnodup' : (zs.map fun e => key e.1).Nodup := by
    rw [← hkeys]
    exact (hperm.map _).nodup_iff.mpr hnodup
  cases hlast : GoMap.lastWith (fun e => key e.1) ys k with
  | some x =>
    rcases GoMap.mem_of_lastWith _ hlast with ⟨hx, rfl⟩
    rcases GoMap.exists_mem_of_forall₂ hall (hperm.mem_iff.mpr hx) with ⟨z, hz, hkey, hR⟩
    have hlast' := GoMap.lastWith_of_nodup (fun e : String × β' => key e.1) hnodup' hz
    rw [hkey, hlast']
    exact Option.Rel.some hR
  | none =>
    cases hlast' : GoMap.lastWith (fun e => key e.1) zs k with
    | none => exact Option.Rel.none
    | some z =>
      rcases GoMap.mem_of_lastWith _ hlast' with ⟨hz, rfl⟩
      rcases GoMap.exists_mem_of_forall₂ hall.flip hz with ⟨x, hx, hkey, -⟩
      rw [GoMap.lastWith_eq_none] at hlast
      exact absurd hkey (hlast x (hperm.mem_iff.mp hx))

theorem forall₂_entriesOf {m : Option (GoMap String β)} {m' : Option (GoMap String β')}
    {K : String → String → Prop} (h : Option.Rel (GoMap.Matches K R) m m')
    : ∃ xs, xs.Perm (entriesOf m) ∧
        List.Forall₂ (fun x z => K x.1 z.1 ∧ R x.2 z.2) xs (entriesOf m') := by
  cases h with
  | none => exact ⟨[], List.Perm.refl _, List.Forall₂.nil⟩
  | some h =>
    rcases h with ⟨es, hperm, hall⟩
    refine ⟨es.map fun e => (e.1, e.2), hperm.map _, ?_⟩
    rw [entriesOf, Option.elim_some, List.forall₂_map_left_iff, List.forall₂_map_right_iff]
    exact hall

theorem forall₂_filterMap {K : String → String → Prop} {xs : List (String × Option β)}
    {zs : List (String × Option β')}
    (h : List.Forall₂ (fun x z => K x.1 z.1 ∧ Option.Rel R x.2 z.2) xs zs)
    : List.Forall₂ (fun x z => K x.1 z.1 ∧ R x.2 z.2)
        (xs.filterMap fun e => e.2.map fun b => (e.1, b))
        (zs.filterMap fun e => e.2.map fun b => (e.1, b)) := by
  induction h with
  | nil => exact List.Forall₂.nil
  | @cons x z xs zs h _ ih =>
    rcases x with ⟨k, v⟩
    rcases z with ⟨k', v'⟩
    rcases h with ⟨hK, hR⟩
    cases hR with
    | none => exact ih
    | some hR => exact List.Forall₂.cons ⟨hK, hR⟩ ih

theorem sublist_nonNil (key : String → String) (m : Option (GoMap String (Option β)))
    : ((nonNil m).map fun e => key e.1).Sublist ((entriesOf m).map fun e => key e.1) := by
  rw [nonNil]
  induction entriesOf m with
  | nil => exact List.Sublist.refl _
  | cons e es ih =>
    rcases e with ⟨k, v⟩
    cases v with
    | none => exact ih.cons _
    | some b => exact ih.cons_cons _

theorem rel_lastWith_nonNil {m : Option (GoMap String (Option β))}
    {m' : Option (GoMap String (Option β'))}
    (h : Option.Rel (GoMap.Matches (fun s t => key s = key t) (Option.Rel R)) m m')
    (hnodup : ((entriesOf m).map fun e => key e.1).Nodup) (k : String)
    : Option.Rel R ((GoMap.lastWith (fun e => key e.1) (nonNil m) k).map (·.2))
        ((GoMap.lastWith (fun e => key e.1) (nonNil m') k).map (·.2)) := by
  rcases forall₂_entriesOf h with ⟨xs, hperm, hall⟩
  have hall' := forall₂_filterMap (K := fun s t => key s = key t) hall
  exact rel_lastWith (hperm.filterMap _) hall' (hnodup.sublist (sublist_nonNil key m)) k

end Lists

section Chosen

variable [CaseMap] {tr : ConfigState} {config config' : TestRunnerConfig}

theorem rel_chosenCategory (h : config.Variant config') (hdistinct : config.Distinct)
    : Option.Rel TestCategoryConfig.Variant (tr.chosenCategory config) (tr.chosenCategory config') :=
  rel_lastWith_nonNil h hdistinct.categories tr.testCategory

theorem rel_chosenAt {categoryConfig categoryConfig' : TestCategoryConfig}
    (h : categoryConfig.Variant categoryConfig') (location : String)
    : Option.Rel TestTriggerConfig.Variant (ConfigState.chosenAt categoryConfig location)
        (ConfigState.chosenAt categoryConfig' location) := by
  have hnodup : ((entriesOf categoryConfig.testLocationTrigger).map (·.1)).Nodup := by
    cases categoryConfig.testLocationTrigger with
    | none => exact List.nodup_nil
    | some m =>
      have hkeys := m.nodupKeys
      rw [List.NodupKeys, List.keys] at hkeys
      simpa [entriesOf, Function.comp_def] using hkeys
  exact @rel_lastWith_nonNil _ _ _ id _ _ h hnodup location

omit [CaseMap] in
theorem rel_or {β β' : Type} {R : β → β' → Prop} {a b : Option β} {a' b' : Option β'}
    (h : Option.Rel R a a') (h' : Option.Rel R b b') : Option.Rel R (a.or b) (a'.or b') := by
  cases h with
  | none => exact h'
  | some h => exact Option.Rel.some h

theorem rel_chosenLocation {categoryConfig categoryConfig' : TestCategoryConfig}
    (h : categoryConfig.Variant categoryConfig')
    : Option.Rel TestTriggerConfig.Variant (tr.chosenLocation categoryConfig)
        (tr.chosenLocation categoryConfig') :=
  rel_or (rel_chosenAt h tr.hostName) (rel_chosenAt h globalTestTriggerKeyword)

theorem rel_chosenParameters {triggerConfig triggerConfig' : TestTriggerConfig}
    (h : triggerConfig.Variant triggerConfig') (hdistinct : DistinctKeys triggerConfig.testParameters)
    : Option.Rel (Option.Rel TestParameters.Variant) (tr.chosenParameters triggerConfig)
        (tr.chosenParameters triggerConfig') := by
  rcases forall₂_entriesOf h with ⟨xs, hperm, hall⟩
  exact rel_lastWith hperm hall hdistinct tr.testTrigger

omit [CaseMap] in
theorem rel_bind {β β' γ γ' : Type} {R : β → β' → Prop} {S : γ → γ' → Prop} {a : Option β}
    {a' : Option β'} {f : β → Option γ} {f' : β' → Option γ'} (h : Option.Rel R a a')
    (hf : ∀ x x', a = some x → R x x' → Option.Rel S (f x) (f' x'))
    : Option.Rel S (a.bind f) (a'.bind f') := by
  cases h with
  | none => exact Option.Rel.none
  | some h => exact hf _ _ rfl h

omit [CaseMap] in
theorem rel_join {β β' : Type} {R : β → β' → Prop} {a : Option (Option β)} {a' : Option (Option β')}
    (h : Option.Rel (Option.Rel R) a a') : Option.Rel R a.join a'.join := by
  cases h with
  | none => exact Option.Rel.none
  | some h => exact h

omit [CaseMap] in
theorem rel_head? {β β' : Type} {R : β → β' → Prop} {xs : List β} {xs' : List β'}
    (h : List.Forall₂ R xs xs') : Option.Rel R xs.head? xs'.head? := by
  cases h with
  | nil => exact Option.Rel.none
  | cons h _ => exact Option.Rel.some h

theorem rel_chosen (h : config.Variant config') (hdistinct : config.Distinct)
    : Option.Rel (Option.Rel TestParameters.Variant) (tr.chosen config) (tr.chosen config') := by
  have hlocation : Option.Rel TestTriggerConfig.Variant
      ((tr.chosenCategory config).bind tr.chosenLocation)
      ((tr.chosenCategory config').bind tr.chosenLocation) :=
    rel_bind (rel_chosenCategory h hdistinct) fun _ _ _ h => rel_chosenLocation h
  apply rel_bind hlocation
  intro triggerConfig triggerConfig' hsome hvariant
  apply rel_chosenParameters hvariant
  rcases Option.bind_eq_some_iff.mp hsome with ⟨categoryConfig, hcategory, hlocation⟩
  rcases ConfigState.mem_of_chosenCategory hcategory with ⟨x, hx, rfl⟩
  rcases ConfigState.mem_of_chosenLocation hlocation with ⟨y, hy, rfl⟩
  exact hdistinct.triggers x hx y hy

end Chosen

section Outcome

/--
The fields of the selected test cases that a run of the test depends on.
-/
structure SameTest [CaseMap] (testCase testCase' : TestParameter) : Prop where
  recipe : testCase.recipe = testCase'.recipe
  timeoutSeconds : testCase.timeoutSeconds = testCase'.timeoutSeconds
  iterations : testCase.iterations = testCase'.iterations
  stopOnFailure : testCase.stopOnFailure = testCase'.stopOnFailure
  framework : toUpper (testCase.framework.getD "") = toUpper (testCase'.framework.getD "")

def SameOutcome [CaseMap] (outcome outcome' : Except Stop ConfigState) : Prop :=
  match outcome, outcome' with
  | .error _, .error _ => True
  | .ok tr, .ok tr' => ∃ testCase testCase', tr.firstTestCase = .ok testCase ∧
      tr'.firstTestCase = .ok testCase' ∧ SameTest testCase testCase'
  | _, _ => False

def CaseInsensitive [CaseMap] (tr : ConfigState) (config config' : TestRunnerConfig) : Prop :=
  ∀ env, SameOutcome ((tr.withConfig config).validateCfg env) ((tr.withConfig config').validateCfg env)

/--
The default recipe of a framework is chosen by its exact spelling.
-/
def SpelledAs (testCase : TestParameter) (framework : String) : Prop :=
  testCase.framework.getD frameworkRVS = framework

/--
If the selected test cases omit their recipe and can run at all, then they spell the names of the
known frameworks alike.
-/
def SpelledAlike [CaseMap] (tr : ConfigState) (config config' : TestRunnerConfig) : Prop :=
  ∀ testCase testCase', tr.chosenTestCase config = some testCase →
    tr.chosenTestCase config' = some testCase' → testCase.recipe = none →
    testCase.iterations ≠ some 0 → testCase.timeoutSeconds ≠ some 0 →
    (SpelledAs testCase frameworkRVS ↔ SpelledAs testCase' frameworkRVS) ∧
      (SpelledAs testCase frameworkAGFHC ↔ SpelledAs testCase' frameworkAGFHC)

variable {testCase testCase' : TestParameter}

theorem setDefaults_iterations_ne_zero
    : testCase.setDefaults.iterations.getD 0 ≠ 0 ↔ testCase.iterations ≠ some 0 := by
  have hdefault : testCase.setDefaults.iterations.getD 0
      = testCase.iterations.getD defaultIterations := rfl
  rw [hdefault]
  cases testCase.iterations with
  | none => decide
  | some n => simp

theorem setDefaults_timeoutSeconds_ne_zero
    : testCase.setDefaults.timeoutSeconds.getD 0 ≠ 0 ↔ testCase.timeoutSeconds ≠ some 0 := by
  have hdefault : testCase.setDefaults.timeoutSeconds.getD 0
      = testCase.timeoutSeconds.getD defaultTestCaseTimeoutInSeconds := rfl
  rw [hdefault]
  cases testCase.timeoutSeconds with
  | none => decide
  | some n => simp

theorem setDefaults_recipe_of_none (h : testCase.recipe = none)
    : testCase.setDefaults.recipe
      = if testCase.framework.getD frameworkRVS = frameworkRVS then some defaultRVSRecipeName
        else if testCase.framework.getD frameworkRVS = frameworkAGFHC then
          some defaultAGFHCRecipeName
        else none := by
  simp only [TestParameter.setDefaults, h]

theorem setDefaults_recipe_eq_iff (h : testCase.recipe = none) (h' : testCase'.recipe = none)
    : testCase.setDefaults.recipe = testCase'.setDefaults.recipe ↔
        (SpelledAs testCase frameworkRVS ↔ SpelledAs testCase' frameworkRVS) ∧
          (SpelledAs testCase frameworkAGFHC ↔ SpelledAs testCase' frameworkAGFHC) := by
  have hne : frameworkRVS ≠ frameworkAGFHC := by
    decide
  rw [setDefaults_recipe_of_none h, setDefaults_recipe_of_none h', SpelledAs, SpelledAs, SpelledAs,
    SpelledAs]
  have hrecipes : defaultRVSRecipeName ≠ defaultAGFHCRecipeName := by
    decide
  grind

variable [CaseMap] {env : ConfigEnv} {tr tr' : ConfigState}

theorem exists_validateRecipe_iff (hrvs : tr'.rvsTestCaseDir = tr.rvsTestCaseDir)
    (hagfhc : tr'.agfhcTestCaseDir = tr.agfhcTestCaseDir) (framework recipe : String)
    : (∃ tr₁, tr'.validateRecipe env framework recipe = .ok tr₁) ↔
        ∃ tr₁, tr.validateRecipe env framework recipe = .ok tr₁ := by
  unfold ConfigState.validateRecipe
  split
  . have hfolder : tr'.rvsModelFolder env = tr.rvsModelFolder env := by
      rw [ConfigState.rvsModelFolder, ConfigState.rvsModelFolder, hrvs]
    simp only [ConfigState.validateRVSRecipe, hfolder, hrvs]
    split
    . simp
    . simp
  . split
    . simp only [ConfigState.validateAGFHCRecipe, hagfhc]
      split
      . simp
      . split
        . simp
        . simp
    . simp

def everyRecipe : ConfigEnv where
  stat := fun _ => some false
  readDir := fun _ => none
  gpuModelTestRecipeDir := some "MI300X"
  equalFold := fun s t => s = t

theorem validateRecipe_everyRecipe (framework recipe : String)
    : ∃ tr₁, tr.validateRecipe everyRecipe framework recipe = .ok tr₁ := by
  unfold ConfigState.validateRecipe
  split
  . exact ⟨_, rfl⟩
  . split
    . exact ⟨_, rfl⟩
    . exact ⟨_, rfl⟩

theorem sameTest_of_variant (h : testCase.Variant testCase')
    (hrecipe : testCase.setDefaults.recipe = testCase'.setDefaults.recipe)
    : SameTest testCase.setDefaults testCase'.setDefaults := by
  have htimeout := congrArg TestParameter.timeoutSeconds h.others
  have hiterations := congrArg TestParameter.iterations h.others
  have hstop := congrArg TestParameter.stopOnFailure h.others
  dsimp only at htimeout hiterations hstop
  constructor
  . exact hrecipe
  . simp only [TestParameter.setDefaults, htimeout]
  . simp only [TestParameter.setDefaults, hiterations]
  . simp only [TestParameter.setDefaults, hstop]
  . simp only [TestParameter.setDefaults, Option.getD_some]
    rcases testCase with ⟨_, _, _, _, _, framework, _⟩
    rcases testCase' with ⟨_, _, _, _, _, framework', _⟩
    rcases h.framework with hupper | _
    . exact hupper
    . rfl

theorem sameOutcome_iff {outcome outcome' : Except Stop ConfigState}
    : SameOutcome outcome outcome' ↔
        ((∃ tr, outcome = .ok tr) ↔ ∃ tr', outcome' = .ok tr') ∧
          ∀ tr tr', outcome = .ok tr → outcome' = .ok tr' → ∃ testCase testCase',
            tr.firstTestCase = .ok testCase ∧ tr'.firstTestCase = .ok testCase' ∧
              SameTest testCase testCase' := by
  cases outcome with
  | error stop =>
    cases outcome' with
    | error stop' => simp [SameOutcome]
    | ok tr' => simp [SameOutcome]
  | ok tr =>
    cases outcome' with
    | error stop' => simp [SameOutcome]
    | ok tr' => simp [SameOutcome]

theorem exists_validateTestCase_iff
    : (∃ tr₁, tr.validateTestCase env testCase.setDefaults = .ok tr₁) ↔
        (∃ tr₁, tr.validateRecipe env (toUpper (testCase.framework.getD frameworkRVS))
            (testCase.setDefaults.recipe.getD "") = .ok tr₁) ∧
          testCase.iterations ≠ some 0 ∧ testCase.timeoutSeconds ≠ some 0 := by
  simp only [ConfigState.validateTestCase_eq_ok_iff, exists_and_right,
    setDefaults_iterations_ne_zero, setDefaults_timeoutSeconds_ne_zero]
  rfl

theorem firstTestCase_of_validateTestCase {params : TestParameters} {tr₁ : ConfigState}
    (hparams : tr.getTestParameters = .ok (some params.setDefaults))
    (hcase : params.testCases.head?.join = some testCase)
    (h : tr.validateTestCase env testCase.setDefaults = .ok tr₁)
    : tr₁.firstTestCase = .ok testCase.setDefaults := by
  apply ConfigState.firstTestCase_of_params _ hcase
  rw [ConfigState.getTestParameters_of_validateTestCase h, hparams]

theorem exists_validateCfg_iff {config : TestRunnerConfig} {params : TestParameters}
    (hchosen : tr.chosen config = some (some params))
    (hcase : params.testCases.head?.join = some testCase)
    : (∃ tr₁, (tr.withConfig config).validateCfg env = .ok tr₁) ↔
        (∃ tr₁, tr.validateRecipe env (toUpper (testCase.framework.getD frameworkRVS))
            (testCase.setDefaults.recipe.getD "") = .ok tr₁) ∧
          testCase.iterations ≠ some 0 ∧ testCase.timeoutSeconds ≠ some 0 := by
  rcases ConfigState.validateCfg_of_testCase env hchosen hcase with ⟨location, -, hvalidate⟩
  rw [hvalidate, exists_validateTestCase_iff, exists_validateRecipe_iff]
  . rfl
  . rfl

theorem firstTestCase_of_chosen {config : TestRunnerConfig} {params : TestParameters}
    {tr₁ : ConfigState} (hchosen : tr.chosen config = some (some params))
    (hcase : params.testCases.head?.join = some testCase)
    (h : (tr.withConfig config).validateCfg env = .ok tr₁)
    : tr₁.firstTestCase = .ok testCase.setDefaults := by
  rcases ConfigState.validateCfg_of_testCase env hchosen hcase with ⟨location, hparams, hvalidate⟩
  rw [hvalidate] at h
  exact firstTestCase_of_validateTestCase hparams hcase h

section Chosen

variable {config config' : TestRunnerConfig} {params params' : TestParameters}

theorem caseInsensitive_iff_recipe (hchosen : tr.chosen config = some (some params))
    (hchosen' : tr.chosen config' = some (some params'))
    (hcase : params.testCases.head?.join = some testCase)
    (hcase' : params'.testCases.head?.join = some testCase') (hvariant : testCase.Variant testCase')
    : CaseInsensitive tr config config' ↔
        (testCase.iterations ≠ some 0 → testCase.timeoutSeconds ≠ some 0 →
          testCase.setDefaults.recipe = testCase'.setDefaults.recipe) := by
  have hiterations := congrArg TestParameter.iterations hvariant.others
  have htimeout := congrArg TestParameter.timeoutSeconds hvariant.others
  dsimp only at hiterations htimeout
  constructor
  . intro h hiter htime
    have hagree := sameOutcome_iff.mp (h everyRecipe)
    have hok := (exists_validateCfg_iff hchosen hcase).mpr
      ⟨validateRecipe_everyRecipe _ _, hiter, htime⟩
    rcases hagree.1.mp hok with ⟨tr₂, h₂⟩
    rcases hok with ⟨tr₁, h₁⟩
    rcases hagree.2 tr₁ tr₂ h₁ h₂ with ⟨first, first', hfirst, hfirst', hsame⟩
    rw [firstTestCase_of_chosen hchosen hcase h₁] at hfirst
    rw [firstTestCase_of_chosen hchosen' hcase' h₂] at hfirst'
    cases hfirst
    cases hfirst'
    exact hsame.recipe
  . intro h env
    rw [sameOutcome_iff, exists_validateCfg_iff hchosen hcase, exists_validateCfg_iff hchosen' hcase',
      ← hiterations, ← htimeout]
    constructor
    . apply and_congr_left
      intro hnonzero
      have hsame := sameTest_of_variant hvariant (h hnonzero.1 hnonzero.2)
      have hframework : toUpper (testCase.framework.getD frameworkRVS)
          = toUpper (testCase'.framework.getD frameworkRVS) := hsame.framework
      rw [hsame.recipe, hframework]
    . intro tr₁ tr₂ h₁ h₂
      have hnonzero := ((exists_validateCfg_iff hchosen hcase).mp ⟨tr₁, h₁⟩).2
      exact ⟨_, _, firstTestCase_of_chosen hchosen hcase h₁,
        firstTestCase_of_chosen hchosen' hcase' h₂,
        sameTest_of_variant hvariant (h hnonzero.1 hnonzero.2)⟩

theorem spelledAlike_iff_recipe (hchosen : tr.chosen config = some (some params))
    (hchosen' : tr.chosen config' = some (some params'))
    (hcase : params.testCases.head?.join = some testCase)
    (hcase' : params'.testCases.head?.join = some testCase') (hvariant : testCase.Variant testCase')
    : SpelledAlike tr config config' ↔
        (testCase.iterations ≠ some 0 → testCase.timeoutSeconds ≠ some 0 →
          testCase.setDefaults.recipe = testCase'.setDefaults.recipe) := by
  have hfirst : tr.chosenTestCase config = some testCase := by
    simp only [ConfigState.chosenTestCase, hchosen]
    exact hcase
  have hfirst' : tr.chosenTestCase config' = some testCase' := by
    simp only [ConfigState.chosenTestCase, hchosen']
    exact hcase'
  have hrecipe := congrArg TestParameter.recipe hvariant.others
  dsimp only at hrecipe
  simp only [SpelledAlike, hfirst, hfirst', Option.some.injEq]
  cases hcases : testCase.recipe with
  | some recipe =>
    rw [hcases] at hrecipe
    simp [TestParameter.setDefaults, hcases, ← hrecipe]
  | none =>
    rw [hcases] at hrecipe
    rw [setDefaults_recipe_eq_iff hcases hrecipe.symm]
    simp [hcases]

theorem sameOutcome_of_errors {outcome outcome' : Except Stop ConfigState}
    (h : ∃ stop, outcome = .error stop) (h' : ∃ stop, outcome' = .error stop)
    : SameOutcome outcome outcome' := by
  rcases h with ⟨stop, rfl⟩
  rcases h' with ⟨stop', rfl⟩
  trivial

theorem exists_error_of_chosenTestCase_none (h : tr.chosenTestCase config = none)
    : ∃ stop, (tr.withConfig config).validateCfg env = .error stop := by
  rcases hchosen : tr.chosen config with _ | _ | params
  . rcases ConfigState.validateCfg_of_nothing env hchosen with ⟨stop, hstop, -⟩
    exact ⟨stop, hstop⟩
  . exact ⟨_, ConfigState.validateCfg_of_nil env hchosen⟩
  . rw [ConfigState.chosenTestCase, hchosen] at h
    rcases ConfigState.validateCfg_of_noTestCase env hchosen h with ⟨stop, hstop, -⟩
    exact ⟨stop, hstop⟩

theorem rel_chosenTestCase (h : config.Variant config') (hdistinct : config.Distinct)
    : Option.Rel TestParameter.Variant (tr.chosenTestCase config) (tr.chosenTestCase config') := by
  apply rel_bind (rel_join (rel_chosen h hdistinct))
  intro params params' _ hvariant
  exact rel_join (rel_head? hvariant.testCases)

end Chosen

end Outcome

section Instances

/--
The letter case makes no difference exactly if the selected test case has a recipe of its own, is
never run, or is spelled alike.
-/
theorem caseInsensitive_iff [CaseMap] (tr : ConfigState) (config config' : TestRunnerConfig)
    (h : config.Variant config') (hdistinct : config.Distinct)
    : CaseInsensitive tr config config' ↔ SpelledAlike tr config config' := by
  have hrel : Option.Rel TestParameter.Variant (tr.chosenTestCase config)
      (tr.chosenTestCase config') :=
    rel_chosenTestCase h hdistinct
  cases hcase : tr.chosenTestCase config with
  | none =>
    rw [hcase] at hrel
    cases hcase' : tr.chosenTestCase config' with
    | none =>
      constructor
      . intro _ testCase _ hsome
        rw [hcase] at hsome
        cases hsome
      . intro _ env
        exact sameOutcome_of_errors (exists_error_of_chosenTestCase_none hcase)
          (exists_error_of_chosenTestCase_none hcase')
    | some testCase' =>
      rw [hcase'] at hrel
      nomatch hrel
  | some testCase =>
    rw [hcase] at hrel
    cases hcase' : tr.chosenTestCase config' with
    | none =>
      rw [hcase'] at hrel
      nomatch hrel
    | some testCase' =>
      rw [hcase'] at hrel
      rcases hrel with ⟨hvariant⟩
      rw [ConfigState.chosenTestCase, Option.bind_eq_some_iff] at hcase hcase'
      rcases hcase with ⟨params, hchosen, hcase⟩
      rcases hcase' with ⟨params', hchosen', hcase'⟩
      rw [Option.join_eq_some_iff] at hchosen hchosen'
      rw [caseInsensitive_iff_recipe hchosen hchosen' hcase hcase' hvariant,
        spelledAlike_iff_recipe hchosen hchosen' hcase hcase' hvariant]

def omittedRecipe (framework : String) : TestRunnerConfig :=
  let testCase : TestParameter := ⟨none, none, none, none, [], some framework, none⟩
  let triggers : GoMap String (Option TestParameters) :=
    (∅ : GoMap String (Option TestParameters)).insert "MANUAL" (some ⟨[some testCase], []⟩)
  let locations : GoMap String (Option TestTriggerConfig) :=
    (∅ : GoMap String (Option TestTriggerConfig)).insert "global" (some ⟨some triggers⟩)
  ⟨some ((∅ : GoMap String (Option TestCategoryConfig)).insert "GPU_HEALTH_CHECK"
    (some ⟨some locations⟩))⟩

theorem matches_insert_empty {β : Type} {K : String → String → Prop} {R : β → β → Prop} {k : String}
    {b b' : β} (hK : K k k) (h : R b b')
    : GoMap.Matches K R ((∅ : GoMap String β).insert k b) ((∅ : GoMap String β).insert k b') :=
  ⟨_, List.Perm.refl _, List.Forall₂.cons ⟨hK, h⟩ List.Forall₂.nil⟩

theorem omittedRecipe_variant [CaseMap] {framework framework' : String}
    (h : UpperEq framework framework')
    : (omittedRecipe framework).Variant (omittedRecipe framework') := by
  have htestCase : TestParameter.Variant ⟨none, none, none, none, [], some framework, none⟩
      ⟨none, none, none, none, [], some framework', none⟩ :=
    ⟨Option.Rel.some h, rfl⟩
  apply Option.Rel.some
  apply matches_insert_empty (UpperEq.refl _)
  apply Option.Rel.some
  apply Option.Rel.some
  apply matches_insert_empty rfl
  apply Option.Rel.some
  apply Option.Rel.some
  apply matches_insert_empty (UpperEq.refl _)
  exact Option.Rel.some ⟨List.Forall₂.cons (Option.Rel.some htestCase) List.Forall₂.nil, rfl⟩

theorem omittedRecipe_distinct [CaseMap] (framework : String)
    : (omittedRecipe framework).Distinct := by
  constructor
  . exact List.nodup_singleton _
  . intro x hx y hy
    rcases List.mem_singleton.mp hx with rfl
    rcases List.mem_singleton.mp hy with rfl
    exact List.nodup_singleton _

theorem caseInsensitive_iff_mixedCase
    : @CaseInsensitive CaseMap.ascii manualRunner (omittedRecipe "Rvs") (omittedRecipe "rvs") ↔
        @SpelledAlike CaseMap.ascii manualRunner (omittedRecipe "Rvs") (omittedRecipe "rvs") :=
  @caseInsensitive_iff CaseMap.ascii manualRunner (omittedRecipe "Rvs") (omittedRecipe "rvs")
    (@omittedRecipe_variant CaseMap.ascii _ _ rfl) (@omittedRecipe_distinct CaseMap.ascii _)

def onlyDefaultRecipe : ConfigEnv where
  stat := fun path => if path = ["conf", "gst_single.conf"] then some false else none
  readDir := fun _ => none
  gpuModelTestRecipeDir := none
  equalFold := fun s t => s = t

theorem not_caseInsensitive
    : ¬∀ (_ : CaseMap) (tr : ConfigState) (config config' : TestRunnerConfig),
        config.Variant config' → config.Distinct → CaseInsensitive tr config config' := by
  intro h
  have hagree := h CaseMap.ascii manualRunner (omittedRecipe "RVS") (omittedRecipe "rvs")
    (@omittedRecipe_variant CaseMap.ascii _ _ rfl) (@omittedRecipe_distinct CaseMap.ascii _)
    onlyDefaultRecipe
  exact hagree

end Instances

end Testrunner
