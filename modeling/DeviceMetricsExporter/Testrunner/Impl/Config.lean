import DeviceMetricsExporter.Lib.CaseMap
import DeviceMetricsExporter.Lib.GoMap
import DeviceMetricsExporter.Lib.TransitionSystem

/-!
This module contains the configuration of the test runner: how it is read, completed with defaults,
normalized and validated, and how the running tests look their parameters up in it. Pointers and
maps that JSON may leave nil are `Option`s.
-/

namespace Testrunner

structure TestParameter where
  recipe : Option String
  timeoutSeconds : Option UInt32
  iterations : Option UInt32
  stopOnFailure : Option Bool
  deviceIDs : List String
  framework : Option String
  arguments : Option String
  deriving DecidableEq

structure TestLogsExportConfig where
  provider : String
  bucketName : String
  secretName : String
  deriving DecidableEq

structure TestParameters where
  testCases : List (Option TestParameter)
  logsExportConfig : List (Option TestLogsExportConfig)
  deriving DecidableEq

structure TestTriggerConfig where
  testParameters : Option (GoMap String (Option TestParameters))
  deriving DecidableEq

structure TestCategoryConfig where
  testLocationTrigger : Option (GoMap String (Option TestTriggerConfig))
  deriving DecidableEq

structure TestRunnerConfig where
  testConfig : Option (GoMap String (Option TestCategoryConfig))
  deriving DecidableEq

def globalTestTriggerKeyword : String := "global"

def frameworkRVS : String := "RVS"

def frameworkAGFHC : String := "AGFHC"

def defaultRVSRecipeName : String := "gst_single"

def defaultAGFHCRecipeName : String := "all_lvl1"

def defaultTestCaseTimeoutInSeconds : UInt32 := 3600

def defaultIterations : UInt32 := 1

def defaultStopOnFailure : Bool := true

def defaultTestParameters : TestParameters where
  -- The three triggers have constants of their own, with the same values.
  testCases :=
    [some {
      recipe := some "gst_single"
      timeoutSeconds := some 3600
      iterations := some 1
      stopOnFailure := some true
      deviceIDs := []
      framework := some frameworkRVS
      arguments := none }]
  logsExportConfig := []

def defaultGlobalTestRunnerConfig : TestRunnerConfig :=
  let triggers : GoMap String (Option TestParameters) :=
    ((∅ : GoMap String (Option TestParameters)).insert "AUTO_UNHEALTHY_GPU_WATCH"
      (some defaultTestParameters) |>.insert "PRE_START_JOB_CHECK" (some defaultTestParameters)
      |>.insert "MANUAL" (some defaultTestParameters))
  let locations : GoMap String (Option TestTriggerConfig) :=
    (∅ : GoMap String (Option TestTriggerConfig)).insert globalTestTriggerKeyword
      (some ⟨some triggers⟩)
  ⟨some ((∅ : GoMap String (Option TestCategoryConfig)).insert "GPU_HEALTH_CHECK"
    (some ⟨some locations⟩))⟩

def TestParameter.setDefaults (testCase : TestParameter) : TestParameter :=
  let framework := testCase.framework.getD frameworkRVS
  let recipe :=
    match testCase.recipe with
    | some recipe => some recipe
    | none =>
      if framework = frameworkRVS then some defaultRVSRecipeName
      else if framework = frameworkAGFHC then some defaultAGFHCRecipeName
      else none
  { testCase with
    framework := some framework
    recipe
    timeoutSeconds := some (testCase.timeoutSeconds.getD defaultTestCaseTimeoutInSeconds)
    iterations := some (testCase.iterations.getD defaultIterations)
    stopOnFailure := some (testCase.stopOnFailure.getD defaultStopOnFailure) }

def TestParameters.setDefaults (params : TestParameters) : TestParameters :=
  { params with testCases := params.testCases.map (·.map TestParameter.setDefaults) }

def TestTriggerConfig.setDefaults (triggerConfig : TestTriggerConfig) : TestTriggerConfig :=
  ⟨triggerConfig.testParameters.map fun m => GoMap.map m fun _ params =>
    params.map TestParameters.setDefaults⟩

def TestCategoryConfig.setDefaults (categoryConfig : TestCategoryConfig) : TestCategoryConfig :=
  ⟨categoryConfig.testLocationTrigger.map fun m => GoMap.map m fun _ triggerConfig =>
    triggerConfig.map TestTriggerConfig.setDefaults⟩

def setConfigDefaults (config : TestRunnerConfig) : TestRunnerConfig :=
  ⟨config.testConfig.map fun m => GoMap.map m fun _ categoryConfig =>
    categoryConfig.map TestCategoryConfig.setDefaults⟩

def rangeNonNil {β γ : Type} (m : Option (GoMap String (Option β))) (key : String → String)
    (f : β → γ) : GoMap String (Option γ) :=
  -- The loops of `normalizeConfig` that leave nil entries out: where two keys become equal, the one
  -- visited last wins.
  (m.elim [] (·.entries)).foldl
    (fun m' e =>
      match e.2 with
      | none => m'
      | some b => m'.insert (key e.1) (some (f b)))
    ∅

section CaseFolding

variable [CaseMap]

def TestTriggerConfig.normalize (triggerConfig : TestTriggerConfig) : TestTriggerConfig :=
  -- unlike the maps above this one keeps its nil entries
  ⟨some <| (triggerConfig.testParameters.elim [] (·.entries)).foldl
    (fun newParams e => newParams.insert (toUpper e.1) e.2) ∅⟩

def TestCategoryConfig.normalize (categoryConfig : TestCategoryConfig) : TestCategoryConfig :=
  ⟨some (rangeNonNil categoryConfig.testLocationTrigger id TestTriggerConfig.normalize)⟩

def normalizeConfig (config : TestRunnerConfig) : TestRunnerConfig :=
  ⟨some (rangeNonNil config.testConfig toUpper TestCategoryConfig.normalize)⟩

end CaseFolding

/--
The fields of a `TestRunner` that its configuration depends on.
-/
structure ConfigState where
  hostName : String
  testCategory : String
  testTrigger : String
  rvsTestCaseDir : String
  agfhcTestCaseDir : String
  testLocation : String
  testCfgGPUModelName : String
  globalTestRunnerConfig : Option TestRunnerConfig
  deriving DecidableEq

def index {β : Type} (m : Option (GoMap String (Option β))) (k : String) : Option β :=
  (m.bind (·.lookup k)).join

/--
Why the process ends: `os.Exit(1)` after an error report, or a nil pointer that is dereferenced.
-/
inductive Stop where
  | noTestConfig
  | noCategory
  | emptyCategory
  | noLocationTrigger
  | noLocation
  | noParameters (location : String)
  | noTrigger (location : String)
  | noTestCase (location : String)
  | noGPUModel
  | recipeNotFound (framework : String) (testCfgPath : List String)
  | zeroIterations (framework : String)
  | zeroTimeoutSeconds (framework : String)
  | panic
  deriving DecidableEq

def deref {α : Type} (p : Option α) : Except Stop α :=
  p.elim (.error .panic) .ok

def ConfigState.getTestParameters (tr : ConfigState) : Except Stop (Option TestParameters) := do
  let config ← deref tr.globalTestRunnerConfig
  let categoryConfig ← deref (index config.testConfig tr.testCategory)
  let triggerConfig ← deref (index categoryConfig.testLocationTrigger tr.testLocation)
  return index triggerConfig.testParameters tr.testTrigger

def ConfigState.getLogsExportConfig (tr : ConfigState)
    : Except Stop (List (Option TestLogsExportConfig)) := do
  let params ← deref (← tr.getTestParameters)
  return params.logsExportConfig

/--
What `validateCfg` asks of its surroundings. A path is given by the elements it is joined from,
`stat` says whether it is a directory, and `equalFold` compares under Unicode case folding.
-/
structure ConfigEnv where
  stat : List String → Option Bool
  readDir : String → Option (List (String × Bool))
  gpuModelTestRecipeDir : Option String
  equalFold : String → String → Bool

def pathJoin (elems : List String) : List String :=
  elems.filter (· ≠ "")

def findGPUModelFolder (env : ConfigEnv) (baseDir gpuModel : String) : String :=
  match env.stat (pathJoin [baseDir, gpuModel]) with
  | some isDir => if isDir then gpuModel else ""
  | none =>
    match env.readDir baseDir with
    | none => ""
    | some entries =>
      ((entries.find? fun entry => entry.2 && env.equalFold entry.1 gpuModel).map (·.1)).getD ""

def modelAlias (env : ConfigEnv) (baseDir gpuModelSubDir fallback : String) : String :=
  let foundFolder := findGPUModelFolder env baseDir gpuModelSubDir
  if foundFolder ≠ "" then foundFolder else fallback

namespace ConfigState

variable [CaseMap]

def selectLocation (tr : ConfigState) : Except Stop String := do
  let config ← deref tr.globalTestRunnerConfig
  let some testConfig := config.testConfig | .error .noTestConfig
  let some categoryConfig := testConfig.lookup tr.testCategory | .error .noCategory
  let some categoryConfig := categoryConfig | .error .emptyCategory
  let some locations := categoryConfig.testLocationTrigger | .error .noLocationTrigger
  let foundHostSpecificTest := (locations.lookup tr.hostName).isSome
  let foundGlobalTest := (locations.lookup globalTestTriggerKeyword).isSome
  if !foundGlobalTest && !foundHostSpecificTest then
    .error .noLocation
  else
    let location := if foundHostSpecificTest then tr.hostName else globalTestTriggerKeyword
    let triggerConfig ← deref (index (some locations) location)
    let some testParameters := triggerConfig.testParameters | .error (.noParameters location)
    let some params := testParameters.lookup tr.testTrigger | .error (.noTrigger location)
    let params ← deref params
    match params.testCases with
    | [] | none :: _ => .error (.noTestCase location)
    | some _ :: _ => .ok location

def rvsModelFolder (env : ConfigEnv) (tr : ConfigState) : Option String :=
  -- RVS may use aliases for the folders of two models, the folder is empty if there is none
  env.gpuModelTestRecipeDir.map fun gpuModelSubDir =>
    let gpuModelSubDir :=
      if gpuModelSubDir = "MI350X" then
        modelAlias env tr.rvsTestCaseDir gpuModelSubDir "gfx950-dlc"
      else if gpuModelSubDir = "MI355X" then
        modelAlias env tr.rvsTestCaseDir gpuModelSubDir "gfx950"
      else
        gpuModelSubDir
    findGPUModelFolder env tr.rvsTestCaseDir gpuModelSubDir

def validateRVSRecipe (env : ConfigEnv) (tr : ConfigState) (recipe : String)
    : Except Stop ConfigState :=
  let foundFolder := tr.rvsModelFolder env
  let testCfgPath := pathJoin [tr.rvsTestCaseDir, foundFolder.getD "", recipe ++ ".conf"]
  match env.stat testCfgPath with
  | none => .error (.recipeNotFound frameworkRVS testCfgPath)
  | some _ => .ok { tr with testCfgGPUModelName := foundFolder.getD tr.testCfgGPUModelName }

def validateAGFHCRecipe (env : ConfigEnv) (tr : ConfigState) (recipe : String)
    : Except Stop ConfigState :=
  match env.gpuModelTestRecipeDir with
  | none => .error .noGPUModel
  | some gpuModelSubDir =>
    let gpuModelSubDir := toLower gpuModelSubDir
    let testCfgPath := pathJoin [tr.agfhcTestCaseDir, gpuModelSubDir, recipe ++ ".yml"]
    match env.stat testCfgPath with
    | none => .error (.recipeNotFound frameworkAGFHC testCfgPath)
    | some _ => .ok { tr with testCfgGPUModelName := gpuModelSubDir }

def validateRecipe (env : ConfigEnv) (tr : ConfigState) (framework recipe : String)
    : Except Stop ConfigState :=
  if framework = frameworkRVS then tr.validateRVSRecipe env recipe
  else if framework = frameworkAGFHC then tr.validateAGFHCRecipe env recipe
  else .ok tr

def firstTestCase (tr : ConfigState) : Except Stop TestParameter := do
  let testParams ← deref (← tr.getTestParameters)
  let testCase ← deref testParams.testCases.head?
  deref testCase

def validateCfg (env : ConfigEnv) (tr : ConfigState) : Except Stop ConfigState := do
  let location ← tr.selectLocation
  let tr := { tr with testLocation := location }
  let testCase ← tr.firstTestCase
  let framework := toUpper (testCase.framework.getD "")
  let tr ← tr.validateRecipe env framework (testCase.recipe.getD "")
  if testCase.iterations.getD 0 = 0 then
    .error (.zeroIterations framework)
  else if testCase.timeoutSeconds.getD 0 = 0 then
    .error (.zeroTimeoutSeconds framework)
  else
    .ok tr

end ConfigState

/--
The file at `testCfgPath`: one that cannot be opened or read, one that is not a configuration, and
the configuration it is decoded to.
-/
inductive ConfigFile where
  | unreadable
  | malformed
  | decoded (config : TestRunnerConfig)
  deriving DecidableEq

section CaseFolding

variable [CaseMap]

def ConfigFile.config (file : ConfigFile) : Option TestRunnerConfig :=
  match file with
  | .unreadable => some (normalizeConfig defaultGlobalTestRunnerConfig)
  | .malformed => none
  | .decoded config => some (normalizeConfig (setConfigDefaults config))

def ConfigState.readCfg (tr : ConfigState) (file : ConfigFile) : Option ConfigState :=
  file.config.map fun config => { tr with globalTestRunnerConfig := some config }

/--
The test runner and its watcher, which is between `readCfg` and `validateCfg` while `pending`.
-/
structure ConfigWatcher where
  tr : ConfigState
  pending : Bool
  deriving DecidableEq

inductive WatchAction where
  | readCfg (file : ConfigFile)
  | validateCfg (env : ConfigEnv)

def ConfigWatcher.step (s : ConfigWatcher) (a : WatchAction) : Option ConfigWatcher :=
  -- the process ends where a step is not enabled
  match a with
  | .readCfg file => if s.pending then none else (s.tr.readCfg file).map (⟨·, true⟩)
  | .validateCfg env =>
    if s.pending then
      match s.tr.validateCfg env with
      | .ok tr => some ⟨tr, false⟩
      | .error _ => none
    else
      none

def watchConfigFile : TransitionSystem ConfigWatcher WatchAction where
  step := ConfigWatcher.step

end CaseFolding

end Testrunner
