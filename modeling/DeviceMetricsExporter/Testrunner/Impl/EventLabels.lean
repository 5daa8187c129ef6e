import DeviceMetricsExporter.Lib.CaseMap
import DeviceMetricsExporter.Lib.GoMap

/-!
This module contains the labels of the events that the test runner generates.
-/

namespace Testrunner

structure EventSource where
  testCategory : String
  testTrigger : String
  hostName : String
  gpuIndexToKFDIDMap : GoMap String String
  deriving DecidableEq

def convertIndexesToKFDIDs (gpuIndexToKFDIDMap : GoMap String String) (indexes : List String)
    : Option (List String) :=
  -- `none` is `os.Exit(1)`
  let kfdIDs := indexes.filterMap gpuIndexToKFDIDMap.lookup
  if 0 < indexes.length && kfdIDs.length = 0 then none else some kfdIDs

def gpuIDLabel (gpuIndex : String) : String :=
  "testrunner.amd.com/gpu.id." ++ gpuIndex

def gpuKFDLabel (kfdID : String) : String :=
  "testrunner.amd.com/gpu.kfd." ++ kfdID

def replaceSlashes (recipe : String) : String :=
  String.ofList (recipe.toList.map fun c => if c = '/' then '_' else c)

section CaseFolding

variable [CaseMap]

def runLabels (category trigger framework recipe hostName : String) : GoMap String String :=
  (∅ : GoMap String String).insert "testrunner.amd.com/category" (toLower category)
    |>.insert "testrunner.amd.com/trigger" (toLower trigger)
    |>.insert "testrunner.amd.com/recipe" (replaceSlashes recipe)
    |>.insert "testrunner.amd.com/hostname" hostName
    |>.insert "testrunner.amd.com/framework" framework

def getEventLabels (category trigger framework recipe hostName : String)
    (gpuIndexes kfdIDs : List String) : GoMap String String :=
  -- the loop ends with the shorter list
  (gpuIndexes.zip kfdIDs).foldl
    (fun labels p => (labels.insert (gpuIDLabel p.1) p.2).insert (gpuKFDLabel p.2) p.1)
    (runLabels category trigger framework recipe hostName)

def EventSource.generateK8sEvent (tr : EventSource) (framework testRecipe : String)
    (gpuIndexes : List String) : Option (GoMap String String) :=
  (convertIndexesToKFDIDs tr.gpuIndexToKFDIDMap gpuIndexes).map
    (getEventLabels tr.testCategory tr.testTrigger framework testRecipe tr.hostName gpuIndexes)

end CaseFolding

end Testrunner
