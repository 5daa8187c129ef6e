import DeviceMetricsExporter.Lib.NilMap
import DeviceMetricsExporter.Exporter.Impl.NodeLabeller

/-!
This module contains the update of the health labels of a node through the Kubernetes API.
-/

namespace Exporter

namespace NodeHealthLabellerConfig

variable (cfg : NodeHealthLabellerConfig)

/-!
The label map of a node is nil if the node has no labels. The three functions of the labeller are the
ones of `NodeLabeller`, on maps that may be nil.
-/

def parseNodeHealthLabelOf (nodeLabels : NilMap String String) : GoMap String String :=
  cfg.parseNodeHealthLabel nodeLabels.read

def removeNodeHealthLabelOf (nodeLabels : NilMap String String) : NilMap String String :=
  nodeLabels.filter fun key _ => !cfg.isHealthLabel key

def addNodeHealthLabelTo (nodeLabels healthMap : NilMap String String)
    : Except GoPanic (NilMap String String) :=
  let labels := healthMap.read.entries.filter fun e => !(e.1 = "" || e.2 = "healthy")
  nodeLabels.insertEach labels (fun e => cfg.labelKey e.1) (·.2)

end NodeHealthLabellerConfig

structure Node where
  labels : NilMap String String
  deriving DecidableEq

structure NodeAPI where
  node : Node
  /--
  The number of `Update` requests that the API has received.
  -/
  updates : Nat
  deriving DecidableEq

/--
The errors with which the API answers the two requests of one call.
-/
structure NodeAPIErrors where
  get : Option String := none
  update : Option String := none

namespace NodeAPI

def update (api : NodeAPI) (err : Option String) (node : Node) : NodeAPI :=
  match err with
  | some _ => { api with updates := api.updates + 1 }
  | none =>
    -- An empty label map is left out of the request, the API then returns a node with a nil map.
    { node := { labels := node.labels.omitEmpty }, updates := api.updates + 1 }

end NodeAPI

namespace K8sClient

def updateHealthLabel (nodelabellerCfg : Option NodeHealthLabellerConfig) (api : NodeAPI)
    (errs : NodeAPIErrors) (newHealthMap : NilMap String String)
    : Except GoPanic (NodeAPI × Option String) :=
  match nodelabellerCfg with
  | none => .ok (api, some "nodelabeller config cannot be nil")
  | some cfg =>
    match errs.get with
    | some err => .ok (api, some err)
    | none =>
      let oldHealthMap := cfg.parseNodeHealthLabelOf api.node.labels
      if NilMap.deepEqual (some oldHealthMap) newHealthMap then
        .ok (api, none)
      else do
        let labels ← cfg.addNodeHealthLabelTo (cfg.removeNodeHealthLabelOf api.node.labels) newHealthMap
        .ok (api.update errs.update { labels }, errs.update)

end K8sClient

end Exporter
