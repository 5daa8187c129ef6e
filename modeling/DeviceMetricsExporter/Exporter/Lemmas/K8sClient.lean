import DeviceMetricsExporter.Exporter.Impl.K8sClient
import DeviceMetricsExporter.Exporter.Lemmas.NodeLabeller

/-!
This module contains the round trip of a health map through the label map of a node, which may be nil,
and through the Kubernetes API.
-/

namespace Exporter

open GoMap

namespace NodeHealthLabellerConfig

variable (cfg : NodeHealthLabellerConfig)

theorem addNodeHealthLabelTo_some (nodeLabels : GoMap String String)
    (healthMap : NilMap String String)
    : cfg.addNodeHealthLabelTo (some nodeLabels) healthMap
        = .ok (some (cfg.addNodeHealthLabel nodeLabels healthMap.read)) := by
  apply NilMap.insertEach_some

theorem addNodeHealthLabelTo_none (healthMap : NilMap String String)
    : cfg.addNodeHealthLabelTo none healthMap
        = if (written healthMap.read).entries = [] then .ok none else .error .nilMapWrite := by
  apply NilMap.insertEach_none

theorem removeNodeHealthLabelOf_some (nodeLabels : GoMap String String)
    : cfg.removeNodeHealthLabelOf (some nodeLabels) = some (cfg.removeNodeHealthLabel nodeLabels) := by
  rfl

theorem removeNodeHealthLabelOf_none : cfg.removeNodeHealthLabelOf none = none := by
  rfl

theorem lookup_parseNodeHealthLabelOf_none (deviceID : String)
    : (cfg.parseNodeHealthLabelOf none).lookup deviceID = none := by
  rfl

/--
Every write of the health map can be done: the label map is not nil, or there is nothing to write.
-/
def Writable (nodeLabels healthMap : NilMap String String) : Prop :=
  nodeLabels = none →
    ∀ deviceID state, healthMap.read.lookup deviceID = some state → deviceID = "" ∨ state = "healthy"

theorem written_eq_nil_iff {healthMap : GoMap String String}
    : (written healthMap).entries = []
        ↔ ∀ deviceID state, healthMap.lookup deviceID = some state
            → deviceID = "" ∨ state = "healthy" := by
  rw [entries_eq_nil_iff]
  constructor
  . intro h deviceID state hstate
    by_contra hwritten
    rw [not_or] at hwritten
    have := lookup_written_eq_some.mpr ⟨hstate, hwritten⟩
    rw [h deviceID] at this
    cases this
  . intro h deviceID
    rw [Option.eq_none_iff_forall_ne_some]
    intro state hstate
    rw [lookup_written_eq_some] at hstate
    rcases h deviceID state hstate.1 with hid | hhealthy
    . apply hstate.2.1 hid
    . apply hstate.2.2 hhealthy

theorem exists_addNodeHealthLabelTo_iff (nodeLabels healthMap : NilMap String String)
    (hids : ∀ deviceID ∈ healthMap.read, '\n' ∉ deviceID.toList)
    : (∃ labels,
          cfg.addNodeHealthLabelTo (cfg.removeNodeHealthLabelOf nodeLabels) healthMap = .ok labels
            ∧ deepEqual (cfg.parseNodeHealthLabelOf labels) (written healthMap.read) = true)
        ↔ Writable nodeLabels healthMap := by
  cases nodeLabels with
  | none =>
    rw [removeNodeHealthLabelOf_none, addNodeHealthLabelTo_none]
    constructor
    . rintro ⟨labels, hlabels, -⟩ -
      split at hlabels
      . next hnil => exact written_eq_nil_iff.mp hnil
      . cases hlabels
    . intro hwritable
      have hnil := written_eq_nil_iff.mpr (hwritable rfl)
      refine ⟨none, by rw [if_pos hnil], ?_⟩
      rw [deepEqual_eq_true]
      intro deviceID
      rw [lookup_parseNodeHealthLabelOf_none, (entries_eq_nil_iff _).mp hnil]
  | some nodeLabels =>
    rw [removeNodeHealthLabelOf_some, addNodeHealthLabelTo_some]
    constructor
    . intro _ hnone
      cases hnone
    . intro _
      refine ⟨_, rfl, ?_⟩
      rw [deepEqual_eq_true]
      apply cfg.lookup_parse_add_remove nodeLabels healthMap.read hids

end NodeHealthLabellerConfig

namespace K8sClient

open NodeHealthLabellerConfig hiding updateHealthLabel

variable (cfg : NodeHealthLabellerConfig)

def Unhealthy (healthMap : NilMap String String) : Prop :=
  ∀ deviceID state, healthMap.read.lookup deviceID = some state → deviceID ≠ "" ∧ state ≠ "healthy"

structure RoundTrips (nodeLabels healthMap : NilMap String String) : Prop where
  parse : ∃ labels,
    cfg.addNodeHealthLabelTo (cfg.removeNodeHealthLabelOf nodeLabels) healthMap = .ok labels
      ∧ deepEqual (cfg.parseNodeHealthLabelOf labels) (written healthMap.read) = true
  update : Unhealthy healthMap → ∀ updates, ∃ api,
    updateHealthLabel (some cfg) { node := { labels := nodeLabels }, updates } {} healthMap
          = .ok (api, none)
      ∧ deepEqual (cfg.parseNodeHealthLabelOf api.node.labels) healthMap.read = true
      ∧ ∃ api', updateHealthLabel (some cfg) api {} healthMap = .ok (api', none)
          ∧ api'.updates = api.updates

section Update

variable {cfg : NodeHealthLabellerConfig} {api : NodeAPI} {healthMap : NilMap String String}

theorem updateHealthLabel_of_parsed
    (h : NilMap.deepEqual (some (cfg.parseNodeHealthLabelOf api.node.labels)) healthMap = true)
    : updateHealthLabel (some cfg) api {} healthMap = .ok (api, none) := by
  simp [updateHealthLabel, h]

theorem updateHealthLabel_of_not_parsed {labels : NilMap String String}
    (h : ¬NilMap.deepEqual (some (cfg.parseNodeHealthLabelOf api.node.labels)) healthMap = true)
    (hlabels : cfg.addNodeHealthLabelTo (cfg.removeNodeHealthLabelOf api.node.labels) healthMap
      = .ok labels)
    : updateHealthLabel (some cfg) api {} healthMap = .ok (api.update none { labels }, none) := by
  simp only [updateHealthLabel, if_neg h, hlabels]
  rfl

/--
No parsed label map is deeply equal to the nil map, so that this call always updates the node.
-/
theorem updateHealthLabel_nil
    : updateHealthLabel (some cfg) api {} none
        = .ok (api.update none { labels := cfg.removeNodeHealthLabelOf api.node.labels }, none) := by
  apply updateHealthLabel_of_not_parsed
  . simp [NilMap.deepEqual]
  . rfl

theorem update_of_writable {nodeLabels : NilMap String String}
    (hids : ∀ deviceID ∈ healthMap.read, '\n' ∉ deviceID.toList) (hnil : healthMap ≠ none)
    (hwritable : Writable nodeLabels healthMap) (hunhealthy : Unhealthy healthMap) (updates : Nat)
    : ∃ api,
        updateHealthLabel (some cfg) { node := { labels := nodeLabels }, updates } {} healthMap
              = .ok (api, none)
          ∧ NilMap.deepEqual (some (cfg.parseNodeHealthLabelOf api.node.labels)) healthMap = true := by
  by_cases hparsed : NilMap.deepEqual (some (cfg.parseNodeHealthLabelOf nodeLabels)) healthMap = true
  . exact ⟨_, updateHealthLabel_of_parsed hparsed, hparsed⟩
  . rcases (cfg.exists_addNodeHealthLabelTo_iff nodeLabels healthMap hids).mpr hwritable
      with ⟨labels, hlabels, hparse⟩
    refine ⟨_, updateHealthLabel_of_not_parsed hparsed hlabels, ?_⟩
    rw [NilMap.deepEqual_some_eq_true]
    refine ⟨hnil, ?_⟩
    intro deviceID
    rw [deepEqual_eq_true] at hparse
    rw [← lookup_written_of_all hunhealthy, ← hparse deviceID]
    simp only [NodeAPI.update, parseNodeHealthLabelOf, NilMap.read_omitEmpty]

theorem read_labels_updateHealthLabel (nodeLabels newHealthMap : GoMap String String) (updates : Nat)
    : ∃ api,
        updateHealthLabel (some cfg) { node := { labels := some nodeLabels }, updates } {}
              (some newHealthMap)
            = .ok (api, none)
          ∧ api.node.labels.read = cfg.updateHealthLabel nodeLabels newHealthMap := by
  by_cases hparsed : deepEqual (cfg.parseNodeHealthLabel nodeLabels) newHealthMap = true
  . refine ⟨_, updateHealthLabel_of_parsed hparsed, ?_⟩
    simp [NodeHealthLabellerConfig.updateHealthLabel, hparsed]
  . refine ⟨_, updateHealthLabel_of_not_parsed hparsed (cfg.addNodeHealthLabelTo_some _ _), ?_⟩
    simp [NodeHealthLabellerConfig.updateHealthLabel, hparsed, NodeAPI.update, NilMap.read_omitEmpty,
      removeNodeHealthLabel]

/--
Also without its health labels the node has labels, as the ones the kubelet sets.
-/
def HasForeignLabel (cfg : NodeHealthLabellerConfig) (node : Node) : Prop :=
  ∃ key ∈ node.labels.read, cfg.isHealthLabel key = false

theorem mem_updateHealthLabel {nodeLabels newHealthMap : GoMap String String} {key : String}
    (hkey : cfg.isHealthLabel key = false) (hmem : key ∈ nodeLabels)
    : key ∈ cfg.updateHealthLabel nodeLabels newHealthMap := by
  unfold NodeHealthLabellerConfig.updateHealthLabel
  dsimp only
  split
  . exact hmem
  . have hwrites : ¬cfg.Writes newHealthMap key := by
      rintro ⟨deviceID, -, rfl⟩
      rw [cfg.isHealthLabel_labelKey] at hkey
      cases hkey
    rw [← AList.lookup_isSome, cfg.lookup_add_remove_of_not_writes hwrites, hkey]
    exact AList.lookup_isSome.mpr hmem

theorem updateHealthLabel_of_foreignLabel (hnode : HasForeignLabel cfg api.node)
    (newHealthMap : GoMap String String)
    : ∃ api', updateHealthLabel (some cfg) api {} (some newHealthMap) = .ok (api', none)
        ∧ api'.node.labels.read = cfg.updateHealthLabel api.node.labels.read newHealthMap
        ∧ HasForeignLabel cfg api'.node := by
  rcases api with ⟨⟨nodeLabels⟩, updates⟩
  rcases hnode with ⟨key, hmem, hkey⟩
  cases nodeLabels with
  | none => exact absurd hmem (AList.notMem_empty key)
  | some nodeLabels =>
    rcases read_labels_updateHealthLabel nodeLabels newHealthMap updates with ⟨api', hupdate, hread⟩
    refine ⟨api', hupdate, hread, key, ?_, hkey⟩
    rw [hread]
    exact mem_updateHealthLabel hkey hmem

theorem node_eq_of_error {nodelabellerCfg : Option NodeHealthLabellerConfig} {errs : NodeAPIErrors}
    {api' : NodeAPI} {err : String}
    (h : updateHealthLabel nodelabellerCfg api errs healthMap = .ok (api', some err))
    : api'.node = api.node := by
  unfold updateHealthLabel at h
  split at h
  . cases h
    rfl
  . split at h
    . cases h
      rfl
    . dsimp only at h
      split at h
      . cases h
      . next cfg _ _ _ =>
        cases hlabels : cfg.addNodeHealthLabelTo (cfg.removeNodeHealthLabelOf api.node.labels) healthMap with
        | error panic =>
          rw [hlabels] at h
          cases h
        | ok labels =>
          rw [hlabels] at h
          injection h with hres
          rw [Prod.mk.injEq] at hres
          rw [← hres.1, hres.2]
          rfl

end Update

theorem roundTrips_iff (nodeLabels healthMap : NilMap String String)
    (hids : ∀ deviceID ∈ healthMap.read, '\n' ∉ deviceID.toList)
    : RoundTrips cfg nodeLabels healthMap ↔ healthMap ≠ none ∧ Writable nodeLabels healthMap := by
  constructor
  . intro h
    refine ⟨?_, (cfg.exists_addNodeHealthLabelTo_iff nodeLabels healthMap hids).mp h.parse⟩
    rintro rfl
    have hunhealthy : Unhealthy none := by
      intro deviceID state hstate
      cases hstate
    rcases h.update hunhealthy 0 with ⟨api, -, -, api', hsecond, hupdates⟩
    rw [updateHealthLabel_nil] at hsecond
    cases hsecond
    simp [NodeAPI.update] at hupdates
  . rintro ⟨hnil, hwritable⟩
    refine ⟨(cfg.exists_addNodeHealthLabelTo_iff nodeLabels healthMap hids).mpr hwritable, ?_⟩
    intro hunhealthy updates
    rcases update_of_writable hids hnil hwritable hunhealthy updates with ⟨api, hfirst, hparsed⟩
    refine ⟨api, hfirst, ?_, api, updateHealthLabel_of_parsed hparsed, rfl⟩
    rw [deepEqual_eq_true]
    exact (NilMap.deepEqual_some_eq_true.mp hparsed).2

theorem roundTrips_iff_relabelled
    : RoundTrips ⟨gpuHealthLabelPrefix⟩
        (some (AList.insert "kubernetes.io/hostname" "node"
          (AList.insert "metricsexporter.amd.com.gpu.1.state" "unhealthy" ∅)))
        (some (AList.insert "0" "unhealthy" ∅)) :=
  (roundTrips_iff ⟨gpuHealthLabelPrefix⟩ _ _ (by decide)).mpr ⟨by decide, nofun⟩

theorem not_roundTrips
    : ¬∀ (cfg : NodeHealthLabellerConfig) (nodeLabels healthMap : NilMap String String),
        cfg.labelPrefix ≠ "" → (∀ deviceID ∈ healthMap.read, '\n' ∉ deviceID.toList)
          → RoundTrips cfg nodeLabels healthMap := by
  -- the node has no labels yet, so that its label map is nil
  intro h
  have := h ⟨gpuHealthLabelPrefix⟩ none (some (AList.insert "0" "unhealthy" ∅)) (by decide) (by decide)
  rcases this.parse with ⟨labels, hlabels, -⟩
  cases hlabels

end K8sClient

end Exporter
