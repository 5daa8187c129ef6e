import DeviceMetricsExporter.Lib.RangeOrder
import DeviceMetricsExporter.Exporter.Lemmas.Labels

/-!
This module contains what the label part of `InitConfigs` takes from the configuration before, and when
it does not depend on the order in which `range` visits the maps of a configuration.
-/

namespace Exporter

structure SameLabelConfig (lc lc' : LabelConfig) : Prop where
  exportLabels : ∀ k, lc.exportLabels.lookup k = lc'.exportLabels.lookup k
  customLabelMap : ∀ k, lc.customLabelMap.lookup k = lc'.customLabelMap.lookup k
  extraPodLabelsMap : ∀ k, lc.extraPodLabelsMap.lookup k = lc'.extraPodLabelsMap.lookup k

namespace MetricConfig

structure Reorders (config config' : MetricConfig) : Prop where
  labels : config'.labels = config.labels
  customLabels : config'.customLabels.entries.Perm config.customLabels.entries
  extraPodLabels : config'.extraPodLabels.entries.Perm config.extraPodLabels.entries

theorem Reorders.refl (config : MetricConfig) : Reorders config config where
  labels := rfl
  customLabels := .refl _
  extraPodLabels := .refl _

variable [CaseMap]

def customEntries (disallowedLabels : List String) (customLabels : GoMap String String)
    : List (Sigma fun _ : String => String) :=
  customLabels.entries.filter fun e => toLower e.1 ∉ disallowedLabels

/--
Labels that are equal in lower case have equal values, and none is dropped in one order and kept in
another because there are too many of them.
-/
structure Unordered (disallowedLabels : List String) (config : MetricConfig) : Prop where
  customLabels :
    GoMap.Unordered (fun e : Sigma fun _ : String => String => toLower e.1) (·.2)
      maxSupportedCustomLabels (customEntries disallowedLabels config.customLabels)
  extraPodLabels :
    GoMap.Unordered (fun e : Sigma fun _ : String => String => toLower e.1) (·.2)
      maxSupportedPodLabels config.extraPodLabels.entries

def enablesPodInfo (config : MetricConfig) : Bool :=
  config.labels.any (toUpper · = MetricLabel.POD_UUID.name) || !config.extraPodLabels.entries.isEmpty

end MetricConfig

section Order

variable [CaseMap]

theorem initCustomLabels_eq (disallowedLabels : List String) (customLabels : GoMap String String)
    : initCustomLabels disallowedLabels customLabels
        = GoMap.insertFirst (fun e => toLower e.1) (·.2) maxSupportedCustomLabels
          (MetricConfig.customEntries disallowedLabels customLabels) :=
  initCustomLabels_go_eq disallowedLabels customLabels.entries 0 ∅

theorem normalizeExtraPodLabels_eq (extraPodLabels : GoMap String String)
    : normalizeExtraPodLabels extraPodLabels
        = GoMap.insertFirst (fun e => toLower e.1) (·.2) maxSupportedPodLabels
          extraPodLabels.entries :=
  normalizeExtraPodLabels_go_eq extraPodLabels.entries 0 ∅

theorem customLabels_unordered_iff (disallowedLabels : List String)
    (customLabels : GoMap String String)
    : (∀ customLabels' : GoMap String String, customLabels'.entries.Perm customLabels.entries →
        ∀ k, (initCustomLabels disallowedLabels customLabels').lookup k
          = (initCustomLabels disallowedLabels customLabels).lookup k) ↔
        GoMap.Unordered (fun e : Sigma fun _ : String => String => toLower e.1) (·.2)
          maxSupportedCustomLabels (MetricConfig.customEntries disallowedLabels customLabels) := by
  simp only [initCustomLabels_eq]
  apply GoMap.unordered_filter_iff

theorem extraPodLabels_unordered_iff (extraPodLabels : GoMap String String)
    : (∀ extraPodLabels' : GoMap String String,
        extraPodLabels'.entries.Perm extraPodLabels.entries →
        ∀ k, (normalizeExtraPodLabels extraPodLabels').lookup k
          = (normalizeExtraPodLabels extraPodLabels).lookup k) ↔
        GoMap.Unordered (fun e : Sigma fun _ : String => String => toLower e.1) (·.2)
          maxSupportedPodLabels extraPodLabels.entries := by
  have h := GoMap.unordered_filter_iff (fun e : Sigma fun _ : String => String => toLower e.1)
    (·.2) 19 (fun _ => true) extraPodLabels
  simp only [List.filter_true] at h
  simp only [normalizeExtraPodLabels_eq]
  exact h

end Order

/--
The label POD_UUID has to be turned on by a configuration, which can do so.
-/
structure PodUUIDOptional {α : Type} [ProtoEnum α] (mandatory : List α) (allowed : String → Bool)
    : Prop where
  exists_label : ∃ a : α, ProtoEnum.name a = MetricLabel.POD_UUID.name ∧ a ∉ mandatory
  allowed : allowed MetricLabel.POD_UUID.name = true

section Reload

variable [CaseMap] {α : Type} [ProtoEnum α] {mandatory : List α} {allowed : String → Bool}
  {disallowedLabels : List String}

def enablesPodInfo (config : Option MetricConfig) : Bool :=
  config.elim false MetricConfig.enablesPodInfo

theorem isEmpty_normalizeExtraPodLabels (config : MetricConfig)
    : (normalizeExtraPodLabels config.extraPodLabels).entries.isEmpty
        = config.extraPodLabels.entries.isEmpty := by
  cases hentries : config.extraPodLabels.entries with
  | nil =>
    rw [normalizeExtraPodLabels, hentries]
    rfl
  | cons e es =>
    have hmem : toLower e.1 ∈ normalizeExtraPodLabels config.extraPodLabels := by
      rw [mem_normalizeExtraPodLabels, acceptedPodLabels, AList.keys, hentries]
      exact List.mem_cons_self
    rcases GoMap.mem_iff_entries.mp hmem with ⟨e', he', -⟩
    rw [List.isEmpty_cons, List.isEmpty_eq_false_iff_exists_mem]
    exact ⟨e', he'⟩

theorem lookup_podUUID (h : PodUUIDOptional mandatory allowed) (labels : List String)
    : (initLabelConfigs (ProtoEnum.names α) (mandatory.map ProtoEnum.name) allowed labels).lookup
          MetricLabel.POD_UUID.name = some true ↔
        ∃ label ∈ labels, toUpper label = MetricLabel.POD_UUID.name := by
  rcases h.exists_label with ⟨a, hname, hmandatory⟩
  rw [show labels = ({ labels } : MetricConfig).labels from rfl, lookup_initLabelConfigs]
  constructor
  . rintro ⟨b, hb, hb'⟩
    have hab : b = a := ProtoEnum.name_injective (hb'.trans hname.symm)
    rw [hab] at hb
    rcases hb with hb | ⟨-, hb⟩
    . exact absurd hb hmandatory
    . rwa [hname] at hb
  . intro hlabel
    refine ⟨a, .inr ⟨?_, ?_⟩, hname⟩
    . rw [hname]
      exact h.allowed
    . rwa [hname]

theorem initPodInfo_initConfigs (h : PodUUIDOptional mandatory allowed) (lc : LabelConfig)
    (config : Option MetricConfig) (podInfoEnabled : Bool)
    : initPodInfo (initConfigs mandatory allowed disallowedLabels lc config) config podInfoEnabled
        = (podInfoEnabled || enablesPodInfo config) := by
  rw [Bool.eq_iff_iff]
  cases config with
  | none =>
    have hlookup := lookup_podUUID h []
    simp only [List.not_mem_nil, false_and, exists_false, iff_false] at hlookup
    simp [initPodInfo, initConfigs, enablesPodInfo, hlookup]
  | some config =>
    have hlookup := lookup_podUUID h config.labels
    have hempty := isEmpty_normalizeExtraPodLabels config
    simp only [initPodInfo, initConfigs, enablesPodInfo, MetricConfig.enablesPodInfo,
      Option.elim_some, Option.isSome_some, Bool.true_and, hempty, hlookup]
    by_cases hlabel : ∃ label ∈ config.labels, toUpper label = MetricLabel.POD_UUID.name
    . simp [hlabel]
    . have hany : config.labels.any (toUpper · = MetricLabel.POD_UUID.name) = false := by
        simpa using hlabel
      rw [if_neg hlabel, hany, Bool.false_or]
      cases config.extraPodLabels.entries.isEmpty with
      | false => simp
      | true => simp

/--
What the configurations loaded so far have left in the flag and in the pod labels, which is all that
another `InitConfigs` can keep of them.
-/
structure PodInfoLoaded (configs : List (Option MetricConfig)) (lc : LabelConfig)
    (podInfoEnabled : Bool) : Prop where
  flag : podInfoEnabled = configs.any enablesPodInfo
  podLabels : podInfoEnabled = false → ∀ k, lc.extraPodLabelsMap.lookup k = none

theorem podInfoLoaded_nil : PodInfoLoaded [] {} false where
  flag := rfl
  podLabels _ _ := rfl

theorem PodInfoLoaded.initConfigs {configs : List (Option MetricConfig)} {lc : LabelConfig}
    {podInfoEnabled : Bool} (hloaded : PodInfoLoaded configs lc podInfoEnabled)
    (h : PodUUIDOptional mandatory allowed) (config : Option MetricConfig)
    : PodInfoLoaded (configs ++ [config])
        (Exporter.initConfigs mandatory allowed disallowedLabels lc config)
        (initPodInfo (Exporter.initConfigs mandatory allowed disallowedLabels lc config) config
          podInfoEnabled) where
  flag := by
    rw [initPodInfo_initConfigs h, hloaded.flag, List.any_append, List.any_cons,
      List.any_nil, Bool.or_false]
  podLabels := by
    rw [initPodInfo_initConfigs h, Bool.or_eq_false_iff]
    rintro ⟨hdisabled, hconfig⟩
    cases config with
    | none => exact hloaded.podLabels hdisabled
    | some config =>
      have hempty : config.extraPodLabels.entries.isEmpty = true := by
        simp only [enablesPodInfo, MetricConfig.enablesPodInfo, Option.elim_some,
          Bool.or_eq_false_iff] at hconfig
        simpa using hconfig.2
      rw [← isEmpty_normalizeExtraPodLabels, List.isEmpty_iff] at hempty
      exact (GoMap.entries_eq_nil_iff _).mp hempty

/--
Loading a configuration leaves the labels and the flag that it would leave in a new client, in whichever
order this one visits the maps.
-/
def LabelReload (mandatory : List α) (allowed : String → Bool) (disallowedLabels : List String)
    (lc : LabelConfig) (podInfoEnabled : Bool) (config : Option MetricConfig) : Prop :=
  ∀ config', Option.Rel MetricConfig.Reorders config config' →
    SameLabelConfig (initConfigs mandatory allowed disallowedLabels lc config)
        (initConfigs mandatory allowed disallowedLabels {} config')
      ∧ initPodInfo (initConfigs mandatory allowed disallowedLabels lc config) config podInfoEnabled
        = initPodInfo (initConfigs mandatory allowed disallowedLabels {} config') config' false

variable (mandatory allowed disallowedLabels) in
theorem sameLabelConfig_iff (lc lc' : LabelConfig) (config : MetricConfig)
    : (∀ config', MetricConfig.Reorders config config' →
        SameLabelConfig (initConfigs mandatory allowed disallowedLabels lc (some config))
          (initConfigs mandatory allowed disallowedLabels lc' (some config'))) ↔
        config.Unordered disallowedLabels := by
  constructor
  . intro h
    constructor
    . rw [← customLabels_unordered_iff]
      intro customLabels' hperm k
      exact ((h { config with customLabels := customLabels' } ⟨rfl, hperm, .refl _⟩).customLabelMap
        k).symm
    . rw [← extraPodLabels_unordered_iff]
      intro extraPodLabels' hperm k
      exact ((h { config with extraPodLabels := extraPodLabels' }
        ⟨rfl, .refl _, hperm⟩).extraPodLabelsMap k).symm
  . intro h config' hreorders
    refine ⟨fun k => ?_, fun k => ?_, fun k => ?_⟩
    . simp only [initConfigs, Option.elim_some, hreorders.labels]
    . exact ((customLabels_unordered_iff disallowedLabels config.customLabels).mpr h.customLabels
        config'.customLabels hreorders.customLabels k).symm
    . exact ((extraPodLabels_unordered_iff config.extraPodLabels).mpr h.extraPodLabels
        config'.extraPodLabels hreorders.extraPodLabels k).symm

theorem enablesPodInfo_eq_of_rel {config config' : Option MetricConfig}
    (h : Option.Rel MetricConfig.Reorders config config')
    : enablesPodInfo config' = enablesPodInfo config := by
  cases h with
  | none => rfl
  | some h =>
    have hempty : ∀ {es es' : List (Sigma fun _ : String => String)}, es'.Perm es →
        es'.isEmpty = es.isEmpty := by
      intro es es' hperm
      rw [Bool.eq_iff_iff, List.isEmpty_iff, List.isEmpty_iff]
      constructor
      . rintro rfl
        exact hperm.symm.eq_nil
      . rintro rfl
        exact hperm.eq_nil
    simp only [enablesPodInfo, Option.elim_some, MetricConfig.enablesPodInfo, h.labels,
      hempty h.extraPodLabels]

theorem labelReload_iff (h : PodUUIDOptional mandatory allowed)
    {configs : List (Option MetricConfig)} {lc : LabelConfig} {podInfoEnabled : Bool}
    (hloaded : PodInfoLoaded configs lc podInfoEnabled) (config : Option MetricConfig)
    : LabelReload mandatory allowed disallowedLabels lc podInfoEnabled config ↔
        (configs.any enablesPodInfo = true → enablesPodInfo config = true)
          ∧ ∀ c ∈ config, c.Unordered disallowedLabels := by
  have hpodInfo {config' : Option MetricConfig}
      (hrel : Option.Rel MetricConfig.Reorders config config')
      : initPodInfo (initConfigs mandatory allowed disallowedLabels lc config) config podInfoEnabled
          = initPodInfo (initConfigs mandatory allowed disallowedLabels {} config') config' false ↔
        (configs.any enablesPodInfo = true → enablesPodInfo config = true) := by
    rw [initPodInfo_initConfigs h, initPodInfo_initConfigs h, enablesPodInfo_eq_of_rel hrel,
      hloaded.flag, Bool.false_or, Bool.or_eq_right_iff_imp]
  cases config with
  | none =>
    constructor
    . intro hreload
      exact ⟨(hpodInfo .none).mp (hreload none .none).2, nofun⟩
    . rintro ⟨hkeep, -⟩ config' hrel
      refine ⟨?_, (hpodInfo hrel).mpr hkeep⟩
      cases hrel
      refine ⟨fun k => rfl, fun k => rfl, ?_⟩
      -- a nil configuration keeps the pod labels, but then there are none
      apply hloaded.podLabels
      rw [hloaded.flag, Bool.eq_false_iff]
      intro hany
      exact absurd (hkeep hany) Bool.false_ne_true
  | some config =>
    constructor
    . intro hreload
      refine ⟨(hpodInfo (.some (.refl config))).mp
        (hreload (some config) (.some (.refl config))).2, ?_⟩
      rintro c ⟨⟩
      apply (sameLabelConfig_iff mandatory allowed disallowedLabels lc {} config).mp
      intro config' hreorders
      exact (hreload (some config') (.some hreorders)).1
    . rintro ⟨hkeep, hunordered⟩ config' hrel
      refine ⟨?_, (hpodInfo hrel).mpr hkeep⟩
      cases hrel with
      | some hreorders =>
        exact (sameLabelConfig_iff mandatory allowed disallowedLabels lc {} config).mpr
          (hunordered config rfl) _ hreorders

end Reload

end Exporter
