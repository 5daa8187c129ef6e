import DeviceMetricsExporter.Exporter.Impl.Labels

/-!
This module contains what a configuration turns on, in terms of the configuration only, and which names
the label lists and label maps have after it has been read.
-/

namespace Exporter

/--
`With` accepts a label map only if it has exactly the names the metric was registered with.
-/
structure LabelsMatch (names : List String) (labels : GoMap String String) : Prop where
  nodup : names.Nodup
  mem_iff : ∀ k, k ∈ labels ↔ k ∈ names

section AppendUnique

theorem mem_foldl_appendUnique {ks labelList : List String} {k : String}
    : k ∈ ks.foldl appendUnique labelList ↔ k ∈ labelList ∨ k ∈ ks := by
  induction ks generalizing labelList with
  | nil => simp
  | cons k' ks ih =>
    rw [List.foldl_cons, ih]
    simp only [appendUnique]
    split
    . next h =>
      simp only [List.mem_cons]
      constructor
      . grind
      . grind
    . grind

theorem nodup_foldl_appendUnique {ks labelList : List String} (h : labelList.Nodup)
    : (ks.foldl appendUnique labelList).Nodup := by
  induction ks generalizing labelList with
  | nil => exact h
  | cons k ks ih =>
    rw [List.foldl_cons]
    apply ih
    simp only [appendUnique]
    split
    . exact h
    . next hk =>
      rw [List.nodup_append]
      grind

end AppendUnique

section Config

variable [CaseMap]

def acceptedCustomLabels (disallowedLabels : List String) (config : MetricConfig) : List String :=
  ((config.customLabels.keys.map toLower).filter (· ∉ disallowedLabels)).take maxSupportedCustomLabels

def acceptedPodLabels (config : MetricConfig) : List String :=
  (config.extraPodLabels.keys.take maxSupportedPodLabels).map toLower

def LabelOn {α : Type} [ProtoEnum α] (mandatory : List α) (allowed : String → Bool)
    (config : MetricConfig) (a : α) : Prop :=
  a ∈ mandatory ∨ allowed (ProtoEnum.name a) ∧ ∃ label ∈ config.labels, toUpper label = ProtoEnum.name a

theorem initCustomLabels_go_eq (disallowedLabels : List String)
    (cl : List (Sigma fun _ : String => String)) (labelCount : Nat) (m : GoMap String String)
    : initCustomLabels.go disallowedLabels cl labelCount m
        = m.insertEach ((cl.filter fun e => toLower e.1 ∉ disallowedLabels).take
            (maxSupportedCustomLabels - labelCount)) (fun e => toLower e.1) (·.2) := by
  induction cl generalizing labelCount m with
  | nil => simp [initCustomLabels.go, GoMap.insertEach]
  | cons e cl ih =>
    rcases e with ⟨l, value⟩
    rw [initCustomLabels.go]
    split
    . next hcount =>
      have hzero : maxSupportedCustomLabels - labelCount = 0 := by omega
      simp [hzero, GoMap.insertEach]
    . next hcount =>
      have hleft : maxSupportedCustomLabels - labelCount
          = maxSupportedCustomLabels - (labelCount + 1) + 1 := by omega
      dsimp only
      split
      . next hmem =>
        rw [ih, List.filter_cons_of_neg (by simpa using hmem)]
      . next hmem =>
        rw [ih, List.filter_cons_of_pos (by simpa using hmem), hleft, List.take_succ_cons]
        rfl

theorem mem_initCustomLabels {disallowedLabels : List String} {config : MetricConfig} {k : String}
    : k ∈ initCustomLabels disallowedLabels config.customLabels ↔
        k ∈ acceptedCustomLabels disallowedLabels config := by
  rw [initCustomLabels, initCustomLabels_go_eq, GoMap.mem_insertEach_empty, acceptedCustomLabels,
    AList.keys, List.keys, List.map_map, List.filter_map, ← List.map_take, List.mem_map]
  rfl

theorem normalizeExtraPodLabels_go_eq (es : List (Sigma fun _ : String => String))
    (labelCount : Nat) (m : GoMap String String)
    : normalizeExtraPodLabels.go es labelCount m
        = m.insertEach (es.take (maxSupportedPodLabels - labelCount)) (fun e => toLower e.1)
          (·.2) := by
  induction es generalizing labelCount m with
  | nil => simp [normalizeExtraPodLabels.go, GoMap.insertEach]
  | cons e es ih =>
    rcases e with ⟨prometheusLabel, k8PodLabelName⟩
    rw [normalizeExtraPodLabels.go]
    split
    . next hcount =>
      have hzero : maxSupportedPodLabels - labelCount = 0 := by omega
      simp [hzero, GoMap.insertEach]
    . next hcount =>
      have hleft : maxSupportedPodLabels - labelCount
          = maxSupportedPodLabels - (labelCount + 1) + 1 := by omega
      rw [ih, hleft, List.take_succ_cons]
      rfl

theorem mem_normalizeExtraPodLabels {config : MetricConfig} {k : String}
    : k ∈ normalizeExtraPodLabels config.extraPodLabels ↔ k ∈ acceptedPodLabels config := by
  rw [normalizeExtraPodLabels, normalizeExtraPodLabels_go_eq, GoMap.mem_insertEach_empty,
    acceptedPodLabels, AList.keys, List.keys, ← List.map_take, List.map_map, List.mem_map]
  rfl

theorem mem_enableLabel {allowed : String → Bool} {m : GoMap String Bool} {label name : String}
    : name ∈ enableLabel allowed m label ↔ name ∈ m := by
  simp only [enableLabel]
  split
  . next h =>
    rw [AList.mem_insert]
    grind
  . rfl

theorem lookup_enableLabel {allowed : String → Bool} {m : GoMap String Bool} {label name : String}
    : (enableLabel allowed m label).lookup name = some true ↔
        m.lookup name = some true ∨ name ∈ m ∧ allowed name ∧ toUpper label = name := by
  simp only [enableLabel]
  split
  . next h =>
    rw [GoMap.lookup_insert_eq_ite]
    grind
  . grind

theorem lookup_foldl_enableLabel {allowed : String → Bool} {labels : List String}
    {m : GoMap String Bool} {name : String}
    : (labels.foldl (enableLabel allowed) m).lookup name = some true ↔
        m.lookup name = some true ∨ name ∈ m ∧ allowed name ∧ ∃ label ∈ labels, toUpper label = name := by
  induction labels generalizing m with
  | nil => simp
  | cons label labels ih =>
    rw [List.foldl_cons, ih, lookup_enableLabel, mem_enableLabel]
    simp only [List.mem_cons, exists_eq_or_imp]
    grind

theorem lookup_initLabelConfigs {α : Type} [ProtoEnum α] {mandatory : List α}
    {allowed : String → Bool} {config : MetricConfig} {name : String}
    : (initLabelConfigs (ProtoEnum.names α) (mandatory.map ProtoEnum.name) allowed
          config.labels).lookup name = some true ↔
        ∃ a, LabelOn mandatory allowed config a ∧ ProtoEnum.name a = name := by
  have hlookup : ((GoMap.setAll ∅ (ProtoEnum.names α) false).setAll
        (mandatory.map ProtoEnum.name) true).lookup name
      = if name ∈ mandatory.map ProtoEnum.name then some true
        else if name ∈ ProtoEnum.names α then some false
        else none := by
    rw [GoMap.lookup_setAll, GoMap.lookup_setAll, AList.lookup_empty]
  rw [initLabelConfigs, lookup_foldl_enableLabel, ← AList.lookup_isSome, hlookup]
  by_cases hname : name ∈ ProtoEnum.names α
  . rw [ProtoEnum.mem_names] at hname
    rcases hname with ⟨a, rfl⟩
    have hiff : ∀ P : α → Prop, (∃ b, P b ∧ ProtoEnum.name b = ProtoEnum.name a) ↔ P a := by
      intro P
      simp [ProtoEnum.name_injective.eq_iff]
    have hmem : ProtoEnum.name a ∈ mandatory.map ProtoEnum.name ↔ a ∈ mandatory := by
      rw [List.mem_map, hiff]
    rw [hiff, LabelOn]
    by_cases hmandatory : a ∈ mandatory
    . simp [hmem, hmandatory]
    . simp [hmem, hmandatory, ProtoEnum.name_mem_names]
  . have hne : ∀ a : α, ProtoEnum.name a ≠ name := by
      rw [ProtoEnum.mem_names] at hname
      simpa using hname
    simp [hname, hne]

theorem lower_of_mem_acceptedCustomLabels {disallowedLabels : List String} {config : MetricConfig}
    {k : String} (h : k ∈ acceptedCustomLabels disallowedLabels config) : toLower k = k := by
  have := List.mem_of_mem_filter (List.mem_of_mem_take h)
  rw [List.mem_map] at this
  rcases this with ⟨l, -, rfl⟩
  apply toLower_toLower

theorem lower_of_mem_acceptedPodLabels {config : MetricConfig} {k : String}
    (h : k ∈ acceptedPodLabels config) : toLower k = k := by
  rw [acceptedPodLabels, List.mem_map] at h
  rcases h with ⟨l, -, rfl⟩
  apply toLower_toLower

end Config

def lowerName {α : Type} [ProtoEnum α] (a : α) : String :=
  String.ofList ((ProtoEnum.name a).toList.map Char.toLower)

class LabelEnum (α : Type) [ProtoEnum α] : Prop where
  ascii : ∀ a ∈ (ProtoEnum.values : List α), isASCII (ProtoEnum.name a)
  nodup_lower : ((ProtoEnum.values : List α).map lowerName).Nodup
  lower_ne : ∀ a ∈ (ProtoEnum.values : List α), lowerName a ≠ ProtoEnum.name a

section Enum

variable [CaseMap] {α : Type} [ProtoEnum α] [LabelEnum α]

@[simp]
theorem toLower_name (a : α) : toLower (ProtoEnum.name a) = lowerName a := by
  apply toLower_eq_of_ascii
  apply LabelEnum.ascii a (ProtoEnum.mem_values a)

omit [CaseMap] in
theorem lowerName_injective : Function.Injective (lowerName : α → String) := by
  intro a b h
  apply List.inj_on_of_nodup_map LabelEnum.nodup_lower
  . apply ProtoEnum.mem_values
  . apply ProtoEnum.mem_values
  . exact h

end Enum

theorem toLower_hostname [CaseMap] : toLower MetricLabel.HOSTNAME.name = "hostname" := by
  rw [toLower_eq_of_ascii]
  . rfl
  . decide

theorem lookup_addCustomLabels (labels customLabelMap : GoMap String String) (k : String)
    : (addCustomLabels labels customLabelMap).lookup k
        = (customLabelMap.lookup k).or (labels.lookup k) := by
  rw [addCustomLabels]
  have h := GoMap.lookup_insertEach_self labels customLabelMap id k
  rw [Option.map_id] at h
  exact h

/--
What a client knows after `InitConfigs`: the labels that are on and the pod and custom labels.
-/
structure Configured [CaseMap] {α : Type} [ProtoEnum α] (on : α → Prop) (pod custom : List String)
    (lc : LabelConfig) : Prop where
  lookup_exportLabels : ∀ name, lc.exportLabels.lookup name = some true ↔ ∃ a, on a ∧ ProtoEnum.name a = name
  mem_extraPodLabelsMap : ∀ k, k ∈ lc.extraPodLabelsMap ↔ k ∈ pod
  mem_customLabelMap : ∀ k, k ∈ lc.customLabelMap ↔ k ∈ custom
  lower_pod : ∀ k ∈ pod, toLower k = k
  lower_custom : ∀ k ∈ custom, toLower k = k

theorem configured_initConfigs [CaseMap] {α : Type} [ProtoEnum α] (mandatory : List α)
    (allowed : String → Bool) (disallowedLabels : List String) (lc : LabelConfig)
    (config : MetricConfig)
    : Configured (LabelOn mandatory allowed config) (acceptedPodLabels config)
        (acceptedCustomLabels disallowedLabels config)
        (initConfigs mandatory allowed disallowedLabels lc (some config)) where
  lookup_exportLabels _ := lookup_initLabelConfigs
  mem_extraPodLabelsMap _ := mem_normalizeExtraPodLabels
  mem_customLabelMap _ := mem_initCustomLabels
  lower_pod _ := lower_of_mem_acceptedPodLabels
  lower_custom _ := lower_of_mem_acceptedCustomLabels

namespace Configured

section Entries

variable [CaseMap] {α : Type} [ProtoEnum α] {on : α → Prop} {pod custom : List String}
  {lc : LabelConfig}

theorem mem_enabled_iff (h : Configured on pod custom lc) {e : Sigma fun _ : String => Bool}
    : e ∈ lc.exportLabels.entries.filter (·.2) ↔ ∃ a, on a ∧ e = ⟨ProtoEnum.name a, true⟩ := by
  rcases e with ⟨name, enabled⟩
  have hmem : lc.exportLabels.lookup name = some true ↔ ⟨name, true⟩ ∈ lc.exportLabels.entries :=
    AList.mem_lookup_iff
  rw [List.mem_filter]
  cases enabled with
  | false => simp
  | true =>
    rw [← hmem, h.lookup_exportLabels]
    grind

theorem exists_toLower_iff (hlower : ∀ k ∈ pod, toLower k = k) {k : String}
    : (∃ k' ∈ pod, toLower k' = k) ↔ k ∈ pod := by
  constructor
  . intro hk
    rcases hk with ⟨k', hk', rfl⟩
    rw [hlower k' hk']
    exact hk'
  . intro hk
    exact ⟨k, hk, hlower k hk⟩

theorem mem_addExtraPodLabels (h : Configured on pod custom lc)
    {labels podLabels : GoMap String String} {k : String}
    : k ∈ addExtraPodLabels labels lc.extraPodLabelsMap podLabels ↔ k ∈ labels ∨ k ∈ pod := by
  have hkeys : (∃ e ∈ lc.extraPodLabelsMap.entries, toLower e.1 = k) ↔
      ∃ k' ∈ pod, toLower k' = k := by
    simp only [← h.mem_extraPodLabelsMap, GoMap.mem_iff_entries]
    grind
  rw [addExtraPodLabels, GoMap.mem_insertEach, hkeys, exists_toLower_iff h.lower_pod]

theorem mem_addCustomLabels (h : Configured on pod custom lc) {labels : GoMap String String}
    {k : String}
    : k ∈ addCustomLabels labels lc.customLabelMap ↔ k ∈ labels ∨ k ∈ custom := by
  rw [addCustomLabels, GoMap.mem_insertEach, ← GoMap.mem_iff_entries, h.mem_customLabelMap]

theorem lookup_addExtraPodLabels (h : Configured on pod custom lc)
    (labels podLabels : GoMap String String) (k : String)
    : (addExtraPodLabels labels lc.extraPodLabelsMap podLabels).lookup k
        = ((lc.extraPodLabelsMap.lookup k).map (getString podLabels)).or (labels.lookup k) := by
  have hlower : ∀ e ∈ lc.extraPodLabelsMap.entries, toLower e.1 = e.1 := by
    intro e he
    apply h.lower_pod
    rw [← h.mem_extraPodLabelsMap, GoMap.mem_iff_entries]
    exact ⟨e, he, rfl⟩
  rw [← GoMap.lookup_insertEach_self, addExtraPodLabels, GoMap.insertEach, GoMap.insertEach]
  congr 1
  apply List.foldl_ext
  intro m e he
  rw [hlower e he]

theorem keys_toLower (h : Configured on pod custom lc)
    : lc.customLabelMap.keys.map toLower = lc.customLabelMap.keys := by
  apply List.map_congr_left _ |>.trans (List.map_id _)
  intro k hk
  rw [← AList.mem_keys, h.mem_customLabelMap] at hk
  apply h.lower_custom k hk

theorem getExporterNonDeviceLabels_eq (h : Configured on pod custom lc)
    : getExporterNonDeviceLabels lc = "hostname" :: lc.customLabelMap.keys := by
  rw [getExporterNonDeviceLabels, h.keys_toLower, toLower_hostname]

theorem mem_getExporterNonDeviceLabels (h : Configured on pod custom lc) {k : String}
    : k ∈ getExporterNonDeviceLabels lc ↔ k = "hostname" ∨ k ∈ custom := by
  rw [h.getExporterNonDeviceLabels_eq, List.mem_cons, ← AList.mem_keys, h.mem_customLabelMap]

theorem nodup_getExporterNonDeviceLabels (h : Configured on pod custom lc)
    : (getExporterNonDeviceLabels lc).Nodup ↔ "hostname" ∉ custom := by
  have hkeys := AList.keys_nodup lc.customLabelMap
  rw [h.getExporterNonDeviceLabels_eq, List.nodup_cons, ← AList.mem_keys, h.mem_customLabelMap]
  simp [hkeys]

end Entries

section Names

variable [CaseMap] {α : Type} [ProtoEnum α] [LabelEnum α] {on : α → Prop} {pod custom : List String}
  {lc : LabelConfig}

theorem mem_enabledLabels (h : Configured on pod custom lc) {k : String}
    : k ∈ enabledLabels lc.exportLabels ↔ ∃ a, on a ∧ lowerName a = k := by
  rw [enabledLabels, List.mem_map]
  constructor
  . intro hk
    rcases hk with ⟨e, he, rfl⟩
    rw [h.mem_enabled_iff] at he
    rcases he with ⟨a, ha, rfl⟩
    exact ⟨a, ha, by simp⟩
  . intro hk
    rcases hk with ⟨a, ha, rfl⟩
    exact ⟨_, h.mem_enabled_iff.mpr ⟨a, ha, rfl⟩, by simp⟩

theorem nodup_enabledLabels (h : Configured on pod custom lc)
    : (enabledLabels lc.exportLabels).Nodup := by
  rw [enabledLabels]
  apply List.Nodup.map_on
  . intro e he e' he' hlower
    rw [h.mem_enabled_iff] at he he'
    rcases he with ⟨a, -, rfl⟩
    rcases he' with ⟨b, -, rfl⟩
    rw [toLower_name, toLower_name] at hlower
    rw [lowerName_injective hlower]
  . apply List.Nodup.filter
    apply List.NodupKeys.nodup lc.exportLabels.nodupKeys

theorem mem_getExportLabels (h : Configured on pod custom lc) {k : String}
    : k ∈ getExportLabels lc ↔ (∃ a, on a ∧ lowerName a = k) ∨ k ∈ pod ∨ k ∈ custom := by
  rw [getExportLabels, mem_foldl_appendUnique, mem_foldl_appendUnique, h.mem_enabledLabels,
    ← AList.mem_keys, ← AList.mem_keys, h.mem_extraPodLabelsMap, h.mem_customLabelMap, or_assoc]

theorem nodup_getExportLabels (h : Configured on pod custom lc) : (getExportLabels lc).Nodup := by
  apply nodup_foldl_appendUnique
  apply nodup_foldl_appendUnique
  exact h.nodup_enabledLabels

theorem mem_populateEnabled (h : Configured on pod custom lc) {value : String → Option String}
    {k : String}
    : k ∈ populateEnabled lc.exportLabels value ↔
        ∃ a, (on a ∧ (value (ProtoEnum.name a)).isSome) ∧ lowerName a = k := by
  rw [populateEnabled, GoMap.mem_insertSome]
  constructor
  . intro hk
    rcases hk with hk | ⟨e, he, rfl, hvalue⟩
    . simp at hk
    . rw [h.mem_enabled_iff] at he
      rcases he with ⟨a, ha, rfl⟩
      exact ⟨a, ⟨ha, hvalue⟩, by simp⟩
  . intro hk
    rcases hk with ⟨a, ⟨ha, hvalue⟩, rfl⟩
    exact Or.inr ⟨_, h.mem_enabled_iff.mpr ⟨a, ha, rfl⟩, by simp, hvalue⟩

theorem lookup_populateEnabled (h : Configured on pod custom lc) (f : α → String) {a : α} (ha : on a)
    : (populateEnabled lc.exportLabels fun ckey => (ProtoEnum.ofName? ckey).map f).lookup (lowerName a)
        = some (f a) := by
  have hvalue : ∀ e ∈ lc.exportLabels.entries.filter (·.2),
      (ProtoEnum.ofName? e.1).map f = some (((ProtoEnum.ofName? e.1).map f).getD "") := by
    intro e he
    rcases h.mem_enabled_iff.mp he with ⟨b, -, rfl⟩
    simp
  have hmem : ⟨ProtoEnum.name a, true⟩ ∈ lc.exportLabels.entries.filter (·.2) :=
    h.mem_enabled_iff.mpr ⟨a, ha, rfl⟩
  have hlast : GoMap.lastWith (fun e : Sigma fun _ : String => Bool => toLower e.1)
      (lc.exportLabels.entries.filter (·.2)) (lowerName a) = some ⟨ProtoEnum.name a, true⟩ := by
    have := GoMap.lastWith_of_nodup (fun e : Sigma fun _ : String => Bool => toLower e.1)
      h.nodup_enabledLabels hmem
    simp only [toLower_name] at this
    exact this
  rw [populateEnabled, GoMap.insertSome_eq_insertEach _ hvalue, GoMap.lookup_insertEach_empty, hlast,
    Option.map_some, ProtoEnum.ofName?_name]
  rfl

theorem lookup_populateEnabled_congr (h : Configured on pod custom lc) {f g : α → String} {k : String}
    (hfg : ∀ a, lowerName a = k → f a = g a)
    : (populateEnabled lc.exportLabels fun ckey => (ProtoEnum.ofName? ckey).map f).lookup k
        = (populateEnabled lc.exportLabels fun ckey => (ProtoEnum.ofName? ckey).map g).lookup k := by
  by_cases hk : ∃ a, on a ∧ lowerName a = k
  . rcases hk with ⟨a, ha, rfl⟩
    rw [h.lookup_populateEnabled f ha, h.lookup_populateEnabled g ha, hfg a rfl]
  . have hnone (f : α → String) : (populateEnabled lc.exportLabels fun ckey =>
        (ProtoEnum.ofName? ckey).map f).lookup k = none := by
      rw [AList.lookup_eq_none, h.mem_populateEnabled]
      rintro ⟨a, ⟨ha, -⟩, hlower⟩
      exact hk ⟨a, ha, hlower⟩
    rw [hnone f, hnone g]

theorem nodup_append_getExportLabels (h : Configured on pod custom lc) {names : List String}
    (hnodup : names.Nodup) (hne : ∀ name ∈ names, ∀ a : α, lowerName a ≠ name)
    : (names ++ getExportLabels lc).Nodup ↔ ∀ name ∈ names, name ∉ pod ∧ name ∉ custom := by
  have hmem : ∀ name ∈ names, name ∈ getExportLabels lc ↔ name ∈ pod ∨ name ∈ custom := by
    intro name hname
    rw [h.mem_getExportLabels]
    simp [hne name hname]
  rw [List.nodup_append']
  simp only [hnodup, h.nodup_getExportLabels, true_and, List.disjoint_left]
  constructor
  . intro hdisj name hname
    have := hdisj hname
    rw [hmem name hname, not_or] at this
    exact this
  . intro hfree name hname
    rw [hmem name hname, not_or]
    apply hfree name hname

end Names

end Configured

end Exporter
