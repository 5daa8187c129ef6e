import DeviceMetricsExporter.Exporter.Impl.NodeLabeller

/-!
This module contains the round trip of a health map through the labels of a node.
-/

namespace Exporter

open GoMap

def ValidDeviceID (deviceID : String) : Prop :=
  deviceID ≠ "" ∧ '\n' ∉ deviceID.toList

namespace NodeHealthLabellerConfig

variable (cfg : NodeHealthLabellerConfig)

theorem toList_labelKey (deviceID : String)
    : (cfg.labelKey deviceID).toList
        = (cfg.labelPrefix ++ ".").toList ++ deviceID.toList ++ ".state".toList := by
  simp [labelKey]

theorem labelKey_injective {deviceID deviceID' : String}
    (h : cfg.labelKey deviceID = cfg.labelKey deviceID') : deviceID = deviceID' := by
  have hchars := congrArg String.toList h
  rw [toList_labelKey, toList_labelKey, List.append_left_inj, List.append_right_inj] at hchars
  apply String.toList_inj.mp hchars

theorem isHealthLabel_labelKey (deviceID : String) : cfg.isHealthLabel (cfg.labelKey deviceID) := by
  simp only [isHealthLabel, Bool.and_eq_true, List.isPrefixOf_iff_prefix, List.isSuffixOf_iff_suffix,
    toList_labelKey]
  constructor
  . refine ⟨".".toList ++ deviceID.toList ++ ".state".toList, ?_⟩
    simp
  . apply List.suffix_append _ _

theorem extractDeviceID_labelKey {deviceID : String} (h : ValidDeviceID deviceID)
    : cfg.extractDeviceID (cfg.labelKey deviceID) = deviceID := by
  have hprefix : (cfg.labelKey deviceID).toList.dropPrefix? (cfg.labelPrefix ++ ".").toList
      = some (deviceID.toList ++ ".state".toList) := by
    rw [List.dropPrefix?_eq_some_iff]
    exact ⟨_, by rw [toList_labelKey, List.append_assoc], by simp⟩
  have hsuffix : (deviceID.toList ++ ".state".toList).dropSuffix? ".state".toList
      = some deviceID.toList := by
    rw [List.dropSuffix?_eq_some_iff]
    exact ⟨_, rfl, by simp⟩
  have hne : ¬(deviceID.toList = [] ∨ '\n' ∈ deviceID.toList) := by
    rw [not_or]
    refine ⟨?_, h.2⟩
    intro hnil
    apply h.1 (String.toList_inj.mp hnil)
  simp only [extractDeviceID, hprefix, hsuffix, if_neg hne, String.ofList_toList]

theorem eq_labelKey_of_extractDeviceID {key : String} (h : cfg.extractDeviceID key ≠ "")
    : ValidDeviceID (cfg.extractDeviceID key) ∧ key = cfg.labelKey (cfg.extractDeviceID key) := by
  unfold extractDeviceID at h ⊢
  split at h
  . exact absurd rfl h
  . next rest hrest =>
    split at h
    . exact absurd rfl h
    . next deviceID hdeviceID =>
      split at h
      . exact absurd rfl h
      . next hvalid =>
        rw [not_or] at hvalid
        rw [List.dropPrefix?_eq_some_iff] at hrest
        rw [List.dropSuffix?_eq_some_iff] at hdeviceID
        rcases hrest with ⟨front, hkey, hfront⟩
        rcases hdeviceID with ⟨back, hrest, hback⟩
        rw [beq_iff_eq] at hfront hback
        subst hfront hback
        simp only [if_neg (not_or.mpr hvalid)]
        refine ⟨⟨h, by simpa using hvalid.2⟩, ?_⟩
        apply String.toList_inj.mp
        simp [toList_labelKey, hkey, hrest]

theorem lookup_parseNodeHealthLabel (nodeLabels : GoMap String String) {deviceID : String}
    (hvalid : ValidDeviceID deviceID)
    : (cfg.parseNodeHealthLabel nodeLabels).lookup deviceID
        = nodeLabels.lookup (cfg.labelKey deviceID) := by
  unfold parseNodeHealthLabel
  rw [lookup_insertEach_empty]
  cases hlast : lastWith (fun e : Sigma fun _ : String => String => cfg.extractDeviceID e.1)
      (nodeLabels.entries.filter fun e => cfg.isHealthLabel e.1 && cfg.extractDeviceID e.1 != "")
      deviceID with
  | none =>
    rw [lastWith_eq_none] at hlast
    rw [Option.map_none, eq_comm, Option.eq_none_iff_forall_ne_some]
    intro state hstate
    refine hlast ⟨cfg.labelKey deviceID, state⟩ ?_ (cfg.extractDeviceID_labelKey hvalid)
    rw [List.mem_filter]
    refine ⟨AList.mem_lookup_iff.mp hstate, ?_⟩
    simp [cfg.isHealthLabel_labelKey, cfg.extractDeviceID_labelKey hvalid, hvalid.1]
  | some e =>
    rcases mem_of_lastWith _ hlast with ⟨hmem, hid⟩
    rw [List.mem_filter] at hmem
    have hne : cfg.extractDeviceID e.1 ≠ "" := by
      rw [hid]
      exact hvalid.1
    have hkey := (cfg.eq_labelKey_of_extractDeviceID hne).2
    rw [hid] at hkey
    rw [← hkey, Option.map_some, eq_comm]
    apply AList.mem_lookup_iff.mpr hmem.1

theorem lookup_parseNodeHealthLabel_of_not_valid (nodeLabels : GoMap String String)
    {deviceID : String} (hvalid : ¬ValidDeviceID deviceID)
    : (cfg.parseNodeHealthLabel nodeLabels).lookup deviceID = none := by
  unfold parseNodeHealthLabel
  rw [lookup_insertEach_empty, Option.map_eq_none_iff, lastWith_eq_none]
  intro e he hid
  rw [List.mem_filter] at he
  have hne : cfg.extractDeviceID e.1 ≠ "" := by
    have := he.2
    simp only [Bool.and_eq_true, bne_iff_ne] at this
    exact this.2
  rw [← hid] at hvalid
  apply hvalid (cfg.eq_labelKey_of_extractDeviceID hne).1

theorem lookup_removeNodeHealthLabel (nodeLabels : GoMap String String) (deviceID : String)
    : (cfg.removeNodeHealthLabel nodeLabels).lookup (cfg.labelKey deviceID) = none := by
  rw [Option.eq_none_iff_forall_ne_some]
  intro state hstate
  rw [removeNodeHealthLabel, lookup_filter_eq_some] at hstate
  simp [cfg.isHealthLabel_labelKey] at hstate

theorem lookup_insertEach_labelKey (nodeLabels healthMap : GoMap String String) (deviceID : String)
    : (nodeLabels.insertEach healthMap.entries (fun e => cfg.labelKey e.1) (·.2)).lookup
          (cfg.labelKey deviceID)
        = (healthMap.lookup deviceID).or (nodeLabels.lookup (cfg.labelKey deviceID)) := by
  rw [lookup_insertEach]
  split
  . next e hlast =>
    rcases mem_of_lastWith _ hlast with ⟨hmem, hkey⟩
    have hlookup : healthMap.lookup e.1 = some e.2 := AList.mem_lookup_iff.mpr hmem
    rw [← cfg.labelKey_injective hkey, hlookup, Option.some_or]
  . next hlast =>
    rw [lastWith_eq_none] at hlast
    have hlookup : healthMap.lookup deviceID = none := by
      rw [Option.eq_none_iff_forall_ne_some]
      intro state hstate
      apply hlast ⟨deviceID, state⟩ (AList.mem_lookup_iff.mp hstate) rfl
    rw [hlookup, Option.none_or]

theorem lookup_insertEach_of_ne {nodeLabels healthMap : GoMap String String} {key : String}
    (h : ∀ deviceID ∈ healthMap, cfg.labelKey deviceID ≠ key)
    : (nodeLabels.insertEach healthMap.entries (fun e => cfg.labelKey e.1) (·.2)).lookup key
        = nodeLabels.lookup key := by
  rw [lookup_insertEach]
  have hlast : lastWith (fun e : Sigma fun _ : String => String => cfg.labelKey e.1)
      healthMap.entries key = none := by
    rw [lastWith_eq_none]
    intro e he
    apply h e.1 (mem_iff_entries.mpr ⟨e, he, rfl⟩)
  rw [hlast]

def written (healthMap : GoMap String String) : GoMap String String :=
  healthMap.filter fun deviceID state => !(deviceID = "" || state = "healthy")

theorem lookup_written_eq_some {healthMap : GoMap String String} {deviceID state : String}
    : (written healthMap).lookup deviceID = some state
        ↔ healthMap.lookup deviceID = some state ∧ deviceID ≠ "" ∧ state ≠ "healthy" := by
  simp [written, lookup_filter_eq_some]

theorem mem_written {healthMap : GoMap String String} {deviceID : String}
    : deviceID ∈ written healthMap
        ↔ ∃ state, healthMap.lookup deviceID = some state ∧ deviceID ≠ "" ∧ state ≠ "healthy" := by
  rw [← AList.lookup_isSome, Option.isSome_iff_exists]
  simp only [lookup_written_eq_some]

theorem addNodeHealthLabel_eq (nodeLabels healthMap : GoMap String String)
    : cfg.addNodeHealthLabel nodeLabels healthMap
        = nodeLabels.insertEach (written healthMap).entries (fun e => cfg.labelKey e.1) (·.2) := by
  rfl

theorem lookup_addNodeHealthLabel (nodeLabels healthMap : GoMap String String) (deviceID : String)
    : (cfg.addNodeHealthLabel nodeLabels healthMap).lookup (cfg.labelKey deviceID)
        = ((written healthMap).lookup deviceID).or (nodeLabels.lookup (cfg.labelKey deviceID)) := by
  rw [addNodeHealthLabel_eq, lookup_insertEach_labelKey]

theorem lookup_parse_add_remove (nodeLabels healthMap : GoMap String String)
    (hids : ∀ deviceID ∈ healthMap, '\n' ∉ deviceID.toList) (deviceID : String)
    : (cfg.parseNodeHealthLabel
          (cfg.addNodeHealthLabel (cfg.removeNodeHealthLabel nodeLabels) healthMap)).lookup deviceID
        = (written healthMap).lookup deviceID := by
  by_cases hvalid : ValidDeviceID deviceID
  . rw [cfg.lookup_parseNodeHealthLabel _ hvalid, lookup_addNodeHealthLabel,
      lookup_removeNodeHealthLabel, Option.or_none]
  . rw [cfg.lookup_parseNodeHealthLabel_of_not_valid _ hvalid, eq_comm,
      Option.eq_none_iff_forall_ne_some]
    intro state hstate
    rw [lookup_written_eq_some] at hstate
    apply hvalid ⟨hstate.2.1, hids deviceID ?_⟩
    rw [← AList.lookup_isSome, hstate.1]
    rfl

theorem lookup_written_of_all {healthMap : GoMap String String}
    (h : ∀ deviceID state, healthMap.lookup deviceID = some state
      → deviceID ≠ "" ∧ state ≠ "healthy") (deviceID : String)
    : (written healthMap).lookup deviceID = healthMap.lookup deviceID := by
  apply Option.ext
  intro state
  rw [lookup_written_eq_some]
  constructor
  . intro hstate
    exact hstate.1
  . intro hstate
    exact ⟨hstate, h deviceID state hstate⟩

theorem lookup_parseNodeHealthLabel_updateHealthLabel (nodeLabels newHealthMap : GoMap String String)
    (hvalid : ∀ deviceID, deviceID ∈ newHealthMap → ValidDeviceID deviceID)
    (hhealth : ∀ deviceID, newHealthMap.lookup deviceID ≠ some "healthy") (deviceID : String)
    : (cfg.parseNodeHealthLabel (cfg.updateHealthLabel nodeLabels newHealthMap)).lookup deviceID
        = newHealthMap.lookup deviceID := by
  unfold updateHealthLabel
  dsimp only
  split
  . next heq => exact deepEqual_eq_true.mp heq deviceID
  . rw [cfg.lookup_parse_add_remove _ _ fun deviceID hmem => (hvalid deviceID hmem).2]
    apply lookup_written_of_all
    intro deviceID state hstate
    refine ⟨(hvalid deviceID ?_).1, ?_⟩
    . exact GoMap.mem_iff_exists_lookup.mpr ⟨state, hstate⟩
    . rintro rfl
      apply hhealth deviceID hstate

section Foreign

def Recognised (key : String) : Prop :=
  cfg.isHealthLabel key ∧ cfg.extractDeviceID key ≠ ""

def Writes (healthMap : GoMap String String) (key : String) : Prop :=
  ∃ deviceID ∈ written healthMap, cfg.labelKey deviceID = key

def LeavesForeignLabels (nodeLabels healthMap : GoMap String String) : Prop :=
  ∀ key ∈ nodeLabels, ¬cfg.Recognised key → ¬cfg.Writes healthMap key
    → (cfg.addNodeHealthLabel (cfg.removeNodeHealthLabel nodeLabels) healthMap).lookup key
        = nodeLabels.lookup key

theorem recognised_iff {key : String}
    : cfg.Recognised key ↔ ∃ deviceID, ValidDeviceID deviceID ∧ key = cfg.labelKey deviceID := by
  constructor
  . rintro ⟨-, hid⟩
    exact ⟨_, cfg.eq_labelKey_of_extractDeviceID hid⟩
  . rintro ⟨deviceID, hvalid, rfl⟩
    refine ⟨cfg.isHealthLabel_labelKey deviceID, ?_⟩
    rw [cfg.extractDeviceID_labelKey hvalid]
    exact hvalid.1

theorem lookup_removeNodeHealthLabel_eq_ite (nodeLabels : GoMap String String) (key : String)
    : (cfg.removeNodeHealthLabel nodeLabels).lookup key
        = if cfg.isHealthLabel key then none else nodeLabels.lookup key := by
  apply Option.ext
  intro value
  rw [removeNodeHealthLabel, lookup_filter_eq_some]
  split
  . next h => simp [h]
  . next h => simp [h]

theorem lookup_add_remove_of_not_writes {nodeLabels healthMap : GoMap String String} {key : String}
    (h : ¬cfg.Writes healthMap key)
    : (cfg.addNodeHealthLabel (cfg.removeNodeHealthLabel nodeLabels) healthMap).lookup key
        = if cfg.isHealthLabel key then none else nodeLabels.lookup key := by
  rw [addNodeHealthLabel_eq, lookup_insertEach_of_ne, lookup_removeNodeHealthLabel_eq_ite]
  intro deviceID hmem hkey
  apply h ⟨deviceID, hmem, hkey⟩

theorem leavesForeignLabels_iff (nodeLabels healthMap : GoMap String String)
    : cfg.LeavesForeignLabels nodeLabels healthMap
        ↔ ∀ key ∈ nodeLabels, cfg.isHealthLabel key
            → (∃ deviceID, ValidDeviceID deviceID ∧ key = cfg.labelKey deviceID)
              ∨ cfg.Writes healthMap key := by
  constructor
  . intro h key hmem hlabel
    rw [← recognised_iff, or_iff_not_imp_left]
    intro hforeign
    by_contra hwrites
    have hkept := h key hmem hforeign hwrites
    rw [cfg.lookup_add_remove_of_not_writes hwrites, if_pos hlabel, eq_comm,
      AList.lookup_eq_none] at hkept
    apply hkept hmem
  . intro h key hmem hforeign hwrites
    have hlabel : ¬cfg.isHealthLabel key := by
      intro hlabel
      rcases h key hmem hlabel with hid | hwrites'
      . apply hforeign (cfg.recognised_iff.mpr hid)
      . apply hwrites hwrites'
    rw [cfg.lookup_add_remove_of_not_writes hwrites, if_neg hlabel]

theorem not_leavesForeignLabels
    : ¬∀ (cfg : NodeHealthLabellerConfig) (nodeLabels healthMap : GoMap String String),
        cfg.LeavesForeignLabels nodeLabels healthMap := by
  -- the key goes on after the prefix without a dot
  intro h
  have hforeign : ¬Recognised ⟨gpuHealthLabelPrefix⟩ "metricsexporter.amd.com.gpu-operator.state" := by
    unfold Recognised
    decide
  have hwrites : ¬Writes ⟨gpuHealthLabelPrefix⟩ ∅ "metricsexporter.amd.com.gpu-operator.state" := by
    rintro ⟨deviceID, hmem, -⟩
    rw [mem_written] at hmem
    rcases hmem with ⟨state, hstate, -⟩
    cases hstate
  have := h ⟨gpuHealthLabelPrefix⟩
    (AList.insert "metricsexporter.amd.com.gpu-operator.state" "ready" ∅) ∅
    "metricsexporter.amd.com.gpu-operator.state" (by decide) hforeign hwrites
  revert this
  decide

end Foreign

end NodeHealthLabellerConfig

end Exporter
