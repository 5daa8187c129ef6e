import DeviceMetricsExporter.GPUAgent.Impl.FieldLogger

/-!
This module contains when the filter of unsupported fields is stable: a field that has been exported
keeps being exported as long as it is not given up before the filter is frozen.
-/

namespace GPUAgent

def Export.key (e : Export) : String :=
  fieldKey e.gpuid e.fieldName

namespace FieldOp

def fieldName : FieldOp → String
  | .mark fieldName => fieldName
  | .export fieldName _ _ => fieldName

/--
The operation gives its field up, if that is still possible.
-/
def givesUp : FieldOp → Bool
  | .mark _ => true
  | .export _ _ value => !value.isValueApplicable

end FieldOp

/--
While the filter is not frozen, no operation gives up a field of a GPU that was exported before.
-/
def KeepsExported : List (String × FieldOp) → FieldLogger → List Export → Prop
  | [], _, _ => True
  | (gpuid, op) :: ops, fl, exported =>
    (fl.filterDone = false → op.givesUp = true →
        ∀ e ∈ exported, e.key ≠ fieldKey gpuid op.fieldName)
      ∧ KeepsExported ops (fl.apply gpuid op).1 (exported ++ (fl.apply gpuid op).2.toList)

instance KeepsExported.decidable : ∀ ops fl exported, Decidable (KeepsExported ops fl exported)
  | [], _, _ => .isTrue trivial
  | (gpuid, op) :: ops, fl, exported =>
    have := KeepsExported.decidable ops (fl.apply gpuid op).1
      (exported ++ (fl.apply gpuid op).2.toList)
    inferInstanceAs (Decidable (_ ∧ _))

def Undisturbed (s : FieldFilter) (a : FieldAction) : Prop :=
  match a with
  | .updateStaticMetrics (some gpus) | .getMetricsAll (some gpus) =>
    KeepsExported (fieldOps gpus) s.fl s.exported
  | _ => True

instance (s : FieldFilter) : (a : FieldAction) → Decidable (Undisturbed s a)
  | .initConfigs => .isTrue trivial
  | .updateStaticMetrics none => .isTrue trivial
  | .getMetricsAll none => .isTrue trivial
  | .updateStaticMetrics (some gpus) | .getMetricsAll (some gpus) =>
    inferInstanceAs (Decidable (KeepsExported (fieldOps gpus) s.fl s.exported))

/--
Every field that has been exported since the last `InitConfigs` is exported again in a scrape of
`gpus` in which its value is applicable.
-/
def Stable (s : FieldFilter) (gpus : List GPUFields) : Prop :=
  ∀ gpuid fieldName labels value, (gpuid, .export fieldName labels value) ∈ fieldOps gpus →
    value.isValueApplicable = true →
      (∃ e ∈ s.exported, e.gpuid = gpuid ∧ e.fieldName = fieldName) →
        ⟨gpuid, fieldName, labels, value.normalizeUint64⟩ ∈ (s.fl.applyAll (fieldOps gpus)).2

def Clean (fl : FieldLogger) (exported : List Export) : Prop :=
  ∀ e ∈ exported, e.key ∉ fl.unsupportedFieldMap

section Op

variable {fl : FieldLogger} {gpuid : String}

theorem mem_markUnsupportedFields {fieldName k : String}
    (h : k ∈ (fl.markUnsupportedFields gpuid fieldName).unsupportedFieldMap)
    : k ∈ fl.unsupportedFieldMap ∨ fl.filterDone = false ∧ k = fieldKey gpuid fieldName := by
  unfold FieldLogger.markUnsupportedFields at h
  split at h
  . exact .inl h
  . next hdone =>
    rcases (AList.mem_insert _).mp h with rfl | h
    . exact .inr ⟨Bool.eq_false_iff.mpr hdone, rfl⟩
    . exact .inl h

theorem mem_logUnsupportedField {fieldName k : String}
    (h : k ∈ (fl.logUnsupportedField gpuid fieldName).unsupportedFieldMap)
    : k ∈ fl.unsupportedFieldMap ∨ fl.filterDone = false ∧ k = fieldKey gpuid fieldName := by
  unfold FieldLogger.logUnsupportedField at h
  split at h
  . exact .inl h
  . next hdone =>
    split at h
    . exact .inl h
    . rcases (AList.mem_insert _).mp h with rfl | h
      . exact .inr ⟨Bool.eq_false_iff.mpr hdone, rfl⟩
      . exact .inl h

theorem apply_export {fieldName : String} {labels : Labels} {value : MetricValue}
    (hvalue : value.isValueApplicable = true)
    (hkey : fieldKey gpuid fieldName ∉ fl.unsupportedFieldMap)
    : fl.apply gpuid (.export fieldName labels value)
        = (fl, some ⟨gpuid, fieldName, labels, value.normalizeUint64⟩) := by
  simp [FieldLogger.apply, FieldLogger.logWithValidateAndExport,
    FieldLogger.checkUnsupportedFields, hkey, validateAndExport, hvalue]

theorem apply_export_of_mem {fieldName : String} {labels : Labels} {value : MetricValue}
    (hkey : fieldKey gpuid fieldName ∈ fl.unsupportedFieldMap)
    : fl.apply gpuid (.export fieldName labels value) = (fl, none) := by
  simp [FieldLogger.apply, FieldLogger.logWithValidateAndExport,
    FieldLogger.checkUnsupportedFields, hkey]

theorem apply_export_of_not_applicable {fieldName : String} {labels : Labels}
    {value : MetricValue} (hvalue : value.isValueApplicable = false)
    (hkey : fieldKey gpuid fieldName ∉ fl.unsupportedFieldMap)
    : fl.apply gpuid (.export fieldName labels value)
        = (fl.logUnsupportedField gpuid fieldName, none) := by
  simp [FieldLogger.apply, FieldLogger.logWithValidateAndExport,
    FieldLogger.checkUnsupportedFields, hkey, validateAndExport, hvalue]

/--
Everything an operation can do: it exports a value and changes nothing, or it exports nothing and
gives up at most its own field, and that only before the filter is frozen.
-/
theorem apply_cases (fl : FieldLogger) (gpuid : String) (op : FieldOp)
    : (∃ e, fl.apply gpuid op = (fl, some e) ∧ e.key ∉ fl.unsupportedFieldMap) ∨
      (fl.apply gpuid op).2 = none ∧ ∀ k ∈ (fl.apply gpuid op).1.unsupportedFieldMap,
        k ∈ fl.unsupportedFieldMap ∨
          fl.filterDone = false ∧ op.givesUp = true ∧ k = fieldKey gpuid op.fieldName := by
  cases op with
  | mark fieldName =>
    refine .inr ⟨rfl, ?_⟩
    intro k hk
    rcases mem_markUnsupportedFields hk with hk | ⟨hdone, rfl⟩
    . exact .inl hk
    . exact .inr ⟨hdone, rfl, rfl⟩
  | «export» fieldName labels value =>
    by_cases hkey : fieldKey gpuid fieldName ∈ fl.unsupportedFieldMap
    . rw [apply_export_of_mem hkey]
      exact .inr ⟨rfl, fun k => Or.inl⟩
    . cases hvalue : value.isValueApplicable with
      | true => exact .inl ⟨_, apply_export hvalue hkey, hkey⟩
      | false =>
        rw [apply_export_of_not_applicable hvalue hkey]
        refine .inr ⟨rfl, ?_⟩
        intro k hk
        rcases mem_logUnsupportedField hk with hk | ⟨hdone, rfl⟩
        . exact .inl hk
        . exact .inr ⟨hdone, by simp [FieldOp.givesUp, hvalue], rfl⟩

theorem Clean.apply {exported : List Export} {op : FieldOp} (h : Clean fl exported)
    (hop : fl.filterDone = false → op.givesUp = true →
      ∀ e ∈ exported, e.key ≠ fieldKey gpuid op.fieldName)
    : Clean (fl.apply gpuid op).1 (exported ++ (fl.apply gpuid op).2.toList) := by
  rcases apply_cases fl gpuid op with ⟨e, heq, hkey⟩ | ⟨hnone, hmap⟩
  . rw [heq]
    intro e' he'
    rcases List.mem_append.mp he' with he' | he'
    . exact h e' he'
    . rw [Option.toList_some, List.mem_singleton] at he'
      subst he'
      exact hkey
  . rw [hnone, Option.toList_none, List.append_nil]
    intro e he hmem
    rcases hmap e.key hmem with hmem | ⟨hdone, hgives, hkey⟩
    . exact h e he hmem
    . exact hop hdone hgives e he hkey

end Op

theorem Clean.applyAll {fl : FieldLogger} {exported : List Export} {ops : List (String × FieldOp)}
    (h : Clean fl exported) (hops : KeepsExported ops fl exported)
    : Clean (fl.applyAll ops).1 (exported ++ (fl.applyAll ops).2)
        ∧ ∀ gpuid fieldName labels value, (gpuid, .export fieldName labels value) ∈ ops →
          value.isValueApplicable = true → (∃ e ∈ exported, e.key = fieldKey gpuid fieldName) →
            ⟨gpuid, fieldName, labels, value.normalizeUint64⟩ ∈ (fl.applyAll ops).2 := by
  induction ops generalizing fl exported with
  | nil =>
    refine ⟨by simpa [FieldLogger.applyAll] using h, ?_⟩
    intro _ _ _ _ hmem
    cases hmem
  | cons op ops ih =>
    rcases op with ⟨gpuid, op⟩
    have hclean := h.apply hops.1
    rcases ih hclean hops.2 with ⟨hfinal, hexports⟩
    simp only [FieldLogger.applyAll]
    refine ⟨by rwa [List.append_assoc] at hfinal, ?_⟩
    intro gpuid' fieldName labels value hmem hvalue hexported
    rcases List.mem_cons.mp hmem with heq | hmem
    . cases heq
      rcases hexported with ⟨e, he, hkey⟩
      have hunsupported := h e he
      rw [hkey] at hunsupported
      rw [apply_export hvalue hunsupported]
      exact List.mem_append_left _ List.mem_cons_self
    . rcases hexported with ⟨e, he, hkey⟩
      apply List.mem_append_right
      exact hexports gpuid' fieldName labels value hmem hvalue
        ⟨e, List.mem_append_left _ he, hkey⟩

theorem clean_step (s : FieldFilter) (a : FieldAction) (s' : FieldFilter)
    (hclean : Clean s.fl s.exported) (hok : Undisturbed s a)
    (hstep : fieldFilterSystem.step s a = some s') : Clean s'.fl s'.exported := by
  cases hstep
  cases a with
  | initConfigs =>
    intro e he
    cases he
  | updateStaticMetrics resp =>
    cases resp with
    | none => exact hclean
    | some gpus => exact (hclean.applyAll hok).1
  | getMetricsAll resp =>
    cases resp with
    | none => exact hclean
    | some gpus => exact (hclean.applyAll hok).1

/--
A field that has been exported is exported in every later scrape in which its value is applicable, in
every run that gives up no field after it was exported while the filter is not frozen yet.
-/
theorem stable_of_undisturbed (as : List FieldAction) (gpus : List GPUFields) (s : FieldFilter)
    (hok : fieldFilterSystem.Respects Undisturbed (as ++ [.getMetricsAll (some gpus)])
      newFieldFilter)
    (hexec : fieldFilterSystem.exec as newFieldFilter = some s) : Stable s gpus := by
  have hclean := fieldFilterSystem.exec_invariant (I := fun s => Clean s.fl s.exported) clean_step
    as newFieldFilter s nofun hok.append_left hexec
  have hscrape := (hok.append_right _ hexec).1
  intro gpuid fieldName labels value hmem hvalue hexported
  rcases hexported with ⟨e, he, rfl, rfl⟩
  exact (hclean.applyAll hscrape).2 e.gpuid e.fieldName labels value hmem hvalue ⟨e, he, rfl⟩

section Instances

def replayCount (value : UInt64) : List GPUFields :=
  [⟨"0", [.export "PCIE_REPLAY_COUNT" ∅ (.uint64 value)]⟩]

def frozenRun : List FieldAction :=
  [.initConfigs, .updateStaticMetrics (some (replayCount 7)),
    .getMetricsAll (some (replayCount 18446744073709551615))]

def openRun : List FieldAction :=
  [.initConfigs, .updateStaticMetrics none, .getMetricsAll (some (replayCount 7)),
    .getMetricsAll (some (replayCount 18446744073709551615))]

theorem stable_of_undisturbed_frozenRun
    : ∃ s, fieldFilterSystem.exec frozenRun newFieldFilter = some s
        ∧ s.exported = [⟨"0", "PCIE_REPLAY_COUNT", ∅, 7⟩]
        ∧ Stable s (replayCount 9) :=
  ⟨_, rfl, by decide, stable_of_undisturbed frozenRun (replayCount 9) _ (by decide) rfl⟩

theorem not_stable
    : ¬∀ (as : List FieldAction) (gpus : List GPUFields) (s : FieldFilter),
        fieldFilterSystem.exec as newFieldFilter = some s → Stable s gpus := by
  -- the static pass has failed, so a single NA value after the first scrape is final
  intro h
  have hexported := h openRun (replayCount 9) _ rfl "0" "PCIE_REPLAY_COUNT" ∅ (.uint64 9)
    (by decide) (by decide) ⟨⟨"0", "PCIE_REPLAY_COUNT", ∅, 7⟩, by decide, rfl, rfl⟩
  revert hexported
  decide

end Instances

end GPUAgent
