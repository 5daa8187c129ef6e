import DeviceMetricsExporter.Exporter.Impl.Pods

/-!
This module contains which pods share a key, and that the map of the pods answers for each pod
exactly if pods that share a key cannot be told apart.
-/

namespace Exporter

def SameLabels (labels labels' : GoMap String String) : Prop :=
  ∀ k, labels.lookup k = labels'.lookup k

/--
The namespace of `q` is that of `p` with a part of the name of `p` moved to it.
-/
def Pod.Shifts (p q : Pod) : Prop :=
  ∃ part, q.namespace = p.namespace ++ "-" ++ part ∧ p.name = part ++ "-" ++ q.name

/--
The map answers for every pod of the list with its own labels and UID.
-/
def Identifies (pods : List Pod) (k8sPodInfoMap : GoMap String K8sPodInfo) : Prop :=
  ∀ p ∈ pods, ∀ container,
    SameLabels (getPodLabels (some (p.resourceInfo container)) k8sPodInfoMap) p.labels
      ∧ getPodUID (some (p.resourceInfo container)) k8sPodInfoMap = p.uid

theorem toList_dash : "-".toList = ['-'] := rfl

theorem Pod.shifts_iff {p q : Pod}
    : p.Shifts q ↔
        ∃ part, q.namespace.toList = p.namespace.toList ++ '-' :: part
          ∧ p.name.toList = part ++ '-' :: q.name.toList := by
  constructor
  . rintro ⟨part, hnamespace, hname⟩
    exact ⟨part.toList, by simp [hnamespace, toList_dash], by simp [hname, toList_dash]⟩
  . rintro ⟨part, hnamespace, hname⟩
    refine ⟨String.ofList part, ?_, ?_⟩
    . rw [← String.toList_inj, hnamespace]
      simp [toList_dash]
    . rw [← String.toList_inj, hname]
      simp [toList_dash]

/--
The separator may also be part of a name, so that the key does not tell where the namespace ends.
-/
theorem Pod.key_eq_iff {p q : Pod}
    : p.key = q.key ↔
        p.namespace = q.namespace ∧ p.name = q.name ∨ p.Shifts q ∨ q.Shifts p := by
  have hkey : p.key = q.key ↔
      p.namespace.toList ++ '-' :: p.name.toList = q.namespace.toList ++ '-' :: q.name.toList := by
    rw [← String.toList_inj]
    simp [Pod.key, podUniqueKey, toList_dash]
  rw [hkey, List.append_eq_append_iff, Pod.shifts_iff, Pod.shifts_iff]
  constructor
  . rintro (⟨part, hnamespace, hname⟩ | ⟨part, hnamespace, hname⟩)
    . cases part with
      | nil =>
        simp only [List.append_nil, List.nil_append, List.cons.injEq, true_and] at hnamespace hname
        exact .inl ⟨String.toList_inj.mp hnamespace.symm, String.toList_inj.mp hname⟩
      | cons c part =>
        rw [List.cons_append, List.cons.injEq] at hname
        rcases hname with ⟨rfl, hname⟩
        exact .inr (.inl ⟨part, hnamespace, hname⟩)
    . cases part with
      | nil =>
        simp only [List.append_nil, List.nil_append, List.cons.injEq, true_and] at hnamespace hname
        exact .inl ⟨String.toList_inj.mp hnamespace, String.toList_inj.mp hname.symm⟩
      | cons c part =>
        rw [List.cons_append, List.cons.injEq] at hname
        rcases hname with ⟨rfl, hname⟩
        exact .inr (.inr ⟨part, hnamespace, hname⟩)
  . rintro (⟨hnamespace, hname⟩ | ⟨part, hnamespace, hname⟩ | ⟨part, hnamespace, hname⟩)
    . exact .inl ⟨[], by simp [hnamespace], by simp [hname]⟩
    . exact .inl ⟨'-' :: part, hnamespace, by simp [hname]⟩
    . exact .inr ⟨'-' :: part, hnamespace, by simp [hname]⟩

theorem getPod_resourceInfo {p : Pod} (hname : p.name ≠ "") (hnamespace : p.namespace ≠ "")
    (container : String) (k8sPodInfoMap : GoMap String K8sPodInfo)
    : getPod (some (p.resourceInfo container)) k8sPodInfoMap = k8sPodInfoMap.lookup p.key := by
  simp [getPod, Pod.resourceInfo, hname, hnamespace, Pod.key]

theorem lookup_k8PodLabelsMap {pods : List Pod} {p : Pod} (hp : p ∈ pods)
    : ∃ q ∈ pods, q.key = p.key
        ∧ (k8PodLabelsMap pods).lookup p.key = some ⟨q.labels, q.uid⟩ := by
  rw [k8PodLabelsMap, GoMap.lookup_insertEach_empty]
  cases hlast : GoMap.lastWith Pod.key pods p.key with
  | none => exact absurd rfl ((GoMap.lastWith_eq_none Pod.key).mp hlast p hp)
  | some q =>
    rcases GoMap.mem_of_lastWith Pod.key hlast with ⟨hq, hkey⟩
    exact ⟨q, hq, hkey, rfl⟩

theorem identifies_k8PodLabelsMap_iff {pods : List Pod}
    (hnames : ∀ p ∈ pods, p.name ≠ "" ∧ p.namespace ≠ "")
    : Identifies pods (k8PodLabelsMap pods) ↔
        ∀ p ∈ pods, ∀ q ∈ pods, p.key = q.key → SameLabels p.labels q.labels ∧ p.uid = q.uid := by
  have hget (p : Pod) (hp : p ∈ pods) :=
    getPod_resourceInfo (hnames p hp).1 (hnames p hp).2 "" (k8PodLabelsMap pods)
  constructor
  . intro h p hp q hq hkey
    have hsame : getPod (some (p.resourceInfo "")) (k8PodLabelsMap pods)
        = getPod (some (q.resourceInfo "")) (k8PodLabelsMap pods) := by
      rw [hget p hp, hget q hq]
      exact congrArg (fun k => (k8PodLabelsMap pods).lookup k) hkey
    have hp' := h p hp ""
    have hq' := h q hq ""
    rw [getPodLabels, getPodUID, hsame] at hp'
    exact ⟨fun k => (hp'.1 k).symm.trans (hq'.1 k), hp'.2.symm.trans hq'.2⟩
  . intro h p hp container
    rcases lookup_k8PodLabelsMap hp with ⟨q, hq, hkey, hlookup⟩
    rcases h q hq p hp hkey with ⟨hlabels, huid⟩
    rw [getPodLabels, getPodUID, getPod_resourceInfo (hnames p hp).1 (hnames p hp).2, hlookup]
    exact ⟨hlabels, huid⟩

/--
The map answers for every pod exactly if two pods of which one has part of the other's name in its
namespace have the same labels and the same UID.
-/
theorem identifies_iff (pods : List Pod) (k8sPodInfoMap : GoMap String K8sPodInfo)
    (hnames : ∀ p ∈ pods, p.name ≠ "" ∧ p.namespace ≠ "")
    (hdistinct : (pods.map fun p => (p.namespace, p.name)).Nodup)
    (hmap : getAllPods (some pods) = some k8sPodInfoMap)
    : Identifies pods k8sPodInfoMap ↔
        ∀ p ∈ pods, ∀ q ∈ pods, p.Shifts q → SameLabels p.labels q.labels ∧ p.uid = q.uid := by
  cases hmap
  rw [identifies_k8PodLabelsMap_iff hnames]
  constructor
  . intro h p hp q hq hshifts
    exact h p hp q hq (Pod.key_eq_iff.mpr (.inr (.inl hshifts)))
  . intro h p hp q hq hkey
    rcases Pod.key_eq_iff.mp hkey with ⟨hnamespace, hname⟩ | hshifts | hshifts
    . have heq : p = q := List.inj_on_of_nodup_map hdistinct hp hq (by rw [hnamespace, hname])
      rw [heq]
      exact ⟨fun _ => rfl, rfl⟩
    . exact h p hp q hq hshifts
    . rcases h q hq p hp hshifts with ⟨hlabels, huid⟩
      exact ⟨fun k => (hlabels k).symm, huid.symm⟩

section Instances

def labelledPod (name «namespace» uid app : String) : Pod where
  name := name
  «namespace» := «namespace»
  uid := uid
  labels := (∅ : GoMap String String).insert "app" app

theorem identifies_iff_twoPods
    : Identifies [labelledPod "b" "a" "1" "x", labelledPod "c" "a" "2" "y"]
          (k8PodLabelsMap [labelledPod "b" "a" "1" "x", labelledPod "c" "a" "2" "y"]) ↔
        ∀ p ∈ [labelledPod "b" "a" "1" "x", labelledPod "c" "a" "2" "y"],
          ∀ q ∈ [labelledPod "b" "a" "1" "x", labelledPod "c" "a" "2" "y"],
            p.Shifts q → SameLabels p.labels q.labels ∧ p.uid = q.uid :=
  identifies_iff [labelledPod "b" "a" "1" "x", labelledPod "c" "a" "2" "y"] _ (by decide)
    (by decide) rfl

theorem not_identifies
    : ¬∀ (pods : List Pod) (k8sPodInfoMap : GoMap String K8sPodInfo),
        (∀ p ∈ pods, p.name ≠ "" ∧ p.namespace ≠ "") →
        (pods.map fun p => (p.namespace, p.name)).Nodup →
        getAllPods (some pods) = some k8sPodInfoMap → Identifies pods k8sPodInfoMap := by
  -- both pods have the key `a-b-c`
  intro h
  have huid := (h [labelledPod "b-c" "a" "1" "x", labelledPod "c" "a-b" "2" "y"] _ (by decide)
    (by decide) rfl (labelledPod "b-c" "a" "1" "x") List.mem_cons_self "").2
  revert huid
  decide

end Instances

end Exporter
