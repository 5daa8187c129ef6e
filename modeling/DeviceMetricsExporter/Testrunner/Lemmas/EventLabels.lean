import DeviceMetricsExporter.Testrunner.Impl.EventLabels

/-!
This module contains when the labels of an event pair each GPU index with its KFD id: the indexes
without one must come last.
-/

namespace Testrunner

section Positions

variable {α β : Type} {f : α → Option β} {xs : List α}

def KnownFirst (f : α → Option β) (xs : List α) : Prop :=
  xs.Pairwise fun x y => (f y).isSome → (f x).isSome

theorem filterMap_eq_nil_of_knownFirst {x : α} (h : KnownFirst f (x :: xs)) (hx : f x = none)
    : xs.filterMap f = [] := by
  rw [List.filterMap_eq_nil_iff]
  intro y hy
  have := List.rel_of_pairwise_cons h hy
  rw [hx] at this
  rw [Option.eq_none_iff_forall_not_mem]
  intro v hv
  rw [Option.mem_def] at hv
  rw [hv] at this
  exact absurd (this rfl) Bool.false_ne_true

theorem mem_zip_of_knownFirst (h : KnownFirst f xs) {x : α} {y : β}
    : (x, y) ∈ xs.zip (xs.filterMap f) ↔ x ∈ xs ∧ f x = some y := by
  induction xs with
  | nil => simp
  | cons x' xs ih =>
    cases hx' : f x' with
    | none =>
      have hnil := filterMap_eq_nil_of_knownFirst h hx'
      rw [List.filterMap_cons_none hx', hnil, List.zip_nil_right]
      rw [List.filterMap_eq_nil_iff] at hnil
      constructor
      . nofun
      . rintro ⟨hx, hy⟩
        rcases List.mem_cons.mp hx with rfl | hx
        . rw [hx'] at hy
          cases hy
        . rw [hnil x hx] at hy
          cases hy
    | some y' =>
      rw [List.filterMap_cons_some hx', List.zip_cons_cons, List.mem_cons, List.mem_cons,
        ih (List.Pairwise.of_cons h), Prod.mk.injEq]
      constructor
      . rintro (⟨rfl, rfl⟩ | ⟨hx, hy⟩)
        . exact ⟨Or.inl rfl, hx'⟩
        . exact ⟨Or.inr hx, hy⟩
      . rintro ⟨rfl | hx, hy⟩
        . rw [hx'] at hy
          cases hy
          exact Or.inl ⟨rfl, rfl⟩
        . exact Or.inr ⟨hx, hy⟩

theorem exists_mem_zip_of_mem_take {n : Nat} {ys : List β} {x : α} (hn : ys.length = n)
    (hx : x ∈ xs.take n) : ∃ y, (x, y) ∈ xs.zip ys := by
  rcases List.mem_iff_getElem.mp hx with ⟨i, hi, rfl⟩
  rw [List.length_take] at hi
  refine ⟨ys[i], ?_⟩
  rw [List.getElem_take]
  have hzip : (xs.zip ys)[i]? = some (xs[i], ys[i]) := by
    rw [List.getElem?_eq_getElem (by rw [List.length_zip]; omega), List.getElem_zip]
  exact List.mem_of_getElem? hzip

/--
As many elements have a value as there are pairs, so none is left for the elements after them.
-/
theorem knownFirst_of_zip (h : ∀ x y, (x, y) ∈ xs.zip (xs.filterMap f) → (f x).isSome)
    : KnownFirst f xs := by
  have htake : ∀ x ∈ xs.take (xs.filterMap f).length, (f x).isSome = true := by
    intro x hx
    rcases exists_mem_zip_of_mem_take rfl hx with ⟨y, hy⟩
    exact h x y hy
  have hdrop : (xs.drop (xs.filterMap f).length).filterMap f = [] := by
    have hlength : (xs.filterMap f).length
        = ((xs.take (xs.filterMap f).length).filterMap f).length
          + ((xs.drop (xs.filterMap f).length).filterMap f).length := by
      rw [← List.length_append, ← List.filterMap_append, List.take_append_drop]
    have htake' : ((xs.take (xs.filterMap f).length).filterMap f).length
        = (xs.take (xs.filterMap f).length).length := List.filterMap_length_eq_length.mpr htake
    have hle := List.length_filterMap_le f xs
    rw [htake', List.length_take] at hlength
    apply List.eq_nil_of_length_eq_zero
    omega
  rw [List.filterMap_eq_nil_iff] at hdrop
  rw [KnownFirst, ← List.take_append_drop (xs.filterMap f).length xs, List.pairwise_append]
  refine ⟨?_, ?_, ?_⟩
  . apply List.Pairwise.imp_of_mem (R := fun _ _ => True)
    . intro x y hx _ _ _
      exact htake x hx
    . exact List.pairwise_of_forall fun _ _ => trivial
  . apply List.Pairwise.imp_of_mem (R := fun _ _ => True)
    . intro x y _ hy _ hknown
      rw [hdrop y hy] at hknown
      exact absurd hknown Bool.false_ne_true
    . exact List.pairwise_of_forall fun _ _ => trivial
  . intro x hx _ _ _
    exact htake x hx

end Positions

section Labels

theorem append_ne_append {p q : String} (hp : ¬p.toList <+: q.toList) (hq : ¬q.toList <+: p.toList)
    (s t : String) : p ++ s ≠ q ++ t := by
  intro h
  have hp' : p.toList <+: (p ++ s).toList := by
    rw [String.toList_append]
    apply List.prefix_append
  have hq' : q.toList <+: (p ++ s).toList := by
    rw [h, String.toList_append]
    apply List.prefix_append
  rcases List.prefix_or_prefix_of_prefix hp' hq' with hpq | hqp
  . exact hp hpq
  . exact hq hqp

theorem gpuIDLabel_inj {x x' : String} : gpuIDLabel x = gpuIDLabel x' ↔ x = x' :=
  String.append_right_inj _

theorem gpuKFDLabel_inj {y y' : String} : gpuKFDLabel y = gpuKFDLabel y' ↔ y = y' :=
  String.append_right_inj _

theorem gpuIDLabel_ne_gpuKFDLabel (x y : String) : gpuIDLabel x ≠ gpuKFDLabel y :=
  append_ne_append (by decide +kernel) (by decide +kernel) x y

def pairLabels (p : String × String) : List (String × String) :=
  [(gpuIDLabel p.1, p.2), (gpuKFDLabel p.2, p.1)]

theorem mem_pairLabels_gpuID {pairs : List (String × String)} {x y : String}
    : (gpuIDLabel x, y) ∈ pairs.flatMap pairLabels ↔ (x, y) ∈ pairs := by
  simp only [List.mem_flatMap, pairLabels, List.mem_cons, Prod.mk.injEq, gpuIDLabel_inj,
    gpuIDLabel_ne_gpuKFDLabel, false_and, List.not_mem_nil, or_false]
  constructor
  . rintro ⟨p, hp, rfl, rfl⟩
    exact hp
  . intro h
    exact ⟨(x, y), h, rfl, rfl⟩

theorem mem_pairLabels_gpuKFD {pairs : List (String × String)} {x y : String}
    : (gpuKFDLabel y, x) ∈ pairs.flatMap pairLabels ↔ (x, y) ∈ pairs := by
  simp only [List.mem_flatMap, pairLabels, List.mem_cons, Prod.mk.injEq, gpuKFDLabel_inj,
    (gpuIDLabel_ne_gpuKFDLabel _ _).symm, false_and, List.not_mem_nil, or_false, false_or]
  constructor
  . rintro ⟨p, hp, rfl, rfl⟩
    exact hp
  . intro h
    exact ⟨(x, y), h, rfl, rfl⟩

def runKeys : List String :=
  ["testrunner.amd.com/category", "testrunner.amd.com/trigger", "testrunner.amd.com/recipe",
    "testrunner.amd.com/hostname", "testrunner.amd.com/framework"]

theorem append_notMem_runKeys {p : String}
    (hp : ∀ key ∈ runKeys, ¬p.toList <+: key.toList ∧ ¬key.toList <+: p.toList) (s : String)
    : p ++ s ∉ runKeys := by
  intro h
  have hne := append_ne_append (hp _ h).1 (hp _ h).2 s ""
  rw [String.append_empty] at hne
  exact hne rfl

theorem gpuIDLabel_notMem_runKeys (x : String) : gpuIDLabel x ∉ runKeys :=
  append_notMem_runKeys (by decide +kernel) x

theorem gpuKFDLabel_notMem_runKeys (y : String) : gpuKFDLabel y ∉ runKeys :=
  append_notMem_runKeys (by decide +kernel) y

variable [CaseMap] {category trigger framework recipe hostName : String}
  {gpuIndexes kfdIDs : List String} {key : String}

theorem lookup_runLabels (hkey : key ∉ runKeys)
    : (runLabels category trigger framework recipe hostName).lookup key = none := by
  simp only [runKeys, List.mem_cons, List.not_mem_nil, or_false, not_or] at hkey
  simp only [runLabels, GoMap.lookup_insert_eq_ite, hkey, if_false]
  rfl

theorem lookup_getEventLabels (hkey : key ∉ runKeys)
    : (getEventLabels category trigger framework recipe hostName gpuIndexes kfdIDs).lookup key
      = (GoMap.lastWith (·.1) ((gpuIndexes.zip kfdIDs).flatMap pairLabels) key).map (·.2) := by
  have hloop : getEventLabels category trigger framework recipe hostName gpuIndexes kfdIDs
      = (runLabels category trigger framework recipe hostName).insertEach
          ((gpuIndexes.zip kfdIDs).flatMap pairLabels) (·.1) (·.2) := by
    simp [getEventLabels, GoMap.insertEach, List.foldl_flatMap, pairLabels]
  rw [hloop, GoMap.lookup_insertEach, lookup_runLabels hkey]
  cases GoMap.lastWith (·.1) ((gpuIndexes.zip kfdIDs).flatMap pairLabels) key with
  | none => rfl
  | some kv => rfl

theorem mem_of_lookup_getEventLabels (hkey : key ∉ runKeys) {v : String}
    (h : (getEventLabels category trigger framework recipe hostName gpuIndexes kfdIDs).lookup key
      = some v) : (key, v) ∈ (gpuIndexes.zip kfdIDs).flatMap pairLabels := by
  rw [lookup_getEventLabels hkey] at h
  rcases Option.map_eq_some_iff.mp h with ⟨kv, hkv, rfl⟩
  rcases GoMap.mem_of_lastWith _ hkv with ⟨hmem, rfl⟩
  exact hmem

theorem exists_lookup_getEventLabels (hkey : key ∉ runKeys) {v : String}
    (h : (key, v) ∈ (gpuIndexes.zip kfdIDs).flatMap pairLabels)
    : ∃ v', (getEventLabels category trigger framework recipe hostName gpuIndexes kfdIDs).lookup key
        = some v' := by
  rw [lookup_getEventLabels hkey]
  cases hlast : GoMap.lastWith (·.1) ((gpuIndexes.zip kfdIDs).flatMap pairLabels) key with
  | some kv => exact ⟨kv.2, rfl⟩
  | none =>
    rw [GoMap.lastWith_eq_none] at hlast
    exact absurd rfl (hlast _ h)

end Labels

/--
The labels agree with the map and every index of the list with a KFD id has both of its labels.
-/
structure Paired (gpuIndexToKFDIDMap : GoMap String String) (gpuIndexes : List String)
    (labels : GoMap String String) : Prop where
  gpuID : ∀ x y, labels.lookup (gpuIDLabel x) = some y → gpuIndexToKFDIDMap.lookup x = some y
  gpuKFD : ∀ x y, labels.lookup (gpuKFDLabel y) = some x → gpuIndexToKFDIDMap.lookup x = some y
  labelled : ∀ x ∈ gpuIndexes, ∀ y, gpuIndexToKFDIDMap.lookup x = some y →
    labels.lookup (gpuIDLabel x) = some y ∧ labels.lookup (gpuKFDLabel y) = some x

def Injective (m : GoMap String String) : Prop :=
  ∀ x x' y, m.lookup x = some y → m.lookup x' = some y → x = x'

section Events

variable [CaseMap] {category trigger framework recipe hostName : String} {m : GoMap String String}
  {gpuIndexes : List String}

theorem paired_iff (hinj : Injective m)
    : Paired m gpuIndexes (getEventLabels category trigger framework recipe hostName gpuIndexes
        (gpuIndexes.filterMap m.lookup)) ↔ KnownFirst m.lookup gpuIndexes := by
  constructor
  . intro h
    apply knownFirst_of_zip
    intro x y hxy
    rcases exists_lookup_getEventLabels (gpuIDLabel_notMem_runKeys x)
      (mem_pairLabels_gpuID.mpr hxy) with ⟨y', hy'⟩
    rw [h.gpuID x y' hy']
    rfl
  . intro h
    have hzip {x y : String} := mem_zip_of_knownFirst h (x := x) (y := y)
    have hgpuID : ∀ x y, (getEventLabels category trigger framework recipe hostName gpuIndexes
        (gpuIndexes.filterMap m.lookup)).lookup (gpuIDLabel x) = some y → m.lookup x = some y := by
      intro x y hlookup
      have hmem := mem_of_lookup_getEventLabels (gpuIDLabel_notMem_runKeys x) hlookup
      exact (hzip.mp (mem_pairLabels_gpuID.mp hmem)).2
    have hgpuKFD : ∀ x y, (getEventLabels category trigger framework recipe hostName gpuIndexes
        (gpuIndexes.filterMap m.lookup)).lookup (gpuKFDLabel y) = some x → m.lookup x = some y := by
      intro x y hlookup
      have hmem := mem_of_lookup_getEventLabels (gpuKFDLabel_notMem_runKeys y) hlookup
      exact (hzip.mp (mem_pairLabels_gpuKFD.mp hmem)).2
    refine ⟨hgpuID, hgpuKFD, ?_⟩
    intro x hx y hy
    have hmem := hzip.mpr ⟨hx, hy⟩
    constructor
    . rcases exists_lookup_getEventLabels (gpuIDLabel_notMem_runKeys x)
        (mem_pairLabels_gpuID.mpr hmem) with ⟨y', hy'⟩
      have hsame := hgpuID x y' hy'
      rw [hy] at hsame
      cases hsame
      exact hy'
    . rcases exists_lookup_getEventLabels (gpuKFDLabel_notMem_runKeys y)
        (mem_pairLabels_gpuKFD.mpr hmem) with ⟨x', hx'⟩
      have hsame := hinj x x' y hy (hgpuKFD x' y hx')
      subst hsame
      exact hx'

omit [CaseMap] in
theorem convertIndexesToKFDIDs_of_known (hknown : ∃ x ∈ gpuIndexes, (m.lookup x).isSome)
    : convertIndexesToKFDIDs m gpuIndexes = some (gpuIndexes.filterMap m.lookup) := by
  rcases hknown with ⟨x, hx, hsome⟩
  rcases Option.isSome_iff_exists.mp hsome with ⟨y, hy⟩
  have hpos : 0 < (gpuIndexes.filterMap m.lookup).length :=
    List.length_pos_of_mem (List.mem_filterMap.mpr ⟨x, hx, hy⟩)
  have hne : (gpuIndexes.filterMap m.lookup).length ≠ 0 := by omega
  simp [convertIndexesToKFDIDs, hne]

end Events

section Instances

/--
The labels of an event pair the right ids exactly if no index without a KFD id comes before one that
has one.
-/
theorem generateK8sEvent_paired_iff [CaseMap] (tr : EventSource) (framework testRecipe : String)
    (gpuIndexes : List String) (hinj : Injective tr.gpuIndexToKFDIDMap)
    (hknown : ∃ x ∈ gpuIndexes, (tr.gpuIndexToKFDIDMap.lookup x).isSome)
    : (∃ labels, tr.generateK8sEvent framework testRecipe gpuIndexes = some labels ∧
        Paired tr.gpuIndexToKFDIDMap gpuIndexes labels) ↔
        KnownFirst tr.gpuIndexToKFDIDMap.lookup gpuIndexes := by
  rw [EventSource.generateK8sEvent, convertIndexesToKFDIDs_of_known hknown, Option.map_some]
  constructor
  . rintro ⟨labels, hlabels, hpaired⟩
    cases hlabels
    exact (paired_iff hinj).mp hpaired
  . intro hfirst
    exact ⟨_, rfl, (paired_iff hinj).mpr hfirst⟩

def twoIndexes : EventSource where
  testCategory := "GPU_HEALTH_CHECK"
  testTrigger := "MANUAL"
  hostName := "node1"
  gpuIndexToKFDIDMap := ((∅ : GoMap String String).insert "0" "100").insert "1" "200"

theorem injective_twoIndexes : Injective twoIndexes.gpuIndexToKFDIDMap := by
  intro x x' y hx hx'
  simp only [twoIndexes, GoMap.lookup_insert_eq_ite, AList.lookup_empty] at hx hx'
  grind

theorem generateK8sEvent_paired_iff_unknownLast
    : (∃ labels, (@EventSource.generateK8sEvent CaseMap.ascii twoIndexes "RVS" "gst_single" ["1", "0", "7"])
            = some labels ∧ Paired twoIndexes.gpuIndexToKFDIDMap ["1", "0", "7"] labels) ↔
        KnownFirst twoIndexes.gpuIndexToKFDIDMap.lookup ["1", "0", "7"] :=
  @generateK8sEvent_paired_iff CaseMap.ascii twoIndexes "RVS" "gst_single" ["1", "0", "7"]
    injective_twoIndexes ⟨"1", List.mem_cons_self, rfl⟩

theorem not_paired
    : ¬∀ (_ : CaseMap) (tr : EventSource) (framework testRecipe : String) (gpuIndexes : List String),
        Injective tr.gpuIndexToKFDIDMap →
        (∃ x ∈ gpuIndexes, (tr.gpuIndexToKFDIDMap.lookup x).isSome) →
        ∃ labels, tr.generateK8sEvent framework testRecipe gpuIndexes = some labels ∧
          Paired tr.gpuIndexToKFDIDMap gpuIndexes labels := by
  -- the index 7 has no KFD id and gets the one of the index 0
  intro h
  rcases h CaseMap.ascii twoIndexes "RVS" "gst_single" ["7", "0"] injective_twoIndexes
    ⟨"0", List.mem_cons_of_mem _ List.mem_cons_self, rfl⟩ with ⟨labels, hlabels, hpaired⟩
  cases hlabels
  have := hpaired.gpuID "7" "100" (by decide +kernel)
  exact absurd this (by decide)

end Instances

end Testrunner
