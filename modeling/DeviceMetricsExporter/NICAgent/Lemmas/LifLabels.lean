import DeviceMetricsExporter.Lib.Loop
import DeviceMetricsExporter.NICAgent.Impl.Statistics
import DeviceMetricsExporter.NICAgent.Lemmas.Labels

/-!
This module contains when the labels of a LIF are its own: the label map of a NIC is used for all of its
LIFs, and a LIF without a workload does not overwrite the pod labels.
-/

namespace NICAgent

open Exporter Loop

namespace NICAgentClient

section Labels

variable [CaseMap] (na : NICAgentClient) (workloads : PodWorkloads) {α : Type}

def lifWorkload (lif : Lif) : Option PodResourceInfo :=
  if lif.pcieAddress ≠ "" then workloads.lookup lif.pcieAddress else none

def podLabelsOf (podInfo : PodResourceInfo) : GoMap String String :=
  getPodLabels (some podInfo) na.k8PodInfoMap

def labelsOfWorkload (podInfo : Option PodResourceInfo) : GoMap String String :=
  match podInfo with
  | none => noWorkloadLabels
  | some podInfo =>
    let labels := noWorkloadLabels.insert (toLower MetricLabel.POD.name) podInfo.pod
    let labels := labels.insert (toLower MetricLabel.NAMESPACE.name) podInfo.namespace
    let labels := labels.insert (toLower MetricLabel.CONTAINER.name) podInfo.container
    addExtraPodLabels labels na.extraPodLabelsMap (na.podLabelsOf podInfo)

def labelsOfNIC (nic : NIC) : GoMap String String :=
  let labels := populateEnabled na.exportLabels fun ckey =>
    if na.isExtraOrCustomLabel ckey then none else some (na.labelOfNIC (some nic) ckey)
  let labels := labels.insertEach na.extraPodLabelsMap.keys toLower fun _ => ""
  addCustomLabels labels na.customLabelMap

def addLif (labels workloadLabels : GoMap String String) (lifName portName pcieAddr : String)
    : GoMap String String :=
  let labels := labels.insertEach workloadLabels.entries (·.1) (·.2)
  let labels := labels.insert labelEthIntfName lifName
  let labels := labels.insert labelPortName portName
  labels.insert labelPcieBusId pcieAddr

def ownLabels (nic : NIC) (lif : Lif) (podInfo : Option PodResourceInfo) (portName : String)
    : GoMap String String :=
  addLif (na.labelsOfNIC nic) (na.labelsOfWorkload podInfo) lif.name portName lif.pcieAddress

/--
The label map of a LIF is its own, whichever port `range` visits first, and has the values that
`UpdateQPStats` has.
-/
structure LifIsolated (nicID : String) (nic : NIC) (lif : LifStats α) (labels : GoMap String String)
    : Prop where
  own : ∀ info, nic.lifs.lookup lif.specID = some info → ∀ port, nic.FirstPort port →
    ∀ k, labels.lookup k
      = (na.ownLabels nic info (lifWorkload workloads info) (getPortName port)).lookup k
  agrees : ∀ k value value', labels.lookup k = some value →
    (na.lifQPLabels workloads nicID nic lif.specID).lookup k = some value' → value = value'

/--
The counters of all LIFs are exported, with isolated labels.
-/
def LifsIsolated (lifStats : List (NICLifStats α)) : Prop :=
  ∃ exports, na.updateLifStats workloads lifStats = some exports
    ∧ List.Forall₂ (fun nicStats exports => ∀ nic, na.nics.lookup nicStats.id = some nic →
        List.Forall₂ (fun lif e => e.statistics = lif.statistics ∧
          na.LifIsolated workloads nicStats.id nic lif e.labels) nicStats.lif exports)
      lifStats exports

structure KnownLif (nic : NIC) (lif : LifStats α) : Prop where
  known : lif.specID ∈ nic.lifs
  firstPort : nic.FirstPort lif.firstPort

def Known (lifStats : List (NICLifStats α)) : Prop :=
  ∀ nicStats ∈ lifStats, ∃ nic, na.nics.lookup nicStats.id = some nic
    ∧ ∀ lif ∈ nicStats.lif, KnownLif nic lif

def workloadOf (nic : NIC) (lif : LifStats α) : Option PodResourceInfo :=
  (nic.lifs.lookup lif.specID).bind (lifWorkload workloads)

def overwritten : List String :=
  workloadLabels ++ [labelEthIntfName, labelPortName, labelPcieBusId]

def configuredPortName (podInfo : Option PodResourceInfo) : Option String :=
  let podLabel := (na.extraPodLabelsMap.lookup labelPortName).bind fun podLabel =>
    podInfo.map fun podInfo => getString (na.podLabelsOf podInfo) podLabel
  let noWorkload := if labelPortName ∈ na.extraPodLabelsMap then some "" else none
  podLabel.or ((na.customLabelMap.lookup labelPortName).or noWorkload)

/--
A LIF without a workload does not come after one whose workload gives a pod label another value than
the configuration does, the ports of the NIC have one name, and a configured port name is this name.
-/
structure NoneStale (nic : NIC) (before : List (LifStats α)) (lif : LifStats α) : Prop where
  pod : workloadOf workloads nic lif = none →
    ∀ podInfo, (before.filterMap (workloadOf workloads nic)).getLast? = some podInfo →
      ∀ k podLabel, na.extraPodLabelsMap.lookup k = some podLabel → k ∉ overwritten →
        getString (na.podLabelsOf podInfo) podLabel = getString na.customLabelMap k
  ports : ∀ e ∈ nic.ports.entries, e.2.name = getPortName lif.firstPort
  portName : ∀ value, na.configuredPortName (workloadOf workloads nic lif) = some value →
    value = getPortName lif.firstPort

end Labels

def lifKeys : List String :=
  [labelEthIntfName, labelPortName, labelPcieBusId]

section Loop

theorem lookup_addLif (labels workloadLabels : GoMap String String)
    (lifName portName pcieAddr : String) (k : String)
    : (addLif labels workloadLabels lifName portName pcieAddr).lookup k
      = if k = labelPcieBusId then some pcieAddr
        else if k = labelPortName then some portName
        else if k = labelEthIntfName then some lifName
        else (workloadLabels.lookup k).or (labels.lookup k) := by
  have hworkload : (labels.insertEach workloadLabels.entries (·.1) (·.2)).lookup k
      = (workloadLabels.lookup k).or (labels.lookup k) :=
    lookup_addCustomLabels labels workloadLabels k
  rw [addLif, GoMap.lookup_insert_eq_ite, GoMap.lookup_insert_eq_ite, GoMap.lookup_insert_eq_ite,
    hworkload]

theorem lookup_addLif_of_notMem {labels workloadLabels : GoMap String String}
    {lifName portName pcieAddr k : String} (hk : k ∉ lifKeys)
    : (addLif labels workloadLabels lifName portName pcieAddr).lookup k
      = (workloadLabels.lookup k).or (labels.lookup k) := by
  simp only [lifKeys, List.mem_cons, List.not_mem_nil, or_false, not_or] at hk
  rw [lookup_addLif, if_neg hk.2.2, if_neg hk.2.1, if_neg hk.1]

theorem lookup_addLif_congr_iff {labels labels' workloadLabels : GoMap String String}
    {lifName portName portName' pcieAddr : String}
    : (∀ k, (addLif labels workloadLabels lifName portName pcieAddr).lookup k
          = (addLif labels' workloadLabels lifName portName' pcieAddr).lookup k)
      ↔ portName = portName'
        ∧ ∀ k, k ∉ lifKeys → workloadLabels.lookup k = none → labels.lookup k = labels'.lookup k := by
  constructor
  . intro h
    constructor
    . have hport := h labelPortName
      rw [lookup_addLif, lookup_addLif] at hport
      simpa [labelPortName, labelPcieBusId] using hport
    . intro k hk hnone
      have hlookup := h k
      rw [lookup_addLif_of_notMem hk, lookup_addLif_of_notMem hk, hnone] at hlookup
      exact hlookup
  . rintro ⟨rfl, h⟩ k
    by_cases hk : k ∈ lifKeys
    . simp only [lifKeys, List.mem_cons, List.not_mem_nil, or_false] at hk
      rw [lookup_addLif, lookup_addLif]
      rcases hk with hk | hk | hk
      . simp [hk, labelEthIntfName, labelPortName, labelPcieBusId]
      . simp [hk]
      . simp [hk]
    . rw [lookup_addLif_of_notMem hk, lookup_addLif_of_notMem hk]
      cases hworkload : workloadLabels.lookup k with
      | none => rw [h k hk hworkload]
      | some value => rfl

variable [CaseMap] {na : NICAgentClient} {workloads : PodWorkloads} {α : Type} {nicID : String}
  {nic : NIC}

theorem getAssociatedWorkloadLabels_eq (hnic : na.nics.lookup nicID = some nic) (lifID : String)
    : na.getAssociatedWorkloadLabels workloads nicID lifID
      = na.labelsOfWorkload ((nic.lifs.lookup lifID).bind (lifWorkload workloads)) := by
  unfold getAssociatedWorkloadLabels
  rw [hnic, Option.bind_some]
  cases nic.lifs.lookup lifID with
  | none => rfl
  | some lif =>
    simp only [Option.bind_some, lifWorkload]
    by_cases haddr : lif.pcieAddress ≠ ""
    . rw [if_pos haddr, if_pos haddr]
      unfold getAssociatedWorkloadLabelsForPcieAddr
      cases workloads.lookup lif.pcieAddress with
      | none => rfl
      | some podInfo => rfl
    . rw [if_neg haddr, if_neg haddr]
      rfl

theorem populateLabelsFromNIC_eq (hnic : na.nics.lookup nicID = some nic)
    : na.populateLabelsFromNIC nicID = na.labelsOfNIC nic := by
  unfold populateLabelsFromNIC labelsOfNIC
  rw [hnic]
  rfl

theorem addLifLabels_eq (hnic : na.nics.lookup nicID = some nic) (labels : GoMap String String)
    (lif : LifStats α)
    : na.addLifLabels workloads nicID nic labels lif
      = addLif labels (na.labelsOfWorkload (workloadOf workloads nic lif)) (nic.getLifName lif.specID)
          (getPortName lif.firstPort) (nic.getLifPcieAddr lif.specID) := by
  unfold addLifLabels addLif workloadOf
  rw [getAssociatedWorkloadLabels_eq hnic]

theorem updateLifStats_lifs_eq (hnic : na.nics.lookup nicID = some nic) (labels : GoMap String String)
    (lifs : List (LifStats α))
    : updateLifStats.lifs na workloads nicID labels lifs
      = some ((trace (na.addLifLabels workloads nicID nic) labels lifs).map fun p =>
          ⟨p.2, p.1.statistics⟩) := by
  induction lifs generalizing labels with
  | nil => rfl
  | cons lif lifs ih =>
    unfold updateLifStats.lifs
    rw [hnic]
    simp only [Option.bind_eq_bind, Option.bind_some, ih]
    rfl

end Loop

section Configured

variable [CaseMap] {na : NICAgentClient} {workloads : PodWorkloads} {α : Type} {nicID : String}
  {nic : NIC} {on : NICLabel → Prop} {pod custom : List String}
  (h : Configured on pod custom na.toLabelConfig)

omit [CaseMap] in
theorem lifKeys_lowerName_ne : ∀ name ∈ lifKeys, ∀ a : NICLabel, lowerName a ≠ name := by
  have hvalues : ∀ name ∈ lifKeys, ∀ a ∈ (ProtoEnum.values : List NICLabel), lowerName a ≠ name := by
    decide
  intro name hname a
  apply hvalues name hname a (ProtoEnum.mem_values a)

theorem notMem_workloadLabels {k : String} (hk : k ∈ lifKeys) : k ∉ workloadLabels := by
  rw [workloadLabels_eq]
  intro hmem
  rcases List.mem_map.mp hmem with ⟨label, -, heq⟩
  exact lifKeys_lowerName_ne k hk _ heq

theorem lookup_noWorkloadLabels (k : String)
    : noWorkloadLabels.lookup k = if k ∈ workloadLabels then some "" else none := by
  rw [noWorkloadLabels, GoMap.lookup_setAll]
  rfl

theorem mem_overwritten {k : String} : k ∈ overwritten ↔ k ∈ workloadLabels ∨ k ∈ lifKeys :=
  List.mem_append

include h

theorem mem_labelsOfWorkload {k : String} (hk : k ∈ workloadLabels) (podInfo : Option PodResourceInfo)
    : k ∈ na.labelsOfWorkload podInfo := by
  have hnone : k ∈ noWorkloadLabels := by
    rw [← AList.lookup_isSome, lookup_noWorkloadLabels, if_pos hk]
    rfl
  cases podInfo with
  | none => exact hnone
  | some podInfo =>
    unfold labelsOfWorkload
    dsimp only
    rw [h.mem_addExtraPodLabels]
    simp [hnone]

theorem lookup_labelsOfWorkload {k : String} (hk : k ∉ workloadLabels)
    (podInfo : Option PodResourceInfo)
    : (na.labelsOfWorkload podInfo).lookup k
      = podInfo.bind fun podInfo =>
          (na.extraPodLabelsMap.lookup k).map (getString (na.podLabelsOf podInfo)) := by
  have hnone : noWorkloadLabels.lookup k = none := by
    rw [lookup_noWorkloadLabels, if_neg hk]
  cases podInfo with
  | none => exact hnone
  | some podInfo =>
    simp only [workloadLabels, List.mem_cons, List.not_mem_nil, or_false, not_or] at hk
    unfold labelsOfWorkload
    dsimp only
    rw [h.lookup_addExtraPodLabels, GoMap.lookup_insert_eq_ite, if_neg hk.2.2,
      GoMap.lookup_insert_eq_ite, if_neg hk.2.1, GoMap.lookup_insert_eq_ite, if_neg hk.1, hnone,
      Option.or_none]
    rfl

theorem lookup_labelsOfNIC_of_pod {k : String} (hk : k ∈ na.extraPodLabelsMap) (nic : NIC)
    : (na.labelsOfNIC nic).lookup k = some (getString na.customLabelMap k) := by
  have hlower : toLower k = k := by
    apply h.lower_pod
    rw [← h.mem_extraPodLabelsMap]
    exact hk
  have hmem : GoMap.lastWith toLower na.extraPodLabelsMap.keys k ≠ none := by
    rw [Ne, GoMap.lastWith_eq_none]
    intro hnone
    exact hnone k (AList.mem_keys.mp hk) hlower
  rw [labelsOfNIC, lookup_addCustomLabels, GoMap.lookup_insertEach, getString]
  split
  . cases na.customLabelMap.lookup k with
    | none => rfl
    | some value => rfl
  . next hnone => exact absurd hnone hmem

theorem lookup_portName_labelsOfNIC (nic : NIC)
    : (na.labelsOfNIC nic).lookup labelPortName
      = (na.customLabelMap.lookup labelPortName).or
          (if labelPortName ∈ na.extraPodLabelsMap then some "" else none) := by
  by_cases hpod : labelPortName ∈ na.extraPodLabelsMap
  . rw [lookup_labelsOfNIC_of_pod h hpod, if_pos hpod, getString]
    cases na.customLabelMap.lookup labelPortName with
    | none => rfl
    | some value => rfl
  . have hnone : GoMap.lastWith toLower na.extraPodLabelsMap.keys labelPortName = none := by
      rw [GoMap.lastWith_eq_none]
      intro k hk hlower
      rw [← AList.mem_keys] at hk
      have hself := h.lower_pod k ((h.mem_extraPodLabelsMap k).mp hk)
      rw [hlower] at hself
      rw [← hself] at hk
      exact hpod hk
    have henabled : (populateEnabled na.exportLabels fun ckey =>
        if na.isExtraOrCustomLabel ckey then none
        else some (na.labelOfNIC (some nic) ckey)).lookup labelPortName = none := by
      rw [AList.lookup_eq_none, h.mem_populateEnabled]
      rintro ⟨a, -, hlower⟩
      exact lifKeys_lowerName_ne labelPortName (by decide) a hlower
    rw [labelsOfNIC, lookup_addCustomLabels, GoMap.lookup_insertEach, hnone, henabled, if_neg hpod]

/--
The labels before the turn of a LIF are those of the NIC, but the pod labels of the last workload are
still there.
-/
theorem lookup_foldl_addLifLabels (hnic : na.nics.lookup nicID = some nic)
    (before : List (LifStats α)) {k : String} (hk : k ∉ overwritten)
    : (before.foldl (na.addLifLabels workloads nicID nic) (na.labelsOfNIC nic)).lookup k
      = (((before.filterMap (workloadOf workloads nic)).getLast?).bind fun podInfo =>
          (na.extraPodLabelsMap.lookup k).map (getString (na.podLabelsOf podInfo))).or
            ((na.labelsOfNIC nic).lookup k) := by
  rw [mem_overwritten, not_or] at hk
  rw [GoMap.lookup_foldl_or (g := fun lif => (workloadOf workloads nic lif).bind fun podInfo =>
    (na.extraPodLabelsMap.lookup k).map (getString (na.podLabelsOf podInfo)))]
  . congr 1
    cases na.extraPodLabelsMap.lookup k with
    | none => simp
    | some podLabel =>
      have hmap : (before.filterMap fun lif => (workloadOf workloads nic lif).map fun podInfo =>
            getString (na.podLabelsOf podInfo) podLabel)
          = (before.filterMap (workloadOf workloads nic)).map fun podInfo =>
            getString (na.podLabelsOf podInfo) podLabel :=
        List.map_filterMap.symm
      simp only [Option.map_eq_bind] at hmap
      have hlast := congrArg List.getLast? hmap
      rw [List.getLast?_map, Option.map_eq_bind] at hlast
      exact hlast
  . intro labels lif
    rw [addLifLabels_eq hnic, lookup_addLif_of_notMem hk.2, lookup_labelsOfWorkload h hk.1]

theorem lookup_foldl_of_pod (hnic : na.nics.lookup nicID = some nic) (before : List (LifStats α))
    {last : PodResourceInfo} (hlast : (before.filterMap (workloadOf workloads nic)).getLast? = some last)
    {k podLabel : String} (hlabel : na.extraPodLabelsMap.lookup k = some podLabel)
    (hk : k ∉ overwritten)
    : (before.foldl (na.addLifLabels workloads nicID nic) (na.labelsOfNIC nic)).lookup k
          = some (getString (na.podLabelsOf last) podLabel)
        ∧ (na.labelsOfNIC nic).lookup k = some (getString na.customLabelMap k) := by
  have hmem : k ∈ na.extraPodLabelsMap := GoMap.mem_iff_exists_lookup.mpr ⟨podLabel, hlabel⟩
  refine ⟨?_, lookup_labelsOfNIC_of_pod h hmem nic⟩
  rw [lookup_foldl_addLifLabels h hnic before hk, hlast, Option.bind_some, hlabel]
  rfl

theorem stale_iff (hnic : na.nics.lookup nicID = some nic) (before : List (LifStats α))
    (podInfo : Option PodResourceInfo)
    : (∀ k, k ∉ lifKeys → (na.labelsOfWorkload podInfo).lookup k = none →
          (before.foldl (na.addLifLabels workloads nicID nic) (na.labelsOfNIC nic)).lookup k
            = (na.labelsOfNIC nic).lookup k)
      ↔ (podInfo = none → ∀ last, (before.filterMap (workloadOf workloads nic)).getLast? = some last →
          ∀ k podLabel, na.extraPodLabelsMap.lookup k = some podLabel → k ∉ overwritten →
            getString (na.podLabelsOf last) podLabel = getString na.customLabelMap k) := by
  constructor
  . intro hall hpod last hlast k podLabel hlabel hk
    have hparts := hk
    rw [mem_overwritten, not_or] at hparts
    have hnone : (na.labelsOfWorkload podInfo).lookup k = none := by
      rw [lookup_labelsOfWorkload h hparts.1, hpod]
      rfl
    have hlookup := hall k hparts.2 hnone
    have hvalues := lookup_foldl_of_pod h hnic before hlast hlabel hk
    rw [hvalues.1, hvalues.2] at hlookup
    exact Option.some.inj hlookup
  . intro hstale k hkeys hnone
    have hworkload : k ∉ workloadLabels := by
      intro hmem
      have hsome := AList.lookup_isSome.mpr (mem_labelsOfWorkload h hmem podInfo)
      rw [hnone] at hsome
      cases hsome
    have hk : k ∉ overwritten := by
      rw [mem_overwritten, not_or]
      exact ⟨hworkload, hkeys⟩
    rw [lookup_labelsOfWorkload h hworkload] at hnone
    cases hlast : (before.filterMap (workloadOf workloads nic)).getLast? with
    | none =>
      rw [lookup_foldl_addLifLabels h hnic before hk, hlast]
      rfl
    | some last =>
      cases hlabel : na.extraPodLabelsMap.lookup k with
      | none =>
        rw [lookup_foldl_addLifLabels h hnic before hk, hlast, Option.bind_some, hlabel]
        rfl
      | some podLabel =>
        cases podInfo with
        | none =>
          have hvalues := lookup_foldl_of_pod h hnic before hlast hlabel hk
          rw [hvalues.1, hvalues.2, hstale rfl last hlast k podLabel hlabel hk]
        | some podInfo =>
          rw [hlabel] at hnone
          cases hnone

theorem lookup_lifQPLabels (hnic : na.nics.lookup nicID = some nic) {lifID : String} {info : Lif}
    (hinfo : nic.lifs.lookup lifID = some info) (portName k : String)
    : (na.lifQPLabels workloads nicID nic lifID).lookup k
      = if k = labelPortName then
          na.configuredPortName (lifWorkload workloads info)
        else
          (na.ownLabels nic info (lifWorkload workloads info) portName).lookup k := by
  have hworkload (labels workloadLabels : GoMap String String)
      : (labels.insertEach workloadLabels.entries (·.1) (·.2)).lookup k
        = (workloadLabels.lookup k).or (labels.lookup k) :=
    lookup_addCustomLabels labels workloadLabels k
  simp only [lifQPLabels, ownLabels, NIC.getLifName, NIC.getLifPcieAddr]
  rw [getAssociatedWorkloadLabels_eq hnic, populateLabelsFromNIC_eq hnic, hinfo, lookup_addLif,
    GoMap.lookup_insert_eq_ite, GoMap.lookup_insert_eq_ite, hworkload]
  by_cases hk : k = labelPortName
  . subst hk
    have hport : labelPortName ∉ workloadLabels := notMem_workloadLabels (by decide)
    rw [if_neg (by decide), if_neg (by decide), if_pos rfl, Option.bind_some,
      lookup_labelsOfWorkload h hport, lookup_portName_labelsOfNIC h, configuredPortName]
    cases na.extraPodLabelsMap.lookup labelPortName with
    | none => cases lifWorkload workloads info <;> rfl
    | some podLabel => cases lifWorkload workloads info <;> rfl
  . simp only [if_neg hk]
    rfl

omit h [CaseMap] in
theorem firstPort_iff {firstPort : Option Port} (hfirst : nic.FirstPort firstPort)
    : (∀ port, nic.FirstPort port → getPortName firstPort = getPortName port)
      ↔ ∀ e ∈ nic.ports.entries, e.2.name = getPortName firstPort := by
  constructor
  . intro hall e he
    exact (hall (some e.2) ⟨e, he, rfl⟩).symm
  . intro hall port hport
    cases port with
    | some port =>
      rcases hport with ⟨e, he, rfl⟩
      exact (hall e he).symm
    | none =>
      cases firstPort with
      | none => rfl
      | some port =>
        rcases hfirst with ⟨e, he, -⟩
        rw [NIC.FirstPort] at hport
        rw [hport] at he
        cases he

variable (workloads) in
theorem own_iff (hnic : na.nics.lookup nicID = some nic) (before : List (LifStats α))
    {lif : LifStats α} (hfirst : nic.FirstPort lif.firstPort) {info : Lif}
    (hinfo : nic.lifs.lookup lif.specID = some info)
    : (∀ port, nic.FirstPort port → ∀ k,
          (na.addLifLabels workloads nicID nic
            (before.foldl (na.addLifLabels workloads nicID nic) (na.labelsOfNIC nic)) lif).lookup k
          = (na.ownLabels nic info (lifWorkload workloads info) (getPortName port)).lookup k)
      ↔ (∀ e ∈ nic.ports.entries, e.2.name = getPortName lif.firstPort)
        ∧ (lifWorkload workloads info = none →
          ∀ last, (before.filterMap (workloadOf workloads nic)).getLast? = some last →
            ∀ k podLabel, na.extraPodLabelsMap.lookup k = some podLabel → k ∉ overwritten →
              getString (na.podLabelsOf last) podLabel = getString na.customLabelMap k) := by
  have hworkload : workloadOf workloads nic lif = lifWorkload workloads info := by
    rw [workloadOf, hinfo]
    rfl
  simp only [addLifLabels_eq hnic, hworkload, NIC.getLifName, NIC.getLifPcieAddr, hinfo, ownLabels,
    Option.elim_some, lookup_addLif_congr_iff]
  rw [← firstPort_iff hfirst, ← stale_iff h hnic]
  constructor
  . intro hown
    refine ⟨fun port hport => (hown port hport).1, ?_⟩
    exact (hown lif.firstPort hfirst).2
  . rintro ⟨hport, hstale⟩ port hfirst'
    exact ⟨hport port hfirst', hstale⟩

theorem agrees_iff (hnic : na.nics.lookup nicID = some nic) {lifID : String} {info : Lif}
    (hinfo : nic.lifs.lookup lifID = some info) {labels : GoMap String String} {portName : String}
    (hown : ∀ k, labels.lookup k
      = (na.ownLabels nic info (lifWorkload workloads info) portName).lookup k)
    : (∀ k value value', labels.lookup k = some value →
          (na.lifQPLabels workloads nicID nic lifID).lookup k = some value' → value = value')
      ↔ ∀ value, na.configuredPortName (lifWorkload workloads info) = some value →
          value = portName := by
  have hport : labels.lookup labelPortName = some portName := by
    rw [hown, ownLabels, lookup_addLif, if_neg (by decide), if_pos rfl]
  simp only [lookup_lifQPLabels h hnic hinfo portName]
  constructor
  . intro hagrees value hvalue
    exact (hagrees labelPortName portName value hport (by rw [if_pos rfl, hvalue])).symm
  . intro hconfigured k value value' hvalue hvalue'
    by_cases hk : k = labelPortName
    . subst hk
      rw [if_pos rfl] at hvalue'
      rw [hport] at hvalue
      rw [hconfigured value' hvalue']
      exact (Option.some.inj hvalue).symm
    . rw [if_neg hk, ← hown, hvalue] at hvalue'
      exact Option.some.inj hvalue'

theorem lifIsolated_iff (hnic : na.nics.lookup nicID = some nic) (before : List (LifStats α))
    {lif : LifStats α} (hlif : KnownLif nic lif)
    : na.LifIsolated workloads nicID nic lif (na.addLifLabels workloads nicID nic
          (before.foldl (na.addLifLabels workloads nicID nic) (na.labelsOfNIC nic)) lif)
      ↔ na.NoneStale workloads nic before lif := by
  rcases GoMap.mem_iff_exists_lookup.mp hlif.known with ⟨info, hinfo⟩
  have hworkload : workloadOf workloads nic lif = lifWorkload workloads info := by
    rw [workloadOf, hinfo]
    rfl
  have hown := own_iff workloads h hnic before hlif.firstPort hinfo
  constructor
  . rintro ⟨hlabels, hagrees⟩
    have hlabels := hlabels info hinfo
    have hparts := hown.mp hlabels
    refine ⟨?_, hparts.1, ?_⟩
    . rw [hworkload]
      exact hparts.2
    . rw [hworkload]
      exact (agrees_iff h hnic hinfo (hlabels lif.firstPort hlif.firstPort)).mp hagrees
  . rintro ⟨hpod, hports, hportName⟩
    rw [hworkload] at hpod hportName
    have hlabels := hown.mpr ⟨hports, hpod⟩
    refine ⟨?_, ?_⟩
    . intro info' hinfo'
      rw [hinfo] at hinfo'
      cases hinfo'
      exact hlabels
    . exact (agrees_iff h hnic hinfo (hlabels lif.firstPort hlif.firstPort)).mpr hportName

theorem lifsIsolated_iff (lifStats : List (NICLifStats α)) (hknown : na.Known lifStats)
    : na.LifsIsolated workloads lifStats
      ↔ ∀ nicStats ∈ lifStats, ∀ nic, na.nics.lookup nicStats.id = some nic →
          ∀ before lif after, nicStats.lif = before ++ lif :: after →
            na.NoneStale workloads nic before lif := by
  let exportsOf (nicStats : NICLifStats α) : List (Export α) :=
    (na.nics.lookup nicStats.id).elim [] fun nic =>
      (trace (na.addLifLabels workloads nicStats.id nic) (na.labelsOfNIC nic) nicStats.lif).map
        fun p => ⟨p.2, p.1.statistics⟩
  have hexports : na.updateLifStats workloads lifStats = some (lifStats.map exportsOf) := by
    apply mapM_eq_some_map
    intro nicStats hnicStats
    rcases hknown nicStats hnicStats with ⟨nic, hnic, -⟩
    rw [updateLifStats_lifs_eq hnic, populateLabelsFromNIC_eq hnic]
    simp only [exportsOf, hnic, Option.elim_some]
  rw [LifsIsolated, hexports]
  simp only [Option.some.injEq, exists_eq_left', List.forall₂_map_right_iff, List.forall₂_same]
  apply forall₂_congr
  intro nicStats hnicStats
  rcases hknown nicStats hnicStats with ⟨nic, hnic, hlifs⟩
  simp only [hnic, Option.some.injEq, forall_eq', exportsOf, Option.elim_some, forall₂_trace,
    true_and]
  rw [forall_mem_trace (R := fun lif labels => na.LifIsolated workloads nicStats.id nic lif labels)]
  constructor
  . intro hisolated before lif after heq
    have hlif : lif ∈ nicStats.lif := by
      rw [heq]
      simp
    exact (lifIsolated_iff h hnic before (hlifs lif hlif)).mp (hisolated before lif after heq)
  . intro hstale before lif after heq
    have hlif : lif ∈ nicStats.lif := by
      rw [heq]
      simp
    exact (lifIsolated_iff h hnic before (hlifs lif hlif)).mpr (hstale before lif after heq)

end Configured

section Instances

variable {α : Type}

def twoLifs : NICAgentClient where
  nics := AList.singleton "nic-0"
    { index := "0"
      uuid := "nic-0"
      serialNumber := "SN0"
      firmwareVersion := "1.0"
      lifs := (AList.singleton "lif-1"
          { name := "eth1"
            pcieAddress := "0000:84:00.1" }).insert "lif-0"
        { name := "eth0"
          pcieAddress := "0000:84:00.0" } }
  isKubernetes := true
  k8PodInfoMap := ∅
  staticHostLabels := ∅

def twoLifStats : List (NICLifStats Nat) :=
  [⟨"nic-0", [⟨"lif-0", 10, none⟩, ⟨"lif-1", 20, none⟩]⟩]

theorem known_twoLifs : twoLifs.Known twoLifStats := by
  intro nicStats hnicStats
  rw [twoLifStats, List.mem_singleton] at hnicStats
  subst hnicStats
  refine ⟨_, rfl, ?_⟩
  intro lif hlif
  rcases List.mem_cons.mp hlif with rfl | hlif
  . exact ⟨by decide, rfl⟩
  . rw [List.mem_singleton] at hlif
    subst hlif
    exact ⟨by decide, rfl⟩

def podOnFirst : PodWorkloads :=
  AList.singleton "0000:84:00.0" ⟨"train-0", "ml", "main"⟩

def trainLabels : GoMap String K8sPodInfo :=
  AList.singleton "ml-train-0" ⟨AList.singleton "app" "train", "uid-0"⟩

end Instances

end NICAgentClient

end NICAgent
