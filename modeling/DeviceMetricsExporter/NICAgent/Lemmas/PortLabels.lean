import DeviceMetricsExporter.NICAgent.Impl.Statistics
import DeviceMetricsExporter.NICAgent.Lemmas.Inventory
import DeviceMetricsExporter.NICAgent.Lemmas.Labels

/-!
This module contains the labels of the port statistics: they are those of the card, so that the series of
two ports are kept apart as long as a card has one port.
-/

namespace NICAgent

open Exporter Loop

def portKeys : List String :=
  [labelPortName, labelPortID, labelPcieBusId]

def portsOf {α : Type} (portStats : List (NICPortStats α)) : List (String × PortStats α) :=
  portStats.flatMap fun nic => nic.port.map fun port => (nic.id, port)

namespace NICAgentClient

section Kept

variable [CaseMap] (na : NICAgentClient) {α β : Type} (portRateStats : Option (List (NICPortRates β)))

/--
The counters of a port are exported under its name and index.
-/
structure CarriesPort (port : String × PortStats α) (e : Export (α × Option β)) : Prop where
  statistics : e.statistics.1 = port.2.statistics
  rate : e.statistics.2 = portRate portRateStats port.1 port.2.specID
  own : ∀ nic id info, na.nics.lookup port.1 = some nic → port.2.specID = some id →
    nic.ports.lookup id = some info →
      e.labels.lookup labelPortName = some info.name ∧ e.labels.lookup labelPortID = some info.index

/--
The counters of all ports are exported, those of different ports under different label maps.
-/
def PortsKept (portStats : List (NICPortStats α)) : Prop :=
  ∃ exports, na.updatePortStats portRateStats portStats = some exports
    ∧ List.Forall₂ (na.CarriesPort portRateStats) (portsOf portStats) exports.flatten
    ∧ exports.flatten.Pairwise fun e e' => ∃ k, e.labels.lookup k ≠ e'.labels.lookup k

structure KnownPort (nic : NIC) (port : PortStats α) : Prop where
  known : ∃ id, port.specID = some id ∧ id ∈ nic.ports
  firstPort : nic.FirstPort port.firstPort
  firstPort' : nic.FirstPort port.firstPort'

structure KnownPorts (nics : GoMap String NIC) (portStats : List (NICPortStats α)) : Prop where
  known : ∀ nicStats ∈ portStats, ∃ nic, nics.lookup nicStats.id = some nic
    ∧ ∀ port ∈ nicStats.port, KnownPort nic port
  nodup : ((portsOf portStats).map fun port => (port.1, port.2.specID)).Nodup

def OnePort (nics : GoMap String NIC) : Prop :=
  ∀ id nic, nics.lookup id = some nic → nic.ports.entries.length ≤ 1

def DistinctBDFs (nics : GoMap String NIC) : Prop :=
  ∀ id id' nic nic', nics.lookup id = some nic → nics.lookup id' = some nic' →
    nic.ethBDF = nic'.ethBDF → id = id'

structure PortLabels (port : String × PortStats α) (e : Export (α × Option β)) : Prop where
  statistics : e.statistics = (port.2.statistics, portRate portRateStats port.1 port.2.specID)
  portName : e.labels.lookup labelPortName = some (getPortName port.2.firstPort)
  portID : e.labels.lookup labelPortID = some (getPortIndex port.2.firstPort')
  pcieBusId : ∀ nic, na.nics.lookup port.1 = some nic →
    e.labels.lookup labelPcieBusId = some nic.ethBDF
  card : ∀ k, k ∉ portKeys → e.labels.lookup k = (na.populateLabelsFromNIC port.1).lookup k

end Kept

section Loop

variable [CaseMap] {na : NICAgentClient} {α β : Type} {portRateStats : Option (List (NICPortRates β))}
  {nicID : String} {nic : NIC}

omit [CaseMap] in
theorem lookup_addPortLabels (labels : GoMap String String) (port : PortStats α) (k : String)
    : (addPortLabels nic labels port).lookup k
      = if k = labelPcieBusId then some nic.ethBDF
        else if k = labelPortID then some (getPortIndex port.firstPort')
        else if k = labelPortName then some (getPortName port.firstPort)
        else labels.lookup k := by
  rw [addPortLabels, GoMap.lookup_insert_eq_ite, GoMap.lookup_insert_eq_ite,
    GoMap.lookup_insert_eq_ite]
  rfl

variable (portRateStats)

/--
The labels of the card stay as they are while the loop goes from port to port.
-/
theorem updatePortStats_ports (hnic : na.nics.lookup nicID = some nic) (ports : List (PortStats α))
    (labels : GoMap String String)
    (hlabels : ∀ k, k ∉ portKeys → labels.lookup k = (na.populateLabelsFromNIC nicID).lookup k)
    : ∃ exports, updatePortStats.ports na portRateStats nicID labels ports = some exports
      ∧ List.Forall₂ (na.PortLabels portRateStats) (ports.map fun port => (nicID, port)) exports := by
  induction ports generalizing labels with
  | nil => exact ⟨[], rfl, .nil⟩
  | cons port ports ih =>
    have hcard : ∀ k, k ∉ portKeys → (addPortLabels nic labels port).lookup k
        = (na.populateLabelsFromNIC nicID).lookup k := by
      intro k hk
      have hne := hk
      simp only [portKeys, List.mem_cons, List.not_mem_nil, or_false, not_or] at hne
      rw [lookup_addPortLabels, if_neg hne.2.2, if_neg hne.2.1, if_neg hne.1, hlabels k hk]
    rcases ih (addPortLabels nic labels port) hcard with ⟨exports, hexports, hforall⟩
    let e : Export (α × Option β) :=
      ⟨addPortLabels nic labels port, port.statistics, portRate portRateStats nicID port.specID⟩
    have hport : na.PortLabels portRateStats (nicID, port) e := by
      constructor
      . rfl
      . rw [lookup_addPortLabels, if_neg (by decide), if_neg (by decide), if_pos rfl]
      . rw [lookup_addPortLabels, if_neg (by decide), if_pos rfl]
      . intro nic' hnic'
        rw [hnic] at hnic'
        cases hnic'
        rw [lookup_addPortLabels, if_pos rfl]
      . exact hcard
    refine ⟨e :: exports, ?_, .cons hport hforall⟩
    unfold updatePortStats.ports
    rw [hnic]
    simp only [Option.bind_eq_bind, Option.bind_some, hexports]
    rfl

theorem updatePortStats_labels {portStats : List (NICPortStats α)}
    (hknown : ∀ nicStats ∈ portStats, ∃ nic, na.nics.lookup nicStats.id = some nic)
    : ∃ exports, na.updatePortStats portRateStats portStats = some exports
      ∧ List.Forall₂ (na.PortLabels portRateStats) (portsOf portStats) exports.flatten := by
  induction portStats with
  | nil => exact ⟨[], rfl, .nil⟩
  | cons nicStats portStats ih =>
    rw [List.forall_mem_cons] at hknown
    rcases hknown.1 with ⟨nic, hnic⟩
    rcases ih hknown.2 with ⟨exports, hexports, hforall⟩
    rcases updatePortStats_ports portRateStats hnic nicStats.port _ fun _ _ => rfl
      with ⟨exports₁, hexports₁, hforall₁⟩
    refine ⟨exports₁ :: exports, ?_, ?_⟩
    . unfold updatePortStats at hexports ⊢
      rw [List.mapM_cons, hexports₁, hexports]
      rfl
    . rw [List.flatten_cons]
      exact List.rel_append hforall₁ hforall

end Loop

section Configured

variable [CaseMap] {na : NICAgentClient} {on : NICLabel → Prop} {pod custom : List String}
  (h : Configured on pod custom na.toLabelConfig)

include h

theorem lookup_labelOfNIC {a : NICLabel} (ha : on a) (nic : Option NIC)
    : (populateEnabled na.exportLabels fun ckey =>
        if na.isExtraOrCustomLabel ckey then none
        else some (na.labelOfNIC nic ckey)).lookup (lowerName a)
      = some (na.labelOfNIC nic (ProtoEnum.name a)) := by
  have hvalue : (populateEnabled na.exportLabels fun ckey =>
      if na.isExtraOrCustomLabel ckey then none else some (na.labelOfNIC nic ckey))
      = populateEnabled na.exportLabels fun ckey =>
        (ProtoEnum.ofName? ckey).map fun b : NICLabel => na.labelOfNIC nic (ProtoEnum.name b) := by
    rw [populateEnabled, populateEnabled, GoMap.insertSome, GoMap.insertSome]
    apply List.foldl_ext
    intro m e he
    rcases h.mem_enabled_iff.mp he with ⟨b, -, rfl⟩
    simp [isExtraOrCustomLabel_name h]
  rw [hvalue, h.lookup_populateEnabled _ ha]

theorem lookup_nicID {uuid : String} {nic : NIC} (hnic : na.nics.lookup uuid = some nic)
    (hon : on (.device .NIC_ID)) (hpod : "nic_id" ∉ pod) (hcustom : "nic_id" ∉ custom)
    : (na.populateLabelsFromNIC uuid).lookup "nic_id" = some nic.index := by
  have hlower : "nic_id" = lowerName (.device .NIC_ID : NICLabel) := by decide
  have hcustomLabel : na.customLabelMap.lookup "nic_id" = none := by
    rw [AList.lookup_eq_none, h.mem_customLabelMap]
    exact hcustom
  have hpodLabel : GoMap.lastWith toLower na.extraPodLabelsMap.keys "nic_id" = none := by
    rw [GoMap.lastWith_eq_none]
    intro k hk hkey
    rw [← AList.mem_keys, h.mem_extraPodLabelsMap] at hk
    rw [h.lower_pod k hk] at hkey
    rw [hkey] at hk
    exact hpod hk
  simp only [populateLabelsFromNIC, hnic, Option.elim_some]
  rw [lookup_addCustomLabels, hcustomLabel, Option.none_or, GoMap.lookup_insertEach, hpodLabel, hlower]
  dsimp only
  rw [lookup_labelOfNIC h hon, labelOfNIC, ProtoEnum.ofName?_name]
  rfl

end Configured

section Distinct

variable {nics : GoMap String NIC} (hone : OnePort nics)

include hone

theorem entries_of_onePort {id portID : String} {nic : NIC} (hnic : nics.lookup id = some nic)
    {info : Port} (hinfo : nic.ports.lookup portID = some info)
    : nic.ports.entries = [⟨portID, info⟩] := by
  have hmem : (⟨portID, info⟩ : Sigma fun _ : String => Port) ∈ nic.ports.entries :=
    AList.mem_lookup_iff.mp hinfo
  have hlength := hone id nic hnic
  rcases List.mem_iff_append.mp hmem with ⟨before, after, heq⟩
  rw [heq, List.length_append, List.length_cons] at hlength
  have hbefore : before = [] := List.eq_nil_of_length_eq_zero (by omega)
  have hafter : after = [] := List.eq_nil_of_length_eq_zero (by omega)
  rw [heq, hbefore, hafter]
  rfl

theorem firstPort_of_onePort {id portID : String} {nic : NIC} (hnic : nics.lookup id = some nic)
    {info : Port} (hinfo : nic.ports.lookup portID = some info) {port : Option Port}
    (hport : nic.FirstPort port) : port = some info := by
  have hentries := entries_of_onePort hone hnic hinfo
  cases port with
  | none =>
    rw [NIC.FirstPort, hentries] at hport
    cases hport
  | some port =>
    rcases hport with ⟨e, he, rfl⟩
    rw [hentries, List.mem_singleton] at he
    rw [he]

end Distinct

section Known

variable [CaseMap] {na : NICAgentClient} {α β : Type} {portStats : List (NICPortStats α)}
  {portRateStats : Option (List (NICPortRates β))} (hknown : KnownPorts na.nics portStats)

include hknown

omit [CaseMap] in
theorem KnownPorts.mem {port : String × PortStats α} (hport : port ∈ portsOf portStats)
    : ∃ nic, na.nics.lookup port.1 = some nic ∧ KnownPort nic port.2 := by
  rcases List.mem_flatMap.mp hport with ⟨nicStats, hnicStats, hport⟩
  rcases List.mem_map.mp hport with ⟨entry, hentry, rfl⟩
  rcases hknown.known nicStats hnicStats with ⟨nic, hnic, hports⟩
  exact ⟨nic, hnic, hports entry hentry⟩

omit [CaseMap] in
theorem ids_pairwise (hone : OnePort na.nics)
    : (portsOf portStats).Pairwise fun port port' => port.1 ≠ port'.1 := by
  have hspecID : ∀ port ∈ portsOf portStats, ∀ nic, na.nics.lookup port.1 = some nic →
      ∃ id info, port.2.specID = some id ∧ nic.ports.entries = [⟨id, info⟩] := by
    intro port hport nic hnic
    rcases hknown.mem hport with ⟨nic', hnic', hknownPort⟩
    rw [hnic] at hnic'
    cases hnic'
    rcases hknownPort.known with ⟨id, hid, hmem⟩
    rcases GoMap.mem_iff_exists_lookup.mp hmem with ⟨info, hinfo⟩
    exact ⟨id, info, hid, entries_of_onePort hone hnic hinfo⟩
  apply (List.pairwise_map.mp hknown.nodup).imp_of_mem
  intro port port' hmem hmem' hne heq
  apply hne
  rcases hknown.mem hmem with ⟨nic, hnic, -⟩
  rcases hspecID port hmem nic hnic with ⟨id, info, hid, hentries⟩
  rcases hspecID port' hmem' nic (heq ▸ hnic) with ⟨id', info', hid', hentries'⟩
  rw [hentries, List.cons.injEq] at hentries'
  cases hentries'.1
  rw [heq, hid, hid']

theorem carriesPort_of_onePort (hone : OnePort na.nics) {port : String × PortStats α}
    (hport : port ∈ portsOf portStats) {e : Export (α × Option β)}
    (he : na.PortLabels portRateStats port e) : na.CarriesPort portRateStats port e := by
  constructor
  . rw [he.statistics]
  . rw [he.statistics]
  . intro nic id info hnic _ hinfo
    rcases hknown.mem hport with ⟨nic', hnic', hknownPort⟩
    rw [hnic] at hnic'
    cases hnic'
    rw [he.portName, he.portID, firstPort_of_onePort hone hnic hinfo hknownPort.firstPort,
      firstPort_of_onePort hone hnic hinfo hknownPort.firstPort']
    exact ⟨rfl, rfl⟩

end Known

section Kept

variable [CaseMap] {na : NICAgentClient} {on : NICLabel → Prop} {pod custom : List String}
  (h : Configured on pod custom na.toLabelConfig) {α β : Type}
  {portRateStats : Option (List (NICPortRates β))}

include h

theorem labels_ne {cmds : Commands} (hget : cmds.getNICs = some (.ok na.nics))
    (hon : on (.device .NIC_ID)) (hcustom : "nic_id" ∉ custom)
    (hdistinct : "nic_id" ∉ pod ∨ DistinctBDFs na.nics) {port port' : String × PortStats α}
    {nic nic' : NIC} (hnic : na.nics.lookup port.1 = some nic)
    (hnic' : na.nics.lookup port'.1 = some nic') {e e' : Export (α × Option β)}
    (he : na.PortLabels portRateStats port e) (he' : na.PortLabels portRateStats port' e')
    (hne : port.1 ≠ port'.1) : ∃ k, e.labels.lookup k ≠ e'.labels.lookup k := by
  rcases hdistinct with hpod | hdistinct
  . refine ⟨"nic_id", ?_⟩
    have hkey : "nic_id" ∉ portKeys := by decide
    rw [he.card _ hkey, he'.card _ hkey, lookup_nicID h hnic hon hpod hcustom,
      lookup_nicID h hnic' hon hpod hcustom]
    intro heq
    rcases Commands.fromCards_getNICs hget with ⟨cards, -, hcards⟩
    exact hne (hcards.index_injective hnic hnic' (Option.some.inj heq))
  . refine ⟨labelPcieBusId, ?_⟩
    rw [he.pcieBusId nic hnic, he'.pcieBusId nic' hnic']
    intro heq
    exact hne (hdistinct _ _ nic nic' hnic hnic' (Option.some.inj heq))

theorem portsKept_of_onePort {cmds : Commands} (hget : cmds.getNICs = some (.ok na.nics))
    (hone : OnePort na.nics) (hon : on (.device .NIC_ID)) (hcustom : "nic_id" ∉ custom)
    (hdistinct : "nic_id" ∉ pod ∨ DistinctBDFs na.nics) {portStats : List (NICPortStats α)}
    (hknown : KnownPorts na.nics portStats) : na.PortsKept portRateStats portStats := by
  have hnics : ∀ nicStats ∈ portStats, ∃ nic, na.nics.lookup nicStats.id = some nic := by
    intro nicStats hnicStats
    rcases hknown.known nicStats hnicStats with ⟨nic, hnic, -⟩
    exact ⟨nic, hnic⟩
  rcases updatePortStats_labels portRateStats hnics
    with ⟨exports, hexports, hlabels⟩
  have hports : List.Forall₂ (fun port e => port ∈ portsOf portStats
      ∧ na.PortLabels portRateStats port e) (portsOf portStats) exports.flatten := by
    rw [List.forall₂_and_left]
    exact ⟨fun port hport => hport, hlabels⟩
  refine ⟨exports, hexports, ?_, ?_⟩
  . apply hports.imp
    rintro port e ⟨hport, he⟩
    exact carriesPort_of_onePort hknown hone hport he
  . apply pairwise_of_forall₂ hports (ids_pairwise hknown hone)
    rintro port port' e e' ⟨hport, he⟩ ⟨hport', he'⟩ hne
    rcases hknown.mem hport with ⟨nic, hnic, -⟩
    rcases hknown.mem hport' with ⟨nic', hnic', -⟩
    exact labels_ne h hget hon hcustom hdistinct hnic hnic' he he' hne

omit h in
theorem not_portsKept_of_firstPort {nicID : String} {nic : NIC}
    (hnic : na.nics.lookup nicID = some nic) (port port' : PortStats α)
    (hfirst : port.firstPort = port'.firstPort) (hfirst' : port.firstPort' = port'.firstPort')
    : ¬na.PortsKept portRateStats [⟨nicID, [port, port']⟩] := by
  rintro ⟨exports, hexports, -, hpairwise⟩
  have hnics : ∀ nicStats ∈ [(⟨nicID, [port, port']⟩ : NICPortStats α)],
      ∃ nic, na.nics.lookup nicStats.id = some nic := by
    intro nicStats hnicStats
    rw [List.mem_singleton] at hnicStats
    rw [hnicStats]
    exact ⟨nic, hnic⟩
  rcases updatePortStats_labels portRateStats hnics
    with ⟨exports', hexports', hlabels⟩
  rw [hexports] at hexports'
  cases hexports'
  have hports : portsOf [(⟨nicID, [port, port']⟩ : NICPortStats α)]
      = [(nicID, port), (nicID, port')] := rfl
  rw [hports] at hlabels
  rcases hflatten : exports.flatten with _ | ⟨e, _ | ⟨e', es⟩⟩
  . rw [hflatten] at hlabels
    cases hlabels
  . rw [hflatten, List.forall₂_cons] at hlabels
    cases hlabels.2
  . rw [hflatten, List.forall₂_cons, List.forall₂_cons] at hlabels
    rcases hlabels with ⟨he, he', -⟩
    rw [hflatten, List.pairwise_cons] at hpairwise
    rcases hpairwise.1 e' List.mem_cons_self with ⟨k, hne⟩
    apply hne
    by_cases hk : k ∈ portKeys
    . simp only [portKeys, List.mem_cons, List.not_mem_nil, or_false] at hk
      rcases hk with rfl | rfl | rfl
      . rw [he.portName, he'.portName, hfirst]
      . rw [he.portID, he'.portID, hfirst']
      . rw [he.pcieBusId nic hnic, he'.pcieBusId nic hnic]
    . rw [he.card k hk, he'.card k hk]

end Kept

section Instances

variable {α β : Type}

def portCommands (ports : List PortInfo) : Commands where
  showCard := .ok [⟨"nic-0", "SN0", "0000:84:00.0", "1.0"⟩]
  showPort _ := .ok [("nic-0", ports)]
  showLif _ := .ok []
  lspci _ := .ok ""

def cardNIC : NIC :=
  Commands.newNIC ⟨"nic-0", "SN0", "0000:84:00.0", "1.0"⟩ 0

def portClient (ports : List PortInfo) : NICAgentClient where
  nics := AList.singleton "nic-0"
    { cardNIC with ports := Commands.newPorts ports }
  isKubernetes := true
  k8PodInfoMap := ∅
  staticHostLabels := ∅

theorem getNICs_portCommands (ports : List PortInfo)
    : (portCommands ports).getNICs = some (.ok (portClient ports).nics) := rfl

def portStatsOf (firstPort : Option Port) (ports : List (String × α)) : List (NICPortStats α) :=
  [⟨"nic-0", ports.map fun port => ⟨some port.1, port.2, firstPort, firstPort⟩⟩]

theorem knownPorts_portStatsOf {ports : List PortInfo} {stats : List (String × α)}
    {firstPort : Option Port} (hknown : ∀ port ∈ stats, port.1 ∈ Commands.newPorts ports)
    (hfirst : NIC.FirstPort { cardNIC with ports := Commands.newPorts ports } firstPort)
    (hnodup : (stats.map (·.1)).Nodup)
    : KnownPorts (portClient ports).nics (portStatsOf firstPort stats) := by
  constructor
  . intro nicStats hnicStats
    rw [portStatsOf, List.mem_singleton] at hnicStats
    subst hnicStats
    refine ⟨_, rfl, ?_⟩
    intro entry hentry
    rcases List.mem_map.mp hentry with ⟨port, hport, rfl⟩
    exact ⟨⟨port.1, rfl, hknown port hport⟩, hfirst, hfirst⟩
  . have hids : (portsOf (portStatsOf firstPort stats)).map (fun port => (port.1, port.2.specID))
        = (stats.map (·.1)).map fun id => ("nic-0", some id) := by
      simp [portsOf, portStatsOf, Function.comp_def]
    rw [hids]
    apply hnodup.map
    intro id id' heq
    cases heq
    rfl

def twoCardCommands : Commands where
  showCard := .ok [⟨"nic-0", "SN0", "0000:84:00.0", "1.0"⟩, ⟨"nic-1", "SN1", "0000:85:00.0", "1.0"⟩]
  showPort id :=
    if id = "nic-0" then
      .ok [("nic-0", [⟨"port-0", "eth1/1"⟩])]
    else
      .ok [("nic-1", [⟨"port-1", "eth2/1"⟩])]
  showLif _ := .ok []
  lspci _ := .ok ""

def twoCardClient : NICAgentClient where
  nics :=
    let nics : GoMap String NIC := AList.singleton "nic-0"
      { cardNIC with ports := Commands.newPorts [⟨"port-0", "eth1/1"⟩] }
    nics.insert "nic-1"
      { Commands.newNIC ⟨"nic-1", "SN1", "0000:85:00.0", "1.0"⟩ 1 with
        ports := Commands.newPorts [⟨"port-1", "eth2/1"⟩] }
  isKubernetes := true
  k8PodInfoMap := ∅
  staticHostLabels := ∅

def twoCardStats : List (NICPortStats Nat) :=
  let port0 : Port := ⟨"0", "port-0", "eth1/1"⟩
  let port1 : Port := ⟨"0", "port-1", "eth2/1"⟩
  [⟨"nic-0", [⟨some "port-0", 10, some port0, some port0⟩]⟩,
    ⟨"nic-1", [⟨some "port-1", 20, some port1, some port1⟩]⟩]

theorem knownPorts_twoCardStats : KnownPorts twoCardClient.nics twoCardStats := by
  constructor
  . intro nicStats hnicStats
    rcases List.mem_pair.mp hnicStats with rfl | rfl
    . refine ⟨_, rfl, fun entry hentry => ?_⟩
      rw [List.mem_singleton.mp hentry]
      exact ⟨⟨_, rfl, by decide⟩, ⟨_, List.mem_singleton_self _, rfl⟩, ⟨_, List.mem_singleton_self _, rfl⟩⟩
    . refine ⟨_, rfl, fun entry hentry => ?_⟩
      rw [List.mem_singleton.mp hentry]
      exact ⟨⟨_, rfl, by decide⟩, ⟨_, List.mem_singleton_self _, rfl⟩, ⟨_, List.mem_singleton_self _, rfl⟩⟩
  . decide

end Instances

end NICAgentClient

end NICAgent
