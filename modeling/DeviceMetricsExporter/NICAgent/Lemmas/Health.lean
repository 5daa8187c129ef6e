import DeviceMetricsExporter.NICAgent.Impl.Health
import DeviceMetricsExporter.NICAgent.Lemmas.Inventory

/-!
This module contains when the health of every LIF is reported: all VFs of a card get the address of the
first one, so that only cards with at most one VF have LIFs with different addresses.
-/

namespace NICAgent

def AddressesDistinct (nics : GoMap String NIC) : Prop :=
  ∀ c c' nic nic' id id' lif lif', nics.lookup c = some nic → nics.lookup c' = some nic' →
    nic.lifs.lookup id = some lif → nic'.lifs.lookup id' = some lif' →
      lif.pcieAddress = lif'.pcieAddress → c = c' ∧ id = id'

/--
Every LIF that is not skipped has an entry of its own, which is unhealthy exactly if the LIF is down.
-/
def Reports (nics : GoMap String NIC) (adminState : String → String)
    (health : GoMap String NICState) : Prop :=
  ∀ c nic id lif, nics.lookup c = some nic → nic.lifs.lookup id = some lif → ¬nic.isSkipped lif →
    ∃ state, health.lookup lif.pcieAddress = some state ∧ state.uuid = id
      ∧ (state.health = "unhealthy" ↔ adminState id = "down")

structure HealthEnv.Answers (env : HealthEnv) (nics : GoMap String NIC) (adminState : String → String)
    : Prop where
  enabled : env.interfaceAdminDownAsUnhealthy ≠ some false
  active : env.nicctlActive
  state : ∀ c nic id lif, nics.lookup c = some nic → nic.lifs.lookup id = some lif →
    env.getAdminStatus id = some (.ok (adminState id))

/--
All LIFs of the cards are in the inventory, under different addresses, and the health check reports each
of them whatever the order in which it visits them.
-/
def HealthKept (cmds : Commands) (cards : List CardInfo) (lifs : CardInfo → List LifInfo) : Prop :=
  ∃ nics, cmds.getNICs = some (.ok nics)
    ∧ (∀ card ∈ cards, ∃ nic, nics.lookup card.id = some nic ∧ ∀ lif ∈ lifs card, lif.id ∈ nic.lifs)
    ∧ AddressesDistinct nics
    ∧ ∀ env adminState, HealthEnv.Answers env nics adminState →
        ∀ order : List (NIC × Lif), order.Perm (allLifs nics) →
          ∃ health, env.getNICHealthStates order nics = some (.ok health)
            ∧ Reports nics adminState health

section Addresses

variable {cmds : Commands} {cards : List CardInfo} {lifs : CardInfo → List LifInfo}

theorem lookup_lifs {nic : NIC} {xs : List LifInfo} {ethBDF : String}
    (hnodup : (xs.map (·.id)).Nodup)
    (hlifs : nic.lifs = GoMap.insertEach ∅ xs.zipIdx (·.1.id) (cmds.lifOf ethBDF))
    {id : String} {lif : Lif}
    : nic.lifs.lookup id = some lif
      ↔ ∃ info j, xs[j]? = some info ∧ info.id = id ∧ lif = cmds.lifOf ethBDF (info, j) := by
  have hkeys : (xs.zipIdx.map fun x => x.1.id).Nodup := by
    rw [← List.zipIdx_map_fst 0 xs, List.map_map] at hnodup
    exact hnodup
  rw [hlifs, GoMap.lookup_insertEach_empty]
  constructor
  . intro hlookup
    rw [Option.map_eq_some_iff] at hlookup
    rcases hlookup with ⟨⟨info, j⟩, hlast, rfl⟩
    rcases GoMap.mem_of_lastWith _ hlast with ⟨hmem, rfl⟩
    exact ⟨info, j, List.mk_mem_zipIdx_iff_getElem?.mp hmem, rfl, rfl⟩
  . rintro ⟨info, j, hinfo, rfl, rfl⟩
    have hmem : (info, j) ∈ xs.zipIdx := List.mk_mem_zipIdx_iff_getElem?.mpr hinfo
    rw [GoMap.lastWith_of_nodup (fun x : LifInfo × Nat => x.1.id) hkeys hmem]
    rfl

theorem pcieAddress_lifOf (h : cmds.Inventory cards lifs) {card : CardInfo} (hcard : card ∈ cards)
    {info : LifInfo} {j : Nat} (hinfo : (lifs card)[j]? = some info) (hj : j ≤ 1)
    : ∃ function, ((cmds.listing card.ethBDF).getD [])[j]? = some function
      ∧ (cmds.lifOf card.ethBDF (info, j)).pcieAddress = "0000:" ++ function := by
  rcases h.functions card hcard with ⟨pf, vfs, hlisting, hbdf, hlength⟩
  have hlt := (List.getElem?_eq_some_iff.mp hinfo).1
  rcases j with _ | _ | j
  . refine ⟨pf, ?_, hbdf⟩
    rw [hlisting]
    rfl
  . rcases vfs with _ | ⟨vf, vfs⟩
    . rw [List.length_nil] at hlength
      omega
    . refine ⟨vf, ?_, ?_⟩
      . rw [hlisting]
        rfl
      . exact Commands.vfAddress_of_listing hlisting
  . omega

theorem addressesDistinct_of_length_le (h : cmds.Inventory cards lifs)
    (hlength : ∀ card ∈ cards, (lifs card).length ≤ 2) {nics : GoMap String NIC}
    (hnics : ∀ c nic, nics.lookup c = some nic → ∃ card ∈ cards, card.id = c
      ∧ nic.lifs = GoMap.insertEach ∅ (lifs card).zipIdx (·.1.id) (cmds.lifOf card.ethBDF))
    : AddressesDistinct nics := by
  intro c c' nic nic' id id' lif lif' hnic hnic' hlif hlif' haddr
  rcases hnics c nic hnic with ⟨card, hcard, rfl, hlifs⟩
  rcases hnics c' nic' hnic' with ⟨card', hcard', rfl, hlifs'⟩
  rcases (lookup_lifs (h.nodup_lifs card hcard) hlifs).mp hlif with ⟨info, j, hinfo, rfl, rfl⟩
  rcases (lookup_lifs (h.nodup_lifs card' hcard') hlifs').mp hlif' with ⟨info', j', hinfo', rfl, rfl⟩
  have hj := (List.getElem?_eq_some_iff.mp hinfo).1
  have hj' := (List.getElem?_eq_some_iff.mp hinfo').1
  have hle := hlength card hcard
  have hle' := hlength card' hcard'
  rcases pcieAddress_lifOf h hcard hinfo (by omega) with ⟨function, hfunction, hpcie⟩
  rcases pcieAddress_lifOf h hcard' hinfo' (by omega) with ⟨function', hfunction', hpcie'⟩
  rw [hpcie, hpcie', String.append_right_inj] at haddr
  subst haddr
  have heq := h.functions_disjoint card hcard card' hcard' function
    (List.mem_of_getElem? hfunction) (List.mem_of_getElem? hfunction')
  subst heq
  have hindex := List.getElem?_inj (List.getElem?_eq_some_iff.mp hfunction).1
    (h.nodup_functions card hcard) |>.mp (hfunction.trans hfunction'.symm)
  subst hindex
  rw [hinfo] at hinfo'
  cases hinfo'
  exact ⟨rfl, rfl⟩

theorem length_le_of_addressesDistinct {nics : GoMap String NIC} (hdistinct : AddressesDistinct nics)
    (h : cmds.Inventory cards lifs) {card : CardInfo} (hcard : card ∈ cards) {nic : NIC}
    (hnic : nics.lookup card.id = some nic)
    (hlifs : nic.lifs = GoMap.insertEach ∅ (lifs card).zipIdx (·.1.id) (cmds.lifOf card.ethBDF))
    : (lifs card).length ≤ 2 := by
  by_contra hlength
  rw [Nat.not_le] at hlength
  have hnodup := h.nodup_lifs card hcard
  have hlookup (j : Nat) (hj : j < (lifs card).length)
      : nic.lifs.lookup (lifs card)[j].id = some (cmds.lifOf card.ethBDF ((lifs card)[j], j)) :=
    (lookup_lifs hnodup hlifs).mpr ⟨_, j, List.getElem?_eq_getElem hj, rfl, rfl⟩
  have hsame := hdistinct _ _ _ _ _ _ _ _ hnic hnic (hlookup 1 (by omega)) (hlookup 2 hlength) rfl
  have hids : ((lifs card).map (·.id))[1]? = ((lifs card).map (·.id))[2]? := by
    rw [List.getElem?_map, List.getElem?_map, List.getElem?_eq_getElem hlength,
      List.getElem?_eq_getElem (Nat.lt_of_succ_lt hlength), Option.map_some, Option.map_some, hsame.2]
  have hlt : 1 < ((lifs card).map (·.id)).length := by
    rw [List.length_map]
    omega
  have hindex := (List.getElem?_inj hlt hnodup).mp hids
  omega

end Addresses

section Reports

variable {nics : GoMap String NIC} {env : HealthEnv} {adminState : String → String}

theorem mem_allLifs {nic : NIC} {lif : Lif}
    : (nic, lif) ∈ allLifs nics
      ↔ ∃ c id, nics.lookup c = some nic ∧ nic.lifs.lookup id = some lif := by
  have hmem {κ : Type} {β : Type} [DecidableEq κ] (m : GoMap κ β) (k : κ) (v : β)
      : m.lookup k = some v ↔ ⟨k, v⟩ ∈ m.entries := AList.mem_lookup_iff
  simp only [allLifs, List.mem_flatMap, List.mem_map, Prod.mk.injEq, hmem]
  constructor
  . rintro ⟨⟨c, nic'⟩, hnic, ⟨id, lif'⟩, hlif, rfl, rfl⟩
    exact ⟨c, id, hnic, hlif⟩
  . rintro ⟨c, id, hnic, hlif⟩
    exact ⟨⟨c, nic⟩, hnic, ⟨id, lif⟩, hlif, rfl, rfl⟩

def stateOf (adminState : String → String) (lif : NIC × Lif) : NICState where
  device := lif.2.pcieAddress
  uuid := lif.2.uuid
  health := healthOf (adminState lif.2.uuid)

theorem lifHealth_eq {lifs : List (NIC × Lif)}
    (hstate : ∀ p ∈ lifs, env.getAdminStatus p.2.uuid = some (.ok (adminState p.2.uuid)))
    (health : GoMap String NICState)
    : env.lifHealth health lifs
      = some (.ok (health.insertEach (lifs.filter fun p => !p.1.isSkipped p.2) (·.2.pcieAddress)
          (stateOf adminState))) := by
  induction lifs generalizing health with
  | nil => rfl
  | cons p lifs ih =>
    rw [List.forall_mem_cons] at hstate
    rcases p with ⟨nic, lif⟩
    unfold HealthEnv.lifHealth
    by_cases hskip : nic.isSkipped lif
    . rw [if_pos hskip, ih hstate.2, List.filter_cons_of_neg (by simpa using hskip)]
    . rw [if_neg hskip, hstate.1]
      dsimp only
      rw [ih hstate.2, List.filter_cons_of_pos (by simpa using hskip)]
      rfl

theorem healthOf_eq_unhealthy {state : String} : healthOf state = "unhealthy" ↔ state = "down" := by
  unfold healthOf
  split
  . next hup => simp [hup]
  . split
    . next hdown => simp [hdown]
    . next hdown => simp [hdown]

theorem getNICHealthStates_reports (hdistinct : AddressesDistinct nics)
    (huuid : ∀ c nic id lif, nics.lookup c = some nic → nic.lifs.lookup id = some lif → lif.uuid = id)
    (hanswers : env.Answers nics adminState) {order : List (NIC × Lif)}
    (horder : order.Perm (allLifs nics))
    : ∃ health, env.getNICHealthStates order nics = some (.ok health)
      ∧ Reports nics adminState health := by
  have hstate : ∀ p ∈ order, env.getAdminStatus p.2.uuid = some (.ok (adminState p.2.uuid)) := by
    rintro ⟨nic, lif⟩ hp
    rcases mem_allLifs.mp (horder.mem_iff.mp hp) with ⟨c, id, hnic, hlif⟩
    dsimp only
    rw [huuid c nic id lif hnic hlif]
    exact hanswers.state c nic id lif hnic hlif
  unfold HealthEnv.getNICHealthStates
  rw [if_neg hanswers.enabled]
  split
  . next hempty =>
    refine ⟨∅, rfl, ?_⟩
    intro c nic id lif hnic
    rw [GoMap.entries_eq_nil_iff] at hempty
    rw [hempty c] at hnic
    cases hnic
  . rw [if_neg (by simpa using hanswers.active), lifHealth_eq hstate]
    refine ⟨_, rfl, ?_⟩
    intro c nic id lif hnic hlif hskip
    have hmem : (nic, lif) ∈ order.filter fun p => !p.1.isSkipped p.2 := by
      rw [List.mem_filter]
      refine ⟨horder.mem_iff.mpr (mem_allLifs.mpr ⟨c, id, hnic, hlif⟩), ?_⟩
      simpa using hskip
    rw [GoMap.lookup_insertEach_empty]
    cases hlast : GoMap.lastWith (fun p : NIC × Lif => p.2.pcieAddress)
        (order.filter fun p => !p.1.isSkipped p.2) lif.pcieAddress with
    | none =>
      rw [GoMap.lastWith_eq_none] at hlast
      exact absurd rfl (hlast _ hmem)
    | some p =>
      rcases p with ⟨nic', lif'⟩
      rcases GoMap.mem_of_lastWith _ hlast with ⟨hmem', haddr⟩
      rcases mem_allLifs.mp (horder.mem_iff.mp (List.mem_of_mem_filter hmem')) with ⟨c', id', hnic', hlif'⟩
      rcases hdistinct _ _ _ _ _ _ _ _ hnic' hnic hlif' hlif haddr with ⟨rfl, rfl⟩
      refine ⟨_, rfl, huuid _ _ _ _ hnic' hlif', ?_⟩
      simp only [stateOf, huuid _ _ _ _ hnic' hlif', healthOf_eq_unhealthy]

end Reports

section Kept

variable {cmds : Commands} {cards : List CardInfo} {lifs : CardInfo → List LifInfo}

theorem length_le_of_healthKept (h : cmds.Inventory cards lifs) (hkept : HealthKept cmds cards lifs)
    : ∀ card ∈ cards, (lifs card).length ≤ 2 := by
  intro card hcard
  rcases h.getNICs with ⟨nics, hget, hcards, -⟩
  rcases hkept with ⟨nics', hget', -, hdistinct, -⟩
  rw [hget] at hget'
  cases hget'
  rcases hcards card hcard with ⟨nic, hnic, hlifs⟩
  exact length_le_of_addressesDistinct hdistinct h hcard hnic hlifs

theorem healthKept_of_length_le (h : cmds.Inventory cards lifs)
    (hlength : ∀ card ∈ cards, (lifs card).length ≤ 2) : HealthKept cmds cards lifs := by
  rcases h.getNICs with ⟨nics, hget, hcards, hframe⟩
  have hnics : ∀ c nic, nics.lookup c = some nic → ∃ card ∈ cards, card.id = c
      ∧ nic.lifs = GoMap.insertEach ∅ (lifs card).zipIdx (·.1.id) (cmds.lifOf card.ethBDF) := by
    intro c nic hnic
    have hmem : c ∈ cards.map (·.id) := by
      by_contra hmem
      rw [hframe c hmem] at hnic
      cases hnic
    rcases List.mem_map.mp hmem with ⟨card, hcard, rfl⟩
    rcases hcards card hcard with ⟨nic', hnic', hlifs⟩
    rw [hnic] at hnic'
    cases hnic'
    exact ⟨card, hcard, rfl, hlifs⟩
  have hlookup : ∀ card ∈ cards, ∃ nic, nics.lookup card.id = some nic
      ∧ ∀ lif ∈ lifs card, lif.id ∈ nic.lifs := by
    intro card hcard
    rcases hcards card hcard with ⟨nic, hnic, hlifs⟩
    refine ⟨nic, hnic, ?_⟩
    intro lif hlif
    rcases List.getElem?_of_mem hlif with ⟨j, hj⟩
    rw [← AList.lookup_isSome,
      (lookup_lifs (h.nodup_lifs card hcard) hlifs).mpr ⟨lif, j, hj, rfl, rfl⟩]
    rfl
  have hdistinct := addressesDistinct_of_length_le h hlength hnics
  have huuid : ∀ c nic id lif, nics.lookup c = some nic → nic.lifs.lookup id = some lif →
      lif.uuid = id := by
    intro c nic id lif hnic hlif
    rcases hnics c nic hnic with ⟨card, hcard, -, hlifs⟩
    rcases (lookup_lifs (h.nodup_lifs card hcard) hlifs).mp hlif with ⟨info, j, -, rfl, rfl⟩
    rfl
  refine ⟨nics, hget, hlookup, hdistinct, ?_⟩
  intro env adminState hanswers order horder
  exact getNICHealthStates_reports hdistinct huuid hanswers horder

end Kept

section Instances

/--
No LIF is lost exactly if no card has more than one VF.
-/
theorem healthKept_iff (cmds : Commands) (cards : List CardInfo) (lifs : CardInfo → List LifInfo)
    (h : cmds.Inventory cards lifs)
    : HealthKept cmds cards lifs ↔ ∀ card ∈ cards, (lifs card).length ≤ 2 := by
  constructor
  . apply length_le_of_healthKept h
  . apply healthKept_of_length_le h

def card0 : CardInfo where
  id := "card-0"
  serialNumber := "SN0"
  ethBDF := "0000:84:00.0"
  firmwareVersion := "1.0"

def oneCard (lifs : List LifInfo) (lspci : String) : Commands where
  showCard := .ok [card0]
  showPort _ := .ok [("card-0", [⟨"port-0", "eth1/1"⟩])]
  showLif _ := .ok [("card-0", lifs)]
  lspci _ := .ok lspci

theorem inventory_oneCard {lifs : List LifInfo} {lspci : String} (vfs : List String)
    (hids : (lifs.map (·.id)).Nodup)
    (hlspci : (oneCard lifs lspci).listing "0000:84:00.0" = some ("84:00.0" :: vfs))
    (hnodup : ("84:00.0" :: vfs).Nodup) (hlength : lifs.length ≤ vfs.length + 1)
    : (oneCard lifs lspci).Inventory [card0] fun _ => lifs where
  showCard := rfl
  nodup_cards := List.nodup_singleton _
  showPort := by
    intro card hcard resp hresp r hr
    cases hresp
    rw [List.mem_singleton] at hcard hr
    rw [hcard, hr]
    rfl
  showLif := by
    intro card hcard
    rw [List.mem_singleton] at hcard
    rw [hcard]
    rfl
  nodup_lifs _ _ := hids
  functions := by
    intro card hcard
    rw [List.mem_singleton] at hcard
    subst hcard
    exact ⟨_, vfs, hlspci, by decide, hlength⟩
  nodup_functions := by
    intro card hcard
    rw [List.mem_singleton] at hcard
    subst hcard
    rw [card0, hlspci]
    exact hnodup
  functions_disjoint := by
    intro card hcard card' hcard' _ _ _
    rw [List.mem_singleton] at hcard hcard'
    rw [hcard, hcard']

theorem healthKept_iff_oneVF
    : HealthKept (oneCard [⟨"lif-0", "eth0"⟩, ⟨"lif-1", "eth1"⟩] "84:00.0\n84:00.1\n") [card0]
      fun _ => [⟨"lif-0", "eth0"⟩, ⟨"lif-1", "eth1"⟩] :=
  (healthKept_iff _ [card0] _ (inventory_oneCard ["84:00.1"] (by decide) (by decide)
    (by decide) (by decide))).mpr (by decide)

/--
The second VF has the address of the first one.
-/
theorem not_healthKept
    : ¬∀ (cmds : Commands) (cards : List CardInfo) (lifs : CardInfo → List LifInfo),
        cmds.Inventory cards lifs → HealthKept cmds cards lifs := by
  intro h
  let lifs : List LifInfo := [⟨"lif-0", "eth0"⟩, ⟨"lif-1", "eth1"⟩, ⟨"lif-2", "eth2"⟩]
  have hinventory : (oneCard lifs "84:00.0\n84:00.1\n84:00.2\n").Inventory [card0] fun _ => lifs := by
    apply inventory_oneCard ["84:00.1", "84:00.2"]
    . decide
    . decide
    . decide
    . decide
  have hlength := length_le_of_healthKept hinventory (h _ _ _ hinventory) card0
    (List.mem_singleton_self card0)
  revert hlength
  decide

end Instances

end NICAgent
