import DeviceMetricsExporter.Lib.Loop
import DeviceMetricsExporter.NICAgent.Impl.Inventory

/-!
This module contains what is in the inventory: every NIC is one of the cards that `nicctl` reports, with
its position as its index, and has the LIFs that `nicctl` reports for the card.
-/

namespace NICAgent

open Loop

namespace Commands

variable (cmds : Commands)

def vfAddress (ethBDF : String) : String :=
  match cmds.getPCIeAddress ethBDF with
  | .error _ => ""
  | .ok pcieAddr => pcieAddr

/--
The first LIF is the PF. All others have the address of the VF.
-/
def lifOf (ethBDF : String) (lif : LifInfo × Nat) : Lif where
  name := lif.1.name
  uuid := lif.1.id
  pcieAddress := if lif.2 = 0 then ethBDF else cmds.vfAddress ethBDF
  isPF := lif.2 = 0

variable {cmds}

theorem addLif_eq (nic : NIC) (lif : LifInfo × Nat)
    : ∃ sriov, cmds.addLif nic lif
      = { nic with
          sriovConfiguredOnHost := sriov
          lifs := nic.lifs.insert lif.1.id (cmds.lifOf nic.ethBDF lif) } := by
  unfold addLif
  dsimp only
  split
  . next hpf => exact ⟨nic.sriovConfiguredOnHost, by simp [lifOf, hpf]⟩
  . next hvf =>
    split
    . next hnone => exact ⟨nic.sriovConfiguredOnHost, by simp [lifOf, vfAddress, hvf, hnone]⟩
    . next pcieAddr hsome =>
      split
      . next hempty =>
        exact ⟨nic.sriovConfiguredOnHost, by simp [lifOf, vfAddress, hvf, hsome, hempty]⟩
      . exact ⟨true, by simp [lifOf, vfAddress, hvf, hsome]⟩

section Index

structure CardAt (card : CardInfo) (i : Nat) (nic : NIC) : Prop where
  index : nic.index = i.repr
  uuid : nic.uuid = card.id
  ethBDF : nic.ethBDF = card.ethBDF

def FromCards (cards : List CardInfo) (nics : GoMap String NIC) : Prop :=
  ∀ id nic, nics.lookup id = some nic → ∃ card i, (card, i) ∈ cards.zipIdx ∧ card.id = id
    ∧ CardAt card i nic

variable {cards : List CardInfo} {nics nics' : GoMap String NIC}

theorem FromCards.insert (h : FromCards cards nics) {id : String} {nic : NIC}
    (hnic : ∃ card i, (card, i) ∈ cards.zipIdx ∧ card.id = id ∧ CardAt card i nic)
    : FromCards cards (nics.insert id nic) := by
  intro id' nic' hlookup
  rw [GoMap.lookup_insert_eq_ite] at hlookup
  split at hlookup
  . next hid =>
    cases hlookup
    rw [hid]
    exact hnic
  . exact h id' nic' hlookup

theorem FromCards.setPorts (h : FromCards cards nics) {resp : String × List PortInfo}
    (hset : setPorts nics resp = some nics') : FromCards cards nics' := by
  unfold Commands.setPorts at hset
  rw [Option.bind_eq_bind, Option.bind_eq_some_iff] at hset
  rcases hset with ⟨nic, hnic, heq⟩
  cases heq
  rcases h resp.1 nic hnic with ⟨card, i, hcard, hid, hat⟩
  exact h.insert ⟨card, i, hcard, hid, hat.index, hat.uuid, hat.ethBDF⟩

theorem FromCards.addCard (h : FromCards cards nics) {card : CardInfo × Nat}
    (hcard : card ∈ cards.zipIdx) (hadd : cmds.addCard nics card = some nics')
    : FromCards cards nics' := by
  have hinsert : FromCards cards (nics.insert card.1.id (newNIC card.1 card.2)) :=
    h.insert ⟨card.1, card.2, hcard, rfl, rfl, rfl, rfl⟩
  unfold Commands.addCard at hadd
  dsimp only at hadd
  split at hadd
  . cases hadd
    exact hinsert
  . apply foldlM_invariant _ hinsert hadd
    intro s resp _ s' hs hset
    exact hs.setPorts hset

theorem CardAt.addLif {card : CardInfo} {i : Nat} {nic : NIC} (h : CardAt card i nic)
    (lif : LifInfo × Nat) : CardAt card i (cmds.addLif nic lif) := by
  rcases addLif_eq nic lif with ⟨sriov, heq⟩
  rw [heq]
  exact ⟨h.index, h.uuid, h.ethBDF⟩

theorem FromCards.setLifs (h : FromCards cards nics) {resp : String × List LifInfo}
    (hset : cmds.setLifs nics resp = some nics') : FromCards cards nics' := by
  unfold Commands.setLifs at hset
  rw [Option.bind_eq_bind, Option.bind_eq_some_iff] at hset
  rcases hset with ⟨nic, hnic, heq⟩
  cases heq
  rcases h resp.1 nic hnic with ⟨card, i, hcard, hid, hat⟩
  refine h.insert ⟨card, i, hcard, hid, ?_⟩
  have hempty : CardAt card i { nic with lifs := ∅ } := ⟨hat.index, hat.uuid, hat.ethBDF⟩
  exact List.foldlRecOn resp.2.zipIdx cmds.addLif hempty fun nic hnic lif _ => hnic.addLif lif

theorem FromCards.addLifs (h : FromCards cards nics) {card : CardInfo}
    (hadd : cmds.addLifs nics card = some nics') : FromCards cards nics' := by
  unfold Commands.addLifs at hadd
  split at hadd
  . cases hadd
    exact h
  . apply foldlM_invariant _ h hadd
    intro s resp _ s' hs hset
    exact hs.setLifs hset

theorem fromCards_getNICs (h : cmds.getNICs = some (.ok nics))
    : ∃ cards, cmds.showCard = .ok cards ∧ FromCards cards nics := by
  unfold getNICs at h
  split at h
  . cases h
  . next cards hcards =>
    refine ⟨cards, hcards, ?_⟩
    rw [Option.bind_eq_bind, Option.bind_eq_some_iff] at h
    rcases h with ⟨nics₁, hnics₁, h⟩
    rw [Option.bind_eq_some_iff] at h
    rcases h with ⟨nics₂, hnics₂, h⟩
    cases h
    have hempty : FromCards cards ∅ := by
      intro id nic hlookup
      cases hlookup
    have hcards₁ : FromCards cards nics₁ := by
      apply foldlM_invariant _ hempty hnics₁
      intro s card hcard s' hs hadd
      exact hs.addCard hcard hadd
    apply foldlM_invariant _ hcards₁ hnics₂
    intro s card _ s' hs hadd
    exact hs.addLifs hadd

theorem FromCards.index_injective (h : FromCards cards nics) {id id' : String} {nic nic' : NIC}
    (hnic : nics.lookup id = some nic) (hnic' : nics.lookup id' = some nic')
    (hindex : nic.index = nic'.index) : id = id' := by
  rcases h id nic hnic with ⟨card, i, hcard, rfl, hat⟩
  rcases h id' nic' hnic' with ⟨card', i', hcard', rfl, hat'⟩
  rw [hat.index, hat'.index] at hindex
  have hi := natRepr_injective hindex
  subst hi
  rw [List.mk_mem_zipIdx_iff_getElem?] at hcard hcard'
  rw [hcard] at hcard'
  cases hcard'
  rfl

end Index

section Cards

variable (cmds)

def listing (ethBDF : String) : Option (List String) :=
  match split ethBDF ':' with
  | _ :: bus :: rest :: _ =>
    match cmds.lspci (bus ++ "." ++ (split rest '.').headD "") with
    | .error _ => none
    | .ok out => some (split (trimSpace out) '\n')
  | _ => none

/--
The commands describe some cards: each has a PF and any number of VFs, which `lspci` lists under the bus
and device of the card, and no two functions have the same address.
-/
structure Inventory (cards : List CardInfo) (lifs : CardInfo → List LifInfo) : Prop where
  showCard : cmds.showCard = .ok cards
  nodup_cards : (cards.map (·.id)).Nodup
  showPort : ∀ card ∈ cards, ∀ resp, cmds.showPort card.id = .ok resp → ∀ r ∈ resp, r.1 = card.id
  showLif : ∀ card ∈ cards, cmds.showLif card.id = .ok [(card.id, lifs card)]
  nodup_lifs : ∀ card ∈ cards, ((lifs card).map (·.id)).Nodup
  functions : ∀ card ∈ cards, ∃ pf vfs, cmds.listing card.ethBDF = some (pf :: vfs)
    ∧ card.ethBDF = "0000:" ++ pf ∧ (lifs card).length ≤ vfs.length + 1
  nodup_functions : ∀ card ∈ cards, ((cmds.listing card.ethBDF).getD []).Nodup
  functions_disjoint : ∀ card ∈ cards, ∀ card' ∈ cards, ∀ function,
    function ∈ (cmds.listing card.ethBDF).getD [] → function ∈ (cmds.listing card'.ethBDF).getD [] →
      card = card'

variable {cmds}

theorem vfAddress_of_listing {ethBDF pf vf : String} {vfs : List String}
    (h : cmds.listing ethBDF = some (pf :: vf :: vfs)) : cmds.vfAddress ethBDF = "0000:" ++ vf := by
  unfold listing at h
  split at h
  . next bus rest _ hsplit =>
    split at h
    . cases h
    . next out hlspci =>
      rw [Option.some.injEq] at h
      unfold vfAddress getPCIeAddress
      simp only [hsplit, hlspci, h]
  . cases h

theorem setPorts_loop {id : String} {nic : NIC} {resp : List (String × List PortInfo)}
    (hresp : ∀ r ∈ resp, r.1 = id) {nics : GoMap String NIC} {ports : GoMap String Port}
    (hnic : nics.lookup id = some { nic with ports := ports })
    : ∃ nics' ports', resp.foldlM setPorts nics = some nics'
      ∧ ∀ k, nics'.lookup k = if k = id then some { nic with ports := ports' } else nics.lookup k := by
  induction resp generalizing nics ports with
  | nil =>
    refine ⟨nics, ports, rfl, ?_⟩
    intro k
    split
    . next hk => rw [hk, hnic]
    . rfl
  | cons r resp ih =>
    rw [List.forall_mem_cons] at hresp
    have hset : setPorts nics r
        = some (nics.insert id { nic with ports := newPorts r.2 }) := by
      unfold setPorts
      rw [hresp.1, hnic]
      rfl
    have hinsert : (nics.insert id { nic with ports := newPorts r.2 }).lookup id
        = some { nic with ports := newPorts r.2 } := AList.lookup_insert nics
    rcases ih hresp.2 hinsert with ⟨nics', ports', hfold, hlookup⟩
    refine ⟨nics', ports', ?_, ?_⟩
    . rw [List.foldlM_cons, hset]
      exact hfold
    . intro k
      rw [hlookup, GoMap.lookup_insert_eq_ite]
      split
      . rfl
      . rfl

theorem addCard_spec (nics : GoMap String NIC) {card : CardInfo} (i : Nat)
    (hport : ∀ resp, cmds.showPort card.id = .ok resp → ∀ r ∈ resp, r.1 = card.id)
    : ∃ nics' nic, cmds.addCard nics (card, i) = some nics'
      ∧ (∃ ports, nic = { newNIC card i with ports := ports })
      ∧ ∀ k, nics'.lookup k = if k = card.id then some nic else nics.lookup k := by
  have hinsert : (nics.insert card.id (newNIC card i)).lookup card.id
      = some { newNIC card i with ports := ∅ } := AList.lookup_insert nics
  unfold addCard
  cases hshow : cmds.showPort card.id with
  | error _ =>
    refine ⟨_, newNIC card i, rfl, ⟨∅, rfl⟩, ?_⟩
    intro k
    rw [GoMap.lookup_insert_eq_ite]
  | ok resp =>
    rcases setPorts_loop (hport resp hshow) hinsert with ⟨nics', ports, hfold, hlookup⟩
    refine ⟨nics', _, hfold, ⟨ports, rfl⟩, ?_⟩
    intro k
    rw [hlookup, GoMap.lookup_insert_eq_ite]
    split
    . rfl
    . rfl

theorem addLifs_spec {nics : GoMap String NIC} {card : CardInfo} {lifs : List LifInfo}
    (hlif : cmds.showLif card.id = .ok [(card.id, lifs)]) {nic : NIC}
    (hnic : nics.lookup card.id = some nic)
    : ∃ nics', cmds.addLifs nics card = some nics'
      ∧ ∀ k, nics'.lookup k
        = if k = card.id then some (lifs.zipIdx.foldl cmds.addLif { nic with lifs := ∅ })
          else nics.lookup k := by
  refine ⟨_, ?_, fun k => GoMap.lookup_insert_eq_ite nics k card.id _⟩
  unfold addLifs
  rw [hlif]
  dsimp only
  rw [List.foldlM_cons, setLifs, hnic]
  rfl

theorem foldl_addLif (xs : List (LifInfo × Nat)) (nic : NIC)
    : (xs.foldl cmds.addLif nic).lifs = nic.lifs.insertEach xs (·.1.id) (cmds.lifOf nic.ethBDF) := by
  induction xs generalizing nic with
  | nil => rfl
  | cons x xs ih =>
    rcases addLif_eq nic x with ⟨sriov, heq⟩
    rw [List.foldl_cons, ih, heq]
    rfl

variable {cards : List CardInfo} {lifs : CardInfo → List LifInfo}

theorem Inventory.addCards (h : cmds.Inventory cards lifs)
    : ∃ nics, cards.zipIdx.foldlM cmds.addCard ∅ = some nics
      ∧ (∀ card ∈ cards, ∃ nic, nics.lookup card.id = some nic ∧ nic.ethBDF = card.ethBDF)
      ∧ ∀ id, id ∉ cards.map (·.id) → nics.lookup id = none := by
  have hkeys : cards.zipIdx.map (fun x => x.1.id) = cards.map (·.id) := by
    rw [← List.zipIdx_map_fst 0 cards, List.map_map]
    simp [Function.comp_def]
  have hnodup : (cards.zipIdx.map fun x => x.1.id).Nodup := by
    rw [hkeys]
    exact h.nodup_cards
  have hstep : ∀ x ∈ cards.zipIdx, ∀ nics : GoMap String NIC,
      nics.lookup x.1.id = (∅ : GoMap String NIC).lookup x.1.id →
      ∃ nics' nic, cmds.addCard nics x = some nics' ∧ nic.ethBDF = x.1.ethBDF
        ∧ ∀ k, nics'.lookup k = if k = x.1.id then some nic else nics.lookup k := by
    intro x hx nics _
    have hcard : x.1 ∈ cards :=
      List.mem_of_getElem? (List.mk_mem_zipIdx_iff_getElem?.mp hx)
    rcases addCard_spec nics x.2 (h.showPort x.1 hcard)
      with ⟨nics', nic, hadd, ⟨ports, rfl⟩, hlookup⟩
    exact ⟨nics', _, hadd, rfl, hlookup⟩
  rcases foldlM_keyed (R := fun x (nic : NIC) => nic.ethBDF = x.1.ethBDF) hstep hnodup fun _ _ => rfl
    with ⟨nics, hfold, hset, hframe⟩
  refine ⟨nics, hfold, ?_, ?_⟩
  . intro card hcard
    rcases List.getElem?_of_mem hcard with ⟨i, hi⟩
    exact hset (card, i) (List.mk_mem_zipIdx_iff_getElem?.mpr hi)
  . intro id hid
    rw [← hkeys] at hid
    exact hframe id hid

theorem Inventory.getNICs (h : cmds.Inventory cards lifs)
    : ∃ nics, cmds.getNICs = some (.ok nics)
      ∧ (∀ card ∈ cards, ∃ nic, nics.lookup card.id = some nic ∧ nic.lifs
          = GoMap.insertEach ∅ (lifs card).zipIdx (·.1.id) (cmds.lifOf card.ethBDF))
      ∧ ∀ id, id ∉ cards.map (·.id) → nics.lookup id = none := by
  rcases h.addCards with ⟨nics₁, hfold₁, hset₁, hframe₁⟩
  have hstep : ∀ card ∈ cards, ∀ nics : GoMap String NIC,
      nics.lookup card.id = nics₁.lookup card.id →
      ∃ nics' nic, cmds.addLifs nics card = some nics'
        ∧ nic.lifs = GoMap.insertEach ∅ (lifs card).zipIdx (·.1.id) (cmds.lifOf card.ethBDF)
        ∧ ∀ k, nics'.lookup k = if k = card.id then some nic else nics.lookup k := by
    intro card hcard nics hnics
    rcases hset₁ card hcard with ⟨nic, hnic, hbdf⟩
    rw [hnic] at hnics
    rcases addLifs_spec (h.showLif card hcard) hnics with ⟨nics', hadd, hlookup⟩
    refine ⟨nics', _, hadd, ?_, hlookup⟩
    rw [foldl_addLif, ← hbdf]
  rcases foldlM_keyed (R := fun card (nic : NIC) => nic.lifs
      = GoMap.insertEach ∅ (lifs card).zipIdx (·.1.id) (cmds.lifOf card.ethBDF))
    hstep h.nodup_cards fun _ _ => rfl with ⟨nics, hfold, hset, hframe⟩
  refine ⟨nics, ?_, hset, ?_⟩
  . unfold Commands.getNICs
    rw [h.showCard]
    dsimp only
    rw [hfold₁, Option.bind_eq_bind, Option.bind_some, hfold]
    rfl
  . intro id hid
    rw [hframe id hid, hframe₁ id hid]

end Cards

end Commands

end NICAgent
