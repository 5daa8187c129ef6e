import DeviceMetricsExporter.Rocprofiler.Lemmas.Packing
import Mathlib.Algebra.Order.Ring.Rat
import Mathlib.Data.List.Dedup

/-!
This module contains what the sampler reports if a counter is asked for more than once: the records of
the counter are summed up once for each time that it is in a profile.
-/

namespace Rocprofiler

namespace Agent

variable (agent : Agent)

def ProfileSetOf (counters : List String) (profiles : List Profile) : Prop :=
  ∀ n, counters.length < n → agent.createProfilesForCounters n counters = some profiles

theorem exists_profileSetOf (counters : List String)
    : ∃ profiles, agent.Packed counters profiles ∧ agent.ProfileSetOf counters profiles :=
  (PackInv.init agent counters).go

theorem foldl_tryCounter_filter (names : List String) (r : ProfileRound)
    : (names.filter agent.Supported).foldl agent.tryCounter r = names.foldl agent.tryCounter r := by
  induction names generalizing r with
  | nil => rfl
  | cons name names ih =>
    by_cases h : agent.Supported name
    . rw [List.filter_cons_of_pos (by simpa using h), List.foldl_cons, List.foldl_cons, ih]
    . rw [List.filter_cons_of_neg (by simpa using h), List.foldl_cons, ih,
        tryCounter_of_not_supported h]

variable {agent}

theorem go_of_not_supported {n : Nat} {remaining : List String} {profiles : List Profile}
    (h : remaining.filter agent.Supported = []) (hn : remaining.length < n)
    : createProfilesForCounters.go agent n remaining profiles = some profiles := by
  have hround : agent.round remaining = {} := by
    rw [round, ← foldl_tryCounter_filter, h]
    rfl
  rcases n with _ | _ | n
  . omega
  . have hnil : remaining = [] := List.length_eq_zero_iff.mp (by omega)
    rw [hnil]
    apply go_of_nil
  . apply go_of_round_nil
    rw [hround]

theorem createProfilesForCounters_filter {n : Nat} {counters : List String} (hn : counters.length < n)
    : agent.createProfilesForCounters n (counters.filter agent.Supported)
      = agent.createProfilesForCounters n counters := by
  unfold createProfilesForCounters
  rcases n with _ | n
  . omega
  . by_cases hfilter : counters.filter agent.Supported = []
    . rw [go_of_not_supported hfilter hn, hfilter]
      apply go_of_nil
    . have hcounters : counters ≠ [] := by
        intro hnil
        rw [hnil] at hfilter
        exact hfilter rfl
      have hround : agent.round (counters.filter agent.Supported) = agent.round counters :=
        agent.foldl_tryCounter_filter counters {}
      unfold createProfilesForCounters.go
      rw [if_neg hfilter, if_neg hcounters, hround]

theorem ProfileSetOf.congr {counters counters' : List String} {profiles profiles' : List Profile}
    (h : agent.ProfileSetOf counters profiles) (h' : agent.ProfileSetOf counters' profiles')
    (hfilter : counters.filter agent.Supported = counters'.filter agent.Supported)
    : profiles = profiles' := by
  let n := counters.length + counters'.length + 1
  have hcounters := h n (by omega)
  have hcounters' := h' n (by omega)
  rw [← createProfilesForCounters_filter (by omega)] at hcounters hcounters'
  rw [hfilter, hcounters'] at hcounters
  cases hcounters
  rfl

end Agent

abbrev sorted (counters : List String) : List String :=
  counters.insertionSort (· ≤ ·)

theorem sorted_filter_eq_of_perm {p : String → Bool} {counters counters' : List String}
    (h : (counters.filter p).Perm (counters'.filter p))
    : (sorted counters).filter p = (sorted counters').filter p := by
  have hsorted (names : List String) : ((sorted names).filter p).Pairwise (· ≤ ·) :=
    (List.pairwise_insertionSort (· ≤ ·) names).filter p
  have hperm (names : List String) : ((sorted names).filter p).Perm (names.filter p) :=
    (List.perm_insertionSort (· ≤ ·) names).filter p
  apply List.Perm.eq_of_pairwise' (hsorted counters) (hsorted counters')
  exact (hperm counters).trans (h.trans (hperm counters').symm)

theorem filter_perm_filter_dedup {p : String → Bool} {counters : List String}
    (h : ∀ name, p name → counters.count name ≤ 1)
    : (counters.filter p).Perm (counters.dedup.filter p) := by
  rw [List.perm_iff_count]
  intro name
  by_cases hname : p name
  . have hle := h name hname
    rw [List.count_filter hname, List.count_filter hname, List.count_dedup]
    split
    . next hmem =>
      have := List.count_pos_iff.mpr hmem
      omega
    . next hmem => exact List.count_eq_zero.mpr hmem
  . have hzero (names : List String) : (names.filter p).count name = 0 := by
      apply List.count_eq_zero.mpr
      intro hmem
      exact hname (List.mem_filter.mp hmem).2
    rw [hzero, hzero]

namespace Hardware

variable (hw : Hardware)

def CacheOk (cachedProfileSets : ProfileSets) : Prop :=
  ∀ counters profiles, cachedProfileSets.lookup counters = some profiles →
    hw.agent.ProfileSetOf counters profiles

def valuesOf (profiles : List Profile) : SampledValues :=
  Accumulate.addAll (profiles.flatMap hw.sample)

theorem lookup_valuesOf (profiles : List Profile) (name : String)
    : (hw.valuesOf profiles).lookup name
      = if Agent.placed profiles name = 0 ∨ hw.records name = [] then
          none
        else
          some (Agent.placed profiles name • (hw.records name).sum) := by
  have hperm := List.Perm.flatMap_left profiles fun profile _ => hw.sample_perm profile
  rw [← List.flatMap_assoc] at hperm
  rw [valuesOf, Accumulate.lookup_addAll_of_perm hperm, Accumulate.lookup_addAll_flatMap]
  rfl

variable {hw}

theorem cacheOk_empty : hw.CacheOk ∅ := by
  intro counters profiles hlookup
  simp at hlookup

theorem CacheOk.insert {cachedProfileSets : ProfileSets} (h : hw.CacheOk cachedProfileSets)
    {counters : List String} {profiles : List Profile} (hprofiles : hw.agent.ProfileSetOf counters profiles)
    : hw.CacheOk (cachedProfileSets.insert counters profiles) := by
  intro key set hlookup
  by_cases hkey : key = counters
  . subst hkey
    rw [AList.lookup_insert] at hlookup
    cases hlookup
    exact hprofiles
  . rw [AList.lookup_insert_ne hkey] at hlookup
    exact h key set hlookup

theorem CacheOk.createProfileSet {cachedProfileSets : ProfileSets} {counters : List String}
    {profiles : List Profile} (hprofiles : hw.agent.ProfileSetOf counters profiles)
    : hw.createProfileSet cachedProfileSets counters
      = some (cachedProfileSets.insert counters profiles) := by
  unfold Hardware.createProfileSet
  rw [hprofiles (counters.length + 1) (by omega)]
  rfl

theorem CacheOk.sampleCountersWithPacking {cachedProfileSets : ProfileSets}
    (h : hw.CacheOk cachedProfileSets) {counters : List String} {profiles : List Profile}
    (hprofiles : hw.agent.ProfileSetOf (sorted counters) profiles)
    : ∃ cachedProfileSets', hw.CacheOk cachedProfileSets'
      ∧ hw.sampleCountersWithPacking cachedProfileSets counters
        = some (hw.valuesOf profiles, cachedProfileSets') := by
  cases hlookup : cachedProfileSets.lookup (sorted counters) with
  | some cached =>
    have hcached : cached = profiles :=
      (h _ _ hlookup).congr hprofiles rfl
    refine ⟨cachedProfileSets, h, ?_⟩
    simp [Hardware.sampleCountersWithPacking, hlookup, hcached, valuesOf]
  | none =>
    refine ⟨cachedProfileSets.insert (sorted counters) profiles, h.insert hprofiles, ?_⟩
    simp [Hardware.sampleCountersWithPacking, hlookup, createProfileSet hprofiles, valuesOf]

theorem CacheOk.step {cachedProfileSets cachedProfileSets' : ProfileSets}
    (h : hw.CacheOk cachedProfileSets) {counters : List String}
    (hstep : hw.samplerSystem.step cachedProfileSets counters = some cachedProfileSets')
    : hw.CacheOk cachedProfileSets' := by
  rcases hw.agent.exists_profileSetOf (sorted counters) with ⟨profiles, -, hprofiles⟩
  rcases h.sampleCountersWithPacking hprofiles with ⟨cached, hcached, hsample⟩
  simp only [samplerSystem, hsample, Option.map_some, Option.some.injEq] at hstep
  subst hstep
  exact hcached

theorem cacheOk_of_reaches {cachedProfileSets : ProfileSets}
    (h : hw.samplerSystem.Reaches ∅ cachedProfileSets) : hw.CacheOk cachedProfileSets := by
  rcases h with ⟨calls, hexec⟩
  apply TransitionSystem.exec_invariant _ _ calls _ _ cacheOk_empty
    (TransitionSystem.respects_true _ calls ∅) hexec
  intro s counters s' hs _ hstep
  exact hs.step hstep

variable (hw)

/--
The sampler reports the same for a list of counters and for the list without duplicates, whatever it
has been called with before.
-/
def SameValues (counters : List String) : Prop :=
  ∀ cachedProfileSets, hw.samplerSystem.Reaches ∅ cachedProfileSets →
    ∃ values values',
      (hw.sampleCountersWithPacking cachedProfileSets counters).map Prod.fst = some values
        ∧ (hw.sampleCountersWithPacking cachedProfileSets counters.dedup).map Prod.fst = some values'
        ∧ ∀ name, values.lookup name = values'.lookup name

variable {hw}

theorem sameValues_iff {counters : List String} {profiles profiles' : List Profile}
    (h : hw.agent.ProfileSetOf (sorted counters) profiles)
    (h' : hw.agent.ProfileSetOf (sorted counters.dedup) profiles')
    : hw.SameValues counters
      ↔ ∀ name, (hw.valuesOf profiles).lookup name = (hw.valuesOf profiles').lookup name := by
  constructor
  . intro hsame
    rcases hsame ∅ (.refl ∅) with ⟨values, values', hvalues, hvalues', hlookup⟩
    rcases cacheOk_empty.sampleCountersWithPacking h with ⟨_, -, hsample⟩
    rcases cacheOk_empty.sampleCountersWithPacking h' with ⟨_, -, hsample'⟩
    rw [hsample] at hvalues
    rw [hsample'] at hvalues'
    cases hvalues
    cases hvalues'
    exact hlookup
  . intro hlookup cached hreaches
    have hcached := cacheOk_of_reaches hreaches
    rcases hcached.sampleCountersWithPacking h with ⟨_, -, hsample⟩
    rcases hcached.sampleCountersWithPacking h' with ⟨_, -, hsample'⟩
    rw [hsample, hsample']
    exact ⟨_, _, rfl, rfl, hlookup⟩

theorem sameValues_of_count_le {counters : List String}
    (h : ∀ name, hw.agent.Supported name → counters.count name ≤ 1) : hw.SameValues counters := by
  rcases hw.agent.exists_profileSetOf (sorted counters) with ⟨profiles, -, hprofiles⟩
  rcases hw.agent.exists_profileSetOf (sorted counters.dedup) with ⟨profiles', -, hprofiles'⟩
  have hfilter : (sorted counters).filter hw.agent.Supported
      = (sorted counters.dedup).filter hw.agent.Supported := by
    apply sorted_filter_eq_of_perm
    apply filter_perm_filter_dedup
    intro name hname
    exact h name (by simpa using hname)
  rw [sameValues_iff hprofiles hprofiles', hprofiles.congr hprofiles' hfilter]
  intro name
  rfl

theorem placed_eq_count {counters : List String} {profiles : List Profile}
    (halone : ∀ name ∈ counters, hw.agent.Supported name → hw.agent.Accepts [name])
    (hpacked : hw.agent.Packed (sorted counters) profiles) {name : String}
    (hname : hw.agent.Supported name) : Agent.placed profiles name = counters.count name := by
  have hcount : (sorted counters).count name = counters.count name :=
    (List.perm_insertionSort (· ≤ ·) counters).count_eq name
  by_cases hmem : name ∈ counters
  . rw [hpacked.placed_eq name hname (halone name hmem hname), hcount]
  . have hzero := List.count_eq_zero.mpr hmem
    have hle := hpacked.placed_le name
    omega

theorem nsmul_eq_one_nsmul_iff {n : Nat} (hn : 0 < n) (q : ℚ) : n • q = 1 • q ↔ (2 ≤ n → q = 0) := by
  obtain ⟨m, rfl⟩ := Nat.exists_eq_succ_of_ne_zero (Nat.pos_iff_ne_zero.mp hn)
  rw [succ_nsmul, one_nsmul, add_eq_right]
  rcases m with _ | m
  . simp
  . have hcast : ((m + 1 : Nat) : ℚ) ≠ 0 := Nat.cast_ne_zero.mpr (by omega)
    rw [nsmul_eq_mul, mul_eq_zero_iff_left hcast]
    constructor
    . intro hq _
      exact hq
    . intro hq
      apply hq
      omega

theorem count_dedup_of_mem {counters : List String} {name : String} (h : name ∈ counters)
    : counters.dedup.count name = 1 :=
  List.count_eq_one_of_mem (List.nodup_dedup counters) (List.mem_dedup.mpr h)

/--
A library that takes each counter alone leaves out none, so a counter that is asked for twice counts
twice.
-/
theorem sameValues_iff_sum {counters : List String}
    (halone : ∀ name ∈ counters, hw.agent.Supported name → hw.agent.Accepts [name])
    : hw.SameValues counters
      ↔ ∀ name, hw.agent.Supported name → 2 ≤ counters.count name → (hw.records name).sum = 0 := by
  rcases hw.agent.exists_profileSetOf (sorted counters) with ⟨profiles, hpacked, hprofiles⟩
  rcases hw.agent.exists_profileSetOf (sorted counters.dedup) with ⟨profiles', hpacked', hprofiles'⟩
  have halone' : ∀ name ∈ counters.dedup, hw.agent.Supported name → hw.agent.Accepts [name] := by
    intro name hname
    exact halone name (List.mem_dedup.mp hname)
  rw [sameValues_iff hprofiles hprofiles']
  apply forall_congr'
  intro name
  rw [lookup_valuesOf, lookup_valuesOf]
  by_cases hname : hw.agent.Supported name
  . rw [placed_eq_count halone hpacked hname, placed_eq_count halone' hpacked' hname]
    by_cases hmem : name ∈ counters
    . have hpos := List.count_pos_iff.mpr hmem
      rw [count_dedup_of_mem hmem]
      by_cases hrecords : hw.records name = []
      . simp [hrecords]
      . have hzero : counters.count name ≠ 0 := by omega
        simp only [hrecords, hzero, Nat.one_ne_zero, or_self, if_false, Option.some.injEq, hname,
          forall_const]
        apply nsmul_eq_one_nsmul_iff hpos
    . have hmem' : name ∉ counters.dedup := fun h => hmem (List.mem_dedup.mp h)
      simp [List.count_eq_zero.mpr hmem, List.count_eq_zero.mpr hmem']
  . rw [Agent.placed_of_not_supported hpacked.profileOk hname,
      Agent.placed_of_not_supported hpacked'.profileOk hname]
    simp [hname]

end Hardware

def Hardware.ones (supportedCounters : AList fun _ : String => UInt64) : Hardware where
  agent :=
    { supportedCounters
      getCounterSize := fun _ => 1
      createCounterConfig := fun _ => (.success, 1)
      handle_ne_zero := by
        intro _ _
        decide }
  records := fun _ => [1]
  sample := fun profile => profile.counterNames.flatMap fun name => [(name, 1)]
  sample_perm := fun _ => .refl _

/--
The sampler may be asked for this list on all hardware with these counters.
-/
def DuplicatesUnchanged (supportedCounters : AList fun _ : String => UInt64)
    (counters : List String) : Prop :=
  ∀ hw : Hardware, hw.agent.supportedCounters = supportedCounters → hw.SameValues counters

theorem duplicatesUnchanged_iff (supportedCounters : AList fun _ : String => UInt64)
    (counters : List String)
    : DuplicatesUnchanged supportedCounters counters
      ↔ ∀ name, (supportedCounters.lookup name).isSome → counters.count name ≤ 1 := by
  constructor
  . intro h name hname
    let hw := Hardware.ones supportedCounters
    have halone : ∀ name ∈ counters, hw.agent.Supported name → hw.agent.Accepts [name] := by
      intro _ _ _
      rfl
    have hsame : hw.SameValues counters := h hw rfl
    rw [Hardware.sameValues_iff_sum halone] at hsame
    by_contra htwice
    have hsum := hsame name hname (by omega)
    simp [hw, Hardware.ones] at hsum
  . intro h hw hsupported
    apply Hardware.sameValues_of_count_le
    intro name hname
    rw [Agent.Supported, hsupported] at hname
    exact h name hname

end Rocprofiler
