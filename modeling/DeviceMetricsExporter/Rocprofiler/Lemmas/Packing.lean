import DeviceMetricsExporter.Rocprofiler.Impl.Sampler

/-!
This module contains the packing of counters into profiles: the loop ends, the profiles are those that
the library has made, and a counter that the library takes alone is in as many of them as asked for.
-/

namespace Rocprofiler

namespace Agent

variable (agent : Agent)

def Supported (name : String) : Prop :=
  (agent.supportedCounters.lookup name).isSome

instance (name : String) : Decidable (agent.Supported name) :=
  inferInstanceAs (Decidable (_ = true))

def Accepts (names : List String) : Prop :=
  (agent.createCounterConfig (agent.gpuCounters names)).1 = .success

/--
The config and the size of a profile are those of its counters, in the order of the profile.
-/
def Made (profile : Profile) : Prop :=
  ∃ ids, profile.counterNames.map agent.supportedCounters.lookup = ids.map some
    ∧ agent.createCounterConfig ids = (.success, profile.config)
    ∧ profile.expectedSize = (ids.map agent.getCounterSize).foldl (· + ·) 0

/--
The last valid config is the one of the current list, and of the counters that have been tried none is
lost. While the list is empty, the counters that failed have failed alone.
-/
structure RoundInv (tried : List String) (r : ProfileRound) : Prop where
  count : ∀ name, agent.Supported name →
    r.currentProfileCounters.count name + r.failedCounters.count name = tried.count name
  supported : ∀ name ∈ r.currentProfileCounters, agent.Supported name
  length_le : r.currentProfileCounters.length ≤ maxCounterPerProfile
  length_add_le : r.currentProfileCounters.length + r.failedCounters.length ≤ tried.length
  config : r.currentProfileCounters ≠ [] →
    agent.createCounterConfig (agent.gpuCounters r.currentProfileCounters)
      = (.success, r.lastValidConfig)
  size : r.currentProfileCounters ≠ [] →
    r.lastValidSize = agent.expectedSize r.currentProfileCounters
  alone : r.currentProfileCounters = [] → ∀ name ∈ r.failedCounters, ¬agent.Accepts [name]

variable {agent}

theorem tryCounter_of_not_supported {name : String} (h : ¬agent.Supported name) (r : ProfileRound)
    : agent.tryCounter r name = r := by
  have hnone : (agent.supportedCounters.lookup name).isNone := by
    simpa [Supported] using h
  unfold tryCounter
  rw [if_pos hnone]

theorem tryCounter_of_supported {name : String} (h : agent.Supported name) (r : ProfileRound)
    : (agent.tryCounter r name = { r with failedCounters := r.failedCounters ++ [name] }
        ∧ (agent.Accepts (r.currentProfileCounters ++ [name]) →
          maxCounterPerProfile < (r.currentProfileCounters ++ [name]).length))
      ∨ ((r.currentProfileCounters ++ [name]).length ≤ maxCounterPerProfile
        ∧ ∃ config,
          agent.createCounterConfig (agent.gpuCounters (r.currentProfileCounters ++ [name]))
              = (.success, config)
            ∧ agent.tryCounter r name =
              { r with
                currentProfileCounters := r.currentProfileCounters ++ [name]
                lastValidConfig := config
                lastValidSize := agent.expectedSize (r.currentProfileCounters ++ [name]) }) := by
  have hsome : ¬(agent.supportedCounters.lookup name).isNone := by
    rw [Option.isNone_iff_eq_none]
    intro hnone
    rw [Supported, hnone] at h
    cases h
  rcases hcreate : agent.createCounterConfig (agent.gpuCounters (r.currentProfileCounters ++ [name]))
    with ⟨status, config⟩
  unfold tryCounter
  rw [if_neg hsome]
  simp only [hcreate, Accepts]
  split
  . next hlimit =>
    left
    refine ⟨rfl, ?_⟩
    intro hsuccess
    rcases hlimit with hlimit | hlimit
    . rw [hlimit] at hsuccess
      cases hsuccess
    . exact hlimit
  . next hlimit =>
    rw [not_or, not_lt] at hlimit
    split
    . next hsuccess =>
      right
      exact ⟨hlimit.2, config, by rw [hsuccess], rfl⟩
    . next hsuccess =>
      left
      exact ⟨rfl, fun h => absurd h hsuccess⟩

theorem RoundInv.init : agent.RoundInv [] {} := by
  constructor <;> simp

section Step

variable {tried : List String} {r : ProfileRound} (h : agent.RoundInv tried r) {name : String}

include h

theorem RoundInv.skip (hname : ¬agent.Supported name) : agent.RoundInv (tried ++ [name]) r := by
  have hlen := h.length_add_le
  constructor
  . intro other hother
    have hne : name ≠ other := by
      intro heq
      rw [heq] at hname
      exact hname hother
    rw [List.count_append, List.count_singleton, if_neg (by simpa using hne)]
    exact h.count other hother
  . exact h.supported
  . exact h.length_le
  . simp only [List.length_append]
    omega
  . exact h.config
  . exact h.size
  . exact h.alone

theorem RoundInv.fail
    (hreject : agent.Accepts (r.currentProfileCounters ++ [name]) →
      maxCounterPerProfile < (r.currentProfileCounters ++ [name]).length)
    : agent.RoundInv (tried ++ [name]) { r with failedCounters := r.failedCounters ++ [name] } := by
  have hlen := h.length_add_le
  constructor
  . intro other hother
    have := h.count other hother
    simp only [List.count_append]
    omega
  . exact h.supported
  . exact h.length_le
  . simp only [List.length_append, List.length_singleton]
    omega
  . exact h.config
  . exact h.size
  . intro hnil other hother hacc
    simp only at hnil
    rcases List.mem_append.mp hother with hother | hother
    . exact h.alone hnil other hother hacc
    . rw [List.mem_singleton.mp hother] at hacc
      rw [hnil] at hreject
      have := hreject hacc
      simp [maxCounterPerProfile] at this

theorem RoundInv.place (hname : agent.Supported name)
    (hle : (r.currentProfileCounters ++ [name]).length ≤ maxCounterPerProfile) {config : UInt64}
    (hconfig : agent.createCounterConfig (agent.gpuCounters (r.currentProfileCounters ++ [name]))
      = (.success, config))
    : agent.RoundInv (tried ++ [name])
      { r with
        currentProfileCounters := r.currentProfileCounters ++ [name]
        lastValidConfig := config
        lastValidSize := agent.expectedSize (r.currentProfileCounters ++ [name]) } := by
  have hlen := h.length_add_le
  constructor
  . intro other hother
    have := h.count other hother
    simp only [List.count_append]
    omega
  . intro other hother
    rcases List.mem_append.mp hother with hother | hother
    . exact h.supported other hother
    . rw [List.mem_singleton.mp hother]
      exact hname
  . exact hle
  . simp only [List.length_append, List.length_singleton]
    omega
  . intro _
    exact hconfig
  . intro _
    rfl
  . intro hnil
    simp at hnil

variable (name) in
theorem RoundInv.tryCounter : agent.RoundInv (tried ++ [name]) (agent.tryCounter r name) := by
  by_cases hname : agent.Supported name
  . rcases tryCounter_of_supported hname r with ⟨heq, hreject⟩ | ⟨hle, config, hconfig, heq⟩
    . rw [heq]
      exact h.fail hreject
    . rw [heq]
      exact h.place hname hle hconfig
  . rw [tryCounter_of_not_supported hname]
    exact h.skip hname

end Step

theorem RoundInv.foldl {tried : List String} {r : ProfileRound} (h : agent.RoundInv tried r)
    (names : List String) : agent.RoundInv (tried ++ names) (names.foldl agent.tryCounter r) := by
  induction names generalizing tried r with
  | nil => simpa using h
  | cons name names ih =>
    have := ih (h.tryCounter name)
    simpa using this

variable (agent) in
theorem roundInv (names : List String) : agent.RoundInv names (agent.round names) := by
  have hinit : agent.RoundInv [] {} := .init
  have := hinit.foldl names
  rw [List.nil_append] at this
  exact this

theorem map_lookup_eq_map_gpuCounters {names : List String} (h : ∀ name ∈ names, agent.Supported name)
    : names.map agent.supportedCounters.lookup = (agent.gpuCounters names).map some := by
  induction names with
  | nil => rfl
  | cons name names ih =>
    rcases Option.isSome_iff_exists.mp (h name List.mem_cons_self) with ⟨id, hid⟩
    have htail := ih fun other hother => h other (List.mem_cons_of_mem name hother)
    have hcons : agent.gpuCounters (name :: names) = id :: agent.gpuCounters names :=
      List.filterMap_cons_some hid
    rw [hcons, List.map_cons, List.map_cons, hid, htail]

theorem RoundInv.made {tried : List String} {r : ProfileRound} (h : agent.RoundInv tried r)
    (hne : r.currentProfileCounters ≠ [])
    : agent.Made ⟨r.lastValidConfig, r.currentProfileCounters, r.lastValidSize⟩ :=
  ⟨agent.gpuCounters r.currentProfileCounters, map_lookup_eq_map_gpuCounters h.supported,
    h.config hne, h.size hne⟩

def placed (profiles : List Profile) (name : String) : Nat :=
  (profiles.flatMap Profile.counterNames).count name

variable (agent)

structure ProfileOk (profile : Profile) : Prop where
  nonempty : profile.counterNames ≠ []
  length_le : profile.counterNames.length ≤ maxCounterPerProfile
  supported : ∀ name ∈ profile.counterNames, agent.Supported name
  made : agent.Made profile

/--
Between two rounds a supported counter is in the profiles or remains.
-/
structure PackInv (counters remaining : List String) (profiles : List Profile) : Prop where
  profileOk : ∀ profile ∈ profiles, agent.ProfileOk profile
  count : ∀ name, agent.Supported name →
    placed profiles name + remaining.count name = counters.count name

structure Packed (counters : List String) (profiles : List Profile) : Prop where
  profileOk : ∀ profile ∈ profiles, agent.ProfileOk profile
  placed_le : ∀ name, placed profiles name ≤ counters.count name
  placed_eq : ∀ name, agent.Supported name → agent.Accepts [name] →
    placed profiles name = counters.count name

variable {agent}

theorem placed_append (profiles : List Profile) (profile : Profile) (name : String)
    : placed (profiles ++ [profile]) name
      = placed profiles name + profile.counterNames.count name := by
  simp [placed]

theorem placed_of_not_supported {profiles : List Profile}
    (h : ∀ profile ∈ profiles, agent.ProfileOk profile) {name : String} (hname : ¬agent.Supported name)
    : placed profiles name = 0 := by
  apply List.count_eq_zero.mpr
  intro hmem
  rcases List.mem_flatMap.mp hmem with ⟨profile, hprofile, hcounter⟩
  exact hname ((h profile hprofile).supported name hcounter)

theorem RoundInv.save_eq {tried : List String} {r : ProfileRound} (h : agent.RoundInv tried r)
    (hne : r.currentProfileCounters ≠ []) (profiles : List Profile)
    : ProfileRound.save r profiles
      = profiles ++ [⟨r.lastValidConfig, r.currentProfileCounters, r.lastValidSize⟩] := by
  have hconfig := h.config hne
  have hhandle := agent.handle_ne_zero (agent.gpuCounters r.currentProfileCounters)
  rw [hconfig] at hhandle
  unfold ProfileRound.save
  rw [if_pos ⟨hne, hhandle rfl⟩]

theorem save_of_nil {r : ProfileRound} (h : r.currentProfileCounters = []) (profiles : List Profile)
    : ProfileRound.save r profiles = profiles := by
  unfold ProfileRound.save
  rw [if_neg]
  intro hsave
  exact hsave.1 h

theorem PackInv.round {counters remaining : List String} {profiles : List Profile}
    (h : agent.PackInv counters remaining profiles)
    (hne : (agent.round remaining).currentProfileCounters ≠ [])
    : agent.PackInv counters (agent.round remaining).failedCounters
      (ProfileRound.save (agent.round remaining) profiles) := by
  have hround := roundInv agent remaining
  rw [hround.save_eq hne]
  constructor
  . intro profile hprofile
    rcases List.mem_append.mp hprofile with hprofile | hprofile
    . exact h.profileOk profile hprofile
    . rw [List.mem_singleton.mp hprofile]
      exact ⟨hne, hround.length_le, hround.supported, hround.made hne⟩
  . intro name hname
    have hcount := h.count name hname
    have hsplit := hround.count name hname
    rw [placed_append]
    dsimp only
    omega

theorem PackInv.packed {counters remaining : List String} {profiles : List Profile}
    (h : agent.PackInv counters remaining profiles)
    (hrejected : ∀ name, agent.Supported name → agent.Accepts [name] → remaining.count name = 0)
    : agent.Packed counters profiles := by
  constructor
  . exact h.profileOk
  . intro name
    by_cases hname : agent.Supported name
    . have := h.count name hname
      omega
    . rw [placed_of_not_supported h.profileOk hname]
      apply Nat.zero_le
  . intro name hname hacc
    have hcount := h.count name hname
    have hzero := hrejected name hname hacc
    omega

theorem PackInv.packed_of_nil {counters remaining : List String} {profiles : List Profile}
    (h : agent.PackInv counters remaining profiles)
    (hnil : (agent.round remaining).currentProfileCounters = [])
    : agent.Packed counters profiles := by
  apply h.packed
  intro name hname hacc
  have hround := roundInv agent remaining
  have hsplit := hround.count name hname
  have hfailed : (agent.round remaining).failedCounters.count name = 0 := by
    apply List.count_eq_zero.mpr
    intro hmem
    exact hround.alone hnil name hmem hacc
  rw [hnil, hfailed] at hsplit
  exact hsplit.symm

/--
Every round but the last makes a profile, so it leaves fewer counters than it has got.
-/
theorem failedCounters_length_lt {remaining : List String}
    (hne : (agent.round remaining).currentProfileCounters ≠ [])
    : (agent.round remaining).failedCounters.length < remaining.length := by
  have hlen := (roundInv agent remaining).length_add_le
  have hpos := List.length_pos_iff.mpr hne
  omega

theorem go_of_nil (n : Nat) (profiles : List Profile)
    : createProfilesForCounters.go agent (n + 1) [] profiles = some profiles := by
  unfold createProfilesForCounters.go
  rw [if_pos rfl]

theorem go_of_round_nil {n : Nat} {remaining : List String} {profiles : List Profile}
    (hnil : (agent.round remaining).currentProfileCounters = [])
    : createProfilesForCounters.go agent (n + 2) remaining profiles = some profiles := by
  unfold createProfilesForCounters.go
  split
  . rfl
  . simp only [save_of_nil hnil]
    split
    . rfl
    . next hprogress =>
      have hfailed : (agent.round remaining).failedCounters = [] := by
        by_contra hfailed
        exact hprogress ⟨hnil, hfailed⟩
      rw [hfailed]
      apply go_of_nil

theorem go_of_round {n : Nat} {remaining : List String} {profiles : List Profile}
    (hremaining : remaining ≠ []) (hne : (agent.round remaining).currentProfileCounters ≠ [])
    : createProfilesForCounters.go agent (n + 1) remaining profiles
      = createProfilesForCounters.go agent n (agent.round remaining).failedCounters
          (ProfileRound.save (agent.round remaining) profiles) := by
  conv => lhs; unfold createProfilesForCounters.go
  rw [if_neg hremaining]
  dsimp only
  rw [if_neg]
  intro hstop
  exact hne hstop.1

/--
The loop ends with the profiles of the counters, and more rounds than it needs change nothing.
-/
theorem PackInv.go {counters remaining : List String} {profiles : List Profile}
    (h : agent.PackInv counters remaining profiles)
    : ∃ result, agent.Packed counters result ∧ ∀ n, remaining.length < n →
      createProfilesForCounters.go agent n remaining profiles = some result := by
  induction hlen : remaining.length using Nat.strong_induction_on generalizing remaining profiles with
  | _ length ih =>
    by_cases hnil : (agent.round remaining).currentProfileCounters = []
    . refine ⟨profiles, h.packed_of_nil hnil, ?_⟩
      intro n hn
      rcases n with _ | _ | n
      . omega
      . have hzero : remaining = [] := List.length_eq_zero_iff.mp (by omega)
        rw [hzero]
        apply go_of_nil
      . apply go_of_round_nil hnil
    . have hlt := failedCounters_length_lt hnil
      have hremaining : remaining ≠ [] := by
        intro heq
        rw [heq] at hlt
        simp at hlt
      rcases ih _ (by omega) (h.round hnil) rfl with ⟨result, hpacked, hresult⟩
      refine ⟨result, hpacked, ?_⟩
      intro n hn
      obtain ⟨m, rfl⟩ := Nat.exists_eq_add_of_lt hn
      rw [go_of_round hremaining hnil]
      apply hresult
      omega

variable (agent) in
theorem PackInv.init (counters : List String) : agent.PackInv counters counters [] := by
  constructor
  . intro profile hprofile
    cases hprofile
  . intro name _
    simp [placed]

section Instances

/--
Whatever the library accepts, the counters are packed after finitely many rounds.
-/
theorem createProfilesForCounters_packed (agent : Agent) (counters : List String)
    : ∃ profiles, agent.Packed counters profiles ∧ ∀ n, counters.length < n →
      agent.createProfilesForCounters n counters = some profiles :=
  (PackInv.init agent counters).go

end Instances

end Agent

end Rocprofiler
