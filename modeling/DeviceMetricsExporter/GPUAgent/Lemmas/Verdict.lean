import DeviceMetricsExporter.GPUAgent.Lemmas.Health

/-!
This module contains when a validation reports a GPU as unhealthy. The verdict is the one by the three
sources of evidence, except that an event with a malformed UUID counts against the GPU whose id is all
zeros.
-/

namespace GPUAgent

open Exporter GoMap GPUAgentGPUClient

/--
The evidence against a GPU: a counter over its threshold, a critical event that carries the id of the
GPU, or an actionable CPER record.
-/
def Evidence (ga : GPUAgentGPUClient) (time : Time) (cfg : HealthConfig) (data : HealthData)
    (gpu : GPU) : Prop :=
  (∃ stats, gpu.stats = some stats ∧ ∃ f : EccField,
      (f.threshold cfg.getHealthThreshholds).toNat
        < f.count ga (getGPUInstanceIDString gpu) stats)
    ∨ (∃ e ∈ acceptedEvents data.events, e.severity = .CRITICAL ∧ e.gpu = gpu.spec.id)
    ∨ cperActionable time cfg data (uuidString gpu.spec.id)

/--
The id of the GPU is all zeros and some critical event carries no UUID. `uuid.FromBytes` fails on such
an event, and the zero UUID it leaves behind is the one of the GPU.
-/
def Misattributed (data : HealthData) (gpu : GPU) : Prop :=
  gpu.spec.id = List.replicate 16 0 ∧
    ∃ e ∈ acceptedEvents data.events, e.severity = .CRITICAL ∧ e.gpu.length ≠ 16

structure VerdictsMatchEvidence (ga : GPUAgentGPUClient) (time : Time) (cfg : HealthConfig)
    (data : HealthData) (gpus : List GPU) (healthState : GoMap String GPUState) : Prop where
  keys : ∀ gpuid, gpuid ∈ healthState ↔ ∃ gpu ∈ gpus, getGPUInstanceIDString gpu = gpuid
  health : ∀ gpu ∈ gpus, ∀ state, healthState.lookup (getGPUInstanceIDString gpu) = some state →
    (state.health = .UNHEALTHY ↔ Evidence ga time cfg data gpu)

structure Distinct (gpus : List GPU) : Prop where
  size : ∀ gpu ∈ gpus, gpu.spec.id.length = 16
  ids : (gpus.map (·.spec.id)).Nodup
  indexes : (gpus.map (·.status.index)).Nodup

structure HealthConfig.AllChecks (cfg : HealthConfig) : Prop where
  enableSriov : cfg.enableSriov = false
  simEnabled : cfg.simEnabled = false
  eventsDisabled : cfg.eventsDisabled = false

theorem getGPUInstanceIDString_inj {gpu gpu' : GPU}
    (h : getGPUInstanceIDString gpu = getGPUInstanceIDString gpu')
    : gpu.status.index = gpu'.status.index := by
  have hdigits := congrArg String.toList h
  simp only [getGPUInstanceIDString, Nat.toList_repr] at hdigits
  have hvalue := congrArg (Nat.ofDigitChars 10 · 0) hdigits
  simp only [Nat.ofDigitChars_toDigits (b := 10) (by decide) (by decide)] at hvalue
  apply UInt32.toNat_inj.mp hvalue

theorem uuidString_inj {bytes bytes' : List UInt8} (hsize : bytes.length = 16)
    (hsize' : bytes'.length = 16) (h : uuidString bytes = uuidString bytes') : bytes = bytes' := by
  simp only [uuidString, UUID.fromBytes_of_length_eq hsize, UUID.fromBytes_of_length_eq hsize'] at h
  simpa using UUID.toString_injective h

theorem uuidString_of_length_ne {bytes : List UInt8} (hsize : bytes.length ≠ 16)
    : uuidString bytes = uuidString (List.replicate 16 0) := by
  rw [uuidString, uuidString, UUID.fromBytes_of_length_ne hsize, UUID.fromBytes_of_length_eq rfl]
  rfl

namespace Distinct

variable {gpus : List GPU} (hgpus : Distinct gpus)

include hgpus

theorem nodup_indexes : (gpus.map getGPUInstanceIDString).Nodup := by
  have := hgpus.indexes
  rw [List.nodup_iff_pairwise_ne, List.pairwise_map] at this ⊢
  apply this.imp fun hne h => hne (getGPUInstanceIDString_inj h)

theorem nodup_uuids : (gpus.map fun gpu => uuidString gpu.spec.id).Nodup := by
  have hids := hgpus.ids
  rw [List.nodup_iff_pairwise_ne, List.pairwise_map] at hids ⊢
  refine hids.imp_of_mem ?_
  intro gpu gpu' hgpu hgpu' hne h
  apply hne (uuidString_inj (hgpus.size gpu hgpu) (hgpus.size gpu' hgpu') h)

theorem eq_of_index {gpu gpu' : GPU} (hgpu : gpu ∈ gpus) (hgpu' : gpu' ∈ gpus)
    (h : getGPUInstanceIDString gpu = getGPUInstanceIDString gpu') : gpu = gpu' :=
  List.inj_on_of_nodup_map hgpus.nodup_indexes hgpu hgpu' h

theorem lookup_gpuUUIDMap {gpu : GPU} (hgpu : gpu ∈ gpus) (gpuuid : String)
    : (gpuUUIDMap gpus).lookup gpuuid = some (getGPUInstanceIDString gpu)
        ↔ gpuuid = uuidString gpu.spec.id := by
  unfold gpuUUIDMap
  rw [lookup_insertEach_empty, Option.map_eq_some_iff]
  constructor
  . rintro ⟨gpu', hgpu', hindex⟩
    have hmem := mem_of_lastWith _ hgpu'
    have heq := hgpus.eq_of_index hmem.1 hgpu hindex
    subst heq
    exact hmem.2.symm
  . intro h
    subst h
    exact ⟨gpu, lastWith_of_nodup (fun gpu : GPU => uuidString gpu.spec.id) hgpus.nodup_uuids hgpu,
      rfl⟩

end Distinct

section Validation

variable {time : Time} {cfg : HealthConfig} {data : HealthData} {resp : GPUGetResponse}
  (hgpus : Distinct resp.response) (hcfg : cfg.AllChecks)

include hgpus hcfg

variable (time data) in
theorem marked_iff {gpu : GPU} (hgpu : gpu ∈ resp.response)
    : Marked time cfg data resp.response (getGPUInstanceIDString gpu)
        ↔ (∃ e ∈ acceptedEvents data.events, e.severity = .CRITICAL ∧ e.gpu = gpu.spec.id)
          ∨ Misattributed data gpu
          ∨ cperActionable time cfg data (uuidString gpu.spec.id) := by
  have hsize := hgpus.size gpu hgpu
  have hevent (e : Event) : uuidString e.gpu = uuidString gpu.spec.id
      ↔ e.gpu = gpu.spec.id ∨ (gpu.spec.id = List.replicate 16 0 ∧ e.gpu.length ≠ 16) := by
    by_cases he : e.gpu.length = 16
    . simp only [he, ne_eq, not_true_eq_false, and_false, or_false]
      constructor
      . apply uuidString_inj he hsize
      . apply congrArg uuidString
    . rw [uuidString_of_length_ne he]
      constructor
      . intro h
        exact .inr ⟨(uuidString_inj rfl hsize h).symm, he⟩
      . rintro (h | h)
        . rw [h] at he
          exact absurd hsize he
        . rw [h.1]
  simp only [Marked, hcfg.enableSriov, hcfg.simEnabled, hcfg.eventsDisabled, true_and,
    hgpus.lookup_gpuUUIDMap hgpu, hevent]
  constructor
  . rintro (⟨e, he, hsev, h | h⟩ | ⟨gpuuid, hact, rfl⟩)
    . exact .inl ⟨e, he, hsev, h⟩
    . exact .inr (.inl ⟨h.1, e, he, hsev, h.2⟩)
    . exact .inr (.inr hact)
  . rintro (⟨e, he, hsev, h⟩ | ⟨hzero, e, he, hsev, h⟩ | hact)
    . exact .inl ⟨e, he, hsev, .inl h⟩
    . exact .inl ⟨e, he, hsev, .inr ⟨hzero, h⟩⟩
    . exact .inr ⟨_, hact, rfl⟩

theorem health_eq_unhealthy_iff [CaseMap] {ga : GPUAgentGPUClient} {m : GoMap String GPUState}
    (hm : ModifiedOn GPUState.setUnhealthy (Marked time cfg data resp.response)
      (GoMap.insertEach ∅ resp.response getGPUInstanceIDString
        (ga.eccState cfg.getHealthThreshholds data.wls)) m)
    {gpu : GPU} (hgpu : gpu ∈ resp.response) {state : GPUState}
    (hstate : m.lookup (getGPUInstanceIDString gpu) = some state)
    : state.health = .UNHEALTHY
        ↔ Evidence ga time cfg data gpu ∨ Misattributed data gpu := by
  have hecc := lookup_insertEach_empty getGPUInstanceIDString
    (ga.eccState cfg.getHealthThreshholds data.wls) resp.response (getGPUInstanceIDString gpu)
  rw [lastWith_of_nodup getGPUInstanceIDString hgpus.nodup_indexes hgpu, Option.map_some] at hecc
  have hmarked := marked_iff time data hgpus hcfg hgpu
  unfold Evidence
  rw [← eccExceeded_eq_true]
  by_cases h : Marked time cfg data resp.response (getGPUInstanceIDString gpu)
  . rw [hm.changed _ h, hecc, Option.map_some, Option.some.injEq] at hstate
    subst hstate
    simp only [GPUState.setUnhealthy, true_iff]
    rcases hmarked.mp h with hevent | hzero | hcper
    . exact .inl (.inr (.inl hevent))
    . exact .inr hzero
    . exact .inl (.inr (.inr hcper))
  . rw [hm.unchanged _ h, hecc, Option.some.injEq] at hstate
    subst hstate
    rw [hmarked, not_or, not_or] at h
    simp only [eccState, eccHealth_eq_unhealthy, h.1, h.2.1, h.2.2, or_false]

/--
The verdicts of a validation match the evidence if and only if no GPU is unhealthy for events without
a UUID alone.
-/
theorem verdictsMatchEvidence_iff [CaseMap] {ga ga' : GPUAgentGPUClient} {err : Option HealthError}
    (hresp : Usable data resp) (hnode : ga.computeNodeHealthState = true)
    (hrun : ga.processHealthValidation time cfg data = some (ga', err))
    : VerdictsMatchEvidence ga time cfg data resp.response ga'.healthState
        ↔ ∀ gpu ∈ resp.response, Misattributed data gpu → Evidence ga time cfg data gpu := by
  rcases processHealthValidation_cases hnode hrun with
    ⟨resp', m, hresp', -, rfl, -, hmod⟩ | ⟨hunusable, -⟩
  . rw [hresp'.unique hresp] at hmod
    have hhealth {gpu : GPU} (hgpu : gpu ∈ resp.response) {state : GPUState}
        (hstate : m.lookup (getGPUInstanceIDString gpu) = some state) :=
      health_eq_unhealthy_iff hgpus hcfg hmod hgpu hstate
    constructor
    . intro hverdicts gpu hgpu hzero
      have hmem : getGPUInstanceIDString gpu ∈ m := (hverdicts.keys _).mpr ⟨gpu, hgpu, rfl⟩
      rcases GoMap.mem_iff_exists_lookup.mp hmem with ⟨state, hstate⟩
      exact (hverdicts.health gpu hgpu state hstate).mp ((hhealth hgpu hstate).mpr (.inr hzero))
    . intro hexplained
      constructor
      . intro gpuid
        rw [hmod.mem_iff, mem_insertEach_empty]
      . intro gpu hgpu state hstate
        rw [hhealth hgpu hstate]
        constructor
        . rintro (hevidence | hzero)
          . exact hevidence
          . apply hexplained gpu hgpu hzero
        . exact .inl
  . exact absurd ⟨resp, hresp⟩ hunusable

end Validation

section Instances

theorem allChecks_defaultHealthConfig : defaultHealthConfig.AllChecks := ⟨rfl, rfl, rfl⟩

def twoGPUs (id : List UInt8) : HealthData where
  wls := ∅
  gpus := some ⟨0, [idleGPU 0 id, idleGPU 1 (List.replicate 16 7)]⟩
  events := some ⟨0, [⟨List.replicate 16 7, .CRITICAL⟩, ⟨[], .CRITICAL⟩]⟩
  cper := none
  cperErr := false

theorem distinct_twoGPUs (id : List UInt8) (hid : id.length = 16) (hne : id ≠ List.replicate 16 7)
    : Distinct [idleGPU 0 id, idleGPU 1 (List.replicate 16 7)] where
  size := by simp [idleGPU, hid]
  ids := by simpa [idleGPU] using hne
  indexes := by simp [idleGPU]

theorem verdictsMatchEvidence_iff_twoGPUs
    : ∃ ga' err, @processHealthValidation CaseMap.ascii (newGPUAgentGPUClient ∅) stoppedTime
          defaultHealthConfig (twoGPUs (List.replicate 16 5)) = some (ga', err)
        ∧ VerdictsMatchEvidence (newGPUAgentGPUClient ∅) stoppedTime defaultHealthConfig
            (twoGPUs (List.replicate 16 5))
            [idleGPU 0 (List.replicate 16 5), idleGPU 1 (List.replicate 16 7)] ga'.healthState := by
  let _ := CaseMap.ascii
  have hsome : ((newGPUAgentGPUClient ∅).processHealthValidation stoppedTime defaultHealthConfig
      (twoGPUs (List.replicate 16 5))).isSome := by
    decide
  rcases Option.isSome_iff_exists.mp hsome with ⟨⟨ga', err⟩, hrun⟩
  refine ⟨ga', err, hrun, ?_⟩
  refine (verdictsMatchEvidence_iff (distinct_twoGPUs (List.replicate 16 5) rfl (by decide))
    allChecks_defaultHealthConfig ⟨rfl, rfl, by simp⟩ rfl hrun).mpr ?_
  intro gpu hgpu hzero
  rcases List.mem_pair.mp hgpu with rfl | rfl
  . exact absurd hzero.1 (by decide)
  . exact absurd hzero.1 (by decide)

theorem not_verdictsMatchEvidence
    : ¬∀ (_ : CaseMap) (ga ga' : GPUAgentGPUClient) (time : Time) (cfg : HealthConfig)
        (data : HealthData) (resp : GPUGetResponse) (err : Option HealthError),
        Usable data resp → Distinct resp.response → cfg.AllChecks →
          ga.computeNodeHealthState = true →
          ga.processHealthValidation time cfg data = some (ga', err) →
          VerdictsMatchEvidence ga time cfg data resp.response ga'.healthState := by
  -- The first GPU has the zero UUID and is set to unhealthy by the event without one.
  intro h
  let _ := CaseMap.ascii
  have hhealth : (((newGPUAgentGPUClient ∅).processHealthValidation stoppedTime defaultHealthConfig
      (twoGPUs (List.replicate 16 0))).bind fun r =>
        (r.1.healthState.lookup "0").map GPUState.health) = some .UNHEALTHY := by
    decide
  rcases Option.bind_eq_some_iff.mp hhealth with ⟨⟨ga', err⟩, hrun, hstate⟩
  rcases Option.map_eq_some_iff.mp hstate with ⟨state, hlookup, hunhealthy⟩
  have hmatch := h CaseMap.ascii (newGPUAgentGPUClient ∅) ga' stoppedTime defaultHealthConfig
    (twoGPUs (List.replicate 16 0)) _ err ⟨rfl, rfl, by simp⟩
    (distinct_twoGPUs (List.replicate 16 0) rfl (by decide)) allChecks_defaultHealthConfig rfl hrun
  have hevidence := (hmatch.health (idleGPU 0 (List.replicate 16 0)) (by simp) state hlookup).mp
    hunhealthy
  rcases hevidence with hecc | hevent | hcper
  . rw [← eccExceeded_eq_true] at hecc
    exact absurd hecc (by decide)
  . rcases hevent with ⟨e, he, -, hid⟩
    simp only [acceptedEvents, twoGPUs, ne_eq, not_true_eq_false, if_false, List.mem_cons,
      List.not_mem_nil, or_false] at he
    rcases he with rfl | rfl
    . exact absurd hid (by decide)
    . exact absurd hid (by decide)
  . simp [cperActionable, twoGPUs] at hcper

end Instances

end GPUAgent
