import DeviceMetricsExporter.GPUAgent.Lemmas.LatestCPER
import DeviceMetricsExporter.GPUAgent.Lemmas.Verdict

/-!
This module contains which GPU an event or a CPER record marks. GPUs are found by the text of a UUID.
Where the bytes of an id are no UUID, this is the text of the zero UUID for GPUs and events and the
bytes themselves for CPER records.
-/

namespace GPUAgent

open Exporter GoMap Latest GPUAgentGPUClient

section Sources

variable (time : Time)

def sourcesOf (gpuuid : String) (cper : List GPUCPEREntry) : List (List UInt8 × CPEREntry) :=
  (cper.filter fun c => uuidToString c.gpu = gpuuid).flatMap fun c => c.cperEntry.map (c.gpu, ·)

def latestSource (gpuCpers : GPUCPERGetResponse) (gpuuid : String)
    : Option (List UInt8 × CPEREntry) :=
  latest (fun source => parseCPERRecordTimestamp time source.2) (sourcesOf gpuuid gpuCpers.cper)

theorem map_sourcesOf (gpuuid : String) (cper : List GPUCPEREntry)
    : (sourcesOf gpuuid cper).map (·.2) = recordsOf gpuuid cper := by
  rw [sourcesOf, recordsOf, List.map_flatMap]
  simp [Function.comp_def]

theorem lookup_latestCPERPerGPU_eq_source (gpuCpers : GPUCPERGetResponse) (gpuuid : String)
    : (latestCPERPerGPU time gpuCpers).lookup gpuuid
        = (latestSource time gpuCpers gpuuid).map (·.2) := by
  rw [lookup_latestCPERPerGPU, ← map_sourcesOf, latest_map]
  rfl

variable {time} in
theorem uuidToString_of_latestSource {gpuCpers : GPUCPERGetResponse} {gpuuid : String}
    {source : List UInt8 × CPEREntry} (h : latestSource time gpuCpers gpuuid = some source)
    : uuidToString source.1 = gpuuid := by
  have hmem := (latest_eq_some_iff.mp h).mem
  rcases List.mem_flatMap.mp hmem with ⟨c, hc, hsource⟩
  rcases List.mem_map.mp hsource with ⟨record, -, rfl⟩
  simpa using (List.mem_filter.mp hc).2

end Sources

section Marks

def healthyGPUs (gpus : List GPU) : GoMap String GPUState :=
  GoMap.insertEach ∅ gpus getGPUInstanceIDString fun gpu =>
    ⟨getGPUInstanceIDString gpu, uuidString gpu.spec.id, .HEALTHY, "", []⟩

def Marks (gpus : List GPU) (check : GoMap String GPUState → Option (GoMap String GPUState))
    (gpu : GPU) : Prop :=
  ((check (healthyGPUs gpus)).bind fun newGPUState =>
    (newGPUState.lookup (getGPUInstanceIDString gpu)).map (·.health)) = some .UNHEALTHY

variable {gpus : List GPU} {gpu : GPU}

theorem lookup_healthyGPUs (hgpu : gpu ∈ gpus)
    : ∃ state, (healthyGPUs gpus).lookup (getGPUInstanceIDString gpu) = some state ∧
        state.health = .HEALTHY := by
  rw [healthyGPUs, lookup_insertEach_empty]
  cases hlast : lastWith getGPUInstanceIDString gpus (getGPUInstanceIDString gpu) with
  | some gpu' => exact ⟨_, rfl, rfl⟩
  | none =>
    rw [lastWith_eq_none] at hlast
    exact absurd rfl (hlast gpu hgpu)

theorem marks_markUnhealthy (hgpu : gpu ∈ gpus) (gpuuid : String)
    : Marks gpus (markUnhealthy (gpuUUIDMap gpus) · gpuuid) gpu
        ↔ (gpuUUIDMap gpus).lookup gpuuid = some (getGPUInstanceIDString gpu) := by
  have hcovers : Covers (gpuUUIDMap gpus) (healthyGPUs gpus) := covers_insertEach gpus _
  rcases Option.isSome_iff_exists.mp (hcovers.markUnhealthy_isSome gpuuid) with ⟨m, hm⟩
  have hmod := markUnhealthy_modifiedOn hm
  rcases lookup_healthyGPUs hgpu with ⟨state, hstate, hhealthy⟩
  simp only [Marks, hm, Option.bind_some]
  by_cases hlookup : (gpuUUIDMap gpus).lookup gpuuid = some (getGPUInstanceIDString gpu)
  . rw [hmod.changed _ hlookup, hstate]
    simp [GPUState.setUnhealthy, hlookup]
  . rw [hmod.unchanged _ hlookup, hstate]
    simp [hhealthy, hlookup]

theorem marks_eventErrCheck (hgpu : gpu ∈ gpus) (e : Event)
    : Marks gpus (eventErrCheck (gpuUUIDMap gpus) · e) gpu
        ↔ e.severity = .CRITICAL ∧
          (gpuUUIDMap gpus).lookup (uuidString e.gpu) = some (getGPUInstanceIDString gpu) := by
  rw [← marks_markUnhealthy hgpu]
  unfold eventErrCheck
  by_cases hsev : e.severity = .CRITICAL
  . simp [hsev]
  . rcases lookup_healthyGPUs hgpu with ⟨state, hstate, hhealthy⟩
    simp [hsev, Marks, hstate, hhealthy]

end Marks

section Identified

/--
A CPER record is looked up under the UUID that its bytes are, or whose text they are.
-/
def NamesUUID (bytes : List UInt8) (u : UUID) : Prop :=
  if bytes.length = 16 then bytes = u.bytes else bytesToString bytes = u.toString

theorem uuidToString_eq_iff (bytes : List UInt8) (u : UUID)
    : uuidToString bytes = u.toString ↔ NamesUUID bytes u := by
  unfold uuidToString NamesUUID
  by_cases hsize : bytes.length = 16
  . rw [UUID.fromBytes_of_length_eq hsize, if_pos hsize]
    constructor
    . intro h
      exact congrArg UUID.bytes (UUID.toString_injective h)
    . rintro rfl
      rfl
  . rw [UUID.fromBytes_of_length_ne hsize, if_neg hsize]

/--
What the bytes of a source are looked up under finds the GPU with these bytes and no other one.
-/
structure Identified (gpus : List GPU) (bytes : List UInt8) (names : UUID → Prop) : Prop where
  found : ∀ gpu ∈ gpus, gpu.spec.id = bytes → names (UUID.fromBytes bytes).1
  last : ∀ u, names u → ∀ gpu,
    lastWith (fun gpu => (UUID.fromBytes gpu.spec.id).1) gpus u = some gpu → gpu.spec.id = bytes
  index : ∀ gpu ∈ gpus, gpu.spec.id = bytes → ∀ gpu' ∈ gpus,
    gpu'.status.index = gpu.status.index → gpu'.spec.id = bytes

theorem Identified.congr {gpus : List GPU} {bytes : List UInt8} {names names' : UUID → Prop}
    (h : ∀ u, names u ↔ names' u) : Identified gpus bytes names ↔ Identified gpus bytes names' := by
  rw [funext fun u => propext (h u)]

theorem lookup_gpuUUIDMap_toString (gpus : List GPU) (u : UUID)
    : (gpuUUIDMap gpus).lookup u.toString
        = (lastWith (fun gpu => (UUID.fromBytes gpu.spec.id).1) gpus u).map
            getGPUInstanceIDString := by
  have hinj : Function.Injective UUID.toString := fun _ _ => UUID.toString_injective
  rw [gpuUUIDMap, lookup_insertEach_empty]
  simp only [uuidString]
  rw [lastWith_comp (fun gpu : GPU => (UUID.fromBytes gpu.spec.id).1) hinj]

theorem exists_of_lookup_gpuUUIDMap {gpus : List GPU} {gpuuid gpuid : String}
    (h : (gpuUUIDMap gpus).lookup gpuuid = some gpuid)
    : ∃ gpu ∈ gpus, uuidString gpu.spec.id = gpuuid ∧ getGPUInstanceIDString gpu = gpuid := by
  rw [gpuUUIDMap, lookup_insertEach_empty, Option.map_eq_some_iff] at h
  rcases h with ⟨gpu, hlast, hgpuid⟩
  exact ⟨gpu, (mem_of_lastWith _ hlast).1, (mem_of_lastWith _ hlast).2, hgpuid⟩

theorem getGPUInstanceIDString_eq_iff {gpu gpu' : GPU}
    : getGPUInstanceIDString gpu = getGPUInstanceIDString gpu'
        ↔ gpu.status.index = gpu'.status.index := by
  constructor
  . exact getGPUInstanceIDString_inj
  . intro h
    rw [getGPUInstanceIDString, getGPUInstanceIDString, h]

def Finds (gpus : List GPU) (gpuuid : String) (bytes : List UInt8) : Prop :=
  ∀ gpu ∈ gpus,
    (gpuUUIDMap gpus).lookup gpuuid = some (getGPUInstanceIDString gpu) ↔ bytes = gpu.spec.id

theorem Finds.identified {gpus : List GPU} {gpuuid : String} {bytes : List UInt8}
    (h : Finds gpus gpuuid bytes) : Identified gpus bytes (fun u => gpuuid = u.toString) := by
  constructor
  . rintro gpu hgpu rfl
    have hlookup := (h gpu hgpu).mpr rfl
    rcases exists_of_lookup_gpuUUIDMap hlookup with ⟨gpu', hgpu', huuid, hgpuid⟩
    rw [← hgpuid] at hlookup
    rw [(h gpu' hgpu').mp hlookup]
    exact huuid.symm
  . rintro u rfl gpu hlast
    have hlookup := lookup_gpuUUIDMap_toString gpus u
    rw [hlast] at hlookup
    exact ((h gpu (mem_of_lastWith _ hlast).1).mp hlookup).symm
  . intro gpu hgpu hbytes gpu' hgpu' hindex
    have hlookup := (h gpu hgpu).mpr hbytes.symm
    rw [← getGPUInstanceIDString_eq_iff.mpr hindex] at hlookup
    exact ((h gpu' hgpu').mp hlookup).symm

theorem Identified.finds {gpus : List GPU} (hids : (gpus.map (·.spec.id)).Nodup) {gpuuid : String}
    {bytes : List UInt8} (h : Identified gpus bytes (fun u => gpuuid = u.toString))
    : Finds gpus gpuuid bytes := by
  intro gpu hgpu
  constructor
  . intro hlookup
    rcases exists_of_lookup_gpuUUIDMap hlookup with ⟨gpu₁, -, rfl, -⟩
    rw [uuidString, lookup_gpuUUIDMap_toString, Option.map_eq_some_iff] at hlookup
    rcases hlookup with ⟨gpu₂, hlast, hgpuid⟩
    have hbytes := h.last _ rfl gpu₂ hlast
    exact (h.index gpu₂ (mem_of_lastWith _ hlast).1 hbytes gpu hgpu
      (getGPUInstanceIDString_eq_iff.mp hgpuid.symm)).symm
  . rintro rfl
    have hfound := h.found gpu hgpu rfl
    subst hfound
    rw [lookup_gpuUUIDMap_toString]
    cases hlast : lastWith (fun gpu => (UUID.fromBytes gpu.spec.id).1) gpus
        (UUID.fromBytes gpu.spec.id).1 with
    | none =>
      rw [lastWith_eq_none] at hlast
      exact absurd rfl (hlast gpu hgpu)
    | some gpu' =>
      have hbytes := h.last _ rfl gpu' hlast
      rw [List.inj_on_of_nodup_map hids (mem_of_lastWith _ hlast).1 hgpu hbytes]
      rfl

theorem finds_iff_identified {gpus : List GPU} (hids : (gpus.map (·.spec.id)).Nodup)
    {gpuuid : String} {bytes : List UInt8}
    : Finds gpus gpuuid bytes ↔ Identified gpus bytes (fun u => gpuuid = u.toString) :=
  ⟨Finds.identified, Identified.finds hids⟩

/--
UUIDs as they should be: bytes of the size of a UUID find the one GPU with these bytes.
-/
theorem identified_of_size {gpus : List GPU} (hsize : ∀ gpu ∈ gpus, gpu.spec.id.length = 16)
    (hindexes : (gpus.map (·.status.index)).Nodup) {bytes : List UInt8} (hbytes : bytes.length = 16)
    : Identified gpus bytes (· = (UUID.fromBytes bytes).1) := by
  constructor
  . intro _ _ _
    rfl
  . rintro u rfl gpu hlast
    rcases mem_of_lastWith _ hlast with ⟨hgpu, huuid⟩
    rw [UUID.fromBytes_of_length_eq hbytes, UUID.fromBytes_of_length_eq (hsize gpu hgpu)] at huuid
    exact congrArg UUID.bytes huuid
  . rintro gpu hgpu rfl gpu' hgpu' hindex
    rw [List.inj_on_of_nodup_map hindexes hgpu' hgpu hindex]

end Identified

section Agreement

/--
Events and CPER records mark the GPU with their bytes and no other one.
-/
structure IdentityAgrees (time : Time) (cfg : HealthConfig) (data : HealthData) (gpus : List GPU)
    : Prop where
  event : ∀ e ∈ acceptedEvents data.events, e.severity = .CRITICAL → ∀ gpu ∈ gpus,
    Marks gpus (eventErrCheck (gpuUUIDMap gpus) · e) gpu ↔ e.gpu = gpu.spec.id
  cper : ∀ gpuCper, data.cper = some gpuCper → ∀ gpuuid source,
    cperActionable time cfg data gpuuid → latestSource time gpuCper gpuuid = some source →
      ∀ gpu ∈ gpus,
        Marks gpus (markUnhealthy (gpuUUIDMap gpus) · gpuuid) gpu ↔ source.1 = gpu.spec.id

structure SourcesIdentified (time : Time) (cfg : HealthConfig) (data : HealthData) (gpus : List GPU)
    : Prop where
  event : ∀ e ∈ acceptedEvents data.events, e.severity = .CRITICAL →
    Identified gpus e.gpu (· = (UUID.fromBytes e.gpu).1)
  cper : ∀ gpuCper, data.cper = some gpuCper → ∀ gpuuid source,
    cperActionable time cfg data gpuuid → latestSource time gpuCper gpuuid = some source →
      Identified gpus source.1 (NamesUUID source.1)

variable {time : Time} {cfg : HealthConfig} {data : HealthData} {gpus : List GPU}

theorem eventErrCheck_agrees_iff (hids : (gpus.map (·.spec.id)).Nodup) {e : Event}
    (hsev : e.severity = .CRITICAL)
    : (∀ gpu ∈ gpus, Marks gpus (eventErrCheck (gpuUUIDMap gpus) · e) gpu ↔ e.gpu = gpu.spec.id)
        ↔ Identified gpus e.gpu (· = (UUID.fromBytes e.gpu).1) := by
  have hnames (u : UUID) : u = (UUID.fromBytes e.gpu).1 ↔ uuidString e.gpu = u.toString := by
    constructor
    . rintro rfl
      rfl
    . intro h
      exact (UUID.toString_injective h).symm
  rw [Identified.congr hnames, ← finds_iff_identified hids]
  apply forall₂_congr
  intro gpu hgpu
  rw [marks_eventErrCheck hgpu, and_iff_right hsev]

theorem markUnhealthy_agrees_iff (hids : (gpus.map (·.spec.id)).Nodup) (bytes : List UInt8)
    : (∀ gpu ∈ gpus, Marks gpus (markUnhealthy (gpuUUIDMap gpus) · (uuidToString bytes)) gpu
          ↔ bytes = gpu.spec.id)
        ↔ Identified gpus bytes (NamesUUID bytes) := by
  rw [← Identified.congr (uuidToString_eq_iff bytes), ← finds_iff_identified hids]
  apply forall₂_congr
  intro gpu hgpu
  rw [marks_markUnhealthy hgpu]

theorem health_eq_unhealthy_iff_marks [CaseMap] {resp : GPUGetResponse} (hcfg : cfg.AllChecks)
    {ga ga' : GPUAgentGPUClient} {err : Option HealthError} (hresp : Usable data resp)
    (hnode : ga.computeNodeHealthState = true)
    (hrun : ga.processHealthValidation time cfg data = some (ga', err)) {gpu : GPU}
    (hgpu : gpu ∈ resp.response) {state : GPUState}
    (hstate : ga'.healthState.lookup (getGPUInstanceIDString gpu) = some state)
    : state.health = .UNHEALTHY
        ↔ (∃ gpu', lastWith getGPUInstanceIDString resp.response (getGPUInstanceIDString gpu)
              = some gpu' ∧ ga.eccExceeded cfg.getHealthThreshholds gpu' = true)
          ∨ (∃ e ∈ acceptedEvents data.events,
              Marks resp.response (eventErrCheck (gpuUUIDMap resp.response) · e) gpu)
          ∨ ∃ gpuuid, cperActionable time cfg data gpuuid ∧
              Marks resp.response (markUnhealthy (gpuUUIDMap resp.response) · gpuuid) gpu := by
  rcases processHealthValidation_cases hnode hrun with
    ⟨resp', m, hresp', -, rfl, -, hmod⟩ | ⟨hunusable, -⟩
  . rw [hresp'.unique hresp] at hmod
    have hmarked : Marked time cfg data resp.response (getGPUInstanceIDString gpu)
        ↔ (∃ e ∈ acceptedEvents data.events,
              Marks resp.response (eventErrCheck (gpuUUIDMap resp.response) · e) gpu)
          ∨ ∃ gpuuid, cperActionable time cfg data gpuuid ∧
              Marks resp.response (markUnhealthy (gpuUUIDMap resp.response) · gpuuid) gpu := by
      simp only [Marked, hcfg.enableSriov, hcfg.simEnabled, hcfg.eventsDisabled, true_and,
        marks_eventErrCheck hgpu, marks_markUnhealthy hgpu]
    rw [← hmarked]
    have hecc := lookup_insertEach_empty getGPUInstanceIDString
      (ga.eccState cfg.getHealthThreshholds data.wls) resp.response (getGPUInstanceIDString gpu)
    by_cases h : Marked time cfg data resp.response (getGPUInstanceIDString gpu)
    . rw [hmod.changed _ h, Option.map_eq_some_iff] at hstate
      rcases hstate with ⟨state', -, rfl⟩
      simp [GPUState.setUnhealthy, h]
    . rw [hmod.unchanged _ h, hecc, Option.map_eq_some_iff] at hstate
      rcases hstate with ⟨gpu', hlast, rfl⟩
      simp [hlast, h, eccState, eccHealth_eq_unhealthy]
  . exact absurd ⟨resp, hresp⟩ hunusable

theorem sourcesIdentified_of_size (hsize : ∀ gpu ∈ gpus, gpu.spec.id.length = 16)
    (hindexes : (gpus.map (·.status.index)).Nodup)
    (hevents : ∀ e ∈ acceptedEvents data.events, e.gpu.length = 16)
    (hcper : ∀ gpuCper, data.cper = some gpuCper → ∀ c ∈ gpuCper.cper, c.gpu.length = 16)
    : SourcesIdentified time cfg data gpus := by
  constructor
  . intro e he _
    exact identified_of_size hsize hindexes (hevents e he)
  . intro gpuCper hdata gpuuid source _ hsource
    have hmem := (latest_eq_some_iff.mp hsource).mem
    rcases List.mem_flatMap.mp hmem with ⟨c, hc, hrecord⟩
    rcases List.mem_map.mp hrecord with ⟨record, -, rfl⟩
    have hbytes := hcper gpuCper hdata c (List.mem_filter.mp hc).1
    have hnames (u : UUID) : u = (UUID.fromBytes c.gpu).1 ↔ NamesUUID c.gpu u := by
      rw [UUID.fromBytes_of_length_eq hbytes, NamesUUID, if_pos hbytes, UUID.mk.injEq, eq_comm]
    rw [← Identified.congr hnames]
    exact identified_of_size hsize hindexes hbytes

end Agreement

section Instances

/--
Events and CPER records mark the right GPU exactly if no id that is not a UUID is mistaken for
another one and the GPU shares its index with no other one.
-/
theorem identityAgrees_iff (time : Time) (cfg : HealthConfig) (data : HealthData) (gpus : List GPU)
    (hids : (gpus.map (·.spec.id)).Nodup)
    : IdentityAgrees time cfg data gpus ↔ SourcesIdentified time cfg data gpus := by
  constructor
  . intro h
    constructor
    . intro e he hsev
      exact (eventErrCheck_agrees_iff hids hsev).mp (h.event e he hsev)
    . intro gpuCper hdata gpuuid source hactionable hsource
      rw [← markUnhealthy_agrees_iff hids, uuidToString_of_latestSource hsource]
      exact h.cper gpuCper hdata gpuuid source hactionable hsource
  . intro h
    constructor
    . intro e he hsev
      exact (eventErrCheck_agrees_iff hids hsev).mpr (h.event e he hsev)
    . intro gpuCper hdata gpuuid source hactionable hsource
      have hidentified := h.cper gpuCper hdata gpuuid source hactionable hsource
      rw [← markUnhealthy_agrees_iff hids, uuidToString_of_latestSource hsource] at hidentified
      exact hidentified

def twoSources : HealthData where
  wls := ∅
  gpus := some ⟨0, [idleGPU 0 (List.replicate 16 7), idleGPU 1 (List.replicate 16 8)]⟩
  events := some ⟨0, [⟨List.replicate 16 7, .CRITICAL⟩]⟩
  cper := some ⟨0, [⟨List.replicate 16 8, [⟨"fatal", .FATAL, ""⟩]⟩]⟩
  cperErr := false

theorem identityAgrees_iff_twoSources
    : IdentityAgrees stoppedTime defaultHealthConfig twoSources
        [idleGPU 0 (List.replicate 16 7), idleGPU 1 (List.replicate 16 8)] := by
  refine (identityAgrees_iff stoppedTime defaultHealthConfig twoSources
    [idleGPU 0 (List.replicate 16 7), idleGPU 1 (List.replicate 16 8)] (by decide)).mpr ?_
  apply sourcesIdentified_of_size
  . simp [idleGPU]
  . decide
  . simp [twoSources, acceptedEvents]
  . simp [twoSources]

def textId : List UInt8 :=
  "72ff740f-0000-1000-804c-3b58bf67050e".toList.map fun c => UInt8.ofNat c.toNat

def textCPER : HealthData where
  wls := ∅
  gpus := some ⟨0, [idleGPU 0 textId]⟩
  events := none
  cper := some ⟨0, [⟨textId, [⟨"fatal", .FATAL, ""⟩]⟩]⟩
  cperErr := false

instance (gpus : List GPU) (check : GoMap String GPUState → Option (GoMap String GPUState))
    (gpu : GPU) : Decidable (Marks gpus check gpu) := by
  unfold Marks
  infer_instance

theorem not_identityAgrees
    : (¬∀ (time : Time) (cfg : HealthConfig) (gpus : List GPU) (data : HealthData),
        (gpus.map (·.spec.id)).Nodup → IdentityAgrees time cfg data gpus) ∧
      ¬∀ (gpus : List GPU) (e : Event), (gpus.map (·.spec.id)).Nodup → e.severity = .CRITICAL →
        ∀ gpu ∈ gpus, Marks gpus (eventErrCheck (gpuUUIDMap gpus) · e) gpu → e.gpu = gpu.spec.id := by
  constructor
  . -- the record is looked up under its own text, the GPU is entered as the zero UUID
    intro h
    have hagrees := h stoppedTime defaultHealthConfig [idleGPU 0 textId] textCPER
      (List.nodup_singleton _)
    have hactionable : cperActionable stoppedTime defaultHealthConfig textCPER
        (uuidToString textId) :=
      ⟨rfl, _, rfl, rfl, ⟨"fatal", .FATAL, ""⟩, by decide, rfl, .inl rfl⟩
    have hmarks := (hagrees.cper _ rfl _ ⟨textId, ⟨"fatal", .FATAL, ""⟩⟩ hactionable (by decide)
      (idleGPU 0 textId) (by simp)).mpr rfl
    exact absurd hmarks (by decide)
  . -- both GPUs are entered as the zero UUID, the last one is found
    intro h
    have hid := h [idleGPU 0 [1], idleGPU 1 [2]] ⟨[1], .CRITICAL⟩ (by decide) rfl (idleGPU 1 [2])
      (by simp) (by decide)
    exact absurd hid (by decide)

end Instances

end GPUAgent
