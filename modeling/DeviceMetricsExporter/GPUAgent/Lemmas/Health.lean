import DeviceMetricsExporter.GPUAgent.Lemmas.ECC

/-!
This module contains what a validation computes as a function of its inputs: which entries the events
and the CPER records set to unhealthy on top of the ECC counters, and that nothing else can go wrong
once every GPU has stats.
-/

namespace GPUAgent

open Exporter

def GPUState.setUnhealthy (state : GPUState) : GPUState := { state with health := .UNHEALTHY }

theorem GPUState.setUnhealthy_setUnhealthy (state : GPUState)
    : state.setUnhealthy.setUnhealthy = state.setUnhealthy := rfl

def acceptedEvents (evtData : Option EventResponse) : List Event :=
  match evtData with
  | none => []
  | some evtData => if evtData.apiStatus ≠ 0 then [] else evtData.event

def cperActionable (time : Time) (cfg : HealthConfig) (data : HealthData) (gpuuid : String) : Prop :=
  data.cperErr = false ∧ ∃ gpuCper, data.cper = some gpuCper ∧ gpuCper.apiStatus = 0 ∧
    ∃ record, (latestCPERPerGPU time gpuCper).lookup gpuuid = some record ∧
      record.severity = .FATAL ∧
        (cfg.getCperHealthMaxAge time = 0 ∨ ∀ recordTS,
          parseCPERRecordTimestamp time record = some recordTS →
            since (time.now gpuuid) recordTS ≤ cfg.getCperHealthMaxAge time)

theorem isFatalCPERActionable_eq_true {time : Time} {now : Int} {record : CPEREntry} {maxAge : Int}
    : isFatalCPERActionable time now record maxAge = true
        ↔ record.severity = .FATAL ∧ (maxAge = 0 ∨ ∀ recordTS,
            parseCPERRecordTimestamp time record = some recordTS → since now recordTS ≤ maxAge) := by
  unfold isFatalCPERActionable
  split
  . next hsev => simp [hsev]
  . next hsev =>
    rw [not_not] at hsev
    split
    . next hage => simp [hsev, hage]
    . next hage =>
      split
      . next hts => simp [hsev, hts]
      . next recordTS hts => simp [hsev, hage, hts]

def Marked (time : Time) (cfg : HealthConfig) (data : HealthData) (gpus : List GPU) (gpuid : String)
    : Prop :=
  cfg.enableSriov = false ∧ cfg.simEnabled = false ∧
    ((cfg.eventsDisabled = false ∧ ∃ e ∈ acceptedEvents data.events,
        e.severity = .CRITICAL ∧ (gpuUUIDMap gpus).lookup (uuidString e.gpu) = some gpuid)
      ∨ ∃ gpuuid, cperActionable time cfg data gpuuid
          ∧ (gpuUUIDMap gpus).lookup gpuuid = some gpuid)

structure Usable (data : HealthData) (resp : GPUGetResponse) : Prop where
  gpus : data.gpus = some resp
  apiStatus : resp.apiStatus = 0
  nonempty : resp.response ≠ []

theorem Usable.unique {data : HealthData} {resp resp' : GPUGetResponse} (h : Usable data resp)
    (h' : Usable data resp') : resp = resp' :=
  Option.some.inj (h.gpus.symm.trans h'.gpus)

theorem response_eq_nil {data : HealthData} (husable : ¬∃ resp, Usable data resp) {resp : GPUGetResponse}
    (hgpus : data.gpus = some resp) (hstatus : resp.apiStatus = 0) : resp.response = [] := by
  by_contra hne
  apply husable ⟨resp, hgpus, hstatus, hne⟩

open GoMap (ModifiedOn)

section Marks

variable {m m' : GoMap String GPUState} {uuids : GoMap String String}

theorem setHealth_modifiedOn {gpuid : String} {health : GPUHealth}
    (h : setHealth m gpuid health = some m')
    : ModifiedOn (fun state => { state with health }) (· = gpuid) m m' := by
  unfold setHealth at h
  split at h
  . cases h
  . next state hstate =>
    cases h
    constructor
    . intro k hk
      subst hk
      rw [AList.lookup_insert, hstate]
      rfl
    . intro k hk
      apply AList.lookup_insert_ne hk

theorem markUnhealthy_modifiedOn {gpuuid : String} (h : markUnhealthy uuids m gpuuid = some m')
    : ModifiedOn GPUState.setUnhealthy (fun k => uuids.lookup gpuuid = some k) m m' := by
  unfold markUnhealthy at h
  split at h
  . next gpuid hgpuid =>
    refine (setHealth_modifiedOn h).congr ?_
    intro k
    simp [hgpuid, eq_comm]
  . next hgpuid =>
    cases h
    refine (ModifiedOn.refl _ _).congr ?_
    simp [hgpuid]

theorem eventErrCheck_modifiedOn {e : Event} (h : eventErrCheck uuids m e = some m')
    : ModifiedOn GPUState.setUnhealthy
        (fun k => e.severity = .CRITICAL ∧ uuids.lookup (uuidString e.gpu) = some k) m m' := by
  unfold eventErrCheck at h
  split at h
  . next hsev => exact (markUnhealthy_modifiedOn h).congr (by simp [hsev])
  . next hsev =>
    cases h
    exact (ModifiedOn.refl _ _).congr (by simp [hsev])

theorem applyEventHealthChecks_modifiedOn {evtData : Option EventResponse}
    (h : applyEventHealthChecks uuids m evtData = some m')
    : ModifiedOn GPUState.setUnhealthy
        (fun k => ∃ e ∈ acceptedEvents evtData,
          e.severity = .CRITICAL ∧ uuids.lookup (uuidString e.gpu) = some k) m m' := by
  unfold applyEventHealthChecks at h
  unfold acceptedEvents
  split at h
  . cases h
    exact (ModifiedOn.refl _ _).congr (by simp)
  . split at h
    . next hstatus =>
      cases h
      exact (ModifiedOn.refl _ _).congr (by simp [hstatus])
    . next hstatus =>
      have := ModifiedOn.foldlM GPUState.setUnhealthy_setUnhealthy
        (fun _ e _ h => eventErrCheck_modifiedOn (e := e) h) _ h
      apply this.congr (by simp [hstatus])

theorem applyCPERHealthChecks_modifiedOn {time : Time} {cfg : HealthConfig} {data : HealthData}
    (h : applyCPERHealthChecks time cfg uuids m data.cper data.cperErr = some m')
    : ModifiedOn GPUState.setUnhealthy
        (fun k => ∃ gpuuid, cperActionable time cfg data gpuuid ∧ uuids.lookup gpuuid = some k)
        m m' := by
  unfold applyCPERHealthChecks at h
  unfold cperActionable
  split at h
  . next herr =>
    cases h
    exact (ModifiedOn.refl _ _).congr (by simp [herr])
  . next herr =>
    split at h
    . next hcper =>
      cases h
      exact (ModifiedOn.refl _ _).congr (by simp [hcper])
    . next gpuCper hcper =>
      split at h
      . next hstatus =>
        cases h
        exact (ModifiedOn.refl _ _).congr (by simp [hcper, hstatus])
      . next hstatus =>
        -- one pass over the records, the map has one record per UUID
        have hrecord (m : GoMap String GPUState) (e : Sigma fun _ : String => CPEREntry)
            (m' : GoMap String GPUState)
            (h : (if isFatalCPERActionable time (time.now e.1) e.2 (cfg.getCperHealthMaxAge time) then
                markUnhealthy uuids m e.1 else some m) = some m')
            : ModifiedOn GPUState.setUnhealthy (fun k =>
                isFatalCPERActionable time (time.now e.1) e.2 (cfg.getCperHealthMaxAge time) = true
                  ∧ uuids.lookup e.1 = some k) m m' := by
          split at h
          . next hact => exact (markUnhealthy_modifiedOn h).congr (by simp [hact])
          . next hact =>
            cases h
            exact (ModifiedOn.refl _ _).congr (by simp [hact])
        have := ModifiedOn.foldlM GPUState.setUnhealthy_setUnhealthy hrecord _ h
        refine this.congr ?_
        intro k
        simp only [Bool.not_eq_true] at herr
        simp only [not_not] at hstatus
        constructor
        . rintro ⟨⟨gpuuid, record⟩, hmem, hact, hk⟩
          exact ⟨gpuuid, ⟨herr, gpuCper, hcper, hstatus, record,
            AList.mem_lookup_iff.mpr hmem, isFatalCPERActionable_eq_true.mp hact⟩, hk⟩
        . rintro ⟨gpuuid, ⟨-, gpuCper', hcper', -, record, hlookup, hact⟩, hk⟩
          rw [hcper, Option.some.injEq] at hcper'
          subst hcper'
          exact ⟨⟨gpuuid, record⟩, AList.mem_lookup_iff.mp hlookup,
            isFatalCPERActionable_eq_true.mpr hact, hk⟩

end Marks

section Totality

def Covers (uuids : GoMap String String) (m : GoMap String GPUState) : Prop :=
  ∀ gpuuid gpuid, uuids.lookup gpuuid = some gpuid → gpuid ∈ m

theorem Covers.of_modifiedOn {uuids : GoMap String String} {m m' : GoMap String GPUState}
    {S : String → Prop} (h : Covers uuids m) (hm : ModifiedOn GPUState.setUnhealthy S m m')
    : Covers uuids m' := by
  intro gpuuid gpuid hlookup
  rw [hm.mem_iff]
  apply h gpuuid gpuid hlookup

theorem Covers.markUnhealthy_isSome {uuids : GoMap String String} {m : GoMap String GPUState}
    (h : Covers uuids m) (gpuuid : String) : (markUnhealthy uuids m gpuuid).isSome := by
  unfold markUnhealthy
  split
  . next gpuid hgpuid =>
    have hmem := AList.lookup_isSome.mpr (h gpuuid gpuid hgpuid)
    rcases Option.isSome_iff_exists.mp hmem with ⟨state, hstate⟩
    simp [setHealth, hstate]
  . rfl

theorem isSome_foldlM {α β : Type*} {f : β → α → Option β} {P : β → Prop}
    (hsome : ∀ b a, P b → (f b a).isSome) (hinv : ∀ b a b', P b → f b a = some b' → P b')
    (as : List α) {b : β} (hb : P b) : (as.foldlM f b).isSome := by
  induction as generalizing b with
  | nil => rfl
  | cons a as ih =>
    rcases Option.isSome_iff_exists.mp (hsome b a hb) with ⟨b', hb'⟩
    rw [List.foldlM_cons, hb', Option.bind_eq_bind, Option.bind_some]
    apply ih (hinv b a b' hb hb')

theorem Covers.applyEventHealthChecks_isSome {uuids : GoMap String String}
    {m : GoMap String GPUState} (h : Covers uuids m) (evtData : Option EventResponse)
    : (applyEventHealthChecks uuids m evtData).isSome := by
  unfold applyEventHealthChecks
  split
  . rfl
  . split
    . rfl
    . refine isSome_foldlM (P := Covers uuids) ?_ ?_ _ h
      . intro m e hm
        unfold eventErrCheck
        split
        . apply hm.markUnhealthy_isSome _
        . rfl
      . intro m e m' hm hstep
        apply hm.of_modifiedOn (eventErrCheck_modifiedOn hstep)

theorem Covers.applyCPERHealthChecks_isSome {uuids : GoMap String String}
    {m : GoMap String GPUState} (h : Covers uuids m) (time : Time) (cfg : HealthConfig)
    (gpuCper : Option GPUCPERGetResponse) (cperErr : Bool)
    : (applyCPERHealthChecks time cfg uuids m gpuCper cperErr).isSome := by
  unfold applyCPERHealthChecks
  split
  . rfl
  . split
    . rfl
    . split
      . rfl
      . refine isSome_foldlM (P := Covers uuids) ?_ ?_ _ h
        . intro m e hm
          dsimp only
          split
          . apply hm.markUnhealthy_isSome _
          . rfl
        . intro m e m' hm hstep
          dsimp only at hstep
          split at hstep
          . apply hm.of_modifiedOn (markUnhealthy_modifiedOn hstep)
          . cases hstep
            exact hm

theorem covers_insertEach (gpus : List GPU) (val : GPU → GPUState)
    : Covers (gpuUUIDMap gpus) (GoMap.insertEach ∅ gpus getGPUInstanceIDString val) := by
  intro gpuuid gpuid hlookup
  unfold gpuUUIDMap at hlookup
  rw [GoMap.lookup_insertEach_empty, Option.map_eq_some_iff] at hlookup
  rcases hlookup with ⟨gpu, hgpu, hgpuid⟩
  exact (GoMap.mem_insertEach_empty _ _).mpr ⟨gpu, (GoMap.mem_of_lastWith _ hgpu).1, hgpuid⟩

end Totality

namespace GPUAgentGPUClient

variable [CaseMap]

theorem newHealthState_eq {data : HealthData} {resp : GPUGetResponse} (hresp : Usable data resp)
    (ga : GPUAgentGPUClient) (time : Time) (cfg : HealthConfig)
    (hstats : resp.response.all (·.stats.isSome))
    : ∃ m, ga.newHealthState time cfg data = some (.ok m)
        ∧ ModifiedOn GPUState.setUnhealthy (Marked time cfg data resp.response)
            (GoMap.insertEach ∅ resp.response getGPUInstanceIDString
              (ga.eccState cfg.getHealthThreshholds data.wls)) m := by
  have hempty : resp.response.isEmpty = false := by
    simpa using hresp.nonempty
  have hcovers := covers_insertEach resp.response (ga.eccState cfg.getHealthThreshholds data.wls)
  simp only [newHealthState, hresp.gpus, hresp.apiStatus, ne_eq, not_true_eq_false, if_false, hempty,
    Bool.false_eq_true, processEccErrorMetrics_eq, hstats, if_true, Option.bind_eq_bind,
    Option.bind_some, Option.pure_def]
  unfold Marked
  generalize GoMap.insertEach ∅ resp.response getGPUInstanceIDString
    (ga.eccState cfg.getHealthThreshholds data.wls) = m at hcovers ⊢
  by_cases hoff : cfg.enableSriov || cfg.simEnabled
  . refine ⟨m, by simp [hoff], (ModifiedOn.refl _ m).congr ?_⟩
    intro k
    rw [Bool.or_eq_true] at hoff
    rcases hoff with hoff | hoff
    . simp [hoff]
    . simp [hoff]
  . have hon : cfg.enableSriov = false ∧ cfg.simEnabled = false := by
      simpa using hoff
    simp only [hon, Bool.or_false, Bool.not_false, if_true, true_and]
    cases hev : cfg.eventsDisabled with
    | false =>
      rcases Option.isSome_iff_exists.mp (hcovers.applyEventHealthChecks_isSome data.events)
        with ⟨m₁, hm₁⟩
      have hmod₁ := applyEventHealthChecks_modifiedOn hm₁
      rcases Option.isSome_iff_exists.mp ((hcovers.of_modifiedOn hmod₁).applyCPERHealthChecks_isSome
        time cfg data.cper data.cperErr) with ⟨m₂, hm₂⟩
      have hmod₂ := applyCPERHealthChecks_modifiedOn hm₂
      refine ⟨m₂, by simp [hm₁, hm₂], ?_⟩
      exact (hmod₁.trans GPUState.setUnhealthy_setUnhealthy hmod₂).congr (by simp)
    | true =>
      rcases Option.isSome_iff_exists.mp (hcovers.applyCPERHealthChecks_isSome
        time cfg data.cper data.cperErr) with ⟨m₂, hm₂⟩
      refine ⟨m₂, by simp [hm₂], (applyCPERHealthChecks_modifiedOn hm₂).congr (by simp)⟩

theorem all_stats_of_newHealthState {data : HealthData} {resp : GPUGetResponse}
    (hresp : Usable data resp) {ga : GPUAgentGPUClient} {time : Time} {cfg : HealthConfig}
    {result : Except HealthError (GoMap String GPUState)}
    (h : ga.newHealthState time cfg data = some result) : resp.response.all (·.stats.isSome) := by
  have hempty : resp.response.isEmpty = false := by
    simpa using hresp.nonempty
  by_contra hstats
  simp only [newHealthState, hresp.gpus, hresp.apiStatus, ne_eq, not_true_eq_false, if_false, hempty,
    Bool.false_eq_true, processEccErrorMetrics_eq, hstats, Option.bind_eq_bind, Option.bind_none,
    reduceCtorEq] at h

theorem processHealthValidation_cases {ga ga₁ : GPUAgentGPUClient} {time : Time}
    {cfg : HealthConfig} {data : HealthData} {err : Option HealthError}
    (hnode : ga.computeNodeHealthState = true)
    (hrun : ga.processHealthValidation time cfg data = some (ga₁, err))
    : (∃ resp m, Usable data resp ∧ resp.response.all (·.stats.isSome)
          ∧ ga₁ = { ga with healthState := m } ∧ err = none
          ∧ ModifiedOn GPUState.setUnhealthy (Marked time cfg data resp.response)
              (GoMap.insertEach ∅ resp.response getGPUInstanceIDString
                (ga.eccState cfg.getHealthThreshholds data.wls)) m)
        ∨ ((¬∃ resp, Usable data resp) ∧ ga₁ = ga.setUnhealthyGPU data.wls
          ∧ (err = some .errZeroGPUs ∨ err = some .errAgentUnreachable)) := by
  simp only [processHealthValidation, hnode, Bool.not_true, Bool.false_eq_true, if_false,
    Option.map_eq_some_iff] at hrun
  rcases hrun with ⟨result, hresult, happly⟩
  by_cases husable : ∃ resp, Usable data resp
  . rcases husable with ⟨resp, hresp⟩
    have hstats := all_stats_of_newHealthState hresp hresult
    rcases newHealthState_eq hresp ga time cfg hstats with ⟨m, hm, hmod⟩
    rw [hm, Option.some.injEq] at hresult
    subst hresult
    simp only [applyHealthState, updateNewHealthState, Prod.mk.injEq] at happly
    exact .inl ⟨resp, m, hresp, hstats, happly.1.symm, happly.2.symm, hmod⟩
  . refine .inr ⟨husable, ?_⟩
    unfold newHealthState at hresult
    split at hresult
    . cases hresult
      simp only [applyHealthState, Prod.mk.injEq] at happly
      exact ⟨happly.1.symm, .inr happly.2.symm⟩
    . next resp hgpus =>
      split at hresult
      . cases hresult
        simp only [applyHealthState, Prod.mk.injEq] at happly
        exact ⟨happly.1.symm, .inr happly.2.symm⟩
      . next hstatus =>
        rw [not_not] at hstatus
        split at hresult
        . cases hresult
          simp only [applyHealthState, Prod.mk.injEq] at happly
          exact ⟨happly.1.symm, .inl happly.2.symm⟩
        . next hempty => exact absurd ⟨resp, hgpus, hstatus, by simpa using hempty⟩ husable

end GPUAgentGPUClient

section Instances

def idleGPU (index : UInt32) (id : List UInt8) : GPU :=
  { spec := { id }, status := { index }, stats := some {} }

def stoppedTime : Time where
  parseDuration _ := none
  parseInLocation _ := none
  now _ := 0

def defaultHealthConfig : HealthConfig where
  healthThresholds := none
  enableSriov := false
  simEnabled := false
  eventsDisabled := false

def oneGPU (event : List Event) : HealthData where
  wls := ∅
  gpus := some ⟨0, [idleGPU 0 (List.replicate 16 7)]⟩
  events := some ⟨0, event⟩
  cper := none
  cperErr := false

end Instances

end GPUAgent
