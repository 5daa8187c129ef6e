import DeviceMetricsExporter.GPUAgent.Lemmas.ECC

/-!
This module contains how the health of a GPU changes when its ECC counters grow. Unhealthy stays
unhealthy, as long as no counter grows into one of the values that stand for not applicable.
-/

namespace GPUAgent

open Exporter
open GoMap

/--
The counter values that `NormalizeUint64` takes for not applicable, all ones in one of the four sizes.
-/
def NotApplicable (x : UInt64) : Prop :=
  x.toNat = 2 ^ 64 - 1 ∨ x.toNat = 2 ^ 32 - 1 ∨ x.toNat = 2 ^ 16 - 1 ∨ x.toNat = 2 ^ 8 - 1

instance (x : UInt64) : Decidable (NotApplicable x) :=
  inferInstanceAs (Decidable (_ ∨ _ ∨ _ ∨ _))

namespace EccField

variable (ga : GPUAgentGPUClient) (gpuid : String) (f : EccField)

theorem count_of_mocked (stats : GPUStats) (h : 0 < ga.getMockError gpuid f.name)
    : f.count ga gpuid stats = (ga.getMockError gpuid f.name).toNat := by
  simp only [count, gt_iff_lt, if_pos h]

theorem count_of_notApplicable (stats : GPUStats) (hmock : ¬0 < ga.getMockError gpuid f.name)
    (h : NotApplicable (f.counter stats))
    : f.count ga gpuid stats = 0 := by
  simp only [count, gt_iff_lt, if_neg hmock]
  apply if_pos h

theorem count_of_applicable (stats : GPUStats) (hmock : ¬0 < ga.getMockError gpuid f.name)
    (h : ¬NotApplicable (f.counter stats))
    : f.count ga gpuid stats = (f.counter stats).toNat := by
  simp only [count, gt_iff_lt, if_neg hmock]
  apply if_neg h

/--
A counter that grows from `u` to `v` without turning into a value for not applicable. A mocked counter
is not read.
-/
structure Grows (u v : GPUStats) : Prop where
  le : f.counter u ≤ f.counter v
  applicable : NotApplicable (f.counter v) →
    NotApplicable (f.counter u) ∨ 0 < ga.getMockError gpuid f.name

theorem count_le_count {u v : GPUStats} (h : f.Grows ga gpuid u v)
    : f.count ga gpuid u ≤ f.count ga gpuid v := by
  by_cases hmock : 0 < ga.getMockError gpuid f.name
  . rw [count_of_mocked ga gpuid f u hmock, count_of_mocked ga gpuid f v hmock]
  . by_cases hu : NotApplicable (f.counter u)
    . rw [count_of_notApplicable ga gpuid f u hmock hu]
      apply Nat.zero_le
    . have hv : ¬NotApplicable (f.counter v) := by
        intro hv
        rcases h.applicable hv with hu' | hmock'
        . exact hu hu'
        . exact hmock hmock'
      rw [count_of_applicable ga gpuid f u hmock hu, count_of_applicable ga gpuid f v hmock hv]
      exact UInt64.le_iff_toNat_le.mp h.le

end EccField

namespace GPUAgentGPUClient

variable (ga : GPUAgentGPUClient) (thresholds : GPUHealthThresholds)

theorem eccExceeded_mono (gpu : GPU) {u v : GPUStats}
    (hgrows : ∀ f : EccField, f.Grows ga (getGPUInstanceIDString gpu) u v)
    (h : ga.eccExceeded thresholds { gpu with stats := some u } = true)
    : ga.eccExceeded thresholds { gpu with stats := some v } = true := by
  rw [eccExceeded_eq_true] at h ⊢
  rcases h with ⟨_, hstats, f, hf⟩
  cases hstats
  refine ⟨v, rfl, f, ?_⟩
  apply Nat.lt_of_lt_of_le hf (EccField.count_le_count _ _ f (hgrows f))

/--
The verdict on a GPU in the health map that a pass over the counters has built.
-/
def MarkedUnhealthy (newGPUState : Option (GoMap String GPUState)) (gpuid : String) : Prop :=
  ∃ m state, newGPUState = some m ∧ m.lookup gpuid = some state ∧ state.health = .UNHEALTHY

section Mono

variable [CaseMap] (wls : GoMap String Workload)

theorem markedUnhealthy_iff (gpus : List GPU) (gpuid : String)
    : MarkedUnhealthy (ga.processEccErrorMetrics thresholds gpus wls) gpuid
        ↔ (gpus.all (·.stats.isSome) = true) ∧ ∃ gpu,
          lastWith getGPUInstanceIDString gpus gpuid = some gpu
            ∧ ga.eccExceeded thresholds gpu = true := by
  rw [processEccErrorMetrics_eq]
  constructor
  . rintro ⟨m, state, hm, hstate, hhealth⟩
    split at hm
    . next hall =>
      cases hm
      rw [lookup_insertEach_empty, Option.map_eq_some_iff] at hstate
      rcases hstate with ⟨gpu, hgpu, rfl⟩
      exact ⟨hall, gpu, hgpu, (eccHealth_eq_unhealthy ga thresholds gpu).mp hhealth⟩
    . cases hm
  . rintro ⟨hall, gpu, hgpu, hexceeded⟩
    refine ⟨_, ga.eccState thresholds wls gpu, if_pos hall, ?_, ?_⟩
    . rw [lookup_insertEach_empty, hgpu]
      rfl
    . exact (eccHealth_eq_unhealthy ga thresholds gpu).mpr hexceeded

theorem markedUnhealthy_mono (before after : List GPU) (gpu : GPU) (u v : GPUStats)
    (hgrows : ∀ f : EccField, f.Grows ga (getGPUInstanceIDString gpu) u v)
    (h : MarkedUnhealthy
      (ga.processEccErrorMetrics thresholds (before ++ { gpu with stats := some u } :: after) wls)
      (getGPUInstanceIDString gpu))
    : MarkedUnhealthy
      (ga.processEccErrorMetrics thresholds (before ++ { gpu with stats := some v } :: after) wls)
      (getGPUInstanceIDString gpu) := by
  have hid (s : GPUStats)
      : getGPUInstanceIDString { gpu with stats := some s } = getGPUInstanceIDString gpu := rfl
  rw [markedUnhealthy_iff] at h ⊢
  rcases h with ⟨hall, gpu', hlast, hexceeded⟩
  refine ⟨by simpa using hall, ?_⟩
  -- The entry is that of the last GPU with the index, which may be a later one of the list.
  rw [lastWith_append, lastWith_cons, hid, if_pos rfl] at hlast ⊢
  cases hafter : lastWith getGPUInstanceIDString after (getGPUInstanceIDString gpu) with
  | some later =>
    rw [hafter] at hlast
    exact ⟨gpu', hlast, hexceeded⟩
  | none =>
    rw [hafter] at hlast
    cases hlast
    exact ⟨_, rfl, eccExceeded_mono ga thresholds gpu hgrows hexceeded⟩

end Mono

section Instances

theorem markedUnhealthy_mono_sdma
    : @MarkedUnhealthy (@processEccErrorMetrics CaseMap.ascii (newGPUAgentGPUClient ∅) {}
        [⟨⟨[], .NONE, .NONE⟩, { index := 0 }, some { sdmaUncorrectableErrors := 300 }⟩] ∅) "0" := by
  let _ := CaseMap.ascii
  apply markedUnhealthy_mono _ {} ∅ [] [] ⟨⟨[], .NONE, .NONE⟩, { index := 0 }, none⟩
    { sdmaUncorrectableErrors := 254 } { sdmaUncorrectableErrors := 300 }
  . intro f
    constructor
    . cases f <;> decide
    . cases f <;> decide
  . exact (markedUnhealthy_iff _ _ _ _ _).mpr ⟨rfl, _, rfl, by decide⟩

theorem not_markedUnhealthy_mono
    : ¬∀ (_ : CaseMap) (ga : GPUAgentGPUClient) (thresholds : GPUHealthThresholds)
        (wls : GoMap String Workload) (before after : List GPU) (gpu : GPU) (u v : GPUStats),
        (∀ f : EccField, f.counter u ≤ f.counter v ∧ (f.counter u).toNat ≠ 2 ^ 64 - 1
          ∧ (f.counter v).toNat ≠ 2 ^ 64 - 1) →
        MarkedUnhealthy
          (ga.processEccErrorMetrics thresholds (before ++ { gpu with stats := some u } :: after) wls)
          (getGPUInstanceIDString gpu) →
        MarkedUnhealthy
          (ga.processEccErrorMetrics thresholds (before ++ { gpu with stats := some v } :: after) wls)
          (getGPUInstanceIDString gpu) := by
  -- One more error takes the counter from 254 to 255, which reads as no error.
  intro h
  let _ := CaseMap.ascii
  have hv := h CaseMap.ascii (newGPUAgentGPUClient ∅) {} ∅ [] []
    ⟨⟨[], .NONE, .NONE⟩, { index := 0 }, none⟩
    { sdmaUncorrectableErrors := 254 } { sdmaUncorrectableErrors := 255 }
    (by intro f; cases f <;> decide)
    ((markedUnhealthy_iff _ _ _ _ _).mpr ⟨rfl, _, rfl, by decide⟩)
  rw [markedUnhealthy_iff] at hv
  rcases hv with ⟨-, gpu, hlast, hexceeded⟩
  cases hlast
  revert hexceeded
  decide

end Instances

end GPUAgentGPUClient

end GPUAgent
