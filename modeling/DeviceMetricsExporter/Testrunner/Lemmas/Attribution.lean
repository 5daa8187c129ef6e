import DeviceMetricsExporter.Testrunner.Lemmas.Agfhc

/-!
This module contains when a failed test of AGFHC is attributed to a device: the subject of the failure
must spell the ids of its devices as the list of devices does.
-/

namespace Testrunner

def gpuNumber (id : String) : Option Nat :=
  match id.toList with
  | 'G' :: 'P' :: 'U' :: '-' :: cs => digitsValue cs
  | _ => none

section Attribution

variable [CaseMap] (data : AgfhcTestResult)

/--
Some device gets the failure, and so does each one the subject names.
-/
def Attributed (range : Nat → List TestResultInfo) (info : TestResultInfo) : Prop :=
  (∃ id ∈ data.deviceIDs, FailsFor data.deviceIDs range id info.test) ∧
    ∀ s ∈ split info.subject ':', ∀ n, gpuNumber s = some n → ∀ id ∈ data.deviceIDs,
      gpuNumber id = some n → FailsFor data.deviceIDs range id info.test

def AlwaysAttributed : Prop :=
  ∀ range, data.Ranges range → ∀ info ∈ data.infos,
    toLower info.state = agfhcTestStateFailed → Attributed data range info

/--
The device that is listed last with the number of `id` is a part of the subject, letter by letter.
-/
def Spelled (deviceIDs : List String) (info : TestResultInfo) (id : String) : Prop :=
  ∃ id', GoMap.lastWith removeLeadingZeros deviceIDs (removeLeadingZeros id) = some id' ∧
    id' ∈ split info.subject ':'

/--
Every device has a number. The subject of a failed test is not about devices, or it spells one of them
and each one that it names.
-/
def SubjectsSpelled : Prop :=
  ∀ info ∈ data.infos, toLower info.state = agfhcTestStateFailed →
    (∀ id ∈ data.deviceIDs, (removeLeadingZeros id).isSome = true) ∧
      (Unattributed info.subject ∨
        (∃ id ∈ data.deviceIDs, Spelled data.deviceIDs info id) ∧
          ∀ s ∈ split info.subject ':', ∀ n, gpuNumber s = some n → ∀ id ∈ data.deviceIDs,
            gpuNumber id = some n → Spelled data.deviceIDs info id)

variable {data}

omit [CaseMap] in
theorem lastWith_of_distinct {results : List TestResultInfo} (hperm : results.Perm data.infos)
    (hnodup : (data.infos.map (·.test)).Nodup) {info : TestResultInfo} (hinfo : info ∈ data.infos)
    : GoMap.lastWith (·.test) results info.test = some info := by
  have hnodup' : (results.map (·.test)).Nodup := (hperm.map (·.test)).nodup_iff.mpr hnodup
  apply GoMap.lastWith_of_nodup (·.test) hnodup' (hperm.mem_iff.mpr hinfo)

theorem failsFor_iff {range : Nat → List TestResultInfo} (hranges : data.Ranges range)
    (hnodup : (data.infos.map (·.test)).Nodup) {info : TestResultInfo} (hinfo : info ∈ data.infos)
    (hstate : toLower info.state = agfhcTestStateFailed)
    (hsome : ∀ id ∈ data.deviceIDs, (removeLeadingZeros id).isSome = true) {id : String}
    (hid : id ∈ data.deviceIDs)
    : FailsFor data.deviceIDs range id info.test ↔
        Unattributed info.subject ∨ Spelled data.deviceIDs info id := by
  have htest (n : Nat) : ∃ info' ∈ range n, info'.test = info.test :=
    ⟨info, (hranges n).mem_iff.mpr hinfo, rfl⟩
  rcases exists_failsFor_iff hid hsome htest with ⟨n, id', hid', hiff⟩
  rw [hiff, lastWith_of_distinct (hranges n) hnodup hinfo, Option.map_some, Option.some.injEq,
    resultFor_eq_failure_iff hstate, Spelled, hid']
  simp

theorem attributed_iff {range : Nat → List TestResultInfo} (hranges : data.Ranges range)
    (hne : data.deviceIDs ≠ []) (hnodup : (data.infos.map (·.test)).Nodup) {info : TestResultInfo}
    (hinfo : info ∈ data.infos) (hstate : toLower info.state = agfhcTestStateFailed)
    : Attributed data range info ↔
        (∀ id ∈ data.deviceIDs, (removeLeadingZeros id).isSome = true) ∧
          (Unattributed info.subject ∨
            (∃ id ∈ data.deviceIDs, Spelled data.deviceIDs info id) ∧
              ∀ s ∈ split info.subject ':', ∀ n, gpuNumber s = some n → ∀ id ∈ data.deviceIDs,
                gpuNumber id = some n → Spelled data.deviceIDs info id) := by
  constructor
  . rintro ⟨⟨id, hid, hfails⟩, hnamed⟩
    have hsome := isSome_of_failsFor hfails
    have hiff {id : String} (hid : id ∈ data.deviceIDs) :=
      failsFor_iff hranges hnodup hinfo hstate hsome hid
    refine ⟨hsome, ?_⟩
    by_cases hunattributed : Unattributed info.subject
    . exact Or.inl hunattributed
    . apply Or.inr
      constructor
      . exact ⟨id, hid, ((hiff hid).mp hfails).resolve_left hunattributed⟩
      . intro s hs n hn id hid hid'
        exact ((hiff hid).mp (hnamed s hs n hn id hid hid')).resolve_left hunattributed
  . rintro ⟨hsome, hsubject⟩
    have hiff {id : String} (hid : id ∈ data.deviceIDs) :=
      failsFor_iff hranges hnodup hinfo hstate hsome hid
    rcases hsubject with hunattributed | ⟨⟨id, hid, hspelled⟩, hnamed⟩
    . constructor
      . rcases List.exists_mem_of_ne_nil _ hne with ⟨id, hid⟩
        exact ⟨id, hid, (hiff hid).mpr (Or.inl hunattributed)⟩
      . intro s _ n _ id hid _
        exact (hiff hid).mpr (Or.inl hunattributed)
    . constructor
      . exact ⟨id, hid, (hiff hid).mpr (Or.inr hspelled)⟩
      . intro s hs n hn id hid hid'
        exact (hiff hid).mpr (Or.inr (hnamed s hs n hn id hid hid'))

end Attribution

section Instances

theorem alwaysAttributed_iff [CaseMap] (data : AgfhcTestResult) (hne : data.deviceIDs ≠ [])
    (hnodup : (data.infos.map (·.test)).Nodup) : AlwaysAttributed data ↔ SubjectsSpelled data := by
  constructor
  . intro h info hinfo hstate
    have hranges : data.Ranges fun _ => data.infos := fun _ => List.Perm.refl _
    apply (attributed_iff hranges hne hnodup hinfo hstate).mp
    exact h _ hranges info hinfo hstate
  . intro h range hranges info hinfo hstate
    apply (attributed_iff hranges hne hnodup hinfo hstate).mpr
    exact h info hinfo hstate

def failedOn (subject : String) : AgfhcTestResult where
  deviceIDs := ["GPU-00", "GPU-01"]
  testResults := (∅ : GoMap String TestResultInfo).insert "1" ⟨"hbm", "failed", subject⟩

theorem alwaysAttributed_iff_failedOn
    : @AlwaysAttributed CaseMap.ascii (failedOn "GPU-01")
        ↔ @SubjectsSpelled CaseMap.ascii (failedOn "GPU-01") :=
  @alwaysAttributed_iff CaseMap.ascii (failedOn "GPU-01") (by decide) (by decide)

theorem not_alwaysAttributed
    : ¬∀ (_ : CaseMap) (data : AgfhcTestResult), data.deviceIDs ≠ [] →
        (data.infos.map (·.test)).Nodup → AlwaysAttributed data := by
  -- the subject names a device of the list without its zero padding
  intro h
  have hattributed := h CaseMap.ascii (failedOn "GPU-1") (by decide) (by decide)
    (fun _ => (failedOn "GPU-1").infos) (fun _ => List.Perm.refl _) ⟨"hbm", "failed", "GPU-1"⟩
    List.mem_cons_self (by decide)
  rcases hattributed with ⟨⟨id, hid, m, gpuID, hparse, hgpuID, hfailure⟩, -⟩
  cases hparse
  rcases List.mem_cons.mp hid with rfl | hid
  . cases hgpuID
    exact absurd hfailure (by decide)
  . rcases List.mem_singleton.mp hid with rfl
    cases hgpuID
    exact absurd hfailure (by decide)

end Instances

end Testrunner
