import DeviceMetricsExporter.Lib.RangeOrder
import DeviceMetricsExporter.Testrunner.Lemmas.Agfhc
import DeviceMetricsExporter.Testrunner.Lemmas.Rvs

/-!
This module contains when no failure is masked by a later result for the same GPU and the same test.
-/

namespace Testrunner

section Rvs

variable (data : RvsTestResult)

/--
Some suite has a record that is neither empty nor a success.
-/
def HasFailingRecord (gpuID name : String) : Prop :=
  ∃ e ∈ data.testSuites.entries, ∃ records, e.2.lookup name = some records ∧
    ∃ gpu ∈ records, gpu.gpuID = gpuID ∧ gpu.pass ≠ "" ∧ gpu.pass ≠ "true"

/--
The same document, with the suites and the actions of each of them visited in another order.
-/
def RvsTestResult.Reordered (data' : RvsTestResult) : Prop :=
  GoMap.Matches Eq (fun suite suite' : GoMap String (List RvsGPUTestResult) =>
    suite'.entries.Perm suite.entries) data.testSuites data'.testSuites

def RvsUnmasked : Prop :=
  ∀ data', data.Reordered data' → ∀ gpuID name, HasFailingRecord data gpuID name →
    data'.testResult.cell gpuID name = some .Failure

/--
Where there is a failing record, every suite with a record for the same GPU and action has a failing
one as the last of them.
-/
def LastRecordsFail : Prop :=
  ∀ gpuID name, HasFailingRecord data gpuID name →
    ∀ e ∈ data.testSuites.entries, ∀ records, e.2.lookup name = some records →
      ∀ gpu, lastRecord records gpuID = some gpu → gpu.pass ≠ "true"

variable {data}

theorem getTestResultEnum_eq_failure_iff {pass : String}
    : getTestResultEnum pass = .Failure ↔ pass ≠ "true" := by
  rw [getTestResultEnum]
  split
  . next h => simp [h]
  . next h => simp [h]

theorem exists_lastRecord {records : List RvsGPUTestResult} {gpu : RvsGPUTestResult}
    (hgpu : gpu ∈ records) (hpass : gpu.pass ≠ "")
    : ∃ gpu', lastRecord records gpu.gpuID = some gpu' := by
  cases hlast : lastRecord records gpu.gpuID with
  | some gpu' => exact ⟨gpu', rfl⟩
  | none =>
    rw [lastRecord, GoMap.lastWith_eq_none] at hlast
    exact absurd rfl (hlast gpu (List.mem_filter.mpr ⟨hgpu, by simpa using hpass⟩))

theorem rvsUnmasked_iff : RvsUnmasked data ↔ LastRecordsFail data := by
  constructor
  . intro h gpuID name hfailing e he records hlookup gpu hlast
    -- the suite is visited last
    rcases GoMap.exists_perm_last data.testSuites he with ⟨m, hperm, es, hentries⟩
    have hreordered : data.Reordered { data with testSuites := m } :=
      GoMap.Matches.of_perm (fun suite => List.Perm.refl suite.entries) hperm
    have hcell := h _ hreordered gpuID name hfailing
    rw [testResult_eq, GoMap.cell_assignEach, hentries, List.flatMap_append, List.flatMap_singleton,
      GoMap.lastAssigned_append, lastAssigned_suiteAssignments, hlookup, Option.bind_some, hlast]
      at hcell
    apply getTestResultEnum_eq_failure_iff.mp
    exact Option.some.inj hcell
  . intro h data' hreordered gpuID name hfailing
    have hlast := h gpuID name hfailing
    rcases hfailing with ⟨e, he, records, hlookup, gpu, hgpu, rfl, hpass, -⟩
    rw [testResult_eq, GoMap.cell_assignEach, Option.or_eq_some_iff]
    apply Or.inl
    have hsuite {e e' : Sigma fun _ : String => GoMap String (List RvsGPUTestResult)}
        (hperm : e'.2.entries.Perm e.2.entries) : e'.2.lookup name = e.2.lookup name :=
      AList.perm_lookup hperm
    apply GoMap.lastAssigned_flatMap_of_forall
    . rcases hreordered.exists_right he with ⟨e', he', -, hperm⟩
      rcases exists_lastRecord hgpu hpass with ⟨gpu', hgpu'⟩
      refine ⟨e', he', ?_⟩
      rw [lastAssigned_suiteAssignments, hsuite hperm, hlookup, Option.bind_some, hgpu',
        Option.map_some, getTestResultEnum_eq_failure_iff.mpr (hlast e he records hlookup gpu' hgpu')]
    . intro e' he' v hv
      rcases hreordered.exists_left he' with ⟨e, he, -, hperm⟩
      rw [lastAssigned_suiteAssignments, hsuite hperm, Option.bind_eq_some_iff] at hv
      rcases hv with ⟨records, hlookup, hv⟩
      rcases Option.map_eq_some_iff.mp hv with ⟨gpu', hgpu', rfl⟩
      exact getTestResultEnum_eq_failure_iff.mpr (hlast e he records hlookup gpu' hgpu')

theorem failure_of_parseRvsTestResult {json : Unmarshal} {file : Except String Bytes}
    {testResult : GoMap String TestResults}
    (hparse : parseRvsTestResult json file = .ok testResult)
    : ∃ b data, file = .ok b ∧ unmarshalWithRetries json b = .ok data ∧
        (LastRecordsFail data → ∀ gpuID name, HasFailingRecord data gpuID name →
          testResult.cell gpuID name = some .Failure) := by
  rcases parseRvsTestResult_eq_ok_iff.mp hparse with ⟨b, data, hfile, hread, rfl⟩
  refine ⟨b, data, hfile, hread, ?_⟩
  intro hlast
  apply rvsUnmasked_iff.mpr hlast
  exact GoMap.Matches.refl (fun suite => List.Perm.refl suite.entries) _

end Rvs

section Agfhc

variable [CaseMap] (data : AgfhcTestResult)

def AgfhcUnmasked : Prop :=
  ∀ range, data.Ranges range → ∀ id ∈ data.deviceIDs, ∀ info ∈ data.infos,
    info.resultFor id = .Failure → FailsFor data.deviceIDs range id info.test

/--
Where a test fails for a device, every device has a number, and all results of this test are failures
for the device that is listed last with the same number.
-/
def LastResultsFail : Prop :=
  ∀ id ∈ data.deviceIDs, ∀ info ∈ data.infos, info.resultFor id = .Failure →
    (∀ id ∈ data.deviceIDs, (removeLeadingZeros id).isSome = true) ∧
      ∀ id', GoMap.lastWith removeLeadingZeros data.deviceIDs (removeLeadingZeros id) = some id' →
        ∀ info' ∈ data.infos, info'.test = info.test → info'.resultFor id' = .Failure

variable {data}

omit [CaseMap] in
theorem exists_range_of_mem {range : Nat → List TestResultInfo} (hranges : data.Ranges range)
    {info : TestResultInfo} (hinfo : info ∈ data.infos) (n : Nat)
    : ∃ info' ∈ range n, info'.test = info.test :=
  ⟨info, (hranges n).mem_iff.mpr hinfo, rfl⟩

theorem agfhcUnmasked_iff : AgfhcUnmasked data ↔ LastResultsFail data := by
  constructor
  . intro h id hid info hinfo hfailure
    have hranges₀ : data.Ranges fun _ => data.infos := fun _ => List.Perm.refl _
    refine ⟨isSome_of_failsFor (h _ hranges₀ id hid info hinfo hfailure), ?_⟩
    intro id' hid' info' hinfo' htest
    -- the result is visited last in every range
    rcases List.append_of_mem hinfo' with ⟨l, l', hinfos⟩
    have hranges : data.Ranges fun _ => (l ++ l') ++ [info'] := by
      intro _
      rw [hinfos]
      exact (List.perm_append_singleton info' (l ++ l')).trans List.perm_middle.symm
    have hfails := h _ hranges id hid info hinfo hfailure
    rcases exists_failsFor_iff hid (isSome_of_failsFor hfails) (exists_range_of_mem hranges hinfo)
      with ⟨n, id'', hid'', hiff⟩
    rw [hid'] at hid''
    cases hid''
    have hlast := hiff.mp hfails
    rw [GoMap.lastWith_append, GoMap.lastWith_cons, if_pos htest] at hlast
    exact Option.some.inj hlast
  . intro h range hranges id hid info hinfo hfailure
    rcases h id hid info hinfo hfailure with ⟨hsome, hlast⟩
    rcases exists_failsFor_iff hid hsome (exists_range_of_mem hranges hinfo) with ⟨n, id', hid', hiff⟩
    rw [hiff]
    cases hinfo' : GoMap.lastWith (·.test) (range n) info.test with
    | none =>
      rw [GoMap.lastWith_eq_none] at hinfo'
      exact absurd rfl (hinfo' info ((hranges n).mem_iff.mpr hinfo))
    | some info' =>
      rcases GoMap.mem_of_lastWith _ hinfo' with ⟨hmem, htest⟩
      rw [Option.map_some, hlast id' hid' info' ((hranges n).mem_iff.mp hmem) htest]

end Agfhc

section Instances

/--
No failure is masked exactly if the results that are written last are failures in every order.
-/
theorem unmasked_iff [CaseMap] (rvs : RvsTestResult) (agfhc : AgfhcTestResult)
    : (RvsUnmasked rvs ↔ LastRecordsFail rvs) ∧ (AgfhcUnmasked agfhc ↔ LastResultsFail agfhc) :=
  ⟨rvsUnmasked_iff, agfhcUnmasked_iff⟩

def twoRecords : RvsTestResult where
  testSuites := (∅ : GoMap String (GoMap String (List RvsGPUTestResult))).insert "rvs"
    ((∅ : GoMap String (List RvsGPUTestResult)).insert "gst"
      [{ gpuID := "0", pass := "false" }, { gpuID := "0", pass := "true" }])

def twoResults : AgfhcTestResult where
  deviceIDs := ["GPU-00"]
  testResults := ((∅ : GoMap String TestResultInfo).insert "2" ⟨"hbm", "passed", ""⟩).insert "1"
    ⟨"hbm", "failed", ""⟩

/--
A second record for the GPU masks a failure of RVS, a second result of the test one of AGFHC.
-/
theorem not_unmasked : (¬∀ rvs, RvsUnmasked rvs) ∧ ¬∀ (_ : CaseMap) agfhc, AgfhcUnmasked agfhc := by
  constructor
  . intro h
    have hcell := h twoRecords twoRecords
      (GoMap.Matches.refl (fun suite => List.Perm.refl suite.entries) _) "0" "gst"
      ⟨_, List.mem_cons_self, _, rfl, _, List.mem_cons_self, rfl, by decide, by decide⟩
    exact absurd hcell (by decide)
  . intro h
    have hfails := h CaseMap.ascii twoResults (fun _ => twoResults.infos)
      (fun _ => List.Perm.refl _) "GPU-00" List.mem_cons_self ⟨"hbm", "failed", ""⟩
      List.mem_cons_self (by decide)
    rcases hfails with ⟨m, gpuID, hparse, hgpuID, hfailure⟩
    cases hgpuID
    cases hparse
    exact absurd hfailure (by decide)

end Instances

end Testrunner
