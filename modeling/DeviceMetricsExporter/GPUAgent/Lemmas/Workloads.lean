import DeviceMetricsExporter.Exporter.Lemmas.PodResources
import DeviceMetricsExporter.GPUAgent.Impl.Workloads

/-!
This module contains through which identifiers a GPU gets its workloads. All identifiers but the DRA key
are looked up also if they are empty, which finds a workload if a scheduler has allocated a device
without a name.
-/

namespace GPUAgent

open Exporter

section Slurm

/--
A file event together with the directory as it is when the event is handled.
-/
abbrev FileEvent := GoMap String FileContent × FsEvent

def slurmJobs (history : List FileEvent) : GoMap String JobInfo :=
  history.foldl (fun gpuJobs e => handleEvent e.1 gpuJobs e.2) ∅

/--
The job file that is read has an empty element in its list of GPUs.
-/
def ReadsEmptyGPU (e : FileEvent) : Prop :=
  ∃ name jobEnv, e.2 = .write name ∧ (atoi name).isSome = true ∧ e.1.lookup name = some (some jobEnv)
    ∧ "" ∈ allocGPUs jobEnv

theorem mem_processSlurm {gpuJobs : GoMap String JobInfo} {buff : FileContent} {k : String}
    : k ∈ processSlurm gpuJobs buff ↔ k ∈ gpuJobs ∨ ∃ jobEnv, buff = some jobEnv ∧ k ∈ allocGPUs jobEnv := by
  cases buff with
  | none => simp [processSlurm]
  | some jobEnv =>
    rw [processSlurm, ← AList.lookup_isSome, GoMap.lookup_setAll]
    split
    . next h => simp [h]
    . next h => simp [h, AList.lookup_isSome]

theorem empty_mem_handleEvent (gpuJobs : GoMap String JobInfo) (e : FileEvent)
    : "" ∈ handleEvent e.1 gpuJobs e.2 ↔ "" ∈ gpuJobs ∨ ReadsEmptyGPU e := by
  rcases e with ⟨dir, event⟩
  cases event with
  | remove name =>
    simp only [handleEvent, ReadsEmptyGPU, reduceCtorEq, false_and, exists_false, or_false]
    split
    . rfl
    . next hatoi =>
      -- no number is empty
      have hne : "" ≠ name := by
        rintro rfl
        exact hatoi (by decide)
      rw [AList.mem_erase]
      simp [hne]
  | write name =>
    simp only [handleEvent, ReadsEmptyGPU, FsEvent.write.injEq, exists_and_left]
    cases hatoi : atoi name with
    | none => simp [hatoi]
    | some n =>
      cases hdir : dir.lookup name with
      | none => simp [hatoi, hdir]
      | some data => simp [hatoi, hdir, mem_processSlurm]

theorem empty_mem_slurmJobs (history : List FileEvent)
    : "" ∈ slurmJobs history ↔ ∃ e ∈ history, ReadsEmptyGPU e := by
  have hfold (gpuJobs : GoMap String JobInfo)
      : "" ∈ history.foldl (fun gpuJobs e => handleEvent e.1 gpuJobs e.2) gpuJobs
          ↔ "" ∈ gpuJobs ∨ ∃ e ∈ history, ReadsEmptyGPU e := by
    induction history generalizing gpuJobs with
    | nil => simp
    | cons e history ih =>
      rw [List.foldl_cons, ih, empty_mem_handleEvent, List.exists_mem_cons_iff, or_assoc]
  rw [slurmJobs, hfold]
  simp

end Slurm

section Merged

variable [CaseMap]

namespace Schedulers

theorem mem_listWorkloads (ga : Schedulers) (k : String)
    : k ∈ ga.listWorkloads.1
        ↔ ∃ k8sWls, ga.k8sWorkloads = .ok k8sWls ∧
          (k ∈ k8sWls ∨ ∃ gpuJobs, ga.slurmScheduler = some gpuJobs ∧ k ∈ gpuJobs) := by
  unfold listWorkloads
  cases ga.k8sWorkloads with
  | error err => simp
  | ok k8sWls =>
    have hk8s : k ∈ GoMap.insertEach ∅ k8sWls.entries (·.1) (·.2) ↔ k ∈ k8sWls := by
      rw [GoMap.mem_insertEach_empty, GoMap.mem_iff_entries]
    cases ga.slurmScheduler with
    | none => simp [hk8s]
    | some gpuJobs =>
      have hslurm : (∃ e ∈ (slurmWorkloads gpuJobs).entries, e.1 = k) ↔ k ∈ gpuJobs := by
        rw [← GoMap.mem_iff_entries]
        exact GoMap.mem_map_iff
      simp [GoMap.mem_insertEach, hk8s, hslurm]

end Schedulers

/--
The schedulers of an agent, with the events that the Slurm client has handled so far.
-/
structure SchedulerInput where
  isKubernetes : Bool
  k8sScheduler : Option PodResourcesClient.Kubelet
  slurmEvents : Option (List FileEvent)

namespace SchedulerInput

variable (input : SchedulerInput)

def wls : GoMap String Workload :=
  (Schedulers.listWorkloads
    { isKubernetes := input.isKubernetes
      k8sScheduler := input.k8sScheduler
      slurmScheduler := input.slurmEvents.map slurmJobs }).1

omit [CaseMap] in
def pods : Except String (List PodResources) :=
  match input.isKubernetes, input.k8sScheduler with
  | true, some k8sScheduler => PodResourcesClient.podResources k8sScheduler
  | _, _ => .ok []

/--
A scheduler has allocated a device without a name: a container holds an empty id, or a job file with an
empty element has been read. Slurm is not asked if the kubelet has failed.
-/
def EmptyAllocated : Prop :=
  ∃ pods, input.pods = .ok pods ∧
    (PodResourcesClient.Held (PodResourcesClient.firstMode (PodResourcesClient.containersOf pods))
        (PodResourcesClient.containersOf pods) "" ∨
      ∃ events, input.slurmEvents = some events ∧ ∃ e ∈ events, ReadsEmptyGPU e)

theorem empty_mem_wls : "" ∈ input.wls ↔ input.EmptyAllocated := by
  have hpods : Schedulers.k8sWorkloads ⟨input.isKubernetes, input.k8sScheduler,
      input.slurmEvents.map slurmJobs⟩ = input.pods.map PodResourcesClient.listPods := by
    rcases input with ⟨isKubernetes, k8sScheduler, slurmEvents⟩
    cases isKubernetes with
    | false => rfl
    | true =>
      cases k8sScheduler with
      | none => rfl
      | some kubelet => rfl
  rw [wls, Schedulers.mem_listWorkloads, hpods, EmptyAllocated]
  cases input.pods with
  | error err => simp [Except.map]
  | ok pods =>
    have hjobs : (∃ gpuJobs, input.slurmEvents.map slurmJobs = some gpuJobs ∧ "" ∈ gpuJobs)
        ↔ ∃ events, input.slurmEvents = some events ∧ ∃ e ∈ events, ReadsEmptyGPU e := by
      cases input.slurmEvents with
      | none => simp
      | some events => simp [empty_mem_slurmJobs]
    simp only [Except.map, Except.ok.injEq, exists_eq_left', hjobs, PodResourcesClient.mem_listPods]

end SchedulerInput

end Merged

section Attached

namespace GPUIDMeta

def identifiers (gpuMeta : GPUIDMeta) : List String :=
  [gpuMeta.draKey, gpuMeta.pcieBusId, gpuMeta.deviceName, gpuMeta.renderID, gpuMeta.gpuID]

structure Named (gpuMeta : GPUIDMeta) : Prop where
  pcieBusId : gpuMeta.pcieBusId ≠ ""
  deviceName : gpuMeta.deviceName ≠ ""
  renderID : gpuMeta.renderID ≠ ""
  gpuID : gpuMeta.gpuID ≠ ""

theorem not_named_iff (gpuMeta : GPUIDMeta)
    : ¬gpuMeta.Named
        ↔ "" ∈ [gpuMeta.pcieBusId, gpuMeta.deviceName, gpuMeta.renderID, gpuMeta.gpuID] := by
  constructor
  . intro h
    by_contra hmem
    simp only [List.mem_cons, List.not_mem_nil, or_false, not_or] at hmem
    exact h ⟨Ne.symm hmem.1, Ne.symm hmem.2.1, Ne.symm hmem.2.2.1, Ne.symm hmem.2.2.2⟩
  . intro hmem h
    rcases h with ⟨hpcie, hdevice, hrender, hgpu⟩
    simp [Ne.symm hpcie, Ne.symm hdevice, Ne.symm hrender, Ne.symm hgpu] at hmem

end GPUIDMeta

namespace GPUAgentGPUClient

variable {ga : GPUAgentGPUClient} {wls : GoMap String Workload} {gpuID : String} {gpuMeta : GPUIDMeta}

theorem mem_getWorkloadInfo (hmeta : ga.gpuIDMap.lookup gpuID = some gpuMeta) {wl : Workload}
    : wl ∈ ga.getWorkloadInfo wls gpuID
        ↔ (∃ id ∈ gpuMeta.identifiers, id ≠ "" ∧ wls.lookup id = some wl)
          ∨ ¬gpuMeta.Named ∧ wls.lookup "" = some wl := by
  have hkeys (id : String)
      : id ∈ (if gpuMeta.draKey ≠ "" then [gpuMeta.draKey] else [])
            ++ [gpuMeta.pcieBusId, gpuMeta.deviceName, gpuMeta.renderID, gpuMeta.gpuID]
          ↔ id ∈ gpuMeta.identifiers ∧ id ≠ "" ∨ ¬gpuMeta.Named ∧ id = "" := by
    rw [gpuMeta.not_named_iff]
    simp only [GPUIDMeta.identifiers]
    by_cases hdra : gpuMeta.draKey = ""
    . grind
    . grind
  rw [getWorkloadInfo, hmeta]
  simp only [List.mem_filterMap, hkeys]
  grind

/--
What a GPU gets is stored under an identifier of its own, so that a GPU gets nothing if nothing is
stored under these.
-/
structure OwnWorkloads (ga : GPUAgentGPUClient) (wls : GoMap String Workload) (gpuID : String)
    (gpuMeta : GPUIDMeta) : Prop where
  attached : ∀ wl ∈ ga.getWorkloadInfo wls gpuID,
    ∃ id ∈ gpuMeta.identifiers, id ≠ "" ∧ wls.lookup id = some wl
  unallocated : (∀ id ∈ gpuMeta.identifiers, id ≠ "" → id ∉ wls) → ga.getWorkloadInfo wls gpuID = []

theorem ownWorkloads_iff (hmeta : ga.gpuIDMap.lookup gpuID = some gpuMeta)
    : ga.OwnWorkloads wls gpuID gpuMeta
        ↔ gpuMeta.Named ∨ "" ∉ wls ∨
          ∃ id ∈ gpuMeta.identifiers, id ≠ "" ∧ wls.lookup id = wls.lookup "" := by
  constructor
  . intro h
    by_cases hnamed : gpuMeta.Named
    . exact Or.inl hnamed
    . by_cases hmem : "" ∈ wls
      . rw [← AList.lookup_isSome, Option.isSome_iff_exists] at hmem
        rcases hmem with ⟨wl, hwl⟩
        rcases h.attached wl ((mem_getWorkloadInfo hmeta).mpr (Or.inr ⟨hnamed, hwl⟩)) with
          ⟨id, hid, hne, hlookup⟩
        exact Or.inr (Or.inr ⟨id, hid, hne, hlookup.trans hwl.symm⟩)
      . exact Or.inr (Or.inl hmem)
  . intro h
    have hattached : ∀ wl ∈ ga.getWorkloadInfo wls gpuID,
        ∃ id ∈ gpuMeta.identifiers, id ≠ "" ∧ wls.lookup id = some wl := by
      intro wl hwl
      rcases (mem_getWorkloadInfo hmeta).mp hwl with hown | ⟨hnamed, hempty⟩
      . exact hown
      . rcases h with h | h | ⟨id, hid, hne, hlookup⟩
        . exact absurd h hnamed
        . rw [← AList.lookup_eq_none] at h
          simp [h] at hempty
        . exact ⟨id, hid, hne, hlookup.trans hempty⟩
    refine ⟨hattached, fun hnone => ?_⟩
    rw [List.eq_nil_iff_forall_not_mem]
    intro wl hwl
    rcases hattached wl hwl with ⟨id, hid, hne, hlookup⟩
    have hmem := AList.lookup_eq_none.mpr (hnone id hid hne)
    simp [hmem] at hlookup

section Instances

/--
Exactly when the workloads of the GPUs are their own: a GPU that lacks an identifier gets what has been
allocated without a name, which is its own only if the same workload has also been allocated one of
its identifiers.
-/
theorem getWorkloadInfo_own_iff [CaseMap] (input : SchedulerInput) (ga : GPUAgentGPUClient)
    (gpuID : String)
    : (∀ gpuMeta, ga.gpuIDMap.lookup gpuID = some gpuMeta →
          ga.OwnWorkloads input.wls gpuID gpuMeta)
        ↔ ∀ gpuMeta, ga.gpuIDMap.lookup gpuID = some gpuMeta →
          gpuMeta.Named ∨ ¬input.EmptyAllocated ∨
            ∃ id ∈ gpuMeta.identifiers, id ≠ "" ∧ input.wls.lookup id = input.wls.lookup "" := by
  rw [← input.empty_mem_wls]
  apply forall₂_congr
  intro gpuMeta hmeta
  exact ownWorkloads_iff hmeta

def trailingComma : SchedulerInput where
  isKubernetes := false
  k8sScheduler := none
  slurmEvents := some
    [(AList.singleton "1" (some ((AList.singleton "CUDA_VISIBLE_DEVICES" "1,").insert
      "SLURM_JOB_ID" "742")), .write "1")]

theorem not_getWorkloadInfo_own
    : ¬∀ (_ : CaseMap) (input : SchedulerInput) (ga : GPUAgentGPUClient) (gpuID : String)
        (gpuMeta : GPUIDMeta), ga.gpuIDMap.lookup gpuID = some gpuMeta →
        ga.OwnWorkloads input.wls gpuID gpuMeta := by
  -- GPU 0 is not partitioned, so that it has no device name, and gets the job of GPU 1.
  intro h
  let _ := CaseMap.ascii
  let gpu : GPU :=
    { spec := { id := [] }
      status :=
        { index := 0
          pcieBusId := some "0000:05:00.0"
          drmRenderId := 128 }
      stats := none }
  have hown := h CaseMap.ascii trailingComma ((newGPUAgentGPUClient ∅).initGPUMetadata [gpu]) "0"
    ((newGPUAgentGPUClient ∅).gpuIDMeta gpu) (by decide)
  have hnil := hown.unallocated (by decide)
  revert hnil
  decide

end Instances

end GPUAgentGPUClient

end Attached

end GPUAgent
