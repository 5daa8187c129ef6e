import DeviceMetricsExporter.Lib.CallPool
import DeviceMetricsExporter.Lib.EventQueue
import DeviceMetricsExporter.Exporter.Impl.Slurm

/-!
This module contains when the Slurm client attributes GPUs as the job files say. A write attributes
all GPUs of the job while a removal deletes only one, which is made up for by the order of the
events, but not for the ones that are injected at the start.
-/

namespace Exporter

structure Quiescent (s : SlurmState) : Prop where
  listed : s.phase = .listed
  queue : s.queue = []
  injected : s.injected = []
  jobs : ∀ r ∈ s.jobs, r.settled = true

/--
The GPUs with a job are those whose file exists, each with the job of its file.
-/
def FollowsFiles (s : SlurmState) : Prop :=
  ∀ g, s.gpuJobs.lookup g = (s.dir.lookup g).join.map jobInfo

/--
The file of the GPU exists, or its removal is still to be handled, or its prolog is still to write
it.
-/
def SlurmState.accounted (s : SlurmState) (g : String) : Bool :=
  (s.dir.lookup g).isSome || s.queue.contains (.remove g) || s.jobs.any (·.toWrite.contains g)

/--
An injected event reads a file only while all GPUs of its job are accounted for.
-/
def Timely (s : SlurmState) (a : SlurmAction) : Bool :=
  match a, s.injected with
  | .inject, name :: _ =>
    match s.dir.lookup name with
    | some (some jobEnv) => (allocGPUs jobEnv).all s.accounted
    | _ => true
  | _, _ => true

namespace Job

theorem not_comma_mem {j : Job} : ∀ g ∈ j.gpus, ',' ∉ g.toList := by
  have hnames : ∀ g ∈ gpuNames, ',' ∉ g.toList := by
    decide +kernel
  exact fun g hg => hnames g (j.gpus_named g hg)

theorem atoi_isSome {j : Job} {g : String} (h : g ∈ j.gpus) : (atoi g).isSome = true := by
  have hnames : ∀ g ∈ gpuNames, (atoi g).isSome = true := by
    decide +kernel
  exact hnames g (j.gpus_named g h)

@[simp]
theorem jobInfo_env (j : Job) : jobInfo j.env = j.info := by
  simp [jobInfo, env, AList.lookup_insert_ne, -AList.insert_empty]

theorem allocGPUs_env {j : Job} (h : j.gpus ≠ []) : allocGPUs j.env = j.gpus := by
  simp only [allocGPUs, env, AList.lookup_insert]
  exact split_join not_comma_mem h

end Job

theorem lookup_handleEvent_write {dir : GoMap String FileContent} {gpuJobs : GoMap String JobInfo}
    {name : String} {j : Job} (hname : name ∈ j.gpus) (hdir : dir.lookup name = some (some j.env))
    (g : String)
    : (handleEvent dir gpuJobs (.write name)).lookup g
      = if g ∈ j.gpus then some j.info else gpuJobs.lookup g := by
  have hatoi : (atoi name).isNone = false := by
    simp [Job.atoi_isSome hname]
  rw [handleEvent, hatoi, hdir]
  simp only [Bool.false_eq_true, if_false, processSlurm, GoMap.lookup_setAll, Job.jobInfo_env,
    Job.allocGPUs_env (List.ne_nil_of_mem hname)]

def JobRun.Apart (a b : JobRun) : Prop :=
  a.alive = true → b.alive = true → ∀ g ∈ a.job.gpus, g ∉ b.job.gpus

/--
What the directory holds for the GPUs of a job, given how far its scripts have come.
-/
def JobRun.Consistent (dir : GoMap String FileContent) (r : JobRun) : Prop :=
  match r.phase with
  | .prolog remaining _ =>
    (∀ h ∈ remaining, h ∈ r.job.gpus)
      ∧ ∀ h ∈ r.job.gpus, h ∈ remaining ∨ dir.lookup h = some (some r.job.env)
  | .epilog remaining =>
    remaining ≠ [] →
      (∀ h ∈ remaining, h ∈ r.job.gpus) ∧ ∀ h ∈ r.job.gpus, h ∈ remaining ∨ dir.lookup h = none

def JobRun.Owns (r : JobRun) (g : String) (c : FileContent) : Prop :=
  r.alive = true ∧ g ∈ r.job.gpus ∧ (c = some r.job.env ∨ c = none ∧ g ∈ r.toWrite)

/--
What is still to come behind an event: a GPU without a file that a write attributes is removed later,
and a file that exists again after a removal is written later.
-/
def EventOk (dir : GoMap String FileContent) (jobs : List JobRun) (e : FsEvent)
    (rest : List FsEvent) : Prop :=
  match e with
  | .write g =>
    ∀ r ∈ jobs, r.alive = true → g ∈ r.job.gpus → dir.lookup g = some (some r.job.env) →
      ∀ h ∈ r.job.gpus, (dir.lookup h).isSome = true ∨ .remove h ∈ rest ∨ h ∈ r.toWrite
  | .remove g => (atoi g).isSome = true ∧ ((dir.lookup g).isSome = true → .write g ∈ rest)

structure SlurmInv (s : SlurmState) : Prop where
  apart : s.jobs.Pairwise JobRun.Apart
  consistent : ∀ r ∈ s.jobs, r.Consistent s.dir
  owned : ∀ g c, s.dir.lookup g = some c → ∃ r ∈ s.jobs, r.Owns g c
  attributed : ∀ g jobEnv, s.dir.lookup g = some (some jobEnv) →
    s.gpuJobs.lookup g = some (jobInfo jobEnv) ∨ .write g ∈ s.queue ∨ s.phase ≠ .listed
      ∨ g ∈ s.injected
  justified : ∀ g, (s.gpuJobs.lookup g).isSome = true →
    (s.dir.lookup g).isSome = true ∨ .remove g ∈ s.queue ∨ ∃ r ∈ s.jobs, g ∈ r.toWrite
  answered : Answered (EventOk s.dir s.jobs) s.queue
  starting : s.phase = .starting → s.queue = [] ∧ s.injected = [] ∧ s.gpuJobs = ∅

theorem JobRun.Apart.symm {a b : JobRun} (h : a.Apart b) : b.Apart a :=
  fun hb ha g hg hg' => h ha hb g hg' hg

theorem SlurmInv.perm {s : SlurmState} {jobs : List JobRun} (hinv : SlurmInv s)
    (h : s.jobs.Perm jobs) : SlurmInv { s with jobs } where
  apart := (h.pairwise_iff JobRun.Apart.symm).mp hinv.apart
  consistent r hr := hinv.consistent r (h.mem_iff.mpr hr)
  owned g c hc := by
    rcases hinv.owned g c hc with ⟨r, hr, howns⟩
    exact ⟨r, h.mem_iff.mp hr, howns⟩
  attributed := hinv.attributed
  justified g hg := by
    rcases hinv.justified g hg with hfile | hremove | ⟨r, hr, hwrite⟩
    . exact .inl hfile
    . exact .inr (.inl hremove)
    . exact .inr (.inr ⟨r, h.mem_iff.mp hr, hwrite⟩)
  answered := by
    apply hinv.answered.mono
    intro e rest he
    cases e with
    | write g => exact fun r hr => he r (h.mem_iff.mpr hr)
    | remove g => exact he
  starting := hinv.starting

theorem SlurmInv.eq_of_mem {s : SlurmState} (hinv : SlurmInv s) {a b : JobRun} (ha : a ∈ s.jobs)
    (hb : b ∈ s.jobs) (haa : a.alive = true) (hba : b.alive = true) {g : String}
    (hga : g ∈ a.job.gpus) (hgb : g ∈ b.job.gpus) : a = b := by
  by_contra hne
  have hapart : a.Apart b := by
    have : Std.Symm JobRun.Apart := ⟨fun _ _ => JobRun.Apart.symm⟩
    exact hinv.apart.forall ha hb hne
  exact hapart haa hba g hga hgb

section Handle

variable {s : SlurmState} {name : String}

/--
A write either attributes the GPUs of the job its file belongs to, or changes nothing since there is
no job to read.
-/
theorem handleEvent_write_cases (hinv : SlurmInv s) (name : String)
    : (∃ r ∈ s.jobs, r.alive = true ∧ name ∈ r.job.gpus
          ∧ s.dir.lookup name = some (some r.job.env)
          ∧ ∀ g, (handleEvent s.dir s.gpuJobs (.write name)).lookup g
            = if g ∈ r.job.gpus then some r.job.info else s.gpuJobs.lookup g) ∨
      ((∀ jobEnv, s.dir.lookup name ≠ some (some jobEnv))
        ∧ handleEvent s.dir s.gpuJobs (.write name) = s.gpuJobs) := by
  cases hdir : s.dir.lookup name with
  | none =>
    refine .inr ⟨nofun, ?_⟩
    simp [handleEvent, hdir]
  | some c =>
    cases c with
    | none =>
      refine .inr ⟨nofun, ?_⟩
      simp [handleEvent, hdir, processSlurm]
    | some jobEnv =>
      rcases hinv.owned name _ hdir with ⟨r, hr, halive, hname, henv | ⟨hnone, -⟩⟩
      . cases henv
        exact .inl ⟨r, hr, halive, hname, rfl, lookup_handleEvent_write hname hdir⟩
      . cases hnone

theorem attributed_handleEvent (hinv : SlurmInv s) {g : String} {jobEnv : JobEnv}
    (hg : s.dir.lookup g = some (some jobEnv))
    (h : g = name ∨ s.gpuJobs.lookup g = some (jobInfo jobEnv))
    : (handleEvent s.dir s.gpuJobs (.write name)).lookup g = some (jobInfo jobEnv) := by
  rcases handleEvent_write_cases hinv name with ⟨r, hr, halive, hname, hdir, hlookup⟩ |
    ⟨hnone, heq⟩
  . rw [hlookup]
    split
    . next hmem =>
      -- the file belongs to the same job
      rcases hinv.owned g _ hg with ⟨r', hr', halive', hmem', henv | ⟨hnone, -⟩⟩
      . cases henv
        rw [hinv.eq_of_mem hr hr' halive halive' hmem hmem', Job.jobInfo_env]
      . cases hnone
    . next hmem =>
      rcases h with rfl | hold
      . contradiction
      . exact hold
  . rw [heq]
    rcases h with rfl | hold
    . exact absurd hg (hnone jobEnv)
    . exact hold

theorem SlurmInv.phase_ne_starting {event : FsEvent} {queue : List FsEvent} (hinv : SlurmInv s)
    (hqueue : s.queue = event :: queue) : s.phase ≠ .starting := by
  intro hphase
  have := (hinv.starting hphase).1
  rw [hqueue] at this
  cases this

/--
A write that is handled keeps the invariant if it leaves the rest of the pending events behind and
every GPU of the job it attributes is accounted for.
-/
theorem slurmInv_write {queue : List FsEvent} {injected : List String} (hinv : SlurmInv s)
    (hstarting : s.phase ≠ .starting) (hanswered : Answered (EventOk s.dir s.jobs) queue)
    (hwrites : ∀ g, .write g ∈ s.queue → g = name ∨ .write g ∈ queue)
    (hremoves : ∀ g, .remove g ∈ s.queue → .remove g ∈ queue)
    (hinjected : ∀ g ∈ s.injected, g = name ∨ g ∈ injected)
    (haccounted : ∀ r ∈ s.jobs, r.alive = true → name ∈ r.job.gpus →
      s.dir.lookup name = some (some r.job.env) → ∀ g ∈ r.job.gpus,
        (s.dir.lookup g).isSome = true ∨ .remove g ∈ queue ∨ ∃ r ∈ s.jobs, g ∈ r.toWrite)
    : SlurmInv { s with
        queue, injected, gpuJobs := handleEvent s.dir s.gpuJobs (.write name) } := by
  refine ⟨hinv.apart, hinv.consistent, hinv.owned, ?_, ?_, hanswered,
    fun h => absurd h hstarting⟩
  . intro g jobEnv hg
    dsimp only at hg ⊢
    rcases hinv.attributed g jobEnv hg with hold | hwrite | hphase | hmem
    . exact .inl (attributed_handleEvent hinv hg (.inr hold))
    . rcases hwrites g hwrite with hname | hmem
      . exact .inl (attributed_handleEvent hinv hg (.inl hname))
      . exact .inr (.inl hmem)
    . exact .inr (.inr (.inl hphase))
    . rcases hinjected g hmem with hname | hmem
      . exact .inl (attributed_handleEvent hinv hg (.inl hname))
      . exact .inr (.inr (.inr hmem))
  . intro g hg
    dsimp only at hg ⊢
    have hkeep (h : (s.gpuJobs.lookup g).isSome = true)
        : (s.dir.lookup g).isSome = true ∨ .remove g ∈ queue ∨ ∃ r ∈ s.jobs, g ∈ r.toWrite := by
      rcases hinv.justified g h with hfile | hmem | hwrite
      . exact .inl hfile
      . exact .inr (.inl (hremoves g hmem))
      . exact .inr (.inr hwrite)
    rcases handleEvent_write_cases hinv name with ⟨r, hr, halive, hname, hdir, hlookup⟩ | ⟨-, heq⟩
    . rw [hlookup] at hg
      split at hg
      . next hmem => exact haccounted r hr halive hname hdir g hmem
      . exact hkeep hg
    . rw [heq] at hg
      exact hkeep hg

theorem slurmInv_liveWrite {queue : List FsEvent} (hinv : SlurmInv s)
    (hqueue : s.queue = .write name :: queue)
    : SlurmInv { s with queue, gpuJobs := handleEvent s.dir s.gpuJobs (.write name) } := by
  have hanswered := hinv.answered
  rw [hqueue] at hanswered
  refine slurmInv_write hinv (hinv.phase_ne_starting hqueue) hanswered.tail ?_ ?_
    (fun _ => .inr) ?_
  . intro g hg
    rw [hqueue, List.mem_cons, FsEvent.write.injEq] at hg
    exact hg
  . intro g hg
    rw [hqueue] at hg
    simpa using hg
  . intro r hr halive hname hdir g hg
    rcases hanswered.head r hr halive hname hdir g hg with hfile | hremove | hwrite
    . exact .inl hfile
    . exact .inr (.inl hremove)
    . exact .inr (.inr ⟨r, hr, hwrite⟩)

theorem slurmInv_inject {injected : List String} (hinv : SlurmInv s)
    (hinjected : s.injected = name :: injected) (htimely : Timely s .inject = true)
    : SlurmInv { s with injected, gpuJobs := handleEvent s.dir s.gpuJobs (.write name) } := by
  have hstarting : s.phase ≠ .starting := by
    intro hphase
    have := (hinv.starting hphase).2.1
    rw [hinjected] at this
    cases this
  refine slurmInv_write hinv hstarting hinv.answered (fun _ => .inr) (fun _ => id) ?_ ?_
  . intro g hg
    rw [hinjected, List.mem_cons] at hg
    exact hg
  . intro r hr halive hname hdir g hg
    have hall : (allocGPUs r.job.env).all s.accounted = true := by
      simpa [Timely, hinjected, hdir] using htimely
    rw [Job.allocGPUs_env (List.ne_nil_of_mem hname), List.all_eq_true] at hall
    have haccounted := hall g hg
    simp only [SlurmState.accounted, Bool.or_eq_true, List.any_eq_true, List.contains_iff_mem]
      at haccounted
    tauto

theorem slurmInv_liveRemove {queue : List FsEvent} (hinv : SlurmInv s)
    (hqueue : s.queue = .remove name :: queue)
    : SlurmInv { s with queue, gpuJobs := handleEvent s.dir s.gpuJobs (.remove name) } := by
  have hanswered := hinv.answered
  rw [hqueue] at hanswered
  rcases hanswered.head with ⟨hatoi, hrewritten⟩
  have hlookup (g : String) : (handleEvent s.dir s.gpuJobs (.remove name)).lookup g
      = if g = name then none else s.gpuJobs.lookup g := by
    have hnone : (atoi name).isNone = false := by
      simp [hatoi]
    rw [handleEvent, hnone]
    exact GoMap.lookup_erase_eq_ite s.gpuJobs g name
  refine ⟨hinv.apart, hinv.consistent, hinv.owned, ?_, ?_, hanswered.tail,
    fun h => absurd h (hinv.phase_ne_starting hqueue)⟩
  . intro g jobEnv hg
    dsimp only at hg ⊢
    rw [hlookup]
    by_cases hname : g = name
    . subst hname
      exact .inr (.inl (hrewritten (by rw [hg]; rfl)))
    . rw [if_neg hname]
      have hold := hinv.attributed g jobEnv hg
      rw [hqueue] at hold
      simpa using hold
  . intro g hg
    dsimp only at hg ⊢
    rw [hlookup] at hg
    split at hg
    . cases hg
    . next hname =>
      have hold := hinv.justified g hg
      rw [hqueue] at hold
      simpa [hname] using hold

theorem slurmInv_watch (hinv : SlurmInv s) : SlurmInv { s with phase := .watching } where
  apart := hinv.apart
  consistent := hinv.consistent
  owned := hinv.owned
  attributed _ _ _ := .inr (.inr (.inl nofun))
  justified := hinv.justified
  answered := hinv.answered
  starting := nofun

theorem slurmInv_list (hinv : SlurmInv s)
    : SlurmInv { s with phase := .listed, injected := readDir s.dir } where
  apart := hinv.apart
  consistent := hinv.consistent
  owned := hinv.owned
  attributed g jobEnv hg := by
    refine .inr (.inr (.inr ?_))
    have hmem : g ∈ s.dir := AList.lookup_isSome.mp (by
      dsimp only at hg
      rw [hg]
      rfl)
    exact (List.perm_insertionSort _ s.dir.keys).mem_iff.mpr (AList.mem_keys.mp hmem)
  justified := hinv.justified
  answered := hinv.answered
  starting := nofun

end Handle

section Script

variable {s : SlurmState} {r : JobRun} {others : List JobRun} {phase : JobPhase}

theorem slurmInv_submit {j : Job} (hinv : SlurmInv s)
    (h : s.jobs.all (·.disjointFrom j) = true)
    : SlurmInv { s with jobs := ⟨j, .prolog j.gpus false⟩ :: s.jobs } where
  apart := by
    rw [List.pairwise_cons]
    refine ⟨?_, hinv.apart⟩
    intro b hb _ halive g hg hg'
    have hdisjoint := List.all_eq_true.mp h b hb
    simp only [JobRun.disjointFrom, halive, Bool.not_true, Bool.false_or, List.all_eq_true]
      at hdisjoint
    have := hdisjoint g hg'
    simp [hg] at this
  consistent := by
    rw [List.forall_mem_cons]
    exact ⟨⟨fun _ => id, fun _ => .inl⟩, hinv.consistent⟩
  owned g c hc := by
    rcases hinv.owned g c hc with ⟨r, hr, howns⟩
    exact ⟨r, List.mem_cons_of_mem _ hr, howns⟩
  attributed := hinv.attributed
  justified g hg := by
    rcases hinv.justified g hg with hfile | hremove | ⟨r, hr, hwrite⟩
    . exact .inl hfile
    . exact .inr (.inl hremove)
    . exact .inr (.inr ⟨r, List.mem_cons_of_mem _ hr, hwrite⟩)
  answered := by
    apply hinv.answered.mono
    intro e rest he
    cases e with
    | write g =>
      simp only [EventOk, List.forall_mem_cons]
      exact ⟨fun _ _ _ h hh => .inr (.inr hh), he⟩
    | remove g => exact he
  starting := hinv.starting

theorem apart_phase (h : (r :: others).Pairwise JobRun.Apart) (halive : r.alive = true)
    : ({ r with phase } :: others).Pairwise JobRun.Apart := by
  rw [List.pairwise_cons] at h ⊢
  exact ⟨fun b hb _ => h.1 b hb halive, h.2⟩

theorem JobRun.Consistent.congr {dir dir' : GoMap String FileContent} {b : JobRun}
    (h : b.Consistent dir)
    (hdir : b.alive = true → ∀ g ∈ b.job.gpus, dir'.lookup g = dir.lookup g)
    : b.Consistent dir' := by
  unfold Consistent at h ⊢
  split
  . next remaining _ hphase =>
    rw [hphase] at h
    refine ⟨h.1, fun g hg => ?_⟩
    rw [hdir (by simp [alive, hphase]) g hg]
    exact h.2 g hg
  . next remaining hphase =>
    rw [hphase] at h
    intro hne
    refine ⟨(h hne).1, fun g hg => ?_⟩
    rw [hdir (by simpa [alive, hphase] using hne) g hg]
    exact (h hne).2 g hg

theorem slurmInv_phase (hinv : SlurmInv { s with jobs := r :: others }) (halive : r.alive = true)
    (hconsistent : { r with phase }.Consistent s.dir)
    (howns : ∀ g c, s.dir.lookup g = some c → r.Owns g c → { r with phase }.Owns g c)
    (htoWrite : { r with phase }.toWrite = r.toWrite)
    : SlurmInv { s with jobs := { r with phase } :: others } where
  apart := apart_phase hinv.apart halive
  consistent := by
    rw [List.forall_mem_cons]
    exact ⟨hconsistent, fun b hb => hinv.consistent b (List.mem_cons_of_mem _ hb)⟩
  owned g c hc := by
    rcases hinv.owned g c hc with ⟨b, hb, hb'⟩
    rcases List.mem_cons.mp hb with rfl | hb
    . exact ⟨_, List.mem_cons_self, howns g c hc hb'⟩
    . exact ⟨b, List.mem_cons_of_mem _ hb, hb'⟩
  attributed := hinv.attributed
  justified g hg := by
    rcases hinv.justified g hg with hfile | hremove | ⟨b, hb, hwrite⟩
    . exact .inl hfile
    . exact .inr (.inl hremove)
    . rcases List.mem_cons.mp hb with rfl | hb
      . exact .inr (.inr ⟨_, List.mem_cons_self, by rwa [htoWrite]⟩)
      . exact .inr (.inr ⟨b, List.mem_cons_of_mem _ hb, hwrite⟩)
  answered := by
    apply hinv.answered.mono
    intro e rest he
    cases e with
    | write g =>
      simp only [EventOk, List.forall_mem_cons, htoWrite] at he ⊢
      exact ⟨fun _ => he.1 halive, he.2⟩
    | remove g => exact he
  starting := hinv.starting

theorem answered_notify {P Q : FsEvent → List FsEvent → Prop} {e : FsEvent}
    (hstarting : s.phase = .starting → s.queue = []) (h : Answered P s.queue)
    (himp : ∀ d rest, P d rest → Q d (rest ++ [e])) (hlast : Q e [])
    : Answered Q (s.notify [e]) := by
  unfold SlurmState.notify
  split
  . next hphase =>
    rw [hstarting hphase]
    trivial
  . exact h.snoc himp hlast

theorem mem_notify_of_mem {d : FsEvent} (h : d ∈ s.queue) (events : List FsEvent)
    : d ∈ s.notify events := by
  unfold SlurmState.notify
  split
  . exact h
  . exact List.mem_append_left events h

theorem mem_notify_self {e : FsEvent} (h : s.phase ≠ .starting) : e ∈ s.notify [e] := by
  simp [SlurmState.notify, h]

section File

variable {g : String} {dir : GoMap String FileContent} {e : FsEvent}

/--
`e` is the event of a script that leaves `dir` after it has written or removed the file of `g`.
-/
def Raises (dir : GoMap String FileContent) (g : String) (e : FsEvent) : Prop :=
  e = .write g ∧ (dir.lookup g).isSome = true ∨ e = .remove g ∧ (dir.lookup g).isSome = false

theorem attributed_file (hinv : SlurmInv { s with jobs := r :: others })
    (hdir : ∀ h, h ≠ g → dir.lookup h = s.dir.lookup h) (hevent : Raises dir g e) {h : String}
    {jobEnv : JobEnv} (hh : dir.lookup h = some (some jobEnv))
    : s.gpuJobs.lookup h = some (jobInfo jobEnv) ∨ .write h ∈ s.notify [e] ∨ s.phase ≠ .listed
        ∨ h ∈ s.injected := by
  by_cases heq : h = g
  . subst heq
    rcases hevent with ⟨rfl, -⟩ | ⟨-, hnone⟩
    . by_cases hphase : s.phase = .starting
      . exact .inr (.inr (.inl (by rw [hphase]; nofun)))
      . exact .inr (.inl (mem_notify_self hphase))
    . rw [hh] at hnone
      cases hnone
  . rw [hdir h heq] at hh
    rcases hinv.attributed h jobEnv hh with hold | hwrite | hunlisted
    . exact .inl hold
    . exact .inr (.inl (mem_notify_of_mem hwrite [e]))
    . exact .inr (.inr hunlisted)

theorem justified_file (hinv : SlurmInv { s with jobs := r :: others })
    (hdir : ∀ h, h ≠ g → dir.lookup h = s.dir.lookup h) (hevent : Raises dir g e)
    (htoWrite : ∀ h ∈ r.toWrite, h = g ∨ h ∈ { r with phase }.toWrite) {h : String}
    (hh : (s.gpuJobs.lookup h).isSome = true)
    : (dir.lookup h).isSome = true ∨ .remove h ∈ s.notify [e]
        ∨ ∃ b ∈ { r with phase } :: others, h ∈ b.toWrite := by
  by_cases heq : h = g
  . subst heq
    rcases hevent with ⟨-, hsome⟩ | ⟨rfl, -⟩
    . exact .inl hsome
    . refine .inr (.inl (mem_notify_self ?_))
      intro hphase
      have hempty : s.gpuJobs = ∅ := (hinv.starting hphase).2.2
      rw [hempty] at hh
      cases hh
  . rw [hdir h heq]
    rcases hinv.justified h hh with hfile | hremove | ⟨b, hb, hwrite⟩
    . exact .inl hfile
    . exact .inr (.inl (mem_notify_of_mem hremove [e]))
    . rcases List.mem_cons.mp hb with rfl | hb
      . exact .inr (.inr ⟨_, List.mem_cons_self, (htoWrite h hwrite).resolve_left heq⟩)
      . exact .inr (.inr ⟨b, List.mem_cons_of_mem _ hb, hwrite⟩)

/--
The event that is raised answers what the events before it wait for. `hself` says so for the job that
raises it.
-/
theorem eventOk_append (halive : r.alive = true)
    (hothers : ∀ b ∈ others, b.alive = true → g ∉ b.job.gpus)
    (hdir : ∀ h, h ≠ g → dir.lookup h = s.dir.lookup h) (hevent : Raises dir g e)
    (hself : ∀ g₁ rest, dir.lookup g₁ = some (some r.job.env) →
      (g₁ ≠ g → ∀ h ∈ r.job.gpus,
        (s.dir.lookup h).isSome = true ∨ .remove h ∈ rest ∨ h ∈ r.toWrite) →
      ∀ h ∈ r.job.gpus,
        (dir.lookup h).isSome = true ∨ .remove h ∈ rest ++ [e] ∨ h ∈ { r with phase }.toWrite)
    {d : FsEvent} {rest : List FsEvent} (hd : EventOk s.dir (r :: others) d rest)
    : EventOk dir ({ r with phase } :: others) d (rest ++ [e]) := by
  cases d with
  | write g₁ =>
    simp only [EventOk, List.forall_mem_cons] at hd ⊢
    constructor
    . intro _ hg₁ henv
      apply hself g₁ rest henv
      intro hne
      rw [hdir g₁ hne] at henv
      exact hd.1 halive hg₁ henv
    . intro b hb halive' hg₁ henv h hh
      have hnot := hothers b hb halive'
      rw [hdir g₁ (ne_of_mem_of_not_mem hg₁ hnot)] at henv
      rw [hdir h (ne_of_mem_of_not_mem hh hnot), List.mem_append]
      rcases hd.2 b hb halive' hg₁ henv h hh with hfile | hremove | hwrite
      . exact .inl hfile
      . exact .inr (.inl (.inl hremove))
      . exact .inr (.inr hwrite)
  | remove g₁ =>
    refine ⟨hd.1, fun hfile => ?_⟩
    rw [List.mem_append]
    by_cases heq : g₁ = g
    . subst heq
      rcases hevent with ⟨rfl, -⟩ | ⟨-, hnone⟩
      . exact .inr List.mem_cons_self
      . rw [hnone] at hfile
        cases hfile
    . rw [hdir g₁ heq] at hfile
      exact .inl (hd.2 hfile)

theorem slurmInv_file (hinv : SlurmInv { s with jobs := r :: others }) (halive : r.alive = true)
    (hg : g ∈ r.job.gpus) (hdir : ∀ h, h ≠ g → dir.lookup h = s.dir.lookup h)
    (hconsistent : { r with phase }.Consistent dir)
    (howns : ∀ h c, dir.lookup h = some c → h ∈ r.job.gpus → { r with phase }.Owns h c)
    (hevent : Raises dir g e) (htoWrite : ∀ h ∈ r.toWrite, h = g ∨ h ∈ { r with phase }.toWrite)
    (hself : ∀ g₁ rest, dir.lookup g₁ = some (some r.job.env) →
      (g₁ ≠ g → ∀ h ∈ r.job.gpus,
        (s.dir.lookup h).isSome = true ∨ .remove h ∈ rest ∨ h ∈ r.toWrite) →
      ∀ h ∈ r.job.gpus,
        (dir.lookup h).isSome = true ∨ .remove h ∈ rest ++ [e] ∨ h ∈ { r with phase }.toWrite)
    : SlurmInv { s with dir, queue := s.notify [e], jobs := { r with phase } :: others } := by
  have hothers (b : JobRun) (hb : b ∈ others) (halive' : b.alive = true) : g ∉ b.job.gpus :=
    (List.pairwise_cons.mp hinv.apart).1 b hb halive halive' g hg
  refine ⟨apart_phase hinv.apart halive, ?_, ?_, ?_, ?_, ?_, ?_⟩
  . rw [List.forall_mem_cons]
    refine ⟨hconsistent, ?_⟩
    intro b hb
    apply (hinv.consistent b (List.mem_cons_of_mem _ hb)).congr
    intro halive' h hh
    exact hdir h (ne_of_mem_of_not_mem hh (hothers b hb halive'))
  . intro h c hc
    by_cases hh : h ∈ r.job.gpus
    . exact ⟨_, List.mem_cons_self, howns h c hc hh⟩
    . have hc' : s.dir.lookup h = some c := by
        rwa [← hdir h fun heq => hh (heq ▸ hg)]
      rcases hinv.owned h c hc' with ⟨b, hb, hb'⟩
      rcases List.mem_cons.mp hb with rfl | hb
      . exact absurd hb'.2.1 hh
      . exact ⟨b, List.mem_cons_of_mem _ hb, hb'⟩
  . intro h jobEnv hh
    exact attributed_file hinv hdir hevent hh
  . intro h hh
    exact justified_file hinv hdir hevent htoWrite hh
  . apply answered_notify (fun hphase => (hinv.starting hphase).1) hinv.answered
    . intro d rest hd
      exact eventOk_append halive hothers hdir hevent hself hd
    . rcases hevent with ⟨rfl, -⟩ | ⟨rfl, hnone⟩
      . simp only [EventOk, List.forall_mem_cons]
        constructor
        . intro _ _ henv h hh
          simpa using hself g [] henv (fun hne => absurd rfl hne) h hh
        . intro b hb halive' hg'
          exact absurd hg' (hothers b hb halive')
      . refine ⟨Job.atoi_isSome hg, fun hfile => ?_⟩
        rw [hnone] at hfile
        cases hfile
  . intro hphase
    have hstart := hinv.starting hphase
    refine ⟨?_, hstart.2⟩
    have hqueue : s.queue = [] := hstart.1
    have hphase : s.phase = .starting := hphase
    simp [SlurmState.notify, hphase, hqueue]

end File

theorem owns_of_mem (hinv : SlurmInv { s with jobs := r :: others }) (halive : r.alive = true)
    {g : String} {c : FileContent} (hg : g ∈ r.job.gpus) (hc : s.dir.lookup g = some c)
    : r.Owns g c := by
  rcases hinv.owned g c hc with ⟨b, hb, hb'⟩
  have := hinv.eq_of_mem List.mem_cons_self hb halive hb'.1 hg hb'.2.1
  rwa [this]

section Phase

variable {r : JobRun} {remaining : List String}

theorem JobRun.alive_of_prolog {opened : Bool} (h : r.phase = .prolog remaining opened)
    : r.alive = true := by
  simp [JobRun.alive, h]

theorem JobRun.alive_of_epilog {g : String} (h : r.phase = .epilog (g :: remaining))
    : r.alive = true := by
  simp [JobRun.alive, h]

theorem JobRun.toWrite_of_prolog {opened : Bool} (h : r.phase = .prolog remaining opened)
    : r.toWrite = remaining := by
  simp [JobRun.toWrite, h]

theorem JobRun.toWrite_of_epilog (h : r.phase = .epilog remaining) : r.toWrite = [] := by
  simp [JobRun.toWrite, h]

end Phase

theorem slurmInv_open {g : String} {remaining : List String}
    (hinv : SlurmInv { s with jobs := r :: others }) (hphase : r.phase = .prolog (g :: remaining) false)
    : SlurmInv { s with
        dir := s.dir.insert g none
        queue := s.notify [.write g]
        jobs := { r with phase := .prolog (g :: remaining) true } :: others } := by
  have halive := JobRun.alive_of_prolog hphase
  have htoWrite := JobRun.toWrite_of_prolog hphase
  have hcons := hinv.consistent r List.mem_cons_self
  simp only [JobRun.Consistent, hphase] at hcons
  have hg : g ∈ r.job.gpus := hcons.1 g List.mem_cons_self
  have hdir (h : String) (hne : h ≠ g) : (s.dir.insert g none).lookup h = s.dir.lookup h :=
    AList.lookup_insert_ne hne
  refine slurmInv_file hinv halive hg hdir ⟨hcons.1, ?_⟩ ?_ (.inl ⟨rfl, by simp⟩) ?_ ?_
  . intro h hh
    by_cases hne : h = g
    . exact .inl (by simp [hne])
    . rw [hdir h hne]
      exact hcons.2 h hh
  . intro h c hc hh
    by_cases hne : h = g
    . subst hne
      rw [AList.lookup_insert, Option.some.injEq] at hc
      exact ⟨rfl, hh, .inr ⟨hc.symm, List.mem_cons_self⟩⟩
    . rw [hdir h hne] at hc
      have howns := owns_of_mem hinv halive hh hc
      rw [JobRun.Owns, htoWrite] at howns
      exact ⟨rfl, hh, howns.2.2⟩
  . intro h hh
    rw [htoWrite] at hh
    exact .inr hh
  . intro g₁ rest henv hold h hh
    have hne : g₁ ≠ g := by
      rintro rfl
      simp at henv
    rcases hold hne h hh with hfile | hremove | hwrite
    . apply Or.inl
      rw [GoMap.lookup_insert_eq_ite]
      split
      . rfl
      . exact hfile
    . exact .inr (.inl (List.mem_append_left _ hremove))
    . rw [htoWrite] at hwrite
      exact .inr (.inr hwrite)

theorem slurmInv_prologWrite {g : String} {remaining : List String}
    (hinv : SlurmInv { s with jobs := r :: others }) (hphase : r.phase = .prolog (g :: remaining) true)
    : SlurmInv { s with
        dir := s.dir.insert g (some r.job.env)
        queue := s.notify [.write g]
        jobs := { r with phase := .prolog remaining false } :: others } := by
  have halive := JobRun.alive_of_prolog hphase
  have htoWrite := JobRun.toWrite_of_prolog hphase
  have hcons := hinv.consistent r List.mem_cons_self
  simp only [JobRun.Consistent, hphase] at hcons
  have hg : g ∈ r.job.gpus := hcons.1 g List.mem_cons_self
  have hdir (h : String) (hne : h ≠ g)
      : (s.dir.insert g (some r.job.env)).lookup h = s.dir.lookup h :=
    AList.lookup_insert_ne hne
  have hwritten (h : String) (hh : h ∈ r.job.gpus)
      : h ∈ remaining ∨ (s.dir.insert g (some r.job.env)).lookup h = some (some r.job.env) := by
    by_cases hne : h = g
    . subst hne
      exact .inr (AList.lookup_insert s.dir)
    . rw [hdir h hne]
      rcases hcons.2 h hh with hmem | henv
      . exact .inl ((List.mem_cons.mp hmem).resolve_left hne)
      . exact .inr henv
  refine slurmInv_file hinv halive hg hdir
    ⟨fun h hh => hcons.1 h (List.mem_cons_of_mem g hh), hwritten⟩ ?_ (.inl ⟨rfl, by simp⟩) ?_ ?_
  . intro h c hc hh
    by_cases hne : h = g
    . subst hne
      rw [AList.lookup_insert, Option.some.injEq] at hc
      exact ⟨rfl, hh, .inl hc.symm⟩
    . rw [hdir h hne] at hc
      have howns := owns_of_mem hinv halive hh hc
      rw [JobRun.Owns, htoWrite] at howns
      rcases howns.2.2 with henv | ⟨hnone, hmem⟩
      . exact ⟨rfl, hh, .inl henv⟩
      . exact ⟨rfl, hh, .inr ⟨hnone, (List.mem_cons.mp hmem).resolve_left hne⟩⟩
  . intro h hh
    rw [htoWrite] at hh
    exact List.mem_cons.mp hh
  . intro g₁ rest _ _ h hh
    rcases hwritten h hh with hmem | henv
    . exact .inr (.inr hmem)
    . exact .inl (by rw [henv]; rfl)

theorem slurmInv_epilog {opened : Bool} (hinv : SlurmInv { s with jobs := r :: others })
    (hphase : r.phase = .prolog [] opened)
    : SlurmInv { s with jobs := { r with phase := .epilog r.job.gpus } :: others } := by
  have htoWrite := JobRun.toWrite_of_prolog hphase
  refine slurmInv_phase hinv (JobRun.alive_of_prolog hphase)
    (fun _ => ⟨fun _ => id, fun _ => .inl⟩) ?_ htoWrite.symm
  intro g c hc howns
  rw [JobRun.Owns, htoWrite] at howns
  refine ⟨?_, howns.2.1, .inl (by simpa using howns.2.2)⟩
  simpa [JobRun.alive] using List.ne_nil_of_mem howns.2.1

theorem slurmInv_remove {g : String} {remaining : List String}
    (hinv : SlurmInv { s with jobs := r :: others }) (hphase : r.phase = .epilog (g :: remaining))
    : SlurmInv { s with
        dir := s.dir.erase g
        queue := s.notify [.remove g]
        jobs := { r with phase := .epilog remaining } :: others } := by
  have halive := JobRun.alive_of_epilog hphase
  have htoWrite := JobRun.toWrite_of_epilog hphase
  have hcons := hinv.consistent r List.mem_cons_self
  simp only [JobRun.Consistent, hphase] at hcons
  have hcons := hcons (List.cons_ne_nil g remaining)
  have hg : g ∈ r.job.gpus := hcons.1 g List.mem_cons_self
  have hdir (h : String) (hne : h ≠ g) : (s.dir.erase g).lookup h = s.dir.lookup h :=
    AList.lookup_erase_ne hne
  have hgone (h : String) (hh : h ∈ r.job.gpus)
      : h ∈ remaining ∨ (s.dir.erase g).lookup h = none := by
    by_cases hne : h = g
    . subst hne
      exact .inr (AList.lookup_erase h s.dir)
    . rw [hdir h hne]
      rcases hcons.2 h hh with hmem | hnone
      . exact .inl ((List.mem_cons.mp hmem).resolve_left hne)
      . exact .inr hnone
  refine slurmInv_file hinv halive hg hdir
    (fun _ => ⟨fun h hh => hcons.1 h (List.mem_cons_of_mem g hh), hgone⟩) ?_ (.inr ⟨rfl, by simp⟩)
    ?_ ?_
  . intro h c hc hh
    -- a file that is left is one of those still to be removed
    have hmem : h ∈ remaining := by
      rcases hgone h hh with hmem | hnone
      . exact hmem
      . rw [hc] at hnone
        cases hnone
    have hne : h ≠ g := by
      rintro rfl
      simp at hc
    rw [hdir h hne] at hc
    have howns := owns_of_mem hinv halive hh hc
    rw [JobRun.Owns, htoWrite] at howns
    refine ⟨?_, hh, .inl (by simpa using howns.2.2)⟩
    simpa [JobRun.alive] using List.ne_nil_of_mem hmem
  . intro h hh
    rw [htoWrite] at hh
    cases hh
  . intro g₁ rest henv hold h hh
    have hne : g₁ ≠ g := by
      rintro rfl
      simp at henv
    by_cases hhg : h = g
    . subst hhg
      exact .inr (.inl (List.mem_append_right _ List.mem_cons_self))
    . rw [hdir h hhg]
      rcases hold hne h hh with hfile | hremove | hwrite
      . exact .inl hfile
      . exact .inr (.inl (List.mem_append_left _ hremove))
      . rw [htoWrite] at hwrite
        cases hwrite

theorem slurmInv_missing {g : String} {remaining : List String}
    (hinv : SlurmInv { s with jobs := r :: others }) (hphase : r.phase = .epilog (g :: remaining))
    (hnone : s.dir.lookup g = none)
    : SlurmInv { s with jobs := { r with phase := .epilog remaining } :: others } := by
  have htoWrite := JobRun.toWrite_of_epilog hphase
  have hcons := hinv.consistent r List.mem_cons_self
  simp only [JobRun.Consistent, hphase] at hcons
  have hcons := hcons (List.cons_ne_nil g remaining)
  have hgone (h : String) (hh : h ∈ r.job.gpus) : h ∈ remaining ∨ s.dir.lookup h = none := by
    by_cases hne : h = g
    . exact .inr (by rw [hne, hnone])
    . rcases hcons.2 h hh with hmem | hnone
      . exact .inl ((List.mem_cons.mp hmem).resolve_left hne)
      . exact .inr hnone
  refine slurmInv_phase hinv (JobRun.alive_of_epilog hphase)
    (fun _ => ⟨fun h hh => hcons.1 h (List.mem_cons_of_mem g hh), hgone⟩) ?_ htoWrite.symm
  intro h c hc howns
  rw [JobRun.Owns, htoWrite] at howns
  have hmem : h ∈ remaining := by
    rcases hgone h howns.2.1 with hmem | hnone
    . exact hmem
    . rw [hc] at hnone
      cases hnone
  refine ⟨?_, howns.2.1, .inl (by simpa using howns.2.2)⟩
  simpa [JobRun.alive] using List.ne_nil_of_mem hmem

theorem slurmInv_script {dir : GoMap String FileContent} {events : List FsEvent}
    (hinv : SlurmInv { s with jobs := r :: others })
    (hstep : r.step s.dir = some (dir, events, phase))
    : SlurmInv { s with dir, queue := s.notify events, jobs := { r with phase } :: others } := by
  have hnotify : s.notify [] = s.queue := by
    simp [SlurmState.notify]
  unfold JobRun.step at hstep
  split at hstep
  . next hphase =>
    cases hstep
    exact slurmInv_open hinv hphase
  . next hphase =>
    cases hstep
    exact slurmInv_prologWrite hinv hphase
  . next hphase =>
    cases hstep
    rw [hnotify]
    exact slurmInv_epilog hinv hphase
  . next hphase =>
    split at hstep
    . cases hstep
      exact slurmInv_remove hinv hphase
    . next hfile =>
      cases hstep
      rw [hnotify]
      exact slurmInv_missing hinv hphase (by simpa using hfile)
  . cases hstep

end Script

theorem slurmInv_step (s : SlurmState) (a : SlurmAction) (s' : SlurmState) (hinv : SlurmInv s)
    (hok : Timely s a = true) (hstep : slurmSystem.step s a = some s') : SlurmInv s' := by
  simp only [slurmSystem, SlurmState.step] at hstep
  split at hstep
  . next j =>
    split at hstep
    . next hdisjoint =>
      cases hstep
      exact (slurmInv_submit hinv hdisjoint).perm (List.perm_append_singleton _ _).symm
    . cases hstep
  . next i =>
    split at hstep
    . cases hstep
    . next r hr =>
      split at hstep
      . cases hstep
      . next dir events phase hscript =>
        cases hstep
        have hfront := hinv.perm (CallPool.calls_perm hr)
        exact (slurmInv_script hfront hscript).perm (CallPool.calls_set_perm hr _).symm
  . split at hstep
    . cases hstep
      exact slurmInv_watch hinv
    . cases hstep
  . split at hstep
    . cases hstep
      exact slurmInv_list hinv
    . cases hstep
  . split at hstep
    . cases hstep
    . next name injected hinjected =>
      cases hstep
      exact slurmInv_inject hinv hinjected hok
  . split at hstep
    . cases hstep
    . next event queue hqueue =>
      cases hstep
      cases event with
      | write name => exact slurmInv_liveWrite hinv hqueue
      | remove name => exact slurmInv_liveRemove hinv hqueue

theorem slurmInv_init : SlurmInv {} where
  apart := List.Pairwise.nil
  consistent := nofun
  owned := nofun
  attributed := nofun
  justified := nofun
  answered := trivial
  starting _ := ⟨rfl, rfl, rfl⟩

theorem toWrite_eq_nil_of_settled {r : JobRun} (h : r.settled = true) : r.toWrite = [] := by
  simp only [JobRun.settled, Bool.or_eq_true, decide_eq_true_eq] at h
  rcases h with h | h
  . exact JobRun.toWrite_of_prolog h
  . exact JobRun.toWrite_of_epilog h

theorem SlurmInv.followsFiles {s : SlurmState} (hinv : SlurmInv s) (h : Quiescent s)
    : FollowsFiles s := by
  intro g
  cases hdir : s.dir.lookup g with
  | none =>
    cases hjob : s.gpuJobs.lookup g with
    | none => rfl
    | some info =>
      rcases hinv.justified g (by rw [hjob]; rfl) with hfile | hremove | ⟨r, hr, hwrite⟩
      . rw [hdir] at hfile
        cases hfile
      . rw [h.queue] at hremove
        cases hremove
      . rw [toWrite_eq_nil_of_settled (h.jobs r hr)] at hwrite
        cases hwrite
  | some c =>
    rcases hinv.owned g c hdir with ⟨r, hr, -, -, rfl | ⟨-, hwrite⟩⟩
    . rcases hinv.attributed g _ hdir with hold | hwrite | hphase | hinjected
      . exact hold
      . rw [h.queue] at hwrite
        cases hwrite
      . exact absurd h.listed hphase
      . rw [h.injected] at hinjected
        cases hinjected
    . rw [toWrite_eq_nil_of_settled (h.jobs r hr)] at hwrite
      cases hwrite

/--
In every run whose injected events are timely, the client attributes GPUs as the files say whenever
no event is pending and no script is under way.
-/
theorem followsFiles_of_timely (as : List SlurmAction) (s : SlurmState)
    (hok : slurmSystem.Respects (fun s a => Timely s a = true) as {})
    (hexec : slurmSystem.exec as {} = some s) (hquiescent : Quiescent s) : FollowsFiles s := by
  have hinv := slurmSystem.exec_invariant slurmInv_step as {} s slurmInv_init hok hexec
  exact hinv.followsFiles hquiescent

section Instances

def twoGPUJob : Job where
  info := ⟨"1", "alice", "batch", "c1"⟩
  gpus := ["0", "1"]
  gpus_named := by decide +kernel

def writtenBeforeStart : List SlurmAction :=
  .submit twoGPUJob :: List.replicate 4 (.job 0) ++ [.watch, .list]

theorem followsFiles_of_timely_injected
    : ∃ s, slurmSystem.exec (writtenBeforeStart ++ [.inject, .inject]) {} = some s
        ∧ s.gpuJobs.lookup "1" = some twoGPUJob.info ∧ FollowsFiles s :=
  ⟨_, rfl, by decide, followsFiles_of_timely (writtenBeforeStart ++ [.inject, .inject]) _
    (by decide) rfl ⟨rfl, rfl, rfl, by decide⟩⟩

theorem not_followsFiles
    : ¬∀ (as : List SlurmAction) (s : SlurmState), slurmSystem.exec as {} = some s →
        Quiescent s → FollowsFiles s := by
  -- the epilog removes file 0 and the client handles it, then the injected write of file 1 attributes
  -- both GPUs again, and only the removal of file 1 follows
  intro h
  have hrun : (slurmSystem.exec (writtenBeforeStart ++ [.job 0, .job 0, .live, .inject, .inject, .job 0,
      .live]) {}).map (fun s => ((s.phase, s.queue, s.injected), s.jobs.all (·.settled),
        s.gpuJobs.lookup "0", (s.dir.lookup "0").isSome))
      = some ((.listed, [], []), true, some twoGPUJob.info, false) := by
    decide +kernel
  rcases Option.map_eq_some_iff.mp hrun with ⟨s, hexec, hs⟩
  simp only [Prod.mk.injEq] at hs
  rcases hs with ⟨⟨hlisted, hqueue, hinjected⟩, hjobs, hjob, hfile⟩
  have hfollows := h _ s hexec ⟨hlisted, hqueue, hinjected, List.all_eq_true.mp hjobs⟩ "0"
  rw [hjob, Option.isNone_iff_eq_none.mp (Option.isSome_eq_false_iff.mp hfile)] at hfollows
  cases hfollows

end Instances

end Exporter
