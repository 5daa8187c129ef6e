import DeviceMetricsExporter.Lib.GoStrings
import DeviceMetricsExporter.Lib.TransitionSystem
import DeviceMetricsExporter.Exporter.Impl.Scheduler
import Mathlib.Data.List.Sort
import Mathlib.Data.String.Basic

/-!
This module contains the Slurm client and what it watches: the directory into which the prolog of a
job writes one file for each of its GPUs and from which the epilog removes them, the events this
raises, and the events `NewSlurmClient` injects for the files it finds when it starts.
-/

namespace Exporter

/--
The names of GPU files: the scripts reduce every index modulo 128.
-/
def gpuNames : List String :=
  (List.range 128).map toString

structure Job where
  info : JobInfo
  gpus : List String
  gpus_named : ∀ g ∈ gpus, g ∈ gpuNames

abbrev JobEnv := GoMap String String

def Job.env (j : Job) : JobEnv :=
  -- The message of the prolog. `SLURM_JOB_GPUS` and `SLURM_SCRIPT_CONTEXT` are not read.
  (∅ : JobEnv).insert "SLURM_JOB_ID" j.info.id
    |>.insert "SLURM_JOB_USER" j.info.user
    |>.insert "SLURM_JOB_PARTITION" j.info.partition
    |>.insert "SLURM_CLUSTER_NAME" j.info.cluster
    |>.insert "CUDA_VISIBLE_DEVICES" (join j.gpus ',')

/--
What `json.Unmarshal` makes of a file, `none` for one it rejects such as the empty file between the
truncation and the write of the prolog.
-/
abbrev FileContent := Option JobEnv

inductive FsEvent where
  | write (name : String)
  | remove (name : String)
  deriving DecidableEq

def jobInfo (jobEnv : JobEnv) : JobInfo where
  id := (jobEnv.lookup "SLURM_JOB_ID").getD ""
  user := (jobEnv.lookup "SLURM_JOB_USER").getD ""
  partition := (jobEnv.lookup "SLURM_JOB_PARTITION").getD ""
  cluster := (jobEnv.lookup "SLURM_CLUSTER_NAME").getD ""

def allocGPUs (jobEnv : JobEnv) : List String :=
  match jobEnv.lookup "CUDA_VISIBLE_DEVICES" with
  | some gpus => split gpus ','
  | none => []

def processSlurm (gpuJobs : GoMap String JobInfo) (buff : FileContent) : GoMap String JobInfo :=
  match buff with
  | none => gpuJobs
  | some jobEnv => gpuJobs.setAll (allocGPUs jobEnv) (jobInfo jobEnv)

def handleEvent (dir : GoMap String FileContent) (gpuJobs : GoMap String JobInfo) (event : FsEvent)
    : GoMap String JobInfo :=
  match event with
  | .write name =>
    if (atoi name).isNone then
      gpuJobs
    else
      match dir.lookup name with
      | none => gpuJobs
      | some data => processSlurm gpuJobs data
  | .remove name => if (atoi name).isNone then gpuJobs else gpuJobs.erase name

/--
The names of the files, sorted as by `os.ReadDir`.
-/
def readDir (dir : GoMap String FileContent) : List String :=
  dir.keys.insertionSort (· ≤ ·)

/--
How far the scripts of a job have come: the files that the prolog is still to write, with `opened` if
it has truncated the first of them, and the files that the epilog is still to remove.
-/
inductive JobPhase where
  | prolog (remaining : List String) (opened : Bool)
  | epilog (remaining : List String)
  deriving DecidableEq

structure JobRun where
  job : Job
  phase : JobPhase

namespace JobRun

def alive (r : JobRun) : Bool :=
  r.phase ≠ .epilog []

def toWrite (r : JobRun) : List String :=
  match r.phase with
  | .prolog remaining _ => remaining
  | .epilog _ => []

def settled (r : JobRun) : Bool :=
  r.phase = .prolog [] false || r.phase = .epilog []

def step (r : JobRun) (dir : GoMap String FileContent)
    : Option (GoMap String FileContent × List FsEvent × JobPhase) :=
  match r.phase with
  | .prolog (g :: remaining) false => some (dir.insert g none, [.write g], .prolog (g :: remaining) true)
  | .prolog (g :: remaining) true =>
    some (dir.insert g (some r.job.env), [.write g], .prolog remaining false)
  | .prolog [] _ => some (dir, [], .epilog r.job.gpus)
  | .epilog (g :: remaining) =>
    if (dir.lookup g).isSome then
      some (dir.erase g, [.remove g], .epilog remaining)
    else
      some (dir, [], .epilog remaining)
  | .epilog [] => none

def disjointFrom (r : JobRun) (j : Job) : Bool :=
  !r.alive || r.job.gpus.all fun g => !j.gpus.contains g

end JobRun

/--
`NewSlurmClient` before it watches the directory, between this and its listing, and after it.
-/
inductive ClientPhase where
  | starting
  | watching
  | listed
  deriving DecidableEq

structure SlurmState where
  dir : GoMap String FileContent := ∅
  jobs : List JobRun := []
  phase : ClientPhase := .starting
  queue : List FsEvent := []
  injected : List String := []
  gpuJobs : GoMap String JobInfo := ∅

/--
`job i` is the next step of the scripts of job `i`, and of the job itself where its prolog is done.
-/
inductive SlurmAction where
  | submit (j : Job)
  | job (i : Nat)
  | watch
  | list
  | inject
  | live

namespace SlurmState

def notify (s : SlurmState) (events : List FsEvent) : List FsEvent :=
  if s.phase = .starting then s.queue else s.queue ++ events

def step (s : SlurmState) (a : SlurmAction) : Option SlurmState :=
  match a with
  | .submit j =>
    if s.jobs.all (·.disjointFrom j) then
      some { s with jobs := s.jobs ++ [⟨j, .prolog j.gpus false⟩] }
    else
      none
  | .job i =>
    match s.jobs[i]? with
    | none => none
    | some r =>
      match r.step s.dir with
      | none => none
      | some (dir, events, phase) =>
        some { s with dir, queue := s.notify events, jobs := s.jobs.set i { r with phase } }
  | .watch => if s.phase = .starting then some { s with phase := .watching } else none
  | .list =>
    if s.phase = .watching then
      some { s with phase := .listed, injected := readDir s.dir }
    else
      none
  | .inject =>
    match s.injected with
    | [] => none
    | name :: injected =>
      some { s with injected, gpuJobs := handleEvent s.dir s.gpuJobs (.write name) }
  | .live =>
    match s.queue with
    | [] => none
    | event :: queue => some { s with queue, gpuJobs := handleEvent s.dir s.gpuJobs event }

end SlurmState

def slurmSystem : TransitionSystem SlurmState SlurmAction where
  step := SlurmState.step

end Exporter
