import DeviceMetricsExporter.Exporter.Impl.ConfigWatcher

/-!
This module contains the theorem that the watcher of the configuration file loses no change: once the file
stays as it is, the exporter comes to serve with the configuration that is in it.
-/

universe u v

namespace Exporter

def WatcherAction.isInternal {φ : Type u} : WatcherAction φ → Bool
  | change _ _ | notify _ => false
  | _ => true

namespace ConfigWatcher

variable {φ : Type u} {κ : Type v} (reader : ConfigReader φ κ)

inductive Takes (s : ConfigWatcher φ κ) : WatcherAction φ → ConfigWatcher φ κ → Prop where
  | change (file : φ) (op : FileOp) (hop : op.isChange = true)
    : Takes s (.change file op) ({ s with file }.push op)
  | notify (op : FileOp) : Takes s (.notify op) (s.push op)
  | mainInitConfig (hmain : s.main = .initConfig)
    : Takes s .main { s with runConf := reader.refreshConfig s.file, main := .startServer }
  | mainStartServer (hmain : s.main = .startServer)
    : Takes s .main
        { s with
          server := some (reader.listenPort s.runConf)
          main := .addWatch
          loop := .selecting
          debounce := .running }
  | addWatch (hmain : s.main = .addWatch) : Takes s .main { s with main := .waiting }
  | receive (op : FileOp) (queue : List FileOp) (hloop : s.loop = .selecting)
    (hqueue : s.queue = op :: queue)
    : Takes s .receive { s with queue, debounce := if op.isChange then .running else s.debounce }
  | expire (hdebounce : s.debounce = .running) : Takes s .expire { s with debounce := .fired }
  | timer (hloop : s.loop = .selecting) (hdebounce : s.debounce = .fired)
    : Takes s .timer { s with debounce := .stopped, loop := .stopServer }
  | stopServer (closed : Bool) (hloop : s.loop = .stopServer)
    : Takes s (.stopServer closed)
        { s with server := if closed then none else s.server, loop := .initConfig }
  | keepServer (hloop : s.loop = .initConfig) (hserver : s.server.isSome = true)
    : Takes s .startServer { s with loop := .selecting }
  | initConfig (hloop : s.loop = .initConfig) (hserver : s.server = none)
    : Takes s .startServer { s with runConf := reader.refreshConfig s.file, loop := .startServer }
  | startServer (hloop : s.loop = .startServer)
    : Takes s .startServer
        { s with server := some (reader.listenPort s.runConf), loop := .selecting }

variable {reader} {s s' : ConfigWatcher φ κ} {a : WatcherAction φ}

theorem takes_of_step (h : step reader s a = some s') : Takes reader s a s' := by
  cases a with
  | change file op =>
    simp only [step] at h
    split at h
    . next hop =>
      cases h
      exact .change file op hop
    . cases h
  | notify op =>
    cases h
    exact .notify op
  | main =>
    simp only [step] at h
    split at h
    . next hmain =>
      cases h
      exact .mainInitConfig hmain
    . next hmain =>
      cases h
      exact .mainStartServer hmain
    . next hmain =>
      cases h
      exact .addWatch hmain
    . cases h
  | receive =>
    simp only [step] at h
    split at h
    . next op queue hloop hqueue =>
      cases h
      exact .receive op queue hloop hqueue
    . cases h
  | expire =>
    simp only [step] at h
    split at h
    . next hdebounce =>
      cases h
      exact .expire hdebounce
    . cases h
  | timer =>
    simp only [step] at h
    split at h
    . next hready =>
      cases h
      exact .timer hready.1 hready.2
    . cases h
  | stopServer closed =>
    simp only [step] at h
    split at h
    . next hloop =>
      cases h
      exact .stopServer closed hloop
    . cases h
  | startServer =>
    simp only [step] at h
    split at h
    . next hloop =>
      split at h
      . next hserver =>
        cases h
        exact .keepServer hloop hserver
      . next hserver =>
        cases h
        exact .initConfig hloop (Option.not_isSome_iff_eq_none.mp hserver)
    . next hloop =>
      cases h
      exact .startServer hloop
    . cases h

section Push

@[simp]
theorem push_file (s : ConfigWatcher φ κ) (op : FileOp) : (s.push op).file = s.file := by
  unfold push
  split <;> rfl

@[simp]
theorem push_runConf (s : ConfigWatcher φ κ) (op : FileOp) : (s.push op).runConf = s.runConf := by
  unfold push
  split <;> rfl

@[simp]
theorem push_server (s : ConfigWatcher φ κ) (op : FileOp) : (s.push op).server = s.server := by
  unfold push
  split <;> rfl

@[simp]
theorem push_main (s : ConfigWatcher φ κ) (op : FileOp) : (s.push op).main = s.main := by
  unfold push
  split <;> rfl

@[simp]
theorem push_loop (s : ConfigWatcher φ κ) (op : FileOp) : (s.push op).loop = s.loop := by
  unfold push
  split <;> rfl

@[simp]
theorem push_debounce (s : ConfigWatcher φ κ) (op : FileOp) : (s.push op).debounce = s.debounce := by
  unfold push
  split <;> rfl

theorem mem_queue_push {op op' : FileOp} (h : op' ∈ s.queue) : op' ∈ (s.push op).queue := by
  unfold push
  split
  . exact List.mem_append_left _ h
  . exact h

end Push

section Invariant

variable (reader)

/--
The server can be closed, the file is not read again before the watch is added, and no change is dropped
while only other notifications are queued.
-/
def Orderly (s : ConfigWatcher φ κ) (a : WatcherAction φ) : Prop :=
  match a with
  | .stopServer closed => closed = true
  | .timer => s.main = .waiting
  | .change _ _ =>
    s.main = .waiting → s.queue.length < s.maxQueuedEvents ∨ ∃ op ∈ s.queue, op.isChange = true
  | _ => True

instance Orderly.decidable (s : ConfigWatcher φ κ) (a : WatcherAction φ)
    : Decidable (Orderly s a) :=
  match a with
  | .stopServer closed => inferInstanceAs (Decidable (closed = true))
  | .timer => inferInstanceAs (Decidable (s.main = .waiting))
  | .change _ _ => inferInstanceAs (Decidable (s.main = .waiting →
      s.queue.length < s.maxQueuedEvents ∨ ∃ op ∈ s.queue, op.isChange = true))
  | .notify _ | .main | .receive | .expire | .startServer => .isTrue trivial

def Pending (s : ConfigWatcher φ κ) : Prop :=
  (∃ op ∈ s.queue, op.isChange = true) ∨ s.debounce ≠ .stopped ∨ s.loop = .stopServer
    ∨ s.loop = .initConfig

structure Inv (s : ConfigWatcher φ κ) : Prop where
  booting : s.main = .initConfig ∨ s.main = .startServer → s.loop = .notStarted ∧ s.debounce = .stopped
  adding : s.main = .addWatch → s.loop = .selecting ∧ s.debounce ≠ .stopped
  waiting : s.main = .waiting →
    s.loop ≠ .notStarted ∧ (s.runConf = reader.refreshConfig s.file ∨ s.Pending)
  serving : s.loop = .selecting ∨ s.loop = .stopServer → s.server = some (reader.listenPort s.runConf)
  closed : s.loop = .initConfig → s.server = none

theorem inv_newConfigWatcher (maxQueuedEvents : Nat) (file : φ)
    : Inv reader (newConfigWatcher maxQueuedEvents file : ConfigWatcher φ κ) where
  booting _ := ⟨rfl, rfl⟩
  adding := nofun
  waiting := nofun
  serving := nofun
  closed := nofun

variable {reader}

theorem Pending.push (h : s.Pending) (op : FileOp) : (s.push op).Pending := by
  rcases h with ⟨op', hop', hchange⟩ | hrest
  . exact .inl ⟨op', mem_queue_push hop', hchange⟩
  . right
    simpa using hrest

theorem pending_push {op : FileOp} (hop : op.isChange = true) (hmain : s.main = .waiting)
    (hqueue : s.queue.length < s.maxQueuedEvents ∨ ∃ op ∈ s.queue, op.isChange = true)
    : (s.push op).Pending := by
  rcases hqueue with hlength | ⟨op', hop', hchange⟩
  . refine .inl ⟨op, ?_, hop⟩
    rw [ConfigWatcher.push, if_pos ⟨hmain, hlength⟩]
    exact List.mem_concat_self
  . exact .inl ⟨op', mem_queue_push hop', hchange⟩

theorem Inv.push (h : Inv reader s) (op : FileOp) : Inv reader (s.push op) where
  booting hmain := by simpa using h.booting (by simpa using hmain)
  adding hmain := by simpa using h.adding (by simpa using hmain)
  waiting hmain := by
    rcases h.waiting (by simpa using hmain) with ⟨hloop, hloaded⟩
    refine ⟨by simpa using hloop, ?_⟩
    rcases hloaded with hloaded | hpending
    . exact .inl (by simpa using hloaded)
    . exact .inr (hpending.push op)
  serving hloop := by simpa using h.serving (by simpa using hloop)
  closed hloop := by simpa using h.closed (by simpa using hloop)

theorem Inv.change (h : Inv reader s) (file : φ) {op : FileOp} (hop : op.isChange = true)
    (hqueue : s.main = .waiting →
      s.queue.length < s.maxQueuedEvents ∨ ∃ op ∈ s.queue, op.isChange = true)
    : Inv reader ({ s with file }.push op) where
  booting hmain := by simpa using h.booting (by simpa using hmain)
  adding hmain := by simpa using h.adding (by simpa using hmain)
  waiting hmain := by
    have hmain : s.main = .waiting := by simpa using hmain
    exact ⟨by simpa using (h.waiting hmain).1, .inr (pending_push hop hmain (hqueue hmain))⟩
  serving hloop := by simpa using h.serving (by simpa using hloop)
  closed hloop := by simpa using h.closed (by simpa using hloop)

theorem Inv.receive (h : Inv reader s) {op : FileOp} {queue : List FileOp} (hloop : s.loop = .selecting)
    (hqueue : s.queue = op :: queue)
    : Inv reader { s with queue, debounce := if op.isChange then .running else s.debounce } where
  booting hmain := absurd ((h.booting hmain).1.symm.trans hloop) nofun
  adding hmain := by
    refine ⟨hloop, ?_⟩
    show (if op.isChange then Debounce.running else s.debounce) ≠ .stopped
    split
    . nofun
    . exact (h.adding hmain).2
  waiting hmain := by
    rcases h.waiting hmain with ⟨hstarted, hloaded⟩
    refine ⟨hstarted, hloaded.imp_right fun hpending => ?_⟩
    cases hop : op.isChange with
    | true => exact .inr (.inl nofun)
    | false =>
      rcases hpending with ⟨op', hop', hchange⟩ | hrest
      . rw [hqueue] at hop'
        rcases List.mem_cons.mp hop' with rfl | hop'
        . rw [hop] at hchange
          cases hchange
        . exact .inl ⟨op', hop', hchange⟩
      . exact .inr hrest
  serving := h.serving
  closed := h.closed

theorem Inv.takes (h : Inv reader s) (ha : Orderly s a) (htakes : Takes reader s a s')
    : Inv reader s' := by
  cases htakes with
  | change file op hop => exact h.change file hop ha
  | notify op => exact h.push op
  | mainInitConfig hmain =>
    have hboot := h.booting (.inl hmain)
    exact ⟨fun _ => hboot, nofun, nofun, by simp [hboot], by simp [hboot]⟩
  | mainStartServer hmain =>
    have hboot := h.booting (.inr hmain)
    exact ⟨by simp, fun _ => ⟨rfl, nofun⟩, nofun, fun _ => rfl, nofun⟩
  | addWatch hmain =>
    have hadding := h.adding hmain
    exact ⟨by simp, nofun, fun _ => ⟨by simp [hadding.1], .inr (.inr (.inl hadding.2))⟩, h.serving, h.closed⟩
  | receive op queue hloop hqueue => exact h.receive hloop hqueue
  | expire hdebounce =>
    refine ⟨fun hmain => ?_, fun hmain => ⟨(h.adding hmain).1, nofun⟩, fun hmain => ?_, h.serving, h.closed⟩
    . exact absurd ((h.booting hmain).2.symm.trans hdebounce) nofun
    . exact ⟨(h.waiting hmain).1, .inr (.inr (.inl nofun))⟩
  | timer hloop hdebounce =>
    have hmain : s.main = .waiting := ha
    refine ⟨by simp [hmain], by simp [hmain], fun _ => ⟨nofun, .inr (.inr (.inr (.inl rfl)))⟩, fun _ => ?_,
      nofun⟩
    exact h.serving (.inl hloop)
  | stopServer closed hloop =>
    have hclosed : closed = true := ha
    rw [hclosed]
    refine ⟨fun hmain => ?_, fun hmain => ?_, fun _ => ⟨nofun, .inr (.inr (.inr (.inr rfl)))⟩, by simp,
      fun _ => rfl⟩
    . exact absurd ((h.booting hmain).1.symm.trans hloop) nofun
    . exact absurd ((h.adding hmain).1.symm.trans hloop) nofun
  | keepServer hloop hserver =>
    rw [h.closed hloop] at hserver
    cases hserver
  | initConfig hloop hserver =>
    refine ⟨fun hmain => ?_, fun hmain => ?_, fun _ => ⟨nofun, .inl rfl⟩, by simp, nofun⟩
    . exact absurd ((h.booting hmain).1.symm.trans hloop) nofun
    . exact absurd ((h.adding hmain).1.symm.trans hloop) nofun
  | startServer hloop =>
    refine ⟨fun hmain => ?_, fun hmain => ?_, fun hmain => ⟨nofun, ?_⟩, fun _ => rfl, nofun⟩
    . exact absurd ((h.booting hmain).1.symm.trans hloop) nofun
    . exact absurd ((h.adding hmain).1.symm.trans hloop) nofun
    . refine (h.waiting hmain).2.imp_right fun hpending => ?_
      rcases hpending with hqueue | hdebounce | hstop | hinit
      . exact .inl hqueue
      . exact .inr (.inl hdebounce)
      . exact absurd (hloop.symm.trans hstop) nofun
      . exact absurd (hloop.symm.trans hinit) nofun

end Invariant

section Progress

def mainWeight : WatcherMain → Nat
  | .initConfig => 9
  | .startServer => 8
  | .addWatch => 1
  | .waiting => 0

def loopWeight : WatcherLoop → Nat
  | .stopServer => 3
  | .initConfig => 2
  | .startServer => 1
  | .notStarted | .selecting => 0

def debounceWeight : Debounce → Nat
  | .running => 5
  | .fired => 4
  | .stopped => 0

/--
A bound for the steps that the watcher can still take by itself.
-/
def weight (s : ConfigWatcher φ κ) : Nat :=
  6 * s.queue.length + mainWeight s.main + loopWeight s.loop + debounceWeight s.debounce

theorem Inv.weight_lt (h : Inv reader s) (htakes : Takes reader s a s') (ha : a.isInternal = true)
    : s'.weight < s.weight ∧ s'.file = s.file := by
  refine ⟨?_, ?_⟩
  . cases htakes with
    | change file op hop => cases ha
    | notify op => cases ha
    | mainInitConfig hmain => simp [weight, mainWeight, hmain]
    | mainStartServer hmain =>
      simp only [weight, mainWeight, loopWeight, debounceWeight, hmain, h.booting (.inr hmain)]
      omega
    | addWatch hmain => simp [weight, mainWeight, hmain]
    | receive op queue hloop hqueue =>
      have hbound : debounceWeight (if op.isChange then .running else s.debounce) ≤ 5 := by
        split
        . exact Nat.le_refl 5
        . cases s.debounce <;> decide
      simp only [weight, hqueue, List.length_cons]
      omega
    | expire hdebounce => simp [weight, debounceWeight, hdebounce]
    | timer hloop hdebounce =>
      simp only [weight, loopWeight, debounceWeight, hloop, hdebounce]
      omega
    | stopServer closed hloop => simp [weight, loopWeight, hloop]
    | keepServer hloop hserver => simp [weight, loopWeight, hloop]
    | initConfig hloop hserver => simp [weight, loopWeight, hloop]
    | startServer hloop => simp [weight, loopWeight, hloop]
  . cases htakes with
    | change file op hop => cases ha
    | notify op => cases ha
    | _ => rfl

/--
A watcher that has nothing to do has added the watch, and waits with no notification and no timer left.
-/
theorem Inv.settled (h : Inv reader s) (hstuck : ∀ a, a.isInternal = true → step reader s a = none)
    : s.main = .waiting ∧ s.loop = .selecting ∧ ¬s.Pending := by
  have hmain : s.main = .waiting := by
    have hnone := hstuck .main rfl
    simp only [step] at hnone
    split at hnone <;> first | assumption | cases hnone
  have hloop : s.loop = .selecting := by
    have hstop := hstuck (.stopServer true) rfl
    have hstart := hstuck .startServer rfl
    cases hloop : s.loop with
    | selecting => rfl
    | notStarted => exact absurd hloop (h.waiting hmain).1
    | stopServer => simp [step, hloop] at hstop
    | initConfig =>
      simp only [step, hloop] at hstart
      split at hstart <;> cases hstart
    | startServer => simp [step, hloop] at hstart
  have hqueue : s.queue = [] := by
    have hreceive := hstuck .receive rfl
    cases hqueue : s.queue with
    | nil => rfl
    | cons op queue => simp [step, hloop, hqueue] at hreceive
  have hdebounce : s.debounce = .stopped := by
    have hexpire := hstuck .expire rfl
    have htimer := hstuck .timer rfl
    cases hdebounce : s.debounce with
    | stopped => rfl
    | running => simp [step, hdebounce] at hexpire
    | fired => simp [step, hloop, hdebounce] at htimer
  exact ⟨hmain, hloop, by simp [Pending, hqueue, hdebounce, hloop]⟩

theorem step_eq_none_of_idle (hmain : s.main = .waiting) (hloop : s.loop = .selecting)
    (hdebounce : s.debounce = .stopped) (hqueue : s.queue = []) {a : WatcherAction φ}
    (ha : a.isInternal = true) : step reader s a = none := by
  cases a with
  | change file op => cases ha
  | notify op => cases ha
  | main => simp [step, hmain]
  | receive => simp [step, hloop, hqueue]
  | expire => simp [step, hdebounce]
  | timer => simp [step, hloop, hdebounce]
  | stopServer closed => simp [step, hloop]
  | startServer => simp [step, hloop]

theorem Inv.exec_internal (h : Inv reader s) {as : List (WatcherAction φ)} {t : ConfigWatcher φ κ}
    (hok : (system reader).Respects Orderly as s) (hexec : (system reader).exec as s = some t)
    (has : ∀ a ∈ as, a.isInternal = true)
    : as.length + t.weight ≤ s.weight ∧ t.file = s.file ∧ Inv reader t := by
  induction as generalizing s with
  | nil =>
    cases hexec
    exact ⟨by simp, rfl, h⟩
  | cons a as ih =>
    rcases (TransitionSystem.exec_cons_eq_some _).mp hexec with ⟨u, hu, hrest⟩
    rw [List.forall_mem_cons] at has
    have htakes : Takes reader s a u := takes_of_step hu
    rcases hok with ⟨ha, hok⟩
    simp only [hu] at hok
    rcases h.weight_lt htakes has.1 with ⟨hlt, hfile⟩
    rcases ih (h.takes ha htakes) hok hrest has.2 with ⟨hbound, hfile', hinv⟩
    refine ⟨?_, hfile'.trans hfile, hinv⟩
    rw [List.length_cons]
    omega

theorem weight_le (s : ConfigWatcher φ κ) : s.weight ≤ 6 * s.queue.length + 17 := by
  have hmain : mainWeight s.main ≤ 9 := by cases s.main <;> decide
  have hloop : loopWeight s.loop ≤ 3 := by cases s.loop <;> decide
  have hdebounce : debounceWeight s.debounce ≤ 5 := by cases s.debounce <;> decide
  unfold weight
  omega

/--
From the last notification on, the watcher takes a bounded number of steps, in whatever order, and when
none is left the exporter serves with the configuration that is in the file.
-/
theorem serves_file_of_exec {maxQueuedEvents : Nat} {file : φ} {as bs : List (WatcherAction φ)} {s t : ConfigWatcher φ κ}
    (hexec : (system reader).exec as (newConfigWatcher maxQueuedEvents file) = some s)
    (hexec' : (system reader).exec bs s = some t)
    (hok : (system reader).Respects Orderly as (newConfigWatcher maxQueuedEvents file))
    (hok' : (system reader).Respects Orderly bs s) (hbs : ∀ b ∈ bs, b.isInternal = true)
    : bs.length ≤ 6 * s.queue.length + 17 ∧
      ((∀ b, b.isInternal = true → step reader t b = none) →
        t.runConf = reader.refreshConfig s.file
          ∧ t.server = some (reader.listenPort (reader.refreshConfig s.file))) := by
  have hinv : Inv reader s :=
    (system reader).exec_invariant (fun _ _ _ h ha hstep => h.takes ha (takes_of_step hstep)) as _ s
      (inv_newConfigWatcher reader maxQueuedEvents file) hok hexec
  rcases hinv.exec_internal hok' hexec' hbs with ⟨hlength, hfile, hinv'⟩
  refine ⟨?_, fun hstuck => ?_⟩
  . have hweight := weight_le s
    omega
  . rcases hinv'.settled hstuck with ⟨hmain, hloop, hsettled⟩
    have hloaded : t.runConf = reader.refreshConfig t.file :=
      (hinv'.waiting hmain).2.resolve_right hsettled
    rw [← hfile, ← hloaded]
    exact ⟨rfl, hinv'.serving (.inl hloop)⟩

end Progress

section Instances

def portReader : ConfigReader (Option UInt32) UInt32 where
  readConfig file := file
  getServerPort c := c
  portEnv := ""

def rewritten : List (WatcherAction (Option UInt32)) :=
  [.main, .main, .main, .change (some 6000) .create, .receive, .expire, .timer, .stopServer true,
    .startServer, .change (some 7000) .write]

def restarting : ConfigWatcher (Option UInt32) UInt32 where
  maxQueuedEvents := 16384
  file := some 7000
  runConf := ⟨6000, some 6000⟩
  server := none
  main := .waiting
  loop := .startServer
  debounce := .stopped
  queue := [.write]

def restarts : List (WatcherAction (Option UInt32)) :=
  [.startServer, .receive, .expire, .timer, .stopServer true, .startServer, .startServer]

def restarted : ConfigWatcher (Option UInt32) UInt32 where
  maxQueuedEvents := 16384
  file := some 7000
  runConf := ⟨7000, some 7000⟩
  server := some 7000
  main := .waiting
  loop := .selecting
  debounce := .stopped
  queue := []

theorem serves_file_of_exec_rewritten
    : restarts.length ≤ 6 * restarting.queue.length + 17 ∧
      ((∀ b : WatcherAction (Option UInt32), b.isInternal = true → step portReader restarted b = none) →
        restarted.runConf = portReader.refreshConfig restarting.file
          ∧ restarted.server = some (portReader.listenPort (portReader.refreshConfig restarting.file))) := by
  have hexec : (system portReader).exec rewritten (newConfigWatcher 16384 none) = some restarting := by decide
  have hexec' : (system portReader).exec restarts restarting = some restarted := by decide
  exact serves_file_of_exec hexec hexec' (by decide) (by decide) (by decide)

/--
A change is lost if the server cannot be closed.
-/
example : (system portReader).exec
    [.main, .main, .main, .change (some 6000) .write, .receive, .expire, .timer, .stopServer false,
      .startServer] (newConfigWatcher 16384 none)
    = some ⟨16384, some 6000, ⟨5000, none⟩, some 5000, .waiting, .selecting, .stopped, []⟩ := by
  decide

end Instances

end ConfigWatcher

end Exporter
