import DeviceMetricsExporter.Lib.GoStrings
import DeviceMetricsExporter.Lib.TransitionSystem

/-!
This module contains the watcher of the configuration file: the notifications of its directory, the timer
that waits until they stop, and the restarts of the server with a new configuration.
-/

universe u v

namespace Exporter

/--
What a configuration file is to the watcher: `readConfig` is `none` if it cannot be read or decoded, and
`portEnv` is the environment variable that overrides the port.
-/
structure ConfigReader (φ : Type u) (κ : Type v) where
  readConfig : φ → Option κ
  getServerPort : κ → UInt32
  portEnv : String

def AMDListenPort : UInt32 := 5000

/--
`metricsConfig` is `none` for the empty configuration.
-/
structure Config (κ : Type v) where
  serverPort : UInt32
  metricsConfig : Option κ
  deriving DecidableEq

def NewConfig {κ : Type v} : Config κ where
  serverPort := AMDListenPort
  metricsConfig := none

namespace ConfigReader

variable {φ : Type u} {κ : Type v} (reader : ConfigReader φ κ)

def update (newConfig : Option κ) : Config κ where
  serverPort :=
    match newConfig with
    | none => AMDListenPort
    | some c => if reader.getServerPort c ≠ 0 then reader.getServerPort c else AMDListenPort
  metricsConfig := newConfig

/--
A file that cannot be read brings back the defaults.
-/
def refreshConfig (file : φ) : Config κ :=
  reader.update (reader.readConfig file)

def listenPort (c : Config κ) : UInt32 :=
  if reader.portEnv ≠ "" then
    match atoi reader.portEnv with
    | none => c.serverPort
    | some number => UInt32.ofInt number
  else
    c.serverPort

end ConfigReader

inductive FileOp where
  | create
  | write
  | remove
  | rename
  | chmod
  deriving DecidableEq

/--
The notifications that make the watcher wait and load.
-/
def FileOp.isChange : FileOp → Bool
  | create | write | remove | rename => true
  | chmod => false

inductive Debounce where
  | stopped
  | running
  | fired
  deriving DecidableEq

/--
Where `foreverWatcher` itself is. It waits for the end of the exporter once it has added the watch.
-/
inductive WatcherMain where
  | initConfig
  | startServer
  | addWatch
  | waiting
  deriving DecidableEq

/--
Where the goroutine that listens for the notifications is.
-/
inductive WatcherLoop where
  | notStarted
  | selecting
  | stopServer
  | initConfig
  | startServer
  deriving DecidableEq

/--
`server` is the port of the server that has been started and not been closed since, and `maxQueuedEvents` what
the kernel queues for the watch before it drops notifications.
-/
structure ConfigWatcher (φ : Type u) (κ : Type v) where
  maxQueuedEvents : Nat
  file : φ
  runConf : Config κ
  server : Option UInt32
  main : WatcherMain
  loop : WatcherLoop
  debounce : Debounce
  queue : List FileOp
  deriving DecidableEq

/--
`change` is a change of the file, and `notify` any other notification of its directory. `closed` tells
whether the server is closed, which both the shutdown and the forced close may fail to do.
-/
inductive WatcherAction (φ : Type u) where
  | change (file : φ) (op : FileOp)
  | notify (op : FileOp)
  | main
  | receive
  | expire
  | timer
  | stopServer (closed : Bool)
  | startServer

namespace ConfigWatcher

variable {φ : Type u} {κ : Type v}

def push (s : ConfigWatcher φ κ) (op : FileOp) : ConfigWatcher φ κ :=
  if s.main = .waiting ∧ s.queue.length < s.maxQueuedEvents then
    { s with queue := s.queue ++ [op] }
  else
    s

def step (reader : ConfigReader φ κ) (s : ConfigWatcher φ κ) (a : WatcherAction φ)
    : Option (ConfigWatcher φ κ) :=
  match a with
  | .change file op => if op.isChange then some ({ s with file }.push op) else none
  | .notify op => some (s.push op)
  | .main =>
    match s.main with
    | .initConfig =>
      some { s with runConf := reader.refreshConfig s.file, main := .startServer }
    | .startServer =>
      some
        { s with
          server := some (reader.listenPort s.runConf)
          main := .addWatch
          loop := .selecting
          debounce := .running }
    | .addWatch => some { s with main := .waiting }
    | .waiting => none
  | .receive =>
    match s.loop, s.queue with
    | .selecting, op :: queue =>
      some { s with queue, debounce := if op.isChange then .running else s.debounce }
    | _, _ => none
  | .expire => if s.debounce = .running then some { s with debounce := .fired } else none
  | .timer =>
    if s.loop = .selecting ∧ s.debounce = .fired then
      some { s with debounce := .stopped, loop := .stopServer }
    else
      none
  | .stopServer closed =>
    if s.loop = .stopServer then
      some { s with server := if closed then none else s.server, loop := .initConfig }
    else
      none
  | .startServer =>
    match s.loop with
    | .initConfig =>
      -- a server that could not be closed keeps its configuration
      if s.server.isSome then
        some { s with loop := .selecting }
      else
        some { s with runConf := reader.refreshConfig s.file, loop := .startServer }
    | .startServer => some { s with server := some (reader.listenPort s.runConf), loop := .selecting }
    | _ => none

def system (reader : ConfigReader φ κ) : TransitionSystem (ConfigWatcher φ κ) (WatcherAction φ) where
  step := step reader

end ConfigWatcher

def newConfigWatcher {φ : Type u} {κ : Type v} (maxQueuedEvents : Nat) (file : φ)
    : ConfigWatcher φ κ where
  maxQueuedEvents := maxQueuedEvents
  file := file
  runConf := NewConfig
  server := none
  main := .initConfig
  loop := .notStarted
  debounce := .stopped
  queue := []

end Exporter
