import DeviceMetricsExporter.Lib.CaseMap

/-!
This module contains the exporter's logger: the wrapper with a level of its own around a logger that
writes an entry if its level is at most the one it was last set to.
-/

namespace Exporter

inductive LogLevel where
  | FatalLevel
  | ErrorLevel
  | WarnLevel
  | InfoLevel
  | DebugLevel
  deriving DecidableEq

/--
The larger the number, the less severe.
-/
def LogLevel.toNat : LogLevel → Nat
  | .FatalLevel => 1
  | .ErrorLevel => 2
  | .WarnLevel => 3
  | .InfoLevel => 4
  | .DebugLevel => 5

/--
A line of the log: the message of a call, or the one with which `SetLogLevel` announces a level.
-/
inductive LogLine where
  | message (level : LogLevel) (msg : String)
  | levelSet (level : LogLevel)
  deriving DecidableEq

/--
The wrapper with its own level, the level of the logger it wraps, and the lines written so far.
-/
structure EnhancedLogger where
  currentLevel : LogLevel
  level : LogLevel
  lines : List LogLine
  deriving DecidableEq

def newEnhancedLogger : EnhancedLogger where
  currentLevel := .InfoLevel
  level := .InfoLevel
  lines := []

inductive LogCall where
  | setLogLevelFromString (level : String)
  | debugf (msg : String)
  | infof (msg : String)
  | warnf (msg : String)
  | errorf (msg : String)
  deriving DecidableEq

namespace EnhancedLogger

def isLevelEnabled (e : EnhancedLogger) (level : LogLevel) : Bool :=
  level.toNat ≤ e.level.toNat

def entry (e : EnhancedLogger) (level : LogLevel) (line : LogLine) : EnhancedLogger :=
  if e.isLevelEnabled level then { e with lines := e.lines ++ [line] } else e

def logf (e : EnhancedLogger) (level : LogLevel) (line : LogLine) : EnhancedLogger :=
  if e.currentLevel.toNat ≤ level.toNat then e.entry level line else e

def debugf (e : EnhancedLogger) (msg : String) : EnhancedLogger :=
  e.logf .DebugLevel (.message .DebugLevel msg)

def infof (e : EnhancedLogger) (msg : String) : EnhancedLogger :=
  e.logf .InfoLevel (.message .InfoLevel msg)

def warnf (e : EnhancedLogger) (msg : String) : EnhancedLogger :=
  e.logf .WarnLevel (.message .WarnLevel msg)

def errorf (e : EnhancedLogger) (msg : String) : EnhancedLogger :=
  e.logf .ErrorLevel (.message .ErrorLevel msg)

def setLogLevel (e : EnhancedLogger) (level : LogLevel) : EnhancedLogger :=
  let e := { e with currentLevel := level }
  -- the announcement still meets the old level of the wrapped logger
  let e := e.logf .InfoLevel (.levelSet level)
  { e with level := level }

end EnhancedLogger

section Parse

variable [CaseMap]

def parseLogLevel (level : String) : LogLevel :=
  let level := toLower level
  if level = "DEBUG" ∨ level = "debug" then
    .DebugLevel
  else if level = "INFO" ∨ level = "info" then
    .InfoLevel
  else if level = "WARN" ∨ level = "warn" ∨ level = "WARNING" ∨ level = "warning" then
    .WarnLevel
  else if level = "ERROR" ∨ level = "error" then
    .ErrorLevel
  else if level = "FATAL" ∨ level = "fatal" then
    .FatalLevel
  else
    .InfoLevel

namespace EnhancedLogger

def setLogLevelFromString (e : EnhancedLogger) (level : String) : EnhancedLogger :=
  e.setLogLevel (parseLogLevel level)

def call (e : EnhancedLogger) (c : LogCall) : EnhancedLogger :=
  match c with
  | .setLogLevelFromString level => e.setLogLevelFromString level
  | .debugf msg => e.debugf msg
  | .infof msg => e.infof msg
  | .warnf msg => e.warnf msg
  | .errorf msg => e.errorf msg

end EnhancedLogger

/--
The logger after initialisation, where `levelStr` is the environment variable for its level.
-/
def initLogger (levelStr : String) : EnhancedLogger :=
  if levelStr ≠ "" then
    newEnhancedLogger.setLogLevel (parseLogLevel levelStr)
  else
    newEnhancedLogger

end Parse

end Exporter
