import DeviceMetricsExporter.Exporter.Impl.Logger

/-!
This module contains which messages the logger writes: the wrapper lets through what is not more
severe than the level in force, the logger it wraps what is not less severe.
-/

namespace Exporter

structure Attempt where
  inForce : LogLevel
  level : LogLevel
  msg : String
  deriving DecidableEq

def LogLine.message? : LogLine → Option (LogLevel × String)
  | .message level msg => some (level, msg)
  | .levelSet _ => none

def messages (lines : List LogLine) : List (LogLevel × String) :=
  lines.filterMap LogLine.message?

namespace Attempt

def isSevereEnough (a : Attempt) : Bool :=
  a.level.toNat ≤ a.inForce.toNat

def entry (a : Attempt) : LogLevel × String :=
  (a.level, a.msg)

end Attempt

section Calls

variable [CaseMap]

/--
The logging calls among `calls`, the level in force is the one that was set last.
-/
def attempts (inForce : LogLevel) : List LogCall → List Attempt
  | [] => []
  | .setLogLevelFromString level :: calls => attempts (parseLogLevel level) calls
  | .debugf msg :: calls => ⟨inForce, .DebugLevel, msg⟩ :: attempts inForce calls
  | .infof msg :: calls => ⟨inForce, .InfoLevel, msg⟩ :: attempts inForce calls
  | .warnf msg :: calls => ⟨inForce, .WarnLevel, msg⟩ :: attempts inForce calls
  | .errorf msg :: calls => ⟨inForce, .ErrorLevel, msg⟩ :: attempts inForce calls

def initialLevel (levelStr : String) : LogLevel :=
  if levelStr ≠ "" then parseLogLevel levelStr else .InfoLevel

/--
The messages written are those of the calls whose level is at least as severe as the one in force.
-/
def FiltersBySeverity (levelStr : String) (calls : List LogCall) : Prop :=
  messages (calls.foldl EnhancedLogger.call (initLogger levelStr)).lines
    = ((attempts (initialLevel levelStr) calls).filter Attempt.isSevereEnough).map Attempt.entry

end Calls

theorem LogLevel.toNat_injective {level level' : LogLevel} (h : level.toNat = level'.toNat)
    : level = level' := by
  revert h
  cases level <;> cases level' <;> decide

@[simp]
theorem messages_append (lines lines' : List LogLine)
    : messages (lines ++ lines') = messages lines ++ messages lines' :=
  List.filterMap_append

namespace EnhancedLogger

structure AtLevel (e : EnhancedLogger) (level : LogLevel) : Prop where
  currentLevel : e.currentLevel = level
  level : e.level = level

theorem currentLevel_logf (e : EnhancedLogger) (level : LogLevel) (line : LogLine)
    : (e.logf level line).currentLevel = e.currentLevel := by
  unfold logf entry
  split
  . split
    . rfl
    . rfl
  . rfl

theorem level_logf (e : EnhancedLogger) (level : LogLevel) (line : LogLine)
    : (e.logf level line).level = e.level := by
  unfold logf entry
  split
  . split
    . rfl
    . rfl
  . rfl

theorem AtLevel.logf {e : EnhancedLogger} {inForce : LogLevel} (h : e.AtLevel inForce)
    (level : LogLevel) (line : LogLine) : (e.logf level line).AtLevel inForce where
  currentLevel := (currentLevel_logf e level line).trans h.currentLevel
  level := (level_logf e level line).trans h.level

theorem messages_logf {e : EnhancedLogger} {inForce : LogLevel} (h : e.AtLevel inForce)
    (level : LogLevel) (msg : String)
    : messages (e.logf level (.message level msg)).lines
        = messages e.lines ++ if level = inForce then [(level, msg)] else [] := by
  unfold logf entry isLevelEnabled
  rw [h.currentLevel, h.level]
  split
  . next hwrapper =>
    split
    . next hlogger =>
      rw [decide_eq_true_eq] at hlogger
      rw [if_pos (LogLevel.toNat_injective (Nat.le_antisymm hlogger hwrapper)), messages_append]
      rfl
    . next hlogger =>
      have hne : level ≠ inForce := by
        rintro rfl
        exact hlogger (decide_eq_true (Nat.le_refl _))
      rw [if_neg hne, List.append_nil]
  . next hwrapper =>
    have hne : level ≠ inForce := by
      rintro rfl
      exact hwrapper (Nat.le_refl _)
    rw [if_neg hne, List.append_nil]

theorem setLogLevel_atLevel (e : EnhancedLogger) (level : LogLevel)
    : (e.setLogLevel level).AtLevel level where
  currentLevel := currentLevel_logf _ .InfoLevel (.levelSet level)
  level := rfl

theorem messages_setLogLevel (e : EnhancedLogger) (level : LogLevel)
    : messages (e.setLogLevel level).lines = messages e.lines := by
  unfold setLogLevel logf entry
  dsimp only
  split
  . split
    . simp [messages, LogLine.message?]
    . rfl
  . rfl

end EnhancedLogger

namespace Attempt

def isAtLevel (a : Attempt) : Bool :=
  a.level = a.inForce

def isTooSevere (a : Attempt) : Bool :=
  a.level.toNat < a.inForce.toNat

theorem isAtLevel_eq (a : Attempt) : a.isAtLevel = (a.isSevereEnough && !a.isTooSevere) := by
  rcases a with ⟨inForce, level, msg⟩
  cases inForce <;> cases level <;> rfl

theorem isSevereEnough_of_isTooSevere {a : Attempt} (h : a.isTooSevere = true)
    : a.isSevereEnough = true := by
  simp only [isTooSevere, isSevereEnough, decide_eq_true_eq] at h ⊢
  exact Nat.le_of_lt h

theorem filter_isAtLevel_cons (inForce level : LogLevel) (msg : String) (as : List Attempt)
    : ((⟨inForce, level, msg⟩ :: as).filter isAtLevel).map entry
        = (if level = inForce then [(level, msg)] else [])
          ++ (as.filter isAtLevel).map entry := by
  by_cases h : level = inForce
  . rw [List.filter_cons_of_pos (by simpa [isAtLevel] using h), if_pos h]
    rfl
  . rw [List.filter_cons_of_neg (by simpa [isAtLevel] using h), if_neg h]
    rfl

theorem filter_isAtLevel_eq_iff (as : List Attempt)
    : (as.filter isAtLevel).map entry = (as.filter isSevereEnough).map entry
        ↔ ∀ a ∈ as, a.isTooSevere = false := by
  have hsplit : as.filter isAtLevel = (as.filter isSevereEnough).filter fun a => !a.isTooSevere := by
    rw [List.filter_filter]
    apply List.filter_congr
    intro a _
    rw [isAtLevel_eq, Bool.and_comm]
  constructor
  . intro h a ha
    have hlength := congrArg List.length h
    rw [List.length_map, List.length_map, hsplit, List.length_filter_eq_length_iff] at hlength
    cases hsevere : a.isTooSevere with
    | false => rfl
    | true =>
      have hkept := hlength a (List.mem_filter.mpr ⟨ha, isSevereEnough_of_isTooSevere hsevere⟩)
      rw [hsevere] at hkept
      cases hkept
  . intro h
    rw [hsplit, List.filter_eq_self.mpr]
    intro a ha
    rw [h a (List.mem_filter.mp ha).1]
    rfl

end Attempt

section Run

variable [CaseMap]

theorem messages_foldl_call {e : EnhancedLogger} {inForce : LogLevel} (h : e.AtLevel inForce)
    (calls : List LogCall)
    : messages (calls.foldl EnhancedLogger.call e).lines
        = messages e.lines
          ++ ((attempts inForce calls).filter Attempt.isAtLevel).map Attempt.entry := by
  induction calls generalizing e inForce with
  | nil => simp [attempts]
  | cons c calls ih =>
    have hlogf (level : LogLevel) (msg : String)
        : messages (calls.foldl EnhancedLogger.call (e.logf level (.message level msg))).lines
          = messages e.lines ++ ((⟨inForce, level, msg⟩ :: attempts inForce calls).filter
              Attempt.isAtLevel).map Attempt.entry := by
      rw [ih (h.logf level _), EnhancedLogger.messages_logf h, Attempt.filter_isAtLevel_cons,
        List.append_assoc]
    rw [List.foldl_cons]
    cases c with
    | setLogLevelFromString level =>
      have hrest := ih (e.setLogLevel_atLevel (parseLogLevel level))
      rw [e.messages_setLogLevel] at hrest
      simp only [EnhancedLogger.call, EnhancedLogger.setLogLevelFromString, attempts]
      exact hrest
    | debugf msg => exact hlogf .DebugLevel msg
    | infof msg => exact hlogf .InfoLevel msg
    | warnf msg => exact hlogf .WarnLevel msg
    | errorf msg => exact hlogf .ErrorLevel msg

theorem initLogger_atLevel (levelStr : String)
    : (initLogger levelStr).AtLevel (initialLevel levelStr) := by
  unfold initLogger initialLevel
  split
  . exact newEnhancedLogger.setLogLevel_atLevel _
  . exact ⟨rfl, rfl⟩

theorem messages_initLogger (levelStr : String) : messages (initLogger levelStr).lines = [] := by
  unfold initLogger
  split
  . exact newEnhancedLogger.messages_setLogLevel _
  . rfl

/--
The logger filters by severity if and only if no call is more severe than the level in force: the
comparison of the wrapper goes the wrong way.
-/
theorem filtersBySeverity_iff (levelStr : String) (calls : List LogCall)
    : FiltersBySeverity levelStr calls
        ↔ ∀ a ∈ attempts (initialLevel levelStr) calls, a.isTooSevere = false := by
  rw [FiltersBySeverity, messages_foldl_call (initLogger_atLevel levelStr), messages_initLogger,
    List.nil_append, Attempt.filter_isAtLevel_eq_iff]

end Run

theorem not_filtersBySeverity
    : ¬∀ [CaseMap] (levelStr : String) (calls : List LogCall),
        FiltersBySeverity levelStr calls := by
  intro h
  have hwarn := @h CaseMap.ascii "" [.warnf "disk full"]
  unfold FiltersBySeverity at hwarn
  revert hwarn
  decide

end Exporter
