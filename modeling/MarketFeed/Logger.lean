import MarketFeed.Event
import MarketFeed.Location

/-!
# Loggers

A logger speaks for one component and reports to one console location.  It lets a message pass
if the message's level is at least its own.

* `Logger.enabled` — whether messages of a level pass.
* `Logger.event?`  — the event that a message becomes.
* `Logger.created` — the event that tells of a new logger.

Main statement: `event?_isSome_iff` — a message becomes an event exactly if its level passes.
-/

namespace MarketFeed

/-- A component's logger; copies keep its identity. -/
structure Logger where
  identity : Nat
  component : String
  level : LogLevel
  console : String
  deriving DecidableEq, Repr

namespace Logger

/-- The part of the program that loggers speak from. -/
def target : String := "kfc_data::domain::logger"

/-- A logger for a component that reports to a location. -/
def make (identity : Nat) (component : String) (level : LogLevel) (console : Location) : Logger :=
  ⟨identity, component, level, console.uname⟩

/-- Messages of the level pass. -/
def enabled (l : Logger) (level : LogLevel) : Bool := level.atLeast l.level

/-- The fields of every event of a logger; a critical one says so. -/
def fields (l : Logger) (level : LogLevel) : List Field :=
  [⟨"component", .words l.component⟩, ⟨"console", .words l.console⟩] ++
    if level = .critical then [⟨"critical", .words "true"⟩] else []

/-- The event that a message of a level becomes, if the level passes. -/
def event? (l : Logger) (level : LogLevel) (message : String) : Option Event :=
  if l.enabled level then some ⟨level.severity, target, message, l.fields level⟩ else none

/-- The event that tells of a new logger. -/
def created (l : Logger) : Event where
  severity := .trace
  target := "kfc_data::infrastructure::traits"
  message := "create logger"
  fields :=
    [⟨"logger", .text l.component⟩, ⟨"level", .words l.level.name⟩, ⟨"console", .words l.console⟩]

/-- A message becomes an event exactly if its level passes. -/
theorem event?_isSome_iff {l : Logger} {level : LogLevel} {message : String} :
    (l.event? level message).isSome ↔ l.level ≤ level := by
  have hle : l.enabled level = true ↔ l.level ≤ level := decide_eq_true_iff
  unfold event?
  split <;> simp_all

end Logger

end MarketFeed
