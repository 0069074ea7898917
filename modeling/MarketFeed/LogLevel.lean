import MarketFeed.Text.Blank
import MarketFeed.Text.Case
import MarketFeed.ValueError

/-!
# Log levels

A component's logger has one of six levels; the terminal knows five severities, because a
critical message is shown as an error.

* `LogLevel`, `LogLevel.atLeast` — the levels and their order, from talkative to silent.
* `LogLevel.ofName?` — a level from its exact name.
* `LogLevel.parse`   — a level from text, with blanks around it and in any case.
* `Severity`, `LogLevel.severity` — what the terminal calls a level.

Main statements: `ofName?_name` and `parse_name` — a level is read back from its own name;
`parse_eq_ok_iff` — parsing accepts a text exactly as `ofName?` accepts it trimmed and small.
-/

namespace MarketFeed

/-- How much a message matters, from the least to the most. -/
inductive LogLevel where
  | trace
  | debug
  | info
  | warning
  | error
  | critical
  deriving DecidableEq, Repr

namespace LogLevel

/-- All levels, from the least to the most important. -/
def all : List LogLevel := [trace, debug, info, warning, error, critical]

/-- The name of a level. -/
def name : LogLevel → String
  | trace => "trace"
  | debug => "debug"
  | info => "info"
  | warning => "warning"
  | error => "error"
  | critical => "critical"

/-- The place of a level in the order. -/
def rank : LogLevel → Nat
  | trace => 0
  | debug => 1
  | info => 2
  | warning => 3
  | error => 4
  | critical => 5

/-- A message of the first level matters at least as much as the second asks. -/
def atLeast (level threshold : LogLevel) : Bool := threshold.rank ≤ level.rank

instance : LE LogLevel := ⟨fun a b => a.rank ≤ b.rank⟩

instance (a b : LogLevel) : Decidable (a ≤ b) := inferInstanceAs (Decidable (a.rank ≤ b.rank))

/-- The level that holds unless something else is asked for. -/
def standard : LogLevel := warning

/-- The level of that exact name; `warn` is a second name of one. -/
def ofName? (s : String) : Option LogLevel :=
  if s = "warn" then some warning else all.find? fun level => level.name == s

/-- The level that a text names, whatever blanks stand around it and whatever the case. -/
def parse (s : String) : Except ValueError LogLevel :=
  match ofName? (Text.lower (Text.trim s)) with
  | some level => .ok level
  | none => .error (.logLevel s)

theorem mem_all (level : LogLevel) : level ∈ all := by cases level <;> decide

/-- A level is found by its own name. -/
theorem ofName?_name (level : LogLevel) : ofName? level.name = some level := by
  cases level <;> decide

/-- Text is read as a level exactly if it is the name of one after trimming and lowering. -/
theorem parse_eq_ok_iff {s : String} {level : LogLevel} :
    parse s = .ok level ↔ ofName? (Text.lower (Text.trim s)) = some level := by
  unfold parse
  split <;> simp_all

/-- A level is read back from its own name. -/
theorem parse_name (level : LogLevel) : parse level.name = .ok level := by
  rw [parse_eq_ok_iff]
  cases level <;> decide

end LogLevel

/-- How much an event matters to the terminal, from the least to the most. -/
inductive Severity where
  | trace
  | debug
  | info
  | warn
  | error
  deriving DecidableEq, Repr

namespace Severity

/-- The place of a severity in the order. -/
def rank : Severity → Nat
  | trace => 0
  | debug => 1
  | info => 2
  | warn => 3
  | error => 4

/-- How a severity is written in front of an event. -/
def label : Severity → String
  | trace => "TRACE"
  | debug => "DEBUG"
  | info => "INFO"
  | warn => "WARN"
  | error => "ERROR"

/-- What a severity is called as a threshold. -/
def name : Severity → String
  | trace => "trace"
  | debug => "debug"
  | info => "info"
  | warn => "warn"
  | error => "error"

/-- An event of the first severity passes where the second is the threshold. -/
def passes (severity threshold : Severity) : Bool := threshold.rank ≤ severity.rank

end Severity

/-- The severity that the terminal shows a level as. -/
def LogLevel.severity : LogLevel → Severity
  | .trace => .trace
  | .debug => .debug
  | .info => .info
  | .warning => .warn
  | .error => .error
  | .critical => .error

/-- The order of levels is the order of their severities, up to the two highest. -/
theorem LogLevel.severity_rank_le {a b : LogLevel} (h : a ≤ b) :
    a.severity.rank ≤ b.severity.rank := by
  revert h
  cases a <;> cases b <;> decide

end MarketFeed
