import MarketFeed.LogLevel

/-!
# Events and spans

What a run reports while it goes on: events, each at one moment, and spans, the stretches of
work that events fall into.

* `Field`, `FieldValue` — a named value that an event or a span carries.
* `Event`               — a message with its severity, its origin and its fields.
* `Span`                — a stretch of work with a name.
-/

namespace MarketFeed

/-- The value of a field: text that log lines quote, or words that they show as they are. -/
inductive FieldValue where
  | text (value : String)
  | words (value : String)
  deriving DecidableEq, Repr

/-- The value itself, without quotes. -/
def FieldValue.plain : FieldValue → String
  | .text value => value
  | .words value => value

/-- A named value. -/
structure Field where
  name : String
  value : FieldValue
  deriving DecidableEq, Repr

/-- A stretch of work; `target` names the part of the program that does it. -/
structure Span where
  name : String
  target : String
  fields : List Field
  deriving DecidableEq, Repr

/-- A message at one moment; `target` names the part of the program that sends it. -/
structure Event where
  severity : Severity
  target : String
  message : String
  fields : List Field
  deriving DecidableEq, Repr

/-- The severity of every span. -/
def Span.severity : Severity := .info

end MarketFeed
