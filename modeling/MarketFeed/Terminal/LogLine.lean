import MarketFeed.Event
import MarketFeed.LogLevel
import MarketFeed.Text.Quoted

/-!
# Log lines

How the terminal shows events and the ends of spans, one line each: the time, the severity, the
spans from the outside in, what it comes from, and what it says.

* `Clock`                — the texts of times, which differ from run to run.
* `LogLine.ofEvent?`     — the line of an event, if its severity passes.
* `LogLine.ofClosing?`   — the line that tells of the end of a span.
-/

namespace MarketFeed.Terminal

/-- The texts of a moment and of the two stretches of time that the end of a span tells of. -/
structure Clock where
  moment : String
  busy : String
  idle : String
  deriving DecidableEq, Repr

namespace LogLine

/-- The value of a field: text between quotes, words as they are. -/
def value : FieldValue → String
  | .text value => Text.quoted value
  | .words value => value

/-- A field with its value. -/
def field (f : Field) : String := f.name ++ "=" ++ value f.value

/-- A span with its fields. -/
def span (s : Span) : String :=
  s.name ++ "\x7b" ++ " ".intercalate (s.fields.map field) ++ "\x7d"

/-- The spans from the outside in.  They are shown only where spans pass the threshold. -/
def spans (threshold : Severity) (open_ : List Span) : String :=
  -- a span that does not pass is as if it were not there
  if Span.severity.passes threshold && !open_.isEmpty then
    ":".intercalate (open_.map span) ++ ": "
  else ""

/-- The label of a severity, so that all labels end in the same column. -/
def label (severity : Severity) : String :=
  String.ofList (List.replicate (5 - severity.label.length) ' ') ++ severity.label

/-- A line with everything in its place. -/
def line (clock : Clock) (severity : Severity) (spans target message : String) : String :=
  clock.moment ++ " " ++ label severity ++ " " ++ spans ++ target ++ ": " ++ message ++ "\n"

/-- The character could steer the terminal: it moves the cursor back, or a sequence of codes can
begin with it. -/
def isSteering (c : Char) : Bool :=
  c == '\x07' || c == '\x08' || c == '\x0c' || c == '\x1b' || (0x7F ≤ c.toNat && c.toNat ≤ 0x9F)

/-- A character of a message; what could steer the terminal is shown by its code. -/
def messageChar (c : Char) : String :=
  if !isSteering c then c.toString
  else if c.toNat < 0x10 then "\\x0" ++ Text.hexDigits c.toNat
  else if c.toNat < 0x80 then "\\x" ++ Text.hexDigits c.toNat
  else "\\u\x7b" ++ Text.hexDigits c.toNat ++ "\x7d"

/-- What an event says: its message, then its fields. -/
def said (e : Event) : String :=
  " ".intercalate (String.join (e.message.toList.map messageChar) :: e.fields.map field)

/-- The line of an event inside spans, if the severity of the event passes the threshold. -/
def ofEvent? (clock : Clock) (threshold : Severity) (e : Event) (open_ : List Span) :
    Option String :=
  if e.severity.passes threshold then
    some (line clock e.severity (spans threshold open_) e.target (said e))
  else none

/-- The line that tells of the end of a span inside others, if spans pass the threshold. -/
def ofClosing? (clock : Clock) (threshold : Severity) (s : Span) (around : List Span) :
    Option String :=
  if Span.severity.passes threshold then
    some (line clock Span.severity (spans threshold (around ++ [s])) s.target
      ("close time.busy=" ++ clock.busy ++ " time.idle=" ++ clock.idle))
  else none

end LogLine

end MarketFeed.Terminal
