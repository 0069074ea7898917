import MarketFeed.Terminal.Style

/-!
# Messages

What commands tell the user, one line each.

* `Stream`       — where a text is printed.
* `Message`      — what is told.
* `Message.line` — the line that tells it, in colour or not.
-/

namespace MarketFeed.Terminal

/-- Where a text is printed. -/
inductive Stream where
  | output
  | errors
  deriving DecidableEq, Repr

/-- What a command tells the user. -/
inductive Message where
  | error (text : String)
  | warning (text : String)
  | success (text : String)
  | action (label text : String)
  | entry (name about : String)
  | header (text : String)
  | info (text : String)
  /-- A remark that is not coloured, on the stream for errors. -/
  | remark (text : String)
  deriving DecidableEq, Repr

namespace Message

/-- Where a message is printed. -/
def stream : Message → Stream
  | error _ => .errors
  | warning _ => .errors
  | remark _ => .errors
  | _ => .output

/-- How many characters the name of an entry takes at least, so that what follows lines up. -/
def nameWidth : Nat := 16

/-- The text with blanks after it, so that it has at least so many characters. -/
def padded (width : Nat) (text : String) : String :=
  String.ofList (text.toList ++ List.replicate (width - text.length) ' ')

/-- The text of a message. -/
def text (colour : Bool) : Message → String
  | error text => Style.boldRed.paint colour "error" ++ ": " ++ text
  | warning text => Style.yellow.paint colour "Warning" ++ ": " ++ text
  | success text => Style.green.paint colour "✓" ++ " " ++ text
  | action label text => Style.green.paint colour label ++ ": " ++ text
  | entry name about =>
    if about = "" then "  " ++ Style.cyan.paint colour name
    else "  " ++ Style.cyan.paint colour (padded nameWidth name) ++ " " ++ about
  | header text => Style.boldCyan.paint colour text
  | info text => text
  | remark text => text

/-- The line of a message. -/
def line (colour : Bool) (m : Message) : String := m.text colour ++ "\n"

end Message

end MarketFeed.Terminal
