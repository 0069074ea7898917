import MarketFeed.Session
import MarketFeed.Terminal.LogLine

/-!
# Transcripts

What a journal looks like on the terminal.

* `Display`    — how the terminal shows things: colour, times, and texts of no fixed wording.
* `transcript` — the texts that are printed for a journal, each with its stream.
* `printed`    — all text on one stream.

Main statement: `transcript_append` — a journal that goes on is printed on.
-/

namespace MarketFeed.Terminal

open CommandLine (Rejection)

/-- How the terminal shows things. -/
structure Display where
  colour : Bool
  clock : Clock
  rejections : Rejection → String
  completions : Shell → String

/-- The threshold after an entry; none means that no events are shown yet. -/
def thresholdAfter (threshold : Option Severity) : Entry → Option Severity
  | .showing severity => some severity
  | _ => threshold

/-- The text that is printed for a rejection, with its stream: what was asked for is output. -/
def rejectionText (display : Display) : Rejection → Stream × String
  | .version text => (.output, text)
  | .help => (.output, display.rejections .help)
  | rejection => (.errors, display.rejections rejection)

/-- The text that is printed for an entry, with its stream. -/
def entryText? (display : Display) (threshold : Option Severity) :
    Entry → Option (Stream × String)
  | .told message => some (message.stream, message.line display.colour)
  | .rejected rejection => some (rejectionText display rejection)
  | .completions shell => some (.output, display.completions shell)
  | .event event spans => do
    return (.errors, ← LogLine.ofEvent? display.clock (← threshold) event spans)
  | .closed span around => do
    return (.errors, ← LogLine.ofClosing? display.clock (← threshold) span around)
  | _ => none

/-- The texts that are printed for a journal. -/
def transcript (display : Display) (threshold : Option Severity) :
    List Entry → List (Stream × String)
  | [] => []
  | entry :: rest =>
    (entryText? display threshold entry).toList ++
      transcript display (thresholdAfter threshold entry) rest

/-- A journal that goes on is printed on, with the threshold that then holds. -/
theorem transcript_append (display : Display) (threshold : Option Severity)
    (first second : List Entry) :
    transcript display threshold (first ++ second) =
      transcript display threshold first ++
        transcript display (first.foldl thresholdAfter threshold) second := by
  induction first generalizing threshold with
  | nil => rfl
  | cons entry rest ih => simp [transcript, ih]

/-- All text that is printed on one stream for a journal, where no events are shown at first. -/
def printed (display : Display) (stream : Stream) (journal : List Entry) : String :=
  String.join ((transcript display none journal).filterMap fun (s, text) =>
    if s = stream then some text else none)

end MarketFeed.Terminal
