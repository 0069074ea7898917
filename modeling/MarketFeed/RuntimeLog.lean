import MarketFeed.Session

/-!
# Runtime logs

When a command group is entered, the log of its console location begins a session.

* `RuntimeLog`           — how a session begins; a log may note it, write it or refuse.
* `RuntimeLog.begin`     — having a log begin a session.
* `RuntimeLog.recording` — a log that notes each call of it and does nothing else.
* `RuntimeLog.console`   — a log that adds a marker to the file of the group's label.
* `RuntimeLog.refusing`  — a log that refuses every session.
* `RuntimeLog.noting`    — any log, made to note each call of it.
* `Stamp`                — what a marker tells of the moment and the machine.

Whether anything is noted is up to the log: whoever calls it notes nothing.  A marker is written
whole or not at all.  That the file system runs out of room while a line is being written, and what
the user may not write to, are left out here as they are in the files.
-/

namespace MarketFeed

/-- The moment, the machine and the process that a marker names. -/
structure Stamp where
  time : String
  host : String
  process : String
  deriving DecidableEq, Repr

/-- The line that marks the beginning of a session. -/
def Stamp.marker (stamp : Stamp) (label : String) : String :=
  "[" ++ stamp.time ++ "] session start label=" ++ label ++ " host=" ++ stamp.host ++
    " pid=" ++ stamp.process ++ "\n"

/-- What a runtime log tells: an event, or that it was asked to begin a session. -/
inductive Report where
  | event (event : Event)
  | asked (console label : String)
  deriving DecidableEq, Repr

/-- The entry that a report leaves in a journal, inside the spans open at that moment. -/
def Report.entry (spans : List Span) : Report → Entry
  | .event e => .event e spans
  | .asked console label => .logSetUp console label

/-- What comes of beginning a session: how it ends, the files afterwards and what the log tells. -/
structure SetUp where
  result : Except IoError Unit
  files : FileTree
  reports : List Report

/-- How a session begins for a location and a label, on the files that are there. -/
structure RuntimeLog where
  setUp : Location → String → FileTree → SetUp

namespace RuntimeLog

/-- Has the log begin a session.  However that ends, what it did and told stays. -/
def begin (log : RuntimeLog) (location : Location) (label : String) : Action IoError Unit :=
  ExceptT.mk fun s =>
    let r := log.setUp location label s.files
    (r.result,
      { s with files := r.files, journal := s.journal ++ r.reports.map (Report.entry s.spans) })

/-- A log that notes each call of it and does nothing else. -/
def recording : RuntimeLog :=
  ⟨fun location label files => ⟨.ok (), files, [.asked location.uname label]⟩⟩

/-- A log that refuses every session. -/
def refusing (e : IoError) : RuntimeLog := ⟨fun _ _ files => ⟨.error e, files, []⟩⟩

/-- The same log, which also notes each call of it. -/
def noting (log : RuntimeLog) : RuntimeLog where
  setUp location label files :=
    let r := log.setUp location label files
    { r with reports := .asked location.uname label :: r.reports }

/-- The event that tells where the marker was written. -/
def ready (file : Path) : Event where
  severity := .debug
  target := "kfc_data::infrastructure::traits"
  message := "runtime log ready"
  fields := [⟨"path", .words file.text⟩]

/-- Makes the location's log directory and adds a marker to the label's file in it. -/
def mark (stamp : Stamp) (location : Location) (label : String) (files : FileTree) : SetUp :=
  match files.createDirectories (location.layoutDir .log) with
  -- directories that were made before the failure stay
  | (.error e, files) => ⟨.error e, files, []⟩
  | (.ok (), files) =>
    let file := location.layoutFile .log label
    match files.append file (Utf8.encode (stamp.marker label)) with
    | .error e => ⟨.error e, files, []⟩
    | .ok files => ⟨.ok (), files, [.event (ready file)]⟩

/-- A log that marks each session with a stamp. -/
def console (stamp : Stamp) : RuntimeLog := ⟨mark stamp⟩

end RuntimeLog

end MarketFeed
