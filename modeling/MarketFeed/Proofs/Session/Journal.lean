import MarketFeed.Proofs.Session.Running
import MarketFeed.Source.Counting

/-!
# What a journal tells of calls

A journal tells of calls among much else: a runtime log may note that it was asked to begin a
session, and a source what it was asked for.  Nobody else writes such an entry, so that these
entries tell how often the log and the sources were called.

* `Entry.calls`   — the entries that tell of calls, in order.
* `Entry.setUps`  — what runtime logs noted that they were asked for, in order.
* `Entry.ofNotes` — what notes leave in a journal.
* `setUps_calls`, `notes_calls` — what the calls alone decide.
* `SetUp.asked`   — what a runtime log notes of one call of it.
* `RuntimeLog.NotesCalls` — a runtime log notes each call of it, and nothing else of that kind.
* `calls_result_root` — making a root context calls the runtime log once.
-/

namespace MarketFeed

namespace Entry

/-- The entry was written by a runtime log or a source that was called. -/
def isCall : Entry → Bool
  | .logSetUp _ _ => true
  | .noted _ _ => true
  | _ => false

/-- The entries that tell of calls, in order. -/
def calls (entries : List Entry) : List Entry := entries.filter isCall

/-- What runtime logs were asked for: console locations and labels, in order. -/
def setUps (entries : List Entry) : List (String × String) :=
  entries.filterMap fun
    | .logSetUp console label => some (console, label)
    | _ => none

variable {first second entries : List Entry} {counter : Nat}

theorem calls_append : calls (first ++ second) = calls first ++ calls second :=
  List.filter_append ..

theorem setUps_append : setUps (first ++ second) = setUps first ++ setUps second :=
  List.filterMap_append ..

theorem notes_append :
    notes (first ++ second) counter = notes first counter ++ notes second counter :=
  List.filterMap_append ..

/-! ## What calls decide -/

theorem setUps_calls : setUps (calls entries) = setUps entries := by
  rw [setUps, setUps, calls, List.filterMap_filter]
  congr 1
  funext e
  cases e <;> rfl

theorem notes_calls : notes (calls entries) counter = notes entries counter := by
  rw [notes, notes, calls, List.filterMap_filter]
  congr 1
  funext e
  cases e <;> rfl

end Entry

/-- The entries that notes leave in a journal. -/
def Entry.ofNotes (notes : List (Nat × Note)) : List Entry := notes.map fun n => .noted n.1 n.2

theorem Session.calls_after (s : Session) (files : FileTree) (entries : List Entry) :
    Entry.calls (s.after files entries).journal = Entry.calls s.journal ++ Entry.calls entries :=
  Entry.calls_append

/-! ## The runtime log -/

/-- What the runtime log noted of the call: for which console location and with which label. -/
def SetUp.asked (r : SetUp) : List (String × String) :=
  r.reports.filterMap fun
    | .asked console label => some (console, label)
    | .event _ => none

/-- The log notes each call of it once, and nothing else of that kind. -/
def RuntimeLog.NotesCalls (log : RuntimeLog) : Prop :=
  ∀ location label files, (log.setUp location label files).asked = [(location.uname, label)]

/-- The log notes nothing of its calls. -/
def RuntimeLog.IsSilent (log : RuntimeLog) : Prop :=
  ∀ location label files, (log.setUp location label files).asked = []

theorem RuntimeLog.recording_notesCalls : recording.NotesCalls := fun _ _ _ => rfl

theorem RuntimeLog.refusing_isSilent (e : IoError) : (refusing e).IsSilent := fun _ _ _ => rfl

/-- A log of one's own can be made to note its calls. -/
theorem RuntimeLog.IsSilent.noting_notesCalls {log : RuntimeLog} (hSilent : log.IsSilent) :
    log.noting.NotesCalls := fun location label files =>
  congrArg ((location.uname, label) :: ·) (hSilent location label files)

theorem SetUp.calls_reports (r : SetUp) (spans : List Span) :
    Entry.calls (r.reports.map (Report.entry spans)) =
      r.asked.map fun q => .logSetUp q.1 q.2 := by
  rw [Entry.calls, asked]
  induction r.reports with
  | nil => rfl
  | cons report rest ih =>
    cases report with
    | event e => exact ih
    | asked console label => exact congrArg (Entry.logSetUp console label :: ·) ih

/-- Making a root context calls the runtime log once: what was noted is what the log notes of one
call, however that ends. -/
theorem Context.calls_result_root (label : String) (site : Site) (log : RuntimeLog)
    (s : Session) :
    Entry.calls ((Context.root label site log).result s).2.journal =
      Entry.calls s.journal ++
        (log.setUp site.console label s.files).asked.map fun q => .logSetUp q.1 q.2 := by
  rw [Context.result_root, ← SetUp.calls_reports _ s.spans]
  exact Entry.calls_append

theorem Context.setUps_result_root (label : String) (site : Site) (log : RuntimeLog)
    (s : Session) :
    Entry.setUps ((Context.root label site log).result s).2.journal =
      Entry.setUps s.journal ++ (log.setUp site.console label s.files).asked := by
  rw [← Entry.setUps_calls, calls_result_root, Entry.setUps_append, Entry.setUps_calls,
    Entry.setUps, Entry.setUps, List.filterMap_map]
  exact congrArg _ (List.filterMap_some ..)

end MarketFeed
