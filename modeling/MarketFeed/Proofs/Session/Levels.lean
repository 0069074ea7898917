import MarketFeed.Proofs.Services.Getting
import MarketFeed.Proofs.Session.Journal

/-!
# Entries under a higher level

Work that does not look at the level of its logger tells the same entries under a higher level,
but for the events that do not pass any more.

* `Event.component?`, `Event.sentAt` — the tag of an event that a logger sent, and the level that
                          it was sent at.
* `Logger.event?_withLevel` — what passes a higher level is what passes the lower one and was sent
                          at the higher one at least.
* `Entry.sent`          — the tagged events of a journal.
* `Thins`               — entries under a higher level and the same entries under a lower one.
* `Source.attempt_withLevel` — an attempt under a higher level.
-/

namespace MarketFeed

/-! ## Events of loggers -/

namespace Event

/-- The component that the event is tagged with, if it is tagged. -/
def component? (e : Event) : Option String :=
  (e.fields.find? (·.name == "component")).map (·.value.plain)

/-- The level that a logger sent the event at: of two that are errors to the terminal, the
critical one says so. -/
def sentAt (e : Event) : LogLevel :=
  match e.severity with
  | .trace => .trace
  | .debug => .debug
  | .info => .info
  | .warn => .warning
  | .error => if e.fields.any (·.name == "critical") then .critical else .error

end Event

namespace Logger

/-- The same logger at another level. -/
def withLevel (l : Logger) (level : LogLevel) : Logger := { l with level }

variable {l : Logger} {level high : LogLevel} {message : String} {e : Event}

theorem component?_of_event? (hEvent : l.event? level message = some e) :
    e.component? = some l.component := by
  unfold event? at hEvent
  split at hEvent
  · obtain rfl := Option.some.inj hEvent
    rfl
  · exact nomatch hEvent

/-- Each method can be told from the event that it sends. -/
theorem sentAt_of_event? (hEvent : l.event? level message = some e) : e.sentAt = level := by
  unfold event? at hEvent
  split at hEvent
  · obtain rfl := Option.some.inj hEvent
    cases level <;> rfl
  · exact nomatch hEvent

/-- Under a higher level a message becomes the same event or none. -/
theorem event?_withLevel (hLevels : l.level ≤ high) :
    (l.withLevel high).event? level message =
      (l.event? level message).filter fun e => decide (high ≤ e.sentAt) := by
  have hEnabled : ∀ k : Logger, k.enabled level = decide (k.level ≤ level) := fun _ => rfl
  rcases hEvent : l.event? level message with _ | e
  · -- what the lower level stops, the higher one stops too
    have hBelow : ¬l.level ≤ level := fun h => by
      have hSome : (l.event? level message).isSome = true := event?_isSome_iff.mpr h
      rw [hEvent] at hSome
      exact nomatch hSome
    have hStill : ¬high ≤ level := fun h => hBelow (Nat.le_trans hLevels h)
    unfold event?
    rw [hEnabled]
    exact if_neg fun h => hStill (of_decide_eq_true h)
  · have hSame : e = ⟨level.severity, target, message, l.fields level⟩ := by
      unfold event? at hEvent
      split at hEvent
      · exact (Option.some.inj hEvent).symm
      · exact nomatch hEvent
    rw [Option.filter, sentAt_of_event? hEvent, hSame]
    unfold event?
    rw [hEnabled]
    rfl

end Logger

/-! ## Contexts -/

/-- The same surroundings at another level. -/
def Frame.withLevel (f : Frame) (level : LogLevel) : Frame :=
  { f with logger := f.logger.withLevel level }

/-- The same context at another level. -/
def Context.withLevel (c : Context) (level : LogLevel) : Context :=
  ⟨c.frame.withLevel level, c.above.map (·.withLevel level)⟩

/-! ## Entries -/

namespace Entry

/-- The tagged events of a journal, in order. -/
def sent (entries : List Entry) : List Event :=
  entries.filterMap fun
    | .event e _ => if e.component?.isSome then some e else none
    | _ => none

variable {first second : List Entry}

theorem sent_append : sent (first ++ second) = sent first ++ sent second :=
  List.filterMap_append ..

/-- Where no event is tagged there is none of a logger. -/
theorem sent_of_untagged {entries : List Entry}
    (hEntries : ∀ e spans, .event e spans ∈ entries → e.component? = none) : sent entries = [] := by
  refine List.filterMap_eq_nil_iff.mpr fun entry hEntry => ?_
  cases entry with
  | event e spans => simp [hEntries e spans hEntry]
  | _ => rfl

end Entry

/-- An event that a report leaves is an event that was reported. -/
theorem Report.event_mem_of_mem_map {reports : List Report} {around spans : List Span} {e : Event}
    (hMem : .event e spans ∈ reports.map (Report.entry around)) : .event e ∈ reports := by
  obtain ⟨report, hReport, hEntry⟩ := List.mem_map.mp hMem
  cases report with
  | event other =>
    obtain ⟨rfl, -⟩ := Entry.event.inj hEntry
    exact hReport
  | asked console label => exact nomatch hEntry

/-- The messages that pass a logger are its tagged events. -/
theorem Logger.sent_entries (logger : Logger) (uttered : List Utterance)
    (spans : List Span) :
    Entry.sent (logger.entries uttered spans) =
      (Utterance.messages uttered).filterMap fun (level, text) => logger.event? level text := by
  rw [Entry.sent, Logger.entries, Utterance.messages, List.filterMap_filterMap,
    List.filterMap_filterMap]
  congr 1
  funext u
  cases u with
  | note counter what => rfl
  | message level text =>
    rcases hEvent : logger.event? level text with _ | e
    · simp [Utterance.entry?, hEvent]
    · simp [Utterance.entry?, hEvent, component?_of_event? hEvent]

/-! ## Thinning -/

/-- The second entries are the first ones as they are under a higher level: the same calls, and of
the tagged events those that were sent at that level at least. -/
structure Thins (high : LogLevel) (entries thinned : List Entry) : Prop where
  calls : Entry.calls thinned = Entry.calls entries
  sent : Entry.sent thinned = (Entry.sent entries).filter fun e => decide (high ≤ e.sentAt)

namespace Thins

variable {high : LogLevel} {first second thinned more : List Entry}

theorem append (hFirst : Thins high first thinned) (hSecond : Thins high second more) :
    Thins high (first ++ second) (thinned ++ more) where
  calls := by
    rw [Entry.calls_append, Entry.calls_append, hFirst.calls, hSecond.calls]
  sent := by
    rw [Entry.sent_append, Entry.sent_append, hFirst.sent, hSecond.sent, List.filter_append]

theorem closed (span : Span) (around : List Span) :
    Thins high [.closed span around] [.closed span around] := ⟨rfl, rfl⟩

/-- What is uttered is thinned as the loggers differ: the notes stay, and of the messages those that
still pass. -/
theorem entries {logger : Logger} (hLevels : logger.level ≤ high) (uttered : List Utterance)
    (spans : List Span) :
    Thins high (logger.entries uttered spans) ((logger.withLevel high).entries uttered spans) where
  calls := by rw [Logger.calls_entries, Logger.calls_entries]
  sent := by
    rw [Logger.sent_entries, Logger.sent_entries, List.filter_filterMap]
    congr 1
    funext ⟨level, message⟩
    exact Logger.event?_withLevel hLevels

end Thins

/-- A source that builds the same under both levels is attempted the same. -/
theorem Source.attempt_withLevel {source : Source} {context : Context} {high : LogLevel}
    (hBuild : source.build (context.withLevel high) = source.build context)
    (name : String) (files : FileTree) :
    source.attempt name (context.withLevel high) files = source.attempt name context files := by
  unfold attempt serving
  rw [hBuild]

end MarketFeed
