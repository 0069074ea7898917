import MarketFeed.Proofs.Session.Levels
import MarketFeed.Terminal.Transcript

/-!
# What the terminal shows of a journal

The entries of a journal that are printed, and what that means for messages: each passes two
filters, that of the logger it is sent through and that of the terminal.

* `tellings`     — the entries that are printed, each with its text.
* `map_snd_tellings` — their texts are the transcript.
* `shown`        — these entries alone.
* `sent_shown`   — of the events that loggers sent, those that pass the threshold are shown.
* `Logger.sends` — the events that messages become; `sends_eq`: those at its level at least do.
* `heard`        — the messages that the terminal shows, each with the level it was sent at.
-/

namespace MarketFeed

namespace Terminal

/-! ## Printed entries -/

/-- The entries of a journal that are printed, each with its text. -/
def tellings (display : Display) :
    Option Severity → List Entry → List (Entry × Stream × String)
  | _, [] => []
  | threshold, entry :: rest =>
    ((entryText? display threshold entry).map (entry, ·)).toList ++
      tellings display (thresholdAfter threshold entry) rest

variable {display : Display} {threshold : Option Severity} {first second entries : List Entry}

/-- What is printed with the entries is the transcript of the journal. -/
theorem map_snd_tellings :
    (tellings display threshold entries).map Prod.snd = transcript display threshold entries := by
  induction entries generalizing threshold with
  | nil => rfl
  | cons entry rest ih =>
    rw [tellings, transcript, List.map_append, ih]
    rcases entryText? display threshold entry with _ | text
    · rfl
    · rfl

theorem tellings_append :
    tellings display threshold (first ++ second) =
      tellings display threshold first ++
        tellings display (first.foldl thresholdAfter threshold) second := by
  -- by induction on the first stretch, whatever threshold holds before it
  induction first generalizing threshold with
  | nil => rfl
  | cons entry rest ih =>
    rw [List.cons_append, tellings, ih, ← List.append_assoc]
    rfl

/-- The entries of a journal that are printed. -/
def shown (display : Display) (threshold : Option Severity) (entries : List Entry) : List Entry :=
  (tellings display threshold entries).map Prod.fst

theorem shown_cons (entry : Entry) (rest : List Entry) :
    shown display threshold (entry :: rest) =
      (if (entryText? display threshold entry).isSome then [entry] else []) ++
        shown display (thresholdAfter threshold entry) rest := by
  rw [shown, tellings, List.map_append]
  rcases entryText? display threshold entry with _ | text
  · rfl
  · rfl

theorem shown_append :
    shown display threshold (first ++ second) =
      shown display threshold first ++
        shown display (first.foldl thresholdAfter threshold) second := by
  rw [shown, tellings_append, List.map_append]
  rfl

end Terminal

/-! ## Events of loggers -/

/-- The entry has the terminal show events from there on. -/
def Entry.isShowing : Entry → Bool
  | .showing _ => true
  | _ => false

/-- None of the entries changes what the terminal shows. -/
def Entry.Keep (entries : List Entry) : Prop := ∀ entry ∈ entries, entry.isShowing = false

theorem Entry.Keep.append {first second : List Entry} (hFirst : Keep first)
    (hSecond : Keep second) : Keep (first ++ second) :=
  List.forall_mem_append.mpr ⟨hFirst, hSecond⟩

theorem Entry.keep_map_event (events : List Event) (spans : List Span) :
    Keep (events.map (.event · spans)) := by
  intro entry hEntry
  obtain ⟨event, -, rfl⟩ := List.mem_map.mp hEntry
  rfl

theorem Entry.keep_map_report (reports : List Report) (spans : List Span) :
    Keep (reports.map (Report.entry spans)) := by
  intro entry hEntry
  obtain ⟨report, -, rfl⟩ := List.mem_map.mp hEntry
  cases report with
  | event e => rfl
  | asked console label => rfl

theorem Logger.keep_entries (logger : Logger) (uttered : List Utterance)
    (spans : List Span) : Entry.Keep (logger.entries uttered spans) := by
  intro entry hEntry
  obtain ⟨u, -, hEntered⟩ := List.mem_filterMap.mp hEntry
  cases u with
  | message level text =>
    obtain ⟨event, -, rfl⟩ := Option.map_eq_some_iff.mp hEntered
    rfl
  | note counter what =>
    obtain rfl := Option.some.inj hEntered
    rfl

namespace Terminal

variable {display : Display} {severity : Severity} {entries : List Entry}

theorem thresholdAfter_of_not_isShowing {threshold : Option Severity} {entry : Entry}
    (hKeeps : entry.isShowing = false) : thresholdAfter threshold entry = threshold := by
  cases entry <;> first | rfl | exact nomatch hKeeps

/-- Only an event can be tagged, and its severity decides whether it is printed. -/
theorem sent_of_printed (entry : Entry) :
    Entry.sent (if (entryText? display (some severity) entry).isSome then [entry] else []) =
      (Entry.sent [entry]).filter (·.severity.passes severity) := by
  cases entry with
  | event e spans =>
    have hText : (entryText? display (some severity) (.event e spans)).isSome =
        e.severity.passes severity := by
      by_cases hPasses : e.severity.passes severity = true
      · simp [entryText?, LogLine.ofEvent?, hPasses]
      · simp [entryText?, LogLine.ofEvent?, hPasses]
    rw [hText]
    by_cases hTagged : e.component?.isSome = true
    · by_cases hPasses : e.severity.passes severity = true
      · simp [Entry.sent, hPasses, hTagged]
      · simp [Entry.sent, hPasses, hTagged]
    · -- an event without a tag is not sent by a logger, printed or not
      have hNone : Entry.sent [.event e spans] = [] := by simp [Entry.sent, hTagged]
      rw [hNone]
      split
      · exact hNone
      · rfl
  | closed span around =>
    split
    · rfl
    · rfl
  | _ => rfl

/-- Of the events that loggers sent the terminal shows those that pass its threshold. -/
theorem sent_shown (hKeep : Entry.Keep entries) :
    Entry.sent (shown display (some severity) entries) =
      (Entry.sent entries).filter (·.severity.passes severity) := by
  induction entries with
  | nil => rfl
  | cons entry rest ih =>
    have hFirst : entry.isShowing = false := hKeep entry List.mem_cons_self
    have hRest : Entry.Keep rest := fun other h => hKeep other (List.mem_cons_of_mem _ h)
    have hSplit : Entry.sent (entry :: rest) = Entry.sent [entry] ++ Entry.sent rest := by
      rw [← Entry.sent_append, List.singleton_append]
    rw [shown_cons, thresholdAfter_of_not_isShowing hFirst, Entry.sent_append, ih hRest, hSplit,
      List.filter_append, sent_of_printed]

end Terminal

/-- The events that messages sent through a logger become. -/
def Logger.sends (logger : Logger) (messages : List (LogLevel × String)) : List Event :=
  messages.filterMap fun (level, message) => logger.event? level message

/-- The message of an event, with the level that a logger sent it at. -/
def Event.saying (e : Event) : LogLevel × String := (e.sentAt, e.message)

/-- The messages of loggers that the terminal shows for a journal, in order. -/
def Terminal.heard (display : Display) (journal : List Entry) : List (LogLevel × String) :=
  (Entry.sent (shown display none journal)).map Event.saying

namespace Logger

/-- The event that a message becomes where it passes. -/
def eventOf (l : Logger) (m : LogLevel × String) : Event :=
  ⟨m.1.severity, target, m.2, l.fields m.1⟩

/-- The event of a message tells the message and its level. -/
theorem saying_eventOf (l : Logger) (m : LogLevel × String) : (l.eventOf m).saying = m := by
  obtain ⟨level, message⟩ := m
  cases level <;> rfl

variable {logger : Logger} {messages : List (LogLevel × String)}

/-- The messages that pass are those at the level of the logger at least. -/
theorem sends_eq : logger.sends messages =
    (messages.filter fun m => decide (logger.level ≤ m.1)).map logger.eventOf := by
  have hEach : ∀ m : LogLevel × String, logger.event? m.1 m.2 =
      if decide (logger.level ≤ m.1) then some (logger.eventOf m) else none := fun _ => rfl
  induction messages with
  | nil => rfl
  | cons m rest ih =>
    rw [sends, List.filterMap_cons, List.filter_cons]
    dsimp only
    rw [hEach]
    by_cases hLevel : logger.level ≤ m.1
    · rw [decide_eq_true hLevel, if_pos rfl, if_pos rfl, List.map_cons, ← ih]
      rfl
    · rw [decide_eq_false hLevel, if_neg Bool.false_ne_true, if_neg Bool.false_ne_true, ← ih]
      rfl

theorem sends_append (first second : List (LogLevel × String)) :
    logger.sends (first ++ second) = logger.sends first ++ logger.sends second :=
  List.filterMap_append ..

/-- The messages of the events that are sent are those at the level of the logger at least. -/
theorem map_saying_sends : (logger.sends messages).map Event.saying =
    messages.filter fun m => decide (logger.level ≤ m.1) := by
  rw [sends_eq, List.map_map]
  refine (List.map_congr_left fun m _ => ?_).trans (List.map_id _)
  exact logger.saying_eventOf m

/-- What the terminal lets through of the events is decided by the levels of the messages. -/
theorem filter_sends (severity : Severity) :
    (logger.sends messages).filter (·.severity.passes severity) =
      logger.sends (messages.filter (·.1.severity.passes severity)) := by
  rw [sends_eq, sends_eq, List.filter_map, List.filter_filter, List.filter_filter]
  congr 2
  funext m
  exact Bool.and_comm _ _

end Logger

end MarketFeed
