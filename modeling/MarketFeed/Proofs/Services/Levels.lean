import MarketFeed.Proofs.Services.Dispatch
import MarketFeed.Proofs.Session.Levels

/-!
# Histories under two levels

A level decides which messages are heard and nothing else: two histories of the data service that
differ in the level of their site alone do the same, and of what the loggers send the one with the
higher level lets through just what was sent at that level at least.

* `Source.IsBlind`, `Registry.IsBlind` — nothing that is built depends on the level of a logger.
* `RuntimeLog.IsUntagged` — what the runtime log reports is not an event of a logger.
* `Dispatch.step_enter_eq`, `Dispatch.journal_step_enter` — what entering comes to and what it
                            tells, whatever the log.
* `Dispatch.play`         — a history with the runtime log as it behaves at each step.
* `Dispatch.Mirrors`      — the invariant: the two dispatches differ in levels alone.
* `Mirrors.step`, `Mirrors.play` — every step keeps it, and so does every history.
* `level_only_filters`    — what follows for whole histories.
-/

namespace MarketFeed

/-! ## Sources that do not look at levels -/

/-- What the source builds for a context does not depend on the level of its logger: all that is
done with the logger is to send messages. -/
def Source.IsBlind (source : Source) : Prop :=
  ∀ (context : Context) (level : LogLevel),
    source.build (context.withLevel level) = source.build context

/-- Every source of the registry is blind. -/
def Registry.IsBlind (registry : Registry) : Prop :=
  ∀ name source, registry.find name = .ok source → source.IsBlind

theorem Probe.isBlind_source : Probe.source.IsBlind := fun _ _ => rfl

theorem Registry.isBlind_builtin : builtin.IsBlind := by
  intro name source hFind
  obtain ⟨e, hEntry, rfl⟩ := find_eq_ok_iff.mp hFind
  obtain rfl := List.mem_singleton.mp (List.mem_of_find?_eq_some hEntry)
  exact Probe.isBlind_source

/-- What the runtime log reports is not tagged as an event of a logger. -/
def RuntimeLog.IsUntagged (log : RuntimeLog) : Prop :=
  ∀ location label files, ∀ e, .event e ∈ (log.setUp location label files).reports →
    e.component? = none

theorem RuntimeLog.isUntagged_recording : recording.IsUntagged := by
  intro location label files e he
  exact nomatch List.mem_singleton.mp he

theorem RuntimeLog.isUntagged_console (stamp : Stamp) : (console stamp).IsUntagged := by
  intro location label files e he
  replace he : .event e ∈ (mark stamp location label files).reports := he
  unfold mark at he
  -- only a marker that could be written is reported
  split at he
  · exact absurd he List.not_mem_nil
  · dsimp only at he
    split at he
    · exact absurd he List.not_mem_nil
    · obtain rfl := Report.event.inj (List.mem_singleton.mp he)
      rfl

/-! ## Sites, contexts and groups at another level -/

/-- The same site at another level. -/
def Site.withLevel (site : Site) (level : LogLevel) : Site := { site with logLevel := level }

/-- The same group, its context at another level. -/
def Group.withLevel (group : Group) (level : LogLevel) : Group :=
  { group with context := group.context.withLevel level }

theorem Site.withLevel_ofHome (identity : Nat) (home : Path) (low high : LogLevel) :
    (Site.ofHome identity home low).withLevel high = Site.ofHome identity home high := rfl

namespace Dispatch

/-! ## What entering comes to -/

/-- Entering the group: the runtime log decides how it ends. -/
theorem step_enter_eq (service : DataService) (site : Site) (d : Dispatch) :
    let logger := Logger.make d.session.nextIdentity dataGroup site.logLevel site.console
    let call := service.log.setUp site.console dataGroup d.session.files
    let s := d.session.asking dataGroup site call
    d.step service site .enter =
      match call.result with
      | .error e => (.entered (.error (.logSetup site.console.uname e)), ⟨s, d.groups⟩)
      | .ok () =>
        (.entered (.ok ()),
          ⟨s.add (.event (DataService.entered (.ofRoot logger site)) d.session.spans),
            d.groups ++ [⟨service.registry, .ofRoot logger site⟩]⟩) := by
  intro logger call s
  have hRoot := Context.result_root dataGroup site service.log d.session
  unfold step
  dsimp only
  rw [DataService.result_enter, hRoot, show service.log.setUp site.console dataGroup
    d.session.files = call from rfl]
  rcases call.result with e | ⟨⟩
  · rfl
  · rfl

/-- What entering tells: the new logger, what the runtime log reports and, if that does not refuse,
the group. -/
theorem journal_step_enter (service : DataService) (site : Site) (d : Dispatch) :
    let logger := Logger.make d.session.nextIdentity dataGroup site.logLevel site.console
    let spans := d.session.spans
    let call := service.log.setUp site.console dataGroup d.session.files
    (d.step service site .enter).2.session.journal = d.session.journal ++
      (.event logger.created spans :: call.reports.map (Report.entry spans) ++
        match call.result with
        | .ok () => [.event (DataService.entered (.ofRoot logger site)) spans]
        | .error _ => []) := by
  intro logger spans call
  rw [step_enter_eq, show service.log.setUp site.console dataGroup d.session.files = call from rfl]
  rcases call.result with e | ⟨⟩
  · rw [List.append_nil]
    rfl
  · exact List.append_assoc ..

/-! ## Histories -/

/-- A step, and the runtime log as it behaves by then. -/
abbrev Move := RuntimeLog × Step

/-- What a history comes to: the answers, what loggers sent, and where it leads. -/
structure Played where
  answers : List Answer
  sent : List Event
  last : Dispatch

/-- The entries that a step added to the journal. -/
def told (d after : Dispatch) : List Entry :=
  after.session.journal.drop d.session.journal.length

/-- What loggers sent in a step that told these entries.  Entering sends nothing: what the runtime
log reports then is its own. -/
def sentBy (next : Step) (entries : List Entry) : List Event :=
  match next with
  | .enter => []
  | _ => Entry.sent entries

/-- Does steps one after the other, each with its runtime log. -/
def play (registry : Registry) (site : Site) : Dispatch → List Move → Played
  | d, [] => ⟨[], [], d⟩
  | d, (log, next) :: rest =>
    let r := d.step ⟨registry, log⟩ site next
    let later := play registry site r.2 rest
    ⟨r.1 :: later.answers, sentBy next (d.told r.2) ++ later.sent, later.last⟩

theorem told_of_journal {d after : Dispatch} {entries : List Entry}
    (hJournal : after.session.journal = d.session.journal ++ entries) : d.told after = entries := by
  rw [told, hJournal, List.drop_left]

/-- Whatever is asked, the journal keeps what it told. -/
theorem journal_step (service : DataService) (site : Site) (d : Dispatch) (next : Step) :
    ∃ entries, (d.step service site next).2.session.journal = d.session.journal ++ entries := by
  cases next with
  | enter =>
    exact ⟨_, journal_step_enter service site d⟩
  | sources i =>
    rw [step_sources]
    exact ⟨[], (List.append_nil _).symm⟩
  | get i name =>
    rcases hGroup : d.groups[i]? with _ | group
    · rw [step_absent hGroup]
      exact ⟨[], (List.append_nil _).symm⟩
    · rcases hFind : group.registry.find name with e | source
      · rw [step_get_unregistered hGroup hFind]
        exact ⟨_, rfl⟩
      · rw [step_get_eq service site hGroup hFind]
        exact ⟨_, rfl⟩

/-! ## Two levels -/

/-- The second dispatch is the first one as it is at a higher level: only the loggers of the groups
have another level. -/
structure Mirrors (registry : Registry) (low high : LogLevel) (d d' : Dispatch) : Prop where
  files : d'.session.files = d.session.files
  spans : d'.session.spans = d.session.spans
  identity : d'.session.nextIdentity = d.session.nextIdentity
  groups : d'.groups = d.groups.map (·.withLevel high)
  wired : ∀ group ∈ d.groups, group.registry = registry ∧ group.context.logger.level = low
  calls : Entry.calls d'.session.journal = Entry.calls d.session.journal

section Mirrors

variable {registry : Registry} {low high : LogLevel} {d d' : Dispatch} {site : Site}

theorem mirrors_begin (registry : Registry) (low high : LogLevel) (files : FileTree) :
    Mirrors registry low high ⟨.begin files, []⟩ ⟨.begin files, []⟩ where
  files := rfl
  spans := rfl
  identity := rfl
  groups := rfl
  wired _ hGroup := absurd hGroup List.not_mem_nil
  calls := rfl

/-- Two dispatches that differ in levels alone still do after entries that do. -/
theorem Mirrors.after (hMirrors : Mirrors registry low high d d') (files : FileTree)
    {entries thinned : List Entry}
    (hCalls : Entry.calls thinned = Entry.calls entries) :
    Mirrors registry low high ⟨d.session.after files entries, d.groups⟩
      ⟨d'.session.after files thinned, d'.groups⟩ where
  files := rfl
  spans := hMirrors.spans
  identity := hMirrors.identity
  groups := hMirrors.groups
  wired := hMirrors.wired
  calls := by
    rw [Session.calls_after, Session.calls_after, hMirrors.calls, hCalls]

/-- So they do if the entries of the one are those of the other as they are thinned, and then what
loggers sent is thinned too. -/
theorem Mirrors.tell (hMirrors : Mirrors registry low high d d') (files : FileTree)
    {entries thinned : List Entry} (hThins : Thins high entries thinned) :
    let next : Dispatch := ⟨d.session.after files entries, d.groups⟩
    let next' : Dispatch := ⟨d'.session.after files thinned, d'.groups⟩
    Mirrors registry low high next next' ∧
      Entry.sent (d'.told next') =
        (Entry.sent (d.told next)).filter fun e => decide (high ≤ e.sentAt) := by
  refine ⟨hMirrors.after files hThins.calls, ?_⟩
  rw [told_of_journal rfl, told_of_journal rfl]
  exact hThins.sent

/-- Nothing is sent where nothing happens. -/
theorem sent_told_self (d : Dispatch) : Entry.sent (d.told d) = [] := by
  rw [told_of_journal (List.append_nil _).symm]
  rfl

/-- Entering asks the same of the runtime log, and the new groups differ in the level of their
loggers. -/
theorem Mirrors.enter (hMirrors : Mirrors registry low high d d') (hSite : site.logLevel = low)
    (log : RuntimeLog) :
    let r := d.step ⟨registry, log⟩ site .enter
    let r' := d'.step ⟨registry, log⟩ (site.withLevel high) .enter
    r'.1 = r.1 ∧ Mirrors registry low high r.2 r'.2 := by
  let call := log.setUp site.console dataGroup d.session.files
  -- the runtime log is asked for the same, on the same files, and notes the same
  have hAsked : Entry.calls (d'.session.asking dataGroup (site.withLevel high) call).journal =
      Entry.calls (d.session.asking dataGroup site call).journal := by
    have hCalls : ∀ (s : Session) (site : Site),
        Entry.calls (s.asking dataGroup site call).journal = Entry.calls s.journal ++
          call.asked.map fun q => .logSetUp q.1 q.2 := fun s site => by
      rw [← SetUp.calls_reports _ s.spans]
      exact Entry.calls_append
    rw [hCalls, hCalls, hMirrors.calls]
  rw [step_enter_eq, step_enter_eq]
  dsimp only
  rw [show log.setUp (site.withLevel high).console dataGroup d'.session.files = call by
      rw [hMirrors.files]; rfl,
    show log.setUp site.console dataGroup d.session.files = call from rfl]
  rcases call.result with e | ⟨⟩
  · refine ⟨rfl, ⟨rfl, hMirrors.spans, ?_, hMirrors.groups, hMirrors.wired, hAsked⟩⟩
    exact congrArg (· + 1) hMirrors.identity
  · refine ⟨rfl, ⟨rfl, hMirrors.spans, ?_, ?_, ?_, ?_⟩⟩
    · exact congrArg (· + 1) hMirrors.identity
    · dsimp only
      rw [List.map_append, hMirrors.groups, hMirrors.identity]
      rfl
    · intro group hGroup
      rcases List.mem_append.mp hGroup with hGroup | hGroup
      · exact hMirrors.wired group hGroup
      · obtain rfl := List.mem_singleton.mp hGroup
        exact ⟨rfl, hSite⟩
    · -- the event that tells of the group is no call
      rw [Session.add_eq_after, Session.add_eq_after, Session.calls_after, Session.calls_after,
        hAsked]
      rfl

/-- A get does the same at both levels, and of what its loggers send the higher level lets through
what was sent at that level at least. -/
theorem Mirrors.get (hMirrors : Mirrors registry low high d d') (hBlind : registry.IsBlind)
    (hLevels : low ≤ high) (service : DataService) (site site' : Site) (i : Nat)
    (name : String) :
    let r := d.step service site (.get i name)
    let r' := d'.step service site' (.get i name)
    r'.1 = r.1 ∧ Mirrors registry low high r.2 r'.2 ∧
      Entry.sent (d'.told r'.2) =
        (Entry.sent (d.told r.2)).filter fun e => decide (high ≤ e.sentAt) := by
  have hGroups : d'.groups[i]? = (d.groups[i]?).map (·.withLevel high) := by
    rw [hMirrors.groups, List.getElem?_map]
  rcases hGroup : d.groups[i]? with _ | group <;> rw [hGroup] at hGroups
  · -- no group of that number in either
    rw [step_absent hGroup, step_absent hGroups]
    refine ⟨rfl, hMirrors, ?_⟩
    rw [sent_told_self, sent_told_self]
    rfl
  obtain ⟨hRegistry, hLevel⟩ := hMirrors.wired group (List.mem_of_getElem? hGroup)
  rcases hFind : registry.find name with e | source
  · rw [step_get_unregistered hGroup (hRegistry ▸ hFind),
      step_get_unregistered hGroups (hRegistry ▸ hFind)]
    have hClosed : Thins high [.closed (Group.getSpan name) d.session.spans]
        [.closed (Group.getSpan name) d'.session.spans] := by
      rw [hMirrors.spans]
      exact .closed _ _
    rw [Session.add_eq_after, Session.add_eq_after, hMirrors.files]
    exact ⟨rfl, hMirrors.tell _ hClosed⟩
  · rw [step_get_eq service site hGroup (hRegistry ▸ hFind),
      step_get_eq service site' hGroups (hRegistry ▸ hFind)]
    -- both attempt one source in contexts that differ in levels
    have hBelow : (group.withLevel high).context.below = group.context.below.withLevel high := rfl
    have hRaised : group.context.logger.level ≤ high := hLevel ▸ hLevels
    have hAttempt := Source.attempt_withLevel (hBlind name source hFind group.context.below high)
      name d.session.files
    rw [hBelow, hMirrors.files, hMirrors.spans, hAttempt]
    have hThins := Thins.entries hRaised
      (source.attempt name group.context.below d.session.files).uttered
      (d.session.spans ++ [Group.getSpan name])
    exact ⟨rfl, hMirrors.tell _ (hThins.append (.closed (Group.getSpan name) d.session.spans))⟩

/-- One step answers the same at both levels and keeps the two apart in levels alone. -/
theorem Mirrors.step (hMirrors : Mirrors registry low high d d') (hBlind : registry.IsBlind)
    (hLevels : low ≤ high) (hSite : site.logLevel = low) (log : RuntimeLog) (next : Step) :
    let r := d.step ⟨registry, log⟩ site next
    let r' := d'.step ⟨registry, log⟩ (site.withLevel high) next
    r'.1 = r.1 ∧ Mirrors registry low high r.2 r'.2 ∧
      sentBy next (d'.told r'.2) =
        (sentBy next (d.told r.2)).filter fun e => decide (high ≤ e.sentAt) := by
  cases next with
  | enter =>
    obtain ⟨hAnswer, hAfter⟩ := hMirrors.enter hSite log
    exact ⟨hAnswer, hAfter, rfl⟩
  | get i name => exact hMirrors.get hBlind hLevels _ site _ i name
  | sources i =>
    have hAnswer : (d'.step ⟨registry, log⟩ (site.withLevel high) (.sources i)).1 =
        (d.step ⟨registry, log⟩ site (.sources i)).1 := by
      unfold Dispatch.step
      dsimp only
      rw [hMirrors.groups, List.getElem?_map]
      rcases d.groups[i]? with _ | group
      · rfl
      · rfl
    dsimp only
    rw [step_sources, step_sources]
    refine ⟨hAnswer, hMirrors, ?_⟩
    show Entry.sent (d'.told d') = (Entry.sent (d.told d)).filter _
    rw [sent_told_self, sent_told_self]
    rfl

/-- So does every history. -/
theorem Mirrors.play (hMirrors : Mirrors registry low high d d') (hBlind : registry.IsBlind)
    (hLevels : low ≤ high) (hSite : site.logLevel = low) (moves : List Move) :
    let loud := play registry site d moves
    let quiet := play registry (site.withLevel high) d' moves
    quiet.answers = loud.answers ∧
      quiet.sent = (loud.sent.filter fun e => decide (high ≤ e.sentAt)) ∧
      Mirrors registry low high loud.last quiet.last := by
  -- by induction on the moves; the invariant carries over from each to the next
  induction moves generalizing d d' with
  | nil => exact ⟨rfl, rfl, hMirrors⟩
  | cons move rest ih =>
    obtain ⟨log, next⟩ := move
    obtain ⟨hAnswer, hAfter, hSent⟩ := hMirrors.step hBlind hLevels hSite log next
    obtain ⟨hAnswers, hLater, hLast⟩ := ih hAfter
    refine ⟨?_, ?_, hLast⟩
    · show _ :: _ = _ :: _
      rw [hAnswer, hAnswers]
    · refine Eq.trans ?_ (List.filter_append _ _).symm
      rw [← hSent, ← hLater]
      rfl

end Mirrors

/-! ## What the journal tells of loggers -/

/-- Where no runtime log reports tagged events, the tagged events of the journal are those that
loggers sent. -/
theorem sent_step {log : RuntimeLog} (hLog : log.IsUntagged) (registry : Registry) (site : Site)
    (d : Dispatch) (next : Step) :
    let after := (d.step ⟨registry, log⟩ site next).2
    Entry.sent after.session.journal =
      Entry.sent d.session.journal ++ sentBy next (d.told after) := by
  obtain ⟨entries, hJournal⟩ := journal_step ⟨registry, log⟩ site d next
  dsimp only
  rw [told_of_journal hJournal, hJournal, Entry.sent_append]
  cases next with
  | get i name => rfl
  | sources i => rfl
  | enter =>
    -- what is told of entering is not tagged, and what the log reports is not either
    refine congrArg (Entry.sent d.session.journal ++ ·) ?_
    rw [journal_step_enter] at hJournal
    obtain rfl := List.append_cancel_left hJournal
    have hReports : Entry.sent ((log.setUp site.console dataGroup d.session.files).reports.map
        (Report.entry d.session.spans)) = [] :=
      Entry.sent_of_untagged fun e _ he => hLog _ _ _ e (Report.event_mem_of_mem_map he)
    rw [Entry.sent_append, ← List.singleton_append, Entry.sent_append, hReports]
    rcases (log.setUp site.console dataGroup d.session.files).result with e | ⟨⟩
    · rfl
    · rfl

theorem sent_play {registry : Registry} {site : Site} {moves : List Move}
    (hLogs : ∀ move ∈ moves, move.1.IsUntagged) (d : Dispatch) :
    let played := play registry site d moves
    Entry.sent played.last.session.journal = Entry.sent d.session.journal ++ played.sent := by
  induction moves generalizing d with
  | nil => exact (List.append_nil _).symm
  | cons move rest ih =>
    obtain ⟨log, next⟩ := move
    have hRest := ih (fun other hOther => hLogs other (List.mem_cons_of_mem _ hOther))
      (d.step ⟨registry, log⟩ site next).2
    have hFirst := sent_step (hLogs (log, next) List.mem_cons_self) registry site d next
    dsimp only at hRest hFirst
    rw [hFirst, List.append_assoc] at hRest
    exact hRest

/-! ## Whole histories -/

/-- Two histories of the data service that differ in the level of their site alone, with runtime
logs that behave the same in both.

They give the same answers step by step, ask the same of the runtime log, build and run the same
and leave the same files.  What loggers send in the one at the higher level is what they send in
the other at that level at least, in the same order; and where no runtime log reports tagged events
of its own, the tagged events of the two journals are those. -/
theorem level_only_filters {registry : Registry} (hBlind : registry.IsBlind) {low high : LogLevel}
    (hLevels : low ≤ high) (identity : Nat) (home : Path) (files : FileTree)
    (moves : List Move) :
    let loud := play registry (.ofHome identity home low) ⟨.begin files, []⟩ moves
    let quiet := play registry (.ofHome identity home high) ⟨.begin files, []⟩ moves
    quiet.answers = loud.answers ∧
    Entry.calls quiet.last.session.journal = Entry.calls loud.last.session.journal ∧
    Entry.setUps quiet.last.session.journal = Entry.setUps loud.last.session.journal ∧
    (∀ counter,
      Entry.builds quiet.last.session.journal counter =
        Entry.builds loud.last.session.journal counter ∧
      Entry.runs quiet.last.session.journal counter =
        Entry.runs loud.last.session.journal counter) ∧
    quiet.last.session.files = loud.last.session.files ∧
    quiet.sent = (loud.sent.filter fun e => decide (high ≤ e.sentAt)) ∧
    ((∀ move ∈ moves, move.1.IsUntagged) →
      Entry.sent loud.last.session.journal = loud.sent ∧
      Entry.sent quiet.last.session.journal = quiet.sent) := by
  intro loud quiet
  have hLow : (Site.ofHome identity home low).logLevel = low := rfl
  obtain ⟨hAnswers, hSent, hLast⟩ :=
    (mirrors_begin registry low high files).play hBlind hLevels hLow moves
  rw [Site.withLevel_ofHome] at hAnswers hSent hLast
  -- what the calls decide is the same, because the calls are
  have hNotes (counter : Nat) : Entry.notes quiet.last.session.journal counter =
      Entry.notes loud.last.session.journal counter := by
    rw [← Entry.notes_calls, hLast.calls, Entry.notes_calls]
  refine ⟨hAnswers, hLast.calls, ?_, fun counter => ⟨?_, ?_⟩, hLast.files, hSent,
    fun hLogs => ⟨?_, ?_⟩⟩
  · rw [← Entry.setUps_calls, hLast.calls, Entry.setUps_calls]
  · exact congrArg (List.count .built) (hNotes counter)
  · exact congrArg (List.count .ran) (hNotes counter)
  · exact sent_play hLogs _
  · exact sent_play hLogs _

/-- A group that is entered, its probe run and a source asked for that is not there. -/
def sampleMoves : List Move :=
  [(.console ⟨"now", "here", "1"⟩, .enter), (.recording, .get 0 "probe"),
    (.recording, .get 0 "csv")]

/-- The probe sends eight messages, and its warning passes the higher level.  No other events of
these histories are tagged. -/
theorem level_only_filters_sample :
    let loud := play .builtin (.ofHome 0 (.ofString "/u") .info) ⟨.begin .empty, []⟩ sampleMoves
    let quiet := play .builtin (.ofHome 0 (.ofString "/u") .warning) ⟨.begin .empty, []⟩ sampleMoves
    LogLevel.info ≤ .warning ∧ quiet.answers = loud.answers ∧
      quiet.sent = (loud.sent.filter fun e => decide (LogLevel.warning ≤ e.sentAt)) ∧
      Entry.sent loud.last.session.journal = loud.sent ∧
      Entry.sent quiet.last.session.journal = quiet.sent ∧
      loud.sent.length = 8 ∧ quiet.sent.length = 1 := by
  have hLevels : LogLevel.info ≤ .warning := by decide
  have hLogs : ∀ move ∈ sampleMoves, move.1.IsUntagged := by
    simp only [sampleMoves, List.forall_mem_cons]
    exact ⟨RuntimeLog.isUntagged_console _, RuntimeLog.isUntagged_recording,
      RuntimeLog.isUntagged_recording, fun _ hNone => absurd hNone List.not_mem_nil⟩
  obtain ⟨hAnswers, -, -, -, -, hSent, hJournals⟩ :=
    level_only_filters Registry.isBlind_builtin hLevels 0 (.ofString "/u") .empty sampleMoves
  obtain ⟨hLoud, hQuiet⟩ := hJournals hLogs
  exact ⟨hLevels, hAnswers, hSent, hLoud, hQuiet, by decide +kernel, by decide +kernel⟩

end Dispatch

end MarketFeed
