import MarketFeed.Proofs.Program.Status
import MarketFeed.Proofs.Services.Levels
import MarketFeed.Proofs.Terminal.Shown

/-!
# What more words bring to the terminal

A message of the data group or of its source passes two filters on its way to the terminal: that of
the group's logger, which has the level of the settings, and that of the terminal, which has the
level of the words asked for.  Asking for more words changes the second one alone.

* `Source.said`        — all that is said in an attempt, whatever passes.
* `Carries`            — entries tell of loggers what one logger sends of some messages;
  `Source.carries_attempt`: an attempt does so of all that is said in it.
* `carries_performData_get` — so does a get, from the entering of the group to its end.
* `admits`             — the levels that are shown where more words are asked for.
* `sent_shown_announcement` — what is told behind the announcement passes the threshold.
* `heard_of_get`       — what the terminal shows of a get in a whole run.
* `not_heard_of_get`   — it need not be all that the words asked for admit.
-/

namespace MarketFeed

open CommandLine (Invocation)
open Terminal (Display)

/-! ## What is said -/

/-- All that is said where an extension is run: the service's messages and its own. -/
def Extension.said (extension : Extension) (name : String) (files : FileTree) :
    List (LogLevel × String) :=
  let o := Routine.outcome extension files
  Group.running name :: o.messages ++
    match o.value with
    | .ok () => [Group.finished name]
    | .error _ => []

/-- All that is said where the extension of a source is built and run. -/
def Source.said (source : Source) (name : String) (context : Context) (files : FileTree) :
    List (LogLevel × String) :=
  let o := (source.build context).outcome files
  o.messages ++
    match o.value with
    | .ok extension => extension.said name o.files
    | .error _ => []

/-- The entries carry the messages: what they tell of loggers is what a logger sends of these, and
none of them changes what the terminal shows. -/
structure Carries (logger : Logger) (messages : List (LogLevel × String)) (entries : List Entry) :
    Prop where
  sent : Entry.sent entries = logger.sends messages
  keep : Entry.Keep entries

namespace Carries

variable {logger : Logger} {first second : List (LogLevel × String)} {told more : List Entry}

theorem append (hFirst : Carries logger first told) (hSecond : Carries logger second more) :
    Carries logger (first ++ second) (told ++ more) where
  sent := by rw [Entry.sent_append, hFirst.sent, hSecond.sent, Logger.sends_append]
  keep := hFirst.keep.append hSecond.keep

/-- Messages are carried by the entries that they leave, among notes or not. -/
theorem of_uttered (logger : Logger) (uttered : List Utterance) (spans : List Span) :
    Carries logger (Utterance.messages uttered) (logger.entries uttered spans) :=
  ⟨logger.sent_entries uttered spans, logger.keep_entries uttered spans⟩

/-- Any other entry carries nothing. -/
theorem single {entry : Entry} (hSent : Entry.sent [entry] = [])
    (hKeeps : entry.isShowing = false) : Carries logger [] [entry] :=
  ⟨hSent, List.forall_mem_singleton.mpr hKeeps⟩

/-- So do reports of a runtime log whose events are not tagged. -/
theorem untagged {reports : List Report}
    (hReports : ∀ e, .event e ∈ reports → e.component? = none) (spans : List Span) :
    Carries logger [] (reports.map (Report.entry spans)) :=
  ⟨Entry.sent_of_untagged fun e _ he => hReports e (Report.event_mem_of_mem_map he),
    Entry.keep_map_report reports spans⟩

end Carries

theorem Source.messages_attempt_eq_said (source : Source) (name : String) (context : Context)
    (files : FileTree) :
    (source.attempt name context files).messages = source.said name context files := by
  rw [messages_attempt, said]
  rcases ((source.build context).outcome files).value with e | extension
  · rfl
  · exact congrArg _ (extension.messages_attempt name _)

/-- An attempt carries all that is said in it. -/
theorem Source.carries_attempt (source : Source) (name : String) (context : Context)
    (files : FileTree) (spans : List Span) :
    Carries context.logger (source.said name context files)
      (context.logger.entries (source.attempt name context files).uttered spans) := by
  rw [← messages_attempt_eq_said]
  exact .of_uttered context.logger _ spans

/-! ## A get, once the events are shown -/

namespace Services

/-- The root context of the data group for a request that is made in a session. -/
def rootContext (services : Services) (s : Session) : Context :=
  let site := services.site s
  .ofRoot (Logger.make (s.nextIdentity + 1) dataGroup site.logLevel site.console) site

/-- What is told of entering the group, where its runtime log reports this. -/
def entering (services : Services) (s : Session) (reports : List Report) : List Entry :=
  let context := services.rootContext s
  .event context.logger.created s.spans :: reports.map (Report.entry s.spans) ++
    [.event (DataService.entered context) s.spans]

variable {services : Services} {s : Session} {call : SetUp}

/-- The group is entered once its runtime log has begun a session. -/
theorem result_enterData
    (hSetUp : services.log.setUp (services.site s).console dataGroup s.files = call)
    (hOk : call.result = .ok ()) :
    services.enterData.result s = (.ok ⟨services.registry, services.rootContext s⟩,
      { s with nextIdentity := s.nextIdentity + 2 }.after call.files
        (services.entering s call.reports)) := by
  let t : Session := { s with nextIdentity := s.nextIdentity + 1 }
  have hEnter : services.enterData.result s = (Action.mapError CommandError.ofService
      ((⟨services.registry, services.log⟩ : DataService).enter (services.site s))).result t := rfl
  have hRoot := Context.result_root dataGroup (services.site s) services.log t
  rw [show services.log.setUp _ dataGroup t.files = call from hSetUp] at hRoot
  dsimp only at hRoot
  rw [hOk] at hRoot
  rw [hEnter, Action.result_mapError, DataService.result_enter, hRoot]
  refine Prod.ext rfl ?_
  simp [Session.asking, Session.add, Session.after, entering, rootContext, t, Context.logger,
    Context.ofRoot]

/-- A get of a source that there is, once the session of its log has begun. -/
theorem result_performData_get {name : String} {source : Source}
    (hFind : services.registry.find name = .ok source)
    (hSetUp : services.log.setUp (services.site s).console dataGroup s.files = call)
    (hOk : call.result = .ok ()) :
    let around := span "cmd_data" (DataRequest.get name).words
    let inside := { s with spans := s.spans ++ [around] }
    let context := services.rootContext s
    let a := source.attempt name context.below call.files
    ∃ t, (services.performData (.get name)).result s =
        (a.value.mapError fun cause => .ofService (.source cause), t) ∧
      t.journal = s.journal ++ (services.entering inside call.reports ++
        [.event (dispatching name) inside.spans] ++
        context.logger.entries a.uttered (inside.spans ++ [Group.getSpan name]) ++
        [.closed (Group.getSpan name) inside.spans, .closed around s.spans]) := by
  intro around inside context a
  have hEnter : services.enterData.result inside = _ := result_enterData (s := inside) hSetUp hOk
  have hChild : Context.child "get" (some (services.rootContext s)) =
      .ok (services.rootContext s).below := rfl
  have hGet : services.performData (.get name) =
      Action.within around (services.enterData >>= fun group => group.serve (.get name)) := rfl
  -- inside the span the group is entered, and then the source is attempted in a child context
  rw [hGet, Action.result_within, Action.result_bind_ok (congrArg Prod.fst hEnter), hEnter]
  dsimp only
  rw [Group.serve, Action.result_bind_ok (a := ()) rfl, Action.result_emit, Action.result_mapError,
    Group.result_get hChild name]
  dsimp only
  rw [hFind]
  refine ⟨_, Prod.ext ?_ rfl, ?_⟩
  · show Except.mapError _ (Except.mapError _ a.value) = _
    rcases a.value with cause | ⟨⟩
    · rfl
    · rfl
  · simp [Session.add, Session.after, a, inside]
    rfl

/-- Entering the group and dispatching its command is told without its logger. -/
theorem carries_entering (services : Services) (s : Session) (logger : Logger) (name : String)
    {reports : List Report}
    (hReports : ∀ e, .event e ∈ reports → e.component? = none) :
    Carries logger [] (services.entering s reports ++ [.event (dispatching name) s.spans]) := by
  have hCreated : Carries logger [] [.event (services.rootContext s).logger.created s.spans] :=
    .single rfl rfl
  have hEntered : Carries logger []
      [.event (DataService.entered (services.rootContext s)) s.spans] := .single rfl rfl
  have hDispatched : Carries logger [] [.event (dispatching name) s.spans] := .single rfl rfl
  exact ((hCreated.append (.untagged hReports s.spans)).append hEntered).append hDispatched

/-- A get that goes well tells all that is said in it through the logger of the group, and no more
of loggers. -/
theorem carries_performData_get {stamp : Stamp} (hLog : services.log = .console stamp)
    {name : String} {source : Source} (hFind : services.registry.find name = .ok source)
    {t : Session} (hOk : (services.performData (.get name)).result s = (.ok (), t)) :
    let context := services.rootContext s
    let began := (RuntimeLog.mark stamp (services.site s).console dataGroup s.files).files
    ∃ told, t.journal = s.journal ++ told ∧
      Carries context.logger (source.said name context.below began) told := by
  intro context began
  have hSetUp : services.log.setUp (services.site s).console dataGroup s.files =
      RuntimeLog.mark stamp (services.site s).console dataGroup s.files := by
    rw [hLog]
    rfl
  have hCases := services.performData_cases (.get name) s
  rw [hSetUp, hOk] at hCases
  dsimp only at hCases
  -- without a session of the runtime log the get would have failed
  rcases hEnd : (RuntimeLog.mark stamp (services.site s).console dataGroup s.files).result
    with cause | ⟨⟩
  · rw [hEnd] at hCases
    exact nomatch hCases.1
  · obtain ⟨last, hResult, hJournal⟩ := result_performData_get hFind hSetUp hEnd
    obtain rfl : t = last := congrArg Prod.snd (hOk.symm.trans hResult)
    have hClosed : ∀ (span : Span) (around : List Span),
        Carries context.logger [] [.closed span around] := fun _ _ => .single rfl rfl
    let around := span "cmd_data" (DataRequest.get name).words
    let inside : Session := { s with spans := s.spans ++ [around] }
    have hGroup := services.carries_entering inside context.logger name
      (RuntimeLog.isUntagged_console stamp (services.site s).console dataGroup s.files)
    have hAttempt := source.carries_attempt name context.below began
      (inside.spans ++ [Group.getSpan name])
    have hEnds := (hClosed (Group.getSpan name) inside.spans).append (hClosed around s.spans)
    have hTold := (hGroup.append hAttempt).append hEnds
    simp only [List.nil_append, List.append_nil] at hTold
    exact ⟨_, hJournal, hTold⟩

end Services

theorem CommandError.status_ne_ok (e : CommandError) : e.status ≠ .ok := by
  rcases e with (cause | ⟨context, cause⟩) | message | message
  · rcases cause with e | message | command | ⟨location, cause⟩ | (_ | _ | _) | e <;>
      exact fun h => nomatch h
  · exact fun h => nomatch h
  · exact fun h => nomatch h
  · exact fun h => nomatch h

namespace Program

/-! ## What the terminal begins to show -/

/-- A talkative terminal is not told of by a logger. -/
theorem component?_of_modeEvent? {severity : Severity} {e : Event}
    (hEvent : modeEvent? severity = some e) : e.component? = none := by
  cases severity with
  | trace | debug | info =>
    obtain rfl := Option.some.inj hEvent
    rfl
  | warn | error => exact nomatch hEvent

/-- Of what loggers send behind the announcement those events are shown that pass the threshold. -/
theorem sent_shown_announcement (display : Display) (verbose : Nat) (level : LogLevel)
    (spans : List Span) {entries : List Entry} (hKeep : Entry.Keep entries) :
    Entry.sent (Terminal.shown display none (announcement verbose level spans ++ entries)) =
      (Entry.sent entries).filter (·.severity.passes (threshold verbose level)) := by
  have hMode : Entry.sent
      ((modeEvent? (threshold verbose level)).toList.map (.event · spans)) = [] := by
    refine Entry.sent_of_untagged fun e _ he => ?_
    obtain ⟨event, hEvent, hEntry⟩ := List.mem_map.mp he
    obtain ⟨rfl, -⟩ := Entry.event.inj hEntry
    exact component?_of_modeEvent? (Option.mem_toList.mp hEvent)
  have hBehind : Entry.sent (Terminal.shown display (some (threshold verbose level))
      ((modeEvent? (threshold verbose level)).toList.map (.event · spans) ++ entries)) =
        (Entry.sent entries).filter (·.severity.passes (threshold verbose level)) := by
    rw [Terminal.sent_shown ((Entry.keep_map_event _ spans).append hKeep), Entry.sent_append,
      hMode, List.nil_append]
  unfold announcement
  rw [List.append_assoc, List.cons_append, Terminal.shown_append, Entry.sent_append,
    Terminal.shown_cons, Entry.sent_append]
  -- the remark is no event, and it leaves the terminal as it was
  by_cases hMany : 3 < verbose
  · rw [if_pos hMany]
    exact hBehind
  · rw [if_neg hMany]
    exact hBehind

/-- The levels that are shown where more words are asked for: from the first word on those that
matter, and in the end all. -/
def admits (verbose : Nat) (level : LogLevel) : Bool :=
  match verbose with
  | 0 => false
  | 1 => LogLevel.info ≤ level
  | 2 => LogLevel.debug ≤ level
  | _ => true

/-- Where more words are asked for, the settings do not count for the terminal. -/
theorem passes_threshold {verbose : Nat} (hVerbose : 1 ≤ verbose) (configured level : LogLevel) :
    level.severity.passes (threshold verbose configured) = admits verbose level := by
  match verbose with
  | 0 => exact absurd hVerbose (by decide)
  | 1 => cases level <;> rfl
  | 2 => cases level <;> rfl
  | _ + 3 => cases level <;> rfl

/-! ## Whole runs -/

/-- Only work that goes well ends a run well. -/
theorem result_of_conclude {act : Action CommandError Unit} {s : Session}
    (hOk : (conclude act s).status = .ok) : act.result s = (.ok (), (conclude act s).session) := by
  unfold conclude at hOk ⊢
  rcases hResult : act.result s with ⟨e | ⟨⟩, t⟩
  · rw [hResult] at hOk
    exact absurd hOk e.status_ne_ok
  · rfl

/-- A run that goes well has settings, and its request goes well behind the announcement. -/
theorem perform_of_status_ok {p : Program} {args : List Bytes} {files : FileTree}
    {invocation : Invocation} (hParse : Invocation.parse p.registry args = .ok invocation)
    (hOk : (p.run args files).status = .ok) :
    ∃ settings, p.settings invocation files = .ok settings ∧
      (Services.perform ⟨settings, p.environment, p.registry, p.log⟩ invocation.request).result
          ((Session.begin files).after files
            (announcement invocation.verbose settings.logLevel [])) =
        (.ok (), (p.run args files).session) := by
  have hRun : p.run args files = conclude (p.work invocation) (.begin files) := by
    rw [run, hParse]
  rw [hRun] at hOk ⊢
  have hEnd := result_of_conclude hOk
  have hWork := result_work p invocation (.begin files)
  rw [show (Session.begin files).files = files from rfl, hEnd] at hWork
  rcases hSettings : p.settings invocation files with cause | settings
  · rw [hSettings] at hWork
    have hNever : Except.ok () = Except.error _ := congrArg Prod.fst hWork
    exact nomatch hNever
  · rw [hSettings] at hWork
    exact ⟨settings, rfl, hWork.symm⟩

/-- All that is said in a get of a source, whatever passes the logger of the data group. -/
def saidInGet (stamp : Stamp) (settings : Settings) (source : Source) (name : String)
    (files : FileTree) : List (LogLevel × String) :=
  let site := Site.ofHome 0 settings.home settings.logLevel
  let context := Context.ofRoot (Logger.make 1 dataGroup settings.logLevel site.console) site
  source.said name context.below (RuntimeLog.mark stamp site.console dataGroup files).files

/-- What the terminal shows of a get that goes well, where more words are asked for.  Of all that
is said the words asked for admit some messages, whatever the settings are; shown of these are just
the ones at the level of the settings at least.  So all of them are shown exactly if none is below
that level. -/
theorem heard_of_get {registry : Registry} {stamp : Stamp} {e : Environment} {args : List Bytes}
    {files : FileTree} {invocation : Invocation} {name : String}
    (hParse : Invocation.parse registry args = .ok invocation)
    (hRequest : invocation.request = some (.data (.get name))) (hVerbose : 1 ≤ invocation.verbose)
    (hOk : (run ⟨registry, .console stamp, e⟩ args files).status = .ok) (display : Display) :
    ∃ settings source, Program.settings ⟨registry, .console stamp, e⟩ invocation files =
        .ok settings ∧ registry.find name = .ok source ∧
      let admitted := (saidInGet stamp settings source name files).filter fun m =>
        admits invocation.verbose m.1
      let heard := Terminal.heard display
        (run ⟨registry, .console stamp, e⟩ args files).session.journal
      heard = admitted.filter (fun m => decide (settings.logLevel ≤ m.1)) ∧
        (heard = admitted ↔ ∀ m ∈ admitted, settings.logLevel ≤ m.1) := by
  obtain ⟨source, hFind⟩ :=
    Registry.find_of_contains (CommandLine.contains_of_parse hParse hRequest)
  obtain ⟨settings, hSettings, hPerform⟩ := perform_of_status_ok hParse hOk
  generalize (run ⟨registry, .console stamp, e⟩ args files).session = last at hPerform ⊢
  rw [hRequest] at hPerform
  obtain ⟨told, hJournal, hTold⟩ := Services.carries_performData_get rfl hFind hPerform
  refine ⟨settings, source, hSettings, hFind, ?_⟩
  intro admitted heard
  -- what is told behind the announcement passes the terminal, and before that the logger
  have hHeard : heard = admitted.filter fun m => decide (settings.logLevel ≤ m.1) := by
    have hShown : Entry.sent (Terminal.shown display none last.journal) =
        (Entry.sent told).filter
          (·.severity.passes (threshold invocation.verbose settings.logLevel)) := by
      rw [hJournal]
      exact sent_shown_announcement display invocation.verbose settings.logLevel [] hTold.keep
    have hAdmitted : admitted = (saidInGet stamp settings source name files).filter fun m =>
        m.1.severity.passes (threshold invocation.verbose settings.logLevel) :=
      List.filter_congr fun m _ => (passes_threshold hVerbose settings.logLevel m.1).symm
    show (Entry.sent (Terminal.shown display none last.journal)).map Event.saying = _
    rw [hShown, hTold.sent, Logger.filter_sends, Logger.map_saying_sends, hAdmitted]
    rfl
  refine ⟨hHeard, ?_⟩
  rw [hHeard, List.filter_eq_self]
  simp

/-! ### A get of the probe -/

/-- A get of the probe with a word more than usual. -/
def probing : List Bytes := ["kfc", "-v", "data", "get", "--source=probe"].map Utf8.encode

/-- The invocation that this is. -/
def probingInvocation : Invocation := ⟨none, none, 1, some (.data (.get "probe"))⟩

/-- A user of whom nothing else is known, with the settings given by these variables. -/
def rootWith (given : List (String × String)) : Environment where
  bindings := given.map fun v => (Utf8.encode v.1, Utf8.encode v.2)
  accountHome := some (.ofString "/root")

/-- The settings of that user. -/
def rootSettingsAt (level : LogLevel) : Settings := ⟨.ofString "/root/.kfc", level⟩

/-- A display of such a run. -/
def probeDisplay : Display := ⟨false, ⟨"now", "1ns", "2ns"⟩, fun _ => "", fun _ => ""⟩

/-- Where the settings let messages of that level pass, all that is said is heard. -/
theorem heard_of_get_info :
    (run ⟨.builtin, .console ⟨"now", "here", "1"⟩, rootWith [("KFC_LOG_LEVEL", "info")]⟩
        probing .empty).status = .ok ∧
      Terminal.heard probeDisplay (run ⟨.builtin, .console ⟨"now", "here", "1"⟩,
          rootWith [("KFC_LOG_LEVEL", "info")]⟩ probing .empty).session.journal =
        saidInGet ⟨"now", "here", "1"⟩ (rootSettingsAt .info) Probe.source "probe" .empty := by
  have hParse : Invocation.parse .builtin probing = .ok probingInvocation := rfl
  have hSettings : Program.settings ⟨.builtin, .console ⟨"now", "here", "1"⟩,
      rootWith [("KFC_LOG_LEVEL", "info")]⟩ probingInvocation .empty =
        .ok (rootSettingsAt .info) := by
    decide +kernel
  have hFind : Registry.builtin.find "probe" = .ok Probe.source := rfl
  have hOk : (run ⟨.builtin, .console ⟨"now", "here", "1"⟩, rootWith [("KFC_LOG_LEVEL", "info")]⟩
      probing .empty).status = .ok := by
    decide +kernel
  have hRequest : probingInvocation.request = some (.data (.get "probe")) := rfl
  obtain ⟨settings, source, hThese, hThis, hHeard, hAll⟩ :=
    heard_of_get hParse hRequest (by decide) hOk probeDisplay
  obtain rfl : rootSettingsAt .info = settings := Except.ok.inj (hSettings.symm.trans hThese)
  obtain rfl : Probe.source = source := Except.ok.inj (hFind.symm.trans hThis)
  refine ⟨hOk, (hAll.mpr ?_).trans ?_⟩
  · decide +kernel
  · decide +kernel

/-- The words asked for do not win over the settings: at the level that the settings have of
themselves the probe says that it is running, and with `-v` that is not heard. -/
theorem not_heard_of_get :
    ¬∀ (stamp : Stamp) (e : Environment) (args : List Bytes) (files : FileTree)
      (invocation : Invocation) (name : String) (settings : Settings) (source : Source)
      (display : Display), Invocation.parse .builtin args = .ok invocation →
      invocation.request = some (.data (.get name)) → 1 ≤ invocation.verbose →
      (standard stamp e).settings invocation files = .ok settings →
      Registry.builtin.find name = .ok source →
      ((standard stamp e).run args files).status = .ok →
      ∀ m ∈ saidInGet stamp settings source name files, admits invocation.verbose m.1 →
        m ∈ Terminal.heard display ((standard stamp e).run args files).session.journal := by
  intro hAll
  have hSettings : (standard ⟨"now", "here", "1"⟩ (rootWith [])).settings probingInvocation .empty =
      .ok (rootSettingsAt .warning) := by
    decide +kernel
  have hSaid : Group.running "probe" ∈
      saidInGet ⟨"now", "here", "1"⟩ (rootSettingsAt .warning) Probe.source "probe" .empty := by
    decide +kernel
  have hHeard := hAll ⟨"now", "here", "1"⟩ (rootWith []) probing .empty probingInvocation "probe" _
    Probe.source probeDisplay rfl rfl (by decide)
    hSettings rfl (by decide +kernel) _ hSaid (by decide)
  exact absurd hHeard (by decide +kernel)

end Program

end MarketFeed
