import MarketFeed.Proofs.Session.Journal

/-!
# What a get comes to

A routine works on the files alone, and it utters messages and notes.  All that is done for a source
is one routine: it is built, and what was built is run between two messages of the service.  Here a
routine is told by a plain function of the files, and the actions are proved to come to it.

* `Utterance`        — what a routine utters while it works.
* `Routine.outcome`  — what a routine comes to on some files; `outcome_bind`, `outcome_logAll`.
* `Logger.entries`   — what stands in the journal of what was uttered.
* `result_perform`   — performing a routine comes to its outcome.
* `Source.serving`, `Source.attempt` — all that is done for a source, and what it comes to.
* `Group.result_get` — a get is the attempt of its source, inside a span, if there is that source.
-/

namespace MarketFeed

/-! ## Utterances -/

/-- What a routine utters while it works: a message at a level, or a note on a counter. -/
inductive Utterance where
  | message (level : LogLevel) (text : String)
  | note (counter : Nat) (note : Note)
  deriving DecidableEq, Repr

namespace Utterance

/-- The messages among the utterances, in order. -/
def messages (uttered : List Utterance) : List (LogLevel × String) :=
  uttered.filterMap fun
    | message level text => some (level, text)
    | note _ _ => none

/-- The notes among the utterances, in order. -/
def notes (uttered : List Utterance) : List (Nat × Note) :=
  uttered.filterMap fun
    | message _ _ => none
    | note counter what => some (counter, what)

theorem messages_append (first second : List Utterance) :
    messages (first ++ second) = messages first ++ messages second := List.filterMap_append ..

theorem notes_append (first second : List Utterance) :
    notes (first ++ second) = notes first ++ notes second := List.filterMap_append ..

/-- The entry that an utterance leaves in a journal: a note always does, a message if it passes. -/
def entry? (logger : Logger) (spans : List Span) : Utterance → Option Entry
  | message level text => (logger.event? level text).map (.event · spans)
  | note counter what => some (.noted counter what)

end Utterance

/-- The entries that utterances leave in a journal. -/
def Logger.entries (logger : Logger) (uttered : List Utterance) (spans : List Span) : List Entry :=
  uttered.filterMap (Utterance.entry? logger spans)

theorem Logger.entries_append (logger : Logger) (first second : List Utterance)
    (spans : List Span) :
    logger.entries (first ++ second) spans =
      logger.entries first spans ++ logger.entries second spans := List.filterMap_append ..

/-- Of what is uttered, the notes are calls and the messages are none. -/
theorem Logger.calls_entries (logger : Logger) (uttered : List Utterance) (spans : List Span) :
    Entry.calls (logger.entries uttered spans) = Entry.ofNotes (Utterance.notes uttered) := by
  rw [Entry.calls, entries, List.filter_filterMap, Entry.ofNotes, Utterance.notes,
    List.map_filterMap]
  congr 1
  funext u
  cases u with
  | note counter what => rfl
  | message level text =>
    -- a message that passes is an event, and an event is no call
    rcases hEvent : logger.event? level text with _ | event
    · simp [Utterance.entry?, hEvent]
    · simp [Utterance.entry?, hEvent, Entry.isCall]

theorem Action.result_log_eq_after {ε : Type} (logger : Logger) (level : LogLevel)
    (text : String) (s : Session) :
    (Action.log logger level text : Action ε Unit).result s =
      (.ok (), s.after s.files (logger.entries [.message level text] s.spans)) := by
  rw [result_log]
  rcases hEvent : logger.event? level text with _ | event
  · simp [Logger.entries, Utterance.entry?, hEvent, Session.after_nil]
  · simp [Logger.entries, Utterance.entry?, hEvent, Session.add_eq_after]

/-- Work inside a span, told by what it is there; the end of the span comes last. -/
theorem Action.result_within_of_after {ε α : Type} {act : Action ε α} {span : Span} {s : Session}
    {r : Except ε α} {files : FileTree} {entries : List Entry}
    (hAct : act.result { s with spans := s.spans ++ [span] } =
      (r, { s with spans := s.spans ++ [span] }.after files entries)) :
    (within span act).result s = (r, s.after files (entries ++ [.closed span s.spans])) := by
  rw [result_within, hAct]
  simp [Session.after, Session.add]

/-! ## Routines -/

namespace Routine

/-- What a routine comes to: its value, the files afterwards and what it uttered. -/
structure Outcome (α : Type) where
  value : α
  files : FileTree
  uttered : List Utterance

/-- The messages that were sent on the way. -/
def Outcome.messages {α : Type} (o : Outcome α) : List (LogLevel × String) :=
  Utterance.messages o.uttered

/-- The notes that were taken on the way. -/
def Outcome.notes {α : Type} (o : Outcome α) : List (Nat × Note) := Utterance.notes o.uttered

/-- The same outcome, with something uttered before all else. -/
def Outcome.uttering {α : Type} (first : Utterance) (o : Outcome α) : Outcome α :=
  ⟨o.value, o.files, first :: o.uttered⟩

variable {α β ε : Type} {s : Session}

/-- What the routine comes to on these files. -/
def outcome : Routine α → FileTree → Outcome α
  | done value, files => ⟨value, files, []⟩
  | log level text next, files => (next.outcome files).uttering (.message level text)
  | note counter what next, files => (next.outcome files).uttering (.note counter what)
  | look next, files => (next files).outcome files
  | store files next, _ => next.outcome files

/-- One routine after another comes to what the second one makes of the first. -/
theorem outcome_bind (first : Routine α) (next : α → Routine β) (files : FileTree) :
    let o := first.outcome files
    let p := (next o.value).outcome o.files
    (first.bind next).outcome files = ⟨p.value, p.files, o.uttered ++ p.uttered⟩ := by
  -- by induction on the first routine, for whatever files it begins with
  induction first generalizing files with
  | done value => rfl
  | log level text rest ih => exact congrArg (Outcome.uttering (.message level text)) (ih files)
  | note counter what rest ih => exact congrArg (Outcome.uttering (.note counter what)) (ih files)
  | look rest ih => exact ih files files
  | store stored rest ih => exact ih stored

/-- Messages at the beginning change nothing but what is uttered. -/
theorem outcome_logAll (messages : List (LogLevel × String)) (next : Routine α)
    (files : FileTree) :
    (logAll messages next).outcome files =
      { next.outcome files with
        uttered := messages.map (fun m => .message m.1 m.2) ++ (next.outcome files).uttered } := by
  induction messages with
  | nil => rfl
  | cons m rest ih =>
    exact congrArg (Outcome.uttering (.message m.1 m.2)) ih

/-- Performing a routine comes to its outcome, and the journal tells what was uttered. -/
theorem result_perform (r : Routine α) (logger : Logger) :
    (r.perform logger : Action ε α).result s =
      (.ok (r.outcome s.files).value,
        s.after (r.outcome s.files).files
          (logger.entries (r.outcome s.files).uttered s.spans)) := by
  -- by induction on the routine; the session is another one after each of its steps
  induction r generalizing s with
  | done value => exact congrArg (Prod.mk _) Session.after_nil.symm
  | log level text next ih =>
    have hFirst : ((Action.log logger level text : Action ε Unit).result s).1 = .ok () := by
      rw [Action.result_log_eq_after]
    unfold perform
    rw [Action.result_bind_ok hFirst, Action.result_log_eq_after, ih, Session.after_after]
    rw [Session.after_files, Session.after_spans, ← Logger.entries_append]
    rfl
  | note counter what next ih =>
    unfold perform
    rw [Action.result_bind_ok (a := ()) rfl, Action.result_record, ih, Session.add_eq_after,
      Session.after_after]
    rfl
  | look next ih =>
    unfold perform
    rw [Action.result_bind_ok (a := s) rfl]
    exact ih s.files
  | store files next ih =>
    -- the files are others, but nothing else has changed
    have hStore : (store files next : Routine α).perform (ε := ε) logger =
        (modify fun s => { s with files }) >>= fun _ => next.perform logger := rfl
    rw [hStore, Action.result_bind_ok (a := ()) rfl]
    exact ih

theorem result_performOrFail (r : Routine (Except SourceError α)) (logger : Logger) :
    (r.performOrFail logger).result s =
      ((r.outcome s.files).value,
        s.after (r.outcome s.files).files
          (logger.entries (r.outcome s.files).uttered s.spans)) := by
  unfold performOrFail
  rw [Action.result_bind_ok (congrArg Prod.fst (result_perform r logger)), result_perform]
  rfl

end Routine

/-! ## Getting from a source -/

/-- The service's message before a source is run. -/
def Group.running (name : String) : LogLevel × String := (.info, "running data source " ++ name)

/-- The service's message once a source has run well. -/
def Group.finished (name : String) : LogLevel × String :=
  (.info, "data source " ++ name ++ " finished")

/-- Running an extension as the service does it, between messages of its own. -/
def Extension.serving (extension : Extension) (name : String) : Extension :=
  .log (Group.running name).1 (Group.running name).2 <| extension.bind fun
    | .ok () => .log (Group.finished name).1 (Group.finished name).2 (.done (.ok ()))
    | .error e => .done (.error e)

/-- Building the extension of a source, and running it so. -/
def Source.serving (source : Source) (name : String) (context : Context) : Extension :=
  (source.build context).bind fun
    | .ok extension => extension.serving name
    | .error e => .done (.error e)

/-- What running an extension comes to, with the messages of the service. -/
def Extension.attempt (extension : Extension) (name : String) (files : FileTree) :
    Routine.Outcome (Except SourceError Unit) := (extension.serving name).outcome files

/-- What all that is done for a source comes to. -/
def Source.attempt (source : Source) (name : String) (context : Context) (files : FileTree) :
    Routine.Outcome (Except SourceError Unit) := (source.serving name context).outcome files

section Attempt

variable {source : Source} {name : String} {context : Context} {files : FileTree}

/-- The service speaks before an extension is run, and again if that goes well. -/
theorem Extension.attempt_eq (extension : Extension) (name : String) (files : FileTree) :
    let o := Routine.outcome extension files
    extension.attempt name files =
      { value := o.value
        files := o.files
        uttered := .message (Group.running name).1 (Group.running name).2 :: o.uttered ++
          match o.value with
          | .ok () => [.message (Group.finished name).1 (Group.finished name).2]
          | .error _ => [] } := by
  intro o
  unfold attempt serving
  show ((Routine.bind extension _).outcome files).uttering _ = _
  rw [Routine.outcome_bind]
  show Routine.Outcome.uttering _ ⟨_, _, o.uttered ++ _⟩ = _
  rcases o.value with e | ⟨⟩
  · rfl
  · rfl

theorem Extension.messages_attempt (extension : Extension) (name : String) (files : FileTree) :
    let o := Routine.outcome extension files
    (extension.attempt name files).messages = Group.running name :: o.messages ++
      match o.value with
      | .ok () => [Group.finished name]
      | .error _ => [] := by
  rw [attempt_eq]
  show Utterance.messages (_ ++ _) = _
  rw [Utterance.messages_append]
  rcases (Routine.outcome extension files).value with e | ⟨⟩
  · rfl
  · rfl

/-- The service neither changes how an extension ends nor touches a file. -/
theorem Extension.value_attempt (extension : Extension) (name : String) (files : FileTree) :
    (extension.attempt name files).value = (Routine.outcome extension files).value := by
  rw [attempt_eq]

theorem Extension.files_attempt (extension : Extension) (name : String) (files : FileTree) :
    (extension.attempt name files).files = (Routine.outcome extension files).files := by
  rw [attempt_eq]

/-- Nor does it note anything. -/
theorem Extension.notes_attempt (extension : Extension) (name : String) (files : FileTree) :
    (extension.attempt name files).notes = (Routine.outcome extension files).notes := by
  rw [attempt_eq]
  show Utterance.notes (_ ++ _) = _
  rw [Utterance.notes_append]
  rcases (Routine.outcome extension files).value with e | ⟨⟩
  · exact List.append_nil _
  · exact List.append_nil _

theorem Source.attempt_of_build_error {e : SourceError}
    (hBuilt : ((source.build context).outcome files).value = .error e) :
    let o := (source.build context).outcome files
    source.attempt name context files = ⟨.error e, o.files, o.uttered⟩ := by
  unfold attempt serving
  rw [Routine.outcome_bind, hBuilt]
  simp [Routine.outcome]

theorem Source.attempt_of_build_ok {extension : Extension}
    (hBuilt : ((source.build context).outcome files).value = .ok extension) :
    let o := (source.build context).outcome files
    let rest := extension.attempt name o.files
    source.attempt name context files = ⟨rest.value, rest.files, o.uttered ++ rest.uttered⟩ := by
  unfold attempt serving
  rw [Routine.outcome_bind, hBuilt]
  rfl

theorem Source.messages_attempt (source : Source) (name : String) (context : Context)
    (files : FileTree) :
    let o := (source.build context).outcome files
    (source.attempt name context files).messages = o.messages ++
      match o.value with
      | .ok extension => (extension.attempt name o.files).messages
      | .error _ => [] := by
  intro o
  rcases hBuilt : o.value with e | extension
  · rw [attempt_of_build_error hBuilt]
    exact (List.append_nil _).symm
  · rw [attempt_of_build_ok hBuilt]
    exact Utterance.messages_append ..

end Attempt

/-- Running the extension of a source as the service does it. -/
def Extension.serve (extension : Extension) (name : String) (context : Context) :
    Action ServiceError Unit := do
  Action.log context.logger .info ("running data source " ++ name)
  Action.mapError .source (extension.execute context)
  Action.log context.logger .info ("data source " ++ name ++ " finished")

theorem Extension.result_serve (extension : Extension) (name : String) (context : Context)
    (s : Session) :
    let a := extension.attempt name s.files
    (extension.serve name context).result s =
      (a.value.mapError .source, s.after a.files (context.logger.entries a.uttered s.spans)) := by
  intro a
  have hAttempt : a = _ := extension.attempt_eq name s.files
  have hRunning : ((Action.log context.logger .info ("running data source " ++ name) :
      Action ServiceError Unit).result s).1 = .ok () := by
    rw [Action.result_log_eq_after]
  unfold serve
  rw [Action.result_bind_ok hRunning, Action.result_log_eq_after, Action.result_bind,
    Action.result_mapError, execute, Routine.result_performOrFail, Session.after_files,
    Session.after_after, Session.after_spans, ← Logger.entries_append]
  -- how the extension ends decides whether anything is said after it
  rcases hEnd : (Routine.outcome extension s.files).value with e | ⟨⟩ <;> rw [hEnd] at hAttempt <;>
    rw [hAttempt]
  · rw [List.append_nil]
    rfl
  · show (Action.log _ _ _ : Action ServiceError Unit).result _ = _
    rw [Action.result_log_eq_after, Session.after_after, Session.after_files, Session.after_spans,
      ← Logger.entries_append]
    rfl

theorem Source.result_serve (source : Source) (name : String) (context : Context) (s : Session) :
    let a := source.attempt name context s.files
    (Action.mapError ServiceError.source (source.construct context) >>= fun extension =>
      extension.serve name context).result s =
      (a.value.mapError .source, s.after a.files (context.logger.entries a.uttered s.spans)) := by
  intro a
  rw [Action.result_bind, Action.result_mapError, construct, Routine.result_performOrFail]
  rcases hBuilt : ((source.build context).outcome s.files).value with e | extension
  · rw [show a = _ from attempt_of_build_error hBuilt]
    rfl
  · rw [show a = _ from attempt_of_build_ok hBuilt]
    show (extension.serve name context).result _ = _
    rw [Extension.result_serve, Session.after_after, Session.after_files, Session.after_spans,
      ← Logger.entries_append]

/-- A get is the attempt of its source in a child context, inside a span.  Without such a source
nothing is done but that the span ends. -/
theorem Group.result_get {group : Group} {context : Context}
    (hChild : Context.child "get" (some group.context) = .ok context) (name : String)
    (s : Session) :
    (group.get name).result s =
      match group.registry.find name with
      | .error e => (.error (.registry e), s.add (.closed (getSpan name) s.spans))
      | .ok source =>
        let a := source.attempt name context s.files
        (a.value.mapError .source,
          s.after a.files (context.logger.entries a.uttered (s.spans ++ [getSpan name]) ++
            [.closed (getSpan name) s.spans])) := by
  have hGet : group.get name = Action.within (getSpan name) (Action.ofExcept
      (Context.child "get" (some group.context)) >>= fun context =>
        Action.mapError .registry (Action.ofExcept (group.registry.find name)) >>= fun source =>
          Action.mapError .source (source.construct context) >>= fun extension =>
            extension.serve name context) := rfl
  rw [hGet, hChild]
  -- the name decides, before anything is built
  rcases group.registry.find name with e | source
  · show _ = (_, s.after s.files ([] ++ [.closed (getSpan name) s.spans]))
    refine Action.result_within_of_after ?_
    rw [Action.result_bind_ok (a := context) rfl, Action.result_bind_error (e := .registry e) rfl]
    exact congrArg (Prod.mk _) Session.after_nil.symm
  · refine Action.result_within_of_after ?_
    rw [Action.result_bind_ok (a := context) rfl, Action.result_bind_ok (a := source) rfl]
    exact Source.result_serve source name context _

end MarketFeed
