import MarketFeed.Proofs.Services.Dispatch
import MarketFeed.Proofs.Terminal.Shown

/-!
# The events of a get

A get comes as far as its source lets it: there may be no such source, the source may refuse to
build, and what it builds may fail.  The events tell how far it came and in which order.

* `Entry.events`       — the events of a journal, each with the spans around it.
* `Course`             — how far a get comes, with the messages sent up to there.
* `Source.course`, `Group.course` — the course that a source and a name lead to.
* `Course.messages`    — all messages of a course, those of the service among them.
* `Course.events`      — what is heard of a course, with something before and after the run.
* `course_attempt`     — the messages of an attempt are those of its course.
* `told_get`           — the events of a get are those that pass, and the end of its span is told
                         after them.
* `events_get`         — the events of a get piece by piece, and when it goes well.
-/

namespace MarketFeed

/-! ## Events of a journal -/

/-- The events of a journal in order, each with the spans open at that moment. -/
def Entry.events (entries : List Entry) : List (Event × List Span) :=
  entries.filterMap fun
    | .event e spans => some (e, spans)
    | _ => none

theorem Entry.events_append (first second : List Entry) :
    events (first ++ second) = events first ++ events second :=
  List.filterMap_append ..

/-- The events that what is uttered leaves are the messages that pass. -/
theorem Logger.events_entries (logger : Logger) (uttered : List Utterance)
    (spans : List Span) :
    Entry.events (logger.entries uttered spans) =
      (logger.sends (Utterance.messages uttered)).map (·, spans) := by
  rw [Entry.events, entries, sends, Utterance.messages, List.filterMap_filterMap,
    List.filterMap_filterMap, List.map_filterMap]
  congr 1
  funext u
  cases u with
  | note counter what => rfl
  | message level text =>
    rcases hEvent : logger.event? level text with _ | e
    · simp [Utterance.entry?, hEvent]
    · simp [Utterance.entry?, hEvent]

/-! ## Courses -/

/-- How far a get comes, with the messages that building and running sent up to there. -/
inductive Course where
  /-- There is no source of that name. -/
  | absent
  /-- The source does not build. -/
  | refused (building : List (LogLevel × String))
  /-- What was built is run, and fails. -/
  | failed (building running : List (LogLevel × String))
  /-- What was built is run to its end. -/
  | finished (building running : List (LogLevel × String))
  deriving DecidableEq

namespace Course

/-- The course went on to its end. -/
def isFinished : Course → Bool
  | finished _ _ => true
  | _ => false

/-- All messages of a course in order: the service speaks before a run, and after one that went
well. -/
def messages (name : String) : Course → List (LogLevel × String)
  | absent => []
  | refused building => building
  | failed building running => building ++ Group.running name :: running
  | finished building running =>
    building ++ Group.running name :: running ++ [Group.finished name]

/-- What is heard of a course, with some events before its run and some after one that went well. -/
def events (heard : List (LogLevel × String) → List Event) (before after : List Event) :
    Course → List Event
  | absent => []
  | refused building => heard building
  | failed building running => heard building ++ before ++ heard running
  | finished building running => heard building ++ before ++ heard running ++ after

/-- The messages of a course are heard piece by piece. -/
theorem sends_messages (course : Course) (logger : Logger) (name : String) :
    logger.sends (course.messages name) =
      course.events logger.sends (logger.sends [Group.running name])
        (logger.sends [Group.finished name]) := by
  have hCons : ∀ (m : LogLevel × String) rest,
      logger.sends (m :: rest) = logger.sends [m] ++ logger.sends rest := fun m rest => by
    rw [← Logger.sends_append, List.singleton_append]
  cases course with
  | absent => rfl
  | refused building => rfl
  | failed building running =>
    rw [messages, events, Logger.sends_append, hCons (Group.running name), List.append_assoc]
  | finished building running =>
    rw [messages, events, Logger.sends_append, Logger.sends_append, hCons (Group.running name),
      ← List.append_assoc (logger.sends building)]

end Course

/-! ## Attempts -/

/-- The course of building the extension of a source and running it. -/
def Source.course (source : Source) (context : Context) (files : FileTree) : Course :=
  let built := (source.build context).outcome files
  match built.value with
  | .error _ => .refused built.messages
  | .ok extension =>
    let ran := Routine.outcome extension built.files
    match ran.value with
    | .error _ => .failed built.messages ran.messages
    | .ok () => .finished built.messages ran.messages

/-- The course that a get of a name takes. -/
def Group.course (group : Group) (name : String) (files : FileTree) : Course :=
  match group.registry.find name with
  | .error _ => .absent
  | .ok source => source.course group.context.below files

/-- The messages of an attempt are those of its course, and it goes well exactly if the course comes
to its end. -/
theorem Source.course_attempt (source : Source) (name : String) (context : Context)
    (files : FileTree) :
    let a := source.attempt name context files
    let course := source.course context files
    a.messages = course.messages name ∧ (a.value = .ok () ↔ course.isFinished = true) := by
  intro a course
  rw [show a.messages = _ from source.messages_attempt name context files]
  rcases hBuild : ((source.build context).outcome files).value with e | extension
  · have hCourse : course = .refused ((source.build context).outcome files).messages := by
      simp only [course, Source.course, hBuild]
    rw [show a = _ from attempt_of_build_error hBuild, hCourse]
    exact ⟨List.append_nil _, by simp [Course.isFinished]⟩
  · have hValue : a.value =
        (Routine.outcome extension ((source.build context).outcome files).files).value := by
      rw [show a = _ from attempt_of_build_ok hBuild, Extension.value_attempt]
    rw [hValue]
    dsimp only
    rw [Extension.messages_attempt]
    -- the course is known once it is known how the run ends
    simp only [course, Source.course, hBuild]
    rcases (Routine.outcome extension ((source.build context).outcome files).files).value
      with e | ⟨⟩
    · exact ⟨by rw [Course.messages, List.append_nil], by simp [Course.isFinished]⟩
    · exact ⟨by rw [Course.messages, List.append_assoc], by simp [Course.isFinished]⟩

namespace Group

/-- A get tells the messages of its course that pass, inside its span, and then the end of the
span. -/
theorem told_get (group : Group) (name : String) (s : Session) :
    let course := group.course name s.files
    let r := (group.get name).result s
    ∃ entries, r.2.journal = s.journal ++ (entries ++ [.closed (getSpan name) s.spans]) ∧
      Entry.events entries = (group.context.logger.sends (course.messages name)).map
        (·, s.spans ++ [getSpan name]) ∧
      (r.1 = .ok () ↔ course.isFinished = true) := by
  intro course r
  have hGet := result_get (rfl : Context.child "get" (some group.context) = .ok group.context.below)
    name s
  rcases hFind : group.registry.find name with e | source <;> rw [hFind] at hGet
  · have hCourse : course = .absent := by simp only [course, Group.course, hFind]
    rw [show r = _ from hGet, hCourse]
    exact ⟨[], rfl, rfl, by simp [Course.isFinished]⟩
  · have hCourse : course = source.course group.context.below s.files := by
      simp only [course, Group.course, hFind]
    obtain ⟨hMessages, hEnd⟩ := source.course_attempt name group.context.below s.files
    rw [show r = _ from hGet, hCourse]
    refine ⟨_, rfl, ?_, ?_⟩
    · rw [← hMessages]
      exact Logger.events_entries ..
    · -- telling the error of a source as one of the service makes no success of it
      rw [← hEnd]
      show Except.mapError ServiceError.source
        (source.attempt name group.context.below s.files).value = .ok () ↔ _
      rcases (source.attempt name group.context.below s.files).value with e | ⟨⟩
      · simp [Except.mapError]
      · simp [Except.mapError]

/-- The events of a get tell its course, and nothing else is told as an event.

All of them lie inside the span of the get, which ends after them.  Where the logger of the group
lets informative messages through, the service's own stand right before the run and right after a
run that went well; under any higher level they are missing, and all else is as the level filters
it.  The get goes well exactly if its course comes to the end. -/
theorem events_get (group : Group) (name : String) (s : Session) :
    let logger := group.context.logger
    let heard (messages : List (LogLevel × String)) : List Event :=
      (messages.filter fun m => decide (logger.level ≤ m.1)).map logger.eventOf
    let course := group.course name s.files
    let r := (group.get name).result s
    ∃ told, r.2.journal = s.journal ++ told ∧
      told.getLast? = some (.closed (getSpan name) s.spans) ∧
      (∀ e ∈ Entry.events told, e.2 = s.spans ++ [getSpan name]) ∧
      (logger.level ≤ .info → (Entry.events told).map Prod.fst =
        course.events heard [logger.eventOf (running name)] [logger.eventOf (finished name)]) ∧
      (¬logger.level ≤ .info → (Entry.events told).map Prod.fst = course.events heard [] []) ∧
      (r.1 = .ok () ↔ course.isFinished = true) := by
  intro logger heard course r
  obtain ⟨entries, hJournal, hEvents, hEnd⟩ := told_get group name s
  -- the end of the span is no event
  have hAll : Entry.events (entries ++ [.closed (getSpan name) s.spans]) =
      (logger.sends (course.messages name)).map (·, s.spans ++ [getSpan name]) := by
    rw [Entry.events_append, hEvents]
    exact List.append_nil _
  have hFirst : (Entry.events (entries ++ [.closed (getSpan name) s.spans])).map Prod.fst =
      course.events heard (heard [running name]) (heard [finished name]) := by
    have hHeard : logger.sends = heard := funext fun _ => Logger.sends_eq
    rw [hAll, List.map_map, ← hHeard, ← Course.sends_messages]
    exact List.map_id _
  refine ⟨_, hJournal, List.getLast?_concat, fun e he => ?_, fun hLevel => ?_, fun hLevel => ?_,
    hEnd⟩
  · rw [hAll] at he
    obtain ⟨event, -, rfl⟩ := List.mem_map.mp he
    rfl
  · -- both messages of the service are informative, so they pass together
    have hPasses : ∀ m : LogLevel × String, m.1 = .info → heard [m] = [logger.eventOf m] := by
      intro m hInfo
      simp [heard, hInfo, hLevel]
    rw [hFirst, hPasses (running name) rfl, hPasses (finished name) rfl]
  · have hStops : ∀ m : LogLevel × String, m.1 = .info → heard [m] = [] := by
      intro m hInfo
      simp [heard, hInfo, hLevel]
    rw [hFirst, hStops (running name) rfl, hStops (finished name) rfl]

/-- A source that speaks while it builds and while it runs, and fails in the end if asked to. -/
def talkative (fails : Bool) : Source where
  about := "messages"
  build _ := .logAll [(.warning, "slow disk")] <| .done <| .ok <|
    .logAll [(.debug, "3 rows"), (.error, "bad row")] <| .done <|
      if fails then .error (.failed "csv" "stopped") else .ok ()

/-- A group at a level that has this source alone. -/
def sampleGroup (level : LogLevel) (fails : Bool) : Group where
  registry :=
    { entries := [⟨"csv", talkative fails⟩]
      sorted := List.pairwise_singleton ..
      valid := List.forall_mem_singleton.mpr (show isSourceName "csv" = true by decide) }
  context :=
    let site := Site.ofHome 0 (.ofString "/u") level
    .ofRoot (.make 0 dataGroup level site.console) site

/-- At the level of information a source that fails is heard without an end; at the level of errors
one that runs well is heard with its error alone. -/
theorem events_get_talkative :
    let loud := ((sampleGroup .info true).get "csv").result (.begin .empty)
    let quiet := ((sampleGroup .error false).get "csv").result (.begin .empty)
    loud.1 ≠ .ok () ∧ quiet.1 = .ok () ∧
      ((Entry.events loud.2.journal).map Prod.fst).map (·.message) =
        ["slow disk", "running data source csv", "bad row"] ∧
      ((Entry.events quiet.2.journal).map Prod.fst).map (·.message) = ["bad row"] := by
  intro loud quiet
  obtain ⟨said, hLoud, -, -, hHeard, -, hLoudEnd⟩ :=
    events_get (sampleGroup .info true) "csv" (.begin .empty)
  obtain ⟨left, hQuiet, -, -, -, hFiltered, hQuietEnd⟩ :=
    events_get (sampleGroup .error false) "csv" (.begin .empty)
  refine ⟨fun hOk => absurd (hLoudEnd.mp hOk) (by decide), hQuietEnd.mpr (by decide), ?_, ?_⟩
  · rw [show loud.2.journal = said from hLoud, hHeard (by decide)]
    decide
  · rw [show quiet.2.journal = left from hQuiet, hFiltered (by decide)]
    decide

end Group

end MarketFeed
