import MarketFeed.Proofs.Registry.Entries
import MarketFeed.Proofs.Services.Getting

/-!
# Histories of the data service

The group is entered any number of times, and each time it is entered it is asked for sources in
any order.  The runtime log and the sources note themselves what is asked of them, so that the
journal tells how often each was called.

* `Context.below`     — the child that a command of the group works in.
* `Registry.Reserves` — a counter is left to one source.
* `Dispatch`          — the groups entered so far.
* `Dispatch.step`, `Dispatch.run` — doing one more thing, and doing many.
* `Dispatch.asked`    — which groups were asked for a source, told by the steps alone.
* `Dispatch.Wired`    — the invariant: each group has a root context of its own.
* `Dispatch.Tells`    — what a step tells of calls.
* `Wired.step`, `Wired.run` — every step keeps the invariant and tells of just those calls, and
                        every run keeps it.
* `Wired.notes_run`   — what a run notes on a counter that is left to one source.
* `dispatch_accounting` — what the journal tells of calls, and what each step answers.
-/

namespace MarketFeed

/-! ## One thing that is asked -/

/-- The child that a command of the group works in. -/
def Context.below (c : Context) : Context := ⟨c.frame, c.frame :: c.above⟩

theorem Context.parent?_below (c : Context) : c.below.parent? = some c := rfl

/-- With a recording runtime log the group can always be entered, and the log is called once. -/
theorem DataService.result_enter_recording (registry : Registry) (site : Site) (s : Session) :
    let logger := Logger.make s.nextIdentity dataGroup site.logLevel site.console
    ∃ t, ((⟨registry, .recording⟩ : DataService).enter site).result s =
        (.ok ⟨registry, .ofRoot logger site⟩, t) ∧
      t.nextIdentity = s.nextIdentity + 1 ∧
      Entry.calls t.journal =
        Entry.calls s.journal ++ [.logSetUp site.console.uname dataGroup] := by
  intro logger
  have hRoot := Context.result_root dataGroup site .recording s
  have hCalls := Context.calls_result_root dataGroup site .recording s
  rw [hRoot] at hCalls
  rw [result_enter, hRoot]
  refine ⟨_, rfl, rfl, ?_⟩
  -- the event that tells of the group is no call
  refine Entry.calls_append.trans ?_
  rw [hCalls]
  exact List.append_nil _

/-- What a source's attempt notes on a counter. -/
def Source.notesOn (source : Source) (name : String) (counter : Nat) (context : Context)
    (files : FileTree) : List Note :=
  Entry.notes (Entry.ofNotes (source.attempt name context files).notes) counter

/-- Whatever is done for the source, nothing is noted on that counter. -/
def Source.Spares (source : Source) (counter : Nat) : Prop :=
  ∀ name context files, source.notesOn name counter context files = []

/-- No other source than the one of that name notes anything on the counter. -/
def Registry.Reserves (r : Registry) (name : String) (counter : Nat) : Prop :=
  ∀ other source, r.find other = .ok source → other ≠ name → source.Spares counter

theorem Registry.reserves_of_entries {r : Registry} {name : String} {counter : Nat}
    (hOthers : ∀ e ∈ r.entries, e.name ≠ name → e.source.Spares counter) :
    r.Reserves name counter := by
  intro other source hFind hOther
  obtain ⟨e, hEntry, rfl⟩ := find_eq_ok_iff.mp hFind
  refine hOthers e (List.mem_of_find?_eq_some hEntry) ?_
  rw [name_of_registered? hEntry]
  exact hOther

section Notes

variable {source : Source} {name : String} {counter : Nat} {context : Context} {files : FileTree}

/-- A counting source is built and then run. -/
theorem Source.notesOn_counting (label about : String) (fails : Bool) :
    (counting counter label about fails).notesOn name counter context files = [.built, .ran] := by
  rcases fails with _ | _ <;>
    simp [notesOn, attempt, serving, counting, Extension.serving, Routine.bind, Routine.outcome,
      Routine.Outcome.uttering, Routine.Outcome.notes, Utterance.notes, Entry.ofNotes, Entry.notes]

theorem Source.spares_counting {other : Nat} (hOther : other ≠ counter) (label about : String)
    (fails : Bool) : (counting other label about fails).Spares counter := by
  intro name context files
  rcases fails with _ | _ <;>
    simp [notesOn, attempt, serving, counting, Extension.serving, Routine.bind, Routine.outcome,
      Routine.Outcome.uttering, Routine.Outcome.notes, Utterance.notes, Entry.ofNotes, Entry.notes,
      hOther]

/-- A source that is watched notes the context on its counter, and all else is as without. -/
theorem Source.notesOn_watched {other : Nat} :
    (source.watched other).notesOn name counter context files =
      (if other = counter then [.saw context] else []) ++
        source.notesOn name counter context files := by
  have hAttempt : (source.watched other).attempt name context files =
      (source.attempt name context files).uttering (.note other (.saw context)) := rfl
  rw [notesOn, hAttempt]
  by_cases hOther : other = counter <;>
    simp [notesOn, Routine.Outcome.uttering, Routine.Outcome.notes, Utterance.notes, Entry.ofNotes,
      Entry.notes, hOther]

theorem Source.spares_watched {other : Nat} (hOther : other ≠ counter)
    (hSpares : source.Spares counter) : (source.watched other).Spares counter := by
  intro name context files
  rw [notesOn_watched, if_neg hOther, hSpares]
  rfl

end Notes

/-! ## Histories -/

/-- The groups entered so far, by number, and the session that they were entered in. -/
structure Dispatch where
  session : Session
  groups : List Group

namespace Dispatch

/-- One thing that is asked: entering the group, a source from the group entered with some number,
or the names of its sources. -/
inductive Step where
  | enter
  | get (group : Nat) (source : String)
  | sources (group : Nat)
  deriving DecidableEq, Repr

/-- What comes of a step. -/
inductive Answer where
  | entered (r : Except ServiceError Unit)
  | got (r : Except ServiceError Unit)
  | listed (sources : List (String × String))
  /-- No group was entered with that number. -/
  | noGroup

/-- Does one step. -/
def step (service : DataService) (site : Site) (d : Dispatch) : Step → Answer × Dispatch
  | .enter =>
    match (service.enter site).result d.session with
    | (.ok group, s) => (.entered (.ok ()), ⟨s, d.groups ++ [group]⟩)
    | (.error e, s) => (.entered (.error e), ⟨s, d.groups⟩)
  | .get i name =>
    match d.groups[i]? with
    | none => (.noGroup, d)
    | some group =>
      let r := (group.get name).result d.session
      (.got r.1, ⟨r.2, d.groups⟩)
  | .sources i =>
    match d.groups[i]? with
    | none => (.noGroup, d)
    | some group => (.listed group.sources, d)

/-- Does steps one after the other. -/
def run (service : DataService) (site : Site) (d : Dispatch) (steps : List Step) : Dispatch :=
  steps.foldl (fun d step => (d.step service site step).2) d

/-- Which groups steps ask for a source, in order, if so many groups were entered before: a number
that no group has yet is passed over. -/
def asked (name : String) : Nat → List Step → List Nat
  | _, [] => []
  | entered, .enter :: rest => asked name (entered + 1) rest
  | entered, .get i source :: rest =>
    (if i < entered ∧ source = name then [i] else []) ++ asked name entered rest
  | entered, .sources _ :: rest => asked name entered rest

/-! ## The invariant -/

/-- What holds of all groups of a service: each has the service's registry and a root context, and
no two share a logger. -/
structure Wired (registry : Registry) (site : Site) (d : Dispatch) : Prop where
  rooted : ∀ group ∈ d.groups,
    group.registry = registry ∧ ∃ logger, group.context = .ofRoot logger site
  fresh : ∀ group ∈ d.groups, group.context.logger.identity < d.session.nextIdentity
  apart : d.groups.Pairwise fun a b => a.context.logger.identity ≠ b.context.logger.identity

theorem wired_begin (registry : Registry) (site : Site) (s : Session) :
    Wired registry site ⟨s, []⟩ where
  rooted _ hGroup := absurd hGroup List.not_mem_nil
  fresh _ hGroup := absurd hGroup List.not_mem_nil
  apart := .nil

section Steps

variable {registry : Registry} {site : Site} {d : Dispatch}

/-- Entering adds one group, whose root context takes the next identity. -/
theorem step_enter (registry : Registry) (site : Site) (d : Dispatch) :
    ∃ t logger, d.step ⟨registry, .recording⟩ site .enter =
        (.entered (.ok ()), ⟨t, d.groups ++ [⟨registry, .ofRoot logger site⟩]⟩) ∧
      logger.identity = d.session.nextIdentity ∧
      t.nextIdentity = d.session.nextIdentity + 1 ∧
      Entry.calls t.journal =
        Entry.calls d.session.journal ++ [.logSetUp site.console.uname dataGroup] := by
  obtain ⟨t, hEnter, hNext, hCalls⟩ :=
    DataService.result_enter_recording registry site d.session
  refine ⟨t, .make d.session.nextIdentity dataGroup site.logLevel site.console, ?_, rfl, hNext,
    hCalls⟩
  unfold step
  rw [hEnter]

theorem step_absent {service : DataService} {i : Nat} (hAbsent : d.groups[i]? = none)
    (name : String) : d.step service site (.get i name) = (.noGroup, d) := by
  simp only [step, hAbsent]

/-- Asking for a name without a source ends the span of the get and does nothing else. -/
theorem step_get_unregistered {service : DataService} {i : Nat} {group : Group} {name : String}
    {e : RegistryError} (hGroup : d.groups[i]? = some group)
    (hFind : group.registry.find name = .error e) :
    d.step service site (.get i name) =
      (.got (.error (.registry e)),
        ⟨d.session.add (.closed (Group.getSpan name) d.session.spans), d.groups⟩) := by
  have hGet := Group.result_get (rfl : Context.child "get" (some group.context) = .ok _) name
    d.session
  rw [hFind] at hGet
  simp only [step, hGroup, hGet]

/-- Asking for a source that is there: its attempt, in the child of the group's context. -/
theorem step_get_eq (service : DataService) (site : Site) {i : Nat} {group : Group}
    {name : String} {source : Source} (hGroup : d.groups[i]? = some group)
    (hFind : group.registry.find name = .ok source) :
    let a := source.attempt name group.context.below d.session.files
    d.step service site (.get i name) =
      (.got (a.value.mapError .source),
        ⟨d.session.after a.files
          (group.context.logger.entries a.uttered (d.session.spans ++ [Group.getSpan name]) ++
            [.closed (Group.getSpan name) d.session.spans]), d.groups⟩) := by
  have hChild : Context.child "get" (some group.context) = .ok group.context.below := rfl
  have hGet := Group.result_get hChild name d.session
  rw [hFind] at hGet
  simp only [step, hGroup, hGet]
  rfl

/-- Of calls, asking for a source tells what its attempt notes. -/
theorem calls_step_get (service : DataService) (site : Site) {i : Nat} {group : Group}
    {name : String} {source : Source} (hGroup : d.groups[i]? = some group)
    (hFind : group.registry.find name = .ok source) :
    Entry.calls (d.step service site (.get i name)).2.session.journal =
      Entry.calls d.session.journal ++
        Entry.ofNotes (source.attempt name group.context.below d.session.files).notes := by
  rw [step_get_eq service site hGroup hFind]
  -- the end of the span comes after the attempt and is no call
  rw [Session.after_journal, Entry.calls_append, Entry.calls_append, Logger.calls_entries]
  exact congrArg _ (List.append_nil _)

theorem step_sources (service : DataService) (i : Nat) :
    (d.step service site (.sources i)).2 = d := by
  rw [step]
  rcases d.groups[i]? with _ | group
  · rfl
  · rfl

theorem Wired.session (hWired : d.Wired registry site) {s : Session}
    (hNext : d.session.nextIdentity ≤ s.nextIdentity) : Wired registry site ⟨s, d.groups⟩ where
  rooted := hWired.rooted
  fresh group hGroup := Nat.lt_of_lt_of_le (hWired.fresh group hGroup) hNext
  apart := hWired.apart

theorem Wired.enter (hWired : d.Wired registry site) {s : Session} {logger : Logger}
    (hLogger : logger.identity = d.session.nextIdentity)
    (hNext : s.nextIdentity = d.session.nextIdentity + 1) :
    Wired registry site ⟨s, d.groups ++ [⟨registry, .ofRoot logger site⟩]⟩ where
  rooted group hGroup := by
    rcases List.mem_append.mp hGroup with hGroup | hGroup
    · exact hWired.rooted group hGroup
    · obtain rfl := List.mem_singleton.mp hGroup
      exact ⟨rfl, logger, rfl⟩
  fresh group hGroup := by
    show _ < s.nextIdentity
    rcases List.mem_append.mp hGroup with hGroup | hGroup
    · have hLess := hWired.fresh group hGroup
      omega
    · obtain rfl := List.mem_singleton.mp hGroup
      show logger.identity < _
      omega
  apart := by
    refine List.pairwise_append.mpr ⟨hWired.apart, List.pairwise_singleton .., ?_⟩
    -- no group has the identity of the new one yet
    intro group hGroup last hLast
    obtain rfl := List.mem_singleton.mp hLast
    exact Nat.ne_of_lt (hLogger ▸ hWired.fresh group hGroup)

/-! ## What one step tells -/

/-- What a step tells of calls: entering calls the runtime log; a get of a registered source from a
group that is there is one attempt of the source in a child of the group's context; nothing else
tells of calls. -/
inductive Tells (registry : Registry) (site : Site) (d : Dispatch) : Step → List Entry → Prop where
  | enter : Tells registry site d .enter [.logSetUp site.console.uname dataGroup]
  | sources {i : Nat} : Tells registry site d (.sources i) []
  | absent {i : Nat} {name : String} :
    d.groups[i]? = none → Tells registry site d (.get i name) []
  | unregistered {i : Nat} {name : String} {e : RegistryError} :
    registry.find name = .error e → Tells registry site d (.get i name) []
  | registered {i : Nat} {name : String} {group : Group} {source : Source} :
    d.groups[i]? = some group → registry.find name = .ok source →
    Tells registry site d (.get i name)
      (Entry.ofNotes (source.attempt name group.context.below d.session.files).notes)

/-- One step keeps the invariant, adds to the journal and tells of those calls. -/
theorem Wired.step (hWired : d.Wired registry site) (next : Step) :
    let after := (d.step ⟨registry, .recording⟩ site next).2
    Wired registry site after ∧
      ∃ calls, Entry.calls after.session.journal = Entry.calls d.session.journal ++ calls ∧
        Tells registry site d next calls := by
  cases next with
  | enter =>
    obtain ⟨t, logger, hStep, hLogger, hNext, hCalls⟩ := step_enter registry site d
    rw [hStep]
    exact ⟨hWired.enter hLogger hNext, _, hCalls, .enter⟩
  | sources i =>
    rw [step_sources]
    exact ⟨hWired, [], (List.append_nil _).symm, .sources⟩
  | get i name =>
    rcases hGroup : d.groups[i]? with _ | group
    · rw [step_absent hGroup]
      exact ⟨hWired, [], (List.append_nil _).symm, .absent hGroup⟩
    · obtain ⟨hRegistry, -⟩ := hWired.rooted group (List.mem_of_getElem? hGroup)
      rcases hFind : group.registry.find name with e | source
      · rw [step_get_unregistered hGroup hFind]
        refine ⟨hWired.session (Nat.le_refl _), [], ?_, .unregistered (hRegistry ▸ hFind)⟩
        exact Entry.calls_append
      · refine ⟨?_, _, calls_step_get _ site hGroup hFind, .registered hGroup (hRegistry ▸ hFind)⟩
        rw [step_get_eq _ site hGroup hFind]
        exact hWired.session (Nat.le_refl _)

section Counts

variable {next : Step} {calls : List Entry} {name : String} {source : Source} {counter : Nat}

/-- Sources note nothing of the runtime log. -/
theorem setUps_ofNotes (notes : List (Nat × Note)) : Entry.setUps (Entry.ofNotes notes) = [] := by
  rw [Entry.setUps, Entry.ofNotes, List.filterMap_map]
  exact List.filterMap_eq_nil_iff.mpr fun _ _ => rfl

theorem setUps_of_tells (hTells : Tells registry site d next calls) :
    Entry.setUps calls =
      List.replicate ([next].count .enter) (site.console.uname, dataGroup) := by
  cases hTells with
  | enter => rfl
  | sources => rfl
  | absent => rfl
  | unregistered => rfl
  | registered => exact setUps_ofNotes _

/-- On a counter that is left to one source a step notes what the source's attempt notes, if the
source was asked for. -/
theorem notes_of_tells (hTells : Tells registry site d next calls)
    (hFind : registry.find name = .ok source) (hReserves : registry.Reserves name counter)
    (told : Context → List Note)
    (hTold : ∀ context files, source.notesOn name counter context files = told context) :
    Entry.notes calls counter =
      (asked name d.groups.length [next]).flatMap fun i =>
        (d.groups[i]?.map fun group => told group.context.below).getD [] := by
  cases hTells with
  | enter => rfl
  | sources => rfl
  | absent hAbsent =>
    have hPast := List.getElem?_eq_none_iff.mp hAbsent
    simp [asked, Nat.not_lt.mpr hPast, Entry.notes]
  | @unregistered i other e hOther =>
    have hName : other ≠ name := by
      rintro rfl
      cases hFind.symm.trans hOther
    simp [asked, hName, Entry.notes]
  | @registered i other group found hGroup hFound =>
    obtain ⟨hThere, -⟩ := List.getElem?_eq_some_iff.mp hGroup
    by_cases hName : other = name
    · -- the source itself is asked for
      obtain rfl := hName
      obtain rfl := Except.ok.inj (hFind.symm.trans hFound)
      have hNotes := hTold group.context.below d.session.files
      rw [Source.notesOn] at hNotes
      rw [List.getElem?_eq_getElem hThere] at hGroup
      obtain rfl := Option.some.inj hGroup
      simp [asked, hThere, hNotes]
    · have hNotes := hReserves other found hFound hName other group.context.below d.session.files
      rw [Source.notesOn] at hNotes
      simp [asked, hName, hNotes]

end Counts

/-! ## Runs -/

theorem run_cons (service : DataService) (site : Site) (d : Dispatch) (next : Step)
    (rest : List Step) :
    d.run service site (next :: rest) = (d.step service site next).2.run service site rest := rfl

/-- Entering adds one group behind those that are there, and nothing else adds any. -/
theorem groups_step (registry : Registry) (site : Site) (d : Dispatch) (next : Step) :
    ∃ more, (d.step ⟨registry, .recording⟩ site next).2.groups = d.groups ++ more ∧
      more.length = [next].count .enter := by
  cases next with
  | enter =>
    obtain ⟨t, logger, hStep, -⟩ := step_enter registry site d
    exact ⟨_, by rw [hStep], rfl⟩
  | sources i => exact ⟨[], by rw [step_sources, List.append_nil], rfl⟩
  | get i name =>
    refine ⟨[], ?_, rfl⟩
    rw [step, List.append_nil]
    rcases d.groups[i]? with _ | group
    · rfl
    · rfl

theorem asked_cons (name : String) (entered : Nat) (next : Step) (rest : List Step) :
    asked name entered (next :: rest) =
      asked name entered [next] ++ asked name (entered + [next].count .enter) rest := by
  cases next with
  | enter => rfl
  | get i source => simp [asked]
  | sources i => rfl

/-- One step asks only a group that is there. -/
theorem lt_of_mem_asked_singleton {name : String} {entered : Nat} {next : Step} {i : Nat}
    (hAsked : i ∈ asked name entered [next]) : i < entered := by
  cases next with
  | enter => exact absurd hAsked List.not_mem_nil
  | sources _ => exact absurd hAsked List.not_mem_nil
  | get j source =>
    rw [asked, asked, List.append_nil] at hAsked
    split at hAsked
    next h =>
      obtain rfl := List.mem_singleton.mp hAsked
      exact h.1
    next => exact absurd hAsked List.not_mem_nil

theorem lt_of_mem_asked {name : String} {entered : Nat} {steps : List Step} {i : Nat}
    (hAsked : i ∈ asked name entered steps) : i < entered + steps.count .enter := by
  induction steps generalizing entered with
  | nil => exact absurd hAsked List.not_mem_nil
  | cons next rest ih =>
    have hCount : (next :: rest).count .enter = [next].count .enter + rest.count .enter := by
      rw [← List.singleton_append, List.count_append]
    rw [asked_cons] at hAsked
    rcases List.mem_append.mp hAsked with hFirst | hLater
    · have hThere := lt_of_mem_asked_singleton hFirst
      omega
    · have hThere := ih hLater
      omega

theorem Wired.run (hWired : d.Wired registry site) (steps : List Step) :
    (d.run ⟨registry, .recording⟩ site steps).Wired registry site := by
  induction steps generalizing d with
  | nil => exact hWired
  | cons next rest ih => exact ih (hWired.step next).1

/-- A run keeps the groups that were there and adds one each time the group is entered. -/
theorem groups_run (registry : Registry) (site : Site) (d : Dispatch) (steps : List Step) :
    ∃ more, (d.run ⟨registry, .recording⟩ site steps).groups = d.groups ++ more ∧
      more.length = steps.count .enter := by
  induction steps generalizing d with
  | nil => exact ⟨[], (List.append_nil _).symm, rfl⟩
  | cons next rest ih =>
    obtain ⟨more, hGroups, hMore⟩ := groups_step registry site d next
    obtain ⟨later, hLater, hCount⟩ := ih (d.step ⟨registry, .recording⟩ site next).2
    refine ⟨more ++ later, by rw [run_cons, hLater, hGroups, List.append_assoc], ?_⟩
    rw [List.length_append, hMore, hCount, ← List.count_append]
    rfl

theorem length_groups_run (registry : Registry) (site : Site) (d : Dispatch)
    (steps : List Step) :
    (d.run ⟨registry, .recording⟩ site steps).groups.length =
      d.groups.length + steps.count .enter := by
  obtain ⟨more, hGroups, hMore⟩ := groups_run registry site d steps
  rw [hGroups, List.length_append, hMore]

/-- A run asks the runtime log once each time the group is entered. -/
theorem Wired.setUps_run (hWired : d.Wired registry site) (steps : List Step) :
    Entry.setUps (d.run ⟨registry, .recording⟩ site steps).session.journal =
      Entry.setUps d.session.journal ++
        List.replicate (steps.count .enter) (site.console.uname, dataGroup) := by
  induction steps generalizing d with
  | nil => exact (List.append_nil _).symm
  | cons next rest ih =>
    obtain ⟨hAfter, calls, hCalls, hTells⟩ := hWired.step next
    rw [run_cons, ih hAfter, ← Entry.setUps_calls, hCalls, Entry.setUps_append,
      Entry.setUps_calls, setUps_of_tells hTells, List.append_assoc,
      List.replicate_append_replicate, ← List.count_append]
    rfl

/-- On a counter that is left to one source a run notes what each attempt of the source notes, in
the order in which the groups were asked for it. -/
theorem Wired.notes_run {name : String} {source : Source} {counter : Nat}
    (hWired : d.Wired registry site) (hFind : registry.find name = .ok source)
    (hReserves : registry.Reserves name counter) (told : Context → List Note)
    (hTold : ∀ context files, source.notesOn name counter context files = told context)
    (steps : List Step) :
    let last := d.run ⟨registry, .recording⟩ site steps
    Entry.notes last.session.journal counter =
      Entry.notes d.session.journal counter ++
        (asked name d.groups.length steps).flatMap fun i =>
          (last.groups[i]?.map fun group => told group.context.below).getD [] := by
  -- by induction on the steps: the groups entered so far are those that the next step can ask
  induction steps generalizing d with
  | nil => exact (List.append_nil _).symm
  | cons next rest ih =>
    intro last
    obtain ⟨hAfter, calls, hCalls, hTells⟩ := hWired.step next
    obtain ⟨more, hGroups, hMore⟩ := groups_step registry site d next
    have hStep : Entry.notes (d.step ⟨registry, .recording⟩ site next).2.session.journal counter =
        Entry.notes d.session.journal counter ++ Entry.notes calls counter := by
      rw [← Entry.notes_calls, hCalls, Entry.notes_append, Entry.notes_calls]
    -- a group that the step asks is still the same at the end
    have hStill : Entry.notes calls counter =
        (asked name d.groups.length [next]).flatMap fun i =>
          (last.groups[i]?.map fun group => told group.context.below).getD [] := by
      rw [notes_of_tells hTells hFind hReserves told hTold]
      obtain ⟨later, hLater, -⟩ := groups_run registry site d (next :: rest)
      refine List.flatMap_congr fun i hAsked => ?_
      rw [show last.groups = d.groups ++ later from hLater,
        List.getElem?_append_left (lt_of_mem_asked_singleton hAsked)]
    have hRest := ih hAfter
    rw [hStep, hStill, hGroups, List.length_append, hMore] at hRest
    rw [asked_cons, List.flatMap_append, ← List.append_assoc]
    exact hRest

/-- The groups that are asked during a run are there at its end. -/
theorem lt_of_mem_asked_run {name : String} {steps : List Step} {i : Nat}
    (hAsked : i ∈ asked name d.groups.length steps) :
    i < (d.run ⟨registry, .recording⟩ site steps).groups.length :=
  length_groups_run registry site d steps ▸ lt_of_mem_asked hAsked

/-- A counting source with a counter to itself is built and run as often as it is asked for. -/
theorem Wired.counts_run {name label about : String} {counter : Nat} {fails : Bool}
    (hWired : d.Wired registry site)
    (hFind : registry.find name = .ok (.counting counter label about fails))
    (hReserves : registry.Reserves name counter) (steps : List Step) :
    let last := d.run ⟨registry, .recording⟩ site steps
    let times := (asked name d.groups.length steps).length
    Entry.builds last.session.journal counter = Entry.builds d.session.journal counter + times ∧
      Entry.runs last.session.journal counter = Entry.runs d.session.journal counter + times := by
  intro last times
  have hNotes := hWired.notes_run hFind hReserves (fun _ => [.built, .ran])
    (fun _ _ => Source.notesOn_counting label about fails) steps
  have hBoth : ∀ i ∈ asked name d.groups.length steps,
      ((last.groups[i]?.map fun _ => [Note.built, .ran]).getD []) = [.built, .ran] := by
    intro i hAsked
    rw [List.getElem?_eq_getElem (lt_of_mem_asked_run hAsked)]
    rfl
  dsimp only at hNotes
  rw [List.flatMap_congr hBoth] at hNotes
  rw [Entry.builds, Entry.runs, hNotes, List.count_append, List.count_append]
  simp [List.count_flatMap, Function.comp_def, Entry.builds, Entry.runs, times]

/-- A source that is watched is built for children of the root contexts of the groups asked. -/
theorem Wired.seen_run {name : String} {source : Source} {counter : Nat}
    (hWired : d.Wired registry site) (hFind : registry.find name = .ok (source.watched counter))
    (hSpares : source.Spares counter) (hReserves : registry.Reserves name counter)
    (steps : List Step) :
    let last := d.run ⟨registry, .recording⟩ site steps
    (Entry.seen last.session.journal counter).map (·.parent?) =
      (Entry.seen d.session.journal counter).map (·.parent?) ++
        (asked name d.groups.length steps).map fun i => last.groups[i]?.map (·.context) := by
  intro last
  have hTold : ∀ context files,
      (source.watched counter).notesOn name counter context files = [.saw context] := by
    intro context files
    rw [Source.notesOn_watched, hSpares name context files, if_pos rfl]
    rfl
  have hNotes := hWired.notes_run hFind hReserves (fun context => [.saw context]) hTold steps
  rw [Entry.seen, hNotes, List.filterMap_append, List.map_append, List.filterMap_flatMap,
    List.map_flatMap]
  refine congrArg (_ ++ ·) ?_
  rw [List.map_eq_flatMap (l := asked name d.groups.length steps)]
  refine List.flatMap_congr fun i hAsked => ?_
  rw [List.getElem?_eq_getElem (lt_of_mem_asked_run hAsked)]
  rfl

end Steps

/-- A history of the service with a recording runtime log, whatever sources there are.

The runtime log is called once each time the group is entered and never else.  A counting source
with a counter to itself is built and run once for each get of it from a group that is there,
however the gets end.  A source that is watched is built for children of the root contexts of the
very groups that were asked for it, in that order.  A get of a name without a source says so, and
nothing is built or run; a get of another name is one call of the source for a child of the group's
root context, and one run of the extension if there is one: the answer is what these come to, errors
unchanged, and what is left and noted is what these leave and note. -/
theorem dispatch_accounting (registry : Registry) (site : Site) (start : Session)
    (steps : List Step) :
    let service : DataService := ⟨registry, .recording⟩
    let d : Dispatch := run service site ⟨start, []⟩ steps
    -- the runtime log
    Entry.setUps d.session.journal = Entry.setUps start.journal ++
      List.replicate (steps.count .enter) (site.console.uname, "data") ∧
    -- counting sources
    (∀ name counter label about fails,
      registry.find name = .ok (.counting counter label about fails) →
      registry.Reserves name counter →
      Entry.builds d.session.journal counter =
        Entry.builds start.journal counter + (asked name 0 steps).length ∧
      Entry.runs d.session.journal counter =
        Entry.runs start.journal counter + (asked name 0 steps).length) ∧
    -- what any source is built for
    (∀ name counter (source : Source), registry.find name = .ok (source.watched counter) →
      source.Spares counter → registry.Reserves name counter →
      (Entry.seen d.session.journal counter).map (·.parent?) =
        (Entry.seen start.journal counter).map (·.parent?) ++
          (asked name 0 steps).map fun i => d.groups[i]?.map (·.context)) ∧
    -- the groups: one for each time of entering, each with a root context of its own
    d.groups.length = steps.count .enter ∧
    (∀ group ∈ d.groups, group.context.isRoot = true) ∧
    (d.groups.Pairwise fun a b => a.context.logger.identity ≠ b.context.logger.identity) ∧
    -- one more get from a group that is there
    (∀ (i : Nat) (group : Group), d.groups[i]? = some group → ∀ name : String,
      let answer := (d.step service site (.get i name)).1
      let after := (d.step service site (.get i name)).2
      (name ∉ registry.names →
        answer = .got (.error (.registry (.notRegistered name))) ∧
          after.session.files = d.session.files ∧
          Entry.calls after.session.journal = Entry.calls d.session.journal) ∧
      (∀ source, registry.find name = .ok source →
        ∃ context, context.parent? = some group.context ∧
          let built := (source.build context).outcome d.session.files
          match built.value with
          | .error e =>
            answer = .got (.error (.source e)) ∧ after.session.files = built.files ∧
              Entry.calls after.session.journal =
                Entry.calls d.session.journal ++ Entry.ofNotes built.notes
          | .ok extension =>
            let ran := Routine.outcome extension built.files
            answer = .got (ran.value.mapError .source) ∧ after.session.files = ran.files ∧
              Entry.calls after.session.journal =
                Entry.calls d.session.journal ++ Entry.ofNotes (built.notes ++ ran.notes))) := by
  intro service d
  have hWired : Wired registry site d := (wired_begin registry site start).run steps
  have hSteps := wired_begin registry site start
  have hLength : d.groups.length = steps.count .enter :=
    (length_groups_run registry site ⟨start, []⟩ steps).trans (Nat.zero_add _)
  refine ⟨hSteps.setUps_run steps, fun name counter label about fails hFind hReserves => ?_,
    fun name counter source hFind hSpares hReserves => ?_, hLength, fun group hGroup => ?_,
    hWired.apart, fun i group hGroup name => ⟨fun hName => ?_, fun source hFind => ?_⟩⟩
  · exact hSteps.counts_run hFind hReserves steps
  · exact hSteps.seen_run hFind hSpares hReserves steps
  · obtain ⟨-, logger, hContext⟩ := hWired.rooted group hGroup
    rw [hContext]
    rfl
  · obtain ⟨hRegistry, -⟩ := hWired.rooted group (List.mem_of_getElem? hGroup)
    have hFind := Registry.find_of_not_mem_names hName
    rw [step_get_unregistered hGroup (hRegistry ▸ hFind)]
    exact ⟨rfl, rfl, Entry.calls_append.trans (List.append_nil _)⟩
  · obtain ⟨hRegistry, -⟩ := hWired.rooted group (List.mem_of_getElem? hGroup)
    refine ⟨group.context.below, group.context.parent?_below, ?_⟩
    rw [calls_step_get service site hGroup (hRegistry ▸ hFind),
      step_get_eq service site hGroup (hRegistry ▸ hFind)]
    dsimp only
    rcases hBuilt : ((source.build group.context.below).outcome d.session.files).value
      with e | extension
    · rw [Source.attempt_of_build_error hBuilt]
      exact ⟨rfl, rfl, rfl⟩
    · rw [Source.attempt_of_build_ok hBuilt]
      refine ⟨by rw [Extension.value_attempt], extension.files_attempt name _, ?_⟩
      -- the messages of the service stand between the notes of the two
      rw [← Extension.notes_attempt extension name]
      exact congrArg (_ ++ Entry.ofNotes ·) (Utterance.notes_append ..)

/-- A counting source that fails, one that is watched and cannot build its extension, and a counting
source that works. -/
def sampleRegistry : Registry where
  entries :=
    [⟨"csv", .counting 0 "csv" "" true⟩,
      ⟨"none", .watched 1 ⟨"", fun _ => .done (.error (.failed "none" "no extension"))⟩⟩,
      ⟨"rest", .counting 2 "rest" "" false⟩]
  sorted := by decide
  valid := by decide

/-- Two times in the group, with gets that fail in all ways and one from a group not yet entered. -/
def sampleSteps : List Step :=
  [.get 0 "csv", .enter, .get 0 "csv", .get 0 "rest", .enter, .sources 1, .get 1 "none",
    .get 1 "csv", .get 0 "none", .get 0 "json"]

theorem dispatch_accounting_sample :
    let d : Dispatch := run ⟨sampleRegistry, .recording⟩ (.ofHome 0 (.ofString "/u") .info)
      ⟨.begin .empty, []⟩ sampleSteps
    Entry.setUps d.session.journal =
        [("system/service/console/live", "data"), ("system/service/console/live", "data")] ∧
      Entry.builds d.session.journal 0 = 2 ∧ Entry.runs d.session.journal 0 = 2 ∧
      Entry.builds d.session.journal 2 = 1 ∧ Entry.runs d.session.journal 2 = 1 ∧
      (Entry.seen d.session.journal 1).map (·.parent?) =
        [d.groups[1]?.map (·.context), d.groups[0]?.map (·.context)] ∧
      (d.step ⟨sampleRegistry, .recording⟩ (.ofHome 0 (.ofString "/u") .info)
          (.get 1 "json")).1 = .got (.error (.registry (.notRegistered "json"))) ∧
      (d.step ⟨sampleRegistry, .recording⟩ (.ofHome 0 (.ofString "/u") .info)
          (.get 1 "none")).1 = .got (.error (.source (.failed "none" "no extension"))) ∧
      (d.step ⟨sampleRegistry, .recording⟩ (.ofHome 0 (.ofString "/u") .info)
          (.get 0 "csv")).1 = .got (.error (.source (.failed "csv" "simulated failure"))) := by
  intro d
  obtain ⟨hLog, hCounts, hSeen, -, -, -, hGets⟩ :=
    dispatch_accounting sampleRegistry (.ofHome 0 (.ofString "/u") .info) (.begin .empty)
      sampleSteps
  -- each source has its own counter
  have hCsv (counter) (h : 0 ≠ counter) : (Source.counting 0 "csv" "" true).Spares counter :=
    Source.spares_counting h "csv" "" true
  have hRest (counter) (h : 2 ≠ counter) : (Source.counting 2 "rest" "" false).Spares counter :=
    Source.spares_counting h "rest" "" false
  have hNone (counter) (h : 1 ≠ counter) : (Source.watched 1
      ⟨"", fun _ => .done (.error (.failed "none" "no extension"))⟩).Spares counter :=
    Source.spares_watched h fun _ _ _ => rfl
  obtain ⟨hBuilds, hRuns⟩ := hCounts "csv" 0 "csv" "" true rfl
    (Registry.reserves_of_entries (by simp [sampleRegistry, hRest, hNone]))
  obtain ⟨hBuildsRest, hRunsRest⟩ := hCounts "rest" 2 "rest" "" false rfl
    (Registry.reserves_of_entries (by simp [sampleRegistry, hCsv, hNone]))
  refine ⟨hLog, hBuilds, hRuns, hBuildsRest, hRunsRest, ?_, ?_, ?_, ?_⟩
  · exact hSeen "none" 1 _ rfl (fun _ _ _ => rfl)
      (Registry.reserves_of_entries (by simp [sampleRegistry, hCsv, hRest]))
  · exact ((hGets 1 _ rfl "json").1 (by decide)).1
  · obtain ⟨context, -, hAnswer, -⟩ := (hGets 1 _ rfl "none").2 _ rfl
    exact hAnswer
  · obtain ⟨context, -, hAnswer, -⟩ := (hGets 0 _ rfl "csv").2 _ rfl
    exact hAnswer

end Dispatch

end MarketFeed
