import Mathlib.Data.List.Induction
import MarketFeed.Proofs.Session.Journal

/-!
# Groves of contexts

Root contexts and children of theirs, made in any order from one site.  Whatever is made, and
whatever fails in between, a context is told by its root context and by how far below that it
stands.

* `Context.ancestors`, `Context.rootAncestor` — what stands above a context.
* `Grove`             — the contexts made so far, each with its lineage.
* `Grove.step`, `Grove.run` — making one more, and making many.
* `Grove.Grown`       — the invariant: the frames of a lineage are those of its root, and lineages
                        are told apart by the identities of their loggers.
* `grown_run`         — every run keeps it.
* `grove_of_run`      — what follows for all contexts of a run, and for its next step.
-/

namespace MarketFeed

namespace Context

/-! ## Ancestors -/

/-- The contexts that frames stand for, each below the next. -/
def chain : List Frame → List Context
  | [] => []
  | frame :: above => ⟨frame, above⟩ :: chain above

/-- The contexts above this one: its parent, the parent's parent and so on. -/
def ancestors (c : Context) : List Context := chain c.above

/-- The last of the contexts above this one; a root is its own. -/
def rootAncestor (c : Context) : Context := c.ancestors.getLast?.getD c

/-- Above a context there are its parent and what is above that. -/
theorem ancestors_eq (c : Context) :
    c.ancestors = match c.parent? with
      | none => []
      | some parent => parent :: parent.ancestors := by
  obtain ⟨frame, above⟩ := c
  cases above <;> rfl

theorem length_chain (above : List Frame) : (chain above).length = above.length := by
  induction above with
  | nil => rfl
  | cons frame above ih => rw [chain, List.length_cons, List.length_cons, ih]

theorem length_ancestors (c : Context) : c.ancestors.length = c.depth := length_chain c.above

theorem isRoot_iff {c : Context} : c.isRoot = true ↔ c.depth = 0 := by
  rw [isRoot, List.isEmpty_iff, depth, List.length_eq_zero_iff]

/-- The context that many child steps make of the root context of a frame. -/
def descendant (frame : Frame) (steps : Nat) : Context := ⟨frame, List.replicate steps frame⟩

theorem getLast?_chain_replicate (frame : Frame) (steps : Nat) :
    (chain (List.replicate (steps + 1) frame)).getLast? = some ⟨frame, []⟩ := by
  induction steps with
  | zero => rfl
  | succ steps ih => rw [List.replicate_succ, chain, List.getLast?_cons, ih]; rfl

theorem rootAncestor_descendant (frame : Frame) (steps : Nat) :
    (descendant frame steps).rootAncestor = ⟨frame, []⟩ := by
  cases steps with
  | zero => rfl
  | succ steps =>
    rw [rootAncestor, ancestors, descendant, getLast?_chain_replicate]
    rfl

theorem depth_descendant (frame : Frame) (steps : Nat) : (descendant frame steps).depth = steps :=
  List.length_replicate ..

theorem child_descendant (command : String) (frame : Frame) (steps : Nat) :
    child command (some (descendant frame steps)) = .ok (descendant frame (steps + 1)) := rfl

end Context

/-! ## Groves -/

/-- A context with its lineage: the number of the root context it was derived from, which is its
own if it is a root, and how many child steps led to it. -/
structure Derived where
  context : Context
  root : Nat
  steps : Nat

/-- The contexts made so far, by number, and the session that they were made in. -/
structure Grove where
  session : Session
  made : List Derived

namespace Grove

/-- One attempt to make a context: a root context with a label, whose runtime log may refuse, or a
child of the context with some number, or of none. -/
inductive Step where
  | root (label : String) (log : RuntimeLog)
  | child (command : String) (parent : Option Nat)

/-- Answers an attempt and keeps the context that was made, if one was. -/
def keep (g : Grove) (s : Session) (root steps : Nat) (answer : Except ServiceError Context) :
    Option (Except ServiceError Context) × Grove :=
  (some answer, ⟨s, match answer with
    | .ok context => g.made ++ [⟨context, root, steps⟩]
    | .error _ => g.made⟩)

/-- Does one step; there is no answer where a child is asked for of a context that is not there. -/
def step (site : Site) (g : Grove) : Step → Option (Except ServiceError Context) × Grove
  | .root label log =>
    let r := (Context.root label site log).result g.session
    g.keep r.2 g.made.length 0 r.1
  | .child command none => g.keep g.session g.made.length 0 (Context.child command none)
  | .child command (some i) =>
    match g.made[i]? with
    | none => (none, g)
    | some d => g.keep g.session d.root (d.steps + 1) (Context.child command (some d.context))

/-- Does steps one after the other. -/
def run (site : Site) (g : Grove) (steps : List Step) : Grove :=
  steps.foldl (fun g step => (g.step site step).2) g

/-- The labels of the root contexts that steps ask for. -/
def labels (steps : List Step) : List String :=
  steps.filterMap fun
    | .root label _ => some label
    | .child _ _ => none

theorem labels_append (first second : List Step) :
    labels (first ++ second) = labels first ++ labels second := List.filterMap_append ..

/-! ## What a step comes to -/

theorem step_root (site : Site) (g : Grove) (label : String) (log : RuntimeLog) :
    let s := ((Context.root label site log).result g.session).2
    g.step site (.root label log) =
      match (log.setUp site.console label g.session.files).result with
      | .error e => (some (.error (.logSetup site.console.uname e)), ⟨s, g.made⟩)
      | .ok () =>
        let logger := Logger.make g.session.nextIdentity label site.logLevel site.console
        (some (.ok (.ofRoot logger site)),
          ⟨s, g.made ++ [⟨.ofRoot logger site, g.made.length, 0⟩]⟩) := by
  intro s
  show g.keep s g.made.length 0 ((Context.root label site log).result g.session).1 = _
  rw [congrArg Prod.fst (Context.result_root label site log g.session)]
  dsimp only
  rcases (log.setUp site.console label g.session.files).result with e | ⟨⟩
  · rfl
  · rfl

theorem step_child_none (site : Site) (g : Grove) (command : String) :
    g.step site (.child command none) = (some (.error (.missingParent command)), g) := rfl

theorem step_child_some {site : Site} {g : Grove} {i : Nat} {d : Derived}
    (hMade : g.made[i]? = some d) (command : String) :
    ∃ c, Context.child command (some d.context) = .ok c ∧
      g.step site (.child command (some i)) =
        (some (.ok c), ⟨g.session, g.made ++ [⟨c, d.root, d.steps + 1⟩]⟩) := by
  refine ⟨_, rfl, ?_⟩
  simp only [step, hMade]
  rfl

theorem step_child_absent {site : Site} {g : Grove} {i : Nat} (hAbsent : g.made[i]? = none)
    (command : String) : g.step site (.child command (some i)) = (none, g) := by
  simp only [step, hAbsent]

/-- A root context takes the next identity, whether or not the runtime log refuses. -/
theorem nextIdentity_result_root (label : String) (site : Site) (log : RuntimeLog) (s : Session) :
    ((Context.root label site log).result s).2.nextIdentity = s.nextIdentity + 1 := by
  rw [Context.result_root]
  rfl

/-! ## The invariant -/

/-- What holds of every grove that grows from a site.  A context stands below its root context by
its steps and has that root's frame; a root context has what the site has; and two contexts have
one logger exactly if they have one root. -/
structure Grown (site : Site) (g : Grove) : Prop where
  rooted : ∀ d ∈ g.made, ∃ logger,
    d.context = Context.descendant (Context.ofRoot logger site).frame d.steps ∧
      g.made[d.root]? = some ⟨.ofRoot logger site, d.root, 0⟩
  fresh : ∀ d ∈ g.made, d.context.logger.identity < g.session.nextIdentity
  apart : ∀ d ∈ g.made, ∀ e ∈ g.made,
    d.context.logger.identity = e.context.logger.identity ↔ d.root = e.root

theorem grown_begin (site : Site) (s : Session) : Grown site ⟨s, []⟩ where
  rooted _ hd := absurd hd List.not_mem_nil
  fresh _ hd := absurd hd List.not_mem_nil
  apart _ hd := absurd hd List.not_mem_nil

variable {site : Site} {g : Grove}

theorem Grown.root_lt (hGrown : g.Grown site) {d : Derived} (hd : d ∈ g.made) :
    d.root < g.made.length := by
  obtain ⟨logger, -, hRoot⟩ := hGrown.rooted d hd
  exact (List.getElem?_eq_some_iff.mp hRoot).1

/-- The root of a context stays where it is when more contexts are made. -/
theorem Grown.rooted_append (hGrown : g.Grown site) (more : List Derived) {d : Derived}
    (hd : d ∈ g.made) : ∃ logger,
      d.context = Context.descendant (Context.ofRoot logger site).frame d.steps ∧
        (g.made ++ more)[d.root]? = some ⟨.ofRoot logger site, d.root, 0⟩ := by
  obtain ⟨logger, hContext, hRoot⟩ := hGrown.rooted d hd
  exact ⟨logger, hContext, by rw [List.getElem?_append_left (hGrown.root_lt hd), hRoot]⟩

theorem Grown.session (hGrown : g.Grown site) {s : Session}
    (hNext : g.session.nextIdentity ≤ s.nextIdentity) : Grown site ⟨s, g.made⟩ where
  rooted := hGrown.rooted
  fresh d hd := Nat.lt_of_lt_of_le (hGrown.fresh d hd) hNext
  apart := hGrown.apart

theorem Grown.root (hGrown : g.Grown site) (label : String) {s : Session}
    (hNext : s.nextIdentity = g.session.nextIdentity + 1) :
    Grown site ⟨s, g.made ++ [⟨.ofRoot
      (.make g.session.nextIdentity label site.logLevel site.console) site,
      g.made.length, 0⟩]⟩ where
  rooted d hd := by
    rcases List.mem_append.mp hd with hd | hd
    · exact hGrown.rooted_append _ hd
    · obtain rfl := List.mem_singleton.mp hd
      exact ⟨_, rfl, List.getElem?_concat_length ..⟩
  fresh d hd := by
    rcases List.mem_append.mp hd with hd | hd
    · have hLess := hGrown.fresh d hd
      show _ < s.nextIdentity
      omega
    · obtain rfl := List.mem_singleton.mp hd
      show g.session.nextIdentity < s.nextIdentity
      omega
  apart := by
    -- nothing that was there has the identity or the number of the new context
    have hOld : ∀ d ∈ g.made, ¬ d.context.logger.identity = g.session.nextIdentity ∧
        ¬ d.root = g.made.length := fun d hd =>
      ⟨Nat.ne_of_lt (hGrown.fresh d hd), Nat.ne_of_lt (hGrown.root_lt hd)⟩
    intro d hd e he
    rcases List.mem_append.mp hd with hd | hd
    · rcases List.mem_append.mp he with he | he
      · exact hGrown.apart d hd e he
      · obtain rfl := List.mem_singleton.mp he
        exact iff_of_false (hOld d hd).1 (hOld d hd).2
    · obtain rfl := List.mem_singleton.mp hd
      rcases List.mem_append.mp he with he | he
      · exact iff_of_false (fun h => (hOld e he).1 h.symm) fun h => (hOld e he).2 h.symm
      · obtain rfl := List.mem_singleton.mp he
        exact iff_of_true rfl rfl

theorem Grown.child (hGrown : g.Grown site) {p : Derived} (hp : p ∈ g.made) {command : String}
    {c : Context} (hChild : Context.child command (some p.context) = .ok c) :
    Grown site ⟨g.session, g.made ++ [⟨c, p.root, p.steps + 1⟩]⟩ := by
  -- the new context has its identity and its root from one that was there
  have hOld : ∀ d ∈ g.made ++ [⟨c, p.root, p.steps + 1⟩], ∃ q ∈ g.made,
      d.context.logger.identity = q.context.logger.identity ∧ d.root = q.root := by
    intro d hd
    rcases List.mem_append.mp hd with hd | hd
    · exact ⟨d, hd, rfl, rfl⟩
    · obtain rfl := List.mem_singleton.mp hd
      exact ⟨p, hp, congrArg (·.logger.identity) (Context.frame_child hChild), rfl⟩
  refine ⟨fun d hd => ?_, fun d hd => ?_, fun d hd e he => ?_⟩
  · -- the parent's frame is the frame of its root, and so is the child's
    rcases List.mem_append.mp hd with hd | hd
    · exact hGrown.rooted_append _ hd
    · obtain rfl := List.mem_singleton.mp hd
      obtain ⟨logger, hContext, hRoot⟩ := hGrown.rooted_append [⟨c, p.root, p.steps + 1⟩] hp
      rw [hContext, Context.child_descendant] at hChild
      exact ⟨logger, (Except.ok.inj hChild).symm, hRoot⟩
  · obtain ⟨q, hq, hIdentity, -⟩ := hOld d hd
    rw [hIdentity]
    exact hGrown.fresh q hq
  · obtain ⟨q, hq, hIdentity, hRoot⟩ := hOld d hd
    obtain ⟨r, hr, hIdentity', hRoot'⟩ := hOld e he
    rw [hIdentity, hIdentity', hRoot, hRoot']
    exact hGrown.apart q hq r hr

theorem Grown.step (hGrown : g.Grown site) (next : Step) : Grown site (g.step site next).2 := by
  cases next with
  | root label log =>
    have hNext := nextIdentity_result_root label site log g.session
    rw [step_root]
    rcases (log.setUp site.console label g.session.files).result with e | ⟨⟩
    · exact hGrown.session (by omega)
    · exact hGrown.root label hNext
  | child command parent =>
    rcases parent with _ | i
    · rw [step_child_none]
      exact hGrown
    · rcases hMade : g.made[i]? with _ | d
      · rw [step_child_absent hMade]
        exact hGrown
      · obtain ⟨c, hChild, hStep⟩ := step_child_some hMade command
        rw [hStep]
        exact hGrown.child (List.mem_of_getElem? hMade) hChild

theorem run_concat (site : Site) (g : Grove) (steps : List Step) (next : Step) :
    g.run site (steps ++ [next]) = ((g.run site steps).step site next).2 := by
  simp [run, List.foldl_append]

theorem grown_run (site : Site) (s : Session) (steps : List Step) :
    Grown site (run site ⟨s, []⟩ steps) := by
  -- by induction from the first step to the last: the last one grows what the others made
  induction steps using List.reverseRecOn with
  | nil => exact grown_begin site s
  | append_singleton steps next ih =>
    rw [run_concat]
    exact ih.step next

/-! ## The runtime log -/

/-- An attempt at a root context leaves the session that making one leaves, however it ends. -/
theorem session_step_root (site : Site) (g : Grove) (label : String) (log : RuntimeLog) :
    (g.step site (.root label log)).2.session =
      ((Context.root label site log).result g.session).2 := rfl

/-- A step for a child leaves the session as it is. -/
theorem session_step_child (site : Site) (g : Grove) (command : String) (parent : Option Nat) :
    (g.step site (.child command parent)).2.session = g.session := by
  rcases parent with _ | i
  · rw [step_child_none]
  · rcases hMade : g.made[i]? with _ | d
    · rw [step_child_absent hMade]
    · obtain ⟨c, -, hStep⟩ := step_child_some hMade command
      rw [hStep]

/-- A step calls the runtime log once for a root context and never for a child: what is noted is
what the log notes of that call. -/
theorem setUps_step (site : Site) (g : Grove) (next : Step) :
    Entry.setUps (g.step site next).2.session.journal =
      Entry.setUps g.session.journal ++ match next with
        | .root label log => (log.setUp site.console label g.session.files).asked
        | .child _ _ => [] := by
  cases next with
  | root label log => exact Context.setUps_result_root label site log g.session
  | child command parent => rw [session_step_child, List.append_nil]

/-- Where every runtime log notes its calls, a run makes one call for each root context that was
asked for. -/
theorem setUps_run (site : Site) (g : Grove) {steps : List Step}
    (hNotes : ∀ label log, .root label log ∈ steps → log.NotesCalls) :
    Entry.setUps (g.run site steps).session.journal =
      Entry.setUps g.session.journal ++ (labels steps).map (site.console.uname, ·) := by
  induction steps using List.reverseRecOn with
  | nil => exact (List.append_nil _).symm
  | append_singleton steps next ih =>
    have hFormer := ih fun label log hRoot => hNotes label log (List.mem_append_left _ hRoot)
    rw [run_concat, setUps_step, hFormer, labels_append, List.map_append, List.append_assoc]
    refine congrArg _ (congrArg _ ?_)
    cases next with
    | root label log => exact hNotes label log (List.mem_append_right _ (.head _)) _ _ _
    | child command parent => rfl

/-! ## Runs -/

/-- What a context has from its root context, and its root context from the site. -/
theorem Grown.inherits (hGrown : g.Grown site) {d : Derived} (hd : d ∈ g.made) :
    ∃ r, g.made[d.root]? = some r ∧ r.root = d.root ∧ r.steps = 0 ∧
      d.context.rootAncestor = r.context ∧ d.context.ancestors.length = d.steps ∧
      (d.context.isRoot = true ↔ d.steps = 0) ∧ d.context.frame = r.context.frame ∧
      ∃ logger, r.context = .ofRoot logger site := by
  obtain ⟨logger, hContext, hRoot⟩ := hGrown.rooted d hd
  refine ⟨_, hRoot, rfl, rfl, ?_, ?_, ?_, ?_, logger, rfl⟩
  · rw [hContext, Context.rootAncestor_descendant]
    rfl
  · rw [hContext, Context.length_ancestors, Context.depth_descendant]
  · rw [hContext, Context.isRoot_iff, Context.depth_descendant]
  · rw [hContext]
    rfl

/-- Contexts of a run, in whatever order they were made.

A context that some child steps led to has that many ancestors, the last of them its root context,
and it carries what the root context carries: one logger, low latency off, and the directories, the
locator and the locations of the site.  Contexts share a logger exactly if they have one root, and
all of them share the locator.  The runtime log was called once for each root context that was asked
for, and for nothing else: so say the logs that note their calls, and any log tells in one more step
what it tells in one call, and does to the files what it does in one.  A step that fails makes no
context and changes none. -/
theorem grove_of_run (site : Site) (start : Session) (steps : List Step) :
    let g : Grove := run site ⟨start, []⟩ steps
    -- each context that was made
    (∀ (i : Nat) (d : Derived), g.made[i]? = some d → ∃ r : Derived,
      g.made[d.root]? = some r ∧ r.root = d.root ∧ r.steps = 0 ∧
      d.context.rootAncestor = r.context ∧
      d.context.ancestors.length = d.steps ∧ (d.context.isRoot = true ↔ d.steps = 0) ∧
      d.context.frame = r.context.frame ∧
      r.context.frame.lowLatency = false ∧
      r.context.frame.runtimeDir = site.runtimeDir ∧
      r.context.frame.archiveDir = site.archiveDir ∧ r.context.frame.locator = site.locator ∧
      r.context.frame.config = site.config ∧ r.context.frame.console = site.console ∧
      r.context.frame.index = site.index) ∧
    -- each two of them
    (∀ (i j : Nat) (d e : Derived), g.made[i]? = some d → g.made[j]? = some e →
      (d.context.logger.identity = e.context.logger.identity ↔ d.root = e.root) ∧
      d.context.frame.locator.identity = e.context.frame.locator.identity) ∧
    -- the runtime log
    ((∀ label log, .root label log ∈ steps → log.NotesCalls) →
      Entry.setUps g.session.journal =
        Entry.setUps start.journal ++ (labels steps).map (site.console.uname, ·)) ∧
    -- one more step, of each kind
    (∀ label log,
      let call := log.setUp site.console label g.session.files
      let answer := (g.step site (.root label log)).1
      let after := (g.step site (.root label log)).2
      Entry.setUps after.session.journal = Entry.setUps g.session.journal ++ call.asked ∧
      after.session.files = call.files ∧
      match call.result with
      | .error e =>
        answer = some (.error (.logSetup site.console.uname e)) ∧ after.made = g.made
      | .ok () => ∃ c, answer = some (.ok c) ∧ after.made = g.made ++ [⟨c, g.made.length, 0⟩]) ∧
    (∀ command,
      g.step site (.child command none) = (some (.error (.missingParent command)), g)) ∧
    (∀ command (i : Nat) (d : Derived), g.made[i]? = some d → ∃ c, c.parent? = some d.context ∧
      g.step site (.child command (some i)) =
        (some (.ok c), ⟨g.session, g.made ++ [⟨c, d.root, d.steps + 1⟩]⟩)) := by
  intro g
  have hGrown : Grown site g := grown_run site start steps
  refine ⟨fun i d hd => ?_, fun i j d e hd he => ⟨?_, ?_⟩, fun hNotes => setUps_run site _ hNotes,
    fun label log => ⟨?_, ?_, ?_⟩, step_child_none site g, fun command i d hd => ?_⟩
  · obtain ⟨r, hRoot, hNumber, hSteps, hAncestor, hDepth, hIsRoot, hFrame, logger, hr⟩ :=
      hGrown.inherits (List.mem_of_getElem? hd)
    refine ⟨r, hRoot, hNumber, hSteps, hAncestor, hDepth, hIsRoot, hFrame, ?_⟩
    rw [hr]
    exact ⟨rfl, rfl, rfl, rfl, rfl, rfl, rfl⟩
  · exact hGrown.apart d (List.mem_of_getElem? hd) e (List.mem_of_getElem? he)
  · -- both have the locator of the site
    have hLocator : ∀ q ∈ g.made, q.context.frame.locator = site.locator := by
      intro q hq
      obtain ⟨r, -, -, -, -, -, -, hFrame, logger, hr⟩ := hGrown.inherits hq
      rw [hFrame, hr]
      rfl
    rw [hLocator d (List.mem_of_getElem? hd), hLocator e (List.mem_of_getElem? he)]
  · exact setUps_step site g (.root label log)
  · rw [session_step_root, Context.result_root]
    rfl
  · rw [step_root]
    dsimp only
    rcases (log.setUp site.console label g.session.files).result with e | ⟨⟩
    · exact ⟨rfl, rfl⟩
    · exact ⟨_, rfl, rfl⟩
  · obtain ⟨c, hChild, hStep⟩ := step_child_some hd command
    exact ⟨c, Context.parent?_child hChild, hStep⟩

/-- Two root contexts, one that the runtime log refuses, a child and a grandchild of the first, and
a child of none. -/
def sampleSteps : List Step :=
  [.root "data" .recording, .child "get" (some 0), .root "log" (.noting (.refusing .notText)),
    .root "feed" .recording, .child "list" none, .child "get" (some 1)]

theorem grove_of_run_sample :
    let g : Grove :=
      run (.ofHome 0 (.ofString "/u") .info) ⟨.begin .empty, []⟩ sampleSteps
    ∃ grandchild root other, g.made[3]? = some grandchild ∧ g.made[0]? = some root ∧
      g.made[2]? = some other ∧
      grandchild.context.ancestors.length = 2 ∧ grandchild.context.isRoot = false ∧
      grandchild.context.rootAncestor = root.context ∧
      grandchild.context.frame = root.context.frame ∧
      grandchild.context.logger.identity ≠ other.context.logger.identity ∧
      Entry.setUps g.session.journal =
        ["data", "log", "feed"].map ("system/service/console/live", ·) := by
  intro g
  obtain ⟨hEach, hBoth, hLog, -, -, -⟩ :=
    grove_of_run (.ofHome 0 (.ofString "/u") .info) (.begin .empty) sampleSteps
  obtain ⟨r, hRoot, -, -, hAncestor, hDepth, hIsRoot, hFrame, -⟩ := hEach 3 _ rfl
  obtain ⟨hLogger, -⟩ := hBoth 3 2 _ _ rfl rfl
  refine ⟨_, r, _, rfl, hRoot, rfl, hDepth, ?_, hAncestor, hFrame, ?_,
    hLog fun label log hRoot => ?_⟩
  · exact Bool.eq_false_iff.mpr fun h => absurd (hIsRoot.mp h) (by decide)
  · exact fun h => absurd (hLogger.mp h) (by decide)
  · -- the log that refuses notes its calls as the others do
    have hRefusing := (RuntimeLog.refusing_isSilent .notText).noting_notesCalls
    simp only [sampleSteps, List.mem_cons, Step.root.injEq, reduceCtorEq, List.not_mem_nil,
      false_or, or_false] at hRoot
    rcases hRoot with ⟨-, rfl⟩ | ⟨-, rfl⟩ | ⟨-, rfl⟩
    · exact RuntimeLog.recording_notesCalls
    · exact hRefusing
    · exact RuntimeLog.recording_notesCalls

end Grove

end MarketFeed
