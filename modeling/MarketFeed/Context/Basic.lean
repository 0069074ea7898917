import MarketFeed.Logger
import MarketFeed.ServiceError

/-!
# Contexts

A run first resolves its site: the log level, the directories below the home directory and
three system locations.  A command group makes a root context of it, and the commands of the
group work in child contexts, which inherit everything from their parent.

* `Site.ofHome`    — the site of a home directory.
* `Context.ofRoot` — the root context that a logger and a site make.
* `Context.child`  — a child context, if there is a parent.
* `Context.parent?`, `Context.isRoot`, `Context.depth` — where a context stands.

Main statements: `parent?_child` — the parent of a child is the context it was made from;
`frame_child` — a child carries what its parent carries.
-/

namespace MarketFeed

/-- What a run resolves from its settings before any command begins. -/
structure Site where
  logLevel : LogLevel
  runtimeDir : Path
  archiveDir : Path
  locator : Locator
  config : Location
  console : Location
  index : Location
  deriving DecidableEq, Repr

/-- The site of a home directory.  Its locations lie below the runtime directory and
share one locator, which has the given identity. -/
def Site.ofHome (identity : Nat) (home : Path) (level : LogLevel) : Site :=
  let runtimeDir := home.child "runtime"
  let locator : Locator := ⟨identity, runtimeDir⟩
  { logLevel := level
    runtimeDir
    archiveDir := home.child "archive"
    locator
    config := ⟨.live, .system, "etc", "kungfu", locator, by decide, by decide⟩
    console := ⟨.live, .system, "service", "console", locator, by decide, by decide⟩
    index := ⟨.live, .system, "journal", "index", locator, by decide, by decide⟩ }

/-- What a command can see of its surroundings. -/
structure Frame where
  logger : Logger
  lowLatency : Bool
  runtimeDir : Path
  archiveDir : Path
  locator : Locator
  config : Location
  console : Location
  index : Location
  deriving DecidableEq, Repr

/-- The surroundings of one command: its own frame and those of its ancestors, nearest first. -/
structure Context where
  frame : Frame
  above : List Frame
  deriving DecidableEq, Repr

namespace Context

/-- The root context of a site, with the logger of its group.  Low latency is off. -/
def ofRoot (logger : Logger) (site : Site) : Context where
  frame :=
    { logger
      lowLatency := false
      runtimeDir := site.runtimeDir
      archiveDir := site.archiveDir
      locator := site.locator
      config := site.config
      console := site.console
      index := site.index }
  above := []

/-- A child context for a command.  A command without a parent was wired outside its group. -/
def child (command : String) : Option Context → Except ServiceError Context
  | none => .error (.missingParent command)
  | some parent => .ok ⟨parent.frame, parent.frame :: parent.above⟩

/-- The context that this one was derived from; a root has none. -/
def parent? (c : Context) : Option Context :=
  match c.above with
  | [] => none
  | frame :: above => some ⟨frame, above⟩

/-- The context was derived from no other. -/
def isRoot (c : Context) : Bool := c.above.isEmpty

/-- How many contexts lie above this one. -/
def depth (c : Context) : Nat := c.above.length

/-- The logger of the context. -/
def logger (c : Context) : Logger := c.frame.logger

/-! ## Laws -/

/-- The parent of a child is the context that the child was made from. -/
theorem parent?_child {command : String} {parent c : Context}
    (h : child command (some parent) = .ok c) : c.parent? = some parent := by
  obtain rfl := Except.ok.inj h
  rfl

/-- A child carries what its parent carries. -/
theorem frame_child {command : String} {parent c : Context}
    (h : child command (some parent) = .ok c) : c.frame = parent.frame := by
  obtain rfl := Except.ok.inj h
  rfl

theorem depth_child {command : String} {parent c : Context}
    (h : child command (some parent) = .ok c) : c.depth = parent.depth + 1 := by
  obtain rfl := Except.ok.inj h
  rfl

end Context

end MarketFeed
