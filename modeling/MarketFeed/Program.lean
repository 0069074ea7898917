import MarketFeed.CommandLine.Reading
import MarketFeed.Services

/-!
# The program

One run, from the command line to the exit status: the arguments are read, the settings are
loaded, the command line's own settings are laid over them, the terminal begins to show events,
and then the request is done.

* `Program`           — what a run comes with.
* `Program.threshold` — how severe an event must be to be shown.
* `Program.work`      — the run of an invocation.
* `Program.run`       — the run of a whole command line.
* `Outcome`           — the exit status, and the session that the run leaves.
-/

namespace MarketFeed

open CommandLine (Invocation)

/-- What a run comes with: its sources, its runtime log and its environment. -/
structure Program where
  registry : Registry
  log : RuntimeLog
  environment : Environment

/-- How a run ended. -/
structure Outcome where
  status : ExitStatus
  session : Session

namespace Program

/-- The program as it is handed out: the sources that it comes with, and a log that marks its
sessions. -/
def standard (stamp : Stamp) (environment : Environment) : Program :=
  ⟨.builtin, .console stamp, environment⟩

/-! ## The terminal -/

/-- How severe an event must be to be shown: the level decides unless more words are asked for. -/
def threshold (verbose : Nat) (level : LogLevel) : Severity :=
  match verbose with
  | 0 => level.severity
  | 1 => .info
  | 2 => .debug
  -- there is nothing beyond three
  | _ => .trace

/-- The event that tells of a talkative terminal. -/
def modeEvent? (threshold : Severity) : Option Event :=
  let event (severity : Severity) : Event :=
    ⟨severity, "kfc", "Debug mode: " ++ threshold.name, []⟩
  match threshold with
  | .trace => some (event .debug)
  | .debug => some (event .debug)
  | .info => some (event .info)
  | .warn => none
  | .error => none

/-- Has the terminal show events from now on. -/
def showEvents (verbose : Nat) (level : LogLevel) : Action CommandError Unit := do
  if 3 < verbose then
    Action.tell (.remark "Don't be crazy, max is -v -v -v")
  Action.record (.showing (threshold verbose level))
  (modeEvent? (threshold verbose level)).toList.forM Action.emit

/-! ## Runs -/

/-- The settings in effect for an invocation. -/
def settings (p : Program) (invocation : Invocation) (files : FileTree) :
    Except ServiceError Settings := do
  let loaded ← Settings.load p.environment files
  return loaded.override p.environment ⟨invocation.home, invocation.logLevel⟩

/-- The run of an invocation. -/
def work (p : Program) (invocation : Invocation) : Action CommandError Unit := do
  let files := (← get).files
  let settings ← Action.mapError .ofService (Action.ofExcept (p.settings invocation files))
  -- nothing before this point is shown as an event
  showEvents invocation.verbose settings.logLevel
  Services.perform ⟨settings, p.environment, p.registry, p.log⟩ invocation.request

/-- The outcome of an action; its error is told to the user. -/
def conclude (act : Action CommandError Unit) (s : Session) : Outcome :=
  match act.result s with
  | (.ok (), s) => ⟨.ok, s⟩
  -- whatever was done up to the error stays done
  | (.error e, s) => ⟨e.status, s.add (.told (.error e.message))⟩

/-- The run of a whole command line on the files that are there. -/
def run (p : Program) (args : List Bytes) (files : FileTree) : Outcome :=
  match Invocation.parse p.registry args with
  | .error rejection => ⟨rejection.status, (Session.begin files).add (.rejected rejection)⟩
  | .ok invocation => conclude (p.work invocation) (.begin files)

end Program

end MarketFeed
