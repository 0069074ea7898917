import MarketFeed.ExitStatus
import MarketFeed.ServiceError

/-!
# Errors of commands

What a command reports to the user when it fails.

* `SystemError`         — a service's error, or a failure with files.
* `CommandError`        — a system error, or arguments that do not fit the situation.
* `CommandError.message`, `CommandError.causes` — the text, and the texts behind it.
* `CommandError.status` — the exit status, which depends on the kind of error alone.
-/

namespace MarketFeed

/-- A service's error, or a failure with files that `context` describes. -/
inductive SystemError where
  | service (cause : ServiceError)
  | io (context : String) (cause : IoError)
  deriving DecidableEq, Repr

namespace SystemError

/-- The text shown for the error. -/
def message : SystemError → String
  | service cause => cause.message
  | io context _ => "I/O error: " ++ context

/-- The texts of what lies behind the error, from the outside in. -/
def causes : SystemError → List String
  | service cause => cause.message :: cause.causes
  | io _ cause => cause.message :: cause.causes

end SystemError

/-- What a command reports to the user when it fails. -/
inductive CommandError where
  | system (cause : SystemError)
  | invalidArguments (message : String)
  | usage (message : String)
  deriving DecidableEq, Repr

namespace CommandError

/-- A service's error as a command reports it. -/
def ofService (e : ServiceError) : CommandError := .system (.service e)

/-- A failure with files as a command reports it. -/
def ofIo (context : String) (cause : IoError) : CommandError := .system (.io context cause)

/-- The text shown for the error. -/
def message : CommandError → String
  | system cause => cause.message
  | invalidArguments message => "invalid arguments: " ++ message
  | usage message => message

/-- The texts of what lies behind the error, from the outside in. -/
def causes : CommandError → List String
  | system cause => cause.message :: cause.causes
  | invalidArguments _ => []
  | usage _ => []

end CommandError

/-- The status that a run ends with after an error of a service. -/
def ServiceError.status : ServiceError → ExitStatus
  | .value _ => .dataError
  | .config _ => .config
  | .missingParent _ => .config
  | .logSetup _ _ => .cannotCreate
  | .registry (.notRegistered _) => .usage
  | .registry _ => .software
  | .source _ => .software

/-- The status that a run ends with after an error of a command. -/
def CommandError.status : CommandError → ExitStatus
  | .system (.service cause) => cause.status
  | .system (.io _ _) => .ioError
  | .invalidArguments _ => .usage
  | .usage _ => .usage

/-- A service's error reaches the user with its text and everything behind it. -/
theorem CommandError.causes_ofService (e : ServiceError) :
    (CommandError.ofService e).causes = e.message :: e.message :: e.causes := rfl

end MarketFeed
