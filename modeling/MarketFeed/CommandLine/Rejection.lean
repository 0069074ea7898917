import MarketFeed.ExitStatus

/-!
# Rejections

Why arguments lead to no request.  Asking for help or for the version is among the reasons,
though nothing is wrong then.

* `Rejection`        — the reasons.
* `Rejection.status` — the exit status that follows.
-/

namespace MarketFeed.CommandLine

/-- Why arguments lead to no request. -/
inductive Rejection where
  | help
  | version (text : String)
  /-- Nothing stands after the name of a group. -/
  | bareGroup
  /-- Something stands after the name of a group, but no subcommand. -/
  | missingSubcommand
  | unknownSubcommand
  | unknownArgument
  /-- A parameter is given again. -/
  | conflict
  /-- A switch is given a value. -/
  | needlessValue
  | missingParameter
  /-- A value is missing or is none of the choices, if there are some. -/
  | invalidValue (choices : List String)
  /-- A value is no text. -/
  | notText
  /-- A value means nothing, as the message tells. -/
  | refusedValue (message : String)
  deriving DecidableEq, Repr

/-- The exit status that follows. -/
def Rejection.status : Rejection → ExitStatus
  | help => .ok
  | version _ => .ok
  | _ => .rejected

/-- A run ends well exactly if nothing but help or the version was asked for. -/
theorem Rejection.status_eq_ok_iff {r : Rejection} :
    r.status = .ok ↔ r = .help ∨ ∃ text, r = .version text := by
  cases r <;> simp [status]

end MarketFeed.CommandLine
