import MarketFeed.Registry
import MarketFeed.Shell
import MarketFeed.Terminal.Plain

/-!
# Parameters

What can be given to a command besides the names of subcommands: switches, which stand alone,
and slots, which take a value.

* `Switch`, `Slot`, `Parameter` — the parameters of all commands.
* `Parameter.letter?`, `Parameter.longName?` — how a parameter is named; a place has no name.
* `Slot.values`  — the values that a slot has to choose from, with what they are for.
* `Slot.choices` — those values alone.
-/

namespace MarketFeed.CommandLine

/-- A parameter that stands alone. -/
inductive Switch where
  | verbose
  | force
  | help
  | version
  deriving DecidableEq, Repr

/-- A parameter that takes a value. -/
inductive Slot where
  | logLevel
  | home
  | source
  | shell
  deriving DecidableEq, Repr

/-- What can be given to a command. -/
inductive Parameter where
  | switch (switch : Switch)
  | slot (slot : Slot)
  deriving DecidableEq, Repr

namespace Parameter

/-- The name under which a command keeps what was given. -/
def key : Parameter → String
  | switch .verbose => "verbose"
  | switch .force => "force"
  | switch .help => "help"
  | switch .version => "version"
  | slot .logLevel => "log_level"
  | slot .home => "home"
  | slot .source => "source"
  | slot .shell => "shell"

/-- The letter that names a parameter after one dash. -/
def letter? : Parameter → Option Char
  | switch .verbose => some 'v'
  | switch .force => some 'f'
  | switch .help => some 'h'
  | switch .version => some 'V'
  | slot .logLevel => some 'l'
  | slot .home => some 'H'
  | slot .source => some 's'
  | slot .shell => none

/-- The word that names a parameter after two dashes. -/
def longName? : Parameter → Option String
  | switch .verbose => some "verbose"
  | switch .force => some "force"
  | switch .help => some "help"
  | switch .version => some "version"
  | slot .logLevel => some "log-level"
  | slot .home => some "home"
  | slot .source => some "source"
  | slot .shell => none

/-- What a parameter is for. -/
def about : Parameter → String
  | switch .verbose => "Increase terminal verbosity (-v info, -vv debug, -vvv trace)"
  | switch .force => "Overwrite an existing config file"
  | switch .help => "Print help"
  | switch .version => "Print version"
  | slot .logLevel => "Log level: trace, debug, info, warning, error, critical"
  | slot .home => "Home directory (default: ~/.kfc)"
  | slot .source => "Data source"
  | slot .shell => "Shell type"

/-- The parameters that every command knows. -/
def everywhere : List Parameter := [slot .logLevel, slot .home, switch .verbose]

/-- Every command knows the parameter. -/
def isGlobal (p : Parameter) : Bool := everywhere.contains p

/-- A command that has the parameter cannot do without it. -/
def isRequired (p : Parameter) : Bool := p == slot .source || p == slot .shell

end Parameter

namespace Slot

/-- The values that a slot has to choose from, with what they are for if that is told, in plain
text.  No values mean that there is no choice to make: any text may come. -/
def values (registry : Registry) : Slot → List (String × Option String)
  | logLevel => []
  | home => []
  | source => registry.describe.map fun (name, about) =>
      (name, if about = "" then none else some (Terminal.plain about))
  | shell => Shell.all.map fun shell => (shell.name, none)

/-- The values that a slot has to choose from. -/
def choices (registry : Registry) (slot : Slot) : List String :=
  (slot.values registry).map Prod.fst

/-- A source is chosen among those of the registry. -/
@[simp] theorem choices_source (registry : Registry) :
    choices registry source = registry.names := by
  simp [choices, values, Registry.describe, Registry.names]

end Slot

/-- The values that a parameter has to choose from. -/
def Parameter.values (registry : Registry) : Parameter → List (String × Option String)
  | switch _ => []
  | slot s => s.values registry

end MarketFeed.CommandLine
