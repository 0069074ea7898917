import MarketFeed.CommandLine.Command
import MarketFeed.CommandLine.Rejection

/-!
# Telling how the program is used

* `Command.usage`       — what can follow a command.
* `Rejection.remark`    — what is said when arguments lead to no request.
* `Command.completions` — the words that can follow a command.
-/

namespace MarketFeed.CommandLine

/-- How a parameter is named. -/
def Parameter.spelling (p : Parameter) : String :=
  match p.letter?, p.longName? with
  | some letter, some word => "-" ++ letter.toString ++ ", --" ++ word
  | _, some word => "--" ++ word
  | some letter, none => "-" ++ letter.toString
  | none, none => "<" ++ p.key ++ ">"

/-- What can follow a command, one line each. -/
def Command.usage (c : Command) : String :=
  let commands := c.subcommands.map fun s => "  " ++ s.name ++ "  " ++ s.about ++ "\n"
  let parameters := c.options.map fun p => "  " ++ p.spelling ++ "  " ++ p.about ++ "\n"
  c.about ++ "\n\n" ++ String.join (commands ++ parameters)

/-- The words that can follow a command. -/
def Command.completions (c : Command) : List String :=
  c.subcommands.map Command.name ++ c.options.filterMap fun p => p.longName?.map ("--" ++ ·)

/-- What is said when arguments lead to no request. -/
def Rejection.remark : Rejection → String
  | help => Command.program.usage
  | version text => text
  | bareGroup => "error: a subcommand must follow\n"
  | missingSubcommand => "error: a subcommand must follow\n"
  | unknownSubcommand => "error: there is no such subcommand\n"
  | unknownArgument => "error: there is no such argument\n"
  | conflict => "error: an argument is given again\n"
  | needlessValue => "error: an argument takes no value\n"
  | missingParameter => "error: an argument is missing\n"
  | invalidValue [] => "error: a value is missing\n"
  | invalidValue choices => "error: a value must be one of " ++ ", ".intercalate choices ++ "\n"
  | notText => "error: a value is no text\n"
  | refusedValue message => "error: " ++ message ++ "\n"

end MarketFeed.CommandLine
