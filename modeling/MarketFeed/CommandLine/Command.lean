import MarketFeed.CommandLine.Parameter

/-!
# Commands

The commands of the program form a tree: a group has subcommands, and one of them must follow
its name.

* `Command`             — the program itself, the groups and what they hold.
* `Command.subcommands` — what may follow a command, by name.
* `Command.parameters`  — what a command brings in, in the order in which help shows it.
* `Command.options`     — every parameter that may be named after a command.
* `Command.title`       — the names on the way to a command.

Main statement: `title_subcommand` — a subcommand's title adds its name to that of its group.
-/

namespace MarketFeed.CommandLine

/-- The program or one of its commands. -/
inductive Command where
  | program
  | completion
  | config
  | configInit
  | configPath
  | configShow
  | data
  | dataGet
  | dataList
  deriving DecidableEq, Repr

/-- The version of the program. -/
def version : String := "0.3.0"

namespace Command

/-- The name that calls a command. -/
def name : Command → String
  | program => "kfc"
  | completion => "completion"
  | config => "config"
  | configInit => "init"
  | configPath => "path"
  | configShow => "show"
  | data => "data"
  | dataGet => "get"
  | dataList => "list"

/-- What a command is for. -/
def about : Command → String
  | program => "Command-line entry point for running pluggable market data extensions"
  | completion => "Generate shell completions"
  | config => "Manage settings"
  | configInit => "Create global config template"
  | configPath => "Show config path"
  | configShow => "Show merged config"
  | data => "Fetch market data through source extensions"
  | dataGet => "Run the extension of a data source"
  | dataList => "List available data sources"

/-- The commands that may follow, in the order of their names. -/
def subcommands : Command → List Command
  | program => [completion, config, data]
  | config => [configInit, configPath, configShow]
  | data => [dataGet, dataList]
  | _ => []

/-- The parameters that a command brings in; those of the program hold for every command. -/
def parameters : Command → List Parameter
  | program => Parameter.everywhere
  | completion => [.slot .shell]
  | configInit => [.switch .force]
  | dataGet => [.slot .source]
  | _ => []

/-- Every parameter that may be named after a command. -/
def options (c : Command) : List Parameter :=
  Parameter.everywhere ++ c.parameters ++ [.switch .help, .switch .version]

/-- The slots of a command whose values stand alone, one after the other. -/
def places : Command → List Slot
  | completion => [.shell]
  | _ => []

/-- The names on the way to a command. -/
def title : Command → String
  | program => "kfc"
  | completion => "kfc-completion"
  | config => "kfc-config"
  | configInit => "kfc-config-init"
  | configPath => "kfc-config-path"
  | configShow => "kfc-config-show"
  | data => "kfc-data"
  | dataGet => "kfc-data-get"
  | dataList => "kfc-data-list"

/-! ## Finding what a word means -/

/-- The subcommand of that name. -/
def subcommand? (c : Command) (word : Bytes) : Option Command :=
  c.subcommands.find? fun s => Utf8.encode s.name == word

/-- A command with subcommands can be asked for help by this word. -/
def helpWord : Bytes := Utf8.encode "help"

/-- The word is that for help, and there are subcommands to help with. -/
def isHelp (c : Command) (word : Bytes) : Bool := !c.subcommands.isEmpty && word == helpWord

/-- The words lead from the command to something that help can be shown for: subcommands, one
below the other, and the word for help at most at the end. -/
def explains (c : Command) : List Bytes → Bool
  | [] => true
  | word :: rest =>
    match c.subcommand? word with
    | some s => s.explains rest
    | none => c.isHelp word && rest.isEmpty

/-- The parameter that a letter names after a command. -/
def byLetter? (c : Command) (letter : UInt8) : Option Parameter :=
  c.options.find? fun p => p.letter?.any fun l => l.toUInt8 == letter

/-- The parameter that a word names after a command. -/
def byName? (c : Command) (word : Bytes) : Option Parameter :=
  c.options.find? fun p => p.longName?.any fun n => Utf8.encode n == word

/-- A subcommand's title adds its name to the title of its group. -/
theorem title_subcommand {c s : Command} (h : s ∈ c.subcommands) :
    s.title = c.title ++ "-" ++ s.name := by
  revert h
  cases c <;> cases s <;> decide

end Command

end MarketFeed.CommandLine
