/-!
# Shells

The command interpreters that completions can be made for.

* `Shell.name`    — what the command line calls a shell.
* `Shell.ofName?` — the shell of that name.
-/

namespace MarketFeed

/-- A command interpreter that completions can be made for. -/
inductive Shell where
  | bash
  | elvish
  | fish
  | powerShell
  | zsh
  deriving DecidableEq, Repr

namespace Shell

/-- All shells, in the order of their names. -/
def all : List Shell := [bash, elvish, fish, powerShell, zsh]

/-- What the command line calls a shell. -/
def name : Shell → String
  | bash => "bash"
  | elvish => "elvish"
  | fish => "fish"
  | powerShell => "powershell"
  | zsh => "zsh"

/-- The shell of that name. -/
def ofName? (s : String) : Option Shell := all.find? fun shell => shell.name == s

/-- A shell is found by its name. -/
theorem ofName?_name (shell : Shell) : ofName? shell.name = some shell := by
  cases shell <;> decide

end Shell

end MarketFeed
