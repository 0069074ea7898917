import MarketFeed.Path
import MarketFeed.Text.Case

/-!
# The environment of a run

* `Environment.get?`     — the value of a variable.
* `Environment.setting?` — the value of a variable that is named in any case.
* `Environment.home?`    — the home directory of the user, if one is known.
* `Environment.configDirectory?`, `Environment.configFile?` — where the settings are kept.

Without a home directory nobody knows where the settings are kept.  Main statement:
`configFile?_eq_some_iff` — else they are kept in a file of the program's own directory.
-/

namespace MarketFeed

/-- The variables of a run, in the order in which they are handed over, and the home directory
that the user's account has, if there is an account and it has one. -/
structure Environment where
  bindings : List (Bytes × Bytes)
  accountHome : Option Path
  deriving Repr

namespace Environment

/-- The value of a variable. -/
def get? (e : Environment) (name : String) : Option Bytes :=
  e.bindings.lookup (Utf8.encode name)

/-- The value of a variable, if it is text. -/
def text? (e : Environment) (name : String) : Option String :=
  (e.get? name).bind Utf8.decode?

/-- The value of the last variable whose name is the given one up to case, among those whose
name and value are text. -/
def setting? (e : Environment) (name : String) : Option String :=
  e.bindings.foldl (fun found (key, value) =>
    match Utf8.decode? key, Utf8.decode? value with
    -- a later variable wins over an earlier one
    | some key, some value => if Text.caseFold key = name then some value else found
    | _, _ => found) none

/-- The home directory: the variable `HOME`, or what the account has if that is empty. -/
def home? (e : Environment) : Option Path :=
  match e.get? "HOME" with
  | some (b :: rest) => some ⟨b :: rest⟩
  | _ => e.accountHome

/-- The home directory as text, if there is one and it is text. -/
def homeText? (e : Environment) : Option String := e.home?.bind fun home => Utf8.decode? home.bytes

theorem homeText?_of_home? {e : Environment} {home : Path} (hHome : e.home? = some home) :
    e.homeText? = Utf8.decode? home.bytes := by
  rw [homeText?, hHome, Option.bind_some]

/-- The directory of all settings: the variable `XDG_CONFIG_HOME` if it is an absolute path, or
`.config` in the home directory. -/
def settingsRoot? (e : Environment) : Option Path :=
  -- the variable counts only where there is a home directory
  e.home?.map fun home =>
    match e.get? "XDG_CONFIG_HOME" with
    | some value => if (Path.mk value).isAbsolute then ⟨value⟩ else home.child ".config"
    | none => home.child ".config"

/-- The directory of the program's settings. -/
def configDirectory? (e : Environment) : Option Path := e.settingsRoot?.map (·.child "kfc")

/-- The file of the program's settings. -/
def configFile? (e : Environment) : Option Path := e.configDirectory?.map (·.child "kfc.toml")

/-- The file of the settings has its name in a directory that has the program's. -/
theorem configFile?_eq_some_iff {e : Environment} {file : Path} :
    e.configFile? = some file ↔
      ∃ root, e.settingsRoot? = some root ∧ file = (root.child "kfc").child "kfc.toml" := by
  unfold configFile? configDirectory?
  rw [Option.map_map, Option.map_eq_some_iff]
  exact exists_congr fun root => and_congr_right fun _ => eq_comm

/-- It is known exactly if a home directory is. -/
theorem isSome_configFile? (e : Environment) : e.configFile?.isSome = e.home?.isSome := by
  rw [configFile?, configDirectory?, settingsRoot?, Option.isSome_map, Option.isSome_map,
    Option.isSome_map]

end Environment

end MarketFeed
