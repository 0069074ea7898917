import MarketFeed.FileTree.Walk
import MarketFeed.ServiceError
import MarketFeed.Settings.Text

/-!
# Loading settings

Settings come in layers: what holds by itself, the settings file, the environment, and at last
the command line.  A later layer wins, but a malformed one is an error even then.

* `Settings.fileLayer`        — the layer of the settings file; a file that is not there has none.
* `Settings.environmentLayer` — the layer of the variables `KFC_HOME` and `KFC_LOG_LEVEL`.
* `Settings.loadFrom`         — the settings of all layers but the command line.
* `Settings.toToml`           — the settings as text, or why there is none.
-/

namespace MarketFeed.Settings

/-- The layer of a settings file.  A file that is not there leaves everything open; one that
cannot be read or is malformed is an error. -/
def fileLayer (files : FileTree) (file : Path) : Except ServiceError Overlay :=
  if files.exists file then
    -- what is there must be readable text: a directory is an error
    match files.readText file with
    | .error e => .error (.config ("read " ++ file.text ++ ": " ++ e.message))
    | .ok text =>
      match Overlay.parse? text with
      | some layer => .ok layer
      | none => .error (.config ("parse " ++ file.text ++ ": TOML parse error"))
  else .ok ⟨none, none⟩

/-- The layer of the environment. -/
def environmentLayer (e : Environment) : Except ServiceError Overlay :=
  let home := (e.setting? "kfc_home").map Path.ofString
  match e.setting? "kfc_log_level" with
  | none => .ok ⟨home, none⟩
  | some text =>
    match LogLevel.parse text with
    | .ok level => .ok ⟨home, some level⟩
    | .error cause => .error (.config ("KFC_LOG_LEVEL: " ++ cause.message))

/-- The settings of all layers but the command line, where the settings file may be at a path. -/
def loadFrom (e : Environment) (files : FileTree) (file : Option Path) :
    Except ServiceError Settings := do
  let fromFile ← match file with
    | none => pure ⟨none, none⟩
    | some file => fileLayer files file
  -- a malformed variable is an error even where nothing asks for its setting
  let fromEnvironment ← environmentLayer e
  return (((standard e).overlay fromFile).overlay fromEnvironment).expand e

/-- The settings of all layers but the command line.  Where nobody knows where the settings are
kept there is no layer of a file. -/
def load (e : Environment) (files : FileTree) : Except ServiceError Settings :=
  loadFrom e files e.configFile?

/-- The settings as text. -/
def toToml (s : Settings) : Except ServiceError String :=
  match s.toToml? with
  | some text => .ok text
  | none => .error (.config "serialize config: path contains invalid UTF-8 characters")

end MarketFeed.Settings
