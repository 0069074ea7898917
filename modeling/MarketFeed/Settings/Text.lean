import MarketFeed.Settings.Basic
import MarketFeed.Toml.Document
import MarketFeed.Toml.Quoting

/-!
# Settings as text

Settings are kept in a TOML document with two fields, `home` and `log_level`; other fields are
passed over.

* `Overlay.parse?`    — the layer that a document describes.
* `Settings.toToml?`  — the document of settings; `none` if the home directory is no text.
* `Settings.template` — the document that a new user starts from.
-/

namespace MarketFeed

open Toml (Value Fields)

/-- The name of a value that stands for a choice: text, or a table whose only field is empty. -/
def Toml.choice? : Value → Option String
  | .text value => some value
  | .table _ [(name, .array [])] => some name
  | .table _ [(name, .table _ [])] => some name
  | _ => none

namespace Overlay

/-- The home directory that a document gives: text if anything. -/
def home? (fields : Fields) : Option (Option Path) :=
  match fields.lookup "home" with
  | none => some none
  | some (.text value) => some (some (.ofString value))
  | some _ => none

/-- The level that a document gives: the exact name of one if anything. -/
def logLevel? (fields : Fields) : Option (Option LogLevel) :=
  match fields.lookup "log_level" with
  | none => some none
  | some value => ((Toml.choice? value).bind LogLevel.ofName?).map some

/-- The layer that the fields of a document describe. -/
def ofFields? (fields : Fields) : Option Overlay :=
  match home? fields, logLevel? fields with
  | some home, some logLevel => some ⟨home, logLevel⟩
  | _, _ => none

/-- The layer that a document describes; `none` if the document is malformed or gives a setting a
value of another kind. -/
def parse? (text : String) : Option Overlay := (Toml.document? text).bind ofFields?

end Overlay

namespace Settings

/-- The document of settings; `none` if the home directory is no text. -/
def toToml? (s : Settings) : Option String :=
  (Utf8.decode? s.home.bytes).map fun home =>
    "home = " ++ Toml.quotedText home ++ "\n" ++
      "log_level = " ++ Toml.quotedText s.logLevel.name ++ "\n"

/-- The document that a new user starts from: every setting is explained, none is given. -/
def template : String :=
"# kfc configuration
#
# Locations (by precedence, lowest to highest):
#   Global: ~/.config/kfc/kfc.toml   (this file)
#   Env:    KFC_* environment variables (KFC_HOME, KFC_LOG_LEVEL)
#   Flags:  --home, --log-level

# Home directory; runtime data lives in home/runtime, archives in home/archive
# home = \"~/.kfc\"

# Log level of command loggers: trace, debug, info, warning, error, critical
# log_level = \"warning\"
"

end Settings

end MarketFeed
