import MarketFeed.Text.Quoted

/-!
# Values that are refused

* `LocationPart`       — the two free parts of a location.
* `ValueError`         — a value that names no location or no log level.
* `ValueError.message` — its text.
-/

namespace MarketFeed

/-- The parts of a location that are free text. -/
inductive LocationPart where
  | group
  | name
  deriving DecidableEq, Repr

/-- What a part is called in messages. -/
def LocationPart.label : LocationPart → String
  | .group => "group"
  | .name => "name"

/-- A value that the domain refuses. -/
inductive ValueError where
  | location (part : LocationPart) (value : String)
  | logLevel (value : String)
  deriving DecidableEq, Repr

/-- The text shown for a refused value. -/
def ValueError.message : ValueError → String
  | .location part value => "invalid location " ++ part.label ++ ": " ++ Text.quoted value
  | .logLevel value =>
    "invalid log level: " ++ value ++
      " (expected trace, debug, info, warning, error or critical)"

end MarketFeed
