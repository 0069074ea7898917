import MarketFeed.Fault

/-!
# Failures of operations on files

Why an operation on files could not be done, with the text shown for it.

* `IoError`         — a fault of the operating system, or one of the failures that have no number.
* `IoError.message` — its text.
* `IoError.causes`  — the texts of what lies behind it, from the outside in.
-/

namespace MarketFeed

/-- Why an operation on files could not be done. -/
inductive IoError where
  | fault (fault : Fault)
  /-- The path holds a NUL byte, which no file name can. -/
  | nulInPath
  /-- A file that should hold text holds bytes that encode none. -/
  | notText
  /-- A failure that only its text describes, with the texts of what lies behind it. -/
  | other (text : String) (behind : List String := [])
  deriving DecidableEq, Repr

/-- The text shown for the error. -/
def IoError.message : IoError → String
  | .fault f => f.description ++ " (os error " ++ toString f.number ++ ")"
  | .nulInPath => "file name contained an unexpected NUL byte"
  | .notText => "stream did not contain valid UTF-8"
  | .other text _ => text

/-- The texts of what lies behind the error, from the outside in. -/
def IoError.causes : IoError → List String
  | .other _ behind => behind
  | _ => []

end MarketFeed
