import MarketFeed.IoError

/-!
# Failures of data sources

* `SourceError`         — why a source could not be built or run.
* `SourceError.message` — its text, which names the source.
* `SourceError.causes`  — the texts of what lies behind it, from the outside in.
-/

namespace MarketFeed

/-- Why a source could not be built or run. -/
inductive SourceError where
  | failed (source message : String)
  | io (source context : String) (cause : IoError)
  /-- An error of something that the source relies on, told by its text and the texts behind it. -/
  | foreign (source cause : String) (behind : List String := [])
  /-- An error of another source that this one relies on. -/
  | nested (source : String) (cause : SourceError)
  deriving DecidableEq, Repr

namespace SourceError

/-- The source that the error names. -/
def source : SourceError → String
  | failed source _ => source
  | io source _ _ => source
  | foreign source _ _ => source
  | nested source _ => source

/-- The text shown for the error. -/
def message : SourceError → String
  | failed source message => "extension `" ++ source ++ "` failed: " ++ message
  | io source context _ => "extension `" ++ source ++ "` I/O error: " ++ context
  | foreign source _ _ => "extension `" ++ source ++ "` failed"
  | nested source _ => "extension `" ++ source ++ "` failed"

/-- The texts of what lies behind the error, from the outside in. -/
def causes : SourceError → List String
  | failed _ _ => []
  | io _ _ cause => cause.message :: cause.causes
  | foreign _ cause behind => cause :: behind
  | nested _ cause => cause.message :: cause.causes

end SourceError

end MarketFeed
