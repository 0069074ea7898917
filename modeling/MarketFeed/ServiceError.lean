import MarketFeed.RegistryError
import MarketFeed.SourceError
import MarketFeed.ValueError

/-!
# Errors of the services

* `ServiceError`         — why settings, a context or a source could not be had.
* `ServiceError.message` — its text; an error that only passes another one on shows that one's.
* `ServiceError.causes`  — the texts of what lies behind it, from the outside in.  An error that
                           is passed on counts as a cause.
-/

namespace MarketFeed

/-- Why a service could not do its work. -/
inductive ServiceError where
  | value (cause : ValueError)
  | config (message : String)
  /-- A command that belongs into a group was used without one. -/
  | missingParent (command : String)
  | logSetup (location : String) (cause : IoError)
  | registry (cause : RegistryError)
  | source (cause : SourceError)
  deriving DecidableEq, Repr

namespace ServiceError

/-- The text shown for the error. -/
def message : ServiceError → String
  | value cause => cause.message
  | config message => "config error: " ++ message
  | missingParent command => "configuration error: `" ++ command ++ "` has no parent context"
  | logSetup location _ => "log setup failed for " ++ location
  | registry cause => cause.message
  | source cause => cause.message

/-- The texts of what lies behind the error, from the outside in. -/
def causes : ServiceError → List String
  | value cause => [cause.message]
  | config _ => []
  | missingParent _ => []
  | logSetup _ cause => cause.message :: cause.causes
  | registry cause => [cause.message]
  | source cause => cause.message :: cause.causes

end ServiceError

end MarketFeed
