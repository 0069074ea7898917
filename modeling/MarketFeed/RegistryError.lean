import MarketFeed.Text.Quoted

/-!
# Errors of the registry

* `RegistryError`         — why a source was not registered, or not found.
* `RegistryError.message` — its text.
-/

namespace MarketFeed

/-- Why a source was not registered, or not found. -/
inductive RegistryError where
  | invalidName (name : String)
  | duplicate (name : String)
  | notRegistered (name : String)
  deriving DecidableEq, Repr

/-- The text shown for the error. -/
def RegistryError.message : RegistryError → String
  | .invalidName name => "invalid source name: " ++ Text.quoted name
  | .duplicate name => "source already registered: " ++ name
  | .notRegistered name => "source not registered: " ++ name

end MarketFeed
