import MarketFeed.Shell
import MarketFeed.Text.Quoted

/-!
# Requests

What a user can ask the program to do.

* `DataRequest`, `ConfigRequest`, `Request` — what is asked for, group by group.
* `DataRequest.words`, `ConfigRequest.words` — how spans tell of a request.
-/

namespace MarketFeed

/-- What can be asked of the group that works with data sources. -/
inductive DataRequest where
  | get (source : String)
  | list
  deriving DecidableEq, Repr

/-- What can be asked of the group that works with the settings. -/
inductive ConfigRequest where
  | showSettings
  | createFile (force : Bool)
  | locateFile
  deriving DecidableEq, Repr

/-- What a user asks the program to do. -/
inductive Request where
  | data (request : DataRequest)
  | config (request : ConfigRequest)
  | completion (shell : Shell)
  deriving DecidableEq, Repr

/-- A request of the data group as spans tell of it. -/
def DataRequest.words : DataRequest → String
  | get source => "Get \x7b source: " ++ Text.quoted source ++ " \x7d"
  | list => "List"

/-- A request of the settings group as spans tell of it. -/
def ConfigRequest.words : ConfigRequest → String
  | showSettings => "Show"
  | createFile force => "Init \x7b force: " ++ (if force then "true" else "false") ++ " \x7d"
  | locateFile => "Path"

end MarketFeed
