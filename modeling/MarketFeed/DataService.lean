import MarketFeed.Context.Root
import MarketFeed.Registry

/-!
# The data service

The group of commands that work with data sources.  Entering it makes one root context; each
command of the group works in a child of it.

* `DataService.enter` — entering the group.
* `Group.get`         — running one source once.
* `Group.sources`     — the sources there are.
-/

namespace MarketFeed

/-- The label of the group, which names its logger and its log. -/
def dataGroup : String := "data"

/-- What the group works with. -/
structure DataService where
  registry : Registry
  log : RuntimeLog

/-- The group once it is entered. -/
structure Group where
  registry : Registry
  context : Context

/-- The part of the program that the service's events come from. -/
def DataService.target : String := "kfc_data::application::services::data"

/-- The event that tells of an entered group. -/
def DataService.entered (context : Context) : Event where
  severity := .debug
  target := DataService.target
  message := "entered data group"
  fields := [⟨"runtime_dir", .words context.frame.runtimeDir.text⟩]

/-- Enters the group. -/
def DataService.enter (service : DataService) (site : Site) :
    Action ServiceError Group := do
  let context ← Context.root dataGroup site service.log
  Action.emit (DataService.entered context)
  return ⟨service.registry, context⟩

namespace Group

/-- The span of running a source. -/
def getSpan (source : String) : Span where
  name := "get"
  target := DataService.target
  fields := [⟨"source", .text source⟩]

/-- Builds the extension of a source for a new child context and runs it once.  An error of the
source is passed on as it is. -/
def get (group : Group) (name : String) : Action ServiceError Unit :=
  Action.within (getSpan name) do
    -- an unknown name fails inside the span, as every later step does
    let context ← Action.ofExcept (Context.child "get" (some group.context))
    let source ← Action.mapError .registry (Action.ofExcept (group.registry.find name))
    let extension ← Action.mapError .source (source.construct context)
    Action.log context.logger .info ("running data source " ++ name)
    Action.mapError .source (extension.execute context)
    Action.log context.logger .info ("data source " ++ name ++ " finished")

/-- The names of the sources with what they are for, in order. -/
def sources (group : Group) : List (String × String) := group.registry.describe

end Group

end MarketFeed
