import MarketFeed.RuntimeLog

/-!
# Entering a group

* `Context.root` — the root context of a command group: one new logger, named for the group, and
                   one session of the runtime log.
-/

namespace MarketFeed

/-- Makes the root context of the group with the given label.  The logger is there before the
runtime log is asked, and nothing is left of it if the log refuses. -/
def Context.root (label : String) (site : Site) (log : RuntimeLog) :
    Action ServiceError Context := do
  let logger := Logger.make (← Action.fresh) label site.logLevel site.console
  Action.emit logger.created
  Action.mapError (.logSetup site.console.uname) (log.begin site.console label)
  return Context.ofRoot logger site

end MarketFeed
