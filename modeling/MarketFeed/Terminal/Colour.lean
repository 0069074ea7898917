import MarketFeed.Environment

/-!
# Whether messages are coloured

* `isColoured` — the variables `CLICOLOR_FORCE`, `NO_COLOR` and `CLICOLOR` decide, in this order,
                 and then whether the output is a terminal.
-/

namespace MarketFeed.Terminal

/-- A variable is there and does not say no. -/
def isOn (e : Environment) (name : String) : Bool := (e.text? name).any (· != "0")

/-- A variable is there and says no. -/
def isOff (e : Environment) (name : String) : Bool := e.text? name == some "0"

/-- Messages are coloured. -/
def isColoured (e : Environment) (toTerminal : Bool) : Bool :=
  if isOn e "CLICOLOR_FORCE" then true
  else if (e.text? "NO_COLOR").isSome then false
  else toTerminal && !isOff e "CLICOLOR"

end MarketFeed.Terminal
