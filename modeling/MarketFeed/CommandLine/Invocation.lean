import MarketFeed.Path
import MarketFeed.LogLevel
import MarketFeed.Request

/-!
# Invocations

* `Invocation`       — what a command line asks for, with what holds for every command.
* `Invocation.under` — what is given to a group counts for its subcommands, unless they are
                       given something else.
-/

namespace MarketFeed.CommandLine

/-- What a command line asks for. -/
structure Invocation where
  logLevel : Option LogLevel
  home : Option Path
  /-- How often more words were asked for. -/
  verbose : Nat
  request : Option Request
  deriving DecidableEq, Repr

/-- The invocation with what was given further out: it counts where nothing is given further
in.  Counts are not added up. -/
def Invocation.under (inner : Invocation) (logLevel : Option LogLevel) (home : Option Path)
    (verbose : Nat) : Invocation where
  logLevel := inner.logLevel.or logLevel
  home := inner.home.or home
  verbose := if inner.verbose = 0 then verbose else inner.verbose
  request := inner.request

/-- What is asked for is told furthest in. -/
@[simp] theorem Invocation.request_under (inner : Invocation) (logLevel : Option LogLevel)
    (home : Option Path) (verbose : Nat) :
    (inner.under logLevel home verbose).request = inner.request := rfl

/-- Where nothing is given further out, nothing changes. -/
@[simp] theorem Invocation.under_nothing (inner : Invocation) :
    inner.under none none 0 = inner := by
  rcases inner with ⟨level, home, verbose, request⟩
  -- a count of nought is kept as well
  by_cases hv : verbose = 0 <;> simp [under, hv]

end MarketFeed.CommandLine
