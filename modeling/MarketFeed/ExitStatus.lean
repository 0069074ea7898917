/-!
# Exit statuses

* `ExitStatus`      — how a run ends.
* `ExitStatus.code` — the number that tells the caller.
-/

namespace MarketFeed

/-- How a run ends. -/
inductive ExitStatus where
  | ok
  /-- The arguments could not be read. -/
  | rejected
  | usage
  | dataError
  | software
  | cannotCreate
  | ioError
  | config
  deriving DecidableEq, Repr

namespace ExitStatus

/-- All statuses, by ascending code. -/
def all : List ExitStatus :=
  [ok, rejected, usage, dataError, software, cannotCreate, ioError, config]

/-- The number that tells the caller how the run ended. -/
def code : ExitStatus → Nat
  | ok => 0
  | rejected => 2
  | usage => 64
  | dataError => 65
  | software => 70
  | cannotCreate => 73
  | ioError => 74
  | config => 78

theorem code_injective {a b : ExitStatus} (h : a.code = b.code) : a = b := by
  revert h
  cases a <;> cases b <;> decide

end ExitStatus

end MarketFeed
