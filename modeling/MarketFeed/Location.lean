import MarketFeed.Path
import MarketFeed.Text.Blank
import MarketFeed.ValueError

/-!
# Locations

A location names one participant of the runtime — a service, a market data source, a strategy —
and a locator maps it to directories below one root:

    root/category/group/name/layout/mode

* `Location.make`       — a location, or the part that is refused.
* `Location.uname`      — its unique name, `category/group/name/mode`.
* `Location.layoutDir`  — the directory of its artifacts of one kind.
* `Location.layoutFile` — a file there.

Main statements: `isPart_iff` — a part is accepted if it is not blank and holds no separator;
`make_eq_ok_iff` — a location is made exactly if both parts are accepted.
-/

namespace MarketFeed

/-- How a participant runs. -/
inductive Mode where
  | live
  | data
  | replay
  | backtest
  deriving DecidableEq, Repr

namespace Mode

/-- All modes. -/
def all : List Mode := [live, data, replay, backtest]

/-- The name of a mode. -/
def name : Mode → String
  | live => "live"
  | data => "data"
  | replay => "replay"
  | backtest => "backtest"

end Mode

/-- What a participant does. -/
inductive Category where
  | marketData
  | trading
  | strategy
  | system
  deriving DecidableEq, Repr

namespace Category

/-- All categories. -/
def all : List Category := [marketData, trading, strategy, system]

/-- The name of a category. -/
def name : Category → String
  | marketData => "md"
  | trading => "td"
  | strategy => "strategy"
  | system => "system"

end Category

/-- A kind of artifact that is kept for a participant. -/
inductive Layout where
  | journal
  | database
  | messaging
  | log
  deriving DecidableEq, Repr

namespace Layout

/-- All layouts. -/
def all : List Layout := [journal, database, messaging, log]

/-- The name of a layout, which is both a directory and the ending of its files. -/
def name : Layout → String
  | journal => "journal"
  | database => "db"
  | messaging => "nn"
  | log => "log"

end Layout

/-- A handle that maps locations to directories below one root; copies keep its identity. -/
structure Locator where
  identity : Nat
  root : Path
  deriving DecidableEq, Repr

/-- The two locators have the same root, by components. -/
def Locator.agrees (a b : Locator) : Bool := a.root.agrees b.root

/-- Text that may stand as a part of a location: not blank, without separators, and neither of
the names that lead elsewhere. -/
def isPart (value : String) : Bool :=
  !(Text.trimChars value.toList).isEmpty && !value.toList.contains '/' &&
    !value.toList.contains '\\' && value != "." && value != ".."

/-- One participant of the runtime. -/
structure Location where
  mode : Mode
  category : Category
  group : String
  name : String
  locator : Locator
  isPart_group : isPart group = true
  isPart_name : isPart name = true
  deriving DecidableEq, Repr

namespace Location

/-- The location with the given parts; the group is looked at first. -/
def make (mode : Mode) (category : Category) (group name : String) (locator : Locator) :
    Except ValueError Location :=
  if hg : isPart group = true then
    if hn : isPart name = true then .ok ⟨mode, category, group, name, locator, hg, hn⟩
    else .error (.location .name name)
  else .error (.location .group group)

/-- The unique name of a location. -/
def uname (l : Location) : String :=
  l.category.name ++ "/" ++ l.group ++ "/" ++ l.name ++ "/" ++ l.mode.name

/-- The directory of a location's artifacts of one layout. -/
def layoutDir (l : Location) (layout : Layout) : Path :=
  ((((l.locator.root.child l.category.name).child l.group).child l.name).child
    layout.name).child l.mode.name

/-- The file of a location's artifacts of one layout that has the given name. -/
def layoutFile (l : Location) (layout : Layout) (name : String) : Path :=
  (l.layoutDir layout).child (name ++ "." ++ layout.name)

/-- The two locations name the same participant below the same root. -/
def agrees (a b : Location) : Bool :=
  a.mode == b.mode && a.category == b.category && a.group == b.group && a.name == b.name &&
    a.locator.agrees b.locator

/-! ## Laws -/

/-- Text may stand as a part exactly if it is not blank, holds no separator and is neither `.`
nor `..`. -/
theorem isPart_iff {value : String} :
    isPart value = true ↔
      Text.trim value ≠ "" ∧ '/' ∉ value.toList ∧ '\\' ∉ value.toList ∧ value ≠ "." ∧
        value ≠ ".." := by
  have ht : Text.trim value = "" ↔ Text.trimChars value.toList = [] := by
    rw [Text.trim_eq_empty_iff, Text.trimChars_eq_nil_iff]
  simp [isPart, ht, and_assoc]

/-- A location is made exactly of two accepted parts. -/
theorem make_eq_ok_iff {mode : Mode} {category : Category} {group name : String}
    {locator : Locator} :
    (∃ l, make mode category group name locator = .ok l) ↔
      isPart group = true ∧ isPart name = true := by
  unfold make
  split
  next hg => split <;> simp_all
  next hg => simp_all

end Location

end MarketFeed
