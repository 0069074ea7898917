import MarketFeed.Toml.Scalar

/-!
# Tables of TOML

A document builds up a table of values by name.  Each name is given once, and a table that is
complete is not reopened: how a table came to be tells what may still be added to it.

* `Value`    — strings, other scalars, arrays, tables and arrays of tables.
* `Origin`   — how a table came to be.
* `alter?`   — the table with the one that a path leads to changed.
* `insert?`  — a value under a dotted key.
* `openTable?`, `openElement?` — the headers of a table and of an element of an array of tables.
-/

namespace MarketFeed.Toml

/-- How a table came to be. -/
inductive Origin where
  /-- It was only named on the way to another table's header. -/
  | implied
  /-- It was named by the front part of a dotted key. -/
  | dotted
  /-- It has a header of its own. -/
  | declared
  /-- It was written between braces. -/
  | inline
  deriving DecidableEq, Repr

/-- A value of a document. -/
inductive Value where
  | text (value : String)
  | scalar (kind : Scalar)
  | array (items : List Value)
  | table (origin : Origin) (fields : List (String × Value))
  /-- An array of tables with headers: all but the last one, and the last one, which may grow. -/
  | tables (before : List (List (String × Value))) (last : List (String × Value))

/-- Values by name, in the order in which they were given. -/
abbrev Fields := List (String × Value)

/-- The names that lead from one table to another. -/
abbrev KeyPath := List String

/-- The fields with the value of a name changed. -/
def setField (fields : Fields) (key : String) (value : Value) : Fields :=
  fields.map fun (other, old) => if other = key then (other, value) else (other, old)

/-- The fields with the table that a path leads to changed, where `origin` tells how the table of
these fields came to be.  Tables that are missing on the way come to be as `way` tells.  A dotted
key leads through no table that has a header, and nothing leads into one between braces; an
array of tables is entered at its last element. -/
def alter? (way : Origin) (change : Origin → Fields → Option Fields) :
    KeyPath → Origin → Fields → Option Fields
  | [], origin, fields => change origin fields
  | key :: path, _, fields =>
    match fields.lookup key with
    | none => (alter? way change path way []).map fun new => fields ++ [(key, .table way new)]
    | some (.table origin inner) =>
      -- what is written between braces is complete, and a header closes a table to dotted keys
      if origin = .inline ∨ (way = .dotted ∧ origin = .declared) then none
      else (alter? way change path origin inner).map fun new =>
        setField fields key (.table origin new)
    | some (.tables before last) =>
      (alter? way change path .declared last).map fun new =>
        setField fields key (.tables before new)
    | some _ => none

/-- Adds a field.  The name must be free, and only a dotted key adds to a table that dotted keys
made. -/
def addField? (key : String) (value : Value) (throughDots : Bool) (origin : Origin)
    (fields : Fields) : Option Fields :=
  if (origin = .dotted) = throughDots ∧ (fields.lookup key).isNone then
    some (fields ++ [(key, value)])
  else none

/-- The fields with a value under a dotted key, given as the front part and the last name. -/
def insert? (front : KeyPath) (key : String) (value : Value) (origin : Origin) (fields : Fields) :
    Option Fields :=
  alter? .dotted (addField? key value (front != [])) front origin fields

/-- Gives a table its header.  A table that was only implied may have one still. -/
def declare? (key : String) (_ : Origin) (fields : Fields) : Option Fields :=
  match fields.lookup key with
  | none => some (fields ++ [(key, .table .declared [])])
  | some (.table .implied inner) => some (setField fields key (.table .declared inner))
  | some _ => none

/-- Begins the next element of an array of tables. -/
def extend? (key : String) (_ : Origin) (fields : Fields) : Option Fields :=
  match fields.lookup key with
  | none => some (fields ++ [(key, .tables [] [])])
  | some (.tables before last) => some (setField fields key (.tables (before ++ [last]) []))
  | some _ => none

/-- The document after the header of a table. -/
def openTable? (front : KeyPath) (key : String) (root : Fields) : Option Fields :=
  alter? .implied (declare? key) front .declared root

/-- The document after the header of an element of an array of tables. -/
def openElement? (front : KeyPath) (key : String) (root : Fields) : Option Fields :=
  alter? .implied (extend? key) front .declared root

end MarketFeed.Toml
