import MarketFeed.CommandLine.Argument
import MarketFeed.CommandLine.Given

/-!
# Reading a command line

Arguments are read from left to right, command by command.  The value of a slot may be part of
the argument that names it or stand alone after it.  In the second case it is looked at only
when something else is given to the same command, or when nothing follows; whatever is wrong
with the arguments in between is noticed first.

* `Reading`          — a command in progress: what it has been given and what is still open.
* `Reading.settle`   — looking at the value that is still open.
* `Reading.step`     — one more argument of the same command.
* `Invocation.read`  — the invocation that the arguments of a command stand for.
* `Invocation.parse` — the invocation of a whole command line, which begins with the name that
                       the program was called by.
-/

namespace MarketFeed.CommandLine

/-- The slot whose value is still open. -/
inductive Pending where
  | nothing
  /-- A slot was named; its value is next. -/
  | wanted (slot : Slot)
  /-- A slot has a value that was not looked at yet. -/
  | unread (slot : Slot) (value : Bytes)
  deriving DecidableEq, Repr

/-- A command whose arguments are being read. -/
structure Reading where
  command : Command
  given : Given
  pending : Pending
  /-- The places that no value stands in yet. -/
  places : List Slot
  /-- Two dashes were met: only values follow. -/
  escaped : Bool
  deriving DecidableEq, Repr

namespace Reading

/-- The reading of a command before its first argument. -/
def start (c : Command) : Reading := ⟨c, .nothing, .nothing, c.places, false⟩

/-- The value of a slot is the next argument. -/
def isWaiting (r : Reading) : Bool :=
  match r.pending with
  | .wanted _ => true
  | _ => false

/-- Looks at the value that is still open; it must be there by now. -/
def settle (registry : Registry) (r : Reading) : Except Rejection Reading :=
  match r.pending with
  | .nothing => .ok r
  -- the value should have come by now
  | .wanted slot => .error (.invalidValue (slot.choices registry))
  | .unread slot value => do
    return { r with given := ← r.given.take registry slot value, pending := .nothing }

/-- A switch is named. -/
def turn (registry : Registry) (r : Reading) (switch : Switch) : Except Rejection Reading := do
  let r ← r.settle registry
  return { r with given := ← r.given.turn r.command switch }

/-- A slot is named with its value in the same argument. -/
def fill (registry : Registry) (r : Reading) (slot : Slot) (value : Bytes) :
    Except Rejection Reading := do
  let r ← r.settle registry
  return { r with given := ← r.given.take registry slot value }

/-- A slot is named, and its value is to follow. -/
def await (registry : Registry) (r : Reading) (slot : Slot) : Except Rejection Reading := do
  let r ← r.settle registry
  return { r with pending := .wanted slot }

/-- A word after two dashes, perhaps with a value. -/
def long (registry : Registry) (r : Reading) (word : Bytes) (value : Option Bytes) :
    Except Rejection Reading :=
  match r.command.byName? word, value with
  | none, _ => .error .unknownArgument
  | some (.switch switch), none => r.turn registry switch
  | some (.switch _), some _ => .error .needlessValue
  | some (.slot slot), none => r.await registry slot
  | some (.slot slot), some value => r.fill registry slot value

/-- The value in an argument after a letter: an equals sign may come before it. -/
def attached : Bytes → Bytes
  | [] => []
  | b :: rest => if b = equals then rest else b :: rest

/-- A letter after a dash and what follows it: more letters after a switch, a value after the
name of a slot. -/
def letters (registry : Registry) (r : Reading) (first : UInt8) (rest : Bytes) :
    Except Rejection Reading :=
  match r.command.byLetter? first, rest with
  | none, _ => .error .unknownArgument
  | some (.switch switch), [] => r.turn registry switch
  -- more letters may follow a switch in the same argument
  | some (.switch switch), second :: rest => do
    let r ← r.turn registry switch
    r.letters registry second rest
  | some (.slot slot), [] => r.await registry slot
  | some (.slot slot), b :: rest => r.fill registry slot (attached (b :: rest))

/-- Why a value cannot stand where no place is left. -/
def leftOver (r : Reading) (value : Bytes) : Rejection :=
  let c := r.command
  if c.subcommands.isEmpty then .unknownArgument
  -- after two dashes the name of a subcommand is no subcommand
  else if r.escaped && ((c.subcommand? value).isSome || c.isHelp value) then .unknownArgument
  else .unknownSubcommand

/-- A value that stands alone goes to the next free place. -/
def stand (registry : Registry) (r : Reading) (value : Bytes) : Except Rejection Reading :=
  match r.places with
  | [] => .error (r.leftOver value)
  | slot :: places => do
    let r ← r.settle registry
    return { r with places, pending := .unread slot value }

/-- One more argument that is neither behind two dashes nor the name of a subcommand. -/
def step (registry : Registry) (r : Reading) : Argument → Except Rejection Reading
  | .escape => .ok { r with escaped := true }
  | .long word value => r.long registry word value
  | .letters first rest => r.letters registry first rest
  | .plain value =>
    match r.pending with
    | .wanted slot => .ok { r with pending := .unread slot value }
    | _ => r.stand registry value

/-- The invocation of a command that nothing follows. -/
def finish (registry : Registry) (r : Reading) : Except Rejection Invocation := do
  let r ← r.settle registry
  let request ← r.given.request r.command
  return r.given.handDown ⟨none, none, 0, request⟩

/-- What is given to a command counts for an invocation further in as well. -/
def enclose (registry : Registry) (r : Reading) (inner : Invocation) :
    Except Rejection Invocation := do
  let r ← r.settle registry
  return r.given.handDown inner

end Reading

namespace Invocation

/-- The invocation that the arguments of a command stand for.  A subcommand is read to its end
before the value that is still open further out is looked at. -/
def read (registry : Registry) (r : Reading) : List Bytes → Except Rejection Invocation
  | [] => r.finish registry
  | arg :: rest =>
    -- behind two dashes nothing is a name, not even while a value is awaited
    if r.escaped then do
      read registry (← r.stand registry arg) rest
    -- an awaited value may be spelled like a subcommand
    else if r.isWaiting then do
      read registry (← r.step registry (.ofBytes arg)) rest
    -- help looks at the rest of the command line on its own and ignores what is open
    else if r.command.isHelp arg then
      .error (if r.command.explains rest then .help else .unknownSubcommand)
    else
      match r.command.subcommand? arg with
      | some c => do
        r.enclose registry (← read registry (.start c) rest)
      | none => do
        read registry (← r.step registry (.ofBytes arg)) rest

/-- The invocation that a whole command line stands for.  Its first argument is the name that
the program was called by, which does not matter. -/
def parse (registry : Registry) (args : List Bytes) : Except Rejection Invocation :=
  read registry (.start .program) (args.drop 1)

end Invocation

end MarketFeed.CommandLine
