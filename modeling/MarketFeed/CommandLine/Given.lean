import MarketFeed.CommandLine.Command
import MarketFeed.CommandLine.Invocation
import MarketFeed.CommandLine.Rejection

/-!
# What is given to a command

* `Given`         — the switches and values that one command has been given.
* `Given.turn`    — one more switch; only verbosity may be asked for again and again.
* `Given.take`    — one more value; no slot takes a second one.
* `Given.request` — what a command asks for with all it has been given.
-/

namespace MarketFeed.CommandLine

/-- The switches and values that one command has been given. -/
structure Given where
  logLevel : Option LogLevel
  home : Option Path
  verbose : Nat
  source : Option String
  force : Bool
  shell : Option Shell
  deriving DecidableEq, Repr

namespace Given

/-- Nothing is given. -/
def nothing : Given := ⟨none, none, 0, none, false, none⟩

/-- Verbosity counts no further than this. -/
def verboseLimit : Nat := 255

/-- One more switch of a command.  Help and the version end the reading at once. -/
def turn (c : Command) (g : Given) : Switch → Except Rejection Given
  | .verbose => .ok { g with verbose := min (g.verbose + 1) verboseLimit }
  | .force => if g.force then .error .conflict else .ok { g with force := true }
  | .help => .error .help
  | .version => .error (.version (c.title ++ " " ++ version ++ "\n"))

/-- However often verbosity is asked for, the count stays at the limit. -/
theorem verbose_turn_le {c : Command} {g h : Given} {switch : Switch}
    (hg : g.verbose ≤ verboseLimit) (ht : g.turn c switch = .ok h) :
    h.verbose ≤ verboseLimit := by
  cases switch with
  | verbose =>
    obtain rfl := Except.ok.inj ht
    exact Nat.min_le_right _ _
  | force =>
    rw [turn] at ht
    split at ht
    · exact nomatch ht
    · obtain rfl := Except.ok.inj ht
      exact hg
  | help => exact nomatch ht
  | version => exact nomatch ht

/-! ## Values -/

/-- A value as text. -/
def textOf (value : Bytes) : Except Rejection String :=
  match Utf8.decode? value with
  | some s => .ok s
  -- only a directory may be named by bytes that are no text
  | none => .error .notText

/-- A value as a level. -/
def levelOf (value : Bytes) : Except Rejection LogLevel := do
  match LogLevel.parse (← textOf value) with
  | .ok level => return level
  | .error e => throw (.refusedValue e.message)

/-- A value as a directory, which no text without bytes names. -/
def directoryOf (value : Bytes) : Except Rejection Path :=
  if value = [] then .error (.invalidValue []) else .ok ⟨value⟩

/-- A value as one of some choices. -/
def choiceOf (choices : List String) (value : Bytes) : Except Rejection String := do
  let s ← textOf value
  if choices.contains s then return s else throw (.invalidValue choices)

/-- A value as a shell. -/
def shellOf (value : Bytes) : Except Rejection Shell :=
  match (Utf8.decode? value).bind Shell.ofName? with
  | some shell => .ok shell
  | none => .error (.invalidValue (Shell.all.map Shell.name))

/-- Nothing is in a slot yet. -/
def vacant {α : Type} (old : Option α) : Except Rejection Unit :=
  if old.isSome then .error .conflict else .ok ()

/-- One more value.  A second one for the same slot is refused before it is looked at. -/
def take (registry : Registry) (g : Given) (slot : Slot) (value : Bytes) :
    Except Rejection Given :=
  match slot with
  | .logLevel => do
    vacant g.logLevel
    return { g with logLevel := some (← levelOf value) }
  | .home => do
    vacant g.home
    return { g with home := some (← directoryOf value) }
  | .source => do
    vacant g.source
    return { g with source := some (← choiceOf (slot.choices registry) value) }
  | .shell => do
    vacant g.shell
    return { g with shell := some (← shellOf value) }

/-! ## Requests -/

/-- What a group asks for that no subcommand follows: nothing can be done. -/
def groupAlone (g : Given) : Except Rejection (Option Request) :=
  if g = nothing then .error .bareGroup else .error .missingSubcommand

/-- What a command asks for with all it has been given. -/
def request (g : Given) : Command → Except Rejection (Option Request)
  | .program => .ok none
  | .config => g.groupAlone
  | .data => g.groupAlone
  | .configInit => .ok (some (.config (.createFile g.force)))
  | .configPath => .ok (some (.config .locateFile))
  | .configShow => .ok (some (.config .showSettings))
  | .dataList => .ok (some (.data .list))
  | .dataGet =>
    match g.source with
    | some source => .ok (some (.data (.get source)))
    | none => .error .missingParameter
  | .completion =>
    match g.shell with
    | some shell => .ok (some (.completion shell))
    | none => .error .missingParameter

/-- What was given holds for an invocation further in as well. -/
def handDown (g : Given) (inner : Invocation) : Invocation :=
  inner.under g.logLevel g.home g.verbose

end Given

end MarketFeed.CommandLine
