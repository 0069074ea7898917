import MarketFeed.Session

/-!
# Data sources

A source builds an extension for a context, and the extension is run once.  Both are routines:
they send messages through the context's logger, note things on counters, look at the files and may
change them.  Whoever builds and runs notes nothing: what is noted is up to the source.

* `Routine`         — the work of a source, one step after the other.
* `Routine.perform` — doing that work in a session.
* `Extension`, `Source` — what is run, and what builds it.
* `Source.construct`, `Extension.execute` — building and running.
-/

namespace MarketFeed

/-- Work that ends with a value: messages, notes, looks at the files, and changes to them. -/
inductive Routine (α : Type) where
  | done (value : α)
  | log (level : LogLevel) (message : String) (next : Routine α)
  | note (counter : Nat) (note : Note) (next : Routine α)
  | look (next : FileTree → Routine α)
  | store (files : FileTree) (next : Routine α)

namespace Routine

variable {α β ε : Type}

/-- One routine after another. -/
def bind (first : Routine α) (next : α → Routine β) : Routine β :=
  match first with
  | done value => next value
  | log level message rest => log level message (rest.bind next)
  | note counter what rest => note counter what (rest.bind next)
  | look rest => look fun files => (rest files).bind next
  | store files rest => store files (rest.bind next)

instance : Monad Routine where
  pure := done
  bind := bind

/-- Sends the messages one after the other, then goes on. -/
def logAll (messages : List (LogLevel × String)) (next : Routine α) : Routine α :=
  messages.foldr (fun (level, message) rest => log level message rest) next

/-- Does the work of a routine, its messages going through a logger. -/
def perform (logger : Logger) : Routine α → Action ε α
  | done value => pure value
  | log level message next => do
    Action.log logger level message
    next.perform logger
  | note counter what next => do
    Action.record (.noted counter what)
    next.perform logger
  | look next => do
    let s ← get
    (next s.files).perform logger
  | store files next => do
    modify fun s => { s with files }
    next.perform logger

end Routine

/-- What a source runs once for a command. -/
abbrev Extension := Routine (Except SourceError Unit)

/-- A data source: what it is for, and how it builds an extension for a context. -/
structure Source where
  about : String
  build : Context → Routine (Except SourceError Extension)

/-- Does a routine whose value may be an error. -/
def Routine.performOrFail {α : Type} (logger : Logger) (r : Routine (Except SourceError α)) :
    Action SourceError α := do
  Action.ofExcept (← r.perform logger)

/-- Has a source build an extension for a context. -/
def Source.construct (source : Source) (context : Context) : Action SourceError Extension :=
  (source.build context).performOrFail context.logger

/-- Runs an extension that was built for a context. -/
def Extension.execute (extension : Extension) (context : Context) : Action SourceError Unit :=
  extension.performOrFail context.logger

end MarketFeed
