import MarketFeed.CommandLine.Rejection
import MarketFeed.Context.Basic
import MarketFeed.FileTree.Change
import MarketFeed.Shell
import MarketFeed.Terminal.Message

/-!
# Sessions

While a run goes on it works on the files it sees and keeps a journal: everything that it
reports, asks for and tells the user, in the order in which that happens.

* `Note`    — what a source notes of itself.
* `Entry`   — one thing that a journal tells.
* `Session` — the files, the journal, the spans now open and the next unused identity.
* `Action`  — work that changes the session and may fail with an error.
* `Action.record`, `Action.emit`, `Action.log` — adding to the journal.
* `Action.within` — work inside a span.

Main statements: `result_bind` and the laws after it — each action is told by its result and
the session after it, so that nothing else about it is ever unfolded.
-/

namespace MarketFeed

/-- What a source notes of itself, on a counter that it was given. -/
inductive Note where
  /-- It was asked to build an extension. -/
  | built
  /-- An extension that it built was run. -/
  | ran
  /-- It was asked to build an extension for this context. -/
  | saw (context : Context)
  deriving DecidableEq, Repr

/-- One thing that a journal tells. -/
inductive Entry where
  /-- An event, with the spans open at that moment, outermost first. -/
  | event (event : Event) (spans : List Span)
  /-- The end of a span, with the spans around it. -/
  | closed (span : Span) (around : List Span)
  /-- A runtime log notes that it was asked to begin a session: for which console location, and
  with which label. -/
  | logSetUp (console label : String)
  /-- A source notes something on a counter. -/
  | noted (counter : Nat) (note : Note)
  /-- The user is told something. -/
  | told (message : Terminal.Message)
  /-- From here on the terminal shows events that are at least so severe. -/
  | showing (threshold : Severity)
  /-- The arguments lead to no request. -/
  | rejected (rejection : CommandLine.Rejection)
  /-- The completions for a shell are printed. -/
  | completions (shell : Shell)
  deriving DecidableEq, Repr

/-- What a run works on and has reported so far. -/
structure Session where
  files : FileTree
  journal : List Entry
  spans : List Span
  nextIdentity : Nat

/-- A session that begins with the given files. -/
def Session.begin (files : FileTree) : Session := ⟨files, [], [], 0⟩

/-- A session whose journal has one more entry. -/
def Session.add (s : Session) (entry : Entry) : Session :=
  { s with journal := s.journal ++ [entry] }

/-- Work on a session that may fail; what it did to the session up to then stays done. -/
abbrev Action (ε : Type) := ExceptT ε (StateM Session)

namespace Action

variable {ε α : Type}

/-- The result of an action and the session after it. -/
def result (act : Action ε α) (s : Session) : Except ε α × Session := act.run.run s

/-- A result without work. -/
def ofExcept (r : Except ε α) : Action ε α := ExceptT.mk (pure r)

/-- The same work, its error told in another way. -/
def mapError {δ : Type} (f : ε → δ) (act : Action ε α) : Action δ α := ExceptT.adapt f act

/-- Adds an entry to the journal. -/
def record (entry : Entry) : Action ε Unit := modify fun s => s.add entry

/-- Adds an event to the journal, inside the spans now open. -/
def emit (event : Event) : Action ε Unit := modify fun s => s.add (.event event s.spans)

/-- Sends a message through a logger. -/
def log (logger : Logger) (level : LogLevel) (message : String) : Action ε Unit :=
  match logger.event? level message with
  | some event => emit event
  | none => pure ()

/-- Tells the user something. -/
def tell (message : Terminal.Message) : Action ε Unit := record (.told message)

/-- An identity that nothing has yet. -/
def fresh : Action ε Nat :=
  modifyGet fun s => (s.nextIdentity, { s with nextIdentity := s.nextIdentity + 1 })

/-- Work on the files alone; what it did to them stays done when it fails. -/
def onFiles (work : FileTree → Except ε α × FileTree) : Action ε α :=
  ExceptT.mk fun s =>
    let (r, files) := work s.files
    (r, { s with files })

/-- Work inside a span, whose end is told whether or not the work fails. -/
def within (span : Span) (act : Action ε α) : Action ε α :=
  ExceptT.mk fun s =>
    let (r, t) := act.result { s with spans := s.spans ++ [span] }
    -- the end is told inside the spans around, and their list is as it was before
    (r, { t.add (.closed span s.spans) with spans := s.spans })

/-! ## Laws

What each action comes to, told by its result and the session after it. -/

variable {s : Session} {entry : Entry}

@[simp] theorem result_pure (a : α) : (pure a : Action ε α).result s = (.ok a, s) := rfl

/-- A failure is all that comes of what follows it. -/
theorem result_bind {β : Type} (act : Action ε α) (next : α → Action ε β) :
    (act >>= next).result s =
      match act.result s with
      | (.ok a, t) => (next a).result t
      | (.error e, t) => (.error e, t) := by
  show (ExceptT.bindCont next (act.result s).1 : StateM Session _) (act.result s).2 = _
  rcases act.result s with ⟨_ | _, _⟩ <;> rfl

@[simp] theorem result_throw (e : ε) :
    (throw e : Action ε α).result s = (.error e, s) := rfl

@[simp] theorem result_get : (get : Action ε Session).result s = (.ok s, s) := rfl

@[simp] theorem result_ofExcept (r : Except ε α) : (ofExcept r).result s = (r, s) := rfl

@[simp] theorem result_mapError {δ : Type} (f : ε → δ) (act : Action ε α) :
    (mapError f act).result s = ((act.result s).1.mapError f, (act.result s).2) := rfl

@[simp] theorem result_record : (record entry : Action ε Unit).result s = (.ok (), s.add entry) :=
  rfl

@[simp] theorem result_emit (event : Event) :
    (emit event : Action ε Unit).result s = (.ok (), s.add (.event event s.spans)) := rfl

@[simp] theorem result_tell (message : Terminal.Message) :
    (tell message : Action ε Unit).result s = (.ok (), s.add (.told message)) := rfl

@[simp] theorem result_fresh :
    (fresh : Action ε Nat).result s =
      (.ok s.nextIdentity, { s with nextIdentity := s.nextIdentity + 1 }) := rfl

@[simp] theorem result_onFiles (work : FileTree → Except ε α × FileTree) :
    (onFiles work).result s = ((work s.files).1, { s with files := (work s.files).2 }) := rfl

/-- A message that does not pass leaves no trace. -/
theorem result_log (logger : Logger) (level : LogLevel) (message : String) :
    (log logger level message : Action ε Unit).result s =
      (.ok (), match logger.event? level message with
        | some event => s.add (.event event s.spans)
        | none => s) := by
  unfold log
  split <;> rfl

/-- A span changes neither the result nor the files of the work in it. -/
theorem result_within (span : Span) (act : Action ε α) :
    (within span act).result s =
      let (r, t) := act.result { s with spans := s.spans ++ [span] }
      (r, { t.add (.closed span s.spans) with spans := s.spans }) := rfl

end Action

end MarketFeed
