import MarketFeed.Source.Basic

/-!
# Counting sources

Sources for trying a command out.  They note on a counter what is asked of them.

* `Source.counting` — a source that counts what it builds and runs, and succeeds or fails as asked.
* `Source.watched`  — any source, made to note the contexts that it is asked to build for.
* `Entry.notes`      — what a journal's entries tell of a counter; `Entry.builds`, `Entry.runs` and
                       `Entry.seen` pick out of it.
-/

namespace MarketFeed

/-- A source whose extensions do nothing but count, and fail in the end if asked to. -/
def Source.counting (counter : Nat) (name about : String) (fails : Bool) : Source where
  about
  build _ := .note counter .built <| .done <| .ok <| .note counter .ran <| .done <|
    if fails then .error (.failed name "simulated failure") else .ok ()

/-- The same source, which also notes each context that it is asked to build for. -/
def Source.watched (counter : Nat) (source : Source) : Source where
  about := source.about
  build context := .note counter (.saw context) (source.build context)

/-- What was noted on a counter, in order. -/
def Entry.notes (entries : List Entry) (counter : Nat) : List Note :=
  entries.filterMap fun
    | .noted other note => if other = counter then some note else none
    | _ => none

/-- How often an extension was built, as a counter tells. -/
def Entry.builds (entries : List Entry) (counter : Nat) : Nat :=
  (Entry.notes entries counter).count .built

/-- How often an extension was run, as a counter tells. -/
def Entry.runs (entries : List Entry) (counter : Nat) : Nat :=
  (Entry.notes entries counter).count .ran

/-- The contexts that an extension was to be built for, as a counter tells, in order. -/
def Entry.seen (entries : List Entry) (counter : Nat) : List Context :=
  (Entry.notes entries counter).filterMap fun
    | .saw context => some context
    | _ => none

end MarketFeed
