import MarketFeed.Toml.Table

/-!
# Documents of TOML

The second pass goes through the tokens of a document and builds up its table.

* `KeyReader` — a dotted key, read token by token.
* `Reader`    — where the pass stands between two tokens: the document so far, the table whose
                fields come now, and the values begun.
* `Reader.step` — one token.
* `document?` — the fields of a document; `none` if it is malformed.

The values begun are a stack, so one token takes one step and the pass is a fold.
-/

namespace MarketFeed.Toml

/-! ## Keys -/

/-- A dotted key as far as it is read; `complete` if its last name is. -/
structure KeyReader where
  names : KeyPath
  complete : Bool
  deriving DecidableEq, Repr

namespace KeyReader

/-- The reader before a key. -/
def start : KeyReader := ⟨[], false⟩

/-- A character that a name may hold without quotes. -/
def isNameChar (c : Char) : Bool := c.isAlphanum || c == '_' || c == '-'

/-- Reads a token of a key. -/
def step (k : KeyReader) : Token → Option KeyReader
  | .blank _ => some k
  | .word cs =>
    if !k.complete && cs.all isNameChar then some ⟨k.names ++ [String.ofList cs], true⟩ else none
  | .text cs multiline =>
    if !k.complete && !multiline then some ⟨k.names ++ [String.ofList cs], true⟩ else none
  | .dot => if k.complete then some ⟨k.names, false⟩ else none
  | _ => none

end KeyReader

/-- The number of names in a key, and of arrays and tables in each other, that is too large. -/
def depthLimit : Nat := 80

/-- The front part and the last name of a key that is complete. -/
def KeyReader.split? (k : KeyReader) : Option (KeyPath × String) :=
  if k.complete ∧ k.names.length < depthLimit then
    k.names.getLast?.map fun key => (k.names.dropLast, key)
  else none

/-! ## Documents -/

/-- A value begun. -/
inductive Begun where
  /-- The value of a field, under the front part of its key and the last name. -/
  | field (front : KeyPath) (key : String)
  /-- An array with the items read so far. -/
  | array (items : List Value)
  /-- A table between braces with the fields read so far. -/
  | table (fields : Fields)

/-- What may come next. -/
inductive Phase where
  /-- A line begins. -/
  | line
  /-- A line has begun with one bracket. -/
  | bracket
  /-- A header's key, between two brackets on either side if `double`. -/
  | header (double : Bool) (key : KeyReader)
  /-- The second closing bracket of a header. -/
  | closing (front : KeyPath) (key : String)
  /-- Nothing but the end of the line. -/
  | lineEnd
  /-- The key of a field. -/
  | key (key : KeyReader)
  /-- The value of a field. -/
  | value
  /-- An item of an array, or its end. -/
  | item
  /-- A field of a table between braces, or its end. -/
  | field
  /-- More of a word that is a value; `gap` if a space has come after a date. -/
  | word (read : List Char) (gap : Bool)
  /-- A comma, or the end of an array or table. -/
  | separator

/-- Where the pass stands between two tokens. -/
structure Reader where
  root : Fields
  current : KeyPath
  begun : List Begun
  phase : Phase

namespace Reader

/-- The reader before a document. -/
def start : Reader := ⟨[], [], [], .line⟩

/-- Goes on with another phase. -/
def go (r : Reader) (phase : Phase) : Option Reader := some { r with phase }

/-- A value is complete: it goes to where the innermost value begun wants it. -/
def finish (r : Reader) (value : Value) : Option Reader :=
  match r.begun with
  | [] => none
  | .array items :: rest =>
    some { r with begun := .array (items ++ [value]) :: rest, phase := .separator }
  -- a field of a table between braces
  | .field front key :: .table fields :: rest =>
    (insert? front key value .inline fields).map fun fields =>
      { r with begun := .table fields :: rest, phase := .separator }
  -- a field of the table whose header came last
  | .field front key :: rest =>
    (alter? .implied (insert? front key value) r.current .declared r.root).map fun root =>
      { r with root, begun := rest, phase := .lineEnd }
  | .table _ :: _ => none

/-- How many arrays and tables are open. -/
def depth (r : Reader) : Nat :=
  r.begun.countP fun
    | .field _ _ => false
    | _ => true

/-- Opens an array or table, unless too many are. -/
def push (r : Reader) (begun : Begun) (phase : Phase) : Option Reader :=
  if r.depth + 1 < depthLimit then some { r with begun := begun :: r.begun, phase } else none

/-- Closes the innermost array. -/
def closeArray (r : Reader) : Option Reader :=
  match r.begun with
  | .array items :: rest => { r with begun := rest }.finish (.array items)
  | _ => none

/-- Closes the innermost table between braces. -/
def closeTable (r : Reader) : Option Reader :=
  match r.begun with
  | .table fields :: rest => { r with begun := rest }.finish (.table .inline fields)
  | _ => none

/-- Begins a value. -/
def beginValue (r : Reader) : Token → Option Reader
  | .blank _ => some r
  | .word cs => r.go (.word cs false)
  | .text cs _ => r.finish (.text (String.ofList cs))
  | .openBracket => r.push (.array []) .item
  | .openBrace => r.push (.table []) .field
  | _ => none

/-- Begins a key or goes on with it. -/
def readKey (r : Reader) (k : KeyReader) (t : Token) : Option Reader :=
  match t with
  | .equals =>
    k.split?.map fun (front, key) =>
      { r with begun := .field front key :: r.begun, phase := .value }
  | t => (k.step t).bind fun k => r.go (.key k)

/-- Reads the key of a header and what ends it. -/
def readHeader (r : Reader) (double : Bool) (k : KeyReader) (t : Token) : Option Reader :=
  match t with
  | .closeBracket =>
    match k.split? with
    | none => none
    | some (front, key) =>
      if double then r.go (.closing front key)
      else (openTable? front key r.root).map fun root =>
        { r with root, current := front ++ [key], phase := .lineEnd }
  | t => (k.step t).bind fun k => r.go (.header double k)

/-- Reads what may come behind a value in an array or a table between braces. -/
def separate (r : Reader) (t : Token) : Option Reader :=
  match t, r.begun with
  | .blank _, _ => some r
  | .newline, .array _ :: _ => some r
  | .comma, .array _ :: _ => r.go .item
  | .closeBracket, .array _ :: _ => r.closeArray
  -- a table between braces has no comma at its end
  | .comma, .table _ :: _ => r.go (.key .start)
  | .closeBrace, .table _ :: _ => r.closeTable
  | _, _ => none

/-- Reads what may come behind the value of a line. -/
def endLine (r : Reader) : Token → Option Reader
  | .blank _ => some r
  | .newline => r.go .line
  | _ => none

/-- Reads a token behind a complete value. -/
def behindValue (r : Reader) (t : Token) : Option Reader :=
  match r.phase with
  | .lineEnd => r.endLine t
  | _ => r.separate t

/-- Ends a word that is a value, then reads the token behind it. -/
def endWord (r : Reader) (cs : List Char) (t : Token) : Option Reader :=
  match Scalar.ofChars? cs with
  | none => none
  | some kind => (r.finish (.scalar kind)).bind fun r => r.behindValue t

/-- Reads a token behind the characters of a word that is a value. -/
def readWord (r : Reader) (cs : List Char) (gap : Bool) (t : Token) : Option Reader :=
  match t with
  | .word more => r.go (.word (if gap then cs ++ ' ' :: more else cs ++ more) false)
  | .dot => if gap then none else r.go (.word (cs ++ ['.']) false)
  -- behind a date one space may be followed by a time of day
  | .blank [' '] => if isDate cs && !gap then r.go (.word cs true) else r.endWord cs t
  | t => r.endWord cs t

/-- Reads one token. -/
def step (r : Reader) (t : Token) : Option Reader :=
  match r.phase with
  | .line =>
    match t with
    | .blank _ => some r
    | .newline => some r
    | .openBracket => r.go .bracket
    | t => r.readKey .start t
  | .bracket =>
    match t with
    | .openBracket => r.go (.header true .start)
    | t => r.readHeader false .start t
  | .header double k => r.readHeader double k t
  | .closing front key =>
    match t with
    | .closeBracket =>
      (openElement? front key r.root).map fun root =>
        { r with root, current := front ++ [key], phase := .lineEnd }
    | _ => none
  | .lineEnd => r.endLine t
  | .key k => r.readKey k t
  | .value => r.beginValue t
  | .item =>
    match t with
    | .newline => some r
    | .closeBracket => r.closeArray
    | t => r.beginValue t
  | .field =>
    match t with
    | .blank _ => some r
    | .closeBrace => r.closeTable
    | t => r.readKey .start t
  | .word cs gap => r.readWord cs gap t
  | .separator => r.separate t

/-- The fields of a document that ends here. -/
def fields? (r : Reader) : Option Fields :=
  match r.phase with
  | .line => some r.root
  | _ => none

end Reader

/-- The fields of a document; `none` if it is malformed. -/
def document? (text : String) : Option Fields :=
  match tokens? text.toList with
  | none => none
  | some tokens => (tokens.foldlM Reader.step Reader.start).bind Reader.fields?

end MarketFeed.Toml
