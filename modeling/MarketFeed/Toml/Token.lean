/-!
# The words and signs of a TOML document

A document is read in two passes.  The first one, here, goes through its characters and makes
tokens of them: strings with their escapes resolved, words, signs, blanks and line ends.
Comments leave no token.

* `Token`     — what the first pass makes.
* `Lexer`     — where the pass stands between two characters.
* `Lexer.run` — the tokens of the characters from there on.
* `tokens?`   — the tokens of a document.

The pass takes one character at a time, so `Lexer.run` is recursion on the list of characters;
a character that ends a word or a string is looked at again from the ground.
-/

namespace MarketFeed.Toml

/-- A token of a document. -/
inductive Token where
  /-- Spaces and tabs. -/
  | blank (chars : List Char)
  | newline
  /-- Letters, digits and the signs `_`, `-`, `+` and `:`. -/
  | word (chars : List Char)
  /-- A string; `multiline` if it was written between three quotes. -/
  | text (value : List Char) (multiline : Bool)
  | dot
  | comma
  | equals
  | openBracket
  | closeBracket
  | openBrace
  | closeBrace
  deriving DecidableEq, Repr

/-! ## Characters -/

/-- A space or a tab. -/
def isBlankChar (c : Char) : Bool := c == ' ' || c == '\t'

/-- A character that may stand in comments and strings as it is: the tab and all that is no
control character of ASCII. -/
def isPlainChar (c : Char) : Bool := c == '\t' || (0x20 ≤ c.toNat && c.toNat != 0x7F)

/-- A character of a word. -/
def isWordChar (c : Char) : Bool := c.isAlphanum || c == '_' || c == '-' || c == '+' || c == ':'

/-- The value of a digit in base sixteen. -/
def hexValue? (c : Char) : Option Nat :=
  if '0' ≤ c && c ≤ '9' then some (c.toNat - '0'.toNat)
  else if 'a' ≤ c && c ≤ 'f' then some (c.toNat - 'a'.toNat + 10)
  else if 'A' ≤ c && c ≤ 'F' then some (c.toNat - 'A'.toNat + 10)
  else none

/-- The sign that a character is on its own. -/
def sign? : Char → Option Token
  | '.' => some .dot
  | ',' => some .comma
  | '=' => some .equals
  | '[' => some .openBracket
  | ']' => some .closeBracket
  | '{' => some .openBrace
  | '}' => some .closeBrace
  | _ => none

/-- The character that a backslash and a letter stand for. -/
def escape? : Char → Option Char
  | 'b' => some '\x08'
  | 't' => some '\t'
  | 'n' => some '\n'
  | 'f' => some '\x0c'
  | 'r' => some '\r'
  | '"' => some '"'
  | '\\' => some '\\'
  | _ => none

/-! ## The lexer -/

/-- How a string is quoted: by which sign, and whether by three of them. -/
structure Quoting where
  mark : Char
  multiline : Bool
  deriving DecidableEq, Repr

/-- Backslashes escape between double quotes alone. -/
def Quoting.escapes (q : Quoting) : Bool := q.mark == '"'

/-- Where the lexer stands inside a string. -/
inductive Inside where
  /-- Right behind three quotes: a line end here is not part of the string. -/
  | opening
  | plain
  /-- Behind so many quotes, in a string that three of them end. -/
  | quotes (count : Nat)
  /-- Behind a backslash. -/
  | escape
  /-- Inside a code point in base sixteen, with so many digits to come. -/
  | code (left : Nat) (value : Nat)
  /-- Inside the blanks that a backslash at the end of a line takes away, before or after the
  line end. -/
  | skipping (behind : Bool)
  deriving DecidableEq, Repr

/-- Where the lexer stands between two characters.  What was read of the token begun is kept in
reverse. -/
inductive Lexer where
  | ground
  | blank (read : List Char)
  | word (read : List Char)
  | comment
  /-- Behind one quote, which may begin a string or be the first of three. -/
  | oneQuote (mark : Char)
  /-- Behind two quotes: an empty string, unless a third one comes. -/
  | twoQuotes (mark : Char)
  | string (quoting : Quoting) (read : List Char) (inside : Inside)
  deriving DecidableEq, Repr

namespace Lexer

/-- Reads a character that begins a token. -/
def start (c : Char) : Option (List Token × Lexer) :=
  if isBlankChar c then some ([], blank [c])
  else if c = '\n' then some ([.newline], ground)
  else if c = '#' then some ([], comment)
  else if c = '"' ∨ c = '\'' then some ([], oneQuote c)
  else if isWordChar c then some ([], word [c])
  else (sign? c).map fun token => ([token], ground)

/-- Ends a token, then reads the character behind it. -/
def endThen (token : Token) (c : Char) : Option (List Token × Lexer) :=
  (start c).map fun (more, next) => (token :: more, next)

/-- Reads a character of a string that stands for itself or ends the string. -/
def plainStep (q : Quoting) (read : List Char) (c : Char) : Option (List Token × Lexer) :=
  if c = q.mark then
    if q.multiline then some ([], string q read (.quotes 1))
    else some ([.text read.reverse false], ground)
  else if c = '\\' && q.escapes then some ([], string q read .escape)
  else if isPlainChar c || (q.multiline && c == '\n') then some ([], string q (c :: read) .plain)
  else none

/-- Reads the character behind a backslash. -/
def escapeStep (q : Quoting) (read : List Char) (c : Char) : Option (List Token × Lexer) :=
  if c = 'u' then some ([], string q read (.code 4 0))
  else if c = 'U' then some ([], string q read (.code 8 0))
  else if q.multiline && isBlankChar c then some ([], string q read (.skipping false))
  else if q.multiline && c == '\n' then some ([], string q read (.skipping true))
  else (escape? c).map fun d => ([], string q (d :: read) .plain)

/-- Reads a digit of a code point.  Only a code point that is a character will do. -/
def codeStep (q : Quoting) (read : List Char) (left value : Nat) (c : Char) :
    Option (List Token × Lexer) :=
  match hexValue? c with
  | none => none
  | some digit =>
    let value := value * 16 + digit
    if left ≤ 1 then
      if value.isValidChar then some ([], string q (Char.ofNat value :: read) .plain) else none
    else some ([], string q read (.code (left - 1) value))

/-- Reads a character of a string. -/
def stringStep (q : Quoting) (read : List Char) (inside : Inside) (c : Char) :
    Option (List Token × Lexer) :=
  match inside with
  | .opening => if c = '\n' then some ([], string q read .plain) else plainStep q read c
  | .plain => plainStep q read c
  | .quotes count =>
    if c = q.mark then
      -- two quotes may stand before the three that end the string
      if count = 4 then some ([.text (q.mark :: q.mark :: read).reverse true], ground)
      else some ([], string q read (.quotes (count + 1)))
    else if 3 ≤ count then
      endThen (.text (List.replicate (count - 3) q.mark ++ read).reverse true) c
    else plainStep q (List.replicate count q.mark ++ read) c
  | .escape => escapeStep q read c
  | .code left value => codeStep q read left value c
  | .skipping false =>
    if isBlankChar c then some ([], string q read (.skipping false))
    else if c = '\n' then some ([], string q read (.skipping true))
    else none
  | .skipping true =>
    if isBlankChar c || c == '\n' then some ([], string q read (.skipping true))
    else plainStep q read c

/-- Reads one character: the tokens that end with it, and where the lexer stands behind it. -/
def step : Lexer → Char → Option (List Token × Lexer)
  | ground, c => start c
  | blank read, c =>
    if isBlankChar c then some ([], blank (c :: read)) else endThen (.blank read.reverse) c
  | word read, c =>
    if isWordChar c then some ([], word (c :: read)) else endThen (.word read.reverse) c
  | comment, c =>
    if c = '\n' then some ([.newline], ground)
    else if isPlainChar c then some ([], comment)
    else none
  | oneQuote mark, c =>
    if c = mark then some ([], twoQuotes mark) else plainStep ⟨mark, false⟩ [] c
  | twoQuotes mark, c =>
    if c = mark then some ([], string ⟨mark, true⟩ [] .opening)
    else endThen (.text [] false) c
  | string q read inside, c => stringStep q read inside c

/-- The tokens of the characters, which must end on the ground. -/
def run : Lexer → List Char → Option (List Token)
  | ground, [] => some []
  | _, [] => none
  | lexer, c :: rest =>
    match lexer.step c with
    | none => none
    | some (out, next) => (next.run rest).map (out ++ ·)

end Lexer

/-! ## Documents -/

/-- The characters with each carriage return and line feed made one line end. -/
def unifyLineEnds : List Char → List Char
  | '\r' :: '\n' :: rest => '\n' :: unifyLineEnds rest
  | c :: rest => c :: unifyLineEnds rest
  | [] => []

/-- The mark that may open a text, and means nothing. -/
def byteOrderMark : Char := '\uFEFF'

/-- The characters without the mark that may open a text. -/
def withoutMark : List Char → List Char
  | c :: rest => if c = byteOrderMark then rest else c :: rest
  | [] => []

/-- The tokens of a document.  The end of the text ends its last line. -/
def tokens? (document : List Char) : Option (List Token) :=
  Lexer.ground.run (unifyLineEnds (withoutMark document) ++ ['\n'])

end MarketFeed.Toml
