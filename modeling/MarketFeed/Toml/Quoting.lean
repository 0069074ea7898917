import MarketFeed.Text.Quoted

/-!
# Strings as TOML writes them

A string can be written in four ways.  The plainest one that can hold the text is chosen:
double quotes, single quotes, three double quotes, three single quotes.  Text that fits none of
them is escaped between double quotes, three of them if it has a line end.

* `Style`        — the four ways.
* `styleFor`     — the one that is chosen for a text.
* `Style.write`  — a text written in a style.
* `quotedText`   — a text written in the style chosen for it.

Main statement: `longestRun_eq_zero_iff` — the length of the longest run of a sign tells whether
the sign occurs.
-/

namespace MarketFeed.Toml

/-- A way to write a string. -/
inductive Style where
  | basic
  | literal
  | multilineBasic
  | multilineLiteral
  deriving DecidableEq, Repr

/-- A control character of ASCII that only an escape can write. -/
def isControl (c : Char) : Bool := (c.toNat < 0x20 && c != '\t' && c != '\n') || c.toNat == 0x7F

/-- The length of the longest run of a sign, where `now` of them stand just before the text and
`best` is the longest run before. -/
def longestRunFrom (mark : Char) (now best : Nat) : List Char → Nat
  | [] => best
  | c :: rest =>
    if c = mark then longestRunFrom mark (now + 1) (max best (now + 1)) rest
    else longestRunFrom mark 0 best rest

/-- The length of the longest run of a sign. -/
def longestRun (mark : Char) (cs : List Char) : Nat := longestRunFrom mark 0 0 cs

/-- The first style that can hold the text, from the plainest on. -/
def styleFor (cs : List Char) : Style :=
  let controls := cs.any isControl
  let backslash := cs.contains '\\'
  let lineEnd := cs.contains '\n'
  let double := longestRun '"' cs
  let single := longestRun '\'' cs
  if !controls && !backslash && double == 0 && !lineEnd then .basic
  else if !controls && single == 0 && !lineEnd then .literal
  else if !controls && !backslash && double ≤ 2 then .multilineBasic
  else if !controls && single ≤ 2 then .multilineLiteral
  else if lineEnd then .multilineBasic
  else .basic

/-! ## Writing -/

/-- The escape of a character between double quotes, if it needs one there; quotes and line ends
are left to the style. -/
def escapeOf? (c : Char) : Option (List Char) :=
  if c = '\x08' then some ['\\', 'b']
  else if c = '\t' then some ['\\', 't']
  else if c = '\x0c' then some ['\\', 'f']
  else if c = '\r' then some ['\\', 'r']
  else if c = '\\' then some ['\\', '\\']
  else if isControl c then
    let digits := (Nat.toDigits 16 c.toNat).map Char.toUpper
    some ('\\' :: 'u' :: List.replicate (4 - digits.length) '0' ++ digits)
  else none

/-- The text between double quotes. -/
def escaped (cs : List Char) : List Char :=
  cs.flatMap fun c =>
    if c = '"' then ['\\', '"']
    else if c = '\n' then ['\\', 'n']
    else (escapeOf? c).getD [c]

/-- The text between three double quotes, where `run` quotes stand just before: every third quote
of a run is escaped, so that three never come together. -/
def multilineEscaped (run : Nat) : List Char → List Char
  | [] => []
  | c :: rest =>
    if c = '"' then
      -- the third quote in a row would end the string
      if run = 2 then '\\' :: '"' :: multilineEscaped 0 rest
      else '"' :: multilineEscaped (run + 1) rest
    else if c = '\n' then '\n' :: multilineEscaped 0 rest
    else (escapeOf? c).getD [c] ++ multilineEscaped 0 rest

/-- The line end that goes before text with line ends, behind three quotes. -/
def leadingLineEnd (cs : List Char) : List Char := if cs.contains '\n' then ['\n'] else []

/-- A text written in a style. -/
def Style.write (style : Style) (cs : List Char) : List Char :=
  match style with
  | .basic => ['"'] ++ escaped cs ++ ['"']
  | .literal => ['\''] ++ cs ++ ['\'']
  | .multilineBasic =>
    ['"', '"', '"'] ++ leadingLineEnd cs ++ multilineEscaped 0 cs ++ ['"', '"', '"']
  | .multilineLiteral => ['\'', '\'', '\''] ++ leadingLineEnd cs ++ cs ++ ['\'', '\'', '\'']

/-- A text written in the style chosen for it. -/
def quotedText (s : String) : String := String.ofList ((styleFor s.toList).write s.toList)

/-! ## Laws -/

theorem le_longestRunFrom {mark : Char} {now best : Nat} {cs : List Char} :
    best ≤ longestRunFrom mark now best cs := by
  induction cs generalizing now best with
  | nil => exact Nat.le_refl _
  | cons c rest ih =>
    rw [longestRunFrom]
    split
    · exact Nat.le_trans (Nat.le_max_left _ _) ih
    · exact ih

/-- The sign occurs exactly if its longest run is not empty. -/
theorem longestRun_eq_zero_iff {mark : Char} {cs : List Char} :
    longestRun mark cs = 0 ↔ mark ∉ cs := by
  unfold longestRun
  induction cs with
  | nil => simp [longestRunFrom]
  | cons c rest ih =>
    rw [longestRunFrom]
    by_cases hc : c = mark
    · have hle : max 0 (0 + 1) ≤ longestRunFrom mark (0 + 1) (max 0 (0 + 1)) rest :=
        le_longestRunFrom
      rw [if_pos hc]
      constructor
      · intro h
        omega
      · intro h
        simp [hc] at h
    · rw [if_neg hc, ih]
      simp [Ne.symm hc]

end MarketFeed.Toml
