import MarketFeed.Toml.Token

/-!
# Numbers, moments and truth values of TOML

A document may hold values that are no strings.  Nothing is done with them, but they must be well
formed, so what is kept of them is their kind.

* `Scalar`          — the kinds.
* `Scalar.ofChars?` — the kind that a word writes, if it writes one.
* `isDate`          — a date alone, behind which a time may follow after a space.
-/

namespace MarketFeed.Toml

/-- A kind of value that is written as a word. -/
inductive Scalar where
  | boolean
  | integer
  | float
  | moment
  deriving DecidableEq, Repr

/-! ## Digits -/

/-- Digits of a kind, between which single underscores may stand. -/
def isGrouped (isDigit : Char → Bool) (cs : List Char) : Bool :=
  (cs.splitOn '_').all fun group => !group.isEmpty && group.all isDigit

/-- The number that digits write in a base, whatever stands between them. -/
def numeral (base : Nat) (cs : List Char) : Nat :=
  cs.foldl (fun n c =>
    match hexValue? c with
    | some digit => n * base + digit
    | none => n) 0

/-- The characters behind a sign, if there is one. -/
def unsigned : List Char → List Char
  | '+' :: rest => rest
  | '-' :: rest => rest
  | cs => cs

/-- Digits in base ten without a needless zero in front. -/
def isWhole (cs : List Char) : Bool :=
  isGrouped Char.isDigit cs && (cs.head? != some '0' || cs == ['0'])

/-! ## Integers -/

/-- What an integer must stay below: 2^63. -/
def integerBound : Nat := 0x8000000000000000

/-- An integer in base ten, between -2^63 and 2^63 - 1. -/
def isDecimal (cs : List Char) : Bool :=
  isWhole (unsigned cs) &&
    if cs.head? == some '-' then numeral 10 cs ≤ integerBound
    else numeral 10 cs < integerBound

/-- Digits below 2^63 in a base, behind the letter that tells the base. -/
def isBased (base : Nat) (cs : List Char) : Bool :=
  isGrouped (fun c => match hexValue? c with
    | some digit => digit < base
    | none => false) cs && numeral base cs < integerBound

/-- An integer in base ten, sixteen, eight or two. -/
def isInteger : List Char → Bool
  | '0' :: 'x' :: rest => isBased 16 rest
  | '0' :: 'o' :: rest => isBased 8 rest
  | '0' :: 'b' :: rest => isBased 2 rest
  | cs => isDecimal cs

/-! ## Floating-point numbers -/

/-- The number `mantissa` · 10^(`up` - `down`) rounds to a double below infinity: it is less than
2^1024 - 2^970, half a step above the largest one.  The digits are counted first, so that no
larger powers are formed than the answer needs. -/
def isFinite (mantissa up down : Nat) : Bool :=
  let digits := (Nat.toDigits 10 mantissa).length
  if mantissa = 0 ∨ digits + up ≤ 308 + down then true
  else if 310 + down < digits + up then false
  else
    let bound := Nat.pow 2 1024 - Nat.pow 2 970
    if down ≤ up then mantissa * Nat.pow 10 (up - down) < bound
    else mantissa < bound * Nat.pow 10 (down - up)

/-- A letter that begins an exponent. -/
def isExponentMark (c : Char) : Bool := c == 'e' || c == 'E'

/-- The fraction behind a whole part, or nothing where there is none. -/
def fraction? : List Char → Option (List Char)
  | [] => some []
  | '.' :: digits => if isGrouped Char.isDigit digits then some digits else none
  | _ => none

/-- The exponent behind its mark, or nothing where there is none. -/
def exponent? : List Char → Option (List Char)
  | [] => some []
  | _ :: exponent => if isGrouped Char.isDigit (unsigned exponent) then some exponent else none

/-- A number with a fraction or an exponent, or one that is infinite or none at all.  A number
that is too large is refused; one that is too small is not. -/
def isFloat (cs : List Char) : Bool :=
  let body := unsigned cs
  if body = ['i', 'n', 'f'] ∨ body = ['n', 'a', 'n'] then true
  else
    let head := body.takeWhile fun c => !isExponentMark c
    let tail := body.dropWhile fun c => !isExponentMark c
    let whole := head.takeWhile (· != '.')
    match fraction? (head.dropWhile (· != '.')), exponent? tail with
    | some fraction, some exponent =>
      let places := (fraction.filter Char.isDigit).length
      let power := numeral 10 exponent
      let below := exponent.head? == some '-'
      isWhole whole && !(fraction.isEmpty && exponent.isEmpty) &&
        -- a negative number that is too large passes: it is below all bounds
        (cs.head? == some '-' ||
          isFinite (numeral 10 (whole ++ fraction)) (if below then 0 else power)
            (places + if below then power else 0))
    | _, _ => false

/-! ## Moments -/

/-- The number that two digits write, if it lies between the bounds. -/
def isTwoDigits (low high : Nat) (a b : Char) : Bool :=
  a.isDigit && b.isDigit && low ≤ numeral 10 [a, b] && numeral 10 [a, b] ≤ high

/-- How many days a month has in a year. -/
def daysIn (year month : Nat) : Nat :=
  if month = 2 then
    if year % 4 = 0 ∧ (year % 100 ≠ 0 ∨ year % 400 = 0) then 29 else 28
  else if month = 4 ∨ month = 6 ∨ month = 9 ∨ month = 11 then 30
  else 31

/-- What follows a date that the calendar has. -/
def afterDate? : List Char → Option (List Char)
  | y₁ :: y₂ :: y₃ :: y₄ :: '-' :: m₁ :: m₂ :: '-' :: d₁ :: d₂ :: rest =>
    let year := [y₁, y₂, y₃, y₄]
    if year.all Char.isDigit && isTwoDigits 1 12 m₁ m₂ &&
        isTwoDigits 1 (daysIn (numeral 10 year) (numeral 10 [m₁, m₂])) d₁ d₂ then some rest
    else none
  | _ => none

/-- What follows a time of day; the second 60 is admitted. -/
def afterTime? : List Char → Option (List Char)
  | h₁ :: h₂ :: ':' :: m₁ :: m₂ :: ':' :: s₁ :: s₂ :: rest =>
    if isTwoDigits 0 23 h₁ h₂ && isTwoDigits 0 59 m₁ m₂ && isTwoDigits 0 60 s₁ s₂ then
      match rest with
      | '.' :: more =>
        if more.head?.any Char.isDigit then some (more.dropWhile Char.isDigit) else none
      | _ => some rest
    else none
  | _ => none

/-- The distance from universal time, or nothing. -/
def isOffset : List Char → Bool
  | [] => true
  | [z] => z == 'Z' || z == 'z'
  | [sign, h₁, h₂, ':', m₁, m₂] =>
    (sign == '+' || sign == '-') && isTwoDigits 0 23 h₁ h₂ && isTwoDigits 0 59 m₁ m₂
  | _ => false

/-- A date and nothing else. -/
def isDate (cs : List Char) : Bool := afterDate? cs == some []

/-- A date, a time of day, or both with or without an offset. -/
def isMoment (cs : List Char) : Bool :=
  match afterDate? cs with
  | some [] => true
  | some (mark :: time) =>
    (mark == 'T' || mark == 't' || mark == ' ') && (afterTime? time).any isOffset
  | none => afterTime? cs == some []

/-- The kind of value that the characters of a word write. -/
def Scalar.ofChars? (cs : List Char) : Option Scalar :=
  if cs = ['t', 'r', 'u', 'e'] ∨ cs = ['f', 'a', 'l', 's', 'e'] then some .boolean
  else if isMoment cs then some .moment
  else if isFloat cs then some .float
  else if isInteger cs then some .integer
  else none

end MarketFeed.Toml
