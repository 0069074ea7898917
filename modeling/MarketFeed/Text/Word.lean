/-!
# Numbers below 2^32

The kind of reading whose failures a data source passes on as they are.

* `Word.parse` — the number that a text writes.
* `Word.Fault` — why a text writes none.

Main statement: `digits_lt` — what is read is below 2^32.
-/

namespace MarketFeed

namespace Word

/-- What a number must stay below: 2^32. -/
def bound : Nat := 0x100000000

/-- Why a text is no number below 2^32. -/
inductive Fault where
  | empty
  | invalidDigit
  | tooLarge
  deriving DecidableEq, Repr

/-- The text shown for the fault. -/
def Fault.message : Fault → String
  | .empty => "cannot parse integer from empty string"
  | .invalidDigit => "invalid digit found in string"
  | .tooLarge => "number too large to fit in target type"

/-- Goes on reading decimal digits behind a value.  The first fault met counts: a digit that makes
the value too large hides a wrong character behind it. -/
def digits (value : Nat) : List Char → Except Fault Nat
  | [] => .ok value
  | c :: rest =>
    if c.isDigit then
      let value := value * 10 + (c.toNat - '0'.toNat)
      if value < bound then digits value rest else .error .tooLarge
    else .error .invalidDigit

/-- The number that a text writes: decimal digits, which a plus sign may precede. -/
def parse (s : String) : Except Fault Nat :=
  match s.toList with
  | [] => .error .empty
  | ['+'] => .error .invalidDigit
  | '+' :: rest => digits 0 rest
  | cs => digits 0 cs

/-- What is read behind a value below 2^32 is below it. -/
theorem digits_lt {value n : Nat} {cs : List Char} (hv : value < bound)
    (h : digits value cs = .ok n) : n < bound := by
  induction cs generalizing value with
  | nil =>
    obtain rfl := Except.ok.inj h
    exact hv
  | cons c rest ih =>
    rw [digits] at h
    split at h
    · dsimp only at h
      split at h
      next hlt => exact ih hlt h
      next => exact nomatch h
    · exact nomatch h

end Word

end MarketFeed
