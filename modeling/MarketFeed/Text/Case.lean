/-!
# Small letters

* `lower`     — text with the capital letters of ASCII made small.
* `caseFold`  — the same, and the one other character whose small letter is an ASCII letter.

Names of variables are compared after `caseFold`: two names that differ in case alone, under the
case mapping of Unicode, agree with an ASCII name together or not at all.
-/

namespace MarketFeed.Text

/-- The text with the capital letters of ASCII made small; all else stays. -/
def lower (s : String) : String := String.ofList (s.toList.map Char.toLower)

/-- The kelvin sign, whose small letter is the letter k. -/
def kelvin : Char := '\u212A'

/-- A character with its small letter in place of it, where that is an ASCII letter. -/
def foldChar (c : Char) : Char := if c = kelvin then 'k' else c.toLower

/-- The text with every character in place of which an ASCII small letter may stand made small. -/
def caseFold (s : String) : String := String.ofList (s.toList.map foldChar)

end MarketFeed.Text
