import MarketFeed.Text.Hidden

/-!
# Quoted text

A string between double quotes, written so that every character of it can be told: the quote
and the backslash are escaped, and a character that shows no sign of its own is written by its
code point.

* `shownChar` — how one character is written.
* `quoted`    — the quoted text of a string.
-/

namespace MarketFeed.Text

/-- The digits of a number in base sixteen, small letters, no leading zero. -/
def hexDigits (n : Nat) : String := String.ofList (Nat.toDigits 16 n)

/-- How a character is written between quotes. -/
def shownChar (c : Char) : String :=
  if c = '\x00' then "\\0"
  else if c = '\t' then "\\t"
  else if c = '\r' then "\\r"
  else if c = '\n' then "\\n"
  else if c = '\\' then "\\\\"
  else if c = '"' then "\\\""
  else if isHidden c then "\\u\x7b" ++ hexDigits c.toNat ++ "\x7d"
  else c.toString

/-- The string in double quotes. -/
def quoted (s : String) : String :=
  "\"" ++ String.join (s.toList.map shownChar) ++ "\""

end MarketFeed.Text
