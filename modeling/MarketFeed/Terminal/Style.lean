/-!
# Styles

Colour on the terminal is a sequence of codes before a text and a reset after it.

* `Style`       — the styles in use.
* `Style.paint` — text in a style; a reset inside the text does not end the style.
-/

namespace MarketFeed.Terminal

/-- How text can stand out. -/
inductive Style where
  | boldRed
  | yellow
  | green
  | cyan
  | boldCyan
  deriving DecidableEq, Repr

namespace Style

/-- The codes of a style. -/
def codes : Style → String
  | boldRed => "1;31"
  | yellow => "33"
  | green => "32"
  | cyan => "36"
  | boldCyan => "1;36"

/-- What switches a style on. -/
def opening (s : Style) : List Char := ['\x1b', '['] ++ s.codes.toList ++ ['m']

/-- What switches all styles off. -/
def reset : List Char := ['\x1b', '[', '0', 'm']

/-- The text with the style switched on again after each reset. -/
def reopened (s : Style) : List Char → List Char
  -- a reset in the text would end the style too early
  | '\x1b' :: '[' :: '0' :: 'm' :: rest => reset ++ s.opening ++ s.reopened rest
  | c :: rest => c :: s.reopened rest
  | [] => []

/-- The text in a style, if colour is on. -/
def paint (s : Style) (colour : Bool) (text : String) : String :=
  if colour then String.ofList (s.opening ++ s.reopened text.toList ++ reset) else text

/-- Without colour, text stays as it is. -/
@[simp] theorem paint_false (s : Style) (text : String) : s.paint false text = text := rfl

end Style

end MarketFeed.Terminal
