import MarketFeed.Text.CodeRanges

/-!
# Blank characters

The characters of the Unicode class White_Space, and the text left when they are taken off
both ends.

* `isBlank` — membership in the class.
* `trim`    — the text without its leading and trailing blanks.

Main statements: `isBlank_of_isWhitespace` — the blanks of ASCII are blanks; `trim_eq_empty_iff`
— nothing is left exactly of text that holds blanks alone.
-/

namespace MarketFeed.Text

/-- The code points of the Unicode class White_Space. -/
def blankRanges : CodeRanges :=
  [(0x09, 0x0D), (0x20, 0x20), (0x85, 0x85), (0xA0, 0xA0), (0x1680, 0x1680), (0x2000, 0x200A),
   (0x2028, 0x2029), (0x202F, 0x202F), (0x205F, 0x205F), (0x3000, 0x3000)]

/-- The character belongs to the Unicode class White_Space. -/
def isBlank (c : Char) : Bool := blankRanges.covers c

/-- The characters without the blanks at both ends. -/
def trimChars (cs : List Char) : List Char :=
  ((cs.dropWhile isBlank).reverse.dropWhile isBlank).reverse

/-- The text without the blanks at both ends. -/
def trim (s : String) : String := String.ofList (trimChars s.toList)

/-! ## Laws -/

/-- The blanks of ASCII that the standard library knows are blanks. -/
theorem isBlank_of_isWhitespace {c : Char} (h : c.isWhitespace = true) : isBlank c = true := by
  simp only [Char.isWhitespace, Bool.or_eq_true, decide_eq_true_eq] at h
  rcases h with ((rfl | rfl) | rfl) | rfl <;> decide

private theorem dropWhile_eq_nil_iff_all {p : Char → Bool} {cs : List Char} :
    cs.dropWhile p = [] ↔ cs.all p = true := by
  induction cs with
  | nil => simp
  | cons c cs ih => by_cases h : p c <;> simp [h, ih]

private theorem all_of_all_dropWhile {p : Char → Bool} {cs : List Char}
    (h : (cs.dropWhile p).all p = true) : cs.all p = true := by
  induction cs with
  | nil => rfl
  | cons c cs ih =>
    by_cases hc : p c
    · simp only [List.dropWhile_cons, hc, ↓reduceIte] at h
      simpa [hc] using ih h
    · simp [hc] at h

/-- Nothing is left exactly of text that holds blanks alone. -/
theorem trimChars_eq_nil_iff {cs : List Char} : trimChars cs = [] ↔ cs.all isBlank = true := by
  constructor
  · intro h
    have h : (cs.dropWhile isBlank).reverse.dropWhile isBlank = [] := by
      simpa [trimChars] using h
    rw [dropWhile_eq_nil_iff_all, List.all_reverse] at h
    exact all_of_all_dropWhile h
  · intro h
    simp [trimChars, dropWhile_eq_nil_iff_all.2 h]

/-- The text is empty after trimming exactly if every character is blank. -/
theorem trim_eq_empty_iff {s : String} : trim s = "" ↔ s.toList.all isBlank = true := by
  rw [← trimChars_eq_nil_iff, trim, ← String.toList_inj]
  simp

end MarketFeed.Text
