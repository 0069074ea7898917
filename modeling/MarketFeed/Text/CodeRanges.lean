/-!
# Ranges of code points

A class of characters is a list of ranges of code points, both ends included.

* `CodeRanges.covers` — the character's code point lies in one of the ranges.
-/

namespace MarketFeed

/-- Ranges of code points, in ascending order, both ends included. -/
abbrev CodeRanges := List (Nat × Nat)

/-- The character's code point lies in one of the ranges. -/
def CodeRanges.covers (ranges : CodeRanges) (c : Char) : Bool :=
  ranges.any fun (low, high) => low ≤ c.toNat && c.toNat ≤ high

theorem CodeRanges.covers_iff {ranges : CodeRanges} {c : Char} :
    ranges.covers c = true ↔ ∃ r ∈ ranges, r.1 ≤ c.toNat ∧ c.toNat ≤ r.2 := by
  simp [covers]

end MarketFeed
