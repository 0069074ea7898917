import MarketFeed.Proofs.Location.Directories

/-!
# Parts of a location

What may stand as a part of a location is told by a few tests on the text.  They let through just
the texts that do no harm in a path: those that add one entry of their own name to whatever path
they are joined to.

* `AddsEntry`         — the text adds one entry to every path.
* `IsHarmless`        — it also shows something, and holds no separator of other systems.
* `isPart_iff_isHarmless` — the tests let through just such texts.
* `make_exact`        — which locations can be made, and which part is refused of any other.
-/

namespace MarketFeed

/-- Joined to any path, the text adds one entry of that name and nothing else. -/
def AddsEntry (value : String) : Prop :=
  ∀ p : Path, (p.join (.ofString value)).components = p.components ++ [.name (Utf8.encode value)]

/-- The text shows something, holds no backslash, and adds one entry to whatever path it is
joined to. -/
def IsHarmless (value : String) : Prop :=
  (∃ c ∈ value.toList, Text.isBlank c = false) ∧ '\\' ∉ value.toList ∧ AddsEntry value

theorem addsEntry_iff {value : String} :
    AddsEntry value ↔ value ≠ "" ∧ '/' ∉ value.toList ∧ value ≠ "." ∧ value ≠ ".." :=
  Path.components_join_iff.trans Path.isName_encode_iff

theorem trim_ne_empty_iff {value : String} :
    Text.trim value ≠ "" ↔ ∃ c ∈ value.toList, Text.isBlank c = false := by
  rw [ne_eq, Text.trim_eq_empty_iff, List.all_eq_true]
  simp

/-- The tests on a part let through just the texts that do no harm. -/
theorem isPart_iff_isHarmless {value : String} : isPart value = true ↔ IsHarmless value := by
  rw [Location.isPart_iff, IsHarmless, ← trim_ne_empty_iff, addsEntry_iff]
  constructor
  · rintro ⟨hTrim, hSlash, hBackslash, hDot, hDots⟩
    refine ⟨hTrim, hBackslash, ?_, hSlash, hDot, hDots⟩
    rintro rfl
    exact hTrim (by decide)
  · rintro ⟨hTrim, hBackslash, -, hSlash, hDot, hDots⟩
    exact ⟨hTrim, hSlash, hBackslash, hDot, hDots⟩

-- three dots name an entry like any other; a wide blank shows nothing
example : isPart "..." = true ∧ isPart "\u3000" = false ∧ isPart "a\\b" = false := by decide

namespace Location

variable {mode : Mode} {category : Category} {group name : String} {locator : Locator}

/-- What is reported is the group if that is refused, and otherwise the name. -/
theorem make_eq_error_iff {e : ValueError} :
    make mode category group name locator = .error e ↔
      (isPart group ≠ true ∧ e = .location .group group) ∨
        (isPart group = true ∧ isPart name ≠ true ∧ e = .location .name name) := by
  by_cases hGroup : isPart group = true
  · by_cases hName : isPart name = true
    · rw [make, dif_pos hGroup, dif_pos hName]
      simp [hGroup, hName]
    · rw [make, dif_pos hGroup, dif_neg hName, Except.error.injEq, eq_comm]
      simp [hGroup, hName]
  · rw [make, dif_neg hGroup, Except.error.injEq, eq_comm]
    simp [hGroup]

/-- A location is made of a group and a name exactly if neither does harm in a path, and it keeps
them as they are.  Of all other pairs the group is reported if it does harm, and otherwise the name,
as it was given. -/
theorem make_exact (mode : Mode) (category : Category) (group name : String) (locator : Locator) :
    ((∃ l, make mode category group name locator = .ok l ∧ l.group = group ∧ l.name = name) ↔
      IsHarmless group ∧ IsHarmless name) ∧
    ∀ e, make mode category group name locator = .error e ↔
      (¬IsHarmless group ∧ e = .location .group group) ∨
        (IsHarmless group ∧ ¬IsHarmless name ∧ e = .location .name name) := by
  simp only [← isPart_iff_isHarmless]
  refine ⟨⟨?_, ?_⟩, fun e => make_eq_error_iff⟩
  · rintro ⟨l, hMake, -⟩
    exact make_eq_ok_iff.mp ⟨l, hMake⟩
  · intro hParts
    obtain ⟨l, hMake⟩ := make_eq_ok_iff.mpr hParts
    obtain ⟨-, -, hGroup, hName, -⟩ := eq_of_make hMake
    exact ⟨l, hMake, hGroup, hName⟩

end Location

end MarketFeed
