import MarketFeed.Proofs.Location.Directories

/-!
# Unique names

The name of a location is its four parts with slashes between them.  No part holds a slash, so the
name can be taken apart again, and it belongs to one participant alone, whatever its locator is.

* `Location.parts`    — what the name of a location is put together from.
* `Location.partsOf`  — what stands between the slashes of a name.
* `partsOf_uname`     — taking a name apart gives the parts back.
* `uname_eq_iff`      — two locations have one name only if they have the same parts.
* `uname_unique`      — both of these for the locations that can be made.
-/

namespace MarketFeed.Location

/-! ## Parts of a name -/

/-- What the name of a location is put together from, in order. -/
def parts (l : Location) : List String := [l.category.name, l.group, l.name, l.mode.name]

/-- What stands between the slashes of a name. -/
def partsOf (name : String) : List String := (name.split '/').toList.map (·.copy)

theorem uname_eq_intercalate (l : Location) :
    l.uname = (String.singleton '/').intercalate l.parts := by
  rw [uname, parts]
  simp only [String.intercalate_cons_cons, String.intercalate_singleton, String.append_assoc]
  rfl

theorem slash_not_mem_of_isPart {value : String} (hPart : isPart value = true) :
    '/' ∉ value.toList :=
  (isPart_iff.mp hPart).2.1

/-- No part holds a slash: the names of categories and modes are parts like any other. -/
theorem slash_not_mem_of_mem_parts {l : Location} {part : String} (hMem : part ∈ l.parts) :
    '/' ∉ part.toList := by
  simp only [parts, List.mem_cons, List.not_mem_nil, or_false] at hMem
  rcases hMem with rfl | rfl | rfl | rfl
  · exact slash_not_mem_of_isPart l.category.isPart_name
  · exact slash_not_mem_of_isPart l.isPart_group
  · exact slash_not_mem_of_isPart l.isPart_name
  · exact slash_not_mem_of_isPart l.mode.isPart_name

/-- Taking a name apart gives the parts back. -/
theorem partsOf_uname (l : Location) : partsOf l.uname = l.parts := by
  rw [partsOf, uname_eq_intercalate,
    String.toList_split_intercalate fun _ hMem => slash_not_mem_of_mem_parts hMem]
  exact if_neg (List.cons_ne_nil _ _)

/-! ## One name, one participant -/

theorem parts_inj {a b : Location} :
    a.parts = b.parts ↔
      a.mode = b.mode ∧ a.category = b.category ∧ a.group = b.group ∧ a.name = b.name := by
  constructor
  · intro hParts
    simp only [parts, List.cons.injEq, and_true] at hParts
    obtain ⟨hCategory, hGroup, hName, hMode⟩ := hParts
    exact ⟨Mode.name_injective hMode, Category.name_injective hCategory, hGroup, hName⟩
  · rintro ⟨hMode, hCategory, hGroup, hName⟩
    simp only [parts, hMode, hCategory, hGroup, hName]

theorem uname_eq_iff {a b : Location} :
    a.uname = b.uname ↔
      a.mode = b.mode ∧ a.category = b.category ∧ a.group = b.group ∧ a.name = b.name := by
  rw [← parts_inj]
  constructor
  · intro hName
    rw [← partsOf_uname a, hName, partsOf_uname b]
  · intro hParts
    rw [uname_eq_intercalate, hParts, ← uname_eq_intercalate]

/-- The name of a location is unique.  Between its slashes there are just four parts, which are
those that the location was made of, so that two locations have one name exactly if they were made
of the same parts; their locators do not matter. -/
theorem uname_unique {modeA modeB : Mode} {categoryA categoryB : Category}
    {groupA groupB nameA nameB : String} {locatorA locatorB : Locator} {a b : Location}
    (hA : make modeA categoryA groupA nameA locatorA = .ok a)
    (hB : make modeB categoryB groupB nameB locatorB = .ok b) :
    (a.uname = b.uname ↔
      modeA = modeB ∧ categoryA = categoryB ∧ groupA = groupB ∧ nameA = nameB) ∧
    partsOf a.uname = [categoryA.name, groupA, nameA, modeA.name] := by
  obtain ⟨rfl, rfl, rfl, rfl, -⟩ := eq_of_make hA
  obtain ⟨rfl, rfl, rfl, rfl, -⟩ := eq_of_make hB
  exact ⟨uname_eq_iff, partsOf_uname a⟩

/-- Two locations whose parts are one text but for the slashes have different names, and the first
of them below another root has the same name as before. -/
theorem uname_unique_joined :
    ∃ a b c, make .live .trading "ab" "c" ⟨0, .ofString "/run"⟩ = .ok a ∧
      make .live .trading "a" "bc" ⟨0, .ofString "/run"⟩ = .ok b ∧
      make .live .trading "ab" "c" ⟨1, .ofString "/tmp"⟩ = .ok c ∧
      a.uname ≠ b.uname ∧ a.uname = c.uname ∧ partsOf a.uname = ["td", "ab", "c", "live"] := by
  obtain ⟨a, hA⟩ : ∃ a, make .live .trading "ab" "c" ⟨0, .ofString "/run"⟩ = .ok a :=
    make_eq_ok_iff.mpr ⟨by decide, by decide⟩
  obtain ⟨b, hB⟩ : ∃ b, make .live .trading "a" "bc" ⟨0, .ofString "/run"⟩ = .ok b :=
    make_eq_ok_iff.mpr ⟨by decide, by decide⟩
  obtain ⟨c, hC⟩ : ∃ c, make .live .trading "ab" "c" ⟨1, .ofString "/tmp"⟩ = .ok c :=
    make_eq_ok_iff.mpr ⟨by decide, by decide⟩
  obtain ⟨hOther, hParts⟩ := uname_unique hA hB
  obtain ⟨hSame, -⟩ := uname_unique hA hC
  refine ⟨a, b, c, hA, hB, hC, fun hName => ?_, hSame.mpr ⟨rfl, rfl, rfl, rfl⟩, hParts⟩
  obtain ⟨-, -, hGroup, -⟩ := hOther.mp hName
  exact absurd hGroup (by decide)

end MarketFeed.Location
