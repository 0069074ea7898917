import MarketFeed.Location
import MarketFeed.Proofs.Path.Components

/-!
# Directories of locations

Where a location keeps its artifacts, told by components: below its root there is one entry for
each of category, group, name, layout and mode, whatever the root is.

* `components_layoutDir`   — the components of a layout directory.
* `layoutDir_agrees_iff`   — two layout directories are one exactly if all that they are made of
                             is equal.
* `layoutDir_confined`     — both of these for the locations that can be made, and what follows:
                             a layout directory lies below its root and holds no other one.
-/

namespace MarketFeed

/-! ## Names of the parts -/

theorem Mode.name_injective {a b : Mode} (hName : a.name = b.name) : a = b := by
  revert hName
  cases a <;> cases b <;> decide

theorem Category.name_injective {a b : Category} (hName : a.name = b.name) : a = b := by
  revert hName
  cases a <;> cases b <;> decide

theorem Layout.name_injective {a b : Layout} (hName : a.name = b.name) : a = b := by
  revert hName
  cases a <;> cases b <;> decide

theorem Mode.isPart_name (mode : Mode) : isPart mode.name = true := by cases mode <;> decide

theorem Category.isPart_name (category : Category) : isPart category.name = true := by
  cases category <;> decide

theorem Layout.isPart_name (layout : Layout) : isPart layout.name = true := by
  cases layout <;> decide

/-- Whatever may stand as a part of a location names one entry of a directory. -/
theorem isName_of_isPart {value : String} (hPart : isPart value = true) :
    Path.IsName (Utf8.encode value) := by
  obtain ⟨hTrim, hSlash, -, hDot, hDots⟩ := Location.isPart_iff.mp hPart
  have hEmpty : value ≠ "" := by
    rintro rfl
    exact hTrim (by decide)
  exact Path.isName_encode_iff.mpr ⟨hEmpty, hSlash, hDot, hDots⟩

theorem Path.components_child {p : Path} {name : String} (hPart : isPart name = true) :
    (p.child name).components = p.components ++ [.name (Utf8.encode name)] :=
  components_join_name (isName_of_isPart hPart)

namespace Location

/-! ## Layout directories -/

/-- The entries that lead from the root to a layout directory, as texts. -/
def entries (l : Location) (layout : Layout) : List String :=
  [l.category.name, l.group, l.name, layout.name, l.mode.name]

/-- A layout directory has the components of the root and five names behind them. -/
theorem components_layoutDir (l : Location) (layout : Layout) :
    (l.layoutDir layout).components =
      l.locator.root.components ++ ((l.entries layout).map Utf8.encode).map .name := by
  unfold layoutDir
  rw [Path.components_child l.mode.isPart_name, Path.components_child layout.isPart_name,
    Path.components_child l.isPart_name, Path.components_child l.isPart_group,
    Path.components_child l.category.isPart_name]
  simp [entries]

theorem entries_inj {a b : Location} {l m : Layout} :
    a.entries l = b.entries m ↔
      a.mode = b.mode ∧ a.category = b.category ∧ a.group = b.group ∧ a.name = b.name ∧ l = m := by
  constructor
  · intro hEntries
    simp only [entries, List.cons.injEq, and_true] at hEntries
    obtain ⟨hCategory, hGroup, hName, hLayout, hMode⟩ := hEntries
    exact ⟨Mode.name_injective hMode, Category.name_injective hCategory, hGroup, hName,
      Layout.name_injective hLayout⟩
  · rintro ⟨hMode, hCategory, hGroup, hName, rfl⟩
    simp only [entries, hMode, hCategory, hGroup, hName]

/-- Two layout directories are one exactly if their roots and all their entries are. -/
theorem layoutDir_agrees_iff {a b : Location} {l m : Layout} :
    (a.layoutDir l).agrees (b.layoutDir m) = true ↔
      a.locator.agrees b.locator = true ∧ a.entries l = b.entries m := by
  unfold Locator.agrees Path.agrees
  rw [beq_iff_eq, beq_iff_eq, components_layoutDir, components_layoutDir]
  constructor
  · intro hComponents
    -- both have five entries, so that the roots end at the same place
    obtain ⟨hRoot, hNames⟩ := List.append_inj' hComponents (by simp [entries])
    refine ⟨hRoot, ?_⟩
    have hBytes := List.map_inj_right (fun _ _ h => Path.Component.name.inj h) |>.mp hNames
    exact List.map_inj_right (fun _ _ => Utf8.encode_injective) |>.mp hBytes
  · rintro ⟨hRoot, hEntries⟩
    rw [hRoot, hEntries]

/-! ## Locations that can be made -/

theorem eq_of_make {mode : Mode} {category : Category} {group name : String} {locator : Locator}
    {l : Location} (hMake : make mode category group name locator = .ok l) :
    l.mode = mode ∧ l.category = category ∧ l.group = group ∧ l.name = name ∧
      l.locator = locator := by
  unfold make at hMake
  split at hMake
  · split at hMake
    · obtain rfl := Except.ok.inj hMake
      exact ⟨rfl, rfl, rfl, rfl, rfl⟩
    · cases hMake
  · cases hMake

/-- No ancestor of a layout directory is a layout directory below the same root. -/
theorem agrees_layoutDir_of_mem_ancestors {a b : Location} {l m : Layout}
    (hRoot : a.locator.agrees b.locator = true) {p : Path} (hMem : p ∈ (b.layoutDir m).ancestors) :
    p.agrees (a.layoutDir l) = false := by
  obtain ⟨cs, hNonempty, hBelow⟩ := Path.components_of_mem_ancestors hMem
  rw [Bool.eq_false_iff]
  intro hAgrees
  -- both layout directories lie equally deep, and an ancestor lies less deep
  have hSame : p.components = (a.layoutDir l).components := beq_iff_eq.mp hAgrees
  have hRoots : a.locator.root.components = b.locator.root.components := beq_iff_eq.mp hRoot
  rw [hSame, components_layoutDir, components_layoutDir] at hBelow
  have hLength := congrArg List.length hBelow
  simp only [List.length_append, List.length_map, entries, List.length_cons, List.length_nil,
    hRoots] at hLength
  exact hNonempty (List.eq_nil_of_length_eq_zero (by omega))

/-- Layout directories are confined and distinct.  Below the root there are just the five names of
a location and a layout, so that the root is an ancestor; two layout directories are one only if
they are made of the same parts; and below one root no layout directory holds another. -/
theorem layoutDir_confined {modeA modeB : Mode} {categoryA categoryB : Category}
    {groupA groupB nameA nameB : String} {locatorA locatorB : Locator} {a b : Location}
    (hA : make modeA categoryA groupA nameA locatorA = .ok a)
    (hB : make modeB categoryB groupB nameB locatorB = .ok b) (l m : Layout) :
    (a.layoutDir l).components = locatorA.root.components ++
        [.name (Utf8.encode categoryA.name), .name (Utf8.encode groupA),
          .name (Utf8.encode nameA), .name (Utf8.encode l.name),
          .name (Utf8.encode modeA.name)] ∧
      (∃ p ∈ (a.layoutDir l).ancestors, p.agrees locatorA.root = true) ∧
      (a.layoutDir l).agrees locatorA.root = false ∧
      ((a.layoutDir l).agrees (b.layoutDir m) = true ↔
        locatorA.agrees locatorB = true ∧ modeA = modeB ∧ categoryA = categoryB ∧
          groupA = groupB ∧ nameA = nameB ∧ l = m) ∧
      (locatorA.agrees locatorB = true →
        ∀ p ∈ (b.layoutDir m).ancestors, p.agrees (a.layoutDir l) = false) := by
  obtain ⟨rfl, rfl, rfl, rfl, rfl⟩ := eq_of_make hA
  obtain ⟨rfl, rfl, rfl, rfl, rfl⟩ := eq_of_make hB
  have hComponents := a.components_layoutDir l
  refine ⟨hComponents, ?_, ?_, ?_, ?_⟩
  · exact Path.exists_mem_ancestors_agrees (by simp [entries]) hComponents
  · rw [Path.agrees, hComponents]
    simp [entries]
  · rw [layoutDir_agrees_iff, entries_inj]
  · exact fun hRoot p hMem => agrees_layoutDir_of_mem_ancestors hRoot hMem

/-- Below a root that is written in two ways, two locations have a directory each for their logs,
and neither directory holds the other. -/
theorem layoutDir_confined_sample :
    ∃ a b, make .live .marketData "sim" "..." ⟨0, .ofString "./run//"⟩ = .ok a ∧
      make .live .marketData "sim" "sim" ⟨1, .ofString "./run/."⟩ = .ok b ∧
      (∃ p ∈ (a.layoutDir .log).ancestors, p.agrees (.ofString "./run//") = true) ∧
      (a.layoutDir .log).agrees (b.layoutDir .log) = false ∧
      ∀ p ∈ (b.layoutDir .log).ancestors, p.agrees (a.layoutDir .log) = false := by
  obtain ⟨a, hA⟩ : ∃ a, make .live .marketData "sim" "..." ⟨0, .ofString "./run//"⟩ = .ok a :=
    make_eq_ok_iff.mpr ⟨by decide, by decide⟩
  obtain ⟨b, hB⟩ : ∃ b, make .live .marketData "sim" "sim" ⟨1, .ofString "./run/."⟩ = .ok b :=
    make_eq_ok_iff.mpr ⟨by decide, by decide⟩
  obtain ⟨-, hBelow, -, hOne, hApart⟩ := layoutDir_confined hA hB .log .log
  refine ⟨a, b, hA, hB, hBelow, ?_, hApart (by decide)⟩
  rw [Bool.eq_false_iff]
  intro hAgrees
  -- the names alone tell them apart
  obtain ⟨-, -, -, -, hName, -⟩ := hOne.mp hAgrees
  exact absurd hName (by decide)

end Location

end MarketFeed
