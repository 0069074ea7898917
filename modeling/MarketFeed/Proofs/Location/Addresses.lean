import MarketFeed.Proofs.FileTree.Children
import MarketFeed.Proofs.Location.Directories

/-!
# Addresses of layout files

A file of a location stands at an address that ends with six names: the five that lead to its
directory, and its own.  So the address alone tells the location and the file.

* `walk_isName`        — a walk over plain names ends with them.
* `pieces_layoutFile`  — the pieces of the path of a layout file.
* `resolve_layoutFile` — where that path leads.
* `eq_of_resolve_layoutFile` — files of different locations, or with different names, never stand
                               at one address.
-/

namespace MarketFeed

/-! ## Names one below the other -/

theorem FileTree.walk_isName {t : FileTree} {a b : Address} {names : List Bytes}
    (hNames : ∀ name ∈ names, Path.IsName name) (hWalk : t.walk a names = .ok b) :
    b = a ++ names := by
  -- each name adds itself to the address
  induction names generalizing a with
  | nil =>
    rw [List.append_nil]
    exact (Except.ok.inj hWalk).symm
  | cons name rest ih =>
    have hName := Path.ofPiece?_of_isName (hNames name List.mem_cons_self)
    rw [walk] at hWalk
    rcases hStep : t.step a name with e | c
    · rw [hStep] at hWalk
      cases hWalk
    · rw [hStep] at hWalk
      obtain ⟨-, -, -, rfl⟩ := (step_name_eq_ok_iff hName).mp hStep
      rw [ih (fun other hOther => hNames other (List.mem_cons_of_mem _ hOther)) hWalk]
      simp

namespace Location

/-! ## Layout files -/

/-- The entries that lead from the root to a layout file, as texts. -/
def fileEntries (l : Location) (layout : Layout) (name : String) : List String :=
  l.entries layout ++ [name ++ "." ++ layout.name]

/-- Whatever has no slash names one entry once the ending of its layout is added. -/
theorem isName_layoutFile {name : String} (hName : '/' ∉ name.toList) (layout : Layout) :
    Path.IsName (Utf8.encode (name ++ "." ++ layout.name)) := by
  have hLong : 2 ≤ layout.name.length := by cases layout <;> decide
  have hLength : (name ++ "." ++ layout.name).length = name.length + 1 + layout.name.length := by
    rw [String.length_append, String.length_append]
    rfl
  have hLayout : '/' ∉ layout.name.toList := by cases layout <;> decide
  -- it is longer than any of the names that lead elsewhere
  have hNe : ∀ short : String, short.length ≤ 2 → name ++ "." ++ layout.name ≠ short := by
    rintro short hShort rfl
    omega
  refine Path.isName_encode_iff.mpr ⟨hNe "" (by decide), ?_, hNe "." (by decide),
    hNe ".." (by decide)⟩
  simp [hName, hLayout]

theorem isName_of_mem_fileEntries {l : Location} {layout : Layout} {name : String}
    (hName : '/' ∉ name.toList) :
    ∀ bytes ∈ (l.fileEntries layout name).map Utf8.encode, Path.IsName bytes := by
  simp only [fileEntries, entries, List.cons_append, List.nil_append, List.map_cons,
    List.map_nil, List.forall_mem_cons]
  exact ⟨isName_of_isPart l.category.isPart_name, isName_of_isPart l.isPart_group,
    isName_of_isPart l.isPart_name, isName_of_isPart layout.isPart_name,
    isName_of_isPart l.mode.isPart_name, isName_layoutFile hName layout,
    fun _ hNone => absurd hNone List.not_mem_nil⟩

/-- The path of a layout file has the pieces of the root and six names behind them. -/
theorem pieces_layoutFile (l : Location) (layout : Layout) {name : String}
    (hName : '/' ∉ name.toList) :
    (l.layoutFile layout name).pieces =
      l.locator.root.piecesBefore ++ (l.fileEntries layout name).map Utf8.encode := by
  have hPart : ∀ {p : Path} {value : String}, isPart value = true →
      (p.child value).piecesBefore = p.piecesBefore ++ [Utf8.encode value] := fun hValue =>
    Path.piecesBefore_join_isName (isName_of_isPart hValue)
  unfold layoutFile layoutDir
  rw [Path.child, Path.ofString, Path.pieces_join_isName (isName_layoutFile hName layout),
    hPart l.mode.isPart_name, hPart layout.isPart_name, hPart l.isPart_name,
    hPart l.isPart_group, hPart l.category.isPart_name]
  simp [fileEntries, entries]

/-- The address of a layout file ends with its six names. -/
theorem resolve_layoutFile {t : FileTree} {l : Location} {layout : Layout} {name : String}
    (hName : '/' ∉ name.toList) {a : Address}
    (hResolve : t.resolve (l.layoutFile layout name) = .ok a) :
    ∃ root, a = root ++ (l.fileEntries layout name).map Utf8.encode := by
  obtain ⟨-, hWalk⟩ := FileTree.resolve_eq_ok_iff.mp hResolve
  rw [pieces_layoutFile l layout hName, FileTree.walk_append] at hWalk
  rcases hRoot : t.walk (t.start (l.layoutFile layout name)) l.locator.root.piecesBefore
    with e | root
  · rw [hRoot] at hWalk
    exact nomatch hWalk
  · rw [hRoot] at hWalk
    exact ⟨root, FileTree.walk_isName (isName_of_mem_fileEntries hName) hWalk⟩

/-- One address belongs to one location and one file name, whenever and from whatever root it is
reached. -/
theorem eq_of_resolve_layoutFile {t u : FileTree} {a b : Location} {layout other : Layout}
    {first second : String} (hFirst : '/' ∉ first.toList) (hSecond : '/' ∉ second.toList)
    {address : Address} (hA : t.resolve (a.layoutFile layout first) = .ok address)
    (hB : u.resolve (b.layoutFile other second) = .ok address) :
    a.mode = b.mode ∧ a.category = b.category ∧ a.group = b.group ∧ a.name = b.name ∧
      layout = other ∧ first = second := by
  obtain ⟨rootA, rfl⟩ := resolve_layoutFile hFirst hA
  obtain ⟨rootB, hSame⟩ := resolve_layoutFile hSecond hB
  -- both end with six names, so that these are the same
  obtain ⟨-, hNames⟩ := List.append_inj' hSame (by simp [fileEntries, entries])
  have hEntries := List.map_inj_right (fun _ _ => Utf8.encode_injective) |>.mp hNames
  obtain ⟨hDirectory, hFile⟩ := List.append_inj' hEntries rfl
  obtain ⟨hMode, hCategory, hGroup, hName, rfl⟩ := entries_inj.mp hDirectory
  have hText : first ++ ("." ++ layout.name) = second ++ ("." ++ layout.name) := by
    rw [← String.append_assoc, ← String.append_assoc]
    exact (List.cons.inj hFile).1
  have hChars := congrArg String.toList hText
  simp only [String.toList_append] at hChars
  exact ⟨hMode, hCategory, hGroup, hName, rfl,
    String.toList_inj.mp (List.append_cancel_right hChars)⟩

end Location

end MarketFeed
