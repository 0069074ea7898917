import MarketFeed.Proofs.FileTree.Children

/-!
# What is there already

A name joined to a path, where something stands already: making the directory changes nothing,
and writing the file changes it alone.

* `place_join_isName`                 — the place of the path is where it leads.
* `createDirectories_of_isDirectory`  — a directory that is there is made without a change.
* `write_of_resolve`                  — a file that is there can be written.
* `write_write`                       — the same bytes written once more change nothing.
-/

namespace MarketFeed.FileTree

variable {t : FileTree} {p : Path} {bytes : Bytes} {a : Address}

theorem read_eq_ok_iff {content : Bytes} :
    t.read p = .ok content ↔ ∃ a, t.resolve p = .ok a ∧ t.node? a = some (.file content) := by
  unfold read find?
  rcases t.resolve p with e | a
  · simp
  · rcases hNode : t.node? a with _ | node
    · simp [hNode]
    · cases node <;> simp [hNode]

/-- Trees are told apart by where they start and what they list. -/
theorem eq_of_entries {u : FileTree} (hWorking : t.working = u.working)
    (hEntries : t.entries = u.entries) : t = u := by
  cases t
  cases u
  obtain rfl := hWorking
  obtain rfl := hEntries
  rfl

/-- A joined name that leads somewhere names an entry of a directory, and stands there. -/
theorem place_join_isName (hName : Path.IsName bytes)
    (hResolve : t.resolve (p.join ⟨bytes⟩) = .ok a) :
    ∃ place, t.place (p.join ⟨bytes⟩) = .ok place ∧ place.isDots = false ∧
      place.slashed = false ∧ place.last.length ≤ longestName ∧ place.address = a := by
  obtain ⟨hCheck, -⟩ := resolve_eq_ok_iff.mp hResolve
  obtain ⟨b, hBefore, hDirectory, hLength, rfl⟩ := resolve_join_isName hName hResolve
  -- the last piece is the name, and no slash follows it
  have hLast : (p.join ⟨bytes⟩).pieces.reverse.dropWhile (· = []) =
      bytes :: p.piecesBefore.reverse := by
    rw [Path.pieces_join_isName hName, List.reverse_append, List.reverse_singleton]
    exact List.dropWhile_cons_of_neg (by simpa using hName.1)
  have hSlash : (p.join ⟨bytes⟩).bytes.getLast? ≠ some Path.slash := by
    rw [Path.getLast?_join_isName hName]
    exact fun h => hName.2.1 (List.mem_of_getLast? h)
  refine ⟨⟨b, bytes, false, hDirectory⟩, ?_, ?_, rfl, hLength, rfl⟩
  · unfold place
    rw [hCheck]
    dsimp only
    rw [hLast]
    dsimp only
    rw [List.reverse_reverse, hBefore]
    dsimp only
    split
    · next hError =>
      rw [checkDirectory_eq_ok_iff.mpr hDirectory] at hError
      cases hError
    · rw [decide_eq_false hSlash]
  · simp [Place.isDots, hName.2.2.1, hName.2.2.2]

/-- Where something stands no directory can be made. -/
theorem createDirectory_of_resolve (hName : Path.IsName bytes)
    (hResolve : t.resolve (p.join ⟨bytes⟩) = .ok a) (hThere : (t.node? a).isSome = true) :
    t.createDirectory (p.join ⟨bytes⟩) = .error (.fault .alreadyExists) := by
  obtain ⟨place, hPlace, hDots, -, hLength, hAddress⟩ := place_join_isName hName hResolve
  unfold createDirectory
  rw [hPlace]
  dsimp only
  rw [if_neg (by simp [hDots]), if_neg (Nat.not_lt.mpr hLength)]
  split
  · rfl
  · next hFree =>
    rw [← hAddress] at hThere
    rw [Place.address, hFree] at hThere
    cases hThere

/-- A directory that is there is made, with all above it, without a change. -/
theorem createDirectories_of_isDirectory (hName : Path.IsName bytes)
    (hThere : t.isDirectory (p.join ⟨bytes⟩) = true) :
    t.createDirectories (p.join ⟨bytes⟩) = (.ok (), t) := by
  obtain ⟨a, hResolve, hNode⟩ := isDirectory_eq_true_iff.mp hThere
  have hFails := createDirectory_of_resolve hName hResolve (by rw [hNode]; rfl)
  -- the directory itself is tried first, so that nothing above it is touched
  unfold createDirectories createFrom
  rw [if_neg (Path.bytes_join_isName_ne_nil hName), hFails]
  exact if_pos hThere

/-- A file that is there can be written, and nothing else changes. -/
theorem write_of_resolve (hName : Path.IsName bytes)
    (hResolve : t.resolve (p.join ⟨bytes⟩) = .ok a) {old : Bytes}
    (hFile : t.node? a = some (.file old)) (new : Bytes) :
    ∃ u, t.write (p.join ⟨bytes⟩) new = .ok u ∧ u.read (p.join ⟨bytes⟩) = .ok new ∧
      ∀ b, b ≠ a → u.node? b = t.node? b := by
  obtain ⟨place, hPlace, hDots, hSlashed, hLength, rfl⟩ := place_join_isName hName hResolve
  -- only a directory could be in the way
  have hMade : ∃ u, t.write (p.join ⟨bytes⟩) new = .ok u := by
    unfold write update
    rw [hPlace]
    dsimp only
    rw [if_neg (by simp [hDots, hSlashed]), if_neg (Nat.not_lt.mpr hLength)]
    split
    · next hDirectory =>
      rw [Place.address, hDirectory] at hFile
      cases hFile
    · exact ⟨_, rfl⟩
    · exact ⟨_, rfl⟩
  obtain ⟨u, hWrite⟩ := hMade
  obtain ⟨-, b, old, hThere, -, hNodes⟩ := update_changes hWrite
  -- the path leads in the new tree to where it led before
  have hSame : u.resolve (p.join ⟨bytes⟩) = .ok place.address :=
    (update_changes hWrite).extends.resolve hResolve
  obtain rfl : b = place.address := by
    rw [hThere] at hSame
    exact Except.ok.inj hSame
  refine ⟨u, hWrite, read_eq_ok_iff.mpr ⟨_, hThere, ?_⟩, fun b hOther => ?_⟩
  · rw [hNodes, if_pos rfl]
  · rw [hNodes, if_neg hOther]

/-- Of two nodes set at one address the last one counts. -/
theorem entriesWith_entriesWith (entries : List (Address × Node)) (a : Address)
    (first last : Node) :
    entriesWith (entriesWith entries a first) a last = entriesWith entries a last := by
  simp [entriesWith]

/-- A file that holds what was written can be written so again, which changes nothing at all. -/
theorem write_write (hName : Path.IsName bytes) {u : FileTree} {content : Bytes}
    (hWrite : t.write (p.join ⟨bytes⟩) content = .ok u) :
    u.write (p.join ⟨bytes⟩) content = .ok u := by
  obtain ⟨a, old, hResolve, -, -, hEntries, hNodes⟩ := update_entries hWrite
  obtain ⟨place, hPlace, hDots, hSlashed, hLength, rfl⟩ := place_join_isName hName hResolve
  have hFile : u.node? (place.directory ++ [place.last]) = some (.file content) :=
    (hNodes place.address).trans (if_pos rfl)
  -- the entry is in front already, so that it is put where it stands
  have hSame : entriesWith u.entries place.address (.file content) = u.entries := by
    rw [hEntries, entriesWith_entriesWith]
  unfold write update
  rw [hPlace]
  dsimp only
  rw [if_neg (by simp [hDots, hSlashed]), if_neg (Nat.not_lt.mpr hLength)]
  split
  · next hDirectory =>
    rw [hFile] at hDirectory
    exact nomatch hDirectory
  · exact congrArg Except.ok (eq_of_entries rfl hSame)
  · next hFree =>
    rw [hFile] at hFree
    exact nomatch hFree

end MarketFeed.FileTree
