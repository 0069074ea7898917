import MarketFeed.Proofs.FileTree.Growth

/-!
# Walking to a joined name

* `resolve_join_isName` — the address of a joined name ends with it.
* `resolve_of_resolve_join` — what a name that leads somewhere is joined to leads to its directory.
* `isDirectory_of_join`, `isDirectory_of_child` — what a directory is joined to is a directory.
-/

namespace MarketFeed

namespace Path

instance (bytes : Bytes) : Decidable (IsName bytes) :=
  inferInstanceAs (Decidable (bytes ≠ [] ∧ slash ∉ bytes ∧ bytes ≠ [dot] ∧ bytes ≠ [dot, dot]))

end Path

namespace FileTree

variable {t : FileTree} {p : Path} {bytes : Bytes}

theorem resolve_eq_ok_iff {a : Address} :
    t.resolve p = .ok a ↔ checkPath p = .ok () ∧ t.walk (t.start p) p.pieces = .ok a := by
  unfold resolve
  rcases checkPath p with e | ⟨⟩
  · simp
  · simp

theorem isDirectory_eq_true_iff :
    t.isDirectory p = true ↔ ∃ a, t.resolve p = .ok a ∧ t.node? a = some .directory := by
  unfold isDirectory find?
  rcases t.resolve p with e | a
  · simp
  · rcases hNode : t.node? a with _ | node
    · simp [hNode]
    · cases node <;> simp [hNode]

/-- A directory is still one after the tree has grown. -/
theorem Extends.isDirectory {u : FileTree} (h : Extends t u) (hDirectory : t.isDirectory p = true) :
    u.isDirectory p = true := by
  obtain ⟨a, hResolve, hNode⟩ := isDirectory_eq_true_iff.mp hDirectory
  exact isDirectory_eq_true_iff.mpr ⟨a, h.resolve hResolve, h.directory hNode⟩

/-- The address of a joined name is that of a directory, with the name at the end, which is no
longer than names may be. -/
theorem resolve_join_isName (hName : Path.IsName bytes) {a : Address}
    (hResolve : t.resolve (p.join ⟨bytes⟩) = .ok a) :
    ∃ b, t.walk (t.start (p.join ⟨bytes⟩)) p.piecesBefore = .ok b ∧
      t.node? b = some .directory ∧ bytes.length ≤ longestName ∧ a = b ++ [bytes] := by
  obtain ⟨-, hWalk⟩ := resolve_eq_ok_iff.mp hResolve
  rw [Path.pieces_join_isName hName, walk_append] at hWalk
  -- the walk is one to the pieces before the name, and one step more
  rcases hBefore : t.walk (t.start (p.join ⟨bytes⟩)) p.piecesBefore with e | b
  · rw [hBefore] at hWalk
    cases hWalk
  · rw [hBefore] at hWalk
    dsimp only at hWalk
    rw [walk] at hWalk
    rcases hStep : t.step b bytes with e | c
    · rw [hStep] at hWalk
      cases hWalk
    · rw [hStep] at hWalk
      obtain rfl := Except.ok.inj hWalk
      obtain ⟨hDirectory, hLength, -, hEnd⟩ :=
        (step_name_eq_ok_iff (Path.ofPiece?_of_isName hName)).mp hStep
      exact ⟨b, rfl, hDirectory, hLength, hEnd⟩

theorem checkPath_of_join {q : Path} (hRelative : q.isAbsolute = false) (hBytes : p.bytes ≠ [])
    (hCheck : checkPath (p.join q) = .ok ()) : checkPath p = .ok () := by
  obtain ⟨rest, hRest⟩ := Path.bytes_prefix_join (p := p) hRelative
  unfold checkPath at hCheck ⊢
  rw [← hRest] at hCheck
  split at hCheck
  · exact nomatch hCheck
  · next hZero =>
    split at hCheck
    · exact nomatch hCheck
    · next hLength =>
      -- a zero byte or too many bytes on the left are there in the whole as well
      rw [List.mem_append, not_or] at hZero
      rw [List.length_append] at hLength
      rw [if_neg hZero.1, if_neg (by omega), if_neg hBytes]

/-- What leads somewhere with a name joined to it leads to a directory, and the name stands
there. -/
theorem resolve_of_resolve_join (hName : Path.IsName bytes) (hBytes : p.bytes ≠ []) {a : Address}
    (hResolve : t.resolve (p.join ⟨bytes⟩) = .ok a) :
    ∃ b, t.resolve p = .ok b ∧ t.node? b = some .directory ∧ a = b ++ [bytes] := by
  obtain ⟨b, hWalk, hDirectory, -, hAddress⟩ := resolve_join_isName hName hResolve
  have hCheck := checkPath_of_join (Path.isAbsolute_of_isName hName) hBytes
    (resolve_eq_ok_iff.mp hResolve).1
  -- both walks start at the same address
  have hStart : t.start (p.join ⟨bytes⟩) = t.start p := by
    unfold start
    rw [Path.isAbsolute_join_isName hName hBytes]
  rw [hStart] at hWalk
  refine ⟨b, resolve_eq_ok_iff.mpr ⟨hCheck, ?_⟩, hDirectory, hAddress⟩
  -- a slash at the end of the path asks for no more than the directory that is there
  rcases Path.pieces_eq_piecesBefore p with hPieces | hPieces
  · rw [hPieces]
    exact hWalk
  · rw [hPieces, walk_append, hWalk]
    exact walk_replicate_nil (k := 1) (Or.inr hDirectory)

/-- What leads somewhere with a name joined to it is a directory. -/
theorem isDirectory_of_resolve_join (hName : Path.IsName bytes) (hBytes : p.bytes ≠ [])
    {a : Address} (hResolve : t.resolve (p.join ⟨bytes⟩) = .ok a) : t.isDirectory p = true := by
  obtain ⟨b, hParent, hDirectory, -⟩ := resolve_of_resolve_join hName hBytes hResolve
  exact isDirectory_eq_true_iff.mpr ⟨b, hParent, hDirectory⟩

/-- What a directory is joined to is a directory. -/
theorem isDirectory_of_join (hName : Path.IsName bytes) (hBytes : p.bytes ≠ [])
    (hJoin : t.isDirectory (p.join ⟨bytes⟩) = true) : t.isDirectory p = true := by
  obtain ⟨a, hResolve, -⟩ := isDirectory_eq_true_iff.mp hJoin
  exact isDirectory_of_resolve_join hName hBytes hResolve

/-- The same for names that are text: a directory stands in a directory. -/
theorem isDirectory_of_child (first second : String) (hFirst : Path.IsName (Utf8.encode first))
    (hSecond : Path.IsName (Utf8.encode second))
    (hChild : t.isDirectory ((p.child first).child second) = true) :
    t.isDirectory (p.child first) = true :=
  isDirectory_of_join hSecond (Path.bytes_join_isName_ne_nil hFirst) hChild

end FileTree

end MarketFeed
