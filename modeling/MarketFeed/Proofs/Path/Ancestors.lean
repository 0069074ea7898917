import MarketFeed.Path

/-!
# Joined paths and their ancestors

What joining a plain name does to the pieces and the bytes of a path, and how the ancestors of a
path are told by its parent.

* `pieces_join_isName` — the name is the last piece.
* `bytes_prefix_join`  — a relative right side leaves the bytes of the left one in front.
* `ancestors_of_parent?` — the ancestors are the parent and the ancestors of the parent.
* `parent?_join_isName_isSome`, `parent?_join_join` — a joined name can be taken off again.
-/

namespace MarketFeed.Path

/-! ## Pieces of a joined name -/

theorem pieces_of_isName {bytes : Bytes} (hName : IsName bytes) :
    (⟨bytes⟩ : Path).pieces = [bytes] :=
  List.splitOn_eq_singleton hName.2.1

theorem isAbsolute_of_isName {bytes : Bytes} (hName : IsName bytes) :
    (⟨bytes⟩ : Path).isAbsolute = false := by
  rcases bytes with _ | ⟨b, rest⟩
  · rfl
  · have hb : b ≠ slash := fun he => hName.2.1 (by simp [he])
    simp [isAbsolute, hb]

/-- The pieces in front of a joined name: an empty last piece gives way to it. -/
def piecesBefore (p : Path) : List Bytes :=
  if p.bytes = [] ∨ p.bytes.getLast? = some slash then p.pieces.dropLast else p.pieces

theorem pieces_join_isName {p : Path} {bytes : Bytes} (hName : IsName bytes) :
    (p.join ⟨bytes⟩).pieces = p.piecesBefore ++ [bytes] := by
  rw [pieces_join (isAbsolute_of_isName hName), pieces_of_isName hName]
  rfl

/-- Whatever the pieces in front of a joined name lack is one empty piece at the end. -/
theorem pieces_eq_piecesBefore (p : Path) :
    p.pieces = p.piecesBefore ∨ p.pieces = p.piecesBefore ++ [[]] := by
  unfold piecesBefore
  split
  · next hEnd =>
    right
    rcases hEnd with hEmpty | hSlash
    · simp [pieces, hEmpty]
    · obtain ⟨hne, hLast⟩ := List.getLast?_eq_some_iff.mp hSlash
      have hPieces : p.pieces = hne.splitOn slash ++ [[]] := by
        rw [pieces, hLast, List.splitOn_append_cons_self, List.splitOn_nil]
      rw [hPieces, List.dropLast_concat]
  · exact Or.inl rfl

theorem isAbsolute_join_isName {p : Path} {bytes : Bytes} (hName : IsName bytes)
    (hNonempty : p.bytes ≠ []) : (p.join ⟨bytes⟩).isAbsolute = p.isAbsolute := by
  obtain ⟨b, rest, hBytes⟩ := List.exists_cons_of_ne_nil hNonempty
  unfold join
  rw [isAbsolute_of_isName hName]
  simp only [Bool.false_eq_true, if_false]
  split <;> simp [isAbsolute, hBytes]

theorem bytes_prefix_join {p q : Path} (hRelative : q.isAbsolute = false) :
    p.bytes <+: (p.join q).bytes := by
  unfold join
  rw [hRelative]
  simp only [Bool.false_eq_true, if_false]
  split
  · exact List.prefix_append _ _
  · exact List.prefix_append _ _

/-- A joined name ends the path, so no slash does. -/
theorem getLast?_join_isName {p : Path} {bytes : Bytes} (hName : IsName bytes) :
    (p.join ⟨bytes⟩).bytes.getLast? = bytes.getLast? := by
  obtain ⟨last, hLast⟩ : ∃ b, bytes.getLast? = some b := by
    rw [List.getLast?_eq_some_getLast hName.1]
    exact ⟨_, rfl⟩
  unfold join
  rw [isAbsolute_of_isName hName]
  simp only [Bool.false_eq_true, if_false]
  split
  · simp [List.getLast?_append, hLast]
  · rw [List.getLast?_append, List.getLast?_cons, hLast]
    simp

theorem bytes_join_isName_ne_nil {p : Path} {bytes : Bytes} (hName : IsName bytes) :
    (p.join ⟨bytes⟩).bytes ≠ [] := by
  intro hEmpty
  have hLast := getLast?_join_isName (p := p) hName
  rw [hEmpty] at hLast
  exact hName.1 (List.getLast?_eq_none_iff.mp hLast.symm)

/-- A joined name ends a path without a slash, so that what is joined next comes right behind. -/
theorem piecesBefore_join_isName {p : Path} {bytes : Bytes} (hName : IsName bytes) :
    (p.join ⟨bytes⟩).piecesBefore = p.piecesBefore ++ [bytes] := by
  have hLast : (p.join ⟨bytes⟩).bytes.getLast? ≠ some slash := by
    rw [getLast?_join_isName hName]
    exact fun hSlash => hName.2.1 (List.mem_of_getLast? hSlash)
  rw [← pieces_join_isName hName]
  exact if_neg fun hEnd => hEnd.elim (bytes_join_isName_ne_nil hName) hLast

/-! ## Pieces and slashes -/

/-- No piece holds the byte that the pieces were split at. -/
theorem slash_not_mem_piece {bytes piece : Bytes} (hPiece : piece ∈ bytes.splitOn slash) :
    slash ∉ piece := by
  -- by induction on the bytes: only a byte that is no slash comes into a piece
  induction bytes generalizing piece with
  | nil =>
    rw [List.splitOn_nil, List.mem_singleton] at hPiece
    simp [hPiece]
  | cons b rest ih =>
    rw [List.splitOn_cons_eq_if_modifyHead] at hPiece
    split at hPiece
    · rcases List.mem_cons.mp hPiece with rfl | hRest
      · simp
      · exact ih hRest
    · next hb =>
      obtain ⟨first, others, hSplit⟩ :=
        List.exists_cons_of_ne_nil (List.splitOn_ne_nil slash rest)
      rw [hSplit, List.modifyHead_cons] at hPiece
      rcases List.mem_cons.mp hPiece with rfl | hRest
      · have hFirst : slash ∉ first := ih (by rw [hSplit]; exact List.mem_cons_self ..)
        have hbSlash : slash ≠ b := fun he => hb (by simp [he])
        simp [hbSlash, hFirst]
      · exact ih (by rw [hSplit]; exact List.mem_cons_of_mem _ hRest)

/-- The pieces of a path hold no slash, in whatever order they are listed. -/
theorem slash_not_mem_of_pieces {p : Path} {first : Bytes} {rest : List Bytes}
    (hPieces : p.pieces = first :: rest) : ∀ piece ∈ first :: rest.reverse, slash ∉ piece := by
  intro piece hPiece
  have hSplit : piece ∈ p.bytes.splitOn slash := by
    rw [show p.bytes.splitOn slash = first :: rest from hPieces]
    simpa using hPiece
  exact slash_not_mem_piece hSplit

/-- Only a slash at the end leaves an empty last piece. -/
theorem getLast?_of_pieces {bytes : Bytes} (hLast : (bytes.splitOn slash).getLast? = some []) :
    bytes = [] ∨ bytes.getLast? = some slash := by
  -- the last piece is a later one as long as there are others
  induction bytes with
  | nil => exact Or.inl rfl
  | cons b rest ih =>
    right
    obtain ⟨first, others, hSplit⟩ := List.exists_cons_of_ne_nil (List.splitOn_ne_nil slash rest)
    rw [List.splitOn_cons_eq_if_modifyHead, hSplit] at hLast
    rw [hSplit] at ih
    split at hLast
    · next hb =>
      rw [List.getLast?_cons_cons] at hLast
      rcases ih hLast with rfl | hRest
      · simpa using hb
      · simp [List.getLast?_cons, hRest]
    · -- the first piece is not empty, so the last one is another piece
      rw [List.modifyHead_cons] at hLast
      rcases others with _ | ⟨second, others⟩
      · simp at hLast
      · rw [List.getLast?_cons_cons] at hLast ih
        rcases ih hLast with rfl | hRest
        · simp at hSplit
        · simp [List.getLast?_cons, hRest]

/-- The pieces up to the last one that counts hold no slash if none of all pieces does. -/
theorem slash_not_mem_dropWhile {first : Bytes} {before : List Bytes}
    (hClean : ∀ piece ∈ first :: before, slash ∉ piece) :
    ∀ piece ∈ first :: (before.dropWhile isTrivial).reverse, slash ∉ piece := by
  intro piece hPiece
  rcases List.mem_cons.mp hPiece with rfl | hKept
  · exact hClean _ List.mem_cons_self
  · have hMem := (List.dropWhile_sublist isTrivial).subset (List.mem_reverse.mp hKept)
    exact hClean _ (List.mem_cons_of_mem _ hMem)

/-! ## Ancestors -/

/-- Pieces that add no component at the end change no ancestor. -/
theorem ancestorsFrom_dropWhile (first : Bytes) (before : List Bytes) :
    ancestorsFrom first (before.dropWhile isTrivial) = ancestorsFrom first before := by
  induction before with
  | nil => rfl
  | cons piece before ih =>
    by_cases hTrivial : isTrivial piece = true
    · rw [List.dropWhile_cons_of_pos hTrivial, ih, ancestorsFrom, if_pos hTrivial]
    · rw [List.dropWhile_cons_of_neg hTrivial]

/-- The ancestors of a path that is put together from pieces. -/
theorem ancestors_ofPieces {first : Bytes} {rest : List Bytes}
    (hClean : ∀ piece ∈ first :: rest, slash ∉ piece) :
    (ofPieces first rest).ancestors = ancestorsFrom first rest.reverse := by
  unfold ofPieces
  split
  · next hRoot =>
    obtain ⟨rfl, rfl⟩ := hRoot
    rfl
  · have hPieces : (⟨[slash].intercalate (first :: rest)⟩ : Path).pieces = first :: rest :=
      List.splitOn_intercalate slash hClean (by simp)
    rw [ancestors, hPieces]

private theorem ancestorsFrom_eq_cons {first : Bytes} {before : List Bytes} {q : Path}
    (hClean : ∀ piece ∈ first :: before, slash ∉ piece)
    (hHead : (ancestorsFrom first before).head? = some q) :
    ancestorsFrom first before = q :: q.ancestors := by
  -- by induction on the pieces before the last: trivial ones are passed over, and the first
  -- other one is the last piece of the parent
  induction before with
  | nil =>
    rw [ancestorsFrom] at hHead ⊢
    split at hHead
    · exact absurd hHead (by simp)
    · next hFirst =>
      obtain rfl := Option.some.inj hHead
      rw [if_neg hFirst]
      rfl
  | cons piece before ih =>
    have hBefore : ∀ b ∈ first :: before, slash ∉ b := fun b hb =>
      hClean b (List.cons_subset_cons first (List.subset_cons_self piece before) hb)
    rw [ancestorsFrom] at hHead ⊢
    split
    · next hTrivial =>
      rw [if_pos hTrivial] at hHead
      exact ih hBefore hHead
    · next hTrivial =>
      rw [if_neg hTrivial, List.head?_cons] at hHead
      obtain rfl := Option.some.inj hHead
      -- the parent keeps the pieces up to the last one that counts
      rw [ancestors_ofPieces (slash_not_mem_dropWhile hBefore), List.reverse_reverse,
        ancestorsFrom_dropWhile]

/-- The ancestors of a path are its parent and the ancestors of its parent. -/
theorem ancestors_of_parent? {p q : Path} (hParent : p.parent? = some q) :
    p.ancestors = q :: q.ancestors := by
  obtain ⟨first, rest, hPieces⟩ := List.exists_cons_of_ne_nil p.pieces_ne_nil
  have hAncestors : p.ancestors = ancestorsFrom first rest.reverse := by
    rw [ancestors, hPieces]
  rw [parent?, hAncestors] at hParent
  rw [hAncestors]
  exact ancestorsFrom_eq_cons (slash_not_mem_of_pieces hPieces) hParent

theorem isTrivial_of_isName {bytes : Bytes} (hName : IsName bytes) : isTrivial bytes = false := by
  simp [isTrivial, ofPiece?_of_isName hName]

/-- A joined name can be taken off again. -/
theorem parent?_join_isName_isSome (p : Path) {bytes : Bytes} (hName : IsName bytes) :
    ∃ q, (p.join ⟨bytes⟩).parent? = some q := by
  rw [parent?, ancestors, pieces_join_isName hName]
  rcases p.piecesBefore with _ | ⟨first, rest⟩
  · simp [ancestorsFrom, hName.1]
  · simp [ancestorsFrom, isTrivial_of_isName hName]

/-- A name that is joined to a joined name has the path before it as its parent. -/
theorem parent?_join_join {p : Path} {bytes last : Bytes} (hName : IsName bytes)
    (hLast : IsName last) : ((p.join ⟨bytes⟩).join ⟨last⟩).parent? = some (p.join ⟨bytes⟩) := by
  have hPieces : (p.join ⟨bytes⟩).pieces = p.piecesBefore ++ [bytes] := pieces_join_isName hName
  have hBytes : p.join ⟨bytes⟩ = ⟨[slash].intercalate (p.piecesBefore ++ [bytes])⟩ := by
    rw [← hPieces, pieces, List.intercalate_splitOn]
  rw [parent?, ancestors, pieces_join_isName hLast, piecesBefore_join_isName hName, hBytes]
  -- the last name is taken off, and the one before it stops what is passed over
  rcases p.piecesBefore with _ | ⟨first, rest⟩
  · simp [ancestorsFrom, isTrivial_of_isName hLast, ofPieces, hName.1]
  · simp [ancestorsFrom, isTrivial_of_isName hLast, isTrivial_of_isName hName, ofPieces]

end MarketFeed.Path
