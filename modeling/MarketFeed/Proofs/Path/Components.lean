import Mathlib.Data.List.Induction
import MarketFeed.Proofs.Path.Ancestors
import MarketFeed.Proofs.Text.Encoding

/-!
# Components of a path and of its ancestors

What the ancestors of a path are, told by components, and which texts name a single entry.

* `components_of_parent?`       — the parent of a path lacks just the last component.
* `components_of_mem_ancestors` — an ancestor lacks one component or more, all at the end.
* `exists_mem_ancestors_agrees` — names at the end of a path can be taken off down to what is in
                                  front of them.
* `components_append_slash`     — the components in front of a slash and those behind it.
* `prefix_of_components`        — what a path begins with whose first component is a name.
* `exists_name_of_mem`          — all other bytes than slashes and dots stand in names.
* `isName_of_mem_components`    — a name among the components is the name of one entry.
* `components_join_iff`         — only the name of one entry adds itself, and nothing else, to
                                  whatever path it is joined to.
* `isName_encode_iff`           — a text names one entry unless it is empty, holds a slash or is
                                  one of the names that lead elsewhere.
-/

namespace MarketFeed.Path

/-! ## Leading pieces -/

/-- What comes behind counts for the first piece only where there was nothing at all. -/
theorem leading_append {first : Bytes} {rest : List Bytes} (hSome : first ≠ [] ∨ rest ≠ [])
    (more : List Bytes) : leading first (rest ++ more) = leading first rest := by
  unfold leading
  by_cases hFirst : first = []
  · have hRest : rest ≠ [] := hSome.resolve_left (not_not_intro hFirst)
    rw [if_pos hFirst, if_pos hFirst, if_neg (by simp [hRest]), if_neg hRest]
  · rw [if_neg hFirst, if_neg hFirst]

theorem components_of_pieces {p : Path} {first : Bytes} {rest : List Bytes}
    (hPieces : p.pieces = first :: rest) :
    p.components = (leading first rest).toList ++ rest.filterMap Component.ofPiece? := by
  rw [components, hPieces]

/-- The components of a path that is put together from pieces, as if a piece came behind. -/
theorem components_ofPieces {first : Bytes} {rest : List Bytes}
    (hClean : ∀ piece ∈ first :: rest, slash ∉ piece) (last : Bytes) :
    (ofPieces first rest).components =
      (leading first (rest ++ [last])).toList ++ rest.filterMap Component.ofPiece? := by
  unfold ofPieces
  split
  · next hRoot =>
    obtain ⟨rfl, rfl⟩ := hRoot
    rfl
  · next hRoot =>
    have hPieces : (⟨[slash].intercalate (first :: rest)⟩ : Path).pieces = first :: rest :=
      List.splitOn_intercalate slash hClean (by simp)
    have hSome : first ≠ [] ∨ rest ≠ [] := Decidable.not_and_iff_not_or_not.mp hRoot
    rw [components_of_pieces hPieces, leading_append hSome]

theorem filterMap_reverse_dropWhile (before : List Bytes) :
    (before.dropWhile isTrivial).reverse.filterMap Component.ofPiece? =
      before.reverse.filterMap Component.ofPiece? := by
  induction before with
  | nil => rfl
  | cons piece before ih =>
    by_cases hTrivial : isTrivial piece = true
    · have hNone : Component.ofPiece? piece = none := by simpa [isTrivial] using hTrivial
      rw [List.dropWhile_cons_of_pos hTrivial, ih]
      simp [List.filterMap_append, hNone]
    · rw [List.dropWhile_cons_of_neg hTrivial]

/-- Any other piece than the empty one and a dot has a component. -/
theorem exists_ofPiece? {piece : Bytes} (hSome : piece ≠ []) (hDot : piece ≠ [dot]) :
    ∃ c, Component.ofPiece? piece = some c := by
  unfold Component.ofPiece?
  rw [if_neg (by simp [hSome, hDot])]
  split <;> exact ⟨_, rfl⟩

/-! ## Ancestors by components -/

private theorem components_of_head?_ancestorsFrom {first : Bytes} {before : List Bytes} {q : Path}
    (hClean : ∀ piece ∈ first :: before, slash ∉ piece)
    (hHead : (ancestorsFrom first before).head? = some q) :
    ∃ c, (leading first before.reverse).toList ++ before.reverse.filterMap Component.ofPiece? =
      q.components ++ [c] := by
  -- by induction on the pieces from the last one on: the first that counts is what is taken off
  induction before with
  | nil =>
    rw [ancestorsFrom] at hHead
    split at hHead
    · exact absurd hHead (by simp)
    · next hFirst =>
      obtain rfl := Option.some.inj hHead
      by_cases hDot : first = [dot]
      · exact ⟨.current, by rw [hDot]; rfl⟩
      · obtain ⟨c, hc⟩ := exists_ofPiece? hFirst hDot
        exact ⟨c, by simp [leading, hFirst, hDot, hc, components, pieces]⟩
  | cons piece before ih =>
    have hBefore : ∀ b ∈ first :: before, slash ∉ b := fun b hb =>
      hClean b (List.cons_subset_cons first (List.subset_cons_self piece before) hb)
    rw [ancestorsFrom] at hHead
    split at hHead
    · next hTrivial =>
      have hNone : Component.ofPiece? piece = none := by simpa [isTrivial] using hTrivial
      have hSome : first ≠ [] ∨ before.reverse ≠ [] := by
        by_cases hFirst : first = []
        · right
          rintro hEmpty
          rw [List.reverse_eq_nil_iff.mp hEmpty, hFirst] at hHead
          exact absurd hHead (by simp [ancestorsFrom])
        · exact Or.inl hFirst
      obtain ⟨c, hc⟩ := ih hBefore hHead
      refine ⟨c, ?_⟩
      rw [List.reverse_cons, leading_append hSome, List.filterMap_append]
      simpa [hNone] using hc
    · next hCounts =>
      rw [List.head?_cons] at hHead
      obtain rfl := Option.some.inj hHead
      obtain ⟨c, hc⟩ : ∃ c, Component.ofPiece? piece = some c :=
        Option.ne_none_iff_exists'.mp (by simpa [isTrivial] using hCounts)
      refine ⟨c, ?_⟩
      rw [components_ofPieces (slash_not_mem_dropWhile hBefore) piece, filterMap_reverse_dropWhile,
        List.reverse_cons, List.filterMap_append]
      -- both sides have the same pieces but for those that add nothing
      have hLeading : leading first ((before.dropWhile isTrivial).reverse ++ [piece]) =
          leading first (before.reverse ++ [piece]) := by
        unfold leading
        simp
      rw [hLeading]
      simp [hc]

/-- The parent of a path lacks just the last component. -/
theorem components_of_parent? {p q : Path} (hParent : p.parent? = some q) :
    ∃ c, p.components = q.components ++ [c] := by
  obtain ⟨first, rest, hPieces⟩ := List.exists_cons_of_ne_nil p.pieces_ne_nil
  rw [parent?, ancestors, hPieces] at hParent
  obtain ⟨c, hc⟩ :=
    components_of_head?_ancestorsFrom (slash_not_mem_of_pieces hPieces) hParent
  rw [List.reverse_reverse] at hc
  exact ⟨c, by rw [components_of_pieces hPieces, hc]⟩

/-- An ancestor lacks one component or more, all at the end. -/
theorem components_of_mem_ancestors {p q : Path} (hMem : q ∈ p.ancestors) :
    ∃ cs, cs ≠ [] ∧ p.components = q.components ++ cs := by
  -- by induction on the ancestors, which are those of the parent and the parent itself
  induction hAncestors : p.ancestors generalizing p with
  | nil => exact absurd hMem (by simp [hAncestors])
  | cons r above ih =>
    have hParent : p.parent? = some r := by rw [parent?, hAncestors]; rfl
    obtain ⟨c, hc⟩ := components_of_parent? hParent
    have hAbove : r.ancestors = above := by
      have hBoth := ancestors_of_parent? hParent
      rw [hAncestors] at hBoth
      exact (List.cons.inj hBoth).2.symm
    rw [hAncestors] at hMem
    rcases List.mem_cons.mp hMem with rfl | hMem
    · exact ⟨[c], by simp, hc⟩
    · obtain ⟨cs, -, hcs⟩ := ih (hAbove ▸ hMem) hAbove
      exact ⟨cs ++ [c], by simp, by rw [hc, hcs, List.append_assoc]⟩

/-- A path without a parent is the root, or it has no component at all. -/
theorem components_of_parent?_eq_none {p : Path} (hNone : p.parent? = none) :
    p.components = [] ∨ p.components = [.root] := by
  obtain ⟨first, rest, hPieces⟩ := List.exists_cons_of_ne_nil p.pieces_ne_nil
  rw [parent?, ancestors, hPieces, List.head?_eq_none_iff] at hNone
  -- the first piece is empty, and no later one counts
  have hNothing : ∀ before : List Bytes, ancestorsFrom first before = [] →
      first = [] ∧ before.filterMap Component.ofPiece? = [] := by
    intro before hEmpty
    induction before with
    | nil => simpa [ancestorsFrom] using hEmpty
    | cons piece before ih =>
      rw [ancestorsFrom] at hEmpty
      split at hEmpty
      · next hTrivial =>
        have hPiece : Component.ofPiece? piece = none := by simpa [isTrivial] using hTrivial
        simpa [hPiece] using ih hEmpty
      · cases hEmpty
  obtain ⟨rfl, hRest⟩ := hNothing _ hNone
  rw [List.filterMap_reverse, List.reverse_eq_nil_iff] at hRest
  rw [components_of_pieces hPieces, hRest, List.append_nil, leading, if_pos rfl]
  split
  · exact Or.inl rfl
  · exact Or.inr rfl

/-- Names at the end of a path can be taken off, down to what is in front of them. -/
theorem exists_mem_ancestors_agrees {p q : Path} {names : List Bytes} (hNames : names ≠ [])
    (hBelow : p.components = q.components ++ names.map .name) :
    ∃ r ∈ p.ancestors, r.agrees q = true := by
  -- by induction on the names from the last to the first
  induction names using List.reverseRecOn generalizing p with
  | nil => exact absurd rfl hNames
  | append_singleton names name ih =>
    rw [List.map_append, List.map_singleton, ← List.append_assoc] at hBelow
    obtain ⟨r, hParent⟩ : ∃ r, p.parent? = some r := by
      rcases hFound : p.parent? with _ | r
      · rcases components_of_parent?_eq_none hFound with hNone | hRoot
        · exact absurd (hBelow.symm.trans hNone) (by simp)
        · exact absurd (hBelow.symm.trans hRoot) fun h => by
            have hLast := congrArg List.getLast? h
            simp at hLast
      · exact ⟨r, rfl⟩
    obtain ⟨c, hc⟩ := components_of_parent? hParent
    obtain ⟨hRest, -⟩ := List.append_inj' (hc.symm.trans hBelow) rfl
    rw [ancestors_of_parent? hParent]
    by_cases hEmpty : names = []
    · refine ⟨r, List.mem_cons_self .., ?_⟩
      rw [agrees, hRest, hEmpty]
      simp
    · obtain ⟨s, hs, hAgrees⟩ := ih hEmpty hRest
      exact ⟨s, List.mem_cons_of_mem _ hs, hAgrees⟩

/-! ## Bytes and components -/

theorem ofPiece?_eq_name_iff {piece name : Bytes} :
    Component.ofPiece? piece = some (.name name) ↔
      piece = name ∧ name ≠ [] ∧ name ≠ [dot] ∧ name ≠ [dot, dot] := by
  unfold Component.ofPiece?
  constructor
  · intro hPiece
    split at hPiece
    · exact nomatch hPiece
    · next hCounts =>
      split at hPiece
      · exact nomatch hPiece
      · next hDots =>
        obtain rfl := Component.name.inj (Option.some.inj hPiece)
        exact ⟨rfl, fun h => hCounts (Or.inl h), fun h => hCounts (Or.inr h), hDots⟩
  · rintro ⟨rfl, hSome, hDot, hDots⟩
    rw [if_neg (by simp [hSome, hDot]), if_neg hDots]

theorem bytes_of_pieces {p : Path} {first : Bytes} {rest : List Bytes}
    (hPieces : p.pieces = first :: rest) : p.bytes = [slash].intercalate (first :: rest) := by
  rw [← hPieces, pieces, List.intercalate_splitOn]

/-- A slash in a path separates its components, unless it is the root itself. -/
theorem components_append_slash {front behind : Bytes} (hSome : front ≠ []) :
    (⟨front ++ slash :: behind⟩ : Path).components =
      (⟨front⟩ : Path).components ++ (⟨behind⟩ : Path).pieces.filterMap Component.ofPiece? := by
  obtain ⟨first, rest, hPieces⟩ := List.exists_cons_of_ne_nil (pieces_ne_nil ⟨front⟩)
  have hBoth : (⟨front ++ slash :: behind⟩ : Path).pieces =
      first :: (rest ++ (⟨behind⟩ : Path).pieces) := by
    show (front ++ slash :: behind).splitOn slash = _
    rw [List.splitOn_append_cons_self, show front.splitOn slash = _ from hPieces]
    rfl
  have hCounts : first ≠ [] ∨ rest ≠ [] := by
    rw [← Decidable.not_and_iff_not_or_not]
    rintro ⟨rfl, rfl⟩
    exact hSome (bytes_of_pieces hPieces)
  rw [components_of_pieces hPieces, components_of_pieces hBoth, leading_append hCounts,
    List.filterMap_append, List.append_assoc]

/-- A path whose first component is a name, with another one behind it, begins with that name and
a slash. -/
theorem prefix_of_components {p : Path} {name : Bytes} {c : Component} {cs : List Component}
    (hComponents : p.components = .name name :: c :: cs) : name ++ [slash] <+: p.bytes := by
  obtain ⟨first, rest, hPieces⟩ := List.exists_cons_of_ne_nil p.pieces_ne_nil
  rw [components_of_pieces hPieces] at hComponents
  -- the first component is that of the first piece, which is no empty one, or nothing follows
  have hFirst : first = name ∧ rest ≠ [] := by
    unfold leading at hComponents
    split at hComponents
    · split at hComponents
      · next hRest => exact absurd hComponents (by simp [hRest])
      · cases (List.cons.inj hComponents).1
    · next hSome =>
      split at hComponents
      · cases (List.cons.inj hComponents).1
      · next hDot =>
        rw [Component.ofPiece?, if_neg (by simp [hSome, hDot])] at hComponents
        split at hComponents
        · cases (List.cons.inj hComponents).1
        · obtain ⟨hName, hBehind⟩ := List.cons.inj hComponents
          refine ⟨Component.name.inj hName, ?_⟩
          rintro rfl
          cases hBehind
  obtain ⟨rfl, hRest⟩ := hFirst
  obtain ⟨next, rest, rfl⟩ := List.exists_cons_of_ne_nil hRest
  rw [bytes_of_pieces hPieces, List.intercalate_cons_cons]
  exact List.prefix_append ..

theorem exists_mem_of_mem_intercalate {pieces : List Bytes} {b : UInt8}
    (hMem : b ∈ [slash].intercalate pieces) (hSlash : b ≠ slash) : ∃ piece ∈ pieces, b ∈ piece := by
  induction pieces with
  | nil => exact absurd hMem List.not_mem_nil
  | cons piece rest ih =>
    rcases rest with _ | ⟨next, rest⟩
    · exact ⟨piece, List.mem_cons_self, by simpa using hMem⟩
    · rw [List.intercalate_cons_cons, List.mem_append, List.mem_append, List.mem_singleton] at hMem
      rcases hMem with (hPiece | hSame) | hRest
      · exact ⟨piece, List.mem_cons_self, hPiece⟩
      · exact absurd hSame hSlash
      · obtain ⟨found, hFound, hb⟩ := ih hRest
        exact ⟨found, List.mem_cons_of_mem _ hFound, hb⟩

/-- Every other byte of a path than slashes and dots stands in one of its names. -/
theorem exists_name_of_mem {p : Path} {b : UInt8} (hMem : b ∈ p.bytes) (hSlash : b ≠ slash)
    (hDot : b ≠ dot) : ∃ name, .name name ∈ p.components ∧ b ∈ name := by
  obtain ⟨first, rest, hPieces⟩ := List.exists_cons_of_ne_nil p.pieces_ne_nil
  rw [bytes_of_pieces hPieces] at hMem
  obtain ⟨piece, hPiece, hb⟩ := exists_mem_of_mem_intercalate hMem hSlash
  have hNone : piece ≠ [] := List.ne_nil_of_mem hb
  have hOne : piece ≠ [dot] := fun h => hDot (by simpa [h] using hb)
  have hTwo : piece ≠ [dot, dot] := fun h => hDot (by simpa [h] using hb)
  have hName : Component.ofPiece? piece = some (.name piece) :=
    ofPiece?_eq_name_iff.mpr ⟨rfl, hNone, hOne, hTwo⟩
  refine ⟨piece, ?_, hb⟩
  rw [components_of_pieces hPieces, List.mem_append]
  rcases List.mem_cons.mp hPiece with rfl | hRest
  · left
    rw [leading, if_neg hNone, if_neg hOne, hName]
    exact List.mem_singleton_self _
  · exact Or.inr (List.mem_filterMap.mpr ⟨piece, hRest, hName⟩)

/-! ## Names among the components -/

/-- A name among the components of a path is the name of one entry, for it was one of the pieces. -/
theorem isName_of_mem_components {p : Path} {name : Bytes}
    (hMem : Component.name name ∈ p.components) : IsName name := by
  obtain ⟨first, rest, hPieces⟩ := List.exists_cons_of_ne_nil p.pieces_ne_nil
  obtain ⟨piece, hPiece, hOf⟩ :
      ∃ piece ∈ first :: rest, Component.ofPiece? piece = some (.name name) := by
    rw [components_of_pieces hPieces, List.mem_append, Option.mem_toList] at hMem
    rcases hMem with hLeading | hRest
    · -- the first piece counts like any other unless it is the root or a dot
      unfold leading at hLeading
      split at hLeading
      · split at hLeading <;> exact nomatch hLeading
      · split at hLeading
        · exact nomatch hLeading
        · exact ⟨first, List.mem_cons_self, hLeading⟩
    · obtain ⟨piece, hPiece, hOf⟩ := List.mem_filterMap.mp hRest
      exact ⟨piece, List.mem_cons_of_mem _ hPiece, hOf⟩
  obtain ⟨rfl, hSome, hDot, hDots⟩ := ofPiece?_eq_name_iff.mp hOf
  exact ⟨hSome, slash_not_mem_piece (hPieces ▸ hPiece), hDot, hDots⟩

/-- Only the name of one entry adds itself, and nothing else, to whatever path it is joined to. -/
theorem components_join_iff {bytes : Bytes} :
    (∀ p : Path, (p.join ⟨bytes⟩).components = p.components ++ [.name bytes]) ↔ IsName bytes := by
  constructor
  · intro hJoin
    have hMem : Component.name bytes ∈ ((⟨[]⟩ : Path).join ⟨bytes⟩).components := by
      rw [hJoin]
      exact List.mem_append_right _ (List.mem_singleton_self _)
    exact isName_of_mem_components hMem
  · exact fun hName p => components_join_name hName

/-! ## Texts that name an entry -/

/-- Only the slash itself is encoded with the byte of a slash. -/
theorem slash_mem_utf8EncodeChar_iff {c : Char} :
    slash ∈ String.utf8EncodeChar c ↔ c = '/' := by
  constructor
  · intro hMem
    obtain ⟨hCode, -⟩ := Utf8.utf8EncodeChar_of_mem hMem (by decide)
    exact Char.ext (UInt32.toNat_inj.mp hCode)
  · rintro rfl
    decide

theorem slash_mem_encode_iff {s : String} : slash ∈ Utf8.encode s ↔ '/' ∈ s.toList := by
  simp [Utf8.encode, List.mem_flatMap, slash_mem_utf8EncodeChar_iff]

/-- A text names one entry unless it is empty, holds a slash or is `.` or `..`. -/
theorem isName_encode_iff {s : String} :
    IsName (Utf8.encode s) ↔ s ≠ "" ∧ '/' ∉ s.toList ∧ s ≠ "." ∧ s ≠ ".." := by
  have hEncode : ∀ t, Utf8.encode s = Utf8.encode t ↔ s = t := fun t =>
    ⟨Utf8.encode_injective, fun h => by rw [h]⟩
  have hEmpty : Utf8.encode s = [] ↔ s = "" := hEncode ""
  have hDot : Utf8.encode s = [dot] ↔ s = "." := hEncode "."
  have hDots : Utf8.encode s = [dot, dot] ↔ s = ".." := hEncode ".."
  simp only [IsName, ne_eq, hEmpty, hDot, hDots, slash_mem_encode_iff]

end MarketFeed.Path
