import MarketFeed.Text.Utf8

/-!
# Paths

A path is a sequence of bytes in which slashes separate names.  Joining never tidies a path up:
what it names is told by its components.

* `Path.join`       — one path below another; an absolute right side stands alone.
* `Path.components` — what the pieces between the slashes mean.
* `Path.ancestors`  — the paths left when the last components are taken off, one by one.
* `Path.agrees`     — equality of paths by components.
* `Path.text`       — the path as text, for messages.

Main statements: `pieces_join` — a relative right side adds its pieces; `components_join_name`
— joining a plain name adds exactly one component.
-/

namespace MarketFeed

/-- A path of the file system: names separated by slashes, as bytes. -/
structure Path where
  bytes : Bytes
  deriving DecidableEq, Repr

namespace Path

/-- The byte that separates names. -/
def slash : UInt8 := 0x2F

/-- The byte of the names `.` and `..`. -/
def dot : UInt8 := 0x2E

/-- The path that a text names. -/
def ofString (s : String) : Path := ⟨Utf8.encode s⟩

/-- The path as text; bytes that encode no character are shown as U+FFFD. -/
def text (p : Path) : String := Utf8.lossy p.bytes

/-- The path starts at the root of the file system. -/
def isAbsolute (p : Path) : Bool := p.bytes.head? == some slash

/-- The path that names `q` from the directory `p`: an absolute `q` stands alone, and a slash
goes between the two unless `p` is empty or ends with one. -/
def join (p q : Path) : Path :=
  if q.isAbsolute then q
  else if p.bytes = [] ∨ p.bytes.getLast? = some slash then ⟨p.bytes ++ q.bytes⟩
  else ⟨p.bytes ++ slash :: q.bytes⟩

/-- The path of a file or directory with a textual name below the directory `p`. -/
def child (p : Path) (name : String) : Path := p.join (ofString name)

/-! ## Components -/

/-- What a piece of a path means. -/
inductive Component where
  /-- The root of the file system. -/
  | root
  /-- The directory that a relative path starts from, if the path says so. -/
  | current
  /-- The directory above. -/
  | up
  /-- The entry of that name. -/
  | name (bytes : Bytes)
  deriving DecidableEq, Repr

/-- The component of a piece; the empty piece and `.` have none. -/
def Component.ofPiece? (piece : Bytes) : Option Component :=
  if piece = [] ∨ piece = [dot] then none
  else if piece = [dot, dot] then some .up
  else some (.name piece)

/-- The bytes between the slashes; at least one piece. -/
def pieces (p : Path) : List Bytes := p.bytes.splitOn slash

/-- The component of the first piece: an empty one before a slash is the root, and `.` counts. -/
def leading (first : Bytes) (rest : List Bytes) : Option Component :=
  if first = [] then (if rest = [] then none else some .root)
  else if first = [dot] then some .current
  else Component.ofPiece? first

/-- The components of a path: slashes may be repeated or end the path, and `.` counts only at
the start. -/
def components (p : Path) : List Component :=
  match p.pieces with
  | [] => []
  | first :: rest => (leading first rest).toList ++ rest.filterMap Component.ofPiece?

/-- The two paths have the same components. -/
def agrees (p q : Path) : Bool := p.components == q.components

/-! ## Ancestors -/

/-- The path with the given pieces; the pieces of the root alone make `/`. -/
def ofPieces (first : Bytes) (rest : List Bytes) : Path :=
  if first = [] ∧ rest = [] then ⟨[slash]⟩ else ⟨[slash].intercalate (first :: rest)⟩

/-- The piece adds no component behind the first piece. -/
def isTrivial (piece : Bytes) : Bool := (Component.ofPiece? piece).isNone

/-- The paths left when components are taken off the end, where `before` holds the pieces after
the first one from the last to the first. -/
def ancestorsFrom (first : Bytes) : List Bytes → List Path
  | [] => if first = [] then [] else [⟨[]⟩]
  | piece :: before =>
    if isTrivial piece then ancestorsFrom first before
    else ofPieces first (before.dropWhile isTrivial).reverse :: ancestorsFrom first before

/-- The paths left when the last component is taken off again and again: down to the root, or
to the empty path if the path is relative. -/
def ancestors (p : Path) : List Path :=
  match p.pieces with
  | [] => []
  | first :: rest => ancestorsFrom first rest.reverse

/-- The path without its last component; the empty path and the root have none. -/
def parent? (p : Path) : Option Path := p.ancestors.head?

/-! ## Laws -/

theorem pieces_ne_nil (p : Path) : p.pieces ≠ [] := List.splitOn_ne_nil _ _

private theorem splitOn_of_getLast? {bytes : Bytes} (h : bytes.getLast? = some slash) :
    bytes.splitOn slash = bytes.dropLast.splitOn slash ++ [[]] := by
  have hb : bytes = bytes.dropLast ++ [slash] := by
    obtain ⟨hne, hl⟩ := List.getLast?_eq_some_iff.1 h
    simp [hl]
  rw [hb, List.splitOn_append_cons_self, List.splitOn_nil]
  simp

/-- A relative right side adds its pieces; the empty piece after a final slash, and the single
empty piece of the empty path, give way to them. -/
theorem pieces_join {p q : Path} (hq : q.isAbsolute = false) :
    (p.join q).pieces =
      (if p.bytes = [] ∨ p.bytes.getLast? = some slash then p.pieces.dropLast else p.pieces)
        ++ q.pieces := by
  simp only [join, hq, Bool.false_eq_true, ↓reduceIte, pieces]
  split
  next h =>
    rcases h with h | h
    · simp [h]
    · have hb : p.bytes = p.bytes.dropLast ++ [slash] := by
        obtain ⟨hne, hl⟩ := List.getLast?_eq_some_iff.1 h
        simp [hl]
      rw [splitOn_of_getLast? h, List.dropLast_concat]
      conv => lhs; rw [hb, List.append_assoc, List.singleton_append]
      exact List.splitOn_append_cons_self _ _
  next h => exact List.splitOn_append_cons_self _ _

/-- The bytes are one name: not empty, no slash, and neither `.` nor `..`. -/
def IsName (bytes : Bytes) : Prop :=
  bytes ≠ [] ∧ slash ∉ bytes ∧ bytes ≠ [dot] ∧ bytes ≠ [dot, dot]

theorem ofPiece?_of_isName {bytes : Bytes} (h : IsName bytes) :
    Component.ofPiece? bytes = some (.name bytes) := by
  simp [Component.ofPiece?, h.1, h.2.2.1, h.2.2.2]

/-- Joining a plain name adds exactly one component. -/
theorem components_join_name {p : Path} {bytes : Bytes} (h : IsName bytes) :
    (p.join ⟨bytes⟩).components = p.components ++ [.name bytes] := by
  have hq : (⟨bytes⟩ : Path).isAbsolute = false := by
    rcases bytes with _ | ⟨b, rest⟩
    · rfl
    · have hb : b ≠ slash := fun he => h.2.1 (by simp [he])
      simp [isAbsolute, hb]
  have hp : (⟨bytes⟩ : Path).pieces = [bytes] := List.splitOn_eq_singleton h.2.1
  rw [components, pieces_join hq, hp]
  by_cases he : p.bytes = []
  · simp [he, components, pieces, leading, h.1, h.2.2.1, ofPiece?_of_isName h]
  · by_cases hl : p.bytes.getLast? = some slash
    · rw [if_pos (Or.inr hl), components]
      simp only [pieces, splitOn_of_getLast? hl, List.dropLast_concat]
      rcases hs : p.bytes.dropLast.splitOn slash with _ | ⟨first, rest⟩
      · exact absurd hs (List.splitOn_ne_nil _ _)
      · -- the empty piece that ended the path had no component of its own
        have he : Component.ofPiece? [] = none := rfl
        simp [leading, List.filterMap_append, ofPiece?_of_isName h, he]
    · rw [if_neg (by simp [he, hl]), components]
      rcases hs : p.pieces with _ | ⟨first, rest⟩
      · exact absurd hs (pieces_ne_nil p)
      · have hf : ¬ (first = [] ∧ rest = []) := by
          rintro ⟨rfl, rfl⟩
          have := @List.intercalate_splitOn _ p.bytes _ _ slash
          rw [show p.bytes.splitOn slash = [[]] from hs] at this
          exact he (by simpa using this.symm)
        rcases rest with _ | ⟨r, rest⟩
        · have hf : first ≠ [] := fun h0 => hf ⟨h0, rfl⟩
          simp [leading, hf, ofPiece?_of_isName h]
        · show (leading first _).toList ++ (r :: rest ++ [bytes]).filterMap _ = _
          rw [List.filterMap_append]
          simp [leading, ofPiece?_of_isName h]

end Path

end MarketFeed
