import MarketFeed.FileTree.Change
import MarketFeed.Proofs.Path.Ancestors

/-!
# File trees that grow

Nothing that a run does to the files takes anything away: directories are added, and a file is
added or gets another content. Paths that led somewhere before still lead there afterwards.

* `Extends`        — every directory and every file of the one tree stands in the other.
* `AddsDirectories` — missing directories were added, each of which some path names.
* `ChangesFile`    — the one file that a path names was added or changed.
* `createDirectory_adds`, `createDirectories_adds`, `update_changes` — what the operations on
  trees do, told by these.
* `isDirectory_of_createDirectories` — directories that could be made are there.
-/

namespace MarketFeed.FileTree

variable {t u v : FileTree}

/-! ## Extension -/

/-- Whatever stands in `t` stands in `u` as well, a directory as a directory and a file as a
file, and relative paths start at the same address. -/
structure Extends (t u : FileTree) : Prop where
  working : u.working = t.working
  directory : ∀ {a}, t.node? a = some .directory → u.node? a = some .directory
  file : ∀ {a content}, t.node? a = some (.file content) → ∃ more, u.node? a = some (.file more)

theorem Extends.refl (t : FileTree) : Extends t t :=
  ⟨rfl, fun h => h, fun h => ⟨_, h⟩⟩

theorem Extends.trans (hFirst : Extends t u) (hLast : Extends u v) : Extends t v := by
  refine ⟨hLast.working.trans hFirst.working, fun h => hLast.directory (hFirst.directory h), ?_⟩
  intro a content h
  obtain ⟨more, hMore⟩ := hFirst.file h
  exact hLast.file hMore

theorem Extends.isSome (h : Extends t u) {a : Address} (hThere : (t.node? a).isSome) :
    (u.node? a).isSome := by
  obtain ⟨node, hNode⟩ := Option.isSome_iff_exists.mp hThere
  cases node with
  | directory => simp [h.directory hNode]
  | file content =>
    obtain ⟨more, hMore⟩ := h.file hNode
    simp [hMore]

theorem Extends.start (h : Extends t u) (p : Path) : u.start p = t.start p := by
  unfold FileTree.start
  rw [h.working]

/-! ## Steps of a walk -/

theorem ofPiece?_cases (piece : Bytes) :
    Path.Component.ofPiece? piece = none ∨ Path.Component.ofPiece? piece = some .up ∨
      Path.Component.ofPiece? piece = some (.name piece) := by
  unfold Path.Component.ofPiece?
  split
  · exact Or.inl rfl
  · split
    · exact Or.inr (Or.inl rfl)
    · exact Or.inr (Or.inr rfl)

theorem step_trivial_eq_ok_iff {a b : Address} {piece : Bytes}
    (hTrivial : Path.Component.ofPiece? piece = none) :
    t.step a piece = .ok b ↔ t.node? a = some .directory ∧ b = a := by
  rw [← checkDirectory_eq_ok_iff, FileTree.step]
  rcases t.checkDirectory a with e | ⟨⟩
  · simp
  · simp [hTrivial, eq_comm]

theorem step_up_eq_ok_iff {a b : Address} {piece : Bytes}
    (hUp : Path.Component.ofPiece? piece = some .up) :
    t.step a piece = .ok b ↔ t.node? a = some .directory ∧ b = a.dropLast := by
  rw [← checkDirectory_eq_ok_iff, FileTree.step]
  rcases t.checkDirectory a with e | ⟨⟩
  · simp
  · simp [hUp, eq_comm]

theorem step_name_eq_ok_iff {a b : Address} {piece : Bytes}
    (hName : Path.Component.ofPiece? piece = some (.name piece)) :
    t.step a piece = .ok b ↔
      t.node? a = some .directory ∧ piece.length ≤ longestName ∧
        (t.node? (a ++ [piece])).isSome ∧ b = a ++ [piece] := by
  rw [← checkDirectory_eq_ok_iff, FileTree.step]
  rcases t.checkDirectory a with e | ⟨⟩
  · simp
  · by_cases hLength : longestName < piece.length
    · simp [hName, hLength, Nat.not_le.mpr hLength]
    · by_cases hThere : (t.node? (a ++ [piece])).isSome = true
      · simp [hName, hLength, hThere, eq_comm, Nat.not_lt.mp hLength]
      · simp [hName, hLength, hThere]

/-- One piece of a path leads to the same address after the tree has grown. -/
theorem Extends.step (h : Extends t u) {a b : Address} {piece : Bytes}
    (hStep : t.step a piece = .ok b) : u.step a piece = .ok b := by
  rcases ofPiece?_cases piece with hOf | hOf | hOf
  · rw [step_trivial_eq_ok_iff hOf] at hStep ⊢
    exact ⟨h.directory hStep.1, hStep.2⟩
  · rw [step_up_eq_ok_iff hOf] at hStep ⊢
    exact ⟨h.directory hStep.1, hStep.2⟩
  · rw [step_name_eq_ok_iff hOf] at hStep ⊢
    exact ⟨h.directory hStep.1, hStep.2.1, h.isSome hStep.2.2.1, hStep.2.2.2⟩

/-- A walk leads to the same address after the tree has grown. -/
theorem Extends.walk (h : Extends t u) {a b : Address} {pieces : List Bytes}
    (hWalk : t.walk a pieces = .ok b) : u.walk a pieces = .ok b := by
  -- every step of the walk stays what it was
  induction pieces generalizing a with
  | nil => exact hWalk
  | cons piece rest ih =>
    rw [FileTree.walk] at hWalk ⊢
    rcases hStep : t.step a piece with e | c
    · rw [hStep] at hWalk
      cases hWalk
    · rw [hStep] at hWalk
      rw [h.step hStep]
      exact ih hWalk

/-- A path that leads somewhere leads there after the tree has grown. -/
theorem Extends.resolve (h : Extends t u) {p : Path} {a : Address}
    (hResolve : t.resolve p = .ok a) : u.resolve p = .ok a := by
  unfold FileTree.resolve at hResolve ⊢
  rcases hCheck : checkPath p with e | ⟨⟩
  · rw [hCheck] at hResolve
    exact nomatch hResolve
  · rw [hCheck] at hResolve
    rw [h.start]
    exact h.walk hResolve

/-- Empty pieces stay where they are, in a directory. -/
theorem walk_replicate_nil {a : Address} {k : Nat}
    (hDirectory : k = 0 ∨ t.node? a = some .directory) :
    t.walk a (List.replicate k []) = .ok a := by
  induction k with
  | zero => rfl
  | succ k ih =>
    have hHere : t.node? a = some .directory := hDirectory.resolve_left (Nat.succ_ne_zero k)
    rw [List.replicate_succ, FileTree.walk, (step_trivial_eq_ok_iff rfl).mpr ⟨hHere, rfl⟩]
    exact ih (Or.inr hHere)

/-! ## Places -/

/-- What the place of a path tells: the pieces in front of the last one lead to its directory,
and only slashes follow the last one. -/
theorem place_eq_ok {p : Path} {place : Place t} (hPlace : t.place p = .ok place)
    (hDots : place.isDots = false) :
    checkPath p = .ok () ∧ place.last ≠ [] ∧ ∃ before slashes,
      p.pieces = before ++ place.last :: List.replicate slashes [] ∧
      t.walk (t.start p) before = .ok place.directory ∧
      place.slashed = decide (p.bytes.getLast? = some Path.slash) := by
  unfold FileTree.place at hPlace
  rcases hCheck : checkPath p with e | ⟨⟩
  · rw [hCheck] at hPlace
    exact nomatch hPlace
  · rw [hCheck] at hPlace
    dsimp only at hPlace
    rcases hPieces : p.pieces.reverse.dropWhile (· = []) with _ | ⟨last, before⟩
    · rw [hPieces] at hPlace
      obtain rfl := Except.ok.inj hPlace
      exact absurd hDots (by simp [Place.isDots])
    · rw [hPieces] at hPlace
      dsimp only at hPlace
      split at hPlace
      · exact nomatch hPlace
      · next a hWalk =>
        split at hPlace
        · exact nomatch hPlace
        · obtain rfl := Except.ok.inj hPlace
          -- the piece that is not passed over is not empty, and all behind it are
          have hLast : last ≠ [] := by
            have hHead := List.head?_dropWhile_not (· = []) p.pieces.reverse
            rw [hPieces] at hHead
            simpa using hHead
          have hEmpty : ∀ piece ∈ p.pieces.reverse.takeWhile (· = []), piece = [] := by
            intro piece hPiece
            have hAll := List.all_takeWhile (p := (· = ([] : Bytes))) (l := p.pieces.reverse)
            simpa using List.all_eq_true.mp hAll piece hPiece
          refine ⟨rfl, hLast, before.reverse, (p.pieces.reverse.takeWhile (· = [])).length, ?_,
            hWalk, rfl⟩
          -- both halves together are the pieces again, read backwards
          have hSplit := List.takeWhile_append_dropWhile (p := (· = []))
            (l := p.pieces.reverse)
          rw [hPieces, List.eq_replicate_of_mem hEmpty] at hSplit
          have hReversed := congrArg List.reverse hSplit
          simpa using hReversed.symm

/-- A path leads to its place once something stands there, if no slash asks for a directory
where none is. -/
theorem resolve_of_place {p : Path} {place : Place t} {node : Node}
    (hPlace : t.place p = .ok place) (hDots : place.isDots = false)
    (hLength : place.last.length ≤ longestName) (hExtends : Extends t u)
    (hNode : u.node? place.address = some node)
    (hSlashed : place.slashed = false ∨ node = .directory) :
    u.resolve p = .ok place.address := by
  obtain ⟨hCheck, hLast, before, slashes, hPieces, hWalk, hSlash⟩ := place_eq_ok hPlace hDots
  have hName : Path.Component.ofPiece? place.last = some (.name place.last) := by
    simp only [Place.isDots, Bool.or_eq_false_iff, decide_eq_false_iff_not] at hDots
    simp [Path.Component.ofPiece?, hLast, hDots.1, hDots.2]
  -- slashes behind the last piece need a directory to stand behind
  have hSlashes : slashes = 0 ∨ node = .directory := by
    rcases hSlashed with hNone | hDirectory
    · rcases slashes with _ | k
      · exact Or.inl rfl
      have hEnd : p.pieces.getLast? = some [] := by
        rw [hPieces, List.replicate_succ', ← List.cons_append, ← List.append_assoc,
          List.getLast?_concat]
      rcases Path.getLast?_of_pieces hEnd with hEmpty | hEnds
      · rw [Path.pieces, hEmpty, List.splitOn_nil] at hPieces
        have hMem : place.last ∈ [([] : Bytes)] := by
          rw [hPieces]
          simp
        exact absurd (List.mem_singleton.mp hMem) hLast
      · rw [hSlash, hEnds] at hNone
        simp at hNone
    · exact Or.inr hDirectory
  have hStep : u.step place.directory place.last = .ok place.address := by
    refine (step_name_eq_ok_iff hName).mpr ⟨?_, hLength, ?_, rfl⟩
    · exact hExtends.directory place.isDirectory
    · rw [show place.directory ++ [place.last] = place.address from rfl, hNode]
      rfl
  -- the walk to the directory is what it was, one step leads on, and the slashes add nothing
  rw [FileTree.resolve, hCheck, hExtends.start, hPieces]
  dsimp only
  rw [walk_append, hExtends.walk hWalk]
  dsimp only
  rw [FileTree.walk, hStep]
  refine walk_replicate_nil (hSlashes.imp_right fun hDirectory => ?_)
  rw [hNode, hDirectory]

/-! ## Directories that are added -/

/-- The tree `u` is `t` with directories added, each of which one of the paths names. -/
structure AddsDirectories (paths : List Path) (t u : FileTree) : Prop where
  working : u.working = t.working
  kept : ∀ {a node}, t.node? a = some node → u.node? a = some node
  added : ∀ {a node}, t.node? a = none → u.node? a = some node →
    node = .directory ∧ ∃ p ∈ paths, u.resolve p = .ok a

variable {paths more : List Path}

theorem AddsDirectories.extends (h : AddsDirectories paths t u) : Extends t u :=
  ⟨h.working, h.kept, fun hFile => ⟨_, h.kept hFile⟩⟩

theorem AddsDirectories.refl (paths : List Path) (t : FileTree) : AddsDirectories paths t t :=
  ⟨rfl, fun h => h, fun hNone hSome => by rw [hNone] at hSome; exact nomatch hSome⟩

theorem AddsDirectories.trans (hFirst : AddsDirectories paths t u)
    (hLast : AddsDirectories paths u v) : AddsDirectories paths t v := by
  refine ⟨hLast.working.trans hFirst.working, fun h => hLast.kept (hFirst.kept h), ?_⟩
  intro a node hNone hSome
  -- what is new in the end is new after the first or the second addition
  rcases hMiddle : u.node? a with _ | other
  · exact hLast.added hMiddle hSome
  · obtain ⟨hDirectory, p, hMem, hResolve⟩ := hFirst.added hNone hMiddle
    have hSame := hLast.kept hMiddle
    rw [hSome] at hSame
    exact ⟨(Option.some.inj hSame).trans hDirectory, p, hMem, hLast.extends.resolve hResolve⟩

theorem AddsDirectories.mono (h : AddsDirectories paths t u) (hSubset : paths ⊆ more) :
    AddsDirectories more t u := by
  refine ⟨h.working, h.kept, fun hNone hSome => ?_⟩
  obtain ⟨hDirectory, p, hMem, hResolve⟩ := h.added hNone hSome
  exact ⟨hDirectory, p, hSubset hMem, hResolve⟩

/-- What a directory that could be made is: put into the directory of its place, where nothing
of that name stood. -/
theorem createDirectory_eq_ok {p : Path} (hMade : t.createDirectory p = .ok u) :
    ∃ place : Place t,
      t.place p = .ok place ∧ place.isDots = false ∧ place.last.length ≤ longestName ∧
        t.node? place.address = none ∧
        u = t.put place.directory place.last .directory place.isDirectory fun _ => rfl := by
  unfold createDirectory at hMade
  split at hMade
  · exact nomatch hMade
  · next place hPlace =>
    split at hMade
    · exact nomatch hMade
    · next hDots =>
      split at hMade
      · exact nomatch hMade
      · next hLength =>
        split at hMade
        · exact nomatch hMade
        · next hFree =>
          refine ⟨place, hPlace, by simpa using hDots, Nat.not_lt.mp hLength, hFree, ?_⟩
          exact (Except.ok.inj hMade).symm

/-- One directory that could be made is the only thing added, and its path leads to it. -/
theorem createDirectory_adds {p : Path} (hMade : t.createDirectory p = .ok u) :
    AddsDirectories [p] t u ∧ u.isDirectory p = true := by
  obtain ⟨place, hPlace, hDots, hLength, hFree, hPut⟩ := createDirectory_eq_ok hMade
  have hWorking : u.working = t.working := by rw [hPut]; rfl
  have hNodes : ∀ b, u.node? b =
      if b = place.address then some .directory else t.node? b := by
    intro b
    rw [hPut, node?_put]
    rfl
  -- the one place that changes was free
  have hKept : ∀ {b node}, t.node? b = some node → u.node? b = some node := by
    intro b node hThere
    rw [hNodes, if_neg]
    · exact hThere
    · rintro rfl
      rw [hFree] at hThere
      exact nomatch hThere
  have hNode : u.node? place.address = some .directory := by
    rw [hNodes, if_pos rfl]
  have hResolve := resolve_of_place hPlace hDots hLength
    ⟨hWorking, hKept, fun hFile => ⟨_, hKept hFile⟩⟩ hNode (Or.inr rfl)
  refine ⟨⟨hWorking, hKept, ?_⟩, ?_⟩
  · intro a node hNone hSome
    rw [hNodes] at hSome
    split at hSome
    · next hHere =>
      obtain rfl := Option.some.inj hSome
      refine ⟨rfl, p, List.mem_singleton_self p, ?_⟩
      rw [hHere]
      exact hResolve
    · rw [hNone] at hSome
      exact nomatch hSome
  · rw [isDirectory, find?, hResolve]
    dsimp only
    rw [hNode]

/-- Making a directory with those above it adds directories that the list names, whether or not
it gets to the end. -/
theorem createFrom_adds (t : FileTree) (paths : List Path) :
    AddsDirectories paths t (t.createFrom paths).2 := by
  -- by induction on the paths, for whatever was made above
  induction paths generalizing t with
  | nil => exact .refl _ t
  | cons p above ih =>
    have hOne : ∀ {t u : FileTree}, t.createDirectory p = .ok u →
        AddsDirectories (p :: above) t u := fun hMade =>
      (createDirectory_adds hMade).1.mono (by simp)
    have hAbove : AddsDirectories (p :: above) t (t.createFrom above).2 :=
      (ih t).mono (List.subset_cons_self p above)
    unfold createFrom
    split
    · exact .refl _ t
    · split
      · next hMade => exact hOne hMade
      · -- what is above was missing, and the directory is tried once more
        rcases hFrom : t.createFrom above with ⟨e | ⟨⟩, m⟩
        · rw [hFrom] at hAbove
          exact hAbove
        · rw [hFrom] at hAbove
          dsimp only
          split
          · next hMade => exact hAbove.trans (hOne hMade)
          · split
            · exact hAbove
            · exact hAbove
      · split
        · exact .refl _ t
        · exact .refl _ t

theorem createDirectories_adds (t : FileTree) (p : Path) :
    AddsDirectories (p :: p.ancestors) t (t.createDirectories p).2 :=
  createFrom_adds t (p :: p.ancestors)

/-- Directories that could be made are there. -/
theorem isDirectory_of_createDirectories {p : Path} (hBytes : p.bytes ≠ [])
    (hMade : t.createDirectories p = (.ok (), u)) : u.isDirectory p = true := by
  unfold createDirectories createFrom at hMade
  rw [if_neg hBytes] at hMade
  split at hMade
  · next hOne =>
    obtain ⟨-, rfl⟩ := Prod.mk.inj hMade
    exact (createDirectory_adds hOne).2
  · rcases hFrom : t.createFrom p.ancestors with ⟨e | ⟨⟩, m⟩
    · rw [hFrom] at hMade
      exact absurd (Prod.mk.inj hMade).1 (by simp)
    · rw [hFrom] at hMade
      dsimp only at hMade
      split at hMade
      · next hOne =>
        obtain ⟨-, rfl⟩ := Prod.mk.inj hMade
        exact (createDirectory_adds hOne).2
      · split at hMade
        · next hThere =>
          obtain ⟨-, rfl⟩ := Prod.mk.inj hMade
          exact hThere
        · exact absurd (Prod.mk.inj hMade).1 (by simp)
  · split at hMade
    · -- it could not be made, and counts as made if it is there
      next hThere =>
      obtain ⟨-, rfl⟩ := Prod.mk.inj hMade
      exact hThere
    · exact absurd (Prod.mk.inj hMade).1 (by simp)

/-! ## A file that changes -/

/-- The tree `u` is `t` but for the one file that the path names, whose content was changed; a
file that was not there started empty. -/
def ChangesFile (p : Path) (change : Bytes → Bytes) (t u : FileTree) : Prop :=
  u.working = t.working ∧ ∃ a old, u.resolve p = .ok a ∧
    (t.node? a).getD (.file []) = .file old ∧
    ∀ b, u.node? b = if b = a then some (.file (change old)) else t.node? b

private theorem extends_of_nodes {a : Address} {old new : Bytes}
    (hWorking : u.working = t.working) (hOld : (t.node? a).getD (.file []) = .file old)
    (hNodes : ∀ b, u.node? b = if b = a then some (.file new) else t.node? b) :
    Extends t u := by
  refine ⟨hWorking, ?_, ?_⟩
  · intro b hDirectory
    rw [hNodes, if_neg]
    · exact hDirectory
    · -- a file stood there, or nothing
      rintro rfl
      rw [hDirectory] at hOld
      exact nomatch hOld
  · intro b content hFile
    rw [hNodes]
    split
    · exact ⟨_, rfl⟩
    · exact ⟨_, hFile⟩

theorem ChangesFile.extends {p : Path} {change : Bytes → Bytes} (h : ChangesFile p change t u) :
    Extends t u := by
  obtain ⟨hWorking, a, old, -, hOld, hNodes⟩ := h
  exact extends_of_nodes hWorking hOld hNodes

/-- What a file that could be changed is: put into the directory of its place, where no directory
of that name stood. -/
theorem update_eq_ok {p : Path} {change : Bytes → Bytes} (hMade : t.update p change = .ok u) :
    ∃ (place : Place t) (old : Bytes),
      t.place p = .ok place ∧ place.slashed = false ∧ place.isDots = false ∧
        place.last.length ≤ longestName ∧
        (t.node? place.address).getD (.file []) = .file old ∧ u.working = t.working ∧
        u.entries = entriesWith t.entries place.address (.file (change old)) := by
  unfold update at hMade
  split at hMade
  · exact nomatch hMade
  · next place hPlace =>
    split at hMade
    · exact nomatch hMade
    · next hPlain =>
      rw [Bool.or_eq_true, not_or, Bool.not_eq_true, Bool.not_eq_true] at hPlain
      split at hMade
      · exact nomatch hMade
      · next hLength =>
        split at hMade
        · exact nomatch hMade
        · -- a file keeps its content to be changed, and a missing one starts empty
          next content hOld =>
          obtain rfl := Except.ok.inj hMade
          exact ⟨place, content, hPlace, hPlain.1, hPlain.2, Nat.not_lt.mp hLength,
            by simp [Place.address, hOld], rfl, rfl⟩
        · next hFree =>
          obtain rfl := Except.ok.inj hMade
          exact ⟨place, [], hPlace, hPlain.1, hPlain.2, Nat.not_lt.mp hLength,
            by simp [Place.address, hFree], rfl, rfl⟩

/-- A file that could be changed stands at one address, its path leads to it, and all other entries
are what they were. -/
theorem update_entries {p : Path} {change : Bytes → Bytes} (hMade : t.update p change = .ok u) :
    ∃ a old, u.resolve p = .ok a ∧ (t.node? a).getD (.file []) = .file old ∧
      u.working = t.working ∧ u.entries = entriesWith t.entries a (.file (change old)) ∧
      ∀ b, u.node? b = if b = a then some (.file (change old)) else t.node? b := by
  obtain ⟨place, old, hPlace, hSlashed, hDots, hLength, hOld, hWorking, hEntries⟩ :=
    update_eq_ok hMade
  have hNodes : ∀ b, u.node? b =
      if b = place.address then some (.file (change old)) else t.node? b := by
    intro b
    rw [node?, hEntries, nodeAt_entriesWith (by simp [Place.address])]
    rfl
  have hNode : u.node? place.address = some (.file (change old)) := by
    rw [hNodes, if_pos rfl]
  have hResolve := resolve_of_place hPlace hDots hLength (extends_of_nodes hWorking hOld hNodes)
    hNode (Or.inl hSlashed)
  exact ⟨place.address, old, hResolve, hOld, hWorking, hEntries, hNodes⟩

/-- A file that could be changed is the only thing that changed, and its path leads to it. -/
theorem update_changes {p : Path} {change : Bytes → Bytes} (hMade : t.update p change = .ok u) :
    ChangesFile p change t u := by
  obtain ⟨a, old, hResolve, hOld, hWorking, -, hNodes⟩ := update_entries hMade
  exact ⟨hWorking, a, old, hResolve, hOld, hNodes⟩

end MarketFeed.FileTree
