import MarketFeed.FileTree.Basic
import MarketFeed.IoError
import MarketFeed.Path

/-!
# Walking a path

A path is followed piece by piece from the root or from the working directory.  Every piece, an
empty one too, asks that the node reached so far be a directory.

* `FileTree.resolve`     — the address that a path leads to.
* `FileTree.place`       — the directory that a path's last piece names an entry of.
* `FileTree.exists`, `FileTree.isDirectory` — what stands there.
* `FileTree.readText`    — the text of a file.

Main statement: `isDirectory_of_walk` — whatever a walk passes through is a directory.
-/

namespace MarketFeed.FileTree

/-- The most bytes that a name may have. -/
def longestName : Nat := 255

/-- The most bytes that a path may have. -/
def longestPath : Nat := 4095

/-- Refuses the paths that no walk can start with. -/
def checkPath (p : Path) : Except IoError Unit :=
  if 0 ∈ p.bytes then .error .nulInPath
  else if longestPath < p.bytes.length then .error (.fault .nameTooLong)
  else if p.bytes = [] then .error (.fault .notFound)
  else .ok ()

/-- Refuses an address where no directory stands. -/
def checkDirectory (t : FileTree) (a : Address) : Except IoError Unit :=
  match t.node? a with
  | none => .error (.fault .notFound)
  | some (.file _) => .error (.fault .notADirectory)
  | some .directory => .ok ()

@[simp] theorem checkDirectory_eq_ok_iff {t : FileTree} {a : Address} :
    t.checkDirectory a = .ok () ↔ t.node? a = some .directory := by
  unfold checkDirectory
  split <;> simp_all

/-- Where one piece of a path leads from an address. -/
def step (t : FileTree) (a : Address) (piece : Bytes) : Except IoError Address :=
  match t.checkDirectory a with
  | .error e => .error e
  | .ok () =>
    match Path.Component.ofPiece? piece with
    | none => .ok a
    -- the root is the directory above itself
    | some .up => .ok a.dropLast
    | _ =>
      if longestName < piece.length then .error (.fault .nameTooLong)
      else if (t.node? (a ++ [piece])).isSome then .ok (a ++ [piece])
      else .error (.fault .notFound)

/-- Where the pieces of a path lead from an address. -/
def walk (t : FileTree) : Address → List Bytes → Except IoError Address
  | a, [] => .ok a
  | a, piece :: rest =>
    match t.step a piece with
    | .error e => .error e
    | .ok b => t.walk b rest

/-- Where a path starts. -/
def start (t : FileTree) (p : Path) : Address := if p.isAbsolute then [] else t.working

/-- The address that a path leads to. -/
def resolve (t : FileTree) (p : Path) : Except IoError Address :=
  match checkPath p with
  | .error e => .error e
  | .ok () => t.walk (t.start p) p.pieces

/-- The node that a path leads to. -/
def find? (t : FileTree) (p : Path) : Except IoError Node :=
  match t.resolve p with
  | .error e => .error e
  | .ok a =>
    match t.node? a with
    | some node => .ok node
    | none => .error (.fault .notFound)

/-- A file or directory stands where the path leads. -/
def «exists» (t : FileTree) (p : Path) : Bool :=
  match t.find? p with
  | .ok _ => true
  | .error _ => false

/-- A directory stands where the path leads. -/
def isDirectory (t : FileTree) (p : Path) : Bool :=
  match t.find? p with
  | .ok .directory => true
  | _ => false

/-- The bytes of the file that the path leads to. -/
def read (t : FileTree) (p : Path) : Except IoError Bytes :=
  match t.find? p with
  | .ok (.file content) => .ok content
  | .ok .directory => .error (.fault .isADirectory)
  | .error e => .error e

/-- The text of the file that the path leads to. -/
def readText (t : FileTree) (p : Path) : Except IoError String :=
  match t.read p with
  | .error e => .error e
  | .ok content =>
    match Utf8.decode? content with
    | some text => .ok text
    | none => .error .notText

/-! ## The last piece -/

/-- A directory of the tree and the last piece of a path, which names an entry of it or the
directory itself; `slashed` if slashes follow the piece. -/
structure Place (t : FileTree) where
  directory : Address
  last : Bytes
  slashed : Bool
  isDirectory : t.node? directory = some .directory

/-- The address of the entry that the last piece names. -/
def Place.address {t : FileTree} (place : Place t) : Address :=
  place.directory ++ [place.last]

/-- The last piece names no entry of the directory, but the directory itself or the one above. -/
def Place.isDots {t : FileTree} (place : Place t) : Bool :=
  place.last = [Path.dot] || place.last = [Path.dot, Path.dot]

/-- The directory that the last piece of the path names an entry of.  The root is its own last
piece. -/
def place (t : FileTree) (p : Path) : Except IoError (Place t) :=
  match checkPath p with
  | .error e => .error e
  | .ok () =>
    match p.pieces.reverse.dropWhile (· = []) with
    -- slashes alone name the root
    | [] => .ok ⟨[], [Path.dot], true, rfl⟩
    | last :: before =>
      match t.walk (t.start p) before.reverse with
      | .error e => .error e
      | .ok a =>
        match h : t.checkDirectory a with
        | .error e => .error e
        | .ok () =>
          .ok ⟨a, last, p.bytes.getLast? = some Path.slash, checkDirectory_eq_ok_iff.1 h⟩

/-! ## Laws -/

/-- A walk goes on from where its first part ends. -/
theorem walk_append {t : FileTree} {a : Address} {before after : List Bytes} :
    t.walk a (before ++ after) =
      match t.walk a before with
      | .error e => .error e
      | .ok b => t.walk b after := by
  induction before generalizing a with
  | nil => rfl
  | cons piece rest ih =>
    rw [List.cons_append, walk, walk]
    cases t.step a piece with
    | error e => rfl
    | ok b => exact ih

/-- Whatever a walk passes through is a directory. -/
theorem isDirectory_of_walk {t : FileTree} {a b : Address} {piece : Bytes} {rest : List Bytes}
    (h : t.walk a (piece :: rest) = .ok b) : t.node? a = some .directory := by
  rw [walk, step] at h
  rcases hc : t.checkDirectory a with e | u
  · simp [hc] at h
  · exact checkDirectory_eq_ok_iff.1 hc

end MarketFeed.FileTree
