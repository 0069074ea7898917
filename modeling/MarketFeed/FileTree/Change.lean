import MarketFeed.FileTree.Walk

/-!
# Changing files and directories

The operations that a run performs on the files it sees.

* `FileTree.createDirectory`   — one directory, in a directory that is there.
* `FileTree.createDirectories` — a directory with the missing directories above it.
* `FileTree.write`, `FileTree.append` — a file's content, replaced or grown.
* `FileTree.delete`            — a file, or a directory with all it holds.

An operation that fails half-way may leave the directories made so far, so
`createDirectories` returns the tree together with its result.

Two limits of the tree: nobody is forbidden to look at anything or to change it, and there is always
room, so that a file that could be opened is written whole.  What fails for want of a permission or
of room on the disk is told nowhere here.
-/

namespace MarketFeed.FileTree

/-- Makes a directory whose parent is there. -/
def createDirectory (t : FileTree) (p : Path) : Except IoError FileTree :=
  match t.place p with
  | .error e => .error e
  | .ok place =>
    if place.isDots then .error (.fault .alreadyExists)
    else if longestName < place.last.length then .error (.fault .nameTooLong)
    else
      match h : t.node? (place.directory ++ [place.last]) with
      | some _ => .error (.fault .alreadyExists)
      | none => .ok (t.put place.directory place.last .directory place.isDirectory (by simp [h]))

/-- Makes the first directory of the list, where the rest are the ones above it, nearest first:
those are made only if the first one cannot be made without them. -/
def createFrom (t : FileTree) : List Path → Except IoError Unit × FileTree
  | [] => (.ok (), t)
  | p :: above =>
    if p.bytes = [] then (.ok (), t)
    else
      match t.createDirectory p with
      | .ok made => (.ok (), made)
      | .error (.fault .notFound) =>
        -- something above is missing: that comes first, then the directory itself
        match t.createFrom above with
        | (.error e, t) => (.error e, t)
        | (.ok (), t) =>
          match t.createDirectory p with
          | .ok made => (.ok (), made)
          | .error e => if t.isDirectory p then (.ok (), t) else (.error e, t)
      -- a directory that is there already will do
      | .error e => if t.isDirectory p then (.ok (), t) else (.error e, t)

/-- Makes a directory with all the missing directories above it. -/
def createDirectories (t : FileTree) (p : Path) : Except IoError Unit × FileTree :=
  t.createFrom (p :: p.ancestors)

/-- Changes the content of a file; a file that is not there yet starts empty. -/
def update (t : FileTree) (p : Path) (change : Bytes → Bytes) : Except IoError FileTree :=
  match t.place p with
  | .error e => .error e
  | .ok place =>
    -- a slash at the end asks for a directory, as dots do
    if place.slashed || place.isDots then .error (.fault .isADirectory)
    else if longestName < place.last.length then .error (.fault .nameTooLong)
    else
      match h : t.node? (place.directory ++ [place.last]) with
      | some .directory => .error (.fault .isADirectory)
      | some (.file content) =>
        .ok (t.put place.directory place.last (.file (change content)) place.isDirectory
          (by simp [h]))
      | none =>
        .ok (t.put place.directory place.last (.file (change [])) place.isDirectory (by simp [h]))

/-- Makes the bytes the whole content of a file. -/
def write (t : FileTree) (p : Path) (content : Bytes) : Except IoError FileTree :=
  t.update p fun _ => content

/-- Adds bytes to the end of a file. -/
def append (t : FileTree) (p : Path) (more : Bytes) : Except IoError FileTree :=
  t.update p (· ++ more)

/-- Takes away a file, or a directory with all it holds. -/
def delete (t : FileTree) (p : Path) : Except IoError FileTree :=
  match t.resolve p with
  | .error e => .error e
  | .ok a =>
    -- the root stays
    if h : a = [] then .error (.fault .notPermitted)
    else if (t.node? a).isSome then .ok (t.remove a h)
    else .error (.fault .notFound)

end MarketFeed.FileTree
