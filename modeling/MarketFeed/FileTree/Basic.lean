import MarketFeed.Text.Utf8

/-!
# File trees

The files and directories that a run can see, each at its address: the names that lead to it
from the root.

* `FileTree.node?`  — what stands at an address; the view that all other operations are told by.
* `FileTree.put`    — a tree with one more node, or with another file in place of a file.
* `FileTree.remove` — a tree without a node and all below it.
* `FileTree.list`   — every entry, each directory before what it holds, names in byte order.

Main statements: `node?_put` and `node?_remove` — each operation changes the view at its own
address, and below it, alone.
-/

namespace MarketFeed

/-- The names that lead from the root to a node. -/
abbrev Address := List Bytes

/-- What stands at an address. -/
inductive Node where
  | directory
  | file (content : Bytes)
  deriving DecidableEq, Repr

/-- The node that a list of entries has at an address; the root is always a directory. -/
def nodeAt (entries : List (Address × Node)) (a : Address) : Option Node :=
  if a = [] then some .directory else entries.lookup a

/-- Files and directories by address, and the directory that relative paths start from.  Whatever
stands at an address stands in a directory. -/
structure FileTree where
  working : Address
  entries : List (Address × Node)
  closed : ∀ a name, (nodeAt entries (a ++ [name])).isSome → nodeAt entries a = some .directory

namespace FileTree

/-- What stands at an address. -/
def node? (t : FileTree) (a : Address) : Option Node := nodeAt t.entries a

/-- The tree that holds the root alone. -/
def empty : FileTree where
  working := []
  entries := []
  closed a name h := by simp [nodeAt] at h

/-- The same files, seen from another directory. -/
def enter (t : FileTree) (a : Address) : FileTree := { t with working := a }

/-! ## Looking entries up -/

private theorem lookup_filter (p : Address → Bool) (entries : List (Address × Node))
    (a : Address) :
    (entries.filter fun e => p e.1).lookup a = if p a then entries.lookup a else none := by
  induction entries with
  | nil => simp
  | cons e entries ih =>
    rcases e with ⟨b, node⟩
    by_cases hab : a = b
    · subst hab
      by_cases hp : p a <;> simp [hp, ih]
    · have hb : (a == b) = false := by simpa using hab
      by_cases hp : p b <;> simp [hp, ih, List.lookup_cons, hb]

/-- The entries with one node set. -/
def entriesWith (entries : List (Address × Node)) (a : Address) (node : Node) :
    List (Address × Node) :=
  (a, node) :: entries.filter fun e => e.1 != a

/-- The entries without an address and all below it. -/
def entriesWithout (entries : List (Address × Node)) (a : Address) : List (Address × Node) :=
  entries.filter fun e => !a.isPrefixOf e.1

theorem nodeAt_entriesWith {entries : List (Address × Node)} {a : Address} (ha : a ≠ [])
    (node : Node) (b : Address) :
    nodeAt (entriesWith entries a node) b = if b = a then some node else nodeAt entries b := by
  by_cases hb : b = []
  · subst hb
    simp [nodeAt, ha.symm]
  · by_cases hba : b = a
    · subst hba
      simp [nodeAt, entriesWith, hb]
    · have : (b == a) = false := by simpa using hba
      simp [nodeAt, entriesWith, hb, hba, List.lookup_cons, this, lookup_filter (· != a)]

theorem nodeAt_entriesWithout {entries : List (Address × Node)} {a : Address} (ha : a ≠ [])
    (b : Address) :
    nodeAt (entriesWithout entries a) b = if a <+: b then none else nodeAt entries b := by
  by_cases hb : b = []
  · subst hb
    simp [nodeAt, ha]
  · simp only [nodeAt, hb, ↓reduceIte, entriesWithout, lookup_filter (fun e => !a.isPrefixOf e)]
    by_cases hab : a <+: b
    · rw [if_pos hab, if_neg (by simp [List.isPrefixOf_iff_prefix.2 hab])]
    · have hf : a.isPrefixOf b = false :=
        Bool.eq_false_iff.2 fun h => hab (List.isPrefixOf_iff_prefix.1 h)
      rw [if_neg hab, hf]
      rfl

/-! ## Changing the tree -/

/-- The tree with a node in a directory.  A directory gives way to nothing else. -/
def put (t : FileTree) (a : Address) (name : Bytes) (node : Node)
    (ha : t.node? a = some .directory)
    (hn : t.node? (a ++ [name]) = some .directory → node = .directory) : FileTree where
  working := t.working
  entries := entriesWith t.entries (a ++ [name]) node
  closed := by
    intro b other h
    have hne : a ++ [name] ≠ [] := by simp
    rw [nodeAt_entriesWith hne] at h ⊢
    by_cases hb : b ++ [other] = a ++ [name]
    · obtain ⟨rfl, -⟩ := List.append_inj' hb rfl
      rw [if_neg (by simp)]
      exact ha
    · rw [if_neg hb] at h
      have hd := t.closed b other h
      split
      next he => rw [hn (he ▸ hd)]
      next => exact hd

/-- The tree without a node and all below it. -/
def remove (t : FileTree) (a : Address) (ha : a ≠ []) : FileTree where
  working := t.working
  entries := entriesWithout t.entries a
  closed := by
    intro b other h
    rw [nodeAt_entriesWithout ha] at h ⊢
    split at h
    next => simp at h
    next hn =>
      rw [if_neg fun hp => hn (hp.trans (List.prefix_append b [other]))]
      exact t.closed b other h

/-- A node that is put stands at its address, and nothing else changes. -/
@[simp] theorem node?_put (t : FileTree) (a : Address) (name : Bytes) (node : Node)
    (ha : t.node? a = some .directory)
    (hn : t.node? (a ++ [name]) = some .directory → node = .directory) (b : Address) :
    (t.put a name node ha hn).node? b = if b = a ++ [name] then some node else t.node? b :=
  nodeAt_entriesWith (by simp) node b

/-- Removing takes away what stands at the address or below it, and nothing else. -/
@[simp] theorem node?_remove (t : FileTree) (a : Address) (ha : a ≠ []) (b : Address) :
    (t.remove a ha).node? b = if a <+: b then none else t.node? b :=
  nodeAt_entriesWithout ha b

@[simp] theorem node?_root (t : FileTree) : t.node? [] = some .directory := rfl

@[simp] theorem node?_enter (t : FileTree) (a b : Address) :
    (t.enter a).node? b = t.node? b := rfl

/-! ## Listing -/

/-- The order of addresses: name by name, byte by byte, a directory before what it holds. -/
def addressLE (a b : Address) : Bool := !decide (b < a)

/-- Every entry below a directory, by its names from there, in the order of addresses. -/
def list (t : FileTree) (a : Address) : List (Address × Node) :=
  let below := t.entries.filterMap fun (b, node) =>
    if a.isPrefixOf b && b != a then some (b.drop a.length, node) else none
  below.mergeSort fun x y => addressLE x.1 y.1

end FileTree

end MarketFeed
