import MarketFeed.Source.Probe

/-!
# The registry of data sources

The sources that a command can run, by name.  Names are kept in order, and the first source
registered under a name stays.

* `isSourceName`       — the names that a source may have.
* `Registry.register`  — the registry with one more source.
* `Registry.names`, `Registry.describe` — what is registered, in order.
* `Registry.find`      — the source of a name.
* `Registry.enroll`    — registering, as the journal tells it.
* `Registry.builtin`   — the registry that the program comes with.
-/

namespace MarketFeed

/-- A small letter of ASCII. -/
def isSmallLetter (c : Char) : Bool := 'a' ≤ c && c ≤ 'z'

/-- A character that may stand in the name of a source after the first letter. -/
def isNameSign (c : Char) : Bool := isSmallLetter c || c.isDigit || c == '-' || c == '_'

/-- Text that may name a source: a small letter, then small letters, digits, `-` and `_`. -/
def isSourceName (name : String) : Bool :=
  match name.toList with
  | [] => false
  | first :: rest => isSmallLetter first && rest.all isNameSign

/-- A source under its name. -/
structure Registered where
  name : String
  source : Source

/-- Sources by name: the names are valid and strictly increase. -/
structure Registry where
  entries : List Registered
  sorted : entries.Pairwise fun a b => a.name < b.name
  valid : ∀ e ∈ entries, isSourceName e.name = true

namespace Registry

/-- The registry without sources. -/
def empty : Registry := ⟨[], .nil, by simp⟩

/-- The names of all sources, in order. -/
def names (r : Registry) : List String := r.entries.map (·.name)

/-- The names of all sources with what they are for, in order. -/
def describe (r : Registry) : List (String × String) :=
  r.entries.map fun e => (e.name, e.source.about)

/-- A source has that name. -/
def contains (r : Registry) (name : String) : Bool := r.names.contains name

/-- How many sources there are. -/
def size (r : Registry) : Nat := r.entries.length

/-- There is no source. -/
def isEmpty (r : Registry) : Bool := r.entries.isEmpty

/-- The source of that name. -/
def find (r : Registry) (name : String) : Except RegistryError Source :=
  match r.entries.find? (·.name == name) with
  | some e => .ok e.source
  | none => .error (.notRegistered name)

/-! ## Registering -/

/-- The entries with one more, put before the first that does not come before it. -/
def insertEntry (e : Registered) : List Registered → List Registered
  | [] => [e]
  | f :: rest => if f.name < e.name then f :: insertEntry e rest else e :: f :: rest

theorem mem_insertEntry {e f : Registered} {entries : List Registered} :
    f ∈ insertEntry e entries ↔ f = e ∨ f ∈ entries := by
  induction entries with
  | nil => simp [insertEntry]
  | cons g rest ih =>
    rw [insertEntry]
    split
    · simp only [List.mem_cons, ih]
      constructor
      · rintro (h | h | h) <;> simp [h]
      · rintro (h | h | h) <;> simp [h]
    · simp

private theorem lt_of_not_lt_of_ne {a b : String} (h : ¬ a < b) (hne : a ≠ b) : b < a := by
  refine Decidable.byContradiction fun hba => ?_
  exact hne (String.le_antisymm (String.not_lt.1 hba) (String.not_lt.1 h))

theorem pairwise_insertEntry {e : Registered} {entries : List Registered}
    (hs : entries.Pairwise fun a b => a.name < b.name) (hne : ∀ f ∈ entries, f.name ≠ e.name) :
    (insertEntry e entries).Pairwise fun a b => a.name < b.name := by
  induction entries with
  | nil => simp [insertEntry]
  | cons g rest ih =>
    rw [List.pairwise_cons] at hs
    rw [insertEntry]
    split
    next hlt =>
      refine List.pairwise_cons.2 ⟨fun f hf => ?_, ih hs.2 fun f hf => hne f (.tail _ hf)⟩
      rcases mem_insertEntry.1 hf with rfl | hf
      · exact hlt
      · exact hs.1 f hf
    next hlt =>
      -- every later name comes after the first one, which comes after the new one
      have hg : e.name < g.name := lt_of_not_lt_of_ne hlt (hne g (.head _))
      refine List.pairwise_cons.2 ⟨fun f hf => ?_, List.pairwise_cons.2 hs⟩
      rcases List.mem_cons.1 hf with rfl | hf
      · exact hg
      · exact String.lt_trans hg (hs.1 f hf)

/-- The registry with one more source.  The name must be valid and still free. -/
def register (r : Registry) (name : String) (source : Source) : Except RegistryError Registry :=
  if hv : isSourceName name = true then
    if hc : r.contains name = true then .error (.duplicate name)
    else .ok
      { entries := insertEntry ⟨name, source⟩ r.entries
        sorted := pairwise_insertEntry r.sorted fun f hf he =>
          hc (List.contains_iff_mem.2 (List.mem_map.2 ⟨f, hf, he⟩))
        valid := by
          intro e he
          rcases mem_insertEntry.1 he with rfl | he
          · exact hv
          · exact r.valid e he }
  else .error (.invalidName name)

/-- The event that tells of a new source. -/
def registration (name : String) : Event where
  severity := .debug
  target := "kfc_data::extension::registry"
  message := "registered data extension"
  fields := [⟨"source", .words name⟩]

/-- Registers a source; the journal tells if that worked. -/
def enroll (r : Registry) (name : String) (source : Source) : Action RegistryError Registry := do
  let more ← Action.ofExcept (r.register name source)
  Action.emit (registration name)
  return more

/-- The registry that the program comes with: it holds the probe alone. -/
def builtin : Registry where
  entries := [⟨Probe.name, Probe.source⟩]
  sorted := List.pairwise_singleton _ _
  valid := by simp; decide

/-- It is what registering the probe gives where no source is registered yet, which goes well. -/
theorem register_probe : empty.register Probe.name Probe.source = .ok builtin := by
  have hValid : isSourceName Probe.name = true := by decide
  unfold register
  rw [dif_pos hValid]
  rfl

/-! ## Text -/

/-- The registry as text for diagnosis: the names, quoted. -/
def debugText (r : Registry) : String :=
  "ExtensionRegistry \x7b names: [" ++ ", ".intercalate (r.names.map Text.quoted) ++ "] \x7d"

end Registry

end MarketFeed
