import Mathlib.Data.List.Nodup
import MarketFeed.Proofs.Text.Encoding
import MarketFeed.Registry

/-!
# The entries of a registry

All observers of a registry are told by one view, the entry of a name.

* `IsSourceName`       — a valid name, character by character.
* `encode_lt_of_isSourceName` — valid names are in the order of their bytes.
* `Registry.registered?`    — the view: the entry of a name.
* `eq_of_registered?_eq`    — the view tells registries apart.
* `mem_names_iff`, `contains_iff`, `find_eq_ok_iff`, `mem_describe_iff` — what it decides.
* `register_of_not_isSourceName`, `register_of_contains`, `register_of_free` — one call, each with
                         what becomes of the view.
-/

namespace MarketFeed

/-! ## Valid names -/

/-- The text begins with a small letter of ASCII, and small letters, digits, `-` and `_` follow. -/
def IsSourceName (name : String) : Prop :=
  ∃ first rest, name.toList = first :: rest ∧ ('a' ≤ first ∧ first ≤ 'z') ∧
    ∀ c ∈ rest, ('a' ≤ c ∧ c ≤ 'z') ∨ ('0' ≤ c ∧ c ≤ '9') ∨ c = '-' ∨ c = '_'

theorem isSmallLetter_iff {c : Char} : isSmallLetter c = true ↔ 'a' ≤ c ∧ c ≤ 'z' := by
  simp [isSmallLetter]

theorem isNameSign_iff {c : Char} :
    isNameSign c = true ↔ ('a' ≤ c ∧ c ≤ 'z') ∨ ('0' ≤ c ∧ c ≤ '9') ∨ c = '-' ∨ c = '_' := by
  have hDigit : c.isDigit = true ↔ '0' ≤ c ∧ c ≤ '9' := by
    simp [Char.isDigit, Char.le_def, ge_iff_le]
  simp only [isNameSign, Bool.or_eq_true, isSmallLetter_iff, hDigit, beq_iff_eq, or_assoc]

theorem isSourceName_iff {name : String} : isSourceName name = true ↔ IsSourceName name := by
  unfold isSourceName IsSourceName
  split
  · next hChars => simp [hChars]
  · next first rest hChars =>
    simp [hChars, isSmallLetter_iff, isNameSign_iff]

/-- Every character of a valid name is one of ASCII. -/
theorem ascii_of_isSourceName {name : String} (hName : IsSourceName name) :
    ∀ c ∈ name.toList, c.val.toNat ≤ 127 := by
  obtain ⟨first, rest, hChars, hFirst, hRest⟩ := hName
  have hSmall : ∀ c : Char, 'a' ≤ c ∧ c ≤ 'z' → c.val.toNat ≤ 127 := by
    intro c hc
    have hBound : c.val.toNat ≤ 122 := hc.2
    omega
  intro c hc
  rw [hChars] at hc
  rcases List.mem_cons.mp hc with rfl | hc
  · exact hSmall _ hFirst
  · rcases hRest c hc with hc | hc | rfl | rfl
    · exact hSmall c hc
    · have hBound : c.val.toNat ≤ 57 := hc.2
      omega
    · decide
    · decide

/-! ## The order of bytes -/

/-- Characters of ASCII are in the order of their bytes. -/
theorem flatMap_lt_of_ascii {cs ds : List Char} (hcs : ∀ c ∈ cs, c.val.toNat ≤ 127)
    (hds : ∀ d ∈ ds, d.val.toNat ≤ 127) (hLess : cs < ds) :
    cs.flatMap String.utf8EncodeChar < ds.flatMap String.utf8EncodeChar := by
  -- by induction on both: the first characters that differ decide on both sides
  induction cs generalizing ds with
  | nil =>
    rcases ds with _ | ⟨d, ds⟩
    · exact absurd hLess (List.lt_irrefl _)
    · rw [List.flatMap_cons, Utf8.utf8EncodeChar_of_ascii (hds d (List.mem_cons_self ..))]
      exact List.nil_lt_cons ..
  | cons c cs ih =>
    rcases ds with _ | ⟨d, ds⟩
    · exact absurd hLess (List.not_lt_nil _)
    · have hc := hcs c (List.mem_cons_self ..)
      have hd := hds d (List.mem_cons_self ..)
      rw [List.flatMap_cons, List.flatMap_cons, Utf8.utf8EncodeChar_of_ascii hc,
        Utf8.utf8EncodeChar_of_ascii hd]
      rw [List.cons_lt_cons_iff] at hLess
      show c.val.toUInt8 :: _ < d.val.toUInt8 :: _
      rw [List.cons_lt_cons_iff]
      rcases hLess with hLess | ⟨rfl, hLess⟩
      · left
        have hVal : c.val.toNat < d.val.toNat := hLess
        rw [UInt8.lt_iff_toNat_lt, UInt32.toNat_toUInt8, UInt32.toNat_toUInt8]
        omega
      · exact Or.inr ⟨rfl, ih (fun c hc => hcs c (List.mem_cons_of_mem _ hc))
          (fun d hd => hds d (List.mem_cons_of_mem _ hd)) hLess⟩

/-- Valid names are in the order of their bytes. -/
theorem encode_lt_of_isSourceName {a b : String} (ha : IsSourceName a) (hb : IsSourceName b)
    (hLess : a < b) : Utf8.encode a < Utf8.encode b :=
  flatMap_lt_of_ascii (ascii_of_isSourceName ha) (ascii_of_isSourceName hb) hLess

namespace Registry

/-! ## The entry of a name -/

/-- The entry of a name, if the name is registered. -/
def registered? (r : Registry) (name : String) : Option Registered :=
  r.entries.find? (·.name == name)

theorem name_of_registered? {r : Registry} {name : String} {e : Registered}
    (hEntry : r.registered? name = some e) : e.name = name := by
  simpa using List.find?_some hEntry

/-- No two entries have one name, so that each is the entry of its own. -/
theorem mem_entries_iff {r : Registry} {e : Registered} :
    e ∈ r.entries ↔ r.registered? e.name = some e := by
  constructor
  · intro hMem
    rcases hEntry : r.registered? e.name with _ | f
    · exact absurd (List.find?_eq_none.mp hEntry e hMem) (by simp)
    · -- the entry that was found has the same name, and names strictly increase
      have hName := name_of_registered? hEntry
      have hFound : f ∈ r.entries := List.mem_of_find?_eq_some hEntry
      obtain ⟨i, hi, rfl⟩ := List.mem_iff_getElem.mp hMem
      obtain ⟨j, hj, rfl⟩ := List.mem_iff_getElem.mp hFound
      have hSorted := List.pairwise_iff_getElem.mp r.sorted
      rcases Nat.lt_trichotomy i j with hij | rfl | hji
      · exact absurd (hName ▸ hSorted i j hi hj hij) (String.lt_irrefl _)
      · rfl
      · exact absurd (hName ▸ hSorted j i hj hi hji) (String.lt_irrefl _)
  · exact fun hEntry => List.mem_of_find?_eq_some hEntry

theorem mem_names_iff {r : Registry} {name : String} :
    name ∈ r.names ↔ ∃ e, r.registered? name = some e := by
  constructor
  · intro hMem
    obtain ⟨e, he, rfl⟩ := List.mem_map.mp hMem
    exact ⟨e, mem_entries_iff.mp he⟩
  · rintro ⟨e, hEntry⟩
    exact List.mem_map.mpr ⟨e, List.mem_of_find?_eq_some hEntry, name_of_registered? hEntry⟩

theorem contains_iff {r : Registry} {name : String} :
    r.contains name = true ↔ ∃ e, r.registered? name = some e := by
  rw [contains, List.contains_iff_mem, mem_names_iff]

theorem find_of_registered? {r : Registry} {name : String} {e : Registered}
    (hEntry : r.registered? name = some e) : r.find name = .ok e.source := by
  unfold find
  rw [show r.entries.find? (·.name == name) = some e from hEntry]

theorem find_of_registered?_eq_none {r : Registry} {name : String}
    (hNone : r.registered? name = none) : r.find name = .error (.notRegistered name) := by
  unfold find
  rw [show r.entries.find? (·.name == name) = none from hNone]

theorem find_of_not_mem_names {r : Registry} {name : String} (hAbsent : name ∉ r.names) :
    r.find name = .error (.notRegistered name) := by
  refine find_of_registered?_eq_none (Option.eq_none_iff_forall_ne_some.mpr fun e hEntry => ?_)
  exact hAbsent (mem_names_iff.mpr ⟨e, hEntry⟩)

theorem find_eq_ok_iff {r : Registry} {name : String} {source : Source} :
    r.find name = .ok source ↔ ∃ e, r.registered? name = some e ∧ e.source = source := by
  rcases hEntry : r.registered? name with _ | e
  · simp [find_of_registered?_eq_none hEntry]
  · simp [find_of_registered? hEntry]

/-- Registries with the same entries for all names are equal. -/
theorem eq_of_registered?_eq {r q : Registry}
    (hEntry : ∀ name, r.registered? name = q.registered? name) : r = q := by
  have hMem : ∀ e, e ∈ r.entries ↔ e ∈ q.entries := fun e => by
    rw [mem_entries_iff, mem_entries_iff, hEntry]
  have hNodup : ∀ t : Registry, t.entries.Nodup := fun t => by
    refine t.sorted.imp fun {a b} hLess he => ?_
    rw [he] at hLess
    exact String.lt_irrefl _ hLess
  have hPerm : r.entries.Perm q.entries :=
    (List.perm_ext_iff_of_nodup (hNodup r) (hNodup q)).mpr hMem
  have hEntries : r.entries = q.entries := by
    refine List.Perm.eq_of_pairwise (fun a b _ _ hab hba => ?_) r.sorted q.sorted hPerm
    exact absurd (String.lt_trans hab hba) (String.lt_irrefl _)
  obtain ⟨entries, _, _⟩ := r
  obtain rfl : entries = q.entries := hEntries
  rfl

/-! ## What the view decides -/

/-- The names of a registry increase byte by byte. -/
theorem pairwise_encode_names (r : Registry) : (r.names.map Utf8.encode).Pairwise (· < ·) := by
  rw [names, List.map_map, List.pairwise_map]
  refine List.Pairwise.imp_of_mem (fun {a b} ha hb hLess => ?_) r.sorted
  exact encode_lt_of_isSourceName (isSourceName_iff.mp (r.valid a ha))
    (isSourceName_iff.mp (r.valid b hb)) hLess

theorem mem_describe_iff {r : Registry} {name about : String} :
    (name, about) ∈ r.describe ↔ ∃ e, r.registered? name = some e ∧ e.source.about = about := by
  constructor
  · intro hMem
    obtain ⟨e, he, hPair⟩ := List.mem_map.mp hMem
    obtain ⟨rfl, rfl⟩ := Prod.mk.inj hPair
    exact ⟨e, mem_entries_iff.mp he, rfl⟩
  · rintro ⟨e, hEntry, rfl⟩
    refine List.mem_map.mpr ⟨e, List.mem_of_find?_eq_some hEntry, ?_⟩
    rw [name_of_registered? hEntry]

theorem mem_names_iff_find {r : Registry} {name : String} :
    name ∈ r.names ↔ ∃ source, r.find name = .ok source := by
  rw [mem_names_iff]
  constructor
  · rintro ⟨e, hEntry⟩
    exact ⟨e.source, find_of_registered? hEntry⟩
  · rintro ⟨source, hFind⟩
    obtain ⟨e, hEntry, -⟩ := find_eq_ok_iff.mp hFind
    exact ⟨e, hEntry⟩

/-! ## One call -/

theorem find?_insertEntry {e : Registered} {entries : List Registered}
    (hFree : ∀ f ∈ entries, f.name ≠ e.name) (name : String) :
    (insertEntry e entries).find? (·.name == name) =
      (entries.find? (·.name == name)).or (if e.name = name then some e else none) := by
  induction entries with
  | nil =>
    by_cases hName : e.name = name <;> simp [insertEntry, hName]
  | cons f rest ih =>
    have hRest := ih fun g hg => hFree g (List.mem_cons_of_mem _ hg)
    rw [insertEntry]
    split
    · by_cases hf : f.name = name
      · simp [hf]
      · simp [hf, hRest]
    · by_cases hName : e.name = name
      · -- the new entry is the only one of its name
        have hNone : (f :: rest).find? (·.name == name) = none :=
          List.find?_eq_none.mpr fun g hg => by simpa [← hName] using hFree g hg
        rw [hNone]
        simp [hName]
      · simp [hName]

theorem register_of_not_isSourceName {r : Registry} {name : String} (hName : ¬ IsSourceName name)
    (source : Source) : r.register name source = .error (.invalidName name) := by
  rw [register, dif_neg (fun h => hName (isSourceName_iff.mp h))]

theorem register_of_contains {r : Registry} {name : String} (hName : IsSourceName name)
    (hTaken : r.contains name = true) (source : Source) :
    r.register name source = .error (.duplicate name) := by
  rw [register, dif_pos (isSourceName_iff.mpr hName), dif_pos hTaken]

theorem register_of_free {r : Registry} {name : String} (hName : IsSourceName name)
    (hFree : r.contains name = false) (source : Source) :
    ∃ more, r.register name source = .ok more ∧
      ∀ other, more.registered? other =
        (r.registered? other).or (if name = other then some ⟨name, source⟩ else none) := by
  rw [register, dif_pos (isSourceName_iff.mpr hName), dif_neg (by simp [hFree])]
  refine ⟨_, rfl, fun other => find?_insertEntry (fun f hf he => ?_) other⟩
  have hTaken : r.contains name = true := List.contains_iff_mem.mpr (List.mem_map.mpr ⟨f, hf, he⟩)
  rw [hFree] at hTaken
  exact nomatch hTaken

/-- Enrolling a source is registering it, and a session learns of that only if it works. -/
theorem result_enroll (r : Registry) (name : String) (source : Source) (s : Session) :
    (r.enroll name source).result s =
      (r.register name source, match r.register name source with
        | .ok _ => s.add (.event (registration name) s.spans)
        | .error _ => s) := by
  unfold enroll
  rw [Action.result_bind, Action.result_ofExcept]
  rcases r.register name source with e | more
  · rfl
  · rfl

end Registry

end MarketFeed
