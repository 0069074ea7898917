import MarketFeed.Context.Basic
import MarketFeed.Proofs.Text.Shown
import MarketFeed.Settings.Basic

/-!
# Literal home directories

A home directory that refers to nothing goes through the expansion unchanged, as far as it is
text, and it can be told from the runtime directory made of it up to a slash at its end.

* `Path.IsLiteral`          — nothing in the path is replaced.
* `expandPath_of_isLiteral` — of a literal path the expansion leaves the text shown for it.
* `Path.stem`               — the bytes of a directory in front of what is below it.
* `Path.stem_eq_iff`        — only a slash at the end can differ between paths with one stem.
* `home_override_of_isLiteral` — a literal home directory is used as it is given.
-/

namespace MarketFeed

namespace Path

/-! ## Literal paths -/

/-- Nothing in the path is replaced: it holds no dollar sign and does not start with a tilde. -/
def IsLiteral (p : Path) : Prop :=
  Utf8.byteOf '$' ∉ p.bytes ∧ p.bytes.head? ≠ some (Utf8.byteOf '~')

instance (p : Path) : Decidable p.IsLiteral := inferInstanceAs (Decidable (_ ∧ _))

/-- The bytes of the path are text. -/
def IsText (p : Path) : Prop := (Utf8.decode? p.bytes).isSome = true

instance (p : Path) : Decidable p.IsText := inferInstanceAs (Decidable (_ = true))

theorem exists_ofString {p : Path} (hText : p.IsText) : ∃ s, p = ofString s := by
  obtain ⟨s, hDecode⟩ := Option.isSome_iff_exists.mp hText
  exact ⟨s, by rw [ofString, Utf8.encode_of_decode? hDecode]⟩

theorem text_ofString (s : String) : (ofString s).text = s := Utf8.lossy_encode s

/-- A path that is text is named by the text shown for it. -/
theorem ofString_text {p : Path} (hText : p.IsText) : ofString p.text = p := by
  obtain ⟨s, rfl⟩ := exists_ofString hText
  rw [text_ofString]

/-! ## What stands in front of a name -/

/-- The path ends where a name below it can begin. -/
def IsOpen (p : Path) : Prop := p.bytes = [] ∨ p.bytes.getLast? = some slash

instance (p : Path) : Decidable p.IsOpen := inferInstanceAs (Decidable (_ ∨ _))

/-- The bytes of a directory in front of what is below it. -/
def stem (p : Path) : Bytes := if p.IsOpen then p.bytes else p.bytes ++ [slash]

/-- The path `q` is `p` with the slash that `p` lacks before a name below it. -/
structure Closes (q p : Path) : Prop where
  lacks : ¬p.IsOpen
  bytes : q.bytes = p.bytes ++ [slash]

theorem bytes_join_of_relative {p q : Path} (hRelative : q.isAbsolute = false) :
    (p.join q).bytes = p.stem ++ q.bytes := by
  have hJoin : p.join q =
      if p.IsOpen then ⟨p.bytes ++ q.bytes⟩ else ⟨p.bytes ++ slash :: q.bytes⟩ := by
    rw [join, hRelative, if_neg Bool.false_ne_true]
    rfl
  rw [hJoin, stem]
  by_cases hOpen : p.IsOpen
  · rw [if_pos hOpen, if_pos hOpen]
  · rw [if_neg hOpen, if_neg hOpen, List.append_assoc, List.singleton_append]

theorem Closes.stem_eq {p q : Path} (h : q.Closes p) : q.stem = p.stem := by
  have hOpen : q.IsOpen := Or.inr (by rw [h.bytes, List.getLast?_concat])
  rw [stem, stem, if_pos hOpen, if_neg h.lacks, h.bytes]

/-- Paths with one stem are equal up to a single slash at the end. -/
theorem stem_eq_iff {p q : Path} : p.stem = q.stem ↔ p = q ∨ p.Closes q ∨ q.Closes p := by
  constructor
  · intro hStem
    unfold stem at hStem
    -- of the four cases only those differ in which one path has the slash and the other lacks it
    by_cases hp : p.IsOpen <;> by_cases hq : q.IsOpen
    · rw [if_pos hp, if_pos hq] at hStem
      exact Or.inl (congrArg Path.mk hStem)
    · rw [if_pos hp, if_neg hq] at hStem
      exact Or.inr (Or.inl ⟨hq, hStem⟩)
    · rw [if_neg hp, if_pos hq] at hStem
      exact Or.inr (Or.inr ⟨hp, hStem.symm⟩)
    · rw [if_neg hp, if_neg hq] at hStem
      exact Or.inl (congrArg Path.mk (List.append_cancel_right hStem))
  · rintro (rfl | hCloses | hCloses)
    · rfl
    · exact hCloses.stem_eq
    · exact hCloses.stem_eq.symm

/-- Directories of one name below two paths are one path exactly if the two have one stem. -/
theorem child_eq_child_iff {p q : Path} {name : String}
    (hRelative : (ofString name).isAbsolute = false) :
    p.child name = q.child name ↔ p = q ∨ p.Closes q ∨ q.Closes p := by
  rw [← stem_eq_iff]
  constructor
  · intro hChild
    have hBytes := congrArg Path.bytes hChild
    rw [child, child, bytes_join_of_relative hRelative, bytes_join_of_relative hRelative] at hBytes
    exact List.append_cancel_right hBytes
  · intro hStem
    refine congrArg Path.mk (?_ : (p.child name).bytes = (q.child name).bytes)
    rw [child, child, bytes_join_of_relative hRelative, bytes_join_of_relative hRelative, hStem]

/-- What is below a path that is text has a path that is text. -/
theorem isText_child {p : Path} (hText : p.IsText) {name : String}
    (hRelative : (ofString name).isAbsolute = false) : (p.child name).IsText := by
  obtain ⟨s, rfl⟩ := exists_ofString hText
  obtain ⟨front, hFront⟩ : ∃ front, (ofString s).stem = Utf8.encode front := by
    unfold stem
    split
    · exact ⟨s, rfl⟩
    · exact ⟨s ++ "/", (Utf8.encode_append s "/").symm⟩
  have hBytes : (child (ofString s) name).bytes = Utf8.encode (front ++ name) := by
    rw [child, bytes_join_of_relative hRelative, hFront, Utf8.encode_append]
    rfl
  rw [IsText, hBytes, Utf8.decode?_encode]
  rfl

/-- Paths that are text are told apart by the text shown for them. -/
theorem text_eq_iff {p q : Path} (hp : p.IsText) (hq : q.IsText) : p.text = q.text ↔ p = q := by
  constructor
  · intro hSame
    rw [← ofString_text hp, hSame, ofString_text hq]
  · exact congrArg text

end Path

namespace Settings

/-! ## The expansion of a literal path -/

/-- Of a literal path the expansion leaves the text shown for it, whatever its bytes are: no dollar
sign and no leading tilde comes out of bytes that are none. -/
theorem expandPath_of_isLiteral {p : Path} (hLiteral : p.IsLiteral) (e : Environment) :
    expandPath e p = .ofString p.text := by
  have hDollar : '$' ∉ p.text.toList := fun hMem =>
    hLiteral.1 (Utf8.byteOf_mem_of_mem_lossy hMem (by decide))
  have hTilde : p.text.toList.head? ≠ some '~' := fun hHead =>
    hLiteral.2 (Utf8.head?_of_head?_lossy hHead (by decide))
  rw [expandPath, Expansion.expand_of_plain hDollar hTilde]

/-- A home directory given by a layer from the command line is expanded, whatever else is given. -/
theorem home_override_some (e : Environment) (s : Settings) (p : Path) (level : Option LogLevel) :
    (s.override e ⟨some p, level⟩).home = expandPath e p := rfl

/-- A literal home directory that is text is used as it is given, in every environment.  The
runtime directories of two of them have one text only if the two are equal, or if they differ in
a single slash at the end, which is not doubled before the name of the runtime directory. -/
theorem home_override_of_isLiteral {p : Path} (hText : p.IsText) (hLiteral : p.IsLiteral)
    (e : Environment) (s : Settings) (level : Option LogLevel) :
    let settings := s.override e ⟨some p, level⟩
    settings.home = p ∧
    ∀ {q : Path}, q.IsText → q.IsLiteral →
      ∀ (e' : Environment) (s' : Settings) (level' : Option LogLevel) (identity identity' : Nat),
        let settings' := s'.override e' ⟨some q, level'⟩
        (Site.ofHome identity settings.home settings.logLevel).runtimeDir.text =
            (Site.ofHome identity' settings'.home settings'.logLevel).runtimeDir.text ↔
          p = q ∨ p.Closes q ∨ q.Closes p := by
  have hKept : ∀ {q : Path}, q.IsText → q.IsLiteral → ∀ (e : Environment) (s : Settings)
      (level : Option LogLevel), (s.override e ⟨some q, level⟩).home = q := by
    intro q hText hLiteral e s level
    rw [home_override_some, expandPath_of_isLiteral hLiteral, Path.ofString_text hText]
  refine ⟨hKept hText hLiteral e s level, ?_⟩
  intro q hTextQ hLiteralQ e' s' level' identity identity'
  dsimp only
  rw [hKept hText hLiteral, hKept hTextQ hLiteralQ]
  -- the runtime directory is the entry of one name below either home directory
  have hRelative : (Path.ofString "runtime").isAbsolute = false := by decide
  show (p.child "runtime").text = (q.child "runtime").text ↔ _
  rw [Path.text_eq_iff (Path.isText_child hText hRelative) (Path.isText_child hTextQ hRelative),
    Path.child_eq_child_iff hRelative]

/-- A home directory with blanks and a sign beyond ASCII, and the same one with a slash behind. -/
theorem home_override_of_isLiteral_slash :
    let e : Environment := ⟨[(Utf8.encode "HOME", Utf8.encode "/u")], none⟩
    let p := Path.ofString "/srv/fé ed~"
    let q := Path.ofString "/srv/fé ed~/"
    ((standard e).override e ⟨some p, none⟩).home = p ∧
      (Site.ofHome 0 ((standard e).override e ⟨some p, none⟩).home .warning).runtimeDir.text =
        (Site.ofHome 1 ((standard e).override e ⟨some q, none⟩).home .warning).runtimeDir.text := by
  intro e p q
  obtain ⟨hHome, hTexts⟩ := home_override_of_isLiteral (p := p) (by decide +kernel)
    (by decide +kernel) e (standard e) none
  have hCloses : q.Closes p := ⟨by decide +kernel, by decide +kernel⟩
  exact ⟨hHome, (hTexts (by decide +kernel) (by decide +kernel) e (standard e) none 0 1).mpr
    (Or.inr (Or.inr hCloses))⟩

/-- Bytes that are no text are not used as they are given, and two paths may have one runtime
directory though both are text. -/
theorem not_literal_home :
    let e : Environment := ⟨[], some (.ofString "/root")⟩
    let home (p : Path) := ((standard e).override e ⟨some p, none⟩).home
    let broken : Path := ⟨[0x2F, 0x78, 0xFF]⟩
    let p := Path.ofString "/x"
    let q := Path.ofString "/x/"
    (broken.IsLiteral ∧ home broken ≠ broken) ∧
      (p.IsLiteral ∧ q.IsLiteral ∧ p ≠ q ∧
        (Site.ofHome 0 (home p) .warning).runtimeDir.text =
          (Site.ofHome 0 (home q) .warning).runtimeDir.text) := by
  decide +kernel

end Settings

end MarketFeed
