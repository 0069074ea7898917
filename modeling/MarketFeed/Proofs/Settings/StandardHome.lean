import MarketFeed.Proofs.Path.Components
import MarketFeed.Proofs.Settings.RoundTrip
import MarketFeed.Proofs.Settings.Tilde
import MarketFeed.Proofs.Text.IllFormed

/-!
# The standard home directory

The settings file that a new user starts from names what holds without it, in two comments.  With
the comments made settings the home directory is `.kfc` in that of the user, whatever the latter
holds; without any file it is that path expanded once more, so that the two ways agree exactly
where the expansion changes nothing but slashes.

* `documented`, `parse?_documented` — the template with its two settings given.
* `Path.isText_child_iff`    — what is below a directory is text exactly if the directory is.
* `expandPath_of_no_dollar`  — where nothing is referred to, only the tilde counts.
* `components_expandPath_documented` — the home directory that the template gives.
* `agrees_expandPath_child`  — when the entry of a directory that is text is expanded in vain.
* `not_agrees_of_not_isText` — the entry of a directory that is no text is shown with a sign.
* `standard_home`            — what the two ways of loading give, and when they agree.
* `not_standard_home`        — a home directory with a reference in it, for which they do not.
-/

namespace MarketFeed

open Utf8 (byteOf)

namespace Settings

/-! ## The template with its settings given -/

/-- A line of the template; a comment that holds a setting is the setting alone. -/
def uncommented (line : List Char) : List Char :=
  if "# home = ".toList <+: line ∨ "# log_level = ".toList <+: line then line.drop 2 else line

/-- The template with its two settings given as they stand there. -/
def documented : String :=
  String.ofList (['\n'].intercalate ((template.toList.splitOn '\n').map uncommented))

set_option maxRecDepth 4000 in
theorem tokens?_documented :
    Toml.tokens? documented.toList =
      some (.replicate 8 .newline ++ Toml.lineTokens "home" "~/.kfc" ++
        .replicate 2 .newline ++ Toml.lineTokens "log_level" "warning" ++ [.newline]) := by
  -- the template is a literal, whose characters need not be decoded from its bytes
  have hChars : template.toList = _ := String.toList_ofList
  rw [documented, String.toList_ofList, hChars]
  decide +kernel

theorem parse?_documented :
    Overlay.parse? documented = some ⟨some (.ofString "~/.kfc"), some .warning⟩ := by
  have hDocument : Toml.document? documented =
      some [("home", .text "~/.kfc"), ("log_level", .text "warning")] := by
    rw [Toml.document?, tokens?_documented]
    rfl
  rw [Overlay.parse?, hDocument]
  rfl

end Settings

namespace Path

/-! ## Entries of a directory -/

/-- A byte of the entry's path that its name does not have is one of the directory's. -/
theorem mem_bytes_of_mem_child {p : Path} {name : String}
    (hRelative : (ofString name).isAbsolute = false) {b : UInt8}
    (hMem : b ∈ (p.child name).bytes) (hName : b ∉ Utf8.encode name) (hSlash : b ≠ slash) :
    b ∈ p.bytes := by
  rw [child, bytes_join_of_relative hRelative, List.mem_append] at hMem
  have hStem := hMem.resolve_right hName
  unfold stem at hStem
  split at hStem
  · exact hStem
  · exact (List.mem_append.mp hStem).resolve_right fun h => hSlash (List.mem_singleton.mp h)

/-- What is below a directory is text exactly if the directory is, unless the name begins with
something longer than a byte. -/
theorem isText_child_iff {p : Path} {name : String}
    (hRelative : (ofString name).isAbsolute = false)
    (hAscii : ∀ b ∈ (Utf8.encode name).head?, b.toNat < 0x80) :
    (p.child name).IsText ↔ p.IsText := by
  refine ⟨fun hText => ?_, fun hText => isText_child hText hRelative⟩
  rw [IsText, child, bytes_join_of_relative hRelative, stem, ofString] at hText
  split at hText
  · rcases hName : Utf8.encode name with _ | ⟨b, rest⟩ <;> rw [hName] at hText hAscii
    · rwa [List.append_nil] at hText
    · exact Utf8.decode?_isSome_of_append (hAscii b rfl) hText
  · rw [List.append_assoc] at hText
    exact Utf8.decode?_isSome_of_append (by decide : slash.toNat < 0x80) hText

end Path

namespace Settings

/-! ## Expanding without references -/

theorem expandPath_of_no_dollar {e : Environment} {p : Path} (hDollar : '$' ∉ p.text.toList) :
    expandPath e p =
      .ofString (String.ofList (Expansion.expandTilde e.homeText? p.text.toList)) := by
  rw [expandPath, Expansion.expand, Expansion.expandChars, Expansion.fill?_of_no_dollar hDollar]
  simp [hDollar]

/-- A path with a reference that has no value is left alone, as far as it is text. -/
theorem expandPath_of_not_resolves {e : Environment} {p : Path} (hText : p.IsText)
    (hMissing : ¬Expansion.Resolves e.text? p.text.toList) : expandPath e p = p := by
  rw [expandPath, Expansion.expand_of_not_resolves hMissing, Path.ofString_text hText]

/-! ## The entry of the user's home directory -/

theorem isRelative_kfc : (Path.ofString ".kfc").isAbsolute = false := by decide

theorem components_child_kfc (p : Path) :
    (p.child ".kfc").components = p.components ++ [.name (Utf8.encode ".kfc")] :=
  Path.components_join_name (Path.isName_encode_iff.mpr (by decide))

theorem not_dollar_mem_child {p : Path} (hDollar : byteOf '$' ∉ p.bytes) :
    '$' ∉ (p.child ".kfc").text.toList := fun hMem =>
  hDollar (Path.mem_bytes_of_mem_child isRelative_kfc
    (Utf8.byteOf_mem_of_mem_lossy hMem (by decide)) (by decide) (by decide))

theorem expandPath_documented (e : Environment) :
    expandPath e (.ofString "~/.kfc") = .ofString (String.ofList
      (Expansion.expandTilde e.homeText? "~/.kfc".toList)) := by
  have hText : (Path.ofString "~/.kfc").text = "~/.kfc" := Path.text_ofString _
  rw [expandPath_of_no_dollar (by rw [hText]; decide), hText]

/-- The home directory that the document gives is the entry in that of the user, with one slash
more if the latter ends with one. -/
theorem components_expandPath_documented {e : Environment} {p : Path} (hHome : e.home? = some p)
    (hText : p.IsText) (hSome : p.bytes ≠ []) :
    (expandPath e (.ofString "~/.kfc")).components = (p.child ".kfc").components := by
  obtain ⟨user, rfl⟩ := Path.exists_ofString hText
  have hUser : e.homeText? = some user := by
    rw [Environment.homeText?_of_home? hHome, Path.ofString, Utf8.decode?_encode]
  have hBytes : Utf8.encode user ≠ [] := hSome
  have hExpanded : expandPath e (.ofString "~/.kfc") =
      ⟨Utf8.encode user ++ Path.slash :: Utf8.encode ".kfc"⟩ := by
    rw [expandPath_documented, hUser]
    show Path.ofString (String.ofList (user.toList ++ "/.kfc".toList)) = _
    rw [String.ofList_append, String.ofList_toList, String.ofList_toList, Path.ofString,
      Utf8.encode_append]
    rfl
  rw [hExpanded, components_child_kfc, Path.components_append_slash hBytes]
  rfl

/-- Nothing stands for the tilde where the user's home directory is no text. -/
theorem expandPath_documented_of_not_isText {e : Environment} {p : Path} (hHome : e.home? = some p)
    (hBroken : ¬p.IsText) : expandPath e (.ofString "~/.kfc") = .ofString "~/.kfc" := by
  have hUser : e.homeText? = none := by
    rw [Environment.homeText?_of_home? hHome]
    exact Option.not_isSome_iff_eq_none.mp hBroken
  rw [expandPath_documented, hUser, Expansion.expandTilde_none, String.ofList_toList]

/-- What is behind the first component of a path is the end of it exactly if nothing is between
the two. -/
theorem append_rest_eq_iff {a last : Path.Component} {front rest : List Path.Component}
    (hSame : a :: rest = front ++ [last]) (hOther : a ≠ last) :
    front ++ rest = front ++ [last] ↔ ∀ c cs, front ≠ a :: c :: cs := by
  rcases front with _ | ⟨b, between⟩
  · exact absurd (List.cons.inj hSame).1 hOther
  obtain ⟨rfl, hRest⟩ := List.cons.inj hSame
  have hBetween : rest = between ++ [last] := hRest
  rw [List.append_cancel_left_eq, hBetween, List.append_left_eq_self]
  rcases between with _ | ⟨c, cs⟩
  · simp
  · simp

/-- The entry of a directory that begins with a tilde and goes on behind it begins so too. -/
theorem isTilde_of_components {p : Path} {entry : String} {c : Path.Component}
    {cs : List Path.Component} (hEntry : p.child ".kfc" = .ofString entry)
    (hComponents : p.components = .name [byteOf '~'] :: c :: cs) :
    Expansion.IsTilde entry.toList := by
  have hLonger : (p.child ".kfc").components =
      .name [byteOf '~'] :: c :: (cs ++ [.name (Utf8.encode ".kfc")]) := by
    rw [components_child_kfc, hComponents]
    rfl
  obtain ⟨behind, hBegins⟩ := Path.prefix_of_components hLonger
  rw [hEntry] at hBegins
  -- the two bytes are those of the tilde and the slash
  obtain ⟨more, hFirst, hMore⟩ := Utf8.exists_cons_of_flatMap (by decide) hBegins.symm
  obtain ⟨rest, rfl, -⟩ := Utf8.exists_cons_of_flatMap (by decide) hMore
  exact Or.inr ⟨rest, hFirst.symm⟩

/-- An entry behind a tilde is expanded to what is behind the whole directory, which makes no
difference exactly if the directory is the tilde alone. -/
theorem agrees_expandTilde_iff {user entry : String}
    (hEntry : (Path.ofString user).child ".kfc" = .ofString entry)
    (hSome : Utf8.encode user ≠ []) (hTilde : Expansion.IsTilde entry.toList) :
    (Path.ofString (String.ofList (Expansion.expandTilde (some user) entry.toList))).agrees
        (.ofString entry) = true ↔
      ∀ c cs, (Path.ofString user).components ≠ .name [byteOf '~'] :: c :: cs := by
  rcases hTilde with hAlone | ⟨rest, hRest⟩
  · -- the entry has another name than a tilde
    have hBytes : Path.ofString entry = ⟨[byteOf '~']⟩ := by
      rw [Path.ofString, Utf8.encode, hAlone]
      rfl
    have hLast := congrArg List.getLast? (components_child_kfc (.ofString user))
    rw [hEntry, hBytes, List.getLast?_concat] at hLast
    exact absurd hLast (by decide)
  · have hChars : entry.toList = '~' :: '/' :: rest := hRest.symm
    have hBegins : Path.ofString entry =
        ⟨[byteOf '~'] ++ Path.slash :: rest.flatMap String.utf8EncodeChar⟩ := by
      rw [Path.ofString, Utf8.encode, hChars]
      rfl
    have hExpanded :
        Path.ofString (String.ofList (Expansion.expandTilde (some user) entry.toList)) =
          ⟨Utf8.encode user ++ Path.slash :: rest.flatMap String.utf8EncodeChar⟩ := by
      rw [hChars]
      show Path.ofString (String.ofList (user.toList ++ '/' :: rest)) = _
      rw [Path.ofString, Utf8.encode, String.toList_ofList, List.flatMap_append]
      rfl
    have hBehind := components_child_kfc (.ofString user)
    rw [hExpanded, Path.agrees, beq_iff_eq, ← hEntry, hBehind,
      Path.components_append_slash hSome]
    rw [hEntry, hBegins, Path.components_append_slash (List.cons_ne_nil _ _)] at hBehind
    exact append_rest_eq_iff hBehind (by decide)

/-- Where nothing is referred to, expanding the entry of a directory that is text changes nothing
but slashes, unless the directory begins with a tilde and goes on behind it. -/
theorem agrees_expandPath_child {e : Environment} {p : Path} (hHome : e.home? = some p)
    (hText : p.IsText) (hSome : p.bytes ≠ []) (hDollar : byteOf '$' ∉ p.bytes) :
    (expandPath e (p.child ".kfc")).agrees (p.child ".kfc") = true ↔
      ∀ c cs, p.components ≠ .name [byteOf '~'] :: c :: cs := by
  obtain ⟨user, rfl⟩ := Path.exists_ofString hText
  obtain ⟨entry, hEntry⟩ := Path.exists_ofString (Path.isText_child hText isRelative_kfc)
  have hUser : e.homeText? = some user := by
    rw [Environment.homeText?_of_home? hHome, Path.ofString, Utf8.decode?_encode]
  rw [expandPath_of_no_dollar (not_dollar_mem_child hDollar), hUser, hEntry, Path.text_ofString]
  by_cases hTilde : Expansion.IsTilde entry.toList
  · exact agrees_expandTilde_iff hEntry hSome hTilde
  · rw [Expansion.expandTilde_of_not_isTilde hTilde, String.ofList_toList]
    exact ⟨fun _ c cs hComponents => hTilde (isTilde_of_components hEntry hComponents),
      fun _ => beq_self_eq_true _⟩

/-- Where nothing is referred to, the entry of a directory that is no text is shown with the sign
for that, which is in no name of the home directory that the document gives. -/
theorem not_agrees_of_not_isText {e : Environment} {p : Path} (hHome : e.home? = some p)
    (hBroken : ¬p.IsText) (hDollar : byteOf '$' ∉ p.bytes) :
    (expandPath e (p.child ".kfc")).agrees (expandPath e (.ofString "~/.kfc")) = false := by
  have hUser : e.homeText? = none := by
    rw [Environment.homeText?_of_home? hHome]
    exact Option.not_isSome_iff_eq_none.mp hBroken
  have hAscii : ∀ b ∈ (Utf8.encode ".kfc").head?, b.toNat < 0x80 := by
    intro b hFirst
    obtain rfl : Path.dot = b := Option.some.inj hFirst
    decide
  have hEntry : ¬(p.child ".kfc").IsText := fun hText =>
    hBroken ((Path.isText_child_iff isRelative_kfc hAscii).mp hText)
  rw [expandPath_documented_of_not_isText hHome hBroken,
    expandPath_of_no_dollar (not_dollar_mem_child hDollar), hUser, Expansion.expandTilde_none,
    String.ofList_toList]
  -- the first byte of the sign stands in a name
  have hSign : (0xEF : UInt8) ∈ (Path.ofString (p.child ".kfc").text).bytes := by
    refine List.mem_flatMap.mpr ⟨Utf8.replacement, ?_, by decide⟩
    exact Utf8.replacement_mem_lossy (Option.not_isSome_iff_eq_none.mp hEntry)
  obtain ⟨name, hName, hMem⟩ := Path.exists_name_of_mem hSign (by decide) (by decide)
  rw [Path.agrees, beq_eq_false_iff_ne]
  intro hSame
  have hNames : (Path.ofString "~/.kfc").components =
      [.name [byteOf '~'], .name (Utf8.encode ".kfc")] := by
    decide +kernel
  rw [hSame, hNames, List.mem_cons, List.mem_singleton] at hName
  rcases hName with hTilde | hKfc
  · rw [Path.Component.name.inj hTilde] at hMem
    exact absurd hMem (by decide)
  · rw [Path.Component.name.inj hKfc] at hMem
    exact absurd hMem (by decide)

/-! ## Two ways of loading -/

theorem agrees_of_level (p q : Path) (level : LogLevel) :
    Settings.agrees ⟨p, level⟩ ⟨q, level⟩ = p.agrees q := by
  rw [Settings.agrees, beq_self_eq_true, Bool.and_true]

/-- Loading without a settings file, and loading with the template whose two settings are given.
The level is the same, and the home directory that the template gives is the entry `.kfc` of the
user's, if the latter is text.  Without a file it is that entry expanded once more, which is in
vain where a reference in it has no value.  Where nothing in the user's home directory begins a
reference, the two ways agree exactly if it is text and does not go on behind a tilde. -/
theorem standard_home {e : Environment} (hBare : e.IsBare) {user : Bytes}
    (hUser : e.get? "HOME" = some user) (hSome : user ≠ []) {files files' : FileTree}
    {absent : Option Path} {file : Path} (hAbsent : FileGives files absent ⟨none, none⟩)
    (hRead : files'.read file = .ok (Utf8.encode documented)) :
    let home : Path := ⟨user⟩
    let entry := home.child ".kfc"
    ∃ byItself byDocument, loadFrom e files absent = .ok byItself ∧
      loadFrom e files' (some file) = .ok byDocument ∧
      byItself.logLevel = byDocument.logLevel ∧
      byItself.home = expandPath e entry ∧
      (home.IsText → byDocument.home.agrees entry = true) ∧
      (¬home.IsText → byDocument.home = .ofString "~/.kfc") ∧
      (home.IsText → ¬Expansion.Resolves e.text? entry.text.toList →
        byItself.agrees byDocument = true) ∧
      (byteOf '$' ∉ user → (byItself.agrees byDocument = true ↔
        home.IsText ∧ ∀ c cs, home.components ≠ .name [byteOf '~'] :: c :: cs)) := by
  intro home entry
  -- the account's own home directory counts only where the variable is empty
  have hHome : e.home? = some home := Environment.home?_of_get? hUser hSome
  have hGives : FileGives files' (some file) ⟨some (.ofString "~/.kfc"), some .warning⟩ :=
    Or.inr ⟨_, documented, hRead, Utf8.decode?_encode documented, parse?_documented⟩
  have hDocument (hText : home.IsText) :
      (expandPath e (.ofString "~/.kfc")).components = entry.components :=
    components_expandPath_documented hHome hText hSome
  refine ⟨⟨expandPath e entry, .warning⟩, ⟨expandPath e (.ofString "~/.kfc"), .warning⟩,
    ?_, ?_, rfl, rfl, fun hText => beq_iff_eq.mpr (hDocument hText),
    expandPath_documented_of_not_isText hHome, ?_, ?_⟩
  · rw [loadFrom_of_isBare hBare hAbsent]
    show Except.ok (⟨expandPath e (standardHome e), .warning⟩ : Settings) = _
    rw [standardHome_of_home? hHome]
  · rw [loadFrom_of_isBare hBare hGives]
    rfl
  · intro hText hMissing
    have hKept := expandPath_of_not_resolves (Path.isText_child hText isRelative_kfc) hMissing
    rw [agrees_of_level, hKept, Path.agrees, hDocument hText]
    exact beq_self_eq_true _
  · intro hDollar
    rw [agrees_of_level]
    by_cases hText : home.IsText
    · -- the document gives the entry, so it is what the expansion is held against
      have hKept := agrees_expandPath_child hHome hText hSome hDollar
      rw [Path.agrees, hDocument hText]
      exact hKept.trans (iff_and_self.mpr fun _ => hText)
    · rw [not_agrees_of_not_isText hHome hText hDollar]
      exact ⟨fun h => absurd h Bool.false_ne_true, fun h => absurd h.1 hText⟩

/-- An environment with a user's home directory and name. -/
def userAt (home : String) : Environment where
  bindings := [(Utf8.encode "HOME", Utf8.encode home), (Utf8.encode "USER", Utf8.encode "ann")]
  accountHome := some (.ofString "/root")

theorem isBare_userAt (home : String) : (userAt home).IsBare := by
  intro b hb name hName
  rcases List.mem_cons.mp hb with rfl | hb
  · rw [Utf8.decode?_encode] at hName
    obtain rfl := Option.some.inj hName
    decide
  · obtain rfl := List.mem_singleton.mp hb
    rw [Utf8.decode?_encode] at hName
    obtain rfl := Option.some.inj hName
    decide

theorem get?_userAt (home : String) : (userAt home).get? "HOME" = some (Utf8.encode home) := rfl

/-- A slash behind the user's home directory makes no difference. -/
theorem standard_home_slash :
    ∃ byItself byDocument, loadFrom (userAt "/u/") .empty none = .ok byItself ∧
      loadFrom (userAt "/u/") (fileNamed "kfc.toml" documented) (some (.ofString "kfc.toml")) =
        .ok byDocument ∧
      byItself.agrees byDocument = true := by
  have hAbsent : FileGives .empty none ⟨none, none⟩ := rfl
  have hRead : (fileNamed "kfc.toml" documented).read (.ofString "kfc.toml") =
      .ok (Utf8.encode documented) := rfl
  obtain ⟨byItself, byDocument, hItself, hDocument, -, -, -, -, -, hAgrees⟩ :=
    standard_home (isBare_userAt "/u/") (get?_userAt "/u/") (by decide) hAbsent hRead
  have hComponents : (Path.ofString "/u/").components = [.root, .name (Utf8.encode "u")] := by
    decide +kernel
  refine ⟨byItself, byDocument, hItself, hDocument, (hAgrees (by decide)).mpr ⟨?_, ?_⟩⟩
  · rw [Path.IsText, Utf8.decode?_encode]
    rfl
  · intro c cs hTilde
    cases (List.cons.inj (hComponents.symm.trans hTilde)).1

/-- A reference in the user's home directory is replaced where no file says anything, and it stays
where the file says the same. -/
theorem not_standard_home :
    ∃ byItself byDocument, loadFrom (userAt "/home/$USER") .empty none = .ok byItself ∧
      loadFrom (userAt "/home/$USER") (fileNamed "kfc.toml" documented)
        (some (.ofString "kfc.toml")) = .ok byDocument ∧
      byItself.home = .ofString "/home/ann/.kfc" ∧
      byDocument.home = .ofString "/home/$USER/.kfc" ∧ byItself.agrees byDocument = false := by
  have hFile : FileGives (fileNamed "kfc.toml" documented) (some (.ofString "kfc.toml"))
      ⟨some (.ofString "~/.kfc"), some .warning⟩ :=
    Or.inr ⟨_, documented, rfl, Utf8.decode?_encode documented, parse?_documented⟩
  have hAbsent : FileGives .empty none ⟨none, none⟩ := rfl
  have hItself : expandPath (userAt "/home/$USER") (standardHome (userAt "/home/$USER")) =
      .ofString "/home/ann/.kfc" := by
    decide +kernel
  have hDocument : expandPath (userAt "/home/$USER") (.ofString "~/.kfc") =
      .ofString "/home/$USER/.kfc" := by
    decide +kernel
  refine ⟨_, _, loadFrom_of_isBare (isBare_userAt _) hAbsent,
    loadFrom_of_isBare (isBare_userAt _) hFile, hItself, hDocument, ?_⟩
  show Settings.agrees
    ⟨expandPath (userAt "/home/$USER") (standardHome (userAt "/home/$USER")), .warning⟩
    ⟨expandPath (userAt "/home/$USER") (.ofString "~/.kfc"), .warning⟩ = false
  rw [hItself, hDocument]
  decide +kernel

end Settings

end MarketFeed
