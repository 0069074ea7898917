import MarketFeed.Proofs.Settings.Layers
import MarketFeed.Proofs.Settings.LiteralHome

/-!
# Home directories behind a tilde

A tilde in front of a home directory stands for the home directory of the user, wherever the text
comes from and whatever references follow, as long as each of them has a value.  One reference
without a value is enough to keep the whole text, tilde and all.

* `Piece.HasValue`, `Resolves` — what stands in for a reference is there.
* `fill?_isSome_iff`    — a text can be filled exactly if all its references have values.
* `IsTilde`             — a text is a tilde, or begins with one and a slash.
* `expandChars_of_isTilde` — such a text is the user's home directory and what is filled in behind.
* `GivesHome`           — the home directory that counts, from whichever layer.
* `home_of_givesHome`   — it is expanded once, and that is the home directory in effect.
* `home_of_isTilde`     — the home directory in effect behind a tilde.
-/

namespace MarketFeed

namespace Expansion

variable {lookup : String → Option String}

/-! ## References with values -/

/-- A piece has a value: it is a character, or its variable is set, or it brings a fallback. -/
def Piece.HasValue (lookup : String → Option String) : Piece → Prop
  | .literal _ => True
  | .reference name fallback => (lookup (String.ofList name)).isSome ∨ fallback.isSome

instance (p : Piece) : Decidable (p.HasValue lookup) := by
  cases p <;> unfold Piece.HasValue <;> infer_instance

/-- Every reference in the text has a value. -/
def Resolves (lookup : String → Option String) (cs : List Char) : Prop :=
  ∀ p ∈ pieces cs, p.HasValue lookup

instance (cs : List Char) : Decidable (Resolves lookup cs) :=
  inferInstanceAs (Decidable (∀ p ∈ pieces cs, p.HasValue lookup))

theorem Piece.fill?_isSome_iff {p : Piece} : (p.fill? lookup).isSome ↔ p.HasValue lookup := by
  cases p with
  | literal c => simp [Piece.fill?, Piece.HasValue]
  | reference name fallback =>
    rcases hLookup : lookup (String.ofList name) with _ | value
    · simp [Piece.fill?, Piece.HasValue, hLookup]
    · simp [Piece.fill?, Piece.HasValue, hLookup]

/-- A text can be filled exactly if all its references have values. -/
theorem fill?_isSome_iff {cs : List Char} : (fill? lookup cs).isSome ↔ Resolves lookup cs := by
  rw [fill?, Option.isSome_map, Resolves]
  -- by induction on the pieces, each of which is filled by itself
  induction pieces cs with
  | nil => simp
  | cons p rest ih =>
    rw [List.forall_mem_cons, ← ih, ← Piece.fill?_isSome_iff, List.mapM_cons]
    rcases p.fill? lookup with _ | filled
    · simp
    · rcases rest.mapM (Piece.fill? lookup) with _ | more
      · simp
      · simp

/-- One reference without a value keeps the whole text as it is. -/
theorem expand_of_not_resolves {home : Option String} {s : String}
    (hMissing : ¬Resolves lookup s.toList) : expand lookup home s = s := by
  rw [← fill?_isSome_iff, Option.not_isSome_iff_eq_none] at hMissing
  exact expand_of_missing hMissing

theorem pieces_cons_of_ne {c : Char} (hPlain : c ≠ '$') (rest : List Char) :
    pieces (c :: rest) = .literal c :: pieces rest := by
  rw [pieces]
  all_goals (intros; simp_all)

/-- A character that begins no reference is filled in as it is. -/
theorem fill?_cons_of_ne {c : Char} (hPlain : c ≠ '$') (rest : List Char) :
    fill? lookup (c :: rest) = (fill? lookup rest).map (c :: ·) := by
  rw [fill?, fill?, pieces_cons_of_ne hPlain, List.mapM_cons]
  rcases (pieces rest).mapM (Piece.fill? lookup) with _ | filled
  · rfl
  · rfl

/-! ## Texts behind a tilde -/

/-- The text is a tilde, or begins with a tilde and a slash. -/
def IsTilde (cs : List Char) : Prop := cs = ['~'] ∨ ['~', '/'] <+: cs

instance (cs : List Char) : Decidable (IsTilde cs) := inferInstanceAs (Decidable (_ ∨ _))

theorem expandTilde_none (cs : List Char) : expandTilde none cs = cs := by
  unfold expandTilde
  split <;> simp_all

/-- Only a tilde alone and one before a slash stand for anything. -/
theorem expandTilde_of_not_isTilde {home : Option String} {cs : List Char} (hPlain : ¬IsTilde cs) :
    expandTilde home cs = cs := by
  unfold expandTilde
  split
  · exact absurd (Or.inl rfl) hPlain
  · exact absurd (Or.inr ⟨_, rfl⟩) hPlain
  · rfl

/-- Where all references have values, a text behind a tilde becomes the home directory and what is
filled in behind the tilde. -/
theorem expandChars_of_isTilde {cs : List Char} (hTilde : IsTilde cs)
    (hResolves : Resolves lookup cs) (home : String) :
    ∃ behind, fill? lookup cs = some ('~' :: behind) ∧
      expandChars lookup (some home) cs = home.toList ++ behind := by
  -- neither the tilde nor the slash refers to anything
  rcases hTilde with rfl | ⟨rest, hRest⟩
  · have hFilled : fill? lookup ['~'] = some ['~'] := fill?_of_no_dollar (by decide)
    exact ⟨[], hFilled, by rw [expandChars, hFilled, List.append_nil]; rfl⟩
  · obtain rfl : cs = '~' :: '/' :: rest := hRest.symm
    obtain ⟨filled, hFilled⟩ := Option.isSome_iff_exists.mp (fill?_isSome_iff.mpr hResolves)
    have hSplit := hFilled
    rw [fill?_cons_of_ne (by decide), fill?_cons_of_ne (by decide)] at hSplit
    obtain ⟨behind, hBehind, rfl⟩ := Option.map_eq_some_iff.mp hSplit
    obtain ⟨more, -, rfl⟩ := Option.map_eq_some_iff.mp hBehind
    exact ⟨'/' :: more, hFilled, by simp [expandChars, hFilled, expandTilde]⟩

end Expansion

namespace Environment

/-! ## The user's home directory -/

theorem home?_of_get? {e : Environment} {value : Bytes} (hUser : e.get? "HOME" = some value)
    (hSome : value ≠ []) : e.home? = some ⟨value⟩ := by
  obtain ⟨b, rest, rfl⟩ := List.exists_cons_of_ne_nil hSome
  rw [home?, hUser]

end Environment

namespace Settings

/-! ## The home directory that counts -/

/-- The home directory that counts before it is expanded: the last one from the command line, else
the one of the environment, else the one of the settings file. -/
inductive GivesHome (e : Environment) (files : FileTree) (file : Option Path)
    (layers : List Overlay) : Path → Prop where
  | commandLine {p : Path} (hLast : (layers.filterMap (·.home)).getLast? = some p) :
      GivesHome e files file layers p
  | environment {text : String} (hNone : layers.filterMap (·.home) = [])
      (hSet : e.setting? "kfc_home" = some text) : GivesHome e files file layers (.ofString text)
  | settingsFile {layer : Overlay} {p : Path} (hNone : layers.filterMap (·.home) = [])
      (hUnset : e.setting? "kfc_home" = none) (hFile : FileGives files file layer)
      (hHome : layer.home = some p) : GivesHome e files file layers p

theorem home_of_environmentLayer {e : Environment} {layer : Overlay}
    (hLayer : environmentLayer e = .ok layer) :
    layer.home = (e.setting? "kfc_home").map Path.ofString := by
  unfold environmentLayer at hLayer
  split at hLayer
  · rw [← Except.ok.inj hLayer]
  · split at hLayer
    · rw [← Except.ok.inj hLayer]
    · exact nomatch hLayer

/-- The home directory in effect is the one that counts, expanded once. -/
theorem home_of_givesHome {e : Environment} {files : FileTree} {file : Option Path} {s : Settings}
    {layers : List Overlay} {p : Path} (hLoad : loadFrom e files file = .ok s)
    (hGiven : GivesHome e files file layers p) :
    (layers.foldl (override e) s).home = expandPath e p := by
  rw [loadFrom_eq] at hLoad
  obtain ⟨layer, hFromFile, hNext⟩ := bind_eq_ok_iff.mp hLoad
  obtain ⟨fromVariables, hVariables, hEnd⟩ := bind_eq_ok_iff.mp hNext
  have hLoaded : s.home = expandPath e
      (fromVariables.home.getD (layer.home.getD (standard e).home)) := by
    rw [← Except.ok.inj hEnd]
    rfl
  have hVariable := home_of_environmentLayer hVariables
  rw [foldl_override_home]
  cases hGiven with
  | commandLine hLast =>
    rw [hLast]
    rfl
  | environment hNone hSet =>
    rw [hSet] at hVariable
    rw [hNone, List.getLast?_nil, Option.map_none, Option.getD_none, hLoaded, hVariable]
    rfl
  | settingsFile hNone hUnset hFile hHome =>
    rw [hUnset] at hVariable
    -- there is only one layer that the file gives
    obtain rfl := Except.ok.inj ((fromFile_eq_ok_iff.mpr hFile).symm.trans hFromFile)
    rw [hNone, List.getLast?_nil, Option.map_none, Option.getD_none, hLoaded, hVariable, hHome]
    rfl

/-- A home directory behind a tilde.  If all its references have values, the home directory in
effect begins with that of the user, and what the references stand for follows; if one of them has
none, it is the text that was given, and the tilde stays. -/
theorem home_of_isTilde {e : Environment} {user : String}
    (hUser : e.get? "HOME" = some (Utf8.encode user)) (hSome : user ≠ "") {files : FileTree}
    {file : Option Path} {s : Settings} {layers : List Overlay} {text : String}
    (hTilde : Expansion.IsTilde text.toList)
    (hGiven : GivesHome e files file layers (.ofString text))
    (hLoad : loadFrom e files file = .ok s) :
    let home := (layers.foldl (override e) s).home
    (Expansion.Resolves e.text? text.toList →
      Utf8.encode user <+: home.bytes ∧
      ∃ behind, Expansion.fill? e.text? text.toList = some ('~' :: behind) ∧
        home = .ofString (user ++ String.ofList behind)) ∧
    (¬Expansion.Resolves e.text? text.toList → home = .ofString text) := by
  intro home
  have hHome : e.homeText? = some user := by
    have hBytes : Utf8.encode user ≠ [] := fun hEmpty =>
      hSome (Utf8.encode_injective (s := user) (t := "") hEmpty)
    rw [Environment.homeText?_of_home? (Environment.home?_of_get? hUser hBytes),
      Utf8.decode?_encode]
  have hExpanded : home = .ofString (Expansion.expand e.text? (some user) text) := by
    rw [show home = _ from home_of_givesHome hLoad hGiven, expandPath, hHome, Path.text_ofString]
  refine ⟨fun hResolves => ?_, fun hMissing => ?_⟩
  · obtain ⟨behind, hFilled, hChars⟩ := Expansion.expandChars_of_isTilde hTilde hResolves user
    have hText : Expansion.expand e.text? (some user) text = user ++ String.ofList behind := by
      rw [Expansion.expand, hChars, String.ofList_append, String.ofList_toList]
    rw [hExpanded, hText]
    refine ⟨?_, behind, hFilled, rfl⟩
    rw [Path.ofString, Utf8.encode_append]
    exact List.prefix_append ..
  · rw [hExpanded, Expansion.expand_of_not_resolves hMissing]

/-- An environment with an empty variable, and nothing that says where the data is kept. -/
def sampleUser : Environment where
  bindings := [(Utf8.encode "HOME", Utf8.encode "/u"), (Utf8.encode "FEED", [])]
  accountHome := some (.ofString "/root")

theorem loadFrom_sampleUser :
    loadFrom sampleUser .empty none = .ok ⟨.ofString "/u/.kfc", .warning⟩ := by
  have hHome : expandPath sampleUser (.ofString "/u/.kfc") = .ofString "/u/.kfc" := by
    decide +kernel
  rw [← hHome]
  rfl

/-- References of all kinds behind a tilde: to an empty variable, to one that is not set but has a
fallback, and a dollar sign that refers to nothing. -/
theorem home_of_isTilde_references :
    ∃ s, loadFrom sampleUser .empty none = .ok s ∧
      ([⟨some (.ofString "~/$FEED/${DAY:-~}/$$"), none⟩].foldl (override sampleUser) s).home =
        .ofString "/u//~/$" := by
  have hGiven : GivesHome sampleUser .empty none
      [⟨some (.ofString "~/$FEED/${DAY:-~}/$$"), none⟩] (.ofString "~/$FEED/${DAY:-~}/$$") :=
    .commandLine rfl
  have hUser : sampleUser.get? "HOME" = some (Utf8.encode "/u") := by decide
  have hResolves : Expansion.Resolves sampleUser.text? "~/$FEED/${DAY:-~}/$$".toList := by
    decide +kernel
  have hBehind : Expansion.fill? sampleUser.text? "~/$FEED/${DAY:-~}/$$".toList =
      some "~//~/$".toList := by
    decide +kernel
  obtain ⟨hAll, -⟩ :=
    home_of_isTilde hUser (by decide) (by decide) hGiven loadFrom_sampleUser
  obtain ⟨-, behind, hFilled, hHome⟩ := hAll hResolves
  rw [hFilled] at hBehind
  obtain rfl : behind = "//~/$".toList := (List.cons.inj (Option.some.inj hBehind)).2
  exact ⟨_, loadFrom_sampleUser, hHome⟩

/-- A tilde stays where a reference behind it has no value, even if nothing else is wrong. -/
theorem not_home_of_isTilde :
    ∃ s, loadFrom sampleUser .empty none = .ok s ∧
      let home := ([⟨some (.ofString "~/$DAY"), none⟩].foldl (override sampleUser) s).home
      home = .ofString "~/$DAY" ∧ ¬Utf8.encode "/u" <+: home.bytes := by
  refine ⟨_, loadFrom_sampleUser, ?_⟩
  have hHome : expandPath sampleUser (.ofString "~/$DAY") = .ofString "~/$DAY" := by
    decide +kernel
  refine ⟨hHome, ?_⟩
  show ¬Utf8.encode "/u" <+: (expandPath sampleUser (.ofString "~/$DAY")).bytes
  rw [hHome]
  decide

end Settings

end MarketFeed
