import Mathlib.Data.List.TakeWhile
import MarketFeed.Proofs.CommandLine.Positions
import MarketFeed.Proofs.Settings.RoundTrip

/-!
# Where a level is read

A level may be given on the command line, by a variable, or in the settings file.  The first two
take any text that is the name of a level once the blanks around it are gone and its letters are
small; the file takes that name alone.

* `trim_blanks`, `lower_trim` — blanks are trimmed as well before as after the letters are made
                     small.
* `FlagSite`       — where a level stands on a command line.
* `VariableSite`   — where a level stands among the variables, without a settings file.
* `FileSite`       — a settings file with a level.
* `levels_agree`   — what a level given there is read as.
-/

namespace MarketFeed

namespace Text

/-! ## Blanks and small letters -/

theorem toNat_toLower (c : Char) :
    c.toLower.toNat = if 65 ≤ c.toNat ∧ c.toNat ≤ 90 then c.toNat + 32 else c.toNat := by
  unfold Char.toLower
  split
  · next hCapital =>
    have hBounds : 65 ≤ c.toNat ∧ c.toNat ≤ 90 := hCapital
    rw [if_pos hBounds]
    show (c.val + 32).toNat = c.val.toNat + 32
    have hBound : c.val.toNat ≤ 90 := hBounds.2
    rw [UInt32.toNat_add]
    refine Nat.mod_eq_of_lt ?_
    show c.val.toNat + 32 < 2 ^ 32
    omega
  · next hOther => exact (if_neg hOther).symm

/-- No letter is a blank, capital or small. -/
theorem isBlank_toLower (c : Char) : isBlank c.toLower = isBlank c := by
  rw [Bool.eq_iff_iff, isBlank, isBlank, CodeRanges.covers_iff, CodeRanges.covers_iff,
    toNat_toLower]
  split
  · next hCapital =>
    simp only [blankRanges, List.mem_cons, List.not_mem_nil, or_false, exists_eq_or_imp,
      exists_eq_left]
    omega
  · rfl

theorem trimChars_map_toLower (cs : List Char) :
    trimChars (cs.map Char.toLower) = (trimChars cs).map Char.toLower := by
  have hDrop : ∀ cs : List Char, (cs.map Char.toLower).dropWhile isBlank =
      (cs.dropWhile isBlank).map Char.toLower := by
    intro cs
    rw [List.dropWhile_map]
    congr 2
    funext c
    exact isBlank_toLower c
  unfold trimChars
  rw [hDrop, ← List.map_reverse, hDrop, ← List.map_reverse]

theorem lower_trim (s : String) : lower (trim s) = trim (lower s) := by
  unfold lower trim
  rw [String.toList_ofList, String.toList_ofList, trimChars_map_toLower]

/-- Blanks at both ends are trimmed. -/
theorem trimChars_blanks {before after : List Char} (cs : List Char)
    (hBefore : ∀ c ∈ before, isBlank c = true) (hAfter : ∀ c ∈ after, isBlank c = true) :
    trimChars (before ++ cs ++ after) = trimChars cs := by
  have hReverse : ∀ c ∈ after.reverse, isBlank c = true := fun c hc =>
    hAfter c (List.mem_reverse.mp hc)
  unfold trimChars
  rw [List.append_assoc, List.dropWhile_append_of_pos hBefore, List.dropWhile_append]
  split
  · next hEmpty =>
    -- the text itself holds blanks alone
    have hNone : after.dropWhile isBlank = [] := List.dropWhile_eq_nil_iff.mpr hAfter
    rw [List.isEmpty_iff.mp hEmpty, hNone]
  · rw [List.reverse_append, List.dropWhile_append_of_pos hReverse]

theorem trim_blanks {before after : List Char} (s : String)
    (hBefore : ∀ c ∈ before, isBlank c = true) (hAfter : ∀ c ∈ after, isBlank c = true) :
    trim (String.ofList before ++ s ++ String.ofList after) = trim s := by
  unfold trim
  rw [String.toList_append, String.toList_append, String.toList_ofList, String.toList_ofList,
    trimChars_blanks s.toList hBefore hAfter]

end Text

/-- The name of a level has no blanks around it, and its letters are small. -/
theorem LogLevel.ofName?_lower_trim {s : String} {level : LogLevel}
    (hName : ofName? s = some level) : ofName? (Text.lower (Text.trim s)) = some level := by
  unfold ofName? at hName
  split at hName
  · next hWarn =>
    rw [hWarn, ← hName]
    decide
  · have hFound := List.find?_some hName
    rw [← beq_iff_eq.mp hFound, ← parse_eq_ok_iff]
    exact parse_name level

namespace Settings

open CommandLine

/-! ## On the command line -/

/-- A place for an option among the words that ask for a request. -/
structure FlagSite where
  registry : Registry
  request : Option Request
  askable : Askable registry request
  position : Nat
  inside : position ≤ (wordsFor request).length

/-- The level that the command line gives with the option there; nothing if it is rejected. -/
def FlagSite.read (site : FlagSite) (s : String) : Option (Option LogLevel) :=
  (Invocation.parse site.registry (("kfc" :: (wordsFor site.request).insertIdx site.position
    ("--log-level=" ++ s)).map Utf8.encode)).toOption.map (·.logLevel)

theorem FlagSite.read_eq (site : FlagSite) (s : String) :
    site.read s = (LogLevel.ofName? (Text.lower (Text.trim s))).map some := by
  unfold read
  rw [List.map_cons, List.map_insertIdx, ← Global.bytes_logLevel,
    parse_insert_option site.askable _ _ site.inside, Global.give_logLevel, Given.levelOf_encode]
  rcases LogLevel.ofName? (Text.lower (Text.trim s)) with _ | level
  · rfl
  · rfl

/-! ## Among the variables -/

/-- A place for a variable in an environment, where there is no settings file.  No variable behind
it has the same name in whatever case. -/
structure VariableSite where
  before : List (Bytes × Bytes)
  after : List (Bytes × Bytes)
  accountHome : Option Path
  files : FileTree
  file : Option Path
  last : ∀ b ∈ after, ∀ name, Utf8.decode? b.1 = some name → Text.caseFold name ≠ "kfc_log_level"
  absent : ∀ path, file = some path → files.exists path = false

namespace VariableSite

/-- The environment with the variable. -/
def environment (site : VariableSite) (s : String) : Environment :=
  ⟨site.before ++ (Utf8.encode "KFC_LOG_LEVEL", Utf8.encode s) :: site.after, site.accountHome⟩

/-- The level of the settings that are loaded with the variable; nothing if they are not. -/
def read (site : VariableSite) (s : String) : Option LogLevel :=
  (loadFrom (site.environment s) site.files site.file).toOption.map (·.logLevel)

theorem setting?_environment (site : VariableSite) (s : String) :
    (site.environment s).setting? "kfc_log_level" = some s := by
  rw [environment, ← List.singleton_append, ← List.append_assoc,
    Environment.setting?_append_of_ne site.last]
  unfold Environment.setting?
  dsimp only
  rw [List.foldl_append, List.foldl_cons, Utf8.decode?_encode, Utf8.decode?_encode]
  dsimp only
  rw [if_pos (by decide)]
  rfl

theorem read_eq (site : VariableSite) (s : String) :
    site.read s = LogLevel.ofName? (Text.lower (Text.trim s)) := by
  have hFile : fromFile site.files site.file = .ok ⟨none, none⟩ := by
    rw [fromFile_eq_ok_iff]
    unfold FileGives
    rcases hPath : site.file with _ | path
    · rfl
    · exact Or.inl ⟨site.absent path hPath, rfl⟩
  unfold read
  rw [loadFrom_eq, hFile]
  unfold environmentLayer LogLevel.parse
  rw [site.setting?_environment]
  dsimp only
  rcases LogLevel.ofName? (Text.lower (Text.trim s)) with _ | level
  · rfl
  · rfl

end VariableSite

/-! ## In the settings file -/

/-- A settings file whose level is a text, in an environment that gives no settings.  Whatever else
is in the file is well-formed. -/
structure FileSite (s : String) where
  environment : Environment
  bare : environment.IsBare
  files : FileTree
  path : Path
  text : String
  fields : Toml.Fields
  home : Option Path
  readable : files.read path = .ok (Utf8.encode text)
  document : Toml.document? text = some fields
  homes : Overlay.home? fields = some home
  level : fields.lookup "log_level" = some (.text s)

namespace FileSite

variable {s : String}

/-- The level of the settings that are loaded with the file; nothing if they are not. -/
def read (site : FileSite s) : Option LogLevel :=
  (loadFrom site.environment site.files (some site.path)).toOption.map (·.logLevel)

theorem parse?_text (site : FileSite s) :
    Overlay.parse? site.text =
      (LogLevel.ofName? s).map fun level => ⟨site.home, some level⟩ := by
  rw [Overlay.parse?, site.document, Option.bind_some, Overlay.ofFields?, site.homes,
    Overlay.logLevel?, site.level]
  dsimp only
  rw [Toml.choice?, Option.bind_some]
  rcases LogLevel.ofName? s with _ | level
  · rfl
  · rfl

theorem layerOf?_text (site : FileSite s) :
    layerOf? (Utf8.encode site.text) =
      (LogLevel.ofName? s).map fun level => ⟨site.home, some level⟩ := by
  rw [layerOf?, Utf8.decode?_encode, Option.bind_some, site.parse?_text]

theorem read_eq (site : FileSite s) : site.read = LogLevel.ofName? s := by
  unfold read
  rcases hName : LogLevel.ofName? s with _ | level
  · -- the text is no layer, and so there are no settings
    have hNone : ¬∃ settings,
        loadFrom site.environment site.files (some site.path) = .ok settings := by
      rw [exists_loadFrom_iff_of_read site.bare site.readable, site.layerOf?_text, hName]
      exact Bool.false_ne_true
    rcases hLoad : loadFrom site.environment site.files (some site.path) with cause | settings
    · rfl
    · exact absurd ⟨settings, hLoad⟩ hNone
  · have hLayer : layerOf? (Utf8.encode site.text) = some ⟨site.home, some level⟩ := by
      rw [site.layerOf?_text, hName]
      rfl
    rw [loadFrom_of_isBare site.bare ((fileGives_iff_of_read site.readable).mpr hLayer)]
    rfl

/-- For every text there is such a file. -/
def ofText (s : String) : FileSite s where
  environment := ⟨[], none⟩
  bare := fun _ hb => absurd hb List.not_mem_nil
  files := fileNamed "kfc.toml" (Toml.line "home" "/srv" ++ Toml.line "log_level" s)
  path := .ofString "kfc.toml"
  text := Toml.line "home" "/srv" ++ Toml.line "log_level" s
  fields := [("home", .text "/srv"), ("log_level", .text s)]
  home := some (.ofString "/srv")
  readable := rfl
  document := Toml.document?_lines "/srv" s
  homes := rfl
  level := rfl

end FileSite

/-! ## All of them -/

/-- A level on the command line is accepted exactly if it is as a variable, and the settings file
accepts what is left of it without the blanks around it and with small letters; all of them read it
as the same level.  So a level of the settings file is read as that level everywhere, and on the
command line and as a variable neither blanks around a level nor the case of its letters matter. -/
theorem levels_agree (s : String) :
    (∀ (flag : FlagSite) (entry : VariableSite), flag.read s = (entry.read s).map some) ∧
    (∀ (flag : FlagSite) (entry : VariableSite) (file : FileSite (Text.lower (Text.trim s))),
      flag.read s = file.read.map some ∧ entry.read s = file.read) ∧
    (∀ (flag : FlagSite) (entry : VariableSite) (file : FileSite s) (level : LogLevel),
      file.read = some level →
        flag.read s = some (some level) ∧ entry.read s = some level) ∧
    (∀ (flag : FlagSite) (entry : VariableSite) (before after : List Char) (t : String),
      (∀ c ∈ before ++ after, Text.isBlank c = true) → Text.lower t = Text.lower s →
        flag.read (String.ofList before ++ t ++ String.ofList after) = flag.read s ∧
        entry.read (String.ofList before ++ t ++ String.ofList after) = entry.read s) := by
  refine ⟨fun flag entry => ?_, fun flag entry file => ?_,
    fun flag entry file level hFile => ?_,
    fun flag entry before after t hBlank hCase => ?_⟩
  · rw [flag.read_eq, entry.read_eq]
  · rw [flag.read_eq, entry.read_eq, file.read_eq]
    exact ⟨rfl, rfl⟩
  · rw [file.read_eq] at hFile
    rw [flag.read_eq, entry.read_eq, LogLevel.ofName?_lower_trim hFile]
    exact ⟨rfl, rfl⟩
  · have hSame : Text.lower (Text.trim (String.ofList before ++ t ++ String.ofList after)) =
        Text.lower (Text.trim s) := by
      rw [Text.trim_blanks t (fun c hc => hBlank c (List.mem_append_left _ hc))
        fun c hc => hBlank c (List.mem_append_right _ hc), Text.lower_trim, hCase, Text.lower_trim]
    rw [flag.read_eq, flag.read_eq, entry.read_eq, entry.read_eq, hSame]
    exact ⟨rfl, rfl⟩

/-- A level with an ideographic space before it and a capital letter is the one of that name. -/
theorem levels_agree_sample :
    let flag : FlagSite := ⟨.builtin, some (.data .list), (fun _ h => nomatch h), 1, by decide⟩
    let entry : VariableSite :=
      ⟨[], [], some (.ofString "/root"), .empty, none, (fun _ hb => nomatch hb),
        (fun _ h => nomatch h)⟩
    flag.read "\u3000Warn" = some (some .warning) ∧ entry.read "\u3000Warn" = some .warning := by
  intro flag entry
  have hBlank : ∀ c ∈ ['\u3000'] ++ [], Text.isBlank c = true := by
    intro c hc
    obtain rfl := List.mem_singleton.mp hc
    rfl
  obtain ⟨-, -, hFile, hBlanks⟩ := levels_agree "warn"
  have hWarn : (FileSite.ofText "warn").read = some .warning := by
    rw [FileSite.read_eq]
    decide
  obtain ⟨hFlag, hEntry⟩ := hFile flag entry (.ofText "warn") .warning hWarn
  obtain ⟨hSameFlag, hSameEntry⟩ := hBlanks flag entry ['\u3000'] [] "Warn" hBlank (by decide)
  exact ⟨hSameFlag.trans hFlag, hSameEntry.trans hEntry⟩

end Settings

end MarketFeed
