import MarketFeed.CommandError
import MarketFeed.Proofs.Result
import MarketFeed.Settings.Load

/-!
# Layers of settings

Each of the two settings is what the last layer says that says anything about it, and a layer
that cannot be read is an error whatever the layers above it say.

* `Environment.last?`   — the value of the last variable of a name, if it is text.
* `setting?_eq_last?`   — where no other spelling is used, a setting is that value.
* `FileGives`           — the layer that a settings file gives, if it gives one.
* `fileGives_iff_of_read` — for a file that can be read, what its content describes.
* `loadFrom_eq_ok_iff`  — the settings of a file and an environment.
* `error_loadFrom`      — where there are none, the error is always of the same kind.
* `foldl_override_home`, `foldl_override_logLevel` — the settings under layers from the command
                          line.
* `exists_home_of_load` — the home directory in effect is text, wherever it came from.
* `layers_decide`       — all layers together.
-/

namespace MarketFeed

/-! ## Variables -/

namespace Environment

/-- The value of the last variable of that name, if it is text. -/
def last? (e : Environment) (name : String) : Option String :=
  (e.bindings.reverse.lookup (Utf8.encode name)).bind Utf8.decode?

/-- All names and values are text. -/
def IsText (e : Environment) : Prop :=
  ∀ b ∈ e.bindings, (Utf8.decode? b.1).isSome ∧ (Utf8.decode? b.2).isSome

/-- No variable has the name up to case but the one of exactly that name. -/
def SpelledOnly (e : Environment) (folded name : String) : Prop :=
  ∀ b ∈ e.bindings, ∀ other, Utf8.decode? b.1 = some other → Text.caseFold other = folded →
    other = name

/-- A fold that takes the values of one key and passes over all else ends with the last of them. -/
private theorem foldl_eq_last (key : Bytes) (value : Bytes → Option String)
    {step : Option String → Bytes × Bytes → Option String} {bindings : List (Bytes × Bytes)}
    (hTaken : ∀ b ∈ bindings, b.1 = key → (value b.2).isSome ∧ ∀ found, step found b = value b.2)
    (hPassed : ∀ b ∈ bindings, b.1 ≠ key → ∀ found, step found b = found)
    (found : Option String) :
    bindings.foldl step found = ((bindings.reverse.lookup key).bind value).or found := by
  -- by induction on the bindings, for whatever was found before them
  induction bindings generalizing found with
  | nil => rfl
  | cons b rest ih =>
    have hRest := ih (fun c hc => hTaken c (List.mem_cons_of_mem _ hc))
      (fun c hc => hPassed c (List.mem_cons_of_mem _ hc)) (step found b)
    rw [List.foldl_cons, hRest, List.reverse_cons, List.lookup_append]
    rcases hLater : rest.reverse.lookup key with _ | later
    · -- nothing later has the key, so this one decides
      rw [Option.none_or]
      by_cases hKey : b.1 = key
      · obtain ⟨hSome, hStep⟩ := hTaken b List.mem_cons_self hKey
        obtain ⟨text, hText⟩ := Option.isSome_iff_exists.mp hSome
        rw [hStep, ← hKey, hText]
        show _ = Option.or (([(b.1, b.2)].lookup b.1).bind value) found
        rw [List.lookup_cons_self]
        show some text = Option.or (value b.2) found
        rw [hText]
        rfl
      · rw [hPassed b List.mem_cons_self hKey]
        have hOther : (key == b.1) = false := by simpa using fun h => hKey h.symm
        show _ = Option.or (([(b.1, b.2)].lookup key).bind value) found
        rw [List.lookup_cons, hOther]
        rfl
    · -- something later has the key, and what was found before does not matter
      obtain ⟨before, after, hSplit, -⟩ := List.lookup_eq_some_iff.mp hLater
      have hMem : (key, later) ∈ rest := by
        rw [← List.mem_reverse, hSplit]
        simp
      obtain ⟨hSome, -⟩ := hTaken (key, later) (List.mem_cons_of_mem _ hMem) rfl
      obtain ⟨text, hText⟩ := Option.isSome_iff_exists.mp hSome
      show Option.or (value later) _ = Option.or (value later) found
      rw [show value later = some text from hText]
      rfl

/-- Variables of other names behind the rest change no setting. -/
theorem setting?_append_of_ne {front behind : List (Bytes × Bytes)} {accountHome : Option Path}
    {name : String} (hOther : ∀ b ∈ behind, ∀ key, Utf8.decode? b.1 = some key →
      Text.caseFold key ≠ name) :
    (⟨front ++ behind, accountHome⟩ : Environment).setting? name =
      (⟨front, accountHome⟩ : Environment).setting? name := by
  unfold setting?
  dsimp only
  rw [List.foldl_append]
  -- by induction on the variables behind, none of which is taken
  induction behind with
  | nil => rfl
  | cons b rest ih =>
    have hRest := ih fun c hc => hOther c (List.mem_cons_of_mem b hc)
    rw [List.foldl_cons]
    rcases hKey : Utf8.decode? b.1 with _ | key
    · simpa [hKey] using hRest
    rcases hValue : Utf8.decode? b.2 with _ | value
    · simpa [hKey, hValue] using hRest
    have hNe := hOther b List.mem_cons_self key hKey
    simpa [hKey, hValue, hNe] using hRest

/-- Where no other spelling is used, a setting is the value of the variable of its name. -/
theorem setting?_eq_last? {e : Environment} {folded name : String} (hText : e.IsText)
    (hFolded : Text.caseFold name = folded) (hOnly : e.SpelledOnly folded name) :
    e.setting? folded = e.last? name := by
  unfold setting? last?
  refine (foldl_eq_last (Utf8.encode name) Utf8.decode? ?_ ?_ none).trans
    (Option.or_none)
  · intro b hb hKey
    obtain ⟨text, hValue⟩ := Option.isSome_iff_exists.mp (hText b hb).2
    refine ⟨(hText b hb).2, fun found => ?_⟩
    dsimp only
    rw [hKey, Utf8.decode?_encode, hValue]
    exact if_pos hFolded
  · -- any other name has another key once it is folded
    intro b hb hKey found
    obtain ⟨other, hName⟩ := Option.isSome_iff_exists.mp (hText b hb).1
    obtain ⟨text, hValue⟩ := Option.isSome_iff_exists.mp (hText b hb).2
    dsimp only
    rw [hName, hValue]
    refine if_neg fun hSame => hKey ?_
    rw [← hOnly b hb other hName hSame, Utf8.encode_of_decode? hName]

end Environment

/-- A file that can be read is there. -/
theorem FileTree.exists_of_read {t : FileTree} {p : Path} {content : Bytes}
    (hRead : t.read p = .ok content) : t.exists p = true := by
  unfold read at hRead
  unfold FileTree.exists
  split at hRead
  · next hFound => rw [hFound]
  · exact nomatch hRead
  · exact nomatch hRead

namespace Settings

/-! ## Loading -/

/-- The layer that a settings file gives: nothing if there is no file, and what it describes if it
is a text that describes a layer.  No other file gives any. -/
def FileGives (files : FileTree) (file : Option Path) (layer : Overlay) : Prop :=
  match file with
  | none => layer = ⟨none, none⟩
  | some file =>
    (files.exists file = false ∧ layer = ⟨none, none⟩) ∨
      ∃ content text, files.read file = .ok content ∧ Utf8.decode? content = some text ∧
        Overlay.parse? text = some layer

/-- The level that the environment gives: none if the variable is not set, and what it names if
it names one.  No other variable gives any. -/
def LevelGiven (e : Environment) (level : Option LogLevel) : Prop :=
  match e.last? "KFC_LOG_LEVEL" with
  | none => level = none
  | some text => ∃ named, LogLevel.parse text = .ok named ∧ level = some named

/-- The home directory that the environment gives. -/
def homeGiven (e : Environment) : Option Path := (e.last? "KFC_HOME").map Path.ofString

theorem fileLayer_eq_ok_iff {files : FileTree} {file : Path} {layer : Overlay} :
    fileLayer files file = .ok layer ↔ FileGives files (some file) layer := by
  unfold fileLayer FileGives FileTree.readText
  constructor
  · intro hLayer
    split at hLayer
    · split at hLayer
      · exact nomatch hLayer
      · next text hText =>
        split at hLayer
        · next parsed hParse =>
          obtain rfl := Except.ok.inj hLayer
          split at hText
          · exact nomatch hText
          · next content hRead =>
            split at hText
            · next decoded hDecode =>
              obtain rfl := Except.ok.inj hText
              exact Or.inr ⟨content, _, hRead, hDecode, hParse⟩
            · exact nomatch hText
        · exact nomatch hLayer
    · next hMissing => exact Or.inl ⟨by simpa using hMissing, (Except.ok.inj hLayer).symm⟩
  · -- the two ways in which a file gives a layer
    rintro (⟨hMissing, rfl⟩ | ⟨content, text, hRead, hDecode, hParse⟩)
    · rw [hMissing]
      rfl
    · rw [FileTree.exists_of_read hRead, if_pos rfl, hRead]
      dsimp only
      rw [hDecode]
      dsimp only
      rw [hParse]

/-- The layer that the content of a settings file describes. -/
def layerOf? (content : Bytes) : Option Overlay := (Utf8.decode? content).bind Overlay.parse?

/-- A file that can be read gives the layer that its content describes, and no other. -/
theorem fileGives_iff_of_read {files : FileTree} {file : Path} {content : Bytes}
    (hRead : files.read file = .ok content) {layer : Overlay} :
    FileGives files (some file) layer ↔ layerOf? content = some layer := by
  unfold layerOf?
  rw [Option.bind_eq_some_iff]
  constructor
  · rintro (⟨hMissing, -⟩ | ⟨other, text, hOther, hDecode, hParse⟩)
    · rw [FileTree.exists_of_read hRead] at hMissing
      exact nomatch hMissing
    · rw [hRead] at hOther
      obtain rfl := Except.ok.inj hOther
      exact ⟨text, hDecode, hParse⟩
  · rintro ⟨text, hDecode, hParse⟩
    exact Or.inr ⟨content, text, hRead, hDecode, hParse⟩

theorem error_fileLayer {files : FileTree} {file : Path} {cause : ServiceError}
    (hError : fileLayer files file = .error cause) : ∃ message, cause = .config message := by
  unfold fileLayer at hError
  split at hError
  · split at hError
    · exact ⟨_, (Except.error.inj hError).symm⟩
    · split at hError
      · exact nomatch hError
      · exact ⟨_, (Except.error.inj hError).symm⟩
  · exact nomatch hError

theorem error_environmentLayer {e : Environment} {cause : ServiceError}
    (hError : environmentLayer e = .error cause) : ∃ message, cause = .config message := by
  unfold environmentLayer at hError
  split at hError
  · exact nomatch hError
  · split at hError
    · exact nomatch hError
    · exact ⟨_, (Except.error.inj hError).symm⟩

/-- What the layer of the settings file comes to, where there may be no such file. -/
def fromFile (files : FileTree) (file : Option Path) : Except ServiceError Overlay :=
  match file with
  | none => .ok ⟨none, none⟩
  | some file => fileLayer files file

theorem fromFile_eq_ok_iff {files : FileTree} {file : Option Path} {layer : Overlay} :
    fromFile files file = .ok layer ↔ FileGives files file layer := by
  rcases file with _ | file
  · exact ⟨fun h => (Except.ok.inj h).symm, fun h => congrArg Except.ok (Eq.symm h)⟩
  · exact fileLayer_eq_ok_iff

theorem loadFrom_eq (e : Environment) (files : FileTree) (file : Option Path) :
    loadFrom e files file = (fromFile files file >>= fun layer =>
      environmentLayer e >>= fun fromVariables =>
        .ok ((((standard e).overlay layer).overlay fromVariables).expand e)) := by
  rcases file with _ | file
  · rfl
  · rfl

/-- Settings that cannot be loaded are an error of their own kind. -/
theorem error_loadFrom {e : Environment} {files : FileTree} {file : Option Path}
    {cause : ServiceError} (hError : loadFrom e files file = .error cause) :
    ∃ message, cause = .config message := by
  rw [loadFrom_eq] at hError
  -- one of the two layers is what cannot be read
  rcases bind_eq_error_iff.mp hError with hFile | ⟨layer, -, hNext⟩
  · rcases file with _ | file
    · exact nomatch hFile
    · exact error_fileLayer hFile
  · rcases bind_eq_error_iff.mp hNext with hVariables | ⟨fromVariables, -, hEnd⟩
    · exact error_environmentLayer hVariables
    · exact nomatch hEnd

/-- The environment is spelled as the program expects: all of it is text, and no variable is
named like one of the two that count but in another case. -/
structure IsPlain (e : Environment) : Prop where
  text : e.IsText
  home : e.SpelledOnly "kfc_home" "KFC_HOME"
  logLevel : e.SpelledOnly "kfc_log_level" "KFC_LOG_LEVEL"

theorem environmentLayer_eq_ok_iff {e : Environment} (hPlain : IsPlain e) {layer : Overlay} :
    environmentLayer e = .ok layer ↔
      layer.home = homeGiven e ∧ LevelGiven e layer.logLevel := by
  have hHome := Environment.setting?_eq_last? hPlain.text (by decide) hPlain.home
  have hLevel := Environment.setting?_eq_last? hPlain.text (by decide) hPlain.logLevel
  unfold environmentLayer homeGiven LevelGiven
  rw [hHome, hLevel]
  -- only the level can be wrong: any text is a home directory
  rcases layer with ⟨home, level⟩
  rcases e.last? "KFC_LOG_LEVEL" with _ | text
  · simp [eq_comm]
  · dsimp only
    rcases LogLevel.parse text with cause | named
    · simp
    · simp [eq_comm]

/-- The settings of a file and an environment: the environment counts before the file, and the
home directory is expanded. -/
theorem loadFrom_eq_ok_iff {e : Environment} (hPlain : IsPlain e) {files : FileTree}
    {file : Option Path} {s : Settings} :
    loadFrom e files file = .ok s ↔
      ∃ layer level, FileGives files file layer ∧ LevelGiven e level ∧
        s = ⟨expandPath e (((homeGiven e).or layer.home).getD (standardHome e)),
          (level.or layer.logLevel).getD .warning⟩ := by
  rw [loadFrom_eq]
  constructor
  · intro hLoad
    obtain ⟨layer, hFile, hNext⟩ := bind_eq_ok_iff.mp hLoad
    obtain ⟨fromVariables, hVariables, hEnd⟩ := bind_eq_ok_iff.mp hNext
    obtain ⟨hHome, hLevel⟩ := (environmentLayer_eq_ok_iff hPlain).mp hVariables
    refine ⟨layer, fromVariables.logLevel, fromFile_eq_ok_iff.mp hFile, hLevel, ?_⟩
    -- one layer over another is the first of the two values that is there
    rw [← Except.ok.inj hEnd, ← hHome, Option.getD_or, Option.getD_or]
    rfl
  · rintro ⟨layer, level, hFile, hLevel, rfl⟩
    refine bind_eq_ok_iff.mpr ⟨layer, fromFile_eq_ok_iff.mpr hFile, ?_⟩
    refine bind_eq_ok_iff.mpr ⟨⟨homeGiven e, level⟩, ?_, ?_⟩
    · exact (environmentLayer_eq_ok_iff hPlain).mpr ⟨rfl, hLevel⟩
    · rw [Option.getD_or, Option.getD_or]
      rfl

/-! ## Layers from the command line -/

theorem foldl_override_logLevel (e : Environment) (layers : List Overlay) (s : Settings) :
    (layers.foldl (override e) s).logLevel =
      (layers.filterMap (·.logLevel)).getLast?.getD s.logLevel := by
  -- by induction on the layers, for whatever settings they are laid over
  induction layers generalizing s with
  | nil => rfl
  | cons layer rest ih =>
    rw [List.foldl_cons, ih, logLevel_override, List.filterMap_cons]
    rcases layer.logLevel with _ | level
    · rfl
    · rw [List.getLast?_cons]
      rfl

/-- Of the home directories given on the command line the last one counts, expanded once. -/
theorem foldl_override_home (e : Environment) (layers : List Overlay) (s : Settings) :
    (layers.foldl (override e) s).home =
      ((layers.filterMap (·.home)).getLast?.map (expandPath e)).getD s.home := by
  induction layers generalizing s with
  | nil => rfl
  | cons layer rest ih =>
    rw [List.foldl_cons, ih, List.filterMap_cons]
    -- a home directory is expanded when it is laid over, and never again
    unfold override
    rcases layer with ⟨_ | home, level⟩
    · rfl
    · dsimp only
      rw [List.getLast?_cons]
      generalize (rest.filterMap (·.home)).getLast? = last
      rcases last with _ | last
      · rfl
      · rfl

/-- The home directory in effect is text: it was expanded last of all, and that makes text of
whatever there was. -/
theorem exists_home_of_load {e : Environment} {files : FileTree} {file : Option Path}
    {s : Settings} (hLoad : loadFrom e files file = .ok s) (layers : List Overlay) :
    ∃ home, (layers.foldl (override e) s).home = .ofString home := by
  rw [foldl_override_home]
  generalize (layers.filterMap (·.home)).getLast? = last
  rcases last with _ | last
  · rw [loadFrom_eq] at hLoad
    obtain ⟨layer, -, hNext⟩ := bind_eq_ok_iff.mp hLoad
    obtain ⟨fromVariables, -, hEnd⟩ := bind_eq_ok_iff.mp hNext
    rw [← Except.ok.inj hEnd]
    exact ⟨_, rfl⟩
  · exact ⟨_, rfl⟩

/-- Settings are there exactly if the file and the level of the environment can be read, whatever
the command line says, and each of the two is then what the last layer that gives it says. -/
theorem layers_decide {e : Environment} (hPlain : IsPlain e) (files : FileTree)
    (file : Option Path) :
    ((∃ s, loadFrom e files file = .ok s) ↔
      (∃ layer, FileGives files file layer) ∧ ∃ level, LevelGiven e level) ∧
    (∀ cause, loadFrom e files file = .error cause →
      (∃ message, cause = .config message) ∧ cause.status.code = 78) ∧
    (∀ s layer level (layers : List Overlay), loadFrom e files file = .ok s →
      FileGives files file layer → LevelGiven e level →
      (layers.foldl (override e) s).logLevel =
        (((layers.filterMap (·.logLevel)).getLast?.or level).or layer.logLevel).getD .warning ∧
      (layers.foldl (override e) s).home =
        expandPath e ((((layers.filterMap (·.home)).getLast?.or (homeGiven e)).or
          layer.home).getD (standardHome e))) := by
  refine ⟨⟨?_, ?_⟩, ?_, ?_⟩
  · rintro ⟨s, hLoad⟩
    obtain ⟨layer, level, hFile, hLevel, -⟩ := (loadFrom_eq_ok_iff hPlain).mp hLoad
    exact ⟨⟨layer, hFile⟩, level, hLevel⟩
  · rintro ⟨⟨layer, hFile⟩, level, hLevel⟩
    exact ⟨_, (loadFrom_eq_ok_iff hPlain).mpr ⟨layer, level, hFile, hLevel, rfl⟩⟩
  · intro cause hError
    obtain ⟨message, rfl⟩ := error_loadFrom hError
    exact ⟨⟨message, rfl⟩, rfl⟩
  · intro s layer level layers hLoad hFile hLevel
    -- the settings are known from their layers, and the others are laid over them
    have hSame := (loadFrom_eq_ok_iff hPlain).mpr ⟨layer, level, hFile, hLevel, rfl⟩
    rw [hLoad] at hSame
    obtain rfl := Except.ok.inj hSame
    rw [foldl_override_logLevel, foldl_override_home]
    refine ⟨?_, ?_⟩
    · rw [Option.or_assoc]
      exact Option.getD_or.symm
    · rw [Option.or_assoc]
      generalize (layers.filterMap (·.home)).getLast? = last
      rcases last with _ | last
      · rfl
      · rfl

/-- Where no home directory is known there is no file of the settings either, and the tilde of the
home directory without any layer stays. -/
example : (load ⟨[], none⟩ .empty).toOption = some ⟨.ofString "~/.kfc", .warning⟩ := by
  decide +kernel

/-- An environment with a home directory that refers to a variable, and a level between blanks. -/
def sample : Environment where
  bindings := [("HOME", "/u"), ("KFC_HOME", "$HOME/feed"), ("KFC_LOG_LEVEL", " INFO ")].map
    fun (name, value) => (Utf8.encode name, Utf8.encode value)
  accountHome := some (.ofString "/root")

theorem isPlain_sample : IsPlain sample := by
  -- it is enough to look at the three names
  have hName : ∀ b ∈ sample.bindings, ∀ other, Utf8.decode? b.1 = some other →
      other ∈ ["HOME", "KFC_HOME", "KFC_LOG_LEVEL"] := by
    intro b hb other hOther
    obtain ⟨⟨name, value⟩, hMem, rfl⟩ := List.mem_map.mp hb
    rw [Utf8.decode?_encode] at hOther
    obtain rfl := Option.some.inj hOther
    exact List.mem_map_of_mem (f := Prod.fst) hMem
  have hHome : ∀ other ∈ ["HOME", "KFC_HOME", "KFC_LOG_LEVEL"],
      Text.caseFold other = "kfc_home" → other = "KFC_HOME" := by decide
  have hLevel : ∀ other ∈ ["HOME", "KFC_HOME", "KFC_LOG_LEVEL"],
      Text.caseFold other = "kfc_log_level" → other = "KFC_LOG_LEVEL" := by decide
  refine ⟨?_, ?_, ?_⟩
  · show ∀ b ∈ sample.bindings, _
    decide +kernel
  · exact fun b hb other hOther => hHome other (hName b hb other hOther)
  · exact fun b hb other hOther => hLevel other (hName b hb other hOther)

/-- A level from the command line goes with a home directory from the environment. -/
theorem layers_decide_sample :
    ∃ s, loadFrom sample .empty none = .ok s ∧
      ([⟨none, some .debug⟩].foldl (override sample) s).logLevel = .debug ∧
      ([⟨none, some .debug⟩].foldl (override sample) s).home = .ofString "/u/feed" := by
  have hFile : FileGives .empty none ⟨none, none⟩ := rfl
  have hLast : sample.last? "KFC_LOG_LEVEL" = some " INFO " := by decide +kernel
  have hLevel : LevelGiven sample (some .info) := by
    unfold LevelGiven
    rw [hLast]
    exact ⟨.info, LogLevel.parse_eq_ok_iff.mpr (by decide +kernel), rfl⟩
  obtain ⟨hLoaded, -, hFinal⟩ := layers_decide isPlain_sample .empty none
  obtain ⟨s, hLoad⟩ := hLoaded.mpr ⟨⟨_, hFile⟩, _, hLevel⟩
  obtain ⟨hEnd, hHome⟩ := hFinal s _ _ [⟨none, some .debug⟩] hLoad hFile hLevel
  have hGiven : expandPath sample (((([] : List Path).getLast?.or (homeGiven sample)).or
      none).getD (standardHome sample)) = .ofString "/u/feed" := by decide +kernel
  exact ⟨s, hLoad, hEnd, hHome.trans hGiven⟩

end Settings

end MarketFeed
