import MarketFeed.Proofs.Settings.Layers
import MarketFeed.Proofs.Toml.Lines

/-!
# Settings written and read again

The settings in effect have a document, and the document describes them: read as settings it
gives them back, and so does loading it where the home directory has nothing to replace.

* `Environment.IsBare`  — no variable is one of the program's.
* `exists_loadFrom_iff_of_read` — in such an environment the file alone tells whether there are
                          settings.
* `parse?_toToml`       — the document of settings describes them.
* `toToml_round_trip`   — all of it.
-/

namespace MarketFeed

/-! ## Environments without settings -/

namespace Environment

/-- No variable is one of the program's, in whatever case its name is written. -/
def IsBare (e : Environment) : Prop :=
  ∀ b ∈ e.bindings, ∀ name, Utf8.decode? b.1 = some name →
    ¬"kfc_".toList <+: (Text.caseFold name).toList

theorem setting?_of_isBare {e : Environment} (hBare : e.IsBare) {name : String}
    (hName : "kfc_".toList <+: name.toList) : e.setting? name = none := by
  have hOther : ∀ b ∈ e.bindings, ∀ key, Utf8.decode? b.1 = some key → Text.caseFold key ≠ name :=
    fun b hMem key hKey hSame => hBare b hMem key hKey (hSame ▸ hName)
  show (⟨[] ++ e.bindings, e.accountHome⟩ : Environment).setting? name = none
  rw [setting?_append_of_ne hOther]
  rfl

end Environment

namespace Settings

theorem environmentLayer_of_isBare {e : Environment} (hBare : e.IsBare) :
    environmentLayer e = .ok ⟨none, none⟩ := by
  have hHome : e.setting? "kfc_home" = none := e.setting?_of_isBare hBare (by decide)
  have hLevel : e.setting? "kfc_log_level" = none := e.setting?_of_isBare hBare (by decide)
  unfold environmentLayer
  rw [hHome, hLevel]
  rfl

/-- Where no variable counts, the settings file alone is laid over what holds by itself. -/
theorem loadFrom_of_isBare {e : Environment} (hBare : e.IsBare) {files : FileTree}
    {file : Option Path} {layer : Overlay} (hFile : FileGives files file layer) :
    loadFrom e files file = .ok (((standard e).overlay layer).expand e) := by
  rw [loadFrom_eq, fromFile_eq_ok_iff.mpr hFile, environmentLayer_of_isBare hBare]
  rfl

/-- Where no variable counts, there are settings exactly if the content of the file describes a
layer. -/
theorem exists_loadFrom_iff_of_read {e : Environment} (hBare : e.IsBare) {files : FileTree}
    {file : Path} {content : Bytes} (hRead : files.read file = .ok content) :
    (∃ s, loadFrom e files (some file) = .ok s) ↔ (layerOf? content).isSome = true := by
  rw [Option.isSome_iff_exists]
  constructor
  · rintro ⟨s, hLoad⟩
    rw [loadFrom_eq] at hLoad
    obtain ⟨layer, hFile, -⟩ := bind_eq_ok_iff.mp hLoad
    exact ⟨layer, (fileGives_iff_of_read hRead).mp (fromFile_eq_ok_iff.mp hFile)⟩
  · rintro ⟨layer, hLayer⟩
    exact ⟨_, loadFrom_of_isBare hBare ((fileGives_iff_of_read hRead).mpr hLayer)⟩

/-! ## Settings in effect -/

/-- The settings that a document describes: what it leaves open is as it is without any layer. -/
def parse? (e : Environment) (document : String) : Option Settings :=
  (Overlay.parse? document).map (standard e).overlay

/-- Settings whose home directory is text have a document, and it gives both of them. -/
theorem parse?_toToml {s : Settings} {home : String} (hHome : s.home = .ofString home) :
    ∃ document, s.toToml = .ok document ∧
      Overlay.parse? document = some ⟨some s.home, some s.logLevel⟩ := by
  have hText : s.toToml? =
      some (Toml.line "home" home ++ Toml.line "log_level" s.logLevel.name) := by
    rw [toToml?, hHome, Path.ofString, Utf8.decode?_encode, Option.map_some,
      show "home = " = "home" ++ " = " from rfl,
      show "log_level = " = "log_level" ++ " = " from rfl]
    simp only [Toml.line, String.append_assoc]
  -- of the two fields the level alone is more than text
  have hLevel : Overlay.logLevel? [("home", .text home), ("log_level", .text s.logLevel.name)] =
      some (some s.logLevel) := by
    show ((Toml.choice? (.text s.logLevel.name)).bind LogLevel.ofName?).map some = _
    rw [Toml.choice?, Option.bind_some, LogLevel.ofName?_name, Option.map_some]
  refine ⟨_, by rw [toToml, hText], ?_⟩
  rw [Overlay.parse?, Toml.document?_lines, Option.bind_some, Overlay.ofFields?, hLevel, hHome]
  rfl

/-- The settings in effect have a document.  Read as settings it gives the same home directory and
the same level, and so does loading it from a file, unless there is something to replace in the
home directory. -/
theorem toToml_round_trip {e : Environment} {files : FileTree} {file : Option Path} {s : Settings}
    (hLoad : loadFrom e files file = .ok s) (layers : List Overlay) :
    ∃ document, (layers.foldl (override e) s).toToml = .ok document ∧
      (∀ e', parse? e' document = some (layers.foldl (override e) s)) ∧
      ∀ (e' : Environment) (files' : FileTree) (path : Path),
        '$' ∉ (layers.foldl (override e) s).home.text.toList →
        (layers.foldl (override e) s).home.text.toList.head? ≠ some '~' →
        e'.IsBare → files'.read path = .ok (Utf8.encode document) →
        loadFrom e' files' (some path) = .ok (layers.foldl (override e) s) := by
  obtain ⟨home, hHome⟩ := exists_home_of_load hLoad layers
  generalize layers.foldl (override e) s = final at hHome ⊢
  obtain ⟨document, hDocument, hParse⟩ := parse?_toToml hHome
  refine ⟨document, hDocument, fun e' => ?_, fun e' files' path hDollar hTilde hBare hRead => ?_⟩
  · rw [parse?, hParse]
    rfl
  · have hFile : FileGives files' (some path) ⟨some final.home, some final.logLevel⟩ :=
      Or.inr ⟨_, document, hRead, Utf8.decode?_encode document, hParse⟩
    rw [loadFrom_of_isBare hBare hFile]
    -- nothing in the home directory is replaced, so expanding it changes nothing
    have hPlain : expandPath e' final.home = final.home := by
      rw [expandPath, Expansion.expand_of_plain hDollar hTilde, hHome]
      show Path.ofString (Utf8.lossy (Utf8.encode home)) = _
      rw [Utf8.lossy_encode]
    show Except.ok (⟨expandPath e' final.home, final.logLevel⟩ : Settings) = _
    rw [hPlain]

/-- The tree that holds one file in its root. -/
def fileNamed (name content : String) : FileTree :=
  FileTree.empty.put [] (Utf8.encode name) (.file (Utf8.encode content)) rfl
    fun h => absurd h (by simp [FileTree.node?, nodeAt, FileTree.empty])

/-- A home directory from the command line that is no text, with a quote and a line end in it. -/
theorem toToml_round_trip_sample :
    ∃ s document, loadFrom sample .empty none = .ok s ∧
      ([⟨some ⟨[0xFF, 0x22, 0x0A]⟩, some .debug⟩].foldl (override sample) s).toToml =
        .ok document ∧
      parse? sample document = some ⟨.ofString "\uFFFD\"\n", .debug⟩ ∧
      loadFrom ⟨[], none⟩ (fileNamed "kfc.toml" document)
        (some (.ofString "kfc.toml")) = .ok ⟨.ofString "\uFFFD\"\n", .debug⟩ := by
  have hLoad : loadFrom sample .empty none = .ok ⟨.ofString "/u/feed", .info⟩ := by
    have hHome : expandPath sample (.ofString "$HOME/feed") = .ofString "/u/feed" := by
      decide +kernel
    rw [← hHome]
    rfl
  have hFinal : [⟨some ⟨[0xFF, 0x22, 0x0A]⟩, some .debug⟩].foldl (override sample)
      ⟨.ofString "/u/feed", .info⟩ = ⟨.ofString "\uFFFD\"\n", .debug⟩ := by
    decide +kernel
  have hRead : ∀ content, (fileNamed "kfc.toml" content).read (.ofString "kfc.toml") =
      .ok (Utf8.encode content) := fun content => rfl
  obtain ⟨document, hDocument, hParse, hAgain⟩ :=
    toToml_round_trip hLoad [⟨some ⟨[0xFF, 0x22, 0x0A]⟩, some .debug⟩]
  have hHome : Path.text (.ofString "\uFFFD\"\n") = "\uFFFD\"\n" := Utf8.lossy_encode _
  rw [hFinal] at hDocument hAgain
  refine ⟨_, document, hLoad, by rw [hFinal]; exact hDocument, by rw [hParse, hFinal], ?_⟩
  exact hAgain ⟨[], none⟩ (fileNamed "kfc.toml" document) (.ofString "kfc.toml")
    (by rw [hHome]; decide) (by rw [hHome]; decide) (fun b hb => absurd hb List.not_mem_nil)
    (hRead document)

end Settings

end MarketFeed
