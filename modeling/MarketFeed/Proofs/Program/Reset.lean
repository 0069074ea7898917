import MarketFeed.Proofs.FileTree.Existing
import MarketFeed.Proofs.Program.Status
import MarketFeed.Proofs.Settings.RoundTrip

/-!
# Making the settings file anew

The request that makes the settings file anew is done only if the settings can be loaded first,
and so if the file that is there describes some.

* `createConfig_eq_write` — where the file is there, making it is writing it.
* `createConfig_of_read` — a file that is there can always be made anew.
* `run_reset`            — the whole run, for every content of the file.
* `not_forall_resets`    — not every content is replaced.
-/

namespace MarketFeed

open CommandLine (Invocation)

/-! ## The file -/

theorem isName_settingsFile : Path.IsName (Utf8.encode "kfc.toml") := by decide

section SettingsFile

variable {e : Environment} {file : Path} {files : FileTree} {content : Bytes}

/-- Where the settings file is there, making it anew is writing it: nothing is missing above it. -/
theorem Services.createConfig_eq_write (hFile : e.configFile? = some file) {after : FileTree}
    (hRead : files.read file = .ok content)
    (hWrite : files.write file (Utf8.encode Settings.template) = .ok after) :
    createConfig file true files = (.ok (), after) := by
  obtain ⟨root, -, rfl⟩ := Environment.configFile?_eq_some_iff.mp hFile
  have hDirectoryName : Path.IsName (Utf8.encode "kfc") := by decide
  obtain ⟨a, hResolve, hNode⟩ := FileTree.read_eq_ok_iff.mp hRead
  -- a file stands in a directory
  have hDirectory : files.isDirectory (root.child "kfc") = true :=
    FileTree.isDirectory_of_resolve_join isName_settingsFile
      (Path.bytes_join_isName_ne_nil hDirectoryName) hResolve
  have hAbove : files.createDirectories (root.child "kfc") = (.ok (), files) :=
    FileTree.createDirectories_of_isDirectory hDirectoryName hDirectory
  have hParent : ((root.child "kfc").child "kfc.toml").parent? = some (root.child "kfc") :=
    Path.parent?_join_join hDirectoryName isName_settingsFile
  unfold createConfig writeTemplate createAbove
  rw [if_neg (by simp), hParent]
  dsimp only
  rw [hAbove]
  dsimp only
  rw [hWrite]

/-- The settings file that is there gives way to the template, whatever it holds. -/
theorem Services.createConfig_of_read (hFile : e.configFile? = some file)
    (hRead : files.read file = .ok content) :
    ∃ after, createConfig file true files = (.ok (), after) ∧
      after.read file = .ok (Utf8.encode Settings.template) ∧
      ∃ a, files.resolve file = .ok a ∧ ∀ b, b ≠ a → after.node? b = files.node? b := by
  obtain ⟨root, -, rfl⟩ := Environment.configFile?_eq_some_iff.mp hFile
  obtain ⟨a, hResolve, hNode⟩ := FileTree.read_eq_ok_iff.mp hRead
  obtain ⟨after, hWrite, hAfter, hOthers⟩ :=
    FileTree.write_of_resolve isName_settingsFile hResolve hNode (Utf8.encode Settings.template)
  exact ⟨after, createConfig_eq_write hFile hRead hWrite, hAfter, a, hResolve, hOthers⟩

end SettingsFile

/-! ## The run -/

namespace Program

/-- The words that ask for a new settings file. -/
def resetting : List Bytes := ["kfc", "config", "init", "--force"].map Utf8.encode

theorem parse_resetting : Invocation.parse .builtin resetting =
    .ok ⟨none, none, 0, some (.config (.createFile true))⟩ := by
  rfl

/-- The run ended well, the template is what the file holds now, and nothing else has changed. -/
structure Resets (file : Path) (files : FileTree) (outcome : Outcome) : Prop where
  status : outcome.status.code = 0
  template : outcome.session.files.read file = .ok (Utf8.encode Settings.template)
  others : ∃ a, files.resolve file = .ok a ∧
    ∀ b, b ≠ a → outcome.session.files.node? b = files.node? b

/-- A settings file that describes a layer is made anew.  Any other one ends the run before
anything is done, as it ends all runs. -/
theorem run_reset (stamp : Stamp) {e : Environment} (hBare : e.IsBare) {files : FileTree}
    {file : Path} (hFile : e.configFile? = some file) {content : Bytes}
    (hRead : files.read file = .ok content) :
    ((Settings.layerOf? content).isSome = true →
      Resets file files ((standard stamp e).run resetting files)) ∧
    ((Settings.layerOf? content).isSome = false →
      ((standard stamp e).run resetting files).status.code = 78 ∧
        ((standard stamp e).run resetting files).session.files = files) := by
  have hEnding := run_standard stamp e resetting files
  unfold ending at hEnding
  rw [parse_resetting] at hEnding
  dsimp only at hEnding
  generalize (standard stamp e).run resetting files = outcome at hEnding ⊢
  have hLoads : (∃ settings, Settings.load e files = .ok settings) ↔
      (Settings.layerOf? content).isSome = true := by
    rw [Settings.load, hFile, Settings.exists_loadFrom_iff_of_read hBare hRead]
  rw [← hLoads, ← Bool.not_eq_true, ← hLoads]
  constructor
  · -- with settings the request is done, and what it leads to is known
    rintro ⟨loaded, hLoad⟩
    have hSettings : (standard stamp e).settings
        ⟨none, none, 0, some (.config (.createFile true))⟩ files = .ok loaded :=
      bind_eq_ok_iff.mpr ⟨loaded, hLoad, rfl⟩
    obtain ⟨after, hMade, hAfter, hOthers⟩ := Services.createConfig_of_read hFile hRead
    rw [hSettings] at hEnding
    dsimp only [Services.conclusion] at hEnding
    rw [hFile] at hEnding
    dsimp only at hEnding
    rw [hMade] at hEnding
    obtain ⟨hStatus, rfl⟩ := Prod.mk.inj hEnding
    exact ⟨congrArg ExitStatus.code hStatus, hAfter, hOthers⟩
  · -- without settings nothing is done
    intro hNone
    rcases hSettings : (standard stamp e).settings _ files with cause | settings
    · rw [hSettings] at hEnding
      obtain ⟨hStatus, hFiles⟩ := Prod.mk.inj hEnding
      refine ⟨?_, hFiles⟩
      rw [hStatus, status_settings hSettings]
      rfl
    · obtain ⟨loaded, hLoad, -⟩ := bind_eq_ok_iff.mp hSettings
      exact absurd ⟨loaded, hLoad⟩ hNone

/-- An environment whose settings file is `/kfc/kfc.toml`. -/
def rootSettings : Environment :=
  ⟨[(Utf8.encode "XDG_CONFIG_HOME", Utf8.encode "/")], some (.ofString "/root")⟩

/-- That file. -/
def rootSettingsFile : Path := .ofString "/kfc/kfc.toml"

theorem configFile?_rootSettings : rootSettings.configFile? = some rootSettingsFile := by
  decide +kernel

theorem isBare_rootSettings : rootSettings.IsBare := by
  intro b hb name hName
  obtain rfl := List.mem_singleton.mp hb
  rw [Utf8.decode?_encode] at hName
  obtain rfl := Option.some.inj hName
  decide

/-- The tree that holds that file and its directory. -/
def settingsFile (content : String) : FileTree :=
  let directory :=
    FileTree.empty.put [] (Utf8.encode "kfc") .directory (FileTree.node?_root .empty) fun _ => rfl
  directory.put [Utf8.encode "kfc"] (Utf8.encode "kfc.toml") (.file (Utf8.encode content)) rfl
    fun h => nomatch h

theorem read_settingsFile (content : String) :
    (settingsFile content).read rootSettingsFile = .ok (Utf8.encode content) := rfl

/-- A file with one setting is made anew. -/
theorem run_reset_sample :
    Resets rootSettingsFile (settingsFile "log_level = 'debug'")
      ((standard ⟨"now", "here", "1"⟩ rootSettings).run resetting
        (settingsFile "log_level = 'debug'")) := by
  have hLayer : (Settings.layerOf? (Utf8.encode "log_level = 'debug'")).isSome = true := by
    decide +kernel
  exact (run_reset ⟨"now", "here", "1"⟩ isBare_rootSettings configFile?_rootSettings
    (read_settingsFile _)).1 hLayer

/-- Not every file is made anew: one whose level is none stays, as the settings cannot be
loaded. -/
theorem not_forall_resets :
    ¬∀ (stamp : Stamp) (e : Environment) (files : FileTree) (file : Path) (content : Bytes),
      e.IsText → e.IsBare → e.configFile? = some file → files.read file = .ok content →
        Resets file files ((standard stamp e).run resetting files) := by
  intro hAll
  have hText : rootSettings.IsText := by
    show ∀ b ∈ rootSettings.bindings, _
    decide +kernel
  have hReset := hAll ⟨"now", "here", "1"⟩ rootSettings (settingsFile "log_level = 'loud'") _ _
    hText isBare_rootSettings configFile?_rootSettings (read_settingsFile _)
  have hStatus : ((standard ⟨"now", "here", "1"⟩ rootSettings).run resetting
      (settingsFile "log_level = 'loud'")).status.code = 78 := by
    decide +kernel
  have hOk := hReset.status
  rw [hStatus] at hOk
  exact absurd hOk (by decide)

end Program

end MarketFeed
