import MarketFeed.Proofs.Program.Frame
import MarketFeed.Proofs.Program.Reset

/-!
# Making the settings file

The request for a settings file is refused where something is in its place and no force is used.
Else the file is made, and once it is made neither asking again nor loading it changes anything.

* `refuses_createConfig_iff` — when it is refused.
* `Creates`                — what it leaves when it goes well.
* `createConfig_again`     — doing it once more with force changes nothing.
* `load_of_template`       — the file that is made says nothing about the settings.
* `createFile_life`        — all of this for the request.
-/

namespace MarketFeed

open FileTree (AddsDirectories ChangesFile)

namespace Services

/-! ## One request -/

/-- The request is refused exactly if something is in the place of the file and no force is
used, and then the files stay as they are. -/
theorem refuses_createConfig_iff (file : Path) (force : Bool) (files : FileTree) :
    ((∃ message, createConfig file force files = (.error (.invalidArguments message), files)) ↔
      files.exists file = true ∧ force = false) ∧
    ∀ message, (createConfig file force files).1 = .error (.invalidArguments message) →
      files.exists file = true ∧ force = false := by
  have hOnly : ∀ message, (createConfig file force files).1 = .error (.invalidArguments message) →
      files.exists file = true ∧ force = false := by
    intro message hError
    unfold createConfig at hError
    split at hError
    · next hKept => simpa using hKept
    · obtain ⟨context, fault, hCause⟩ := error_writeTemplate hError
      exact nomatch hCause
  refine ⟨⟨?_, ?_⟩, hOnly⟩
  · rintro ⟨message, hRefused⟩
    exact hOnly message (congrArg Prod.fst hRefused)
  · rintro ⟨hThere, rfl⟩
    unfold createConfig
    rw [hThere, if_pos (by rfl)]
    exact ⟨_, rfl⟩

/-- Any other failure is one with the files. -/
theorem error_createConfig {file : Path} {force : Bool} {files : FileTree} {cause : CommandError}
    (hError : (createConfig file force files).1 = .error cause) :
    (∃ message, cause = .invalidArguments message) ∨
      ∃ context fault, cause = .ofIo context fault := by
  unfold createConfig at hError
  split at hError
  · exact Or.inl ⟨_, (Except.error.inj hError).symm⟩
  · exact Or.inr (error_writeTemplate hError)

/-- The tree `after` is `before` with the bytes as the content of the file, and with the missing
directories above it. -/
structure Creates (file : Path) (content : Bytes) (before after : FileTree) : Prop where
  working : after.working = before.working
  read : after.read file = .ok content
  others : ∃ a, after.resolve file = .ok a ∧ ∀ b ≠ a,
    (∀ node, before.node? b = some node → after.node? b = some node) ∧
    (∀ node, before.node? b = none → after.node? b = some node →
      node = .directory ∧ ∃ p ∈ file.ancestors, after.resolve p = .ok b)

theorem creates_of_changes {file : Path} {content : Bytes} {before made after : FileTree}
    (hAdds : AddsDirectories file.ancestors before made)
    (hChanges : ChangesFile file (fun _ => content) made after) :
    Creates file content before after := by
  have hGrown := hChanges.extends
  obtain ⟨hWorking, a, old, hResolve, -, hNodes⟩ := hChanges
  refine ⟨hWorking.trans hAdds.working, ?_, a, hResolve, fun b hb => ⟨?_, ?_⟩⟩
  · exact FileTree.read_eq_ok_iff.mpr ⟨a, hResolve, by rw [hNodes, if_pos rfl]⟩
  · intro node hBefore
    rw [hNodes, if_neg hb]
    exact hAdds.kept hBefore
  · intro node hFree hAfter
    rw [hNodes, if_neg hb] at hAfter
    obtain ⟨hDirectory, p, hMem, hLeads⟩ := hAdds.added hFree hAfter
    exact ⟨hDirectory, p, hMem, hGrown.resolve hLeads⟩

/-- A file that was made can be made again, which changes nothing at all. -/
theorem createConfig_again {e : Environment} {file : Path} (hFile : e.configFile? = some file)
    {force : Bool} {files after : FileTree}
    (hMade : createConfig file force files = (.ok (), after)) :
    createConfig file true after = (.ok (), after) := by
  -- it was made by writing it last of all
  have hWritten : ∃ made, FileTree.write made file (Utf8.encode Settings.template) =
      .ok after := by
    unfold createConfig at hMade
    split at hMade
    · exact nomatch (Prod.mk.inj hMade).1
    · unfold writeTemplate at hMade
      split at hMade
      · exact nomatch (Prod.mk.inj hMade).1
      · next made _ =>
        split at hMade
        · exact nomatch (Prod.mk.inj hMade).1
        · next hWrite =>
          obtain ⟨-, rfl⟩ := Prod.mk.inj hMade
          exact ⟨made, hWrite⟩
  obtain ⟨made, hWrite⟩ := hWritten
  have hChanges : ChangesFile file (fun _ => Utf8.encode Settings.template) made after :=
    FileTree.update_changes hWrite
  have hRead : after.read file = .ok (Utf8.encode Settings.template) :=
    (creates_of_changes (.refl _ made) hChanges).read
  have hAgain : after.write file (Utf8.encode Settings.template) = .ok after := by
    obtain ⟨root, -, rfl⟩ := Environment.configFile?_eq_some_iff.mp hFile
    exact FileTree.write_write (p := root.child "kfc") isName_settingsFile hWrite
  exact createConfig_eq_write hFile hRead hAgain

end Services

namespace Settings

set_option maxRecDepth 4000 in
/-- All lines of the template are comments or empty, so that only their ends are tokens. -/
theorem tokens?_template :
    Toml.tokens? template.toList = some (.replicate 13 .newline) := by
  -- the characters are taken from the literal at once, not decoded one by one
  have hChars : template.toList = _ := String.toList_ofList
  rw [hChars]
  decide +kernel

/-- The template gives no setting. -/
theorem parse?_template : Overlay.parse? template = some ⟨none, none⟩ := by
  have hDocument : Toml.document? template = some [] := by
    rw [Toml.document?, tokens?_template]
    rfl
  rw [Overlay.parse?, hDocument]
  rfl

/-- The file that is made says nothing about the settings, so that they are what they are without
it. -/
theorem load_of_template {e : Environment} {file : Path} (hFile : e.configFile? = some file)
    {files : FileTree} (hRead : files.read file = .ok (Utf8.encode template)) :
    load e files = loadFrom e files none := by
  have hLayer : layerOf? (Utf8.encode template) = some ⟨none, none⟩ := by
    rw [layerOf?, Utf8.decode?_encode, Option.bind_some, parse?_template]
  have hSame : fromFile files (some file) = fromFile files none :=
    fileLayer_eq_ok_iff.mpr ((fileGives_iff_of_read hRead).mpr hLayer)
  rw [load, hFile, loadFrom_eq, loadFrom_eq, hSame]

end Settings

namespace Services

/-! ## The life of the file -/

/-- The life of the settings file.  Where nobody knows its place, the request for it fails and
changes nothing.  Otherwise it is refused, without a change, exactly if something is in its place
and no force is used; any other failure is one with the files and leaves at most new directories
above it.  Where it goes well the file holds the template, all else is as it was but for such
directories, and the settings are those without any file.  Whoever asks again is refused without
force, and with force nothing changes. -/
theorem createFile_life (services : Services) (force : Bool) (s : Session) :
    let e := services.environment
    let r := (services.perform (some (.config (.createFile force)))).result s
    -- without a known place
    (e.configFile? = none →
      r.1 = .error (.usage "cannot determine config directory") ∧ r.2.files = s.files) ∧
    ∀ file, e.configFile? = some file →
      -- refused
      ((∃ message, r.1 = .error (.invalidArguments message) ∧ r.2.files = s.files) ↔
        s.files.exists file = true ∧ force = false) ∧
      (∀ message, r.1 = .error (.invalidArguments message) → r.2.files = s.files) ∧
      -- failed
      (∀ cause, r.1 = .error cause → (∃ message, cause = .invalidArguments message) ∨
        (∃ context fault, cause = .ofIo context fault) ∧
          AddsDirectories file.ancestors s.files r.2.files) ∧
      -- done
      (r.1 = .ok () →
        Creates file (Utf8.encode Settings.template) s.files r.2.files ∧
        Settings.load e r.2.files = Settings.loadFrom e r.2.files none ∧
        ∀ (later : Services) (t : Session), later.environment = e → t.files = r.2.files →
          let again (force : Bool) := (later.perform (some (.config (.createFile force)))).result t
          (∃ message, (again false).1 = .error (.invalidArguments message) ∧
            (again false).2.files = r.2.files) ∧
          (again true).1 = .ok () ∧ (again true).2.files = r.2.files) := by
  intro e r
  refine ⟨fun hNone => result_createFile_of_none services hNone force s, fun file hFile => ?_⟩
  obtain ⟨hResult, hFiles⟩ := result_createFile services hFile force s
  obtain ⟨hRefuses, hOnly⟩ := refuses_createConfig_iff file force s.files
  have hSame : ∀ message, r.1 = .error (.invalidArguments message) → r.2.files = s.files := by
    intro message hError
    obtain ⟨other, hRefused⟩ := hRefuses.mpr (hOnly message (hResult.symm.trans hError))
    exact hFiles.trans (congrArg Prod.snd hRefused)
  obtain ⟨made, hAdds, hFrame⟩ := createConfig_frame hFile force s.files
  refine ⟨⟨?_, ?_⟩, hSame, ?_, ?_⟩
  · rintro ⟨message, hError, -⟩
    exact hOnly message (hResult.symm.trans hError)
  · intro hThere
    obtain ⟨message, hRefused⟩ := hRefuses.mpr hThere
    exact ⟨message, hResult.trans (congrArg Prod.fst hRefused),
      hFiles.trans (congrArg Prod.snd hRefused)⟩
  · intro cause hError
    refine (error_createConfig (hResult.symm.trans hError)).imp_right fun hIo => ⟨hIo, ?_⟩
    rcases hMade : createConfig file force s.files with ⟨other | ⟨⟩, after⟩
    · rw [hMade] at hFrame
      rw [show r.2.files = after from hFiles.trans (congrArg Prod.snd hMade)]
      obtain rfl : after = made := hFrame
      exact hAdds
    · exact nomatch (hError.symm.trans hResult).trans (congrArg Prod.fst hMade)
  · intro hOk
    have hMade : createConfig file force s.files = (.ok (), r.2.files) :=
      Prod.ext (hResult.symm.trans hOk) hFiles.symm
    rw [hMade] at hFrame
    have hCreates : Creates file (Utf8.encode Settings.template) s.files r.2.files :=
      creates_of_changes hAdds hFrame
    refine ⟨hCreates, Settings.load_of_template hFile hCreates.read, ?_⟩
    intro later t hSettings hTree again
    -- the second request finds the file of the first one
    have hAgain : ∀ force : Bool, (again force).1 = (createConfig file force r.2.files).1 ∧
        (again force).2.files = (createConfig file force r.2.files).2 := by
      intro force
      have h := result_createFile later (hSettings ▸ hFile) force t
      rwa [hTree] at h
    have hThere : r.2.files.exists file = true := FileTree.exists_of_read hCreates.read
    constructor
    · obtain ⟨message, hRefused⟩ :=
        (refuses_createConfig_iff file false r.2.files).1.mpr ⟨hThere, rfl⟩
      obtain ⟨hResult, hFiles⟩ := hAgain false
      rw [hRefused] at hResult hFiles
      exact ⟨message, hResult, hFiles⟩
    · obtain ⟨hResult, hFiles⟩ := hAgain true
      rw [createConfig_again hFile hMade] at hResult hFiles
      exact ⟨hResult, hFiles⟩

/-- Where there are no files at all the settings file is made with its directory, and asking again
is refused. -/
theorem createFile_life_empty :
    let e := Program.rootSettings
    let services : Services := ⟨.standard e, e, .builtin, .recording⟩
    let r := (services.perform (some (.config (.createFile false)))).result (.begin .empty)
    r.1 = .ok () ∧ r.2.files.read Program.rootSettingsFile = .ok (Utf8.encode Settings.template) ∧
      Settings.load e r.2.files = Settings.loadFrom e r.2.files none ∧
      ((services.perform (some (.config (.createFile false)))).result r.2).2.files = r.2.files := by
  intro e services r
  obtain ⟨-, hKnown⟩ := createFile_life services false (.begin .empty)
  obtain ⟨-, -, -, hDone⟩ := hKnown _ Program.configFile?_rootSettings
  have hOk : r.1 = .ok () := by rfl
  -- from here on the outcome is not looked into again
  have hr : (services.perform (some (.config (.createFile false)))).result (.begin .empty) = r :=
    rfl
  rw [hr] at hDone
  clear_value r
  obtain ⟨hCreates, hLoad, hAgain⟩ := hDone hOk
  obtain ⟨⟨message, -, hSame⟩, -⟩ := hAgain services r.2 rfl rfl
  exact ⟨hOk, hCreates.read, hLoad, hSame⟩

end Services

end MarketFeed
