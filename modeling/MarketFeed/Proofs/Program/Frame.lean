import MarketFeed.Proofs.Program.Outcome

/-!
# What runs leave alone

A run adds directories and changes at most one file: the session log, which only grows, or the
file of the settings.  So whatever stands in the files stands there after any number of runs.

* `Program.Frame`     — what one run may do to the files.
* `frame_run`         — every run of the standard program does no more.
* `Launch`, `leave`   — runs one after the other, each with an environment of its own.
* `frame_of_launches` — all of this for any number of runs, in any environments.
-/

namespace MarketFeed

open CommandLine (Invocation)
open FileTree (AddsDirectories ChangesFile)

/-! ## One run -/

/-- Making the file of the settings adds directories above it, and makes it or leaves it. -/
theorem Services.createConfig_frame {e : Environment} {file : Path}
    (hFile : e.configFile? = some file) (force : Bool) (files : FileTree) :
    ∃ made, AddsDirectories file.ancestors files made ∧
      match Services.createConfig file force files with
      | (.error _, after) => after = made
      | (.ok (), after) =>
        ChangesFile file (fun _ => Utf8.encode Settings.template) made after := by
  obtain ⟨root, -, rfl⟩ := Environment.configFile?_eq_some_iff.mp hFile
  have hName : Path.IsName (Utf8.encode "kfc.toml") := by decide
  obtain ⟨directory, hParent⟩ :
      ∃ directory, ((root.child "kfc").child "kfc.toml").parent? = some directory :=
    Path.parent?_join_isName_isSome (root.child "kfc") hName
  have hAdds := FileTree.createDirectories_adds files directory
  -- the directory that is made is the first of the ancestors
  rw [Path.ancestors_of_parent? hParent]
  unfold createConfig
  by_cases hKept : (files.exists ((root.child "kfc").child "kfc.toml") && !force) = true
  · rw [if_pos hKept]
    exact ⟨files, .refl _ files, rfl⟩
  · rw [if_neg hKept]
    unfold writeTemplate createAbove
    rw [hParent]
    dsimp only
    -- without its directory the file is not even tried
    rcases hMade : files.createDirectories directory with ⟨cause | ⟨⟩, made⟩ <;>
      rw [hMade] at hAdds
    · exact ⟨made, hAdds, rfl⟩
    · refine ⟨made, hAdds, ?_⟩
      dsimp only
      rcases hWrite : made.write _ (Utf8.encode Settings.template) with cause | after
      · rfl
      · exact FileTree.update_changes hWrite

namespace Program

/-- What one run may do to the files: nothing, unless it is for the data group or makes the file
of the settings where its place is known; then directories may be added and one file may change. -/
def Frame (stamp : Stamp) (e : Environment) (args : List Bytes) (files after : FileTree) : Prop :=
  match Invocation.parse .builtin args with
  | .error _ => after = files
  | .ok invocation =>
    match (standard stamp e).settings invocation files with
    | .error _ => after = files
    | .ok settings =>
      match invocation.request with
      | some (.data _) =>
        let site := Site.ofHome 0 settings.home settings.logLevel
        let directory := sessionDirectory settings.home
        ∃ made, AddsDirectories (directory :: directory.ancestors) files made ∧
          match (RuntimeLog.mark stamp site.console dataGroup files).result with
          | .error _ => after = made
          | .ok () =>
            ChangesFile (directory.child "data.log")
              (· ++ Utf8.encode (stamp.marker "data")) made after
      | some (.config (.createFile _)) =>
        match e.configFile? with
        | none => after = files
        | some file =>
          ∃ made, AddsDirectories file.ancestors files made ∧
            (after = made ∨
              ChangesFile file (fun _ => Utf8.encode Settings.template) made after)
      | _ => after = files

/-- Every run of the standard program stays in its frame. -/
theorem frame_run (stamp : Stamp) (e : Environment) (args : List Bytes) (files : FileTree) :
    Frame stamp e args files ((standard stamp e).run args files).session.files := by
  have hRun := congrArg Prod.snd (run_standard stamp e args files)
  dsimp only at hRun
  rw [hRun]
  unfold Frame ending
  rcases Invocation.parse .builtin args with rejection | invocation
  · rfl
  dsimp only
  rcases (standard stamp e).settings invocation files with cause | settings
  · rfl
  dsimp only
  rcases invocation.request with _ | request | request | shell
  · rfl
  · obtain ⟨made, hAdds, hChanges⟩ := beginSession_frame stamp settings.home files
    refine ⟨made, hAdds, ?_⟩
    -- the identity of a site is no matter of its log
    have hMark := mark_console stamp 0 settings.home settings.logLevel files
    unfold Services.conclusion
    dsimp only at hMark ⊢
    rw [← hMark] at hChanges ⊢
    rcases hEnd : (RuntimeLog.mark stamp _ dataGroup files).result with cause | ⟨⟩ <;>
      rw [hEnd] at hChanges
    · exact hChanges
    · exact hChanges.2
  · cases request with
    | showSettings => rfl
    | locateFile => rfl
    | createFile force =>
      unfold Services.conclusion
      dsimp only
      rcases hFile : e.configFile? with _ | file
      · rfl
      · obtain ⟨made, hAdds, hChanges⟩ := Services.createConfig_frame hFile force files
        refine ⟨made, hAdds, ?_⟩
        dsimp only
        rcases hCreate : Services.createConfig file force files with ⟨cause | ⟨⟩, after⟩ <;>
          rw [hCreate] at hChanges
        · exact Or.inl hChanges
        · exact Or.inr hChanges
  · rfl

end Program

/-! ## Runs one after the other -/

/-- A run to come: when and where it happens, in which environment and directory, and with which
arguments. -/
structure Launch where
  stamp : Stamp
  environment : Environment
  working : Address
  args : List Bytes

namespace Launch

/-- The files that a launch leaves. -/
def leave (l : Launch) (files : FileTree) : FileTree :=
  ((Program.standard l.stamp l.environment).run l.args (files.enter l.working)).session.files

/-- The launch is one for the data group, and the session log is at the address. -/
def Marks (l : Launch) (a : Address) (files : FileTree) : Prop :=
  ∃ invocation settings request,
    Invocation.parse .builtin l.args = .ok invocation ∧
    (Program.standard l.stamp l.environment).settings invocation (files.enter l.working) =
      .ok settings ∧
    invocation.request = some (.data request) ∧
    (l.leave files).resolve ((sessionDirectory settings.home).child "data.log") = .ok a

/-- The launch is one that makes the file of the settings, and that file is at the address. -/
def Configures (l : Launch) (a : Address) (files : FileTree) : Prop :=
  ∃ invocation force file,
    Invocation.parse .builtin l.args = .ok invocation ∧
    invocation.request = some (.config (.createFile force)) ∧
    l.environment.configFile? = some file ∧ (l.leave files).resolve file = .ok a

/-- Session logs have the name that they are given. -/
theorem getLast?_of_marks {l : Launch} {a : Address} {files : FileTree} (h : l.Marks a files) :
    a.getLast? = some (Utf8.encode "data.log") := by
  obtain ⟨-, settings, -, -, -, -, hResolve⟩ := h
  obtain ⟨b, -, -, -, rfl⟩ := FileTree.resolve_join_isName (by decide) hResolve
  exact List.getLast?_concat

theorem getLast?_of_configures {l : Launch} {a : Address} {files : FileTree}
    (h : l.Configures a files) : a.getLast? = some (Utf8.encode "kfc.toml") := by
  obtain ⟨-, -, file, -, -, hFile, hResolve⟩ := h
  obtain ⟨root, -, rfl⟩ := Environment.configFile?_eq_some_iff.mp hFile
  obtain ⟨b, -, -, -, rfl⟩ := FileTree.resolve_join_isName (by decide) hResolve
  exact List.getLast?_concat

/-- What the file at an address is after a launch, by what the launch does there. -/
def Follows (l : Launch) (a : Address) (files : FileTree) (old new : Bytes) : Prop :=
  new = old ∨ (l.Marks a files ∧ old <+: new) ∨ l.Configures a files

/-- What a launch keeps of the files: directories, and files up to what it does to them.  The only
files that it makes are those that it is known to work on. -/
structure Keeps (l : Launch) (files after : FileTree) : Prop where
  directory : ∀ {a}, files.node? a = some .directory → after.node? a = some .directory
  file : ∀ {a old}, files.node? a = some (.file old) →
    ∃ new, after.node? a = some (.file new) ∧ l.Follows a files old new
  made : ∀ {a new}, files.node? a = none → after.node? a = some (.file new) →
    l.Marks a files ∨ l.Configures a files

theorem keeps_of_adds {l : Launch} {files after : FileTree} {paths : List Path}
    (hAdds : AddsDirectories paths (files.enter l.working) after) : l.Keeps files after := by
  refine ⟨fun h => hAdds.kept h, fun h => ⟨_, hAdds.kept h, Or.inl rfl⟩, fun hNone hNew => ?_⟩
  obtain ⟨hDirectory, -⟩ := hAdds.added hNone hNew
  exact nomatch hDirectory

theorem keeps_of_changes {l : Launch} {files made : FileTree} {p : Path}
    {change : Bytes → Bytes} {paths : List Path}
    (hAdds : AddsDirectories paths (files.enter l.working) made)
    (hChanges : ChangesFile p change made (l.leave files))
    (hWorks : ∀ {a}, (l.leave files).resolve p = .ok a →
      (∀ old, l.Follows a files old (change old)) ∧ (l.Marks a files ∨ l.Configures a files)) :
    l.Keeps files (l.leave files) := by
  have hExtends := hAdds.extends.trans hChanges.extends
  obtain ⟨-, b, content, hResolve, hContent, hNodes⟩ := hChanges
  refine ⟨fun h => hExtends.directory h, fun {a old} h => ?_, fun {a new} hNone hNew => ?_⟩
  · have hKept : made.node? a = some (.file old) := hAdds.kept h
    rw [hNodes]
    split
    · -- the path of the change leads to this very file
      next hSame =>
      subst hSame
      rw [hKept] at hContent
      obtain rfl : old = content := by simpa using hContent
      exact ⟨_, rfl, (hWorks hResolve).1 old⟩
    · exact ⟨old, hKept, Or.inl rfl⟩
  · rw [hNodes] at hNew
    split at hNew
    · next hSame =>
      subst hSame
      exact (hWorks hResolve).2
    · -- whatever else is new is a directory
      obtain ⟨hDirectory, -⟩ := hAdds.added hNone hNew
      exact nomatch hDirectory

/-- One launch keeps what was there. -/
theorem keeps_leave (l : Launch) (files : FileTree) : l.Keeps files (l.leave files) := by
  have hSame : l.leave files = files.enter l.working → l.Keeps files (l.leave files) := by
    intro hLeave
    rw [hLeave]
    exact keeps_of_adds (.refl [] _)
  have hFrame : Program.Frame l.stamp l.environment l.args (files.enter l.working)
    (l.leave files) := Program.frame_run ..
  -- whatever ends the run before its request leaves the files as they are
  unfold Program.Frame at hFrame
  rcases hParse : Invocation.parse .builtin l.args with rejection | invocation <;>
    rw [hParse] at hFrame
  · exact hSame hFrame
  dsimp only at hFrame
  rcases hSettings : (Program.standard l.stamp l.environment).settings invocation
    (files.enter l.working) with cause | settings <;> rw [hSettings] at hFrame
  · exact hSame hFrame
  dsimp only at hFrame
  rcases hRequest : invocation.request with _ | request | request | shell <;>
    rw [hRequest] at hFrame
  · exact hSame hFrame
  · obtain ⟨made, hAdds, hEnd⟩ := hFrame
    split at hEnd
    · rw [hEnd]
      exact keeps_of_adds hAdds
    · refine keeps_of_changes hAdds hEnd fun {a} hResolve => ?_
      -- the log is where this launch, by its own settings, looks for it
      have hMarks : l.Marks a files :=
        ⟨invocation, settings, request, hParse, hSettings, hRequest, hResolve⟩
      exact ⟨fun _ => Or.inr (Or.inl ⟨hMarks, List.prefix_append _ _⟩), Or.inl hMarks⟩
  · cases request with
    | showSettings => exact hSame hFrame
    | locateFile => exact hSame hFrame
    | createFile force =>
      dsimp only at hFrame
      rcases hFile : l.environment.configFile? with _ | file <;> rw [hFile] at hFrame
      · exact hSame hFrame
      · obtain ⟨made, hAdds, hEnd | hEnd⟩ := hFrame
        · rw [hEnd]
          exact keeps_of_adds hAdds
        · refine keeps_of_changes hAdds hEnd fun {a} hResolve => ?_
          have hConfigures : l.Configures a files :=
            ⟨invocation, force, file, hParse, hRequest, hFile, hResolve⟩
          exact ⟨fun _ => Or.inr (Or.inr hConfigures), Or.inr hConfigures⟩
  · exact hSame hFrame

/-- The files that launches leave, one after the other. -/
def leaveAll : List Launch → FileTree → FileTree
  | [], files => files
  | l :: rest, files => leaveAll rest (l.leave files)

/-- This is so of one of the launches and the files that it meets. -/
def Sometime (P : Launch → FileTree → Prop) : List Launch → FileTree → Prop
  | [], _ => False
  | l :: rest, files => P l files ∨ Sometime P rest (l.leave files)

theorem of_sometime {P : Launch → FileTree → Prop} {c : Prop} (hP : ∀ {l files}, P l files → c)
    {launches : List Launch} {files : FileTree} (h : Sometime P launches files) : c := by
  induction launches generalizing files with
  | nil => exact h.elim
  | cons l rest ih =>
    rcases h with hFirst | hRest
    · exact hP hFirst
    · exact ih hRest

/-- No launch ever finds the session log where another finds the file of the settings. -/
theorem not_sometime_configures {launches : List Launch} {files : FileTree} {a : Address}
    (hMarks : Sometime (·.Marks a) launches files) :
    ¬ Sometime (·.Configures a) launches files := by
  intro hConfigures
  have hLog : a.getLast? = some (Utf8.encode "data.log") := of_sometime getLast?_of_marks hMarks
  have hFile : a.getLast? = some (Utf8.encode "kfc.toml") :=
    of_sometime getLast?_of_configures hConfigures
  rw [hLog] at hFile
  exact absurd hFile (by decide)

theorem directory_leaveAll {launches : List Launch} {files : FileTree} {a : Address}
    (hDirectory : files.node? a = some .directory) :
    (leaveAll launches files).node? a = some .directory := by
  -- by induction on the launches, each of which keeps directories
  induction launches generalizing files with
  | nil => exact hDirectory
  | cons l rest ih => exact ih ((l.keeps_leave files).directory hDirectory)

/-- A file stays a file; it only grows unless it is that of the settings, and nothing happens to
it unless it is that or a session log. -/
theorem file_leaveAll {launches : List Launch} {files : FileTree} {a : Address} {old : Bytes}
    (hFile : files.node? a = some (.file old)) :
    ∃ new, (leaveAll launches files).node? a = some (.file new) ∧
      (¬ Sometime (·.Configures a) launches files → old <+: new) ∧
      (¬ Sometime (·.Marks a) launches files → ¬ Sometime (·.Configures a) launches files →
        new = old) := by
  -- by induction on the launches, for whatever files and content are there by then
  induction launches generalizing files old with
  | nil => exact ⟨old, hFile, fun _ => List.prefix_refl old, fun _ _ => rfl⟩
  | cons l rest ih =>
    obtain ⟨mid, hMid, hFollows⟩ := (l.keeps_leave files).file hFile
    obtain ⟨new, hNew, hGrows, hSame⟩ := ih hMid
    refine ⟨new, hNew, fun hNever => ?_, fun hUnmarked hNever => ?_⟩
    · have hFirst : old <+: mid := by
        rcases hFollows with rfl | ⟨-, hPrefix⟩ | hConfigures
        · exact List.prefix_refl _
        · exact hPrefix
        · exact absurd (Or.inl hConfigures) hNever
      exact hFirst.trans (hGrows fun h => hNever (Or.inr h))
    · rw [hSame (fun h => hUnmarked (Or.inr h)) fun h => hNever (Or.inr h)]
      rcases hFollows with rfl | ⟨hMarks, -⟩ | hConfigures
      · rfl
      · exact absurd (Or.inl hMarks) hUnmarked
      · exact absurd (Or.inl hConfigures) hNever

/-- A file that was not there is a session log or that of the settings. -/
theorem made_leaveAll {launches : List Launch} {files : FileTree} {a : Address} {new : Bytes}
    (hNone : files.node? a = none) (hNew : (leaveAll launches files).node? a = some (.file new)) :
    Sometime (·.Marks a) launches files ∨ Sometime (·.Configures a) launches files := by
  -- by induction on the launches: whichever makes the file works on it
  induction launches generalizing files with
  | nil =>
    rw [leaveAll, hNone] at hNew
    exact nomatch hNew
  | cons l rest ih =>
    rcases hFirst : (l.leave files).node? a with _ | _ | content
    · exact (ih hFirst hNew).imp Or.inr Or.inr
    · -- a directory would have stayed one
      rw [leaveAll, directory_leaveAll hFirst] at hNew
      exact nomatch hNew
    · exact ((l.keeps_leave files).made hNone hFirst).imp Or.inl Or.inl

end Launch

/-- Each run stays in its frame, and so no number of runs takes anything away: directories stay,
files stay, session logs only grow, and no other file comes or changes but that of the settings. -/
theorem frame_of_launches :
    (∀ stamp e args files, Program.Frame stamp e args files
      ((Program.standard stamp e).run args files).session.files) ∧
    ∀ launches files a,
      (files.node? a = some .directory →
        (Launch.leaveAll launches files).node? a = some .directory) ∧
      (∀ old, files.node? a = some (.file old) →
        ∃ new, (Launch.leaveAll launches files).node? a = some (.file new) ∧
          (¬ Launch.Sometime (·.Configures a) launches files → old <+: new) ∧
          (¬ Launch.Sometime (·.Marks a) launches files →
            ¬ Launch.Sometime (·.Configures a) launches files → new = old)) ∧
      (∀ new, files.node? a = none →
        (Launch.leaveAll launches files).node? a = some (.file new) →
        Launch.Sometime (·.Marks a) launches files ∨
          Launch.Sometime (·.Configures a) launches files) ∧
      (Launch.Sometime (·.Marks a) launches files →
        ¬ Launch.Sometime (·.Configures a) launches files) := by
  refine ⟨Program.frame_run, fun launches files a => ⟨?_, ?_, ?_, ?_⟩⟩
  · exact Launch.directory_leaveAll
  · exact fun old => Launch.file_leaveAll
  · exact fun new => Launch.made_leaveAll
  · exact Launch.not_sometime_configures

/-- A launch without variables that lists the sources. -/
def Launch.listing (time : String) : Launch :=
  ⟨⟨time, "here", "1"⟩, ⟨[], some (.ofString "/root")⟩, [],
    ["kfc", "data", "list"].map Utf8.encode⟩

example :
    ((Launch.leaveAll [.listing "one", .listing "two"] .empty).read
      (.ofString "/root/.kfc/runtime/system/service/console/log/live/data.log")).toOption =
        some (Utf8.encode ("[one] session start label=data host=here pid=1\n" ++
          "[two] session start label=data host=here pid=1\n")) := by
  decide +kernel

end MarketFeed
