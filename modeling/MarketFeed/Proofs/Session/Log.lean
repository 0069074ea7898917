import MarketFeed.Context.Basic
import MarketFeed.DataService
import MarketFeed.Proofs.FileTree.Children
import MarketFeed.Proofs.Location.Directories

/-!
# The session log

A session begins with a marker in a log of its location.  For the data group there is one such log
below each home directory.

* `mark_frame`         — what beginning a session in any log does to the files.
* `sessionDirectory`   — where that log is.
* `beginSession`       — beginning a session of the data group, told by the files alone.
* `mark_console`       — the runtime log does just that.
* `beginSession_frame` — what it does to the files, whether or not it gets to the end.
* `isDirectory_of_beginSession` — the runtime directory is there afterwards.
-/

namespace MarketFeed

open FileTree

/-! ## Any log -/

theorem Location.bytes_layoutDir_ne_nil (l : Location) (layout : Layout) :
    (l.layoutDir layout).bytes ≠ [] :=
  Path.bytes_join_isName_ne_nil (isName_of_isPart l.mode.isPart_name)

/-- Beginning a session makes the missing directories above the log and adds one marker to it; when
it fails, some of these directories may have been made, and nothing else. -/
theorem RuntimeLog.mark_frame (stamp : Stamp) (l : Location) (label : String) (files : FileTree) :
    let directory := l.layoutDir .log
    let r := mark stamp l label files
    match r.result with
    | .error _ => AddsDirectories (directory :: directory.ancestors) files r.files
    | .ok () => ∃ made,
        AddsDirectories (directory :: directory.ancestors) files made ∧
          made.isDirectory directory = true ∧
          ChangesFile (l.layoutFile .log label) (· ++ Utf8.encode (stamp.marker label))
            made r.files := by
  intro directory r
  have hAdds := createDirectories_adds files directory
  simp only [r, mark]
  rcases hMade : files.createDirectories directory with ⟨e | ⟨⟩, made⟩ <;> rw [hMade] at hAdds
  · exact hAdds
  · dsimp only
    rcases hAppend : made.append (l.layoutFile .log label) (Utf8.encode (stamp.marker label))
      with e | after
    · exact hAdds
    · have hThere := isDirectory_of_createDirectories (l.bytes_layoutDir_ne_nil .log) hMade
      exact ⟨made, hAdds, hThere, update_changes hAppend⟩

/-! ## The log of the data group -/

/-- The directory of the session log below a home directory. -/
def sessionDirectory (home : Path) : Path :=
  (((((home.child "runtime").child "system").child "service").child "console").child
    "log").child "live"

/-- Makes the session log's directory and marks a session in the log itself. -/
def beginSession (stamp : Stamp) (home : Path) (files : FileTree) :
    Except IoError Unit × FileTree :=
  match files.createDirectories (sessionDirectory home) with
  | (.error e, made) => (.error e, made)
  | (.ok (), made) =>
    match made.append ((sessionDirectory home).child "data.log")
      (Utf8.encode (stamp.marker "data")) with
    | .error e => (.error e, made)
    | .ok marked => (.ok (), marked)

/-- The runtime log of the standard program begins a session in just that way. -/
theorem mark_console (stamp : Stamp) (identity : Nat) (home : Path) (level : LogLevel)
    (files : FileTree) :
    let r := RuntimeLog.mark stamp (Site.ofHome identity home level).console dataGroup files
    (r.result, r.files) = beginSession stamp home files := by
  intro r
  -- the directory of the log is the one of the console location, part by part
  have hr : r = match files.createDirectories (sessionDirectory home) with
    | (.error e, made) => ⟨.error e, made, []⟩
    | (.ok (), made) =>
      match made.append ((sessionDirectory home).child "data.log")
        (Utf8.encode (stamp.marker "data")) with
      | .error e => ⟨.error e, made, []⟩
      | .ok marked =>
        ⟨.ok (), marked, [.event (RuntimeLog.ready ((sessionDirectory home).child "data.log"))]⟩ :=
    rfl
  unfold beginSession
  rw [hr]
  rcases files.createDirectories (sessionDirectory home) with ⟨e | ⟨⟩, made⟩
  · rfl
  · dsimp only
    rcases made.append ((sessionDirectory home).child "data.log") _ with e | marked
    · rfl
    · rfl

/-- Beginning a session adds directories on the way to the log, and marks the log if it can. -/
theorem beginSession_frame (stamp : Stamp) (home : Path) (files : FileTree) :
    ∃ made, AddsDirectories (sessionDirectory home :: (sessionDirectory home).ancestors)
        files made ∧
      match beginSession stamp home files with
      | (.error _, after) => after = made
      | (.ok (), after) =>
        made.isDirectory (sessionDirectory home) = true ∧
          ChangesFile ((sessionDirectory home).child "data.log")
            (· ++ Utf8.encode (stamp.marker "data")) made after := by
  -- it is the log of a location, whatever identity and level the site has
  let site := Site.ofHome 0 home .info
  have hFrame := RuntimeLog.mark_frame stamp site.console dataGroup files
  rw [← mark_console stamp 0 home .info files]
  rcases hMark : RuntimeLog.mark stamp site.console dataGroup files with
    ⟨e | ⟨⟩, after, reports⟩ <;> rw [hMark] at hFrame
  · exact ⟨after, hFrame, rfl⟩
  · obtain ⟨made, hAdds, hThere, hChanges⟩ := hFrame
    exact ⟨made, hAdds, hThere, hChanges⟩

/-- Once a session has begun, the runtime directory is there. -/
theorem isDirectory_of_beginSession {stamp : Stamp} {home : Path} {files after : FileTree}
    (hBegun : beginSession stamp home files = (.ok (), after)) :
    after.isDirectory (home.child "runtime") = true := by
  obtain ⟨made, -, hFrame⟩ := beginSession_frame stamp home files
  rw [hBegun] at hFrame
  obtain ⟨hLive, hChanges⟩ := hFrame
  -- the directory of the log lies five names below the runtime directory
  have hLog := isDirectory_of_child "log" "live" (by decide) (by decide) hLive
  have hConsole := isDirectory_of_child "console" "log" (by decide) (by decide) hLog
  have hService := isDirectory_of_child "service" "console" (by decide) (by decide) hConsole
  have hSystem := isDirectory_of_child "system" "service" (by decide) (by decide) hService
  have hRuntime := isDirectory_of_child "runtime" "system" (by decide) (by decide) hSystem
  exact hChanges.extends.isDirectory hRuntime

end MarketFeed
