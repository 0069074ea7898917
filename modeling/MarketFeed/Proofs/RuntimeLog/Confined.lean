import MarketFeed.Proofs.Location.Addresses
import MarketFeed.Proofs.Session.Log
import MarketFeed.Proofs.Session.Running

/-!
# Where session logs are written

The name of a layout file is joined to the path of its directory as it is.  Without a separator it
names an entry of that directory, and beginning a session writes nowhere else; with one it does not.

* `WritesWithin`                — whatever came or changed lies on the way to a directory, or is
                                  the one entry of it that has a given name.
* `writesWithin_mark`           — beginning a session, for a label without a separator.
* `layoutFile_confined`         — which names stay inside, and what follows for root contexts.
* `layoutFile_escapes`          — a name that does not.
-/

namespace MarketFeed

open FileTree (AddsDirectories ChangesFile Extends)

/-! ## Entries of a directory -/

/-- A file name stays an entry of the layout directory exactly if it holds no separator. -/
theorem Location.components_layoutFile_iff (l : Location) (layout : Layout) (name : String) :
    (l.layoutFile layout name).components = (l.layoutDir layout).components ++
        [.name (Utf8.encode (name ++ "." ++ layout.name))] ↔ '/' ∉ name.toList := by
  constructor
  · intro hComponents hSlash
    have hMem : Path.Component.name (Utf8.encode (name ++ "." ++ layout.name)) ∈
        (l.layoutFile layout name).components := by
      rw [hComponents]
      simp
    -- the separator would stand in the name of a single entry
    refine (Path.isName_of_mem_components hMem).2.1 (Path.slash_mem_encode_iff.mpr ?_)
    rw [String.toList_append, String.toList_append]
    exact List.mem_append_left _ (List.mem_append_left _ hSlash)
  · exact fun hName => Path.components_join_name (isName_layoutFile hName layout)

/-! ## Changes within a directory -/

namespace FileTree

variable {t u made : FileTree} {directory : Path} {name : Bytes}

/-- The tree `u` is `t` but for directories on the way to a directory, that one included, and for
the entry of it that has the given name, which is a file. -/
structure WritesWithin (directory : Path) (name : Bytes) (t u : FileTree) : Prop where
  grown : Extends t u
  within : ∀ a, u.node? a ≠ t.node? a →
    (t.node? a = none ∧ u.node? a = some .directory ∧
      ∃ p ∈ directory :: directory.ancestors, u.resolve p = .ok a) ∨
    ∃ d content, u.resolve directory = .ok d ∧ u.node? d = some .directory ∧
      a = d ++ [name] ∧ u.node? a = some (.file content)

/-- What is new where directories were added is a directory that one of the paths names. -/
theorem AddsDirectories.of_ne {paths : List Path} (h : AddsDirectories paths t u) {a : Address}
    (hNe : u.node? a ≠ t.node? a) :
    t.node? a = none ∧ u.node? a = some .directory ∧ ∃ p ∈ paths, u.resolve p = .ok a := by
  rcases hBefore : t.node? a with _ | node
  · obtain ⟨node, hAfter⟩ : ∃ node, u.node? a = some node :=
      Option.ne_none_iff_exists'.mp (by rwa [hBefore] at hNe)
    obtain ⟨rfl, hNamed⟩ := h.added hBefore hAfter
    exact ⟨rfl, hAfter, hNamed⟩
  · exact absurd ((h.kept hBefore).trans hBefore.symm) hNe

theorem AddsDirectories.writesWithin (h : AddsDirectories (directory :: directory.ancestors) t u) :
    WritesWithin directory name t u :=
  ⟨h.extends, fun _ hNe => Or.inl (h.of_ne hNe)⟩

/-- Directories on the way are added first, and then one file in the directory changes. -/
theorem ChangesFile.writesWithin {change : Bytes → Bytes} (hName : Path.IsName name)
    (hBytes : directory.bytes ≠ [])
    (hAdds : AddsDirectories (directory :: directory.ancestors) t made)
    (hChanges : ChangesFile (directory.join ⟨name⟩) change made u) :
    WritesWithin directory name t u := by
  have hGrown := hChanges.extends
  obtain ⟨-, file, old, hResolve, -, hNodes⟩ := hChanges
  refine ⟨hAdds.extends.trans hGrown, fun a hNe => ?_⟩
  by_cases hFile : a = file
  · subst hFile
    obtain ⟨d, hDirectory, hThere, hAddress⟩ := resolve_of_resolve_join hName hBytes hResolve
    exact Or.inr ⟨d, change old, hDirectory, hThere, hAddress, by rw [hNodes, if_pos rfl]⟩
  · have hSame : u.node? a = made.node? a := by rw [hNodes, if_neg hFile]
    rw [hSame] at hNe
    obtain ⟨hFree, hDirectory, p, hMem, hLeads⟩ := hAdds.of_ne hNe
    exact Or.inl ⟨hFree, hSame.trans hDirectory, p, hMem, hGrown.resolve hLeads⟩

end FileTree

open FileTree (WritesWithin)

/-! ## Beginning a session -/

/-- For a label without a separator, beginning a session writes within the log directory, whether
or not it succeeds. -/
theorem RuntimeLog.writesWithin_mark (stamp : Stamp) (l : Location) {label : String}
    (hLabel : '/' ∉ label.toList) (files : FileTree) :
    WritesWithin (l.layoutDir .log) (Utf8.encode (label ++ ".log")) files
      (mark stamp l label files).files := by
  have hName : Path.IsName (Utf8.encode (label ++ ".log")) := by
    have h := Location.isName_layoutFile hLabel .log
    rwa [String.append_assoc] at h
  have hFile : l.layoutFile .log label =
      (l.layoutDir .log).join ⟨Utf8.encode (label ++ ".log")⟩ := by
    rw [Location.layoutFile, String.append_assoc]
    rfl
  have hFrame := mark_frame stamp l label files
  dsimp only at hFrame
  rcases hEnd : (mark stamp l label files).result with e | ⟨⟩ <;> rw [hEnd] at hFrame
  · exact AddsDirectories.writesWithin hFrame
  · obtain ⟨made, hAdds, -, hChanges⟩ := hFrame
    rw [hFile] at hChanges
    exact hChanges.writesWithin hName (l.bytes_layoutDir_ne_nil .log) hAdds

/-- A root context leaves the files as the runtime log leaves them. -/
theorem Context.files_root (label : String) (site : Site) (log : RuntimeLog) (s : Session) :
    ((Context.root label site log).result s).2.files =
      (log.setUp site.console label s.files).files := by
  rw [Context.result_root]
  rfl

/-- A layout file is an entry of its layout directory exactly if its name holds no separator.  So
where the label of a root context holds none, making the context writes within the log directory of
the console location: some directories on the way to it, and the log of the label. -/
theorem layoutFile_confined (l : Location) (layout : Layout) (name : String) :
    ((l.layoutFile layout name).components = (l.layoutDir layout).components ++
        [.name (Utf8.encode (name ++ "." ++ layout.name))] ↔ '/' ∉ name.toList) ∧
    ('/' ∉ name.toList → ∀ (site : Site) (stamp : Stamp) (s : Session),
      WritesWithin (site.console.layoutDir .log) (Utf8.encode (name ++ ".log")) s.files
        ((Context.root name site (.console stamp)).result s).2.files) := by
  refine ⟨l.components_layoutFile_iff layout name, fun hName site stamp s => ?_⟩
  rw [Context.files_root]
  exact RuntimeLog.writesWithin_mark stamp site.console hName s.files

/-- A label of dots, blanks and a backslash stays inside. -/
theorem layoutFile_confined_dots :
    let site := Site.ofHome 0 (.ofString "/h") .warning
    let name := ".. \\.."
    '/' ∉ name.toList ∧
      (site.console.layoutFile .log name).components = (site.console.layoutDir .log).components ++
        [.name (Utf8.encode ".. \\...log")] ∧
      WritesWithin (site.console.layoutDir .log) (Utf8.encode ".. \\...log") .empty
        ((Context.root name site (.console ⟨"now", "here", "1"⟩)).result
          (.begin .empty)).2.files := by
  intro site name
  have hName : '/' ∉ name.toList := by decide
  obtain ⟨hEntry, hWrites⟩ := layoutFile_confined site.console .log name
  exact ⟨hName, hEntry.mpr hName, hWrites hName site ⟨"now", "here", "1"⟩ (.begin .empty)⟩

/-- A name that begins with a separator stands alone, and a root context with such a label writes
to the root of the file system. -/
theorem layoutFile_escapes :
    let site := Site.ofHome 0 (.ofString "/h") .warning
    let stamp : Stamp := ⟨"now", "here", "1"⟩
    let after := ((Context.root "/escape" site (.console stamp)).result (.begin .empty)).2.files
    site.console.layoutFile .log "/escape" = .ofString "/escape.log" ∧
      (site.console.layoutFile .log "/escape").components ≠
        (site.console.layoutDir .log).components ++ [.name (Utf8.encode "/escape.log")] ∧
      after.node? [Utf8.encode "escape.log"] =
        some (.file (Utf8.encode (stamp.marker "/escape"))) ∧
      after.resolve (site.console.layoutDir .log) = .ok
        (["h", "runtime", "system", "service", "console", "log", "live"].map Utf8.encode) := by
  decide +kernel

end MarketFeed
