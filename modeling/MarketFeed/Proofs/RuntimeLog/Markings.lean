import MarketFeed.Proofs.Location.Addresses
import MarketFeed.Proofs.Session.Log

/-!
# Session logs

A runtime log that writes is asked to begin sessions, for any locations and with any labels.  Each
location and label has a log of its own, which grows by one marker for each session that could
begin, and nothing else is lost or changed.

* `FileTree.contentAt` — the bytes of the file at an address.
* `Marking`           — one such question; `leave` and `leaveAll` are the files after it, and after
                        many.
* `Marking.done`      — those that could begin their session, in order.
* `markers`           — the markers for one location and label.
* `contentAt_leaveAll` — what the file at an address holds after any markings.
* `logs_of_markings`  — all of this for locations below one locator.
-/

namespace MarketFeed

open FileTree (AddsDirectories ChangesFile Extends)

/-! ## The file at an address -/

namespace FileTree

variable {t u : FileTree}

/-- The bytes of the file at an address; there are none where no file stands. -/
def contentAt (t : FileTree) (a : Address) : Bytes :=
  match t.node? a with
  | some (.file content) => content
  | _ => []

theorem contentAt_of_file {a : Address} {content : Bytes}
    (hFile : t.node? a = some (.file content)) : t.contentAt a = content := by
  rw [contentAt, hFile]

/-- Directories that are added change no file and make none. -/
theorem AddsDirectories.file_iff {paths : List Path} (h : AddsDirectories paths t u) {a : Address}
    {content : Bytes} :
    u.node? a = some (.file content) ↔ t.node? a = some (.file content) := by
  constructor
  · intro hAfter
    rcases hBefore : t.node? a with _ | node
    · exact nomatch (h.added hBefore hAfter).1
    · rw [← hAfter, h.kept hBefore]
  · exact h.kept

theorem AddsDirectories.contentAt_eq {paths : List Path} (h : AddsDirectories paths t u)
    (a : Address) : u.contentAt a = t.contentAt a := by
  unfold contentAt
  rcases hBefore : t.node? a with _ | node
  · rcases hAfter : u.node? a with _ | node
    · rfl
    · -- what is new is a directory
      obtain ⟨rfl, -⟩ := h.added hBefore hAfter
      rfl
  · rw [h.kept hBefore]

/-- The file that a change is about is the only one that changes. -/
theorem ChangesFile.contentAt_eq {p : Path} {change : Bytes → Bytes}
    (h : ChangesFile p change t u) :
    ∃ a, u.resolve p = .ok a ∧ u.node? a = some (.file (change (t.contentAt a))) ∧
      ∀ b ≠ a, u.node? b = t.node? b := by
  obtain ⟨-, a, old, hResolve, hOld, hNodes⟩ := h
  have hContent : t.contentAt a = old := by
    rcases hNode : t.node? a with _ | node <;> rw [hNode] at hOld
    · obtain rfl := Node.file.inj hOld
      rw [contentAt, hNode]
    · obtain rfl : node = .file old := hOld
      exact contentAt_of_file hNode
  exact ⟨a, hResolve, by rw [hNodes, if_pos rfl, hContent], fun b hb => by rw [hNodes, if_neg hb]⟩

end FileTree

/-! ## One marking -/

/-- One question to a runtime log that writes: when and where it is asked, for which location and
with which label. -/
structure Marking where
  stamp : Stamp
  location : Location
  label : String
  deriving DecidableEq

namespace Marking

/-- The file that the marker is for. -/
def file (m : Marking) : Path := m.location.layoutFile .log m.label

/-- The marker as it is written. -/
def bytes (m : Marking) : Bytes := Utf8.encode (m.stamp.marker m.label)

/-- What comes of the question. -/
def setUp (m : Marking) (files : FileTree) : SetUp :=
  (RuntimeLog.console m.stamp).setUp m.location m.label files

/-- The session could begin. -/
def succeeds (m : Marking) (files : FileTree) : Bool := (m.setUp files).result.toBool

/-- The files after the question. -/
def leave (m : Marking) (files : FileTree) : FileTree := (m.setUp files).files

/-- What one marking does to the files: either it fails, and no file changes, or it adds its
marker to the file that it is for. -/
theorem leave_cases (m : Marking) (files : FileTree) :
    (m.succeeds files = false ∧ ∃ paths, AddsDirectories paths files (m.leave files)) ∨
      (m.succeeds files = true ∧ ∃ paths made, AddsDirectories paths files made ∧
        ChangesFile m.file (· ++ m.bytes) made (m.leave files)) := by
  have hFrame := RuntimeLog.mark_frame m.stamp m.location m.label files
  unfold succeeds leave setUp RuntimeLog.console
  dsimp only at hFrame ⊢
  rcases hEnd : (RuntimeLog.mark m.stamp m.location m.label files).result with e | ⟨⟩ <;>
    rw [hEnd] at hFrame
  · exact Or.inl ⟨rfl, _, hFrame⟩
  · obtain ⟨made, hAdds, -, hChanges⟩ := hFrame
    exact Or.inr ⟨rfl, _, made, hAdds, hChanges⟩

theorem extends_leave (m : Marking) (files : FileTree) : Extends files (m.leave files) := by
  rcases m.leave_cases files with ⟨-, _, hAdds⟩ | ⟨-, _, made, hAdds, hChanges⟩
  · exact hAdds.extends
  · exact hAdds.extends.trans hChanges.extends

/-- A marking that fails leaves every file as it was, and makes none. -/
theorem file_leave_of_fails {m : Marking} {files : FileTree} (hFails : m.succeeds files = false)
    {a : Address} {content : Bytes} :
    (m.leave files).node? a = some (.file content) ↔ files.node? a = some (.file content) := by
  rcases m.leave_cases files with ⟨-, _, hAdds⟩ | ⟨hSucceeds, -⟩
  · exact hAdds.file_iff
  · rw [hFails] at hSucceeds
    exact nomatch hSucceeds

/-- A marking that succeeds adds its marker to the one file that it is for. -/
theorem file_leave_of_succeeds {m : Marking} {files : FileTree}
    (hSucceeds : m.succeeds files = true) :
    ∃ a, (m.leave files).resolve m.file = .ok a ∧
      (m.leave files).node? a = some (.file (files.contentAt a ++ m.bytes)) ∧
      ∀ b ≠ a, ∀ content,
        (m.leave files).node? b = some (.file content) ↔ files.node? b = some (.file content) := by
  rcases m.leave_cases files with ⟨hFails, -⟩ | ⟨-, _, made, hAdds, hChanges⟩
  · rw [hSucceeds] at hFails
    exact nomatch hFails
  · obtain ⟨a, hResolve, hFile, hOther⟩ := hChanges.contentAt_eq
    rw [hAdds.contentAt_eq] at hFile
    refine ⟨a, hResolve, hFile, fun b hb content => ?_⟩
    rw [hOther b hb]
    exact hAdds.file_iff

/-! ## Markings one after the other -/

/-- The files after markings, one after the other. -/
def leaveAll : List Marking → FileTree → FileTree
  | [], files => files
  | m :: rest, files => leaveAll rest (m.leave files)

/-- The markings that could begin their session, in order. -/
def done : List Marking → FileTree → List Marking
  | [], _ => []
  | m :: rest, files =>
    if m.succeeds files then m :: done rest (m.leave files) else done rest (m.leave files)

theorem extends_leaveAll (markings : List Marking) (files : FileTree) :
    Extends files (leaveAll markings files) := by
  induction markings generalizing files with
  | nil => exact .refl files
  | cons m rest ih => exact (m.extends_leave files).trans (ih (m.leave files))

theorem mem_of_mem_done {markings : List Marking} {files : FileTree} {m : Marking}
    (hDone : m ∈ done markings files) : m ∈ markings := by
  induction markings generalizing files with
  | nil => exact hDone
  | cons first rest ih =>
    rw [done] at hDone
    split at hDone
    · exact List.mem_cons.mpr ((List.mem_cons.mp hDone).imp_right ih)
    · exact List.mem_cons_of_mem _ (ih hDone)

/-- The file of a marking that was done stands at its address ever after. -/
theorem exists_file_of_mem_done {markings : List Marking} {files : FileTree} {m : Marking}
    (hDone : m ∈ done markings files) :
    ∃ a content, (leaveAll markings files).resolve m.file = .ok a ∧
      (leaveAll markings files).node? a = some (.file content) := by
  -- by induction on the markings: once it is done, what follows only extends the files
  induction markings generalizing files with
  | nil => exact absurd hDone List.not_mem_nil
  | cons first rest ih =>
    rw [done] at hDone
    split at hDone
    · next hSucceeds =>
      rcases List.mem_cons.mp hDone with rfl | hDone
      · obtain ⟨a, hResolve, hFile, -⟩ := file_leave_of_succeeds hSucceeds
        have hExtends := extends_leaveAll rest (m.leave files)
        obtain ⟨content, hLater⟩ := hExtends.file hFile
        exact ⟨a, content, hExtends.resolve hResolve, hLater⟩
      · exact ih hDone
    · exact ih hDone

/-- The marking is for the file that stands at the address in the end. -/
def isFor (after : FileTree) (a : Address) (m : Marking) : Bool :=
  (after.resolve m.file).toOption == some a

theorem isFor_iff {after : FileTree} {a b : Address} {m : Marking}
    (hResolve : after.resolve m.file = .ok b) : m.isFor after a = true ↔ b = a := by
  rw [isFor, hResolve, beq_iff_eq]
  exact Option.some.injEq b a |>.to_iff

/-- What one marking adds to the file at an address, as it is seen in a later tree. -/
theorem contentAt_leave {m : Marking} {files after : FileTree}
    (hExtends : Extends (m.leave files) after) (a : Address) :
    (m.leave files).contentAt a =
      files.contentAt a ++ if m.succeeds files && m.isFor after a then m.bytes else [] := by
  have hSame : (∀ content,
      (m.leave files).node? a = some (.file content) ↔ files.node? a = some (.file content)) →
      (m.leave files).contentAt a = files.contentAt a := by
    intro hFile
    unfold FileTree.contentAt
    rcases hBefore : files.node? a with _ | _ | content
    · rcases hAfter : (m.leave files).node? a with _ | _ | content
      · rfl
      · rfl
      · exact absurd ((hFile content).mp hAfter) (by simp [hBefore])
    · rw [(m.extends_leave files).directory hBefore]
    · rw [(hFile content).mpr hBefore]
  rcases hSucceeds : m.succeeds files with _ | _
  · rw [Bool.false_and, if_neg Bool.false_ne_true, List.append_nil]
    exact hSame fun _ => file_leave_of_fails hSucceeds
  · obtain ⟨b, hResolve, hFile, hOther⟩ := file_leave_of_succeeds hSucceeds
    rw [Bool.true_and]
    by_cases hHere : b = a
    · subst hHere
      rw [if_pos ((isFor_iff (hExtends.resolve hResolve)).mpr rfl)]
      exact FileTree.contentAt_of_file hFile
    · rw [if_neg (mt (isFor_iff (hExtends.resolve hResolve)).mp hHere), List.append_nil]
      exact hSame (hOther a (Ne.symm hHere))

/-- After any markings a file holds what it held before, and then the markers of those that were
done for it, in order. -/
theorem contentAt_leaveAll (markings : List Marking) (files : FileTree) (a : Address) :
    (leaveAll markings files).contentAt a = files.contentAt a ++
      ((done markings files).filter (isFor (leaveAll markings files) a)).flatMap bytes := by
  -- by induction on the markings, for whatever files they begin with
  induction markings generalizing files with
  | nil => exact (List.append_nil _).symm
  | cons m rest ih =>
    rw [leaveAll, ih, contentAt_leave (extends_leaveAll rest (m.leave files)) a, done,
      List.append_assoc]
    by_cases hSucceeds : m.succeeds files = true
    · by_cases hFor : m.isFor (leaveAll rest (m.leave files)) a = true
      · simp [hSucceeds, hFor]
      · simp [hSucceeds, hFor]
    · simp [hSucceeds]

/-- A file that no marking was done for is left as it is, and none is made. -/
theorem file_leaveAll_iff {markings : List Marking} {files : FileTree} {a : Address}
    (hNone : ∀ m ∈ done markings files, (leaveAll markings files).resolve m.file ≠ .ok a)
    {content : Bytes} :
    (leaveAll markings files).node? a = some (.file content) ↔
      files.node? a = some (.file content) := by
  induction markings generalizing files with
  | nil => exact Iff.rfl
  | cons m rest ih =>
    rw [done] at hNone
    split at hNone
    · next hSucceeds =>
      obtain ⟨b, hResolve, -, hOther⟩ := file_leave_of_succeeds hSucceeds
      have hApart : a ≠ b := by
        rintro rfl
        exact hNone m List.mem_cons_self ((extends_leaveAll rest _).resolve hResolve)
      exact (ih fun n hn => hNone n (List.mem_cons_of_mem _ hn)).trans (hOther a hApart content)
    · next hFails => exact (ih hNone).trans (file_leave_of_fails (Bool.eq_false_iff.mpr hFails))

/-! ## One log for each location and label -/

/-- The markers for a location and a label, in order. -/
def markers (l : Location) (label : String) (markings : List Marking) : Bytes :=
  (markings.filter fun m => m.location = l && m.label = label).flatMap bytes

/-- Below one locator a file belongs to one location and one label. -/
theorem eq_of_resolve_file {locator : Locator} {t u : FileTree} {l k : Location}
    {label other : String} (hl : l.locator = locator) (hk : k.locator = locator)
    (hLabel : '/' ∉ label.toList) (hOther : '/' ∉ other.toList) {a : Address}
    (hFirst : t.resolve (l.layoutFile .log label) = .ok a)
    (hSecond : u.resolve (k.layoutFile .log other) = .ok a) : l = k ∧ label = other := by
  obtain ⟨hMode, hCategory, hGroup, hName, -, hSame⟩ :=
    Location.eq_of_resolve_layoutFile hLabel hOther hFirst hSecond
  refine ⟨?_, hSame⟩
  cases l
  cases k
  simp_all

/-- Session logs lose nothing and do not mix.  A question to the runtime log adds directories on the
way to its log and one marker to the log, or fails and changes no file.  After any number of them
everything that was there is still there, the log of a location and a label holds what it held
before and one marker for each of its sessions in order, and no other file has come or changed. -/
theorem logs_of_markings {locator : Locator} {markings : List Marking}
    (hBelow : ∀ m ∈ markings, m.location.locator = locator ∧ '/' ∉ m.label.toList)
    (files : FileTree) :
    -- one question, on whatever files
    (∀ m ∈ markings, ∀ before : FileTree,
      let directory := m.location.layoutDir .log
      let call := (RuntimeLog.console m.stamp).setUp m.location m.label before
      match call.result with
      | .error _ => AddsDirectories (directory :: directory.ancestors) before call.files
      | .ok () => ∃ made,
          AddsDirectories (directory :: directory.ancestors) before made ∧
            made.isDirectory directory = true ∧
            ChangesFile (m.location.layoutFile .log m.label)
              (· ++ Utf8.encode (m.stamp.marker m.label)) made call.files) ∧
    let after := leaveAll markings files
    -- what was there
    (∀ a, files.node? a = some .directory → after.node? a = some .directory) ∧
    (∀ a old, files.node? a = some (.file old) →
      ∃ more, after.node? a = some (.file (old ++ more))) ∧
    -- the log of each location and label
    (∀ m ∈ done markings files, ∃ a content,
      after.resolve m.file = .ok a ∧ after.node? a = some (.file content)) ∧
    (∀ (l : Location) (label : String), l.locator = locator → '/' ∉ label.toList →
      ∀ a content, after.resolve (l.layoutFile .log label) = .ok a →
        after.node? a = some (.file content) →
        content = files.contentAt a ++ markers l label (done markings files)) ∧
    -- every other file
    (∀ a, (∀ m ∈ done markings files, after.resolve m.file ≠ .ok a) → ∀ content,
      after.node? a = some (.file content) ↔ files.node? a = some (.file content)) ∧
    -- logs of different locations or labels, at whatever time
    (∀ m ∈ markings, ∀ n ∈ markings, ∀ (t u : FileTree) (a : Address),
      t.resolve m.file = .ok a → u.resolve n.file = .ok a →
        m.location = n.location ∧ m.label = n.label) := by
  have hExtends := extends_leaveAll markings files
  have hApart : ∀ {l : Location} {label : String}, l.locator = locator → '/' ∉ label.toList →
      ∀ m ∈ markings, ∀ {t u : FileTree} {a : Address},
        t.resolve m.file = .ok a → u.resolve (l.layoutFile .log label) = .ok a →
        m.location = l ∧ m.label = label := fun hl hLabel m hm _ _ _ =>
    eq_of_resolve_file (hBelow m hm).1 hl (hBelow m hm).2 hLabel
  refine ⟨fun m _ before => RuntimeLog.mark_frame m.stamp m.location m.label before, ?_⟩
  refine ⟨fun a => hExtends.directory, fun a old hOld => ?_, fun m => exists_file_of_mem_done,
    fun l label hl hLabel a content hResolve hFile => ?_,
    fun a hNone content => file_leaveAll_iff hNone,
    fun m hm n hn t u a => hApart (hBelow n hn).1 (hBelow n hn).2 m hm⟩
  · obtain ⟨content, hFile⟩ := hExtends.file hOld
    have hContent := contentAt_leaveAll markings files a
    rw [FileTree.contentAt_of_file hFile, FileTree.contentAt_of_file hOld] at hContent
    exact ⟨_, hContent ▸ hFile⟩
  · have hContent := contentAt_leaveAll markings files a
    rw [FileTree.contentAt_of_file hFile] at hContent
    rw [hContent, markers]
    congr 2
    -- the markings done for this file are those for the location and the label
    refine List.filter_congr fun m hm => ?_
    obtain ⟨b, -, hOwn, -⟩ := exists_file_of_mem_done hm
    rw [Bool.eq_iff_iff, isFor_iff hOwn, Bool.and_eq_true, decide_eq_true_iff, decide_eq_true_iff]
    constructor
    · rintro rfl
      exact hApart hl hLabel m (mem_of_mem_done hm) hOwn hResolve
    · rintro ⟨rfl, rfl⟩
      exact Except.ok.inj (hOwn.symm.trans hResolve)

/-- Markings below one root: two of one log, one of another and one where a directory is in the
way of the log. -/
def sampleMarkings (console feed : Location) : List Marking :=
  [⟨⟨"one", "here", "1"⟩, console, "data"⟩, ⟨⟨"two", "here", "2"⟩, feed, "data"⟩,
    ⟨⟨"three", "here", "3"⟩, console, "busy"⟩, ⟨⟨"four", "here", "4"⟩, console, "data"⟩]

theorem logs_of_markings_sample :
    let locator : Locator := ⟨0, .ofString "run/"⟩
    let console : Location := ⟨.live, .system, "service", "console", locator, by decide, by decide⟩
    let feed : Location := ⟨.data, .marketData, "sim", "...", locator, by decide, by decide⟩
    let files := (FileTree.empty.createDirectories ((console.layoutDir .log).child "busy.log")).2
    let after := leaveAll (sampleMarkings console feed) files
    (∀ m ∈ sampleMarkings console feed, m.location.locator = locator ∧ '/' ∉ m.label.toList) ∧
      ∃ a, after.resolve (console.layoutFile .log "data") = .ok a ∧
        after.node? a = some (.file (files.contentAt a ++ Utf8.encode
          ("[one] session start label=data host=here pid=1\n" ++
            "[four] session start label=data host=here pid=4\n"))) := by
  intro locator console feed files after
  have hBelow : ∀ m ∈ sampleMarkings console feed,
      m.location.locator = locator ∧ '/' ∉ m.label.toList := by decide
  refine ⟨hBelow, ?_⟩
  obtain ⟨-, -, -, hThere, hLog, -, -⟩ := logs_of_markings hBelow files
  -- the third one fails, and the second has a log of its own
  have hFirst : ⟨⟨"one", "here", "1"⟩, console, "data"⟩ ∈
      done (sampleMarkings console feed) files := by decide +kernel
  have hMarkers : markers console "data" (done (sampleMarkings console feed) files) =
      Utf8.encode ("[one] session start label=data host=here pid=1\n" ++
        "[four] session start label=data host=here pid=4\n") := by decide +kernel
  obtain ⟨a, content, hResolve, hFile⟩ := hThere _ hFirst
  have hContent := hLog console "data" rfl (by decide) a content hResolve hFile
  rw [hMarkers] at hContent
  exact ⟨a, hResolve, hContent ▸ hFile⟩

end Marking

end MarketFeed
