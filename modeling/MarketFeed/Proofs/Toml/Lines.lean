import MarketFeed.Proofs.Toml.Strings
import MarketFeed.Toml.Document

/-!
# Lines that give a name a text

A document of such lines is read as the names and the texts, whatever the texts are.

* `reads_line`        — the first pass makes the tokens of a line.
* `foldlM_line`       — the second pass makes a field of them.
* `tokens?_of_reads`  — nothing in a document of whole lines is lost before the first pass.
* `document?_lines`   — the document that gives a home directory and a level.
-/

namespace MarketFeed.Toml

/-! ## Lines -/

/-- A line that gives a name a text. -/
def line (name value : String) : String := name ++ " = " ++ quotedText value ++ "\n"

/-- The tokens of such a line. -/
def lineTokens (name value : String) : List Token :=
  [.word name.toList, .blank [' '], .equals, .blank [' '],
    .text value.toList (styleFor value.toList).isMultiline, .newline]

/-- A blank ends with the character behind it, which is read from the ground then. -/
theorem reads_blank {read rest : List Char} {mark : Char} {out : List Token} {b : Lexer}
    (hMark : isBlankChar mark = false)
    (hReads : Lexer.ground.reads (mark :: rest) = some (out, b)) :
    (Lexer.blank read).reads (mark :: rest) = some (.blank read.reverse :: out, b) := by
  obtain ⟨⟨first, next⟩, hStep, hRest⟩ := Option.bind_eq_some_iff.mp hReads
  obtain ⟨⟨more, last⟩, hMore, hEnd⟩ := Option.map_eq_some_iff.mp hRest
  obtain ⟨rfl, rfl⟩ := Prod.mk.inj hEnd
  have hEnds : (Lexer.blank read).step mark = some (.blank read.reverse :: first, next) := by
    show (if isBlankChar mark then _ else (Lexer.start mark).map _) = _
    rw [if_neg (Bool.eq_false_iff.mp hMark), show Lexer.start mark = some (first, next) from hStep]
    rfl
  show ((Lexer.blank read).step mark).bind _ = _
  rw [hEnds]
  show (next.reads rest).map _ = _
  rw [hMore]
  rfl

/-- A line whose name is one word has the tokens of the name, the sign and the text. -/
theorem reads_line (name value : String)
    (hName : Lexer.ground.reads (name ++ " = ").toList =
      some ([.word name.toList, .blank [' '], .equals], .blank [' '])) :
    Lexer.ground.reads (line name value).toList = some (lineTokens name value, .ground) := by
  obtain ⟨mark, rest, hBegins, hMark⟩ := head?_write (styleFor value.toList) value.toList
  have hValue := reads_write (holds_styleFor value.toList)
  have hText : (line name value).toList = (name ++ " = ").toList ++
      ((styleFor value.toList).write value.toList ++ ['\n']) := by
    simp only [line, quotedText, String.toList_append, String.toList_ofList, List.append_assoc]
    rfl
  have hNotBlank : isBlankChar mark = false := by
    rcases hMark with rfl | rfl <;> rfl
  rw [hBegins] at hText hValue
  rw [hText]
  exact Lexer.reads_append hName (reads_blank hNotBlank hValue)

/-- A line of a document adds its field, if the name is free. -/
theorem foldlM_line {root : Fields} (name value : String)
    (hName : name.toList.all KeyReader.isNameChar = true) (hFree : root.lookup name = none) :
    (lineTokens name value).foldlM Reader.step ⟨root, [], [], .line⟩ =
      some ⟨root ++ [(name, .text value)], [], [], .line⟩ := by
  have hKey : KeyReader.start.step (.word name.toList) = some ⟨[name], true⟩ := by
    show (if _ then some (⟨[String.ofList name.toList], true⟩ : KeyReader) else none) = _
    rw [String.ofList_toList]
    exact if_pos hName
  have hSplit : KeyReader.split? ⟨[name], true⟩ = some ([], name) :=
    if_pos ⟨rfl, by show 1 < depthLimit; decide⟩
  have hAdded : insert? [] name (.text value) .declared root =
      some (root ++ [(name, .text value)]) :=
    if_pos ⟨by simp, by rw [hFree]; rfl⟩
  -- the key, as far as the sign behind it, then the value and the end of the line
  have hWord : Reader.step ⟨root, [], [], .line⟩ (.word name.toList) =
      some ⟨root, [], [], .key ⟨[name], true⟩⟩ := by
    show (KeyReader.start.step (.word name.toList)).bind _ = _
    rw [hKey]
    rfl
  have hGap : Reader.step ⟨root, [], [], .key ⟨[name], true⟩⟩ (.blank [' ']) =
      some ⟨root, [], [], .key ⟨[name], true⟩⟩ := rfl
  have hEquals : Reader.step ⟨root, [], [], .key ⟨[name], true⟩⟩ .equals =
      some ⟨root, [], [.field [] name], .value⟩ := by
    show Reader.readKey _ ⟨[name], true⟩ .equals = _
    unfold Reader.readKey
    dsimp only
    rw [hSplit]
    rfl
  have hSpace : Reader.step ⟨root, [], [.field [] name], .value⟩ (.blank [' ']) =
      some ⟨root, [], [.field [] name], .value⟩ := rfl
  have hText : ∀ multiline, Reader.step ⟨root, [], [.field [] name], .value⟩
      (.text value.toList multiline) =
        some ⟨root ++ [(name, .text value)], [], [], .lineEnd⟩ := by
    intro multiline
    show (insert? [] name (.text (String.ofList value.toList)) .declared root).map _ = _
    rw [String.ofList_toList, hAdded]
    rfl
  simp only [lineTokens, List.foldlM_cons, List.foldlM_nil, hWord, hGap, hEquals, hSpace, hText,
    Option.bind_eq_bind, Option.bind_some]
  rfl

/-! ## Documents -/

theorem unifyLineEnds_of_no_return {cs : List Char} (hReturn : '\r' ∉ cs) :
    unifyLineEnds cs = cs := by
  induction cs with
  | nil => rfl
  | cons c rest ih =>
    have hFirst : c ≠ '\r' := fun h => hReturn (h ▸ List.mem_cons_self)
    rw [unifyLineEnds]
    · rw [ih fun h => hReturn (List.mem_cons_of_mem c h)]
    · intro _ hSame
      exact absurd hSame hFirst

/-- The tokens of a document of whole lines: those of the lines, and the line end that ends the
text. -/
theorem tokens?_of_reads {cs : List Char} {out : List Token}
    (hReads : Lexer.ground.reads cs = some (out, .ground))
    (hChars : ∀ c ∈ cs, isPlainChar c = true ∨ c = '\n') (hHead : cs.head? ≠ some byteOrderMark) :
    tokens? cs = some (out ++ [.newline]) := by
  have hReturn : '\r' ∉ cs := fun h => absurd (hChars _ h) (by decide)
  -- no byte order mark is taken off, and no line end is changed
  have hMark : withoutMark cs = cs := by
    rcases cs with _ | ⟨c, rest⟩
    · rfl
    · exact if_neg fun h => hHead (congrArg some h)
  rw [tokens?, hMark, unifyLineEnds_of_no_return hReturn, Lexer.run_of_reads hReads]
  rfl

theorem isPlainChar_of_mem_line {name value : String} {c : Char}
    (hName : name.toList.all isPlainChar = true) (hMem : c ∈ (line name value).toList) :
    isPlainChar c = true ∨ c = '\n' := by
  simp only [line, quotedText, String.toList_append, String.toList_ofList, List.mem_append] at hMem
  rcases hMem with ((hMem | hMem) | hMem) | hMem
  · exact Or.inl (List.all_eq_true.mp hName c hMem)
  · have hSign : " = ".toList.all isPlainChar = true := by decide
    exact Or.inl (List.all_eq_true.mp hSign c hMem)
  · exact isPlainChar_of_mem_write (holds_styleFor _) hMem
  · exact Or.inr (List.mem_singleton.mp hMem)

/-- The fields of a document that gives a home directory and a level are the two texts. -/
theorem document?_lines (home level : String) :
    document? (line "home" home ++ line "log_level" level) =
      some [("home", .text home), ("log_level", .text level)] := by
  have hReads := Lexer.reads_append (reads_line "home" home (by decide +kernel))
    (reads_line "log_level" level (by decide +kernel))
  have hChars : ∀ c ∈ (line "home" home).toList ++ (line "log_level" level).toList,
      isPlainChar c = true ∨ c = '\n' := by
    intro c hc
    rcases List.mem_append.mp hc with hc | hc
    · exact isPlainChar_of_mem_line (by decide) hc
    · exact isPlainChar_of_mem_line (by decide) hc
  have hHead : ((line "home" home).toList ++ (line "log_level" level).toList).head? ≠
      some byteOrderMark := by
    simp [line, String.toList_append, byteOrderMark]
  have hFirst : (lineTokens "home" home).foldlM Reader.step ⟨[], [], [], .line⟩ =
      some ⟨[("home", .text home)], [], [], .line⟩ :=
    foldlM_line "home" home (by decide) rfl
  have hSecond : (lineTokens "log_level" level).foldlM Reader.step
      ⟨[("home", .text home)], [], [], .line⟩ =
        some ⟨[("home", .text home), ("log_level", .text level)], [], [], .line⟩ :=
    foldlM_line "log_level" level (by decide) rfl
  -- both passes take one line after the other
  rw [document?, String.toList_append, tokens?_of_reads hReads hChars hHead]
  show ((List.foldlM Reader.step Reader.start _).bind _ : Option Fields) = _
  rw [List.foldlM_append, List.foldlM_append, show Reader.start = ⟨[], [], [], .line⟩ from rfl,
    hFirst, Option.bind_eq_bind, Option.bind_some, hSecond]
  rfl

end MarketFeed.Toml
