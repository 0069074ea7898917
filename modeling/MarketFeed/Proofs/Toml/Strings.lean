import MarketFeed.Toml.Quoting
import MarketFeed.Toml.Token

/-!
# Strings written and read again

Whatever the text, the lexer makes one token of what is written for it, and the token holds the
text.

* `Lexer.reads`        — characters read one after the other, from any place to any other.
* `reads_append_eq`    — what is read behind some characters is read from where they lead.
* `reads_escaped`, `reads_plain` — what stands between two quotes, by the recursion that wrote it.
* `Fills`              — characters that lead through a text between three quotes, some of which
                         may be held back at the end; `Fills.hold` and `Fills.advance` are its
                         steps.
* `fills_multilineEscaped`, `fills_literal` — what stands between three quotes fills up the text.
* `Style.Holds`        — the style can hold the text; `holds_styleFor`: the chosen one can.
* `reads_write`        — a text in a style that can hold it is one token.
* `isPlainChar_of_mem_write` — nothing else is written than a document may hold as it is.
-/

namespace MarketFeed.Toml

namespace Lexer

/-! ## Reading on -/

/-- Reads characters one after the other: the tokens that end among them, and where the lexer
stands behind them. -/
def reads : Lexer → List Char → Option (List Token × Lexer)
  | lexer, [] => some ([], lexer)
  | lexer, c :: cs =>
    (lexer.step c).bind fun (out, next) =>
      (next.reads cs).map fun (more, last) => (out ++ more, last)

variable {a b d : Lexer} {c : Char} {cs ds : List Char} {out more : List Token}

/-- What is read behind some characters is read from where they lead. -/
theorem reads_append_eq (hFirst : a.reads cs = some (out, b)) (ds : List Char) :
    a.reads (cs ++ ds) = (b.reads ds).map fun (more, last) => (out ++ more, last) := by
  induction cs generalizing a out with
  | nil =>
    obtain ⟨rfl, rfl⟩ := Prod.mk.inj (Option.some.inj hFirst)
    exact Option.map_id'.symm
  | cons c cs ih =>
    -- the first character, then what the rest comes to from where it leads
    obtain ⟨⟨first, next⟩, hStep, hRest⟩ := Option.bind_eq_some_iff.mp hFirst
    obtain ⟨⟨rest, last⟩, hReads, hEnd⟩ := Option.map_eq_some_iff.mp hRest
    obtain ⟨rfl, rfl⟩ := Prod.mk.inj hEnd
    show (a.step c).bind _ = _
    rw [hStep]
    show (next.reads (cs ++ ds)).map _ = _
    rw [ih hReads, Option.map_map]
    congr 1
    funext ⟨more, last⟩
    exact congrArg (·, last) (List.append_assoc first rest more).symm

theorem reads_append (hFirst : a.reads cs = some (out, b)) (hThen : b.reads ds = some (more, d)) :
    a.reads (cs ++ ds) = some (out ++ more, d) := by
  rw [reads_append_eq hFirst, hThen, Option.map_some]

theorem reads_append_silent (hFirst : a.reads cs = some ([], b)) :
    a.reads (cs ++ ds) = b.reads ds :=
  (reads_append_eq hFirst ds).trans Option.map_id'

theorem run_of_reads (hReads : a.reads cs = some (out, b)) (rest : List Char) :
    a.run (cs ++ rest) = (b.run rest).map (out ++ ·) := by
  -- the end of the text, which the run alone looks at, is left to the rest
  induction cs generalizing a out with
  | nil =>
    obtain ⟨rfl, rfl⟩ := Prod.mk.inj (Option.some.inj hReads)
    exact Option.map_id'.symm
  | cons c cs ih =>
    obtain ⟨⟨first, next⟩, hStep, hRest⟩ := Option.bind_eq_some_iff.mp hReads
    obtain ⟨⟨more, last⟩, hMore, hEnd⟩ := Option.map_eq_some_iff.mp hRest
    obtain ⟨rfl, rfl⟩ := Prod.mk.inj hEnd
    show a.run (c :: (cs ++ rest)) = _
    rw [run.eq_def]
    simp only [hStep, ih hMore, Option.map_map]
    congr 1
    funext tokens
    exact (List.append_assoc first more tokens).symm

/-- Behind a character that ends no token, the rest is read from where it leads. -/
theorem reads_cons_silent (hStep : a.step c = some ([], b)) : a.reads (c :: cs) = b.reads cs := by
  show (a.step c).bind _ = _
  rw [hStep]
  exact Option.map_id'

/-- Where two places take the first character alike, they read all alike. -/
theorem reads_congr (hStep : a.step c = b.step c) : a.reads (c :: cs) = b.reads (c :: cs) := by
  show (a.step c).bind _ = (b.step c).bind _
  rw [hStep]

/-! ## Characters between quotes -/

section Characters

variable {q : Quoting} {read : List Char} {multiline : Bool}

theorem isPlainChar_of_not_isControl (hControl : isControl c = false) (hLine : c ≠ '\n') :
    isPlainChar c = true := by
  unfold isControl at hControl
  unfold isPlainChar
  by_cases hTab : c = '\t'
  · simp [hTab]
  · simp [hTab, hLine] at hControl ⊢
    omega

/-- A character that means nothing in a string stands for itself. -/
theorem plainStep_of_plain (hMark : c ≠ q.mark) (hEscape : c = '\\' → q.escapes = false)
    (hPlain : isPlainChar c = true ∨ q.multiline = true ∧ c = '\n') :
    plainStep q read c = some ([], string q (c :: read) .plain) := by
  have hOrdinary : ¬(decide (c = '\\') && q.escapes) = true := by
    simpa using hEscape
  have hHeld : (isPlainChar c || (q.multiline && c == '\n')) = true := by
    simpa using hPlain
  unfold plainStep
  rw [if_neg hMark, if_neg hOrdinary, if_pos hHeld]

/-- The digits that write a control character. -/
theorem hexValue?_digits : ∀ n < 128, isControl (Char.ofNat n) = true →
    let digits := (Nat.toDigits 16 n).map Char.toUpper
    (List.replicate (4 - digits.length) '0' ++ digits).map hexValue? =
      [some 0, some 0, some (n / 16), some (n % 16)] := by
  decide +kernel

/-- A backslash and a letter stand for one character. -/
theorem reads_letter {letter : Char} (hLetter : escape? letter = some c) :
    (string ⟨'"', multiline⟩ read .plain).reads ['\\', letter] =
      some ([], string ⟨'"', multiline⟩ (c :: read) .plain) := by
  -- it is none of the characters that mean something else behind a backslash
  have hOther : ∀ {d}, escape? d = none → letter ≠ d := by
    rintro d hNone rfl
    rw [hNone] at hLetter
    exact nomatch hLetter
  have hBackslash : (string ⟨'"', multiline⟩ read .plain).step '\\' =
      some ([], string ⟨'"', multiline⟩ read .escape) := rfl
  have hBehind : (string ⟨'"', multiline⟩ read .escape).step letter =
      some ([], string ⟨'"', multiline⟩ (c :: read) .plain) := by
    show escapeStep _ _ _ = _
    unfold escapeStep
    simp [hOther (d := 'u') rfl, hOther (d := 'U') rfl, hOther (d := '\n') rfl, isBlankChar,
      hOther (d := ' ') rfl, hOther (d := '\t') rfl, hLetter]
  rw [reads_cons_silent hBackslash, reads_cons_silent hBehind]
  rfl

/-- Four digits behind a backslash and a `u` stand for the character of their number. -/
theorem reads_digits {digits : List Char} {high low : Nat} (hHigh : high < 16) (hLow : low < 16)
    (hDigits : digits.map hexValue? = [some 0, some 0, some high, some low]) :
    (string ⟨'"', multiline⟩ read .plain).reads ('\\' :: 'u' :: digits) =
      some ([], string ⟨'"', multiline⟩ (Char.ofNat (high * 16 + low) :: read) .plain) := by
  obtain ⟨d₁, digits, rfl, h₁, hDigits⟩ := List.map_eq_cons_iff.mp hDigits
  obtain ⟨d₂, digits, rfl, h₂, hDigits⟩ := List.map_eq_cons_iff.mp hDigits
  obtain ⟨d₃, digits, rfl, h₃, hDigits⟩ := List.map_eq_cons_iff.mp hDigits
  obtain ⟨d₄, digits, rfl, h₄, hDigits⟩ := List.map_eq_cons_iff.mp hDigits
  obtain rfl := List.map_eq_nil_iff.mp hDigits
  -- the number is below 256, and so that of a character
  have hValid : (high * 16 + low).isValidChar := Or.inl (by omega)
  simp [reads, step, stringStep, plainStep, escapeStep, codeStep, Quoting.escapes,
    h₁, h₂, h₃, h₄, hValid]

/-- What is written for a character between double quotes stands for it. -/
theorem reads_escapeOf (hMark : c ≠ '"') (hLine : c ≠ '\n') :
    (string ⟨'"', multiline⟩ read .plain).reads ((escapeOf? c).getD [c]) =
      some ([], string ⟨'"', multiline⟩ (c :: read) .plain) := by
  unfold escapeOf?
  split
  · next h => exact reads_letter (by rw [h]; rfl)
  split
  · next h => exact reads_letter (by rw [h]; rfl)
  split
  · next h => exact reads_letter (by rw [h]; rfl)
  split
  · next h => exact reads_letter (by rw [h]; rfl)
  split
  · next h => exact reads_letter (by rw [h]; rfl)
  next hBackslash =>
  split
  · -- a control character is written by its number, which is below 128
    next hControl =>
    have hSmall : c.toNat < 128 := by
      simp [isControl] at hControl
      omega
    have hDigits := hexValue?_digits c.toNat hSmall (by rwa [Char.ofNat_toNat])
    have hReads : (string ⟨'"', multiline⟩ read .plain).reads _ = _ :=
      reads_digits (by omega) (by omega) hDigits
    rwa [show c.toNat / 16 * 16 + c.toNat % 16 = c.toNat by omega, Char.ofNat_toNat] at hReads
  · next hControl =>
    have hPlain := isPlainChar_of_not_isControl (by simpa using hControl) hLine
    exact reads_cons_silent
      (plainStep_of_plain hMark (fun h => absurd h hBackslash) (Or.inl hPlain))

end Characters

end Lexer

/-! ## What is written -/

private theorem escapes_of_ascii : ∀ n < 128,
    (escapeOf? (Char.ofNat n)).all (fun written =>
      written.head? == some '\\' && written.all isPlainChar) = true := by
  decide +kernel

/-- Every escape begins with a backslash, and it holds no character that needs one. -/
theorem escapeOf?_shape {c : Char} {written : List Char} (hEscape : escapeOf? c = some written) :
    written.head? = some '\\' ∧ written.all isPlainChar = true := by
  have hSmall : c.toNat < 128 := by
    refine Nat.lt_of_not_le fun hLarge => ?_
    have hNot : ∀ d : Char, d.toNat < 128 → c ≠ d := fun d hd h =>
      absurd (h ▸ hd) (Nat.not_lt.mpr hLarge)
    have hControl : isControl c = false := by
      simp [isControl]
      omega
    simp [escapeOf?, hNot '\x08' (by decide), hNot '\t' (by decide), hNot '\x0c' (by decide),
      hNot '\r' (by decide), hNot '\\' (by decide), hControl] at hEscape
  have hAll := escapes_of_ascii c.toNat hSmall
  rw [Char.ofNat_toNat, hEscape] at hAll
  simpa using hAll

/-- What is written for a character between double quotes does not begin with one. -/
theorem head?_escapeOf {c : Char} (hMark : c ≠ '"') :
    ∃ d, ((escapeOf? c).getD [c]).head? = some d ∧ d ≠ '"' := by
  rcases hEscape : escapeOf? c with _ | written
  · exact ⟨c, rfl, hMark⟩
  · exact ⟨'\\', (escapeOf?_shape hEscape).1, by decide⟩

/-- What is written for a character between double quotes holds no character that needs an
escape. -/
theorem isPlainChar_of_mem_escapeOf {c d : Char} (hLine : c ≠ '\n')
    (hMem : d ∈ (escapeOf? c).getD [c]) : isPlainChar d = true := by
  rcases hEscape : escapeOf? c with _ | written
  · rw [hEscape] at hMem
    obtain rfl := List.mem_singleton.mp hMem
    have hControl : isControl d = false := by grind [escapeOf?]
    exact Lexer.isPlainChar_of_not_isControl hControl hLine
  · rw [hEscape] at hMem
    exact List.all_eq_true.mp (escapeOf?_shape hEscape).2 d hMem

theorem isPlainChar_of_mem_escaped {cs : List Char} {d : Char} (hMem : d ∈ escaped cs) :
    isPlainChar d = true := by
  obtain ⟨c, -, hWritten⟩ := List.mem_flatMap.mp hMem
  split at hWritten
  · simp at hWritten
    rcases hWritten with rfl | rfl <;> rfl
  split at hWritten
  · simp at hWritten
    rcases hWritten with rfl | rfl <;> rfl
  · next hLine => exact isPlainChar_of_mem_escapeOf hLine hWritten

/-- Between three double quotes a line end stands for itself alone. -/
theorem mem_multilineEscaped {run : Nat} {cs : List Char} {d : Char}
    (hMem : d ∈ multilineEscaped run cs) : isPlainChar d = true ∨ d = '\n' ∧ '\n' ∈ cs := by
  -- by induction on the text: the character is written for the first one or for a later one
  induction cs generalizing run with
  | nil => exact absurd hMem List.not_mem_nil
  | cons c rest ih =>
    have hLater : ∀ {n}, d ∈ multilineEscaped n rest →
        isPlainChar d = true ∨ d = '\n' ∧ '\n' ∈ c :: rest := fun h =>
      (ih h).imp_right (And.imp_right (List.mem_cons_of_mem c))
    rw [multilineEscaped] at hMem
    split at hMem
    · split at hMem
      · rcases List.mem_cons.mp hMem with rfl | hMem
        · exact Or.inl rfl
        rcases List.mem_cons.mp hMem with rfl | hMem
        · exact Or.inl rfl
        · exact hLater hMem
      · rcases List.mem_cons.mp hMem with rfl | hMem
        · exact Or.inl rfl
        · exact hLater hMem
    split at hMem
    · next hLine =>
      rcases List.mem_cons.mp hMem with rfl | hMem
      · exact Or.inr ⟨rfl, hLine ▸ List.mem_cons_self⟩
      · exact hLater hMem
    · next hLine =>
      rcases List.mem_append.mp hMem with hMem | hMem
      · exact Or.inl (isPlainChar_of_mem_escapeOf hLine hMem)
      · exact hLater hMem

/-! ## Between the quotes -/

namespace Lexer

/-- What is written between double quotes stands for the text. -/
theorem reads_escaped (cs read : List Char) :
    (string ⟨'"', false⟩ read .plain).reads (escaped cs) =
      some ([], string ⟨'"', false⟩ (cs.reverse ++ read) .plain) := by
  -- by induction on the text, for whatever was read before it
  induction cs generalizing read with
  | nil => rfl
  | cons c rest ih =>
    have hFirst : (string ⟨'"', false⟩ read .plain).reads
        (if c = '"' then ['\\', '"'] else if c = '\n' then ['\\', 'n']
          else (escapeOf? c).getD [c]) = some ([], string ⟨'"', false⟩ (c :: read) .plain) := by
      split
      · next h => exact reads_letter (by rw [h]; rfl)
      split
      · next h => exact reads_letter (by rw [h]; rfl)
      · next hMark hLine => exact reads_escapeOf hMark hLine
    rw [escaped, List.flatMap_cons, reads_append_silent hFirst]
    refine (ih (c :: read)).trans ?_
    rw [List.reverse_cons, List.append_assoc]
    rfl

/-- Text that needs nothing between quotes stands for itself there. -/
theorem reads_plain {q : Quoting} {cs : List Char} (read : List Char)
    (hPlain : ∀ c ∈ cs, isPlainChar c = true ∧ c ≠ q.mark) (hEscape : q.escapes = false) :
    (string q read .plain).reads cs = some ([], string q (cs.reverse ++ read) .plain) := by
  induction cs generalizing read with
  | nil => rfl
  | cons c rest ih =>
    obtain ⟨hChar, hMark⟩ := hPlain c List.mem_cons_self
    have hStep : (string q read .plain).step c = some ([], string q (c :: read) .plain) :=
      plainStep_of_plain hMark (fun _ => hEscape) (Or.inl hChar)
    rw [reads_cons_silent hStep, ih _ fun d hd => hPlain d (List.mem_cons_of_mem c hd),
      List.reverse_cons, List.append_assoc]
    rfl

/-! ## Between three quotes -/

/-- In a string that three quotes end, behind some that may be the first of them. -/
def behindQuotes (q : Quoting) (read : List Char) : Nat → Lexer
  | 0 => string q read .plain
  | n + 1 => string q read (.quotes (n + 1))

/-- The characters lead through a text between three quotes, the last two of which may still turn
out to be quotes of the text. -/
def Fills (q : Quoting) (a : Lexer) (written text : List Char) : Prop :=
  ∃ read n, n ≤ 2 ∧ text.reverse = List.replicate n q.mark ++ read ∧
    a.reads written = some ([], behindQuotes q read n)

section Multiline

variable {q : Quoting} {read cs : List Char} {n : Nat} {c : Char}

/-- Quotes that turn out to be no end belong to the text. -/
theorem step_behindQuotes (hFew : n ≤ 2) (hMark : c ≠ q.mark) :
    (behindQuotes q read n).step c =
      (string q (List.replicate n q.mark ++ read) .plain).step c := by
  rcases n with _ | n
  · rfl
  · show stringStep q read (.quotes (n + 1)) c = plainStep q _ c
    unfold stringStep
    dsimp only
    rw [if_neg hMark, if_neg (by omega)]

theorem step_behindQuotes_mark (hMultiline : q.multiline = true) (hFew : n ≤ 1) :
    (behindQuotes q read n).step q.mark = some ([], behindQuotes q read (n + 1)) := by
  rcases n with _ | n
  · show plainStep q read q.mark = _
    simp [plainStep, hMultiline, behindQuotes]
  · show stringStep q read (.quotes (n + 1)) q.mark = _
    have hCount : n + 1 ≠ 4 := by omega
    simp [stringStep, behindQuotes, hCount]

/-- One more quote held back is the next character of the text. -/
theorem reverse_replicate_succ_append (mark : Char) (rest : List Char) :
    (List.replicate (n + 1) mark ++ read).reverse ++ rest =
      (List.replicate n mark ++ read).reverse ++ mark :: rest := by
  rw [List.reverse_append, List.reverse_append, List.reverse_replicate, List.reverse_replicate,
    List.replicate_succ']
  simp

theorem Fills.nil (hFew : n ≤ 2) (hText : cs.reverse = List.replicate n q.mark ++ read) :
    Fills q (behindQuotes q read n) [] cs :=
  ⟨read, n, hFew, hText, rfl⟩

/-- A text that is filled up from where the first characters lead is filled up with them. -/
theorem Fills.append {a b : Lexer} {first written text : List Char}
    (hFirst : a.reads first = some ([], b)) (hThen : Fills q b written text) :
    Fills q a (first ++ written) text := by
  obtain ⟨read, n, hFew, hText, hReads⟩ := hThen
  exact ⟨read, n, hFew, hText, (reads_append_silent hFirst).trans hReads⟩

/-- Three quotes end the text; those held back before them belong to it. -/
theorem Fills.close {mark : Char} {a : Lexer} {written text : List Char}
    (hFills : Fills ⟨mark, true⟩ a written text) (hLine : '\n' ≠ mark) :
    a.reads (written ++ [mark, mark, mark, '\n']) =
      some ([.text text true, .newline], ground) := by
  obtain ⟨read, n, hFew, hText, hReads⟩ := hFills
  rw [reads_append_silent hReads, ← List.reverse_reverse text, hText]
  -- as many quotes are held back as stand before the three that end the text
  rcases n with _ | _ | _ | n
  · simp [reads, behindQuotes, step, stringStep, plainStep, endThen, start, isBlankChar, hLine]
  · simp [reads, behindQuotes, step, stringStep, plainStep, endThen, start, isBlankChar, hLine]
  · simp [reads, behindQuotes, step, stringStep, plainStep, endThen, start, isBlankChar]
  · omega

/-- A character other than a quote goes on with the text from where quotes are held back. -/
theorem reads_behindQuotes {c : Char} (hFew : n ≤ 2) (hHead : cs.head? = some c)
    (hMark : c ≠ q.mark) :
    (behindQuotes q read n).reads cs =
      (string q (List.replicate n q.mark ++ read) .plain).reads cs := by
  obtain ⟨rest, rfl⟩ := List.head?_eq_some_iff.mp hHead
  exact reads_congr (step_behindQuotes hFew hMark)

/-- A quote is held back as long as there are no three of them. -/
theorem Fills.hold {written rest : List Char} (hMultiline : q.multiline = true) (hFew : n ≤ 1)
    (hThen : Fills q (behindQuotes q read (n + 1)) written
      ((List.replicate (n + 1) q.mark ++ read).reverse ++ rest)) :
    Fills q (behindQuotes q read n) (q.mark :: written)
      ((List.replicate n q.mark ++ read).reverse ++ q.mark :: rest) := by
  have hStep : (behindQuotes q read n).reads [q.mark] =
      some ([], behindQuotes q read (n + 1)) :=
    reads_cons_silent (step_behindQuotes_mark hMultiline hFew)
  rw [reverse_replicate_succ_append] at hThen
  exact Fills.append hStep hThen

/-- What stands for a character and does not begin with a quote adds the character, behind all
quotes that were held back. -/
theorem Fills.advance {d : Char} {first written rest : List Char} (hFew : n ≤ 2)
    (hHead : first.head? = some d) (hMark : d ≠ q.mark)
    (hReads : (string q (List.replicate n q.mark ++ read) .plain).reads first =
      some ([], string q (c :: (List.replicate n q.mark ++ read)) .plain))
    (hThen : Fills q (behindQuotes q (c :: (List.replicate n q.mark ++ read)) 0) written
      ((c :: (List.replicate n q.mark ++ read)).reverse ++ rest)) :
    Fills q (behindQuotes q read n) (first ++ written)
      ((List.replicate n q.mark ++ read).reverse ++ c :: rest) := by
  have hFirst : (behindQuotes q read n).reads first =
      some ([], behindQuotes q (c :: (List.replicate n q.mark ++ read)) 0) :=
    (reads_behindQuotes hFew hHead hMark).trans hReads
  rw [List.reverse_cons, List.append_assoc] at hThen
  exact Fills.append hFirst hThen

/-- Text between three single quotes stands for itself if it has no three of them in a row. -/
theorem fills_literal {best : Nat} (hPlain : ∀ c ∈ cs, isPlainChar c = true ∨ c = '\n')
    (hEscape : q.escapes = false) (hMultiline : q.multiline = true) (hFew : n ≤ 2)
    (hRuns : longestRunFrom q.mark n best cs ≤ 2) :
    Fills q (behindQuotes q read n) cs ((List.replicate n q.mark ++ read).reverse ++ cs) := by
  induction cs generalizing read n best with
  | nil => exact Fills.nil hFew (by simp)
  | cons c rest ih =>
    have hRest : ∀ d ∈ rest, isPlainChar d = true ∨ d = '\n' := fun d hd =>
      hPlain d (List.mem_cons_of_mem c hd)
    rw [longestRunFrom] at hRuns
    -- the run that is being counted is that of the quotes held back
    by_cases hMark : c = q.mark
    · -- one more quote is held back, and no more than two ever are
      rw [if_pos hMark] at hRuns
      have hMore : max best (n + 1) ≤ 2 := Nat.le_trans le_longestRunFrom hRuns
      rw [hMark]
      exact Fills.hold hMultiline (by omega) (ih hRest (by omega) hRuns)
    · rw [if_neg hMark] at hRuns
      have hChar : isPlainChar c = true ∨ q.multiline = true ∧ c = '\n' :=
        (hPlain c List.mem_cons_self).imp_right fun hLine => ⟨hMultiline, hLine⟩
      have hReads : (string q (List.replicate n q.mark ++ read) .plain).reads [c] =
          some ([], string q (c :: (List.replicate n q.mark ++ read)) .plain) :=
        reads_cons_silent (plainStep_of_plain hMark (fun _ => hEscape) hChar)
      exact Fills.advance hFew rfl hMark hReads (ih hRest (Nat.zero_le 2) hRuns)

/-- What is written between three double quotes stands for the text. -/
theorem fills_multilineEscaped (hFew : n ≤ 2) :
    Fills ⟨'"', true⟩ (behindQuotes ⟨'"', true⟩ read n) (multilineEscaped n cs)
      ((List.replicate n '"' ++ read).reverse ++ cs) := by
  -- by induction on the text, for however many quotes are held back when it begins
  induction cs generalizing read n with
  | nil => exact Fills.nil hFew (by simp)
  | cons c rest ih =>
    rw [multilineEscaped]
    split
    · next hMark =>
      rw [hMark]
      split
      · -- the third quote in a row is escaped
        show Fills _ _ (['\\', '"'] ++ multilineEscaped 0 rest) _
        exact Fills.advance hFew rfl (by decide) (reads_letter rfl) (ih (Nat.zero_le 2))
      · next hRun => exact Fills.hold rfl (by omega) (ih (by omega))
    split
    · next hLine =>
      rw [hLine]
      show Fills _ _ (['\n'] ++ multilineEscaped 0 rest) _
      exact Fills.advance hFew rfl (by decide) rfl (ih (Nat.zero_le 2))
    · next hMark hLine =>
      obtain ⟨d, hHead, hFirst⟩ := head?_escapeOf hMark
      exact Fills.advance hFew hHead hFirst (reads_escapeOf hMark hLine) (ih (Nat.zero_le 2))

end Multiline

/-! ## From the first quote to the last -/

section Quoted

variable {mark : Char} {written text : List Char}

/-- A text between two quotes, which does not begin with one. -/
theorem reads_quoted (hMark : mark = '"' ∨ mark = '\'') (hHead : written.head? ≠ some mark)
    (hReads : (string ⟨mark, false⟩ [] .plain).reads written =
      some ([], string ⟨mark, false⟩ text.reverse .plain)) :
    ground.reads ([mark] ++ written ++ [mark] ++ ['\n']) =
      some ([.text text false, .newline], ground) := by
  have hOpen : ground.reads [mark] = some ([], oneQuote mark) := by
    rcases hMark with rfl | rfl <;> rfl
  rw [List.append_assoc, List.append_assoc, reads_append_silent hOpen]
  rcases written with _ | ⟨c, written⟩
  · -- the second quote is all there is, and it takes a third character to tell
    obtain ⟨-, hSame⟩ := Prod.mk.inj (Option.some.inj hReads)
    obtain rfl : text = [] := by simpa using hSame
    rcases hMark with rfl | rfl <;> rfl
  · have hOther : c ≠ mark := fun h => hHead (congrArg some h)
    have hFirst : (oneQuote mark).step c = (string ⟨mark, false⟩ [] .plain).step c := by
      show (if c = mark then _ else plainStep ⟨mark, false⟩ [] c) = _
      rw [if_neg hOther]
      rfl
    rw [List.cons_append, reads_congr hFirst, ← List.cons_append, reads_append_silent hReads]
    have hClose : (string ⟨mark, false⟩ text.reverse .plain).reads [mark] =
        some ([.text text false], ground) := by
      simp [reads, step, stringStep, plainStep]
    exact reads_append hClose rfl

/-- A text between three quotes, behind which a line end is passed over. -/
theorem reads_tripleQuoted (hMark : mark = '"' ∨ mark = '\'')
    (hFills : Fills ⟨mark, true⟩ (behindQuotes ⟨mark, true⟩ [] 0) written text)
    (hLead : '\n' ∈ text ∨ '\n' ∉ written) :
    ground.reads ([mark, mark, mark] ++ leadingLineEnd text ++ written ++ [mark, mark, mark] ++
      ['\n']) = some ([.text text true, .newline], ground) := by
  have hOpen : ground.reads [mark, mark, mark] =
      some ([], string ⟨mark, true⟩ [] .opening) := by
    rcases hMark with rfl | rfl <;> rfl
  have hLine : '\n' ≠ mark := by
    rcases hMark with rfl | rfl <;> decide
  have hClose := hFills.close hLine
  rw [List.append_assoc, List.append_assoc, List.append_assoc, reads_append_silent hOpen]
  by_cases hLines : '\n' ∈ text
  · have hPassed : (string ⟨mark, true⟩ [] .opening).reads (leadingLineEnd text) =
        some ([], behindQuotes ⟨mark, true⟩ [] 0) := by
      rw [leadingLineEnd, if_pos (by simpa using hLines)]
      rfl
    rw [reads_append_silent hPassed]
    exact hClose
  · -- without a line end in front, the text begins at once
    have hNone : leadingLineEnd text = [] := by
      rw [leadingLineEnd, if_neg (by simpa using hLines)]
    have hBegins : ∃ c rest, written ++ [mark, mark, mark, '\n'] = c :: rest ∧ c ≠ '\n' := by
      rcases written with _ | ⟨c, written⟩
      · exact ⟨mark, _, rfl, hLine.symm⟩
      · refine ⟨c, _, rfl, fun h => ?_⟩
        exact hLead.resolve_left hLines (h ▸ List.mem_cons_self)
    obtain ⟨c, rest, hWritten, hOther⟩ := hBegins
    have hFirst : (string ⟨mark, true⟩ [] .opening).step c =
        (behindQuotes ⟨mark, true⟩ [] 0).step c := if_neg hOther
    rw [hWritten] at hClose
    rw [hNone, ← hClose, ← reads_congr hFirst, ← hWritten]
    rfl

end Quoted

end Lexer

/-! ## Styles -/

/-- The style can hold the text. -/
def Style.Holds : Style → List Char → Prop
  | .basic, _ => True
  | .literal, cs => ∀ c ∈ cs, isPlainChar c = true ∧ c ≠ '\''
  | .multilineBasic, _ => True
  | .multilineLiteral, cs =>
    (∀ c ∈ cs, isPlainChar c = true ∨ c = '\n') ∧ longestRun '\'' cs ≤ 2

/-- The style writes three quotes. -/
def Style.isMultiline : Style → Bool
  | .basic | .literal => false
  | .multilineBasic | .multilineLiteral => true

/-- The style chosen for a text can hold it. -/
theorem holds_styleFor (cs : List Char) : (styleFor cs).Holds cs := by
  have hPlain : (!cs.any isControl) = true → ∀ c ∈ cs, c ≠ '\n' → isPlainChar c = true := by
    intro hControls c hc hLine
    have hControl : isControl c = false := by
      simp only [Bool.not_eq_true', List.any_eq_false] at hControls
      simpa using hControls c hc
    exact Lexer.isPlainChar_of_not_isControl hControl hLine
  unfold styleFor
  dsimp only
  -- the conditions under which a style is chosen are those under which it can hold the text
  split
  · trivial
  split
  · next hLiteral =>
    simp only [Bool.and_eq_true, beq_iff_eq, longestRun_eq_zero_iff] at hLiteral
    obtain ⟨⟨hControls, hSingle⟩, hLines⟩ := hLiteral
    have hLines : '\n' ∉ cs := by simpa using hLines
    intro c hc
    exact ⟨hPlain hControls c hc fun h => hLines (h ▸ hc), fun h => hSingle (h ▸ hc)⟩
  split
  · trivial
  split
  · next hLiteral =>
    simp only [Bool.and_eq_true, decide_eq_true_eq] at hLiteral
    refine ⟨fun c hc => ?_, hLiteral.2⟩
    by_cases hLine : c = '\n'
    · exact Or.inr hLine
    · exact Or.inl (hPlain hLiteral.1 c hc hLine)
  split
  · trivial
  · trivial

/-- A text in a style that can hold it, at the end of a line, is one token. -/
theorem reads_write {style : Style} {cs : List Char} (hHolds : style.Holds cs) :
    Lexer.ground.reads (style.write cs ++ ['\n']) =
      some ([.text cs style.isMultiline, .newline], .ground) := by
  cases style with
  | basic =>
    have hReads : (Lexer.string ⟨'"', false⟩ [] .plain).reads (escaped cs) =
        some ([], .string ⟨'"', false⟩ cs.reverse .plain) := by
      simpa using Lexer.reads_escaped cs []
    refine Lexer.reads_quoted (Or.inl rfl) ?_ hReads
    rcases cs with _ | ⟨c, rest⟩
    · exact nofun
    rw [escaped, List.flatMap_cons]
    split
    · exact fun h => absurd h (by simp)
    split
    · exact fun h => absurd h (by simp)
    · next hMark _ =>
      obtain ⟨d, hHead, hFirst⟩ := head?_escapeOf hMark
      rw [List.head?_append, hHead]
      exact fun h => hFirst (Option.some.inj h)
  | literal =>
    have hReads : (Lexer.string ⟨'\'', false⟩ [] .plain).reads cs =
        some ([], .string ⟨'\'', false⟩ cs.reverse .plain) := by
      simpa using Lexer.reads_plain (q := ⟨'\'', false⟩) [] hHolds rfl
    refine Lexer.reads_quoted (Or.inr rfl) (fun h => ?_) hReads
    exact (hHolds _ (List.mem_of_head? h)).2 rfl
  | multilineBasic =>
    have hFills : Lexer.Fills ⟨'"', true⟩ (.behindQuotes ⟨'"', true⟩ [] 0)
        (multilineEscaped 0 cs) cs :=
      Lexer.fills_multilineEscaped (by omega)
    refine Lexer.reads_tripleQuoted (Or.inl rfl) hFills ?_
    by_cases hLine : '\n' ∈ cs
    · exact Or.inl hLine
    · refine Or.inr fun hWritten => ?_
      rcases mem_multilineEscaped hWritten with hPlain | ⟨-, hMem⟩
      · exact absurd hPlain (by decide)
      · exact hLine hMem
  | multilineLiteral =>
    have hFills : Lexer.Fills ⟨'\'', true⟩ (.behindQuotes ⟨'\'', true⟩ [] 0) cs cs :=
      Lexer.fills_literal hHolds.1 rfl rfl (by omega) hHolds.2
    exact Lexer.reads_tripleQuoted (Or.inr rfl) hFills (Decidable.em _)

/-- Every style begins with a quote. -/
theorem head?_write (style : Style) (cs : List Char) :
    ∃ mark rest, style.write cs = mark :: rest ∧ (mark = '"' ∨ mark = '\'') := by
  cases style with
  | basic => exact ⟨'"', _, rfl, Or.inl rfl⟩
  | literal => exact ⟨'\'', _, rfl, Or.inr rfl⟩
  | multilineBasic => exact ⟨'"', _, rfl, Or.inl rfl⟩
  | multilineLiteral => exact ⟨'\'', _, rfl, Or.inr rfl⟩

/-- Nothing is written but line ends and what a document may hold as it is. -/
theorem isPlainChar_of_mem_write {style : Style} {cs : List Char} {d : Char}
    (hHolds : style.Holds cs) (hMem : d ∈ style.write cs) : isPlainChar d = true ∨ d = '\n' := by
  have hMark : ∀ {mark}, mark = '"' ∨ mark = '\'' → isPlainChar mark = true := by
    rintro mark (rfl | rfl) <;> rfl
  have hLead : d ∈ leadingLineEnd cs → d = '\n' := by
    unfold leadingLineEnd
    split
    · exact List.mem_singleton.mp
    · exact nofun
  -- the quotes and what stands in front of the text are no trouble in any style
  have hOne : ∀ {mark body}, mark = '"' ∨ mark = '\'' → d ∈ [mark] ++ body ++ [mark] →
      isPlainChar d = true ∨ d ∈ body := by
    intro mark body hQuote hd
    have hCases : d = mark ∨ d ∈ body := by
      simp only [List.mem_append, List.mem_singleton] at hd
      exact hd.elim id Or.inl
    rcases hCases with rfl | hBody
    · exact Or.inl (hMark hQuote)
    · exact Or.inr hBody
  have hThree : ∀ {mark body}, mark = '"' ∨ mark = '\'' →
      d ∈ [mark, mark, mark] ++ leadingLineEnd cs ++ body ++ [mark, mark, mark] →
      (isPlainChar d = true ∨ d = '\n') ∨ d ∈ body := by
    intro mark body hQuote hd
    simp only [List.mem_append, List.mem_cons, List.not_mem_nil, or_false, or_self] at hd
    rcases hd with ((rfl | hd) | hd) | rfl
    · exact Or.inl (Or.inl (hMark hQuote))
    · exact Or.inl (Or.inr (hLead hd))
    · exact Or.inr hd
    · exact Or.inl (Or.inl (hMark hQuote))
  cases style with
  | basic =>
    rcases hOne (Or.inl rfl) hMem with hPlain | hBody
    · exact Or.inl hPlain
    · exact Or.inl (isPlainChar_of_mem_escaped hBody)
  | literal =>
    rcases hOne (Or.inr rfl) hMem with hPlain | hBody
    · exact Or.inl hPlain
    · exact Or.inl (hHolds d hBody).1
  | multilineBasic =>
    rcases hThree (Or.inl rfl) hMem with hOuter | hBody
    · exact hOuter
    · exact (mem_multilineEscaped hBody).imp_right And.left
  | multilineLiteral =>
    rcases hThree (Or.inr rfl) hMem with hOuter | hBody
    · exact hOuter
    · exact hHolds.1 d hBody

end MarketFeed.Toml
