import MarketFeed.Text.Alphanumeric

/-!
# References and the tilde

A text may refer to variables, as `$NAME`, `${NAME}` or `${NAME:-default}`, and may start with
a tilde that stands for the home directory.

* `Piece`, `pieces` — the text read as literal characters and references, left to right.
* `fill?`           — the text with every reference replaced; `none` if one has no value.
* `expandTilde`     — the text with a leading tilde replaced.
* `expand`          — both, with the rule that one missing value keeps the whole text as it is.

Main statements: `expand_of_plain` — text without `$` and without a leading `~` stays as it is;
`expand_of_missing` — so does text with a reference that has no value.
-/

namespace MarketFeed.Expansion

/-- A part of a text: one character, or a reference with the text that stands in for a missing
variable. -/
inductive Piece where
  | literal (c : Char)
  | reference (name : List Char) (fallback : Option (List Char))
  deriving DecidableEq, Repr

/-- A character that may stand in the name of a reference without braces. -/
def isNameChar (c : Char) : Bool := c == '_' || Text.isAlphanumeric c

/-- Splits at the first occurrence of a character, which belongs to neither part. -/
def splitAtFirst? (mark : Char) : List Char → Option (List Char × List Char)
  | [] => none
  | c :: rest =>
    if c = mark then some ([], rest)
    else (splitAtFirst? mark rest).map fun (before, after) => (c :: before, after)

/-- Splits at the first `:-`, which belongs to neither part. -/
def splitAtFallback? : List Char → Option (List Char × List Char)
  | [] => none
  | ':' :: '-' :: rest => some ([], rest)
  | c :: rest => (splitAtFallback? rest).map fun (before, after) => (c :: before, after)

/-- The reference between braces: `:-` separates the name from the fallback, unless nothing
stands before it. -/
def braced (content : List Char) : Piece :=
  match splitAtFallback? content with
  | some (name, fallback) =>
    -- a name may hold any characters here, so `:-` in front belongs to it
    if name = [] then .reference content none else .reference name (some fallback)
  | none => .reference content none

theorem length_of_splitAtFirst? {mark : Char} {cs before after : List Char}
    (h : splitAtFirst? mark cs = some (before, after)) : after.length < cs.length := by
  induction cs generalizing before with
  | nil => exact nomatch h
  | cons c rest ih =>
    rw [splitAtFirst?] at h
    split at h
    · obtain ⟨-, rfl⟩ := Prod.mk.inj (Option.some.inj h)
      simp
    · obtain ⟨⟨b, a⟩, hr, he⟩ := Option.map_eq_some_iff.1 h
      obtain ⟨-, rfl⟩ := Prod.mk.inj he
      exact Nat.lt_succ_of_lt (ih hr)

private theorem length_dropWhile_le (p : Char → Bool) (cs : List Char) :
    (cs.dropWhile p).length ≤ cs.length :=
  (List.dropWhile_sublist p).length_le

/-- The pieces of a text.  `$$` is a dollar sign; a brace that is never closed, and a dollar
sign before anything else that starts no name, are literal. -/
def pieces : List Char → List Piece
  | [] => []
  | '$' :: '$' :: rest => .literal '$' :: pieces rest
  | '$' :: '{' :: rest =>
    -- the first closing brace ends the reference, whatever stands before it
    match h : splitAtFirst? '}' rest with
    | some (content, after) =>
      have := length_of_splitAtFirst? h
      braced content :: pieces after
    | none => .literal '$' :: .literal '{' :: pieces rest
  | '$' :: rest =>
    -- a name without braces goes on as far as it can
    let name := rest.takeWhile isNameChar
    if name = [] then .literal '$' :: pieces rest
    else
      have := length_dropWhile_le isNameChar rest
      .reference name none :: pieces (rest.dropWhile isNameChar)
  | c :: rest => .literal c :: pieces rest
  termination_by cs => cs.length
  decreasing_by all_goals (simp only [List.length_cons]; omega)

/-- The characters that a piece stands for. -/
def Piece.fill? (lookup : String → Option String) : Piece → Option (List Char)
  | .literal c => some [c]
  | .reference name fallback =>
    match lookup (String.ofList name) with
    | some value => some value.toList
    | none => fallback

/-- The text with every reference replaced; `none` if one of them has no value. -/
def fill? (lookup : String → Option String) (cs : List Char) : Option (List Char) :=
  ((pieces cs).mapM (Piece.fill? lookup)).map List.flatten

/-- The text with a leading tilde, alone or before a slash, replaced by the home directory. -/
def expandTilde (home : Option String) (cs : List Char) : List Char :=
  match cs, home with
  | ['~'], some home => home.toList
  | '~' :: '/' :: rest, some home => home.toList ++ '/' :: rest
  | _, _ => cs

/-- The text after both replacements.  A tilde that only a variable's value brought to the
front is kept, and so is the whole text if a reference has no value. -/
def expandChars (lookup : String → Option String) (home : Option String) (cs : List Char) :
    List Char :=
  match fill? lookup cs with
  | none => cs
  | some filled =>
    -- the tilde in front came out of a variable
    if cs.contains '$' && cs.head? != some '~' && filled.head? == some '~' then filled
    else expandTilde home filled

/-- The text after both replacements. -/
def expand (lookup : String → Option String) (home : Option String) (s : String) : String :=
  String.ofList (expandChars lookup home s.toList)

/-! ## Laws -/

/-- Text without a dollar sign is its own literal reading. -/
theorem pieces_of_no_dollar {cs : List Char} (h : '$' ∉ cs) :
    pieces cs = cs.map Piece.literal := by
  induction cs with
  | nil => rw [pieces]; rfl
  | cons c rest ih =>
    have hc : c ≠ '$' := fun he => h (by simp [he])
    rw [pieces]
    · rw [ih fun hr => h (List.mem_cons_of_mem _ hr)]
      rfl
    all_goals (intros; simp_all)

private theorem mapM_literal (lookup : String → Option String) (cs : List Char) :
    (cs.map Piece.literal).mapM (Piece.fill? lookup) = some (cs.map ([·])) := by
  induction cs with
  | nil => rfl
  | cons c rest ih => simp [ih, Piece.fill?]

/-- Text without a dollar sign fills to itself, whatever the variables. -/
theorem fill?_of_no_dollar {lookup : String → Option String} {cs : List Char} (h : '$' ∉ cs) :
    fill? lookup cs = some cs := by
  have hf : ∀ l : List Char, (l.map ([·])).flatten = l := by
    intro l
    induction l with
    | nil => rfl
    | cons c rest ih => simpa using ih
  rw [fill?, pieces_of_no_dollar h, mapM_literal, Option.map_some, hf]

theorem expandTilde_of_head_ne {home : Option String} {cs : List Char}
    (h : cs.head? ≠ some '~') : expandTilde home cs = cs := by
  unfold expandTilde
  split <;> simp_all

/-- Text without a dollar sign and without a leading tilde stays as it is. -/
theorem expand_of_plain {lookup : String → Option String} {home : Option String} {s : String}
    (hd : '$' ∉ s.toList) (ht : s.toList.head? ≠ some '~') : expand lookup home s = s := by
  simp [expand, expandChars, fill?_of_no_dollar hd, hd, expandTilde_of_head_ne ht]

/-- A reference without a value keeps the whole text as it is. -/
theorem expand_of_missing {lookup : String → Option String} {home : Option String} {s : String}
    (h : fill? lookup s.toList = none) : expand lookup home s = s := by
  simp [expand, expandChars, h]

end MarketFeed.Expansion
