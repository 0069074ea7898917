import MarketFeed.Terminal.Style
import MarketFeed.Text.Utf8

/-!
# Text without control sequences

What is left of text when all that a terminal obeys instead of showing it is taken out.

* `Sequence`       — how far a control sequence has come.
* `Sequence.shows` — whether a byte is shown there.
* `Sequence.next`  — how far the sequence is after a byte.
* `plain`          — the text that is left.

Main statements: `plain_eq_self` — text without controls stays as it is; `plain_paint` — colour
leaves no trace.
-/

namespace MarketFeed.Terminal

/-- How far a control sequence has come. -/
inductive Sequence where
  /-- No sequence has begun. -/
  | outside
  /-- The escape that begins one has been read. -/
  | begun
  /-- The sequence names what follows by bytes that come before its last one. -/
  | named
  /-- The sequence is a control with parameters, which a letter ends. -/
  | control
  /-- The sequence is text for the terminal; with `bell`, a bell ends it. -/
  | text (bell : Bool)
  deriving DecidableEq, Repr

namespace Sequence

/-- The controls that lay out text: tab, line feed, form feed and carriage return. -/
def isLayout (b : UInt8) : Bool := b == 0x09 || b == 0x0A || b == 0x0C || b == 0x0D

/-- The byte goes on with a character of more than one byte. -/
def isContinuation (b : UInt8) : Bool := 0x80 ≤ b && b ≤ 0xBF

/-- A byte is shown.  Inside a sequence only bytes that no sequence holds are. -/
def shows : Sequence → UInt8 → Bool
  | outside, b => 0x20 ≤ b && b != 0x7F || isLayout b
  | begun, b => isLayout b || isContinuation b
  | named, b => isLayout b || isContinuation b
  | control, b => isLayout b || isContinuation b
  | text _, b => isContinuation b

/-- How far the sequence is after a byte that does not show, cancel it or begin another. -/
def goOn : Sequence → UInt8 → Sequence
  | outside, _ => outside
  | begun, b =>
    if b == 0x5B then control
    else if b == 0x5D then text true
    else if b == 0x50 || b == 0x58 || b == 0x5E || b == 0x5F then text false
    else if 0x20 ≤ b && b ≤ 0x2F then named
    else if 0x30 ≤ b && b ≤ 0x7E then outside
    else begun
  | named, b => if 0x30 ≤ b && b ≤ 0x7E then outside else named
  | control, b => if 0x40 ≤ b && b ≤ 0x7E then outside else control
  | text bell, b => if bell && b == 0x07 then outside else text bell

/-- How far the sequence is after a byte. -/
def next (s : Sequence) (b : UInt8) : Sequence :=
  if s.shows b then outside
  else if b == 0x1B then begun
  -- cancel and substitute end every sequence
  else if b == 0x18 || b == 0x1A then outside
  else s.goOn b

/-- The bytes that are shown. -/
def shown : Sequence → Bytes → Bytes
  | _, [] => []
  | s, b :: rest => if s.shows b then b :: (s.next b).shown rest else (s.next b).shown rest

/-- How far the sequence is after some bytes. -/
def after (s : Sequence) (bytes : Bytes) : Sequence := bytes.foldl next s

end Sequence

/-- The text without control sequences and without the controls that do not lay out text. -/
def plain (s : String) : String := Utf8.lossy (Sequence.outside.shown (Utf8.encode s))

/-! ## Laws -/

namespace Sequence

theorem shown_append (s : Sequence) (a b : Bytes) :
    s.shown (a ++ b) = s.shown a ++ (s.after a).shown b := by
  induction a generalizing s with
  | nil => rfl
  | cons x a ih =>
    have : s.after (x :: a) = (s.next x).after a := rfl
    by_cases h : s.shows x <;> simp [shown, h, ih, this]

theorem after_append (s : Sequence) (a b : Bytes) : s.after (a ++ b) = (s.after a).after b := by
  simp [after]

/-- Bytes that show outside all sequences are all left. -/
theorem shown_eq_self {bytes : Bytes} (h : ∀ b ∈ bytes, outside.shows b = true) :
    outside.shown bytes = bytes := by
  induction bytes with
  | nil => rfl
  | cons b rest ih =>
    have hb := h b List.mem_cons_self
    have : outside.next b = outside := by simp [next, hb]
    rw [shown, if_pos hb, this, ih fun c hc => h c (List.mem_cons_of_mem _ hc)]

end Sequence

/-- Text without controls stays as it is. -/
theorem plain_eq_self {s : String}
    (h : ∀ b ∈ Utf8.encode s, Sequence.outside.shows b = true) : plain s = s := by
  rw [plain, Sequence.shown_eq_self h, Utf8.lossy_encode]

/-- What switches styles off is not shown, and ends every sequence. -/
theorem shown_reset (q : Sequence) :
    q.shown (Style.reset.flatMap String.utf8EncodeChar) = [] ∧
      q.after (Style.reset.flatMap String.utf8EncodeChar) = .outside := by
  cases q with
  | text bell => cases bell <;> decide
  | _ => decide

/-- What switches a style on is not shown. -/
theorem shown_opening (s : Style) :
    Sequence.outside.shown (s.opening.flatMap String.utf8EncodeChar) = [] ∧
      Sequence.outside.after (s.opening.flatMap String.utf8EncodeChar) = .outside := by
  cases s <;> decide +kernel

/-- Switching a style on again after each reset shows nothing more. -/
theorem shown_reopened (s : Style) (cs : List Char) (q : Sequence) :
    q.shown ((s.reopened cs).flatMap String.utf8EncodeChar) =
        q.shown (cs.flatMap String.utf8EncodeChar) ∧
      q.after ((s.reopened cs).flatMap String.utf8EncodeChar) =
        q.after (cs.flatMap String.utf8EncodeChar) := by
  fun_induction Style.reopened s cs generalizing q with
  | case1 rest ih =>
    have (tail : List Char) : '\x1b' :: '[' :: '0' :: 'm' :: tail = Style.reset ++ tail := rfl
    simp only [this, List.flatMap_append, Sequence.shown_append, Sequence.after_append,
      shown_reset, shown_opening]
    simpa using ih .outside
  | case2 c rest _ ih =>
    simp only [List.flatMap_cons, Sequence.shown_append, Sequence.after_append]
    simp [ih]
  | case3 => exact ⟨rfl, rfl⟩

/-- Colour leaves no trace. -/
theorem plain_paint (s : Style) (colour : Bool) (text : String) :
    plain (s.paint colour text) = plain text := by
  cases colour with
  | false => rfl
  | true =>
    simp only [plain, Style.paint, Utf8.encode, String.toList_ofList, List.flatMap_append,
      Sequence.shown_append, Sequence.after_append, shown_opening, shown_reset, shown_reopened,
      if_true, List.nil_append, List.append_nil]

end MarketFeed.Terminal
