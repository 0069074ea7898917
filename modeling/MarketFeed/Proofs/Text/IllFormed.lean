import MarketFeed.Proofs.Text.Shown

/-!
# The sign for what is no text

Bytes that are no text are shown with the sign for an ill-formed stretch somewhere: a reader that
never shows it has shown characters whose forms are the bytes, one after the other.

* `Completes`           — whatever bytes the reader accepts next, they complete a character.
* `completes_two`, `_three`, `_four` — they do behind a first byte, by the length of the form.
* `Reader.Begun`        — the bytes that a reader has taken for a character it has not shown.
* `Reader.start_begun`, `Reader.step_begun` — they are kept up byte by byte.
* `Reader.flatMap_run`  — a run without the sign shows just what its bytes encode.
* `replacement_mem_lossy` — bytes that are no text are shown with the sign.
-/

namespace MarketFeed.Utf8

/-! ## A character begun -/

/-- The bytes `before` begin a character with the number `code` so far, which any `left` bytes
complete that a reader accepts: the first of them lies in `low … high`, and behind it stand
continuation bytes. -/
def Completes : Nat → UInt8 → UInt8 → Nat → Bytes → Prop
  | 0, _, _, code, before => String.utf8EncodeChar (Char.ofNat code) = before
  | left + 1, low, high, code, before =>
    ∀ b, low ≤ b → b ≤ high →
      Completes left 0x80 0xBF (code * 64 + (b.toNat - 0x80)) (before ++ [b])

theorem ofNat_eq_of_toNat {n : Nat} {b : UInt8} (hSame : n = b.toNat) : UInt8.ofNat n = b := by
  rw [hSame]
  exact UInt8.ofNat_toNat

theorem completes_two {b : UInt8} {code : Nat} (hFirst : b.toNat = code + 0xC0) (hLow : 2 ≤ code)
    (hHigh : code ≤ 0x1F) : Completes 1 0x80 0xBF code [b] := by
  intro c hLowC hHighC
  have hc : 0x80 ≤ c.toNat ∧ c.toNat ≤ 0xBF :=
    ⟨UInt8.le_iff_toNat_le.mp hLowC, UInt8.le_iff_toNat_le.mp hHighC⟩
  show String.utf8EncodeChar _ = [b, c]
  rw [utf8EncodeChar_ofNat_two (by omega) (by omega), ofNat_eq_of_toNat (b := b) (by omega),
    ofNat_eq_of_toNat (b := c) (by omega)]

/-- Behind the first of three bytes the next one is limited, so that no shorter form and no
surrogate comes out. -/
theorem completes_three {b low high : UInt8} {code : Nat} (hFirst : b.toNat = code + 0xE0)
    (hCode : code ≤ 0xF) (hLow : 0x80 ≤ low.toNat ∧ (code = 0 → 0xA0 ≤ low.toNat))
    (hHigh : high.toNat ≤ 0xBF ∧ (code = 0xD → high.toNat ≤ 0x9F)) :
    Completes 2 low high code [b] := by
  intro c hLowC hHighC d hLowD hHighD
  rw [UInt8.le_iff_toNat_le] at hLowC hHighC
  have hd : 0x80 ≤ d.toNat ∧ d.toNat ≤ 0xBF :=
    ⟨UInt8.le_iff_toNat_le.mp hLowD, UInt8.le_iff_toNat_le.mp hHighD⟩
  have hValid : ((code * 64 + (c.toNat - 0x80)) * 64 + (d.toNat - 0x80)).isValidChar := by
    unfold Nat.isValidChar
    omega
  show String.utf8EncodeChar _ = [b, c, d]
  rw [utf8EncodeChar_ofNat_three hValid (by omega) (by omega),
    ofNat_eq_of_toNat (b := b) (by omega), ofNat_eq_of_toNat (b := c) (by omega),
    ofNat_eq_of_toNat (b := d) (by omega)]

theorem completes_four {b low high : UInt8} {code : Nat} (hFirst : b.toNat = code + 0xF0)
    (hCode : code ≤ 4) (hLow : 0x80 ≤ low.toNat ∧ (code = 0 → 0x90 ≤ low.toNat))
    (hHigh : high.toNat ≤ 0xBF ∧ (code = 4 → high.toNat ≤ 0x8F)) :
    Completes 3 low high code [b] := by
  intro c hLowC hHighC d hLowD hHighD f hLowF hHighF
  rw [UInt8.le_iff_toNat_le] at hLowC hHighC
  have hd : 0x80 ≤ d.toNat ∧ d.toNat ≤ 0xBF :=
    ⟨UInt8.le_iff_toNat_le.mp hLowD, UInt8.le_iff_toNat_le.mp hHighD⟩
  have hf : 0x80 ≤ f.toNat ∧ f.toNat ≤ 0xBF :=
    ⟨UInt8.le_iff_toNat_le.mp hLowF, UInt8.le_iff_toNat_le.mp hHighF⟩
  show String.utf8EncodeChar _ = [b, c, d, f]
  rw [utf8EncodeChar_ofNat_four (by omega) (by omega),
    ofNat_eq_of_toNat (b := b) (by omega), ofNat_eq_of_toNat (b := c) (by omega),
    ofNat_eq_of_toNat (b := d) (by omega), ofNat_eq_of_toNat (b := f) (by omega)]

namespace Reader

/-- The bytes of the character that the reader is inside of, as far as it has come. -/
def Begun (before : Bytes) : Reader → Prop
  | .boundary => before = []
  | .inside code left low high => 0 < left ∧ Completes left low high code before

/-! ## One byte -/

/-- A first byte that does not show the sign is shown as its own character, or it begins one. -/
theorem start_begun {b : UInt8} (hClean : replacement ∉ (start b).1) :
    ∃ after, [b] = (start b).1.flatMap String.utf8EncodeChar ++ after ∧
      (start b).2.Begun after := by
  -- a byte that shows nothing is kept
  have hKept : ∀ {code left : Nat} {low high : UInt8}, 0 < left →
      Completes left low high code [b] → ∃ after,
        [b] = ([] : List Char).flatMap String.utf8EncodeChar ++ after ∧
          (inside code left low high).Begun after :=
    fun hLeft hCompletes => ⟨[b], rfl, hLeft, hCompletes⟩
  revert hClean
  unfold start
  simp only [Bool.and_eq_true, decide_eq_true_eq, UInt8.le_iff_toNat_le, UInt8.lt_iff_toNat_lt,
    beq_iff_eq]
  split
  · next hShort =>
    have hCode : b.toNat ≤ 0x7F := Nat.le_of_lt_succ hShort
    have hSame : (Char.ofNat b.toNat).toNat = b.toNat :=
      toNat_ofNat_of_isValidChar (Or.inl (by omega))
    intro _
    refine ⟨[], ?_, rfl⟩
    rw [List.flatMap_singleton, utf8EncodeChar_of_ascii (by rw [hSame]; exact hCode), hSame,
      ofNat_eq_of_toNat rfl, List.append_nil]
  split
  · next hTwo =>
    have hb : 0xC2 ≤ b.toNat ∧ b.toNat ≤ 0xDF := hTwo
    exact fun _ => hKept (by decide) (completes_two (by omega) (by omega) (by omega))
  split
  · next h =>
    exact fun _ => hKept (by decide) (completes_three (by rw [h]; rfl) (by decide) (by decide)
      (by decide))
  split
  · next h =>
    exact fun _ => hKept (by decide) (completes_three (by rw [h]; rfl) (by decide) (by decide)
      (by decide))
  split
  · next hZero hSurrogates hThree =>
    -- neither of the two first bytes with a limit of their own comes here
    have hb : 0xE1 ≤ b.toNat ∧ b.toNat ≤ 0xEF := hThree
    have hOther : b.toNat ≠ 0xED := fun h => hSurrogates (UInt8.toNat_inj.mp h)
    exact fun _ => hKept (by decide) (completes_three (by omega) (by omega)
      ⟨by decide, by omega⟩ ⟨by decide, by omega⟩)
  split
  · next h =>
    exact fun _ => hKept (by decide) (completes_four (by rw [h]; rfl) (by decide) (by decide)
      (by decide))
  split
  · next hFour =>
    have hb : 0xF1 ≤ b.toNat ∧ b.toNat ≤ 0xF3 := hFour
    exact fun _ => hKept (by decide) (completes_four (by omega) (by omega)
      ⟨by decide, by omega⟩ ⟨by decide, by omega⟩)
  split
  · next h =>
    exact fun _ => hKept (by decide) (completes_four (by rw [h]; rfl) (by decide) (by decide)
      (by decide))
  · exact fun hClean => absurd (List.mem_singleton_self _) hClean

/-- A byte that does not show the sign goes on with the character begun, or it ends it, which is
shown then. -/
theorem step_begun {r : Reader} {before : Bytes} (hBegun : r.Begun before) {b : UInt8}
    (hClean : replacement ∉ (r.step b).1) :
    ∃ after, before ++ [b] = (r.step b).1.flatMap String.utf8EncodeChar ++ after ∧
      (r.step b).2.Begun after := by
  rcases r with _ | ⟨code, left, low, high⟩
  · obtain rfl : before = [] := hBegun
    exact start_begun hClean
  obtain ⟨hLeft, hCompletes⟩ := hBegun
  obtain ⟨left, rfl⟩ := Nat.exists_eq_succ_of_ne_zero (Nat.ne_of_gt hLeft)
  rw [step] at hClean ⊢
  split at hClean
  · next hAccepted =>
    rw [if_pos hAccepted]
    rw [Bool.and_eq_true, decide_eq_true_iff, decide_eq_true_iff] at hAccepted
    have hNext := hCompletes b hAccepted.1 hAccepted.2
    rcases left with _ | left
    · exact ⟨[], by rw [if_pos (by decide), List.flatMap_singleton, hNext, List.append_nil], rfl⟩
    · rw [if_neg (by omega)]
      exact ⟨before ++ [b], rfl, Nat.succ_pos left, hNext⟩
  · exact absurd List.mem_cons_self hClean

/-! ## A run -/

/-- A run that never shows the sign shows just what its bytes encode, those of the character begun
before it included. -/
theorem flatMap_run {r : Reader} {before bytes : Bytes} (hBegun : r.Begun before)
    (hClean : replacement ∉ r.run bytes) :
    before ++ bytes = (r.run bytes).flatMap String.utf8EncodeChar := by
  -- by induction on the bytes, for whatever has been begun
  induction bytes generalizing r before with
  | nil =>
    rcases r with _ | _
    · rw [show before = [] from hBegun]
      rfl
    · exact absurd (List.mem_singleton_self _) hClean
  | cons b rest ih =>
    rw [run, List.mem_append, not_or] at hClean
    obtain ⟨after, hSplit, hNext⟩ := step_begun hBegun hClean.1
    calc before ++ b :: rest
        = (before ++ [b]) ++ rest := List.append_cons before b rest
      _ = (r.step b).1.flatMap String.utf8EncodeChar ++ (after ++ rest) := by
          rw [hSplit, List.append_assoc]
      _ = (r.run (b :: rest)).flatMap String.utf8EncodeChar := by
          rw [ih hNext hClean.2, run, List.flatMap_append]

end Reader

/-! ## The text of any bytes -/

/-- Bytes that are no text are shown with the sign. -/
theorem replacement_mem_lossy {bytes : Bytes} (hBroken : decode? bytes = none) :
    replacement ∈ (lossy bytes).toList := by
  rw [lossy, hBroken, String.toList_ofList]
  refine Decidable.byContradiction fun hClean => ?_
  have hBegun : Reader.boundary.Begun [] := rfl
  have hBytes := Reader.flatMap_run hBegun hClean
  rw [List.nil_append] at hBytes
  rw [hBytes, decode?_flatMap] at hBroken
  cases hBroken

end MarketFeed.Utf8
