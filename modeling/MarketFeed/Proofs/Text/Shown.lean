import MarketFeed.Proofs.Text.Encoding

/-!
# The text shown for bytes

Bytes that encode no text are shown with a sign for each ill-formed stretch.  Whatever the bytes
are, a plain character is shown only where its own byte stands: none comes out of a longer form,
of a stretch that is cut off, or of the sign.

* `IsPlain`              — the characters that one byte encodes, but for the zero byte's.
* `Reader.IsWide`        — the character that a reader is inside of is not plain.
* `start_cases`, `step_inside_cases`, `start_spec`, `step_spec` — what one byte shows and where it
                           leads.
* `byteOf_mem_of_mem_run`, `not_isPlain_head?_run` — what a run shows, anywhere and first.
* `byteOf_mem_of_mem_lossy`, `head?_of_head?_lossy` — the same for the text of any bytes.
-/

namespace MarketFeed.Utf8

/-! ## Plain characters -/

/-- The character has a byte of its own, and that byte is not zero. -/
def IsPlain (c : Char) : Prop := c.toNat ≠ 0 ∧ c.toNat < 0x80

instance (c : Char) : Decidable (IsPlain c) := inferInstanceAs (Decidable (_ ∧ _))

/-- The byte of a plain character. -/
def byteOf (c : Char) : UInt8 := UInt8.ofNat c.toNat

theorem not_isPlain_replacement : ¬IsPlain replacement := by decide

theorem not_isPlain_ofNat {code : Nat} (hCode : 0x80 ≤ code) : ¬IsPlain (Char.ofNat code) := by
  rintro ⟨hZero, hLow⟩
  -- a number that no character has gives the zero character
  by_cases hValid : code.isValidChar
  · have hSame := toNat_ofNat_of_isValidChar hValid
    omega
  · rw [Char.ofNat, dif_neg hValid] at hZero
    exact hZero rfl

/-- A plain character is encoded by its own byte. -/
theorem utf8EncodeChar_of_isPlain {c : Char} (hPlain : IsPlain c) :
    String.utf8EncodeChar c = [byteOf c] :=
  utf8EncodeChar_of_ascii (Nat.le_of_lt_succ hPlain.2)

namespace Reader

/-! ## One byte -/

/-- The character that the reader is inside of has more than seven bits, whatever its bytes to
come are: they are there already, or the next byte brings them. -/
def IsWide : Reader → Prop
  | .boundary => True
  | .inside code left low _ => 2 ≤ code ∨ (2 ≤ left ∧ 2 ≤ code * 64 + (low.toNat - 0x80))

/-- A first byte is a character by itself, leads into one that is not plain, or is ill-formed. -/
theorem start_cases (b : UInt8) :
    (b.toNat < 0x80 ∧ start b = ([Char.ofNat b.toNat], .boundary)) ∨
      (∃ r : Reader, r.IsWide ∧ r ≠ .boundary ∧ start b = ([], r)) ∨
      start b = ([replacement], .boundary) := by
  have hWide : ∀ {code left : Nat} {low high : UInt8},
      2 ≤ code ∨ (2 ≤ left ∧ 2 ≤ code * 64 + (low.toNat - 0x80)) →
        ∃ r : Reader, r.IsWide ∧ r ≠ .boundary ∧
          (([], .inside code left low high) : List Char × Reader) = ([], r) :=
    fun {code left low high} h => ⟨.inside code left low high, h, Reader.noConfusion, rfl⟩
  unfold start
  simp only [Bool.and_eq_true, decide_eq_true_eq, UInt8.le_iff_toNat_le, UInt8.lt_iff_toNat_lt]
  -- the longer the character is, the more of it the limits on the next byte have to tell
  split
  · next hShort => exact Or.inl ⟨hShort, rfl⟩
  right
  split
  · next hTwo =>
    have hLow : 0xC2 ≤ b.toNat := hTwo.1
    exact Or.inl (hWide (Or.inl (by omega)))
  split
  · exact Or.inl (hWide (by decide))
  split
  · exact Or.inl (hWide (by decide))
  split
  · next hThree =>
    have hLow : 0xE1 ≤ b.toNat := hThree.1
    exact Or.inl (hWide (Or.inr ⟨by decide, by omega⟩))
  split
  · exact Or.inl (hWide (by decide))
  split
  · next hFour =>
    have hLow : 0xF1 ≤ b.toNat := hFour.1
    exact Or.inl (hWide (Or.inr ⟨by decide, by omega⟩))
  split
  · exact Or.inl (hWide (by decide))
  · exact Or.inr rfl

/-- The first byte of a character shows nothing plain but itself, and a byte that shows nothing
leads into a character. -/
theorem start_spec (b : UInt8) :
    (start b).2.IsWide ∧ (∀ c ∈ (start b).1, IsPlain c → byteOf c = b) ∧
      ((start b).1 = [] → (start b).2 ≠ .boundary) := by
  rcases start_cases b with ⟨hShort, h⟩ | ⟨r, hWide, hInside, h⟩ | h <;> rw [h]
  · refine ⟨trivial, fun c hMem _ => ?_, fun hNone => absurd hNone (List.cons_ne_nil _ _)⟩
    have hValid : b.toNat.isValidChar := Or.inl (by omega)
    rw [List.mem_singleton.mp hMem, byteOf, toNat_ofNat_of_isValidChar hValid]
    exact UInt8.ofNat_toNat
  · exact ⟨hWide, fun c hMem => absurd hMem List.not_mem_nil, fun _ => hInside⟩
  · refine ⟨trivial, fun c hMem hPlain => ?_, fun hNone => absurd hNone (List.cons_ne_nil _ _)⟩
    rw [List.mem_singleton.mp hMem] at hPlain
    exact absurd hPlain not_isPlain_replacement

/-- A byte inside of a character ends it, goes on with it, or cuts it off and begins another. -/
theorem step_inside_cases (code left : Nat) (low high b : UInt8) :
    let r := (inside code left low high).step b
    let more := code * 64 + (b.toNat - 0x80)
    (left ≤ 1 ∧ r = ([Char.ofNat more], .boundary)) ∨
      (2 ≤ left ∧ low.toNat ≤ b.toNat ∧ r = ([], .inside more (left - 1) 0x80 0xBF)) ∨
      r = (replacement :: (start b).1, (start b).2) := by
  intro r more
  by_cases hGoesOn : (decide (low ≤ b) && decide (b ≤ high)) = true
  · have hStep : r = if left ≤ 1 then ([Char.ofNat more], .boundary)
        else ([], .inside more (left - 1) 0x80 0xBF) := if_pos hGoesOn
    by_cases hLast : left ≤ 1
    · exact Or.inl ⟨hLast, by rw [hStep, if_pos hLast]⟩
    · rw [Bool.and_eq_true, decide_eq_true_iff, UInt8.le_iff_toNat_le] at hGoesOn
      exact Or.inr (Or.inl ⟨by omega, hGoesOn.1, by rw [hStep, if_neg hLast]⟩)
  · exact Or.inr (Or.inr (if_neg hGoesOn))

/-- No byte shows anything plain but itself, and what it leads into stays wide. -/
theorem step_spec {r : Reader} (hWide : r.IsWide) (b : UInt8) :
    (r.step b).2.IsWide ∧ ∀ c ∈ (r.step b).1, IsPlain c → byteOf c = b := by
  obtain ⟨hStart, hFirst, -⟩ := start_spec b
  rcases r with _ | ⟨code, left, low, high⟩
  · exact ⟨hStart, hFirst⟩
  rcases step_inside_cases code left low high b with ⟨hLast, h⟩ | ⟨hMore, hLow, h⟩ | h <;> rw [h]
  · refine ⟨trivial, fun c hMem hPlain => ?_⟩
    -- with its last byte to come the character is wide already
    have hCode : 2 ≤ code := hWide.resolve_right fun h => absurd h.1 (by omega)
    rw [List.mem_singleton.mp hMem] at hPlain
    exact absurd hPlain (not_isPlain_ofNat (by omega))
  · refine ⟨Or.inl ?_, fun c hMem => absurd hMem List.not_mem_nil⟩
    rcases hWide with hCode | ⟨-, hNext⟩
    · omega
    · omega
  · refine ⟨hStart, fun c hMem hPlain => ?_⟩
    rcases List.mem_cons.mp hMem with rfl | hMem
    · exact absurd hPlain not_isPlain_replacement
    · exact hFirst c hMem hPlain

/-! ## A run -/

/-- A plain character is shown only where its byte stands. -/
theorem byteOf_mem_of_mem_run {r : Reader} (hWide : r.IsWide) {bytes : Bytes} {c : Char}
    (hMem : c ∈ r.run bytes) (hPlain : IsPlain c) : byteOf c ∈ bytes := by
  -- by induction on the bytes, for whatever the reader is inside of
  induction bytes generalizing r with
  | nil =>
    rcases r with _ | _
    · exact absurd hMem List.not_mem_nil
    · rw [List.mem_singleton.mp hMem] at hPlain
      exact absurd hPlain not_isPlain_replacement
  | cons b rest ih =>
    obtain ⟨hNext, hShown⟩ := step_spec hWide b
    rw [run] at hMem
    rcases List.mem_append.mp hMem with hMem | hMem
    · rw [hShown c hMem hPlain]
      exact List.mem_cons_self
    · exact List.mem_cons_of_mem _ (ih hNext hMem)

/-- What a reader shows first that is inside of a character is nothing plain. -/
theorem not_isPlain_head?_run {code left : Nat} {low high : UInt8} {bytes : Bytes} {c : Char}
    (hWide : (inside code left low high).IsWide)
    (hHead : ((inside code left low high).run bytes).head? = some c) : ¬IsPlain c := by
  induction bytes generalizing code left low high with
  | nil =>
    obtain rfl := Option.some.inj hHead
    exact not_isPlain_replacement
  | cons b rest ih =>
    have hNext := (step_spec hWide b).1
    rw [run] at hHead
    rcases step_inside_cases code left low high b with ⟨hLast, h⟩ | ⟨-, -, h⟩ | h <;>
      rw [h] at hHead hNext
    · have hCode : 2 ≤ code := hWide.resolve_right fun h => absurd h.1 (by omega)
      obtain rfl := Option.some.inj hHead
      exact not_isPlain_ofNat (by omega)
    · exact ih hNext hHead
    · obtain rfl := Option.some.inj hHead
      exact not_isPlain_replacement

end Reader

/-! ## The text of any bytes -/

/-- A plain character of the text shown stands in the bytes. -/
theorem byteOf_mem_of_mem_lossy {bytes : Bytes} {c : Char} (hMem : c ∈ (lossy bytes).toList)
    (hPlain : IsPlain c) : byteOf c ∈ bytes := by
  unfold lossy at hMem
  split at hMem
  · next s hDecode =>
    rw [← encode_of_decode? hDecode, encode, List.mem_flatMap]
    exact ⟨c, hMem, by rw [utf8EncodeChar_of_isPlain hPlain]; exact List.mem_singleton_self _⟩
  · rw [String.toList_ofList] at hMem
    exact Reader.byteOf_mem_of_mem_run (r := .boundary) trivial hMem hPlain

/-- A plain character at the start of the text shown is the first byte. -/
theorem head?_of_head?_lossy {bytes : Bytes} {c : Char}
    (hHead : (lossy bytes).toList.head? = some c) (hPlain : IsPlain c) :
    bytes.head? = some (byteOf c) := by
  unfold lossy at hHead
  split at hHead
  · next s hDecode =>
    obtain ⟨rest, hChars⟩ := List.head?_eq_some_iff.mp hHead
    rw [← encode_of_decode? hDecode, encode, hChars, List.flatMap_cons,
      utf8EncodeChar_of_isPlain hPlain]
    rfl
  · rw [String.toList_ofList] at hHead
    rcases bytes with _ | ⟨b, rest⟩
    · cases hHead
    obtain ⟨hNext, hShown, hSilent⟩ := Reader.start_spec b
    have hRun : Reader.boundary.run (b :: rest) =
        (Reader.start b).1 ++ (Reader.start b).2.run rest := rfl
    rw [hRun] at hHead
    rcases hFirst : (Reader.start b).1 with _ | ⟨first, more⟩ <;> rw [hFirst] at hHead
    · -- a first byte that shows nothing leads into a character
      rcases hInside : (Reader.start b).2 with _ | _
      · exact absurd hInside (hSilent hFirst)
      · rw [hInside] at hNext hHead
        exact absurd hPlain (Reader.not_isPlain_head?_run hNext hHead)
    · obtain rfl := Option.some.inj hHead
      rw [hShown first (by rw [hFirst]; exact List.mem_cons_self) hPlain]
      rfl

end MarketFeed.Utf8
