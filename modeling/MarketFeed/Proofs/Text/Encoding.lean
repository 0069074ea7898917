import MarketFeed.Text.Utf8

/-!
# Encoded characters

What the bytes of a character are, by the length of its form, and where a text can be cut so that
both parts are text.

* `utf8EncodeChar_of_ascii`  — a character of ASCII is its own byte.
* `utf8EncodeChar_ofNat_two`, `_three`, `_four` — the longer forms, told by the character's number.
* `utf8EncodeChar_of_mem`    — a byte of ASCII stands for itself alone.
* `exists_cons_of_flatMap`   — a text that begins with a byte of ASCII begins with its character.
* `decode?_isSome_of_append` — what stands in front of a byte of ASCII in a text is text.
-/

namespace MarketFeed.Utf8

theorem toNat_ofNat_of_isValidChar {code : Nat} (hValid : code.isValidChar) :
    (Char.ofNat code).toNat = code := by
  rw [Char.ofNat, dif_pos hValid]
  rfl

/-! ## The forms of a character -/

/-- A character of ASCII is its own byte. -/
theorem utf8EncodeChar_of_ascii {c : Char} (hAscii : c.toNat ≤ 0x7F) :
    String.utf8EncodeChar c = [UInt8.ofNat c.toNat] :=
  if_pos hAscii

theorem utf8EncodeChar_ofNat_two {n : Nat} (hLow : 0x80 ≤ n) (hHigh : n ≤ 0x7FF) :
    String.utf8EncodeChar (Char.ofNat n) =
      [UInt8.ofNat (n / 64 + 0xC0), UInt8.ofNat (n % 64 + 0x80)] := by
  have hCode : (Char.ofNat n).val.toNat = n :=
    toNat_ofNat_of_isValidChar (Or.inl (by omega))
  unfold String.utf8EncodeChar
  rw [hCode, if_neg (by omega), if_pos hHigh]
  rw [show n / 64 % 32 = n / 64 by omega]

theorem utf8EncodeChar_ofNat_three {n : Nat} (hValid : n.isValidChar) (hLow : 0x800 ≤ n)
    (hHigh : n ≤ 0xFFFF) :
    String.utf8EncodeChar (Char.ofNat n) =
      [UInt8.ofNat (n / 4096 + 0xE0), UInt8.ofNat (n / 64 % 64 + 0x80),
        UInt8.ofNat (n % 64 + 0x80)] := by
  have hCode : (Char.ofNat n).val.toNat = n := toNat_ofNat_of_isValidChar hValid
  unfold String.utf8EncodeChar
  rw [hCode, if_neg (by omega), if_neg (by omega), if_pos hHigh]
  rw [show n / 4096 % 16 = n / 4096 by omega]

theorem utf8EncodeChar_ofNat_four {n : Nat} (hLow : 0x10000 ≤ n) (hHigh : n ≤ 0x10FFFF) :
    String.utf8EncodeChar (Char.ofNat n) =
      [UInt8.ofNat (n / 262144 + 0xF0), UInt8.ofNat (n / 4096 % 64 + 0x80),
        UInt8.ofNat (n / 64 % 64 + 0x80), UInt8.ofNat (n % 64 + 0x80)] := by
  have hCode : (Char.ofNat n).val.toNat = n :=
    toNat_ofNat_of_isValidChar (Or.inr ⟨by omega, by omega⟩)
  unfold String.utf8EncodeChar
  rw [hCode, if_neg (by omega), if_neg (by omega), if_neg (by omega)]
  rw [show n / 262144 % 8 = n / 262144 by omega]

/-! ## Bytes of ASCII -/

/-- A byte of ASCII stands for itself alone: every byte of a longer form has its highest bit set. -/
theorem utf8EncodeChar_of_mem {c : Char} {b : UInt8} (hMem : b ∈ String.utf8EncodeChar c)
    (hAscii : b.toNat < 0x80) : c.toNat = b.toNat ∧ String.utf8EncodeChar c = [b] := by
  have hHigh : ∀ n : Nat, b = UInt8.ofNat n → n % 256 < 0x80 := by
    rintro n rfl
    simpa using hAscii
  by_cases hShort : c.toNat ≤ 0x7F
  · rw [utf8EncodeChar_of_ascii hShort, List.mem_singleton] at hMem
    subst hMem
    refine ⟨?_, utf8EncodeChar_of_ascii hShort⟩
    have hFits : c.toNat % 256 = c.toNat := Nat.mod_eq_of_lt (by omega)
    simpa using hFits.symm
  · exfalso
    have hLong : ¬c.val.toNat ≤ 127 := hShort
    unfold String.utf8EncodeChar at hMem
    dsimp only at hMem
    rw [if_neg hLong] at hMem
    split at hMem
    · simp only [List.mem_cons, List.not_mem_nil, or_false] at hMem
      rcases hMem with h | h <;> have := hHigh _ h <;> omega
    · split at hMem
      · simp only [List.mem_cons, List.not_mem_nil, or_false] at hMem
        rcases hMem with h | h | h <;> have := hHigh _ h <;> omega
      · simp only [List.mem_cons, List.not_mem_nil, or_false] at hMem
        rcases hMem with h | h | h | h <;> have := hHigh _ h <;> omega

/-- A text can be cut in front of a byte of ASCII. -/
theorem exists_flatMap_of_append {cs : List Char} {front rest : Bytes} {b : UInt8}
    (hAscii : b.toNat < 0x80) (hCut : cs.flatMap String.utf8EncodeChar = front ++ b :: rest) :
    ∃ before : List Char, front = before.flatMap String.utf8EncodeChar := by
  -- by induction on the characters, until the one whose form holds the byte
  induction cs generalizing front with
  | nil => simp at hCut
  | cons c cs ih =>
    rw [List.flatMap_cons] at hCut
    rcases List.append_eq_append_iff.mp hCut with ⟨more, rfl, hRest⟩ | ⟨more, hForm, hRest⟩
    · obtain ⟨before, rfl⟩ := ih hRest
      exact ⟨c :: before, List.flatMap_cons.symm⟩
    · rcases more with _ | ⟨first, more⟩
      · exact ⟨[c], by rw [List.flatMap_singleton, hForm, List.append_nil]⟩
      · obtain rfl := (List.cons.inj hRest).1
        obtain ⟨-, hAlone⟩ := utf8EncodeChar_of_mem (b := b) (by rw [hForm]; simp) hAscii
        rw [hAlone] at hForm
        have hLength := congrArg List.length hForm
        rw [List.length_append, List.length_singleton, List.length_cons] at hLength
        have hEmpty : front.length = 0 := by omega
        exact ⟨[], List.eq_nil_of_length_eq_zero hEmpty⟩

/-- A text whose first byte is one of ASCII begins with the character of that byte. -/
theorem exists_cons_of_flatMap {cs : List Char} {b : UInt8} {rest : Bytes}
    (hAscii : b.toNat < 0x80) (hForm : cs.flatMap String.utf8EncodeChar = b :: rest) :
    ∃ more, cs = Char.ofNat b.toNat :: more ∧ more.flatMap String.utf8EncodeChar = rest := by
  rcases cs with _ | ⟨c, more⟩
  · exact nomatch hForm
  rw [List.flatMap_cons] at hForm
  have hMem : b ∈ String.utf8EncodeChar c := by
    rcases hFirst : String.utf8EncodeChar c with _ | ⟨first, others⟩
    · have hLength := String.length_utf8EncodeChar c
      rw [hFirst] at hLength
      exact absurd hLength (Nat.ne_of_lt c.utf8Size_pos)
    · rw [hFirst] at hForm
      rw [(List.cons.inj hForm).1]
      exact List.mem_cons_self
  obtain ⟨hCode, hAlone⟩ := utf8EncodeChar_of_mem hMem hAscii
  rw [hAlone] at hForm
  exact ⟨more, by rw [← hCode, Char.ofNat_toNat], (List.cons.inj hForm).2⟩

theorem decode?_flatMap (cs : List Char) :
    decode? (cs.flatMap String.utf8EncodeChar) = some (String.ofList cs) := by
  rw [← decode?_encode, encode, String.toList_ofList]

/-- What stands in front of a byte of ASCII in a text is text. -/
theorem decode?_isSome_of_append {front rest : Bytes} {b : UInt8} (hAscii : b.toNat < 0x80)
    (hText : (decode? (front ++ b :: rest)).isSome) : (decode? front).isSome := by
  obtain ⟨s, hDecode⟩ := Option.isSome_iff_exists.mp hText
  obtain ⟨before, rfl⟩ := exists_flatMap_of_append hAscii (encode_of_decode? hDecode)
  rw [decode?_flatMap]
  rfl

end MarketFeed.Utf8
