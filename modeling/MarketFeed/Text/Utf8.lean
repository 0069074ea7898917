/-!
# Bytes and text

Paths, arguments, environment values and file contents are sequences of bytes; messages are
strings.  This module joins the two.

* `Utf8.encode`  — the bytes of a string.
* `Utf8.decode?` — the string that bytes encode, if they encode one.
* `Utf8.lossy`   — the string to show for any bytes: each ill-formed stretch becomes U+FFFD.

Main statements: `decode?_encode`, `encode_of_decode?` and `lossy_encode` — encoding loses
nothing, decoding accepts nothing else, and text that is well formed is shown as it is.
-/

namespace MarketFeed

/-- A sequence of bytes, as the operating system hands it over. -/
abbrev Bytes := List UInt8

namespace Utf8

/-- The bytes of a string, character by character. -/
def encode (s : String) : Bytes :=
  s.toList.flatMap String.utf8EncodeChar

/-- The string that the bytes encode; `none` if they are not well-formed UTF-8. -/
def decode? (bytes : Bytes) : Option String :=
  String.fromUTF8? bytes.toByteArray

/-! ## Ill-formed stretches -/

/-- Where a reader stands between two bytes: at a character boundary, or inside a character
whose next byte must lie in `low … high`, with `left` bytes still to come. -/
inductive Reader where
  | boundary
  | inside (code : Nat) (left : Nat) (low high : UInt8)
  deriving DecidableEq, Repr

/-- The sign shown for an ill-formed stretch. -/
def replacement : Char := '\uFFFD'

/-- Reads the first byte of a character. -/
def Reader.start (b : UInt8) : List Char × Reader :=
  if b < 0x80 then ([Char.ofNat b.toNat], .boundary)
  else if 0xC2 ≤ b && b ≤ 0xDF then ([], .inside (b.toNat - 0xC0) 1 0x80 0xBF)
  -- what fewer bytes encode, the surrogates and what lies above U+10FFFF are left out
  else if b == 0xE0 then ([], .inside 0 2 0xA0 0xBF)
  else if b == 0xED then ([], .inside 0xD 2 0x80 0x9F)
  else if 0xE1 ≤ b && b ≤ 0xEF then ([], .inside (b.toNat - 0xE0) 2 0x80 0xBF)
  else if b == 0xF0 then ([], .inside 0 3 0x90 0xBF)
  else if 0xF1 ≤ b && b ≤ 0xF3 then ([], .inside (b.toNat - 0xF0) 3 0x80 0xBF)
  else if b == 0xF4 then ([], .inside 4 3 0x80 0x8F)
  else ([replacement], .boundary)

/-- Reads one byte.  A byte that cannot go on with the character begun ends an ill-formed
stretch and is read again as the first byte of the next character. -/
def Reader.step : Reader → UInt8 → List Char × Reader
  | .boundary, b => Reader.start b
  | .inside code left low high, b =>
    if low ≤ b && b ≤ high then
      let code := code * 64 + (b.toNat - 0x80)
      if left ≤ 1 then ([Char.ofNat code], .boundary)
      else ([], .inside code (left - 1) 0x80 0xBF)
    else
      -- the byte is no part of the stretch that it ends
      let (shown, next) := Reader.start b
      (replacement :: shown, next)

/-- The characters shown from a reader's position on. -/
def Reader.run : Reader → Bytes → List Char
  | .boundary, [] => []
  | .inside .., [] => [replacement]
  | r, b :: rest =>
    let (shown, next) := r.step b
    shown ++ next.run rest

/-- The text to show for bytes: what they encode if they are well formed, and otherwise the
well-formed characters with one U+FFFD for each ill-formed stretch. -/
def lossy (bytes : Bytes) : String :=
  match decode? bytes with
  | some s => s
  | none => String.ofList (Reader.boundary.run bytes)

/-! ## Laws -/

theorem toByteArray_encode (s : String) : (encode s).toByteArray = s.toByteArray := by
  rw [← String.utf8Encode_toList]
  rfl

/-- Encoding loses nothing. -/
@[simp] theorem decode?_encode (s : String) : decode? (encode s) = some s := by
  have h : (encode s).toByteArray.IsValidUTF8 := by
    rw [toByteArray_encode]
    exact s.isValidUTF8
  simp only [decode?, String.fromUTF8?, h, ↓reduceDIte, String.fromUTF8, Option.some.injEq]
  rw [← String.toByteArray_inj]
  exact toByteArray_encode s

/-- Well-formed text is shown as it is. -/
@[simp] theorem lossy_encode (s : String) : lossy (encode s) = s := by
  simp [lossy]

theorem encode_append (s t : String) : encode (s ++ t) = encode s ++ encode t := by
  simp [encode]

theorem encode_injective {s t : String} (h : encode s = encode t) : s = t := by
  simpa using congrArg decode? h

/-- Only the bytes of a string decode to it. -/
theorem encode_of_decode? {bytes : Bytes} {s : String} (h : decode? bytes = some s) :
    encode s = bytes := by
  simp only [decode?, String.fromUTF8?] at h
  split at h
  · obtain rfl := Option.some.inj h
    have hb : (encode (String.fromUTF8 bytes.toByteArray ‹_›)).toByteArray
        = bytes.toByteArray := toByteArray_encode _
    simpa [← List.toArray_inj] using congrArg ByteArray.data hb
  · exact nomatch h

end Utf8

end MarketFeed
