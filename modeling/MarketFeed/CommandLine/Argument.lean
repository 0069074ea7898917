import MarketFeed.Text.Utf8

/-!
# Arguments

* `Argument`         — what one argument looks like, before it is known what it means.
* `Argument.ofBytes` — telling that from its dashes.

Main statement: `bytes_ofBytes` — telling loses nothing of the argument.
-/

namespace MarketFeed.CommandLine

/-- What one argument looks like. -/
inductive Argument where
  /-- Two dashes alone: only values follow. -/
  | escape
  /-- Two dashes and a word, perhaps with a value after an equals sign. -/
  | long (word : Bytes) (value : Option Bytes)
  /-- One dash, then a letter and what follows it. -/
  | letters (first : UInt8) (rest : Bytes)
  /-- Anything else. -/
  | plain (value : Bytes)
  deriving DecidableEq, Repr

/-- The byte of a dash. -/
def dash : UInt8 := 0x2D

/-- The byte of an equals sign. -/
def equals : UInt8 := 0x3D

namespace Argument

/-- The value after the first equals sign, if there is one. -/
def valueAfter : Bytes → Option Bytes
  | [] => none
  | b :: rest => if b = equals then some rest else valueAfter rest

/-- What an argument looks like that goes on like this after two dashes. -/
def ofWord : Bytes → Argument
  | [] => escape
  | b :: rest => long ((b :: rest).takeWhile (· != equals)) (valueAfter (b :: rest))

/-- What an argument looks like. -/
def ofBytes : Bytes → Argument
  | [] => plain []
  | [b] => plain [b]
  | a :: b :: rest =>
    if a = dash then
      if b = dash then ofWord rest else letters b rest
    else plain (a :: b :: rest)

/-- The argument that looks like this. -/
def bytes : Argument → Bytes
  | escape => [dash, dash]
  | long word none => dash :: dash :: word
  | long word (some value) => dash :: dash :: (word ++ equals :: value)
  | letters first rest => dash :: first :: rest
  | plain value => value

theorem valueAfter_append {word value : Bytes} (h : equals ∉ word) :
    valueAfter (word ++ equals :: value) = some value := by
  induction word with
  | nil => simp [valueAfter]
  | cons b rest ih =>
    simp only [List.mem_cons, not_or] at h
    simp [valueAfter, Ne.symm h.1, ih h.2]

/-- Bytes split at the first equals sign are still there. -/
theorem takeWhile_valueAfter (bytes : Bytes) :
    match valueAfter bytes with
    | none => bytes.takeWhile (· != equals) = bytes
    | some value => bytes.takeWhile (· != equals) ++ equals :: value = bytes := by
  induction bytes with
  | nil => rfl
  | cons b rest ih =>
    by_cases hb : b = equals
    · simp [valueAfter, hb]
    · simp only [valueAfter, hb, if_false, List.takeWhile_cons]
      cases hv : valueAfter rest with
      | none => simp_all
      | some value => simp_all

theorem bytes_ofWord (word : Bytes) : (ofWord word).bytes = dash :: dash :: word := by
  cases word with
  | nil => rfl
  | cons b rest =>
    have h := takeWhile_valueAfter (b :: rest)
    change (long _ (valueAfter (b :: rest))).bytes = _
    cases hv : valueAfter (b :: rest) with
    | none =>
      rw [hv] at h
      exact congrArg (fun w => dash :: dash :: w) h
    | some value =>
      rw [hv] at h
      exact congrArg (fun w => dash :: dash :: w) h

/-- Telling what an argument looks like loses nothing of it. -/
theorem bytes_ofBytes (bs : Bytes) : (ofBytes bs).bytes = bs := by
  match bs with
  | [] => rfl
  | [b] => rfl
  | a :: b :: rest =>
    by_cases ha : a = dash
    · by_cases hb : b = dash
      · rw [ha, hb]
        exact bytes_ofWord rest
      · simp [ofBytes, bytes, ha, hb]
    · simp [ofBytes, bytes, ha]

end Argument

end MarketFeed.CommandLine
