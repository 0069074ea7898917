import MarketFeed.Proofs.CommandLine.Invariant
import MarketFeed.Proofs.Services.Data

/-!
# Sources on the command line

The values that the command line accepts for a source are the names in the registry, however the
source is given, and so no request that was read asks the registry for a name it does not have.

* `encode_of_contains` — the bytes of a registered name begin with neither a dash nor an equals
                         sign.
* `read_start_long`, `read_awaiting_eq_ok_iff` — a source in one argument, and in one of its own.
* `contains_of_parse`  — the source of an invocation is registered.
* `parse_getLine_iff_contains` — the registry and the command line agree on every text.
-/

namespace MarketFeed.CommandLine

variable {registry : Registry}

/-! ## Bytes of names -/

theorem encode_of_isSmallLetter {c : Char} (hSmall : isSmallLetter c = true) :
    String.utf8EncodeChar c = [c.val.toUInt8] ∧ 0x61 ≤ c.val.toUInt8 := by
  have hBounds : 0x61 ≤ c.val.toNat ∧ c.val.toNat ≤ 0x7A := by
    simpa [isSmallLetter, Char.le_def, UInt32.le_iff_toNat_le] using hSmall
  -- a small letter is a single byte, and all of them lie behind both signs
  constructor
  · exact Utf8.utf8EncodeChar_of_ascii (Nat.le_trans hBounds.2 (by decide))
  · rw [UInt8.le_iff_toNat_le, UInt32.toNat_toUInt8]
    show 97 ≤ _
    omega

/-- The bytes of a registered name begin with neither a dash nor an equals sign. -/
theorem encode_of_contains {name : String} (hName : registry.contains name = true) :
    ∃ b rest, Utf8.encode name = b :: rest ∧ b ≠ dash ∧ b ≠ equals := by
  obtain ⟨entry, hEntry, rfl⟩ := List.mem_map.mp (List.contains_iff_mem.mp hName)
  have hValid := registry.valid entry hEntry
  unfold isSourceName at hValid
  split at hValid
  · exact nomatch hValid
  · next first rest hChars =>
    obtain ⟨hSmall, -⟩ := Bool.and_eq_true_iff.mp hValid
    obtain ⟨hOne, hLow⟩ := encode_of_isSmallLetter hSmall
    refine ⟨first.val.toUInt8, rest.flatMap String.utf8EncodeChar, ?_, ?_, ?_⟩
    · rw [Utf8.encode, hChars, List.flatMap_cons, hOne]
      rfl
    · intro hDash
      rw [hDash] at hLow
      exact absurd hLow (by decide)
    · intro hEquals
      rw [hEquals] at hLow
      exact absurd hLow (by decide)

/-- An argument of two dashes, a word, an equals sign and a value is just that. -/
theorem Argument.ofBytes_long {word value : Bytes} (hWord : word ≠ []) (hEquals : equals ∉ word) :
    ofBytes (dash :: dash :: (word ++ equals :: value)) = long word (some value) := by
  obtain ⟨b, rest, rfl⟩ := List.exists_cons_of_ne_nil hWord
  -- the word ends at the first equals sign
  have hTake : ((b :: rest) ++ equals :: value).takeWhile (· != equals) = b :: rest := by
    rw [List.takeWhile_append_of_pos, List.takeWhile_cons_of_neg (by simp), List.append_nil]
    intro c hc
    have hNot : c ≠ equals := fun he => hEquals (he ▸ hc)
    simpa using hNot
  have hAfter : valueAfter ((b :: rest) ++ equals :: value) = some value :=
    valueAfter_append hEquals
  rw [List.cons_append] at hTake hAfter ⊢
  show ofWord (b :: (rest ++ equals :: value)) = _
  rw [ofWord, hTake, hAfter]

/-! ## Reading the command -/

/-- The arguments that run a source, with some words behind the names of the commands. -/
def getLine (words : List String) : List Bytes := (["kfc", "data", "get"] ++ words).map Utf8.encode

/-- The invocation of a source alone. -/
def Invocation.ofGet (source : String) : Invocation :=
  ⟨none, none, 0, some (.data (.get source))⟩

/-- The name of a subcommand hands the rest of the arguments over to it. -/
theorem read_start_subcommand {c s : Command} {word : Bytes} (hHelp : c.isHelp word = false)
    (hSubcommand : c.subcommand? word = some s) (rest : List Bytes) :
    Invocation.read registry (.start c) (word :: rest) =
      Invocation.read registry (.start s) rest := by
  have hNoHelp : (Reading.start c).command.isHelp word = false := hHelp
  have hNext : (Reading.start c).command.subcommand? word = some s := hSubcommand
  rw [Invocation.read, hNoHelp, hNext]
  show (Invocation.read registry (.start s) rest >>= (Reading.start c).enclose registry) = _
  rcases Invocation.read registry (.start s) rest with e | inner
  · rfl
  · show Except.ok (Given.nothing.handDown inner) = _
    rw [show Given.nothing.handDown inner = inner from inner.under_nothing]

theorem parse_getLine (words : List String) :
    Invocation.parse registry (getLine words) =
      Invocation.read registry (.start .dataGet) (words.map Utf8.encode) := by
  unfold Invocation.parse getLine
  rw [List.map_append]
  show Invocation.read registry (.start .program)
    (Utf8.encode "data" :: Utf8.encode "get" :: words.map Utf8.encode) = _
  rw [read_start_subcommand (s := .data) (by decide) (by decide),
    read_start_subcommand (s := .dataGet) (by decide) (by decide)]

/-- Where no subcommand can follow, an argument is a step. -/
theorem read_step {r : Reading} (hLeaf : r.command.subcommands = []) (hEscaped : r.escaped = false)
    (arg : Bytes) (rest : List Bytes) :
    Invocation.read registry r (arg :: rest) =
      r.step registry (.ofBytes arg) >>= fun q => Invocation.read registry q rest := by
  have hHelp : r.command.isHelp arg = false := by simp [Command.isHelp, hLeaf]
  have hSubcommand : r.command.subcommand? arg = none := by simp [Command.subcommand?, hLeaf]
  rw [Invocation.read, hEscaped, hHelp, hSubcommand]
  rcases r.isWaiting with _ | _
  · rfl
  · rfl

/-! ## A source and its value -/

/-- The command knows its source by a word and by a letter. -/
theorem byName?_source : (Reading.start .dataGet).command.byName? (Utf8.encode "source") =
    some (.slot .source) := by decide

theorem byLetter?_source :
    (Reading.start .dataGet).command.byLetter? 0x73 = some (.slot .source) := by decide

/-- The reading of the command once it has a source. -/
def Reading.ofGet (source : String) : Reading :=
  { start .dataGet with given := { Given.nothing with source := some source } }

/-- The reading of the command when the value of its source is next. -/
def Reading.awaiting : Reading := { start .dataGet with pending := .wanted .source }

/-- The values that the command takes for its source are the registered names. -/
theorem take_source (s : String) :
    Given.nothing.take registry .source (Utf8.encode s) =
      if registry.contains s = true then .ok { Given.nothing with source := some s }
      else .error (.invalidValue registry.names) := by
  show (Given.choiceOf (Slot.choices registry .source) (Utf8.encode s) >>= fun source =>
    Except.ok { Given.nothing with source := some source }) = _
  rw [Slot.choices_source]
  unfold Given.choiceOf Given.textOf Registry.contains
  rw [Utf8.decode?_encode]
  show ((if registry.names.contains s = true then Except.ok s else
    Except.error (Rejection.invalidValue registry.names)) >>= _) = _
  split
  · rfl
  · rfl

/-- The source and its value in one argument. -/
theorem fill_source (s : String) :
    (Reading.start .dataGet).fill registry .source (Utf8.encode s) =
      if registry.contains s = true then .ok (.ofGet s)
      else .error (.invalidValue registry.names) := by
  show (Given.nothing.take registry .source (Utf8.encode s) >>= fun given =>
    Except.ok { Reading.start .dataGet with given }) = _
  rw [take_source]
  split
  · rfl
  · rfl

/-- A value after a word and an equals sign fills the source. -/
theorem step_source_long (s : String) :
    (Reading.start .dataGet).step registry (.ofBytes (Utf8.encode ("--source=" ++ s))) =
      (Reading.start .dataGet).fill registry .source (Utf8.encode s) := by
  have hBytes : Utf8.encode ("--source=" ++ s) =
      dash :: dash :: (Utf8.encode "source" ++ equals :: Utf8.encode s) := by
    rw [Utf8.encode_append]
    rfl
  rw [hBytes, Argument.ofBytes_long (by decide) (by decide)]
  show (Reading.start .dataGet).long registry (Utf8.encode "source") (some (Utf8.encode s)) = _
  unfold Reading.long
  rw [byName?_source]

/-- What is read of a value after a word and an equals sign. -/
theorem read_start_long (s : String) :
    Invocation.read registry (.start .dataGet) [Utf8.encode ("--source=" ++ s)] =
      if registry.contains s = true then .ok (.ofGet s)
      else .error (.invalidValue registry.names) := by
  rw [read_step rfl rfl, step_source_long, fill_source]
  split
  · rfl
  · rfl

/-- What is read of a value right behind the letter. -/
theorem read_start_letter {name : String} (hName : registry.contains name = true) :
    Invocation.read registry (.start .dataGet) [Utf8.encode ("-s" ++ name)] =
      .ok (.ofGet name) := by
  obtain ⟨b, rest, hEncode, -, hEquals⟩ := encode_of_contains hName
  have hBytes : Argument.ofBytes (Utf8.encode ("-s" ++ name)) = .letters 0x73 (b :: rest) := by
    rw [Utf8.encode_append, hEncode]
    rfl
  have hStep : (Reading.start .dataGet).step registry (.letters 0x73 (b :: rest)) =
      (Reading.start .dataGet).fill registry .source (Utf8.encode name) := by
    show (Reading.start .dataGet).letters registry 0x73 (b :: rest) = _
    unfold Reading.letters
    rw [byLetter?_source]
    dsimp only
    rw [Reading.attached, if_neg hEquals, hEncode]
  rw [read_step rfl rfl, hBytes, hStep, fill_source, if_pos hName]
  rfl

/-! ## A value of its own -/

theorem settle_of_wanted {r : Reading} {slot : Slot} (hPending : r.pending = .wanted slot) :
    r.settle registry = .error (.invalidValue (slot.choices registry)) := by
  unfold Reading.settle
  rw [hPending]

/-- While a value is awaited, what looks like the name of a parameter leads nowhere. -/
theorem step_of_wanted {r q : Reading} {slot : Slot} (hPending : r.pending = .wanted slot)
    {arg : Argument} (hStep : r.step registry arg = .ok q) :
    (arg = .escape ∧ q = { r with escaped := true }) ∨
      ∃ value, arg = .plain value ∧ q = { r with pending := .unread slot value } := by
  have hSettle : r.settle registry = _ := settle_of_wanted hPending
  cases arg with
  | escape => exact Or.inl ⟨rfl, (Except.ok.inj hStep).symm⟩
  | plain value =>
    refine Or.inr ⟨value, rfl, ?_⟩
    unfold Reading.step at hStep
    rw [hPending] at hStep
    exact (Except.ok.inj hStep).symm
  | long word value =>
    -- whatever the word names, the open value is looked at first, and it is not there
    replace hStep : r.long registry word value = .ok q := hStep
    unfold Reading.long Reading.turn Reading.await Reading.fill at hStep
    rw [hSettle] at hStep
    split at hStep <;> exact nomatch hStep
  | letters first rest =>
    replace hStep : r.letters registry first rest = .ok q := hStep
    unfold Reading.letters Reading.turn Reading.await Reading.fill at hStep
    rw [hSettle] at hStep
    split at hStep <;> exact nomatch hStep

/-- A value that stands alone is taken exactly if it is a registered name. -/
theorem read_awaiting_eq_ok_iff {s : String} {invocation : Invocation} :
    Invocation.read registry .awaiting [Utf8.encode s] = .ok invocation ↔
      registry.contains s = true ∧ invocation = .ofGet s := by
  rw [read_step rfl rfl]
  -- once the value is there it is looked at as in one argument
  have hValue : Invocation.read registry
      { Reading.awaiting with pending := .unread .source (Utf8.encode s) } [] =
        if registry.contains s = true then .ok (.ofGet s)
        else .error (.invalidValue registry.names) := by
    show ((Given.nothing.take registry .source (Utf8.encode s) >>= fun given =>
      Except.ok { Reading.awaiting with given, pending := .nothing }) >>= _) = _
    rw [take_source]
    split
    · rfl
    · rfl
  constructor
  · intro hRead
    obtain ⟨q, hStep, hEnd⟩ := bind_eq_ok_iff.mp hRead
    rcases step_of_wanted rfl hStep with ⟨-, rfl⟩ | ⟨value, hPlain, rfl⟩
    · exact nomatch hEnd
    · have hSame : value = Utf8.encode s := by
        rw [← Argument.bytes_ofBytes (Utf8.encode s), hPlain]
        rfl
      rw [hSame, hValue] at hEnd
      split at hEnd
      · next hName => exact ⟨hName, (Except.ok.inj hEnd).symm⟩
      · exact nomatch hEnd
  · rintro ⟨hName, rfl⟩
    obtain ⟨b, rest, hEncode, hDash, -⟩ := encode_of_contains hName
    have hPlain : Argument.ofBytes (Utf8.encode s) = .plain (Utf8.encode s) := by
      rw [hEncode]
      rcases rest with _ | ⟨c, rest⟩
      · rfl
      · exact if_neg hDash
    rw [hPlain]
    show Invocation.read registry
      { Reading.awaiting with pending := .unread .source (Utf8.encode s) } [] = _
    rw [hValue, if_pos hName]

/-- The word and the letter that name the source let its value follow. -/
theorem read_start_named {word : String} (hWord : word = "--source" ∨ word = "-s") (s : String) :
    Invocation.read registry (.start .dataGet) [Utf8.encode word, Utf8.encode s] =
      Invocation.read registry .awaiting [Utf8.encode s] := by
  have hStep : (Reading.start .dataGet).step registry (.ofBytes (Utf8.encode word)) =
      .ok .awaiting := by
    rcases hWord with rfl | rfl
    · show (Reading.start .dataGet).long registry (Utf8.encode "source") none = _
      unfold Reading.long
      rw [byName?_source]
      rfl
    · show (Reading.start .dataGet).letters registry 0x73 [] = _
      unfold Reading.letters
      rw [byLetter?_source]
      rfl
  rw [read_step rfl rfl, hStep]
  rfl

/-! ## The source of an invocation -/

/-- No switch gives a source. -/
theorem Given.source_of_turn {c : Command} {g h : Given} {switch : Switch}
    (hTurn : g.turn c switch = .ok h) : h.source = g.source := by
  cases switch with
  | verbose => rw [← Except.ok.inj hTurn]
  | force =>
    rw [Given.turn] at hTurn
    split at hTurn
    · cases hTurn
    · rw [← Except.ok.inj hTurn]
  | help => cases hTurn
  | version => cases hTurn

/-- A value for the source is taken from the names of the registry, and others leave it alone. -/
theorem Given.source_of_take {g h : Given} {slot : Slot} {value : Bytes}
    (hTake : g.take registry slot value = .ok h) :
    h.source = g.source ∨ ∃ s, h.source = some s ∧ registry.contains s = true := by
  cases slot with
  | source =>
    obtain ⟨-, -, hNext⟩ := bind_eq_ok_iff.mp hTake
    obtain ⟨source, hChoice, hEnd⟩ := bind_eq_ok_iff.mp hNext
    obtain ⟨text, -, hListed⟩ := bind_eq_ok_iff.mp hChoice
    rw [Slot.choices_source] at hListed
    split at hListed
    · next hContains =>
      obtain rfl := Except.ok.inj hListed
      rw [← Except.ok.inj hEnd]
      exact Or.inr ⟨_, rfl, hContains⟩
    · cases hListed
  | logLevel =>
    obtain ⟨-, -, hNext⟩ := bind_eq_ok_iff.mp hTake
    obtain ⟨level, -, hEnd⟩ := bind_eq_ok_iff.mp hNext
    rw [← Except.ok.inj hEnd]
    exact Or.inl rfl
  | home =>
    obtain ⟨-, -, hNext⟩ := bind_eq_ok_iff.mp hTake
    obtain ⟨home, -, hEnd⟩ := bind_eq_ok_iff.mp hNext
    rw [← Except.ok.inj hEnd]
    exact Or.inl rfl
  | shell =>
    obtain ⟨-, -, hNext⟩ := bind_eq_ok_iff.mp hTake
    obtain ⟨shell, -, hEnd⟩ := bind_eq_ok_iff.mp hNext
    rw [← Except.ok.inj hEnd]
    exact Or.inl rfl

/-- A command that was given a source was given a registered one. -/
theorem invariant_contains : Given.Invariant registry fun g =>
    ∀ s, g.source = some s → registry.contains s = true where
  nothing := by
    intro s hNone
    cases hNone
  turn hGiven hTurn := by
    rw [Given.source_of_turn hTurn]
    exact hGiven
  take hGiven hTake := by
    rcases Given.source_of_take hTake with hSame | ⟨s, hSource, hContains⟩
    · rw [hSame]
      exact hGiven
    · intro t hOther
      obtain rfl : s = t := Option.some.inj (hSource.symm.trans hOther)
      exact hContains

theorem Given.groupAlone_ne_ok {g : Given} {request : Option Request} :
    g.groupAlone ≠ .ok request := by
  unfold groupAlone
  split
  · exact fun h => nomatch h
  · exact fun h => nomatch h

/-- Only a command that was given a source asks for it to be run. -/
theorem Given.source_of_request {g : Given} {c : Command} {source : String}
    (hRequest : g.request c = .ok (some (.data (.get source)))) : g.source = some source := by
  unfold request at hRequest
  split at hRequest
  · exact nomatch hRequest
  · exact absurd hRequest groupAlone_ne_ok
  · exact absurd hRequest groupAlone_ne_ok
  · exact nomatch hRequest
  · exact nomatch hRequest
  · exact nomatch hRequest
  · exact nomatch hRequest
  · split at hRequest
    · next given hGiven =>
      have hSame : given = source := by injections
      rw [hGiven, hSame]
    · exact nomatch hRequest
  · split at hRequest
    · exact nomatch hRequest
    · exact nomatch hRequest

/-- The source of an invocation is registered, whatever the arguments were. -/
theorem contains_of_parse {args : List Bytes} {invocation : Invocation} {source : String}
    (hParse : Invocation.parse registry args = .ok invocation)
    (hSource : invocation.request = some (.data (.get source))) :
    registry.contains source = true := by
  obtain ⟨c, g, hGiven, hRequest⟩ :=
    exists_given_of_read invariant_contains invariant_contains.nothing hParse
  rw [hSource] at hRequest
  exact hGiven source (Given.source_of_request hRequest)

/-- The command line accepts the names of the registry for a source and no other text, and so no
source that was asked for turns out not to be registered. -/
theorem parse_getLine_iff_contains (registry : Registry) :
    (∀ s invocation,
      (Invocation.parse registry (getLine ["--source=" ++ s]) = .ok invocation ↔
        registry.contains s = true ∧ invocation = .ofGet s) ∧
      (Invocation.parse registry (getLine ["--source", s]) = .ok invocation ↔
        registry.contains s = true ∧ invocation = .ofGet s) ∧
      (Invocation.parse registry (getLine ["-s", s]) = .ok invocation ↔
        registry.contains s = true ∧ invocation = .ofGet s)) ∧
    (∀ s, registry.contains s = false →
      Invocation.parse registry (getLine ["--source=" ++ s]) =
        .error (.invalidValue registry.names)) ∧
    (∀ name, registry.contains name = true →
      Invocation.parse registry (getLine ["-s" ++ name]) = .ok (.ofGet name)) ∧
    (∀ args invocation source, Invocation.parse registry args = .ok invocation →
      invocation.request = some (.data (.get source)) →
      ∀ (services : Services) (s : Session) (name : String), services.registry = registry →
        ((services.perform invocation.request).result s).1 ≠
          .error (.ofService (.registry (.notRegistered name)))) := by
  refine ⟨fun s invocation => ⟨?_, ?_, ?_⟩, ?_, ?_, ?_⟩
  · rw [parse_getLine]
    show Invocation.read registry (.start .dataGet) [Utf8.encode ("--source=" ++ s)] = _ ↔ _
    rw [read_start_long]
    split
    · next hName => simp [hName, eq_comm]
    · next hName => simp [hName]
  · rw [parse_getLine]
    show Invocation.read registry (.start .dataGet) [Utf8.encode "--source", Utf8.encode s] = _ ↔ _
    rw [read_start_named (Or.inl rfl)]
    exact read_awaiting_eq_ok_iff
  · rw [parse_getLine]
    show Invocation.read registry (.start .dataGet) [Utf8.encode "-s", Utf8.encode s] = _ ↔ _
    rw [read_start_named (Or.inr rfl)]
    exact read_awaiting_eq_ok_iff
  · intro s hName
    rw [parse_getLine]
    refine (read_start_long s).trans ?_
    rw [hName]
    rfl
  · intro name hName
    rw [parse_getLine]
    exact read_start_letter hName
  · intro args invocation source hParse hSource services s name hRegistry
    rw [hSource]
    refine services.performData_ne_registry (fun other hOther => ?_) s _
    obtain rfl := DataRequest.get.inj hOther
    rw [hRegistry]
    exact contains_of_parse hParse hSource

/-- The probe is the one source that can be asked for without further ado, by its exact name. -/
theorem parse_getLine_builtin :
    Invocation.parse .builtin (getLine ["-sprobe"]) = .ok (.ofGet "probe") ∧
      Invocation.parse .builtin (getLine ["--source", "probe"]) = .ok (.ofGet "probe") ∧
      Invocation.parse .builtin (getLine ["--source=Probe"]) = .error (.invalidValue ["probe"]) ∧
      ((Services.perform ⟨⟨⟨[]⟩, .standard⟩, ⟨[], none⟩, .builtin, .recording⟩
        (some (.data (.get "probe")))).result (.begin .empty)).1 ≠
          .error (.ofService (.registry (.notRegistered "probe"))) := by
  obtain ⟨hForms, hRejected, hAttached, hDispatch⟩ := parse_getLine_iff_contains .builtin
  have hParse := hAttached "probe" (by decide)
  exact ⟨hParse, (hForms "probe" _).2.1.mpr ⟨by decide, rfl⟩, hRejected "Probe" (by decide),
    hDispatch _ _ "probe" hParse rfl _ _ _ rfl⟩

end MarketFeed.CommandLine
