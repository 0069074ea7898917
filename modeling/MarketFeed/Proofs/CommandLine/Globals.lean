import MarketFeed.Proofs.CommandLine.Besides
import MarketFeed.Proofs.CommandLine.Sources

/-!
# Options that hold for every command

Three options may stand among the arguments of any command.  A command line with some of them put
in is read as it is without them, and what the options of each of its commands come to is laid over
that, from the innermost command outwards.

* `Global`        — such an option, given in one argument.
* `Global.give`   — what a command has been given with one more of them.
* `step_global`   — reading the argument is giving the option.
* `Woven`         — a command line with options put in where parameters can be named.
* `read_woven`, `parse_woven` — what it is read as.
-/

namespace MarketFeed.CommandLine

/-! ## Options in one argument -/

/-- A parameter that every command knows, given in one argument. -/
inductive Global where
  /-- The level, behind its word and an equals sign. -/
  | logLevel (value : Bytes)
  /-- The home directory, behind its word and an equals sign. -/
  | home (value : Bytes)
  /-- The letter for verbosity, and how often it is repeated in the same argument. -/
  | verbose (more : Nat)
  deriving DecidableEq, Repr

/-- The byte of the letter for verbosity. -/
def letterV : UInt8 := 0x76

namespace Global

/-- The argument. -/
def bytes : Global → Bytes
  | logLevel value => dash :: dash :: (Utf8.encode "log-level" ++ equals :: value)
  | home value => dash :: dash :: (Utf8.encode "home" ++ equals :: value)
  | verbose more => dash :: letterV :: List.replicate more letterV

/-- The parameter that is given. -/
def parameter : Global → Parameter
  | logLevel _ => .slot .logLevel
  | home _ => .slot .home
  | verbose _ => .switch .verbose

/-- What a command has been given with the option. -/
def give (registry : Registry) (g : Given) : Global → Except Rejection Given
  | logLevel value => g.take registry .logLevel value
  | home value => g.take registry .home value
  | verbose more => .ok { g with verbose := min (g.verbose + (more + 1)) Given.verboseLimit }

theorem parameter_mem_everywhere (m : Global) : m.parameter ∈ Parameter.everywhere := by
  cases m <;> exact Given.mem_everywhere_iff.mpr (by simp [parameter])

/-- The argument begins with a dash. -/
theorem exists_bytes_eq (m : Global) : ∃ rest, m.bytes = dash :: rest := by
  cases m <;> exact ⟨_, rfl⟩

variable {registry : Registry} {m : Global} {g e h : Given}

/-- An option that is lacking is given as it is given besides. -/
theorem give_besides (hLacks : g.lacks m.parameter) :
    m.give registry (g.besides e) = (m.give registry e).map g.besides := by
  rcases g with ⟨gLevel, gHome, gVerbose, source, force, shell⟩
  rcases e with ⟨eLevel, eHome, eVerbose, eSource, eForce, eShell⟩
  cases m with
  | logLevel value =>
    obtain rfl : gLevel = none := hLacks
    rcases eLevel with _ | level
    · show (Given.levelOf value >>= fun level => _) =
        (Given.levelOf value >>= fun level => _).map _
      rcases Given.levelOf value with cause | level
      · rfl
      · rfl
    · rfl
  | home value =>
    obtain rfl : gHome = none := hLacks
    rcases eHome with _ | home
    · show (Given.directoryOf value >>= fun home => _) =
        (Given.directoryOf value >>= fun home => _).map _
      rcases Given.directoryOf value with cause | home
      · rfl
      · rfl
    · rfl
  | verbose more =>
    obtain rfl : gVerbose = 0 := hLacks
    rfl

/-- An option gives nothing but its own parameter. -/
theorem lacks_give (hGive : m.give registry e = .ok h) {p : Parameter}
    (hp : p ∈ Parameter.everywhere) (hOther : m.parameter ≠ p) (hLacks : e.lacks p) :
    h.lacks p := by
  cases m with
  | logLevel value =>
    obtain ⟨-, level, -, rfl⟩ := Given.keep_eq_ok_iff.mp hGive
    rcases Given.mem_everywhere_iff.mp hp with rfl | rfl | rfl
    · exact absurd rfl hOther
    · exact hLacks
    · exact hLacks
  | home value =>
    obtain ⟨-, home, -, rfl⟩ := Given.keep_eq_ok_iff.mp hGive
    rcases Given.mem_everywhere_iff.mp hp with rfl | rfl | rfl
    · exact hLacks
    · exact absurd rfl hOther
    · exact hLacks
  | verbose more =>
    obtain rfl := Except.ok.inj hGive
    rcases Given.mem_everywhere_iff.mp hp with rfl | rfl | rfl
    · exact hLacks
    · exact hLacks
    · exact absurd rfl hOther

theorem apart_give (hGive : m.give registry e = .ok h) (hApart : e.Apart g)
    (hLacks : g.lacks m.parameter) : h.Apart g := by
  intro p hp
  by_cases hSame : m.parameter = p
  · exact Or.inr (hSame ▸ hLacks)
  · exact (hApart p hp).imp_left (lacks_give hGive hp hSame)

theorem lacks_foldlM_give {globals : List Global}
    (hGive : globals.foldlM (give registry) e = .ok h) {p : Parameter}
    (hp : p ∈ Parameter.everywhere) (hOther : ∀ m ∈ globals, m.parameter ≠ p)
    (hLacks : e.lacks p) : h.lacks p := by
  induction globals generalizing e with
  | nil =>
    obtain rfl := Except.ok.inj hGive
    exact hLacks
  | cons m rest ih =>
    obtain ⟨more, hMore, hRest⟩ := bind_eq_ok_iff.mp hGive
    have hFirst := lacks_give hMore hp (hOther m List.mem_cons_self) hLacks
    exact ih hRest (fun other hMem => hOther other (List.mem_cons_of_mem _ hMem)) hFirst

/-- What lacks all options is apart from what they come to. -/
theorem apart_foldlM_give {globals : List Global}
    (hGive : globals.foldlM (give registry) e = .ok h) (hApart : e.Apart g)
    (hLacks : ∀ m ∈ globals, g.lacks m.parameter) : h.Apart g := by
  intro p hp
  by_cases hGiven : ∃ m ∈ globals, m.parameter = p
  · obtain ⟨m, hMem, rfl⟩ := hGiven
    exact Or.inr (hLacks m hMem)
  · refine (hApart p hp).imp_left (lacks_foldlM_give hGive hp fun m hMem hSame => ?_)
    exact hGiven ⟨m, hMem, hSame⟩

end Global

/-! ## Reading an option -/

namespace Command

/-- No subcommand's name, and no word for help, begins with a dash. -/
theorem subcommand?_dash (c : Command) (rest : Bytes) : c.subcommand? (dash :: rest) = none := by
  refine List.find?_eq_none.mpr fun s hs => ?_
  have hFirst : (Utf8.encode s.name).head? ≠ some dash := by
    cases s <;> decide
  intro hSame
  rw [beq_iff_eq.mp hSame] at hFirst
  exact hFirst rfl

theorem isHelp_dash (c : Command) (rest : Bytes) : c.isHelp (dash :: rest) = false := by
  have hFirst : helpWord.head? ≠ some dash := by decide
  have hOther : (dash :: rest == helpWord) = false := by
    refine beq_eq_false_iff_ne.mpr fun hSame => hFirst ?_
    rw [← hSame]
    rfl
  rw [isHelp, hOther, Bool.and_false]

/-- Every command knows the options by these names. -/
theorem byName?_logLevel (c : Command) :
    c.byName? (Utf8.encode "log-level") = some (.slot .logLevel) := by
  cases c <;> decide

theorem byName?_home (c : Command) : c.byName? (Utf8.encode "home") = some (.slot .home) := by
  cases c <;> decide

theorem byLetter?_verbose (c : Command) : c.byLetter? letterV = some (.switch .verbose) := by
  cases c <;> decide

end Command

namespace Reading

variable {registry : Registry} {r s : Reading}

/-- The letter for verbosity may be repeated: each time the count is one more. -/
theorem letters_verbose (r : Reading) (more : Nat) :
    r.letters registry letterV (List.replicate more letterV) =
      r.settle registry >>= fun s =>
        .ok { s with given := { s.given with
          verbose := min (s.given.verbose + (more + 1)) Given.verboseLimit } } := by
  -- by induction on the repetitions, for every reading they may begin with
  induction more generalizing r with
  | zero =>
    rw [List.replicate_zero]
    unfold letters
    rw [Command.byLetter?_verbose]
    rfl
  | succ more ih =>
    rw [List.replicate_succ]
    unfold letters
    rw [Command.byLetter?_verbose]
    dsimp only
    unfold turn
    rcases hSettle : r.settle registry with cause | s
    · rfl
    show letters registry { s with given := _ } letterV _ = _
    rw [ih]
    have hNothing : s.pending = .nothing := by rw [eq_of_settle hSettle]
    have hAgain : ∀ g, settle registry { s with given := g } = .ok { s with given := g } :=
      fun g => settle_eq_ok_iff.mpr (Or.inl ⟨hNothing, rfl⟩)
    rw [hAgain]
    show Except.ok _ = Except.ok _
    have hCount : min (min (s.given.verbose + 1) Given.verboseLimit + (more + 1))
        Given.verboseLimit = min (s.given.verbose + (more + 1 + 1)) Given.verboseLimit := by
      have hLimit : Given.verboseLimit = 255 := rfl
      omega
    rw [← hCount]

/-- Reading the argument of an option looks at the open value and gives the option. -/
theorem step_global (registry : Registry) (r : Reading) (m : Global) :
    r.step registry (.ofBytes m.bytes) =
      r.settle registry >>= fun s =>
        m.give registry s.given >>= fun g => .ok { s with given := g } := by
  cases m with
  | logLevel value =>
    rw [Global.bytes, Argument.ofBytes_long (by decide) (by decide)]
    show r.long registry (Utf8.encode "log-level") (some value) = _
    unfold long
    rw [Command.byName?_logLevel]
    rfl
  | home value =>
    rw [Global.bytes, Argument.ofBytes_long (by decide) (by decide)]
    show r.long registry (Utf8.encode "home") (some value) = _
    unfold long
    rw [Command.byName?_home]
    rfl
  | verbose more =>
    show r.letters registry letterV (List.replicate more letterV) = _
    rw [letters_verbose]
    rfl

end Reading

/-- An option is read where a parameter can be named. -/
theorem read_global {registry : Registry} {r : Reading} (hEscaped : r.escaped = false)
    (hWaiting : r.isWaiting = false) (m : Global) (line : List Bytes) :
    Invocation.read registry r (m.bytes :: line) =
      r.settle registry >>= fun s =>
        m.give registry s.given >>= fun g =>
          Invocation.read registry { s with given := g } line := by
  have hStep := r.step_global registry m
  obtain ⟨rest, hBytes⟩ := m.exists_bytes_eq
  rw [Invocation.read, hEscaped, hWaiting, hStep]
  rw [hBytes, r.command.isHelp_dash, r.command.subcommand?_dash]
  rcases r.settle registry with cause | s
  · rfl
  · show (m.give registry s.given >>= _) >>= _ = m.give registry s.given >>= _
    rcases m.give registry s.given with cause | g
    · rfl
    · rfl

/-! ## Command lines with options put in -/

/-- A command line and the same one with options put in wherever a parameter can be named: where no
value is awaited, and before two dashes.  Beside it stand the options of the command that is being
read and those of each command further in. -/
inductive Woven (registry : Registry) :
    Reading → List Bytes → List Bytes → List Global → List (List Global) → Prop where
  | done {r : Reading} : Woven registry r [] [] [] []
  /-- An option is put in. -/
  | global {r : Reading} {args line : List Bytes} {m : Global} {globals : List Global}
      {deeper : List (List Global)} : r.escaped = false → r.isWaiting = false →
      Woven registry r args line globals deeper →
      Woven registry r args (m.bytes :: line) (m :: globals) deeper
  /-- An argument of the same command. -/
  | on {r q : Reading} {arg : Bytes} {args line : List Bytes} {globals : List Global}
      {deeper : List (List Global)} : r.next registry arg = .ok (.on q) →
      Woven registry q args line globals deeper →
      Woven registry r (arg :: args) (arg :: line) globals deeper
  /-- The name of a subcommand, whose options are those of the next command further in. -/
  | into {r : Reading} {c : Command} {arg : Bytes} {args line : List Bytes}
      {globals : List Global} {deeper : List (List Global)} :
      r.next registry arg = .ok (.into c) →
      Woven registry (.start c) args line globals deeper →
      Woven registry r (arg :: args) (arg :: line) [] (globals :: deeper)

/-- What the options of one command come to. -/
def Given.ofGlobals (registry : Registry) (globals : List Global) : Except Rejection Given :=
  globals.foldlM (Global.give registry) .nothing

/-- An invocation with what the options of each command come to, outermost first: what is given
further in counts. -/
def Invocation.below (inner : Invocation) (givens : List Given) : Invocation :=
  givens.foldr Given.handDown inner

variable {registry : Registry} {g e : Given} {globals : List Global}

/-- Where nothing is given on both sides, it does not matter which of the two stands further in. -/
theorem handDown_comm (hApart : e.Apart g) (inner : Invocation) :
    g.handDown (e.handDown inner) = e.handDown (g.handDown inner) := by
  have hLevel : e.logLevel = none ∨ g.logLevel = none := hApart (.slot .logLevel) (by decide)
  have hHome : e.home = none ∨ g.home = none := hApart (.slot .home) (by decide)
  have hVerbose : e.verbose = 0 ∨ g.verbose = 0 := hApart (.switch .verbose) (by decide)
  simp only [Given.handDown, Invocation.under, Invocation.mk.injEq]
  refine ⟨?_, ?_, ?_, trivial⟩
  · rcases hLevel with hNone | hNone <;> simp [hNone]
  · rcases hHome with hNone | hNone <;> simp [hNone]
  · by_cases hInner : inner.verbose = 0
    · rcases hVerbose with hNone | hNone <;> simp [hInner, hNone, eq_comm]
    · simp [hInner]

theorem below_handDown {givens : List Given} (hApart : ∀ e ∈ givens, e.Apart g)
    (inner : Invocation) :
    g.handDown (inner.below givens) = (g.handDown inner).below givens := by
  induction givens with
  | nil => rfl
  | cons e rest ih =>
    have hRest := ih fun other hOther => hApart other (List.mem_cons_of_mem _ hOther)
    show g.handDown (e.handDown (inner.below rest)) = e.handDown ((g.handDown inner).below rest)
    rw [handDown_comm (hApart e List.mem_cons_self), hRest]

/-- What the options of several commands come to is apart from what lacks them all. -/
theorem Given.apart_of_mem_mapM {levels : List (List Global)} {givens : List Given}
    (hGivens : levels.mapM (ofGlobals registry) = .ok givens)
    (hLacks : ∀ options ∈ levels, ∀ m ∈ options, g.lacks m.parameter) :
    ∀ e ∈ givens, e.Apart g := by
  intro e he
  obtain ⟨options, hOptions, hGive⟩ := exists_of_mem_mapM hGivens he
  exact Global.apart_foldlM_give hGive (apart_nothing g) (hLacks options hOptions)

/-- The options of a command come to something before those of the commands further in do. -/
theorem map_below_mapM (invocation : Invocation) (globals : List Global)
    (deeper : List (List Global)) :
    ((globals :: deeper).mapM (Given.ofGlobals registry)).map invocation.below =
      Given.ofGlobals registry globals >>= fun given =>
        deeper.mapM (Given.ofGlobals registry) >>= fun further =>
          .ok (invocation.below (given :: further)) := by
  rw [List.mapM_cons]
  rcases Given.ofGlobals registry globals with cause | given
  · rfl
  rcases deeper.mapM (Given.ofGlobals registry) with cause | further
  · rfl
  · rfl

/-- An option put in front of a line comes to what is besides while the line is read. -/
theorem read_global_besides {r : Reading} {args line : List Bytes} {m : Global}
    {invocation : Invocation} (hEscaped : r.escaped = false) (hWaiting : r.isWaiting = false)
    (hRead : Invocation.read registry r args = .ok invocation)
    (hApart : e.Apart invocation.common) (hHere : invocation.common.lacks m.parameter) :
    Invocation.read registry (r.besides e) (m.bytes :: line) =
      m.give registry e >>= fun more => Invocation.read registry (r.besides more) line := by
  obtain ⟨s, hSettle⟩ := exists_settle_of_read hRead hWaiting
  have hSettled : Invocation.read registry s args = .ok invocation := by
    rw [← read_of_settle hSettle]
    exact hRead
  have hBesides : ∀ {e : Given}, e.Apart invocation.common →
      (r.besides e).settle registry = .ok (s.besides e) := fun hApart =>
    (Reading.steady_settle hSettle).2 _ (apart_of_read hSettled hApart)
  have hGive : m.give registry (s.besides e).given = (m.give registry e).map s.given.besides :=
    Global.give_besides (lacks_of_read m.parameter_mem_everywhere hSettled hHere)
  rw [read_global (r := r.besides e) hEscaped hWaiting, hBesides hApart]
  show (m.give registry (s.besides e).given >>= fun g => _) = _
  rw [hGive]
  rcases hMore : m.give registry e with cause | more
  · rfl
  · show Invocation.read registry (s.besides more) line =
      Invocation.read registry (r.besides more) line
    rw [read_of_settle (hBesides (Global.apart_give hMore hApart hHere))]

/-- Neither the invocation that is enclosed nor what encloses it has what the result lacks. -/
theorem lacks_of_enclose {r : Reading} {inner invocation : Invocation} {p : Parameter}
    (hEnclose : r.enclose registry inner = .ok invocation) (hMem : p ∈ Parameter.everywhere)
    (hLacks : invocation.common.lacks p) :
    inner.common.lacks p ∧ ∀ s, r.settle registry = .ok s → s.given.lacks p := by
  obtain ⟨s, hSettle, rfl⟩ := enclose_eq_ok_iff.mp hEnclose
  rw [Invocation.common_handDown] at hLacks
  obtain ⟨hInner, hGiven⟩ := (Given.lacks_besides hMem).mp hLacks
  refine ⟨hInner, fun t hOther => ?_⟩
  obtain rfl : s = t := Except.ok.inj (hSettle.symm.trans hOther)
  exact hGiven

/-- What is besides when a subcommand is entered is laid over all that was put in further in. -/
theorem enclose_besides_below {r : Reading} {inner invocation : Invocation}
    {levels : List (List Global)} {givens : List Given}
    (hEnclose : r.enclose registry inner = .ok invocation) (hApart : e.Apart invocation.common)
    (hLacks : ∀ options ∈ levels, ∀ m ∈ options, invocation.common.lacks m.parameter)
    (hGivens : levels.mapM (Given.ofGlobals registry) = .ok givens) :
    (r.besides e).enclose registry (inner.below givens) = .ok (invocation.below (e :: givens)) := by
  obtain ⟨s, hSettle, rfl⟩ := enclose_eq_ok_iff.mp hEnclose
  have hApartGivens : ∀ given ∈ givens, given.Apart s.given :=
    Given.apart_of_mem_mapM hGivens fun options hOptions m hm =>
      (lacks_of_enclose hEnclose m.parameter_mem_everywhere (hLacks options hOptions m hm)).2
        s hSettle
  rw [Invocation.common_handDown] at hApart
  rw [enclose_besides hSettle hApart.of_besides.2, below_handDown hApartGivens]
  rfl

/-- The options of a command line with some put in are laid over what it is read as without them,
command by command from the innermost outwards.  None of them may be given without them. -/
theorem read_woven {r : Reading} {args line : List Bytes} {deeper : List (List Global)}
    (hWoven : Woven registry r args line globals deeper) {invocation : Invocation}
    (hRead : Invocation.read registry r args = .ok invocation)
    (hApart : e.Apart invocation.common)
    (hLacks : ∀ options ∈ globals :: deeper, ∀ m ∈ options, invocation.common.lacks m.parameter) :
    Invocation.read registry (r.besides e) line =
      globals.foldlM (Global.give registry) e >>= fun given =>
        deeper.mapM (Given.ofGlobals registry) >>= fun further =>
          .ok (invocation.below (given :: further)) := by
  -- by induction on the line, for whatever options were put in before it
  induction hWoven generalizing invocation e with
  | done => exact finish_besides hRead hApart
  | @global r args line m globals deeper hEscaped hWaiting _ ih =>
    have hHere : invocation.common.lacks m.parameter :=
      hLacks _ List.mem_cons_self m List.mem_cons_self
    rw [read_global_besides hEscaped hWaiting hRead hApart hHere, List.foldlM_cons]
    rcases hMore : m.give registry e with cause | more
    · rfl
    · -- from here on there is more besides
      refine ih hRead (Global.apart_give hMore hApart hHere) fun options hOptions other hOther => ?_
      rcases List.mem_cons.mp hOptions with rfl | hDeeper
      · exact hLacks _ List.mem_cons_self other (List.mem_cons_of_mem _ hOther)
      · exact hLacks _ (List.mem_cons_of_mem _ hDeeper) other hOther
  | on hNext _ ih =>
    rw [read_of_next_on hNext] at hRead
    have hGiven := apart_of_read hRead hApart
    rw [read_of_next_on ((Reading.steady_next hNext).2 e hGiven)]
    exact ih hRead hApart hLacks
  | @into r c arg args line globals deeper hNext _ ih =>
    rw [read_of_next_into hNext] at hRead
    obtain ⟨inner, hInner, hEnclose⟩ := bind_eq_ok_iff.mp hRead
    have hFurther : ∀ options ∈ globals :: deeper, ∀ m ∈ options,
        invocation.common.lacks m.parameter := fun options hOptions =>
      hLacks options (List.mem_cons_of_mem _ hOptions)
    -- the subcommand starts afresh, with nothing besides
    have hSub := ih hInner (Given.apart_nothing _) fun options hOptions m hm =>
      (lacks_of_enclose hEnclose m.parameter_mem_everywhere (hFurther options hOptions m hm)).1
    rw [Reading.besides_nothing] at hSub
    replace hSub := hSub.trans (map_below_mapM inner globals deeper).symm
    rw [read_of_next_into (Reading.next_into_besides hNext e), hSub]
    show _ = List.mapM (Given.ofGlobals registry) (globals :: deeper) >>= _
    rcases hGivens : (globals :: deeper).mapM (Given.ofGlobals registry) with cause | givens
    · rfl
    · exact enclose_besides_below hEnclose hApart hFurther hGivens

/-- A whole command line with options put in is read as it is without them, with what the options
of each command come to laid over that.  None of them may be given without them. -/
theorem parse_woven {name : Bytes} {args line : List Bytes} {deeper : List (List Global)}
    {invocation : Invocation} (hParse : Invocation.parse registry (name :: args) = .ok invocation)
    (hWoven : Woven registry (.start .program) args line globals deeper)
    (hLacks : ∀ options ∈ globals :: deeper, ∀ m ∈ options, invocation.common.lacks m.parameter) :
    Invocation.parse registry (name :: line) =
      ((globals :: deeper).mapM (Given.ofGlobals registry)).map invocation.below := by
  have hRead := read_woven hWoven hParse (Given.apart_nothing _) hLacks
  rw [Reading.besides_nothing] at hRead
  show Invocation.read registry (.start .program) line = _
  rw [hRead, map_below_mapM]
  rfl

end MarketFeed.CommandLine
