import Mathlib.Data.List.InsertIdx
import MarketFeed.Proofs.CommandLine.Globals

/-!
# Where an option stands

An option that holds for every command may stand before the name of a group, between the names,
or behind them.  As long as nothing is given twice, it makes no difference where: the command line
is read as the same invocation, or rejected for the same reason.  What is given to several commands
counts as it is given furthest in.

* `Given.ofGlobals_below` — options of several commands come to what they come to for one.
* `Roomy`                 — a command line that leaves room for an option everywhere.
* `Woven.insert`          — one more option, put in at any position.
* `wordsFor`              — the words that ask for a request.
* `parse_insert_option`   — one option among these words, wherever it stands.
* `Global.Holds`          — what counts is what the option says.
* `parse_global_options`  — a level and a home directory mean the same at every position, and what
                            is given furthest in counts.
-/

namespace MarketFeed.CommandLine

variable {registry : Registry} {g e h : Given} {m : Global} {globals : List Global}
  {invocation : Invocation}

/-! ## Options of several commands -/

/-- Options that are lacking come to what they come to besides. -/
theorem Global.foldlM_give_besides (hLacks : ∀ m ∈ globals, g.lacks m.parameter) :
    globals.foldlM (give registry) (g.besides e) =
      (globals.foldlM (give registry) e).map g.besides := by
  induction globals generalizing e with
  | nil => rfl
  | cons m rest ih =>
    rw [List.foldlM_cons, List.foldlM_cons, give_besides (hLacks m List.mem_cons_self)]
    rcases m.give registry e with cause | more
    · rfl
    · exact ih fun other hOther => hLacks other (List.mem_cons_of_mem _ hOther)

/-- Options without those of one parameter do not give it. -/
theorem Given.lacks_ofGlobals (hGlobals : ofGlobals registry globals = .ok g) {p : Parameter}
    (hp : p ∈ Parameter.everywhere) (hOther : ∀ m ∈ globals, m.parameter ≠ p) : g.lacks p :=
  Global.lacks_foldlM_give hGlobals hp hOther (lacks_nothing p)

theorem Given.ofGlobals_append {more : List Global}
    (hApart : ∀ m ∈ globals, ∀ n ∈ more, m.parameter ≠ n.parameter) :
    ofGlobals registry (globals ++ more) =
      ofGlobals registry globals >>= fun g => (ofGlobals registry more).map g.besides := by
  unfold ofGlobals
  rw [List.foldlM_append]
  rcases hGlobals : globals.foldlM (Global.give registry) nothing with cause | g
  · rfl
  · show more.foldlM (Global.give registry) g = _
    have hLacks : ∀ n ∈ more, g.lacks n.parameter := fun n hn =>
      lacks_ofGlobals hGlobals n.parameter_mem_everywhere fun m hm => hApart m hm n hn
    have hBesides : more.foldlM (Global.give registry) (g.besides nothing) = _ :=
      Global.foldlM_give_besides hLacks
    rw [besides_nothing] at hBesides
    exact hBesides

/-- Where nothing is given twice, the options of several commands come to what they come to for one
of them. -/
theorem Given.ofGlobals_below {levels : List (List Global)}
    (hNodup : (levels.flatten.map Global.parameter).Nodup) (inner : Invocation) :
    (levels.mapM (ofGlobals registry)).map inner.below =
      (ofGlobals registry levels.flatten).map (·.handDown inner) := by
  induction levels with
  | nil =>
    show Except.ok inner = Except.ok (nothing.handDown inner)
    rw [show nothing.handDown inner = inner from inner.under_nothing]
  | cons options rest ih =>
    rw [List.flatten_cons, List.map_append, List.nodup_append] at hNodup
    obtain ⟨-, hRest, hDisjoint⟩ := hNodup
    have hApart : ∀ m ∈ options, ∀ n ∈ rest.flatten, m.parameter ≠ n.parameter := fun m hm n hn =>
      hDisjoint _ (List.mem_map_of_mem hm) _ (List.mem_map_of_mem hn)
    specialize ih hRest
    rw [List.mapM_cons, List.flatten_cons, ofGlobals_append hApart]
    rcases hOptions : ofGlobals registry options with cause | g
    · rfl
    -- what the other commands are given is laid over by what this one is given
    show ((rest.mapM (ofGlobals registry) >>= fun givens => Except.ok (g :: givens))).map _ =
      ((ofGlobals registry rest.flatten).map g.besides).map _
    rcases hFlat : ofGlobals registry rest.flatten with cause | further <;> rw [hFlat] at ih
    · rcases hGivens : rest.mapM (ofGlobals registry) with other | givens <;> rw [hGivens] at ih
      · exact ih
      · exact nomatch ih
    · rcases hGivens : rest.mapM (ofGlobals registry) with other | givens <;> rw [hGivens] at ih
      · exact nomatch ih
      · have hBelow : inner.below givens = further.handDown inner := Except.ok.inj ih
        have hFurther : further.Apart g := Global.apart_foldlM_give hFlat (apart_nothing g)
          fun n hn => lacks_ofGlobals hOptions n.parameter_mem_everywhere fun m hm =>
            hApart m hm n hn
        show Except.ok (g.handDown (inner.below givens)) =
          Except.ok ((g.besides further).handDown inner)
        rw [hBelow, handDown_besides, handDown_comm hFurther]

/-- Where nothing is given twice, it does not matter to which of its commands the options of a
command line are given. -/
theorem parse_woven_nodup {name : Bytes} {args line : List Bytes} {deeper : List (List Global)}
    (hParse : Invocation.parse registry (name :: args) = .ok invocation)
    (hWoven : Woven registry (.start .program) args line globals deeper)
    (hNodup : ((globals :: deeper).flatten.map Global.parameter).Nodup)
    (hLacks : ∀ m ∈ (globals :: deeper).flatten, invocation.common.lacks m.parameter) :
    Invocation.parse registry (name :: line) =
      (Given.ofGlobals registry (globals :: deeper).flatten).map (·.handDown invocation) := by
  rw [parse_woven hParse hWoven fun options hOptions m hm =>
    hLacks m (List.mem_flatten.mpr ⟨options, hOptions, hm⟩)]
  exact Given.ofGlobals_below hNodup invocation

/-! ## Putting an option in -/

/-- A command line that leaves room for an option everywhere: no value is awaited, and there are no
two dashes. -/
inductive Roomy (registry : Registry) : Reading → List Bytes → Prop where
  | done {r : Reading} : r.escaped = false → r.isWaiting = false → Roomy registry r []
  | on {r q : Reading} {arg : Bytes} {args : List Bytes} :
      r.escaped = false → r.isWaiting = false → r.next registry arg = .ok (.on q) →
      Roomy registry q args → Roomy registry r (arg :: args)
  | into {r : Reading} {c : Command} {arg : Bytes} {args : List Bytes} :
      r.next registry arg = .ok (.into c) →
      Roomy registry (.start c) args → Roomy registry r (arg :: args)

variable {r : Reading} {args line : List Bytes} {deeper : List (List Global)}

theorem Roomy.here (hRoomy : Roomy registry r args) : r.escaped = false ∧ r.isWaiting = false := by
  cases hRoomy with
  | done hEscaped hWaiting => exact ⟨hEscaped, hWaiting⟩
  | on hEscaped hWaiting _ _ => exact ⟨hEscaped, hWaiting⟩
  | into hNext _ =>
    obtain ⟨hEscaped, hWaiting, -, -⟩ := Reading.next_eq_into_iff.mp hNext
    exact ⟨hEscaped, hWaiting⟩

/-- Behind an argument of the same command there is room as well. -/
theorem Roomy.of_on {q : Reading} {arg : Bytes} (hRoomy : Roomy registry r (arg :: args))
    (hNext : r.next registry arg = .ok (.on q)) : Roomy registry q args := by
  cases hRoomy with
  | on _ _ hSame hBehind =>
    obtain rfl := Next.on.inj (Except.ok.inj (hNext.symm.trans hSame))
    exact hBehind
  | into hOther _ => exact nomatch hNext.symm.trans hOther

/-- Behind the name of a subcommand there is room as well. -/
theorem Roomy.of_into {c : Command} {arg : Bytes} (hRoomy : Roomy registry r (arg :: args))
    (hNext : r.next registry arg = .ok (.into c)) : Roomy registry (.start c) args := by
  cases hRoomy with
  | on _ _ hOther _ => exact nomatch hNext.symm.trans hOther
  | into hSame hBehind =>
    obtain rfl := Next.into.inj (Except.ok.inj (hNext.symm.trans hSame))
    exact hBehind

/-- Nothing is put in yet. -/
theorem Roomy.woven (hRoomy : Roomy registry r args) :
    ∃ deeper, Woven registry r args args [] deeper ∧ deeper.flatten = [] := by
  induction hRoomy with
  | done => exact ⟨[], .done, rfl⟩
  | on _ _ hNext _ ih =>
    obtain ⟨deeper, hWoven, hNone⟩ := ih
    exact ⟨deeper, .on hNext hWoven, hNone⟩
  | into hNext _ ih =>
    obtain ⟨deeper, hWoven, hNone⟩ := ih
    exact ⟨[] :: deeper, .into hNext hWoven, hNone⟩

/-- One more option is put in at any position. -/
theorem Woven.insert (hWoven : Woven registry r args line globals deeper)
    (hRoomy : Roomy registry r args) (m : Global) {i : Nat} (hi : i ≤ line.length) :
    ∃ globals' deeper' before after,
      Woven registry r args (line.insertIdx i m.bytes) globals' deeper' ∧
        (globals :: deeper).flatten = before ++ after ∧
        (globals' :: deeper').flatten = before ++ m :: after := by
  -- by induction on the line: the option goes in here, or somewhere behind what stands here
  induction hWoven generalizing i with
  | done =>
    obtain rfl := Nat.le_zero.mp hi
    obtain ⟨hEscaped, hWaiting⟩ := hRoomy.here
    exact ⟨[m], [], [], [], .global hEscaped hWaiting .done, rfl, rfl⟩
  | @global r args line n globals deeper hEscaped hWaiting hWoven ih =>
    cases i with
    | zero =>
      exact ⟨m :: n :: globals, deeper, [], _,
        .global hEscaped hWaiting (.global hEscaped hWaiting hWoven), rfl, rfl⟩
    | succ i =>
      obtain ⟨globals', deeper', before, after, hMore, hOld, hNew⟩ :=
        ih hRoomy (Nat.le_of_succ_le_succ hi)
      refine ⟨n :: globals', deeper', n :: before, after, .global hEscaped hWaiting hMore, ?_, ?_⟩
      · exact congrArg (n :: ·) hOld
      · exact congrArg (n :: ·) hNew
  | @on r q arg args line globals deeper hNext hWoven ih =>
    obtain ⟨hEscaped, hWaiting⟩ := hRoomy.here
    cases i with
    | zero =>
      exact ⟨m :: globals, deeper, [], _, .global hEscaped hWaiting (.on hNext hWoven), rfl, rfl⟩
    | succ i =>
      obtain ⟨globals', deeper', before, after, hMore, hOld, hNew⟩ :=
        ih (hRoomy.of_on hNext) (Nat.le_of_succ_le_succ hi)
      exact ⟨globals', deeper', before, after, .on hNext hMore, hOld, hNew⟩
  | @into r c arg args line globals deeper hNext hWoven ih =>
    obtain ⟨hEscaped, hWaiting⟩ := hRoomy.here
    cases i with
    | zero =>
      exact ⟨[m], _, [], _, .global hEscaped hWaiting (.into hNext hWoven), rfl, rfl⟩
    | succ i =>
      obtain ⟨globals', deeper', before, after, hMore, hOld, hNew⟩ :=
        ih (hRoomy.of_into hNext) (Nat.le_of_succ_le_succ hi)
      exact ⟨[], globals' :: deeper', before, after, .into hNext hMore, hOld, hNew⟩

/-- Several options are put in before the first argument of a command. -/
theorem Woven.prepend {c : Command} (options : List Global)
    (hWoven : Woven registry (.start c) args line [] deeper) :
    Woven registry (.start c) args (options.map Global.bytes ++ line) options deeper := by
  induction options with
  | nil => exact hWoven
  | cons m rest ih => exact .global rfl rfl ih

/-! ## The words for a request -/

/-- The words behind the name of the program that ask for a request, and for nothing else. -/
def wordsFor : Option Request → List String
  | none => []
  | some (.data .list) => ["data", "list"]
  | some (.data (.get source)) => ["data", "get", "--source=" ++ source]
  | some (.config .showSettings) => ["config", "show"]
  | some (.config (.createFile force)) => ["config", "init"] ++ if force then ["--force"] else []
  | some (.config .locateFile) => ["config", "path"]
  | some (.completion shell) => ["completion", shell.name]

/-- A source is asked for only if it is registered. -/
def Askable (registry : Registry) (request : Option Request) : Prop :=
  ∀ source, request = some (.data (.get source)) → registry.contains source = true

theorem Reading.next_force : (start .configInit).next registry (Utf8.encode "--force") =
    .ok (.on { start .configInit with given := { Given.nothing with force := true } }) := by
  rfl

theorem Reading.next_source {source : String} (hSource : registry.contains source = true) :
    (start .dataGet).next registry (Utf8.encode ("--source=" ++ source)) =
      .ok (.on (.ofGet source)) := by
  refine next_eq_on_iff.mpr (Or.inr ⟨rfl, ?_, Or.inr ⟨rfl, rfl⟩⟩)
  rw [step_source_long, fill_source, if_pos hSource]

/-- A shell stands in the one place of the command, and is not looked at yet. -/
theorem Reading.next_shell (shell : Shell) :
    (start .completion).next registry (Utf8.encode shell.name) =
      .ok (.on { start .completion with
        places := []
        pending := .unread .shell (Utf8.encode shell.name) }) := by
  cases shell <;> rfl

theorem Reading.next_subcommand {c s : Command} {word : Bytes} (hHelp : c.isHelp word = false)
    (hSubcommand : c.subcommand? word = some s) :
    (start c).next registry word = .ok (.into s) :=
  next_eq_into_iff.mpr ⟨rfl, rfl, hHelp, hSubcommand⟩

/-- The name of a subcommand leaves room before it, and what follows counts for the whole. -/
theorem roomy_subcommand {c s : Command} {word : Bytes} {rest : List Bytes}
    (hHelp : c.isHelp word = false) (hSubcommand : c.subcommand? word = some s)
    (hRest : Roomy registry (.start s) rest ∧
      Invocation.read registry (.start s) rest = .ok invocation) :
    Roomy registry (.start c) (word :: rest) ∧
      Invocation.read registry (.start c) (word :: rest) = .ok invocation := by
  constructor
  · exact .into (Reading.next_subcommand hHelp hSubcommand) hRest.1
  · rw [read_start_subcommand hHelp hSubcommand]
    exact hRest.2

/-- An argument of a command that another follows or nothing does. -/
theorem roomy_on {q : Reading} {arg : Bytes} {rest : List Bytes} (hEscaped : r.escaped = false)
    (hWaiting : r.isWaiting = false) (hNext : r.next registry arg = .ok (.on q))
    (hRest : Roomy registry q rest ∧ Invocation.read registry q rest = .ok invocation) :
    Roomy registry r (arg :: rest) ∧
      Invocation.read registry r (arg :: rest) = .ok invocation := by
  constructor
  · exact .on hEscaped hWaiting hNext hRest.1
  · rw [read_of_next_on hNext]
    exact hRest.2

/-- The words for a request ask for it and leave room everywhere. -/
theorem roomy_wordsFor {request : Option Request} (hAskable : Askable registry request) :
    Roomy registry (.start .program) ((wordsFor request).map Utf8.encode) ∧
      Invocation.read registry (.start .program) ((wordsFor request).map Utf8.encode) =
        .ok ⟨none, none, 0, request⟩ := by
  have hDone : ∀ {r : Reading}, r.escaped = false → r.isWaiting = false →
      r.finish registry = .ok ⟨none, none, 0, request⟩ →
      Roomy registry r [] ∧ Invocation.read registry r [] = .ok ⟨none, none, 0, request⟩ :=
    fun hEscaped hWaiting hFinish => ⟨.done hEscaped hWaiting, hFinish⟩
  have hData : (Command.program.subcommand? (Utf8.encode "data")) = some .data := by decide
  have hConfig : (Command.program.subcommand? (Utf8.encode "config")) = some .config := by decide
  -- one command for each kind of request: the names that lead to it, then its own arguments
  match request, hAskable with
  | none, _ => exact hDone rfl rfl rfl
  | some (.data .list), _ =>
    exact roomy_subcommand (by decide) hData
      (roomy_subcommand (s := .dataList) (by decide) (by decide) (hDone rfl rfl rfl))
  | some (.data (.get source)), hAskable =>
    exact roomy_subcommand (by decide) hData
      (roomy_subcommand (s := .dataGet) (by decide) (by decide)
        (roomy_on rfl rfl (Reading.next_source (hAskable source rfl)) (hDone rfl rfl rfl)))
  | some (.config .showSettings), _ =>
    exact roomy_subcommand (by decide) hConfig
      (roomy_subcommand (s := .configShow) (by decide) (by decide) (hDone rfl rfl rfl))
  | some (.config (.createFile false)), _ =>
    exact roomy_subcommand (by decide) hConfig
      (roomy_subcommand (s := .configInit) (by decide) (by decide) (hDone rfl rfl rfl))
  | some (.config (.createFile true)), _ =>
    exact roomy_subcommand (by decide) hConfig
      (roomy_subcommand (s := .configInit) (by decide) (by decide)
        (roomy_on rfl rfl Reading.next_force (hDone rfl rfl rfl)))
  | some (.config .locateFile), _ =>
    exact roomy_subcommand (by decide) hConfig
      (roomy_subcommand (s := .configPath) (by decide) (by decide) (hDone rfl rfl rfl))
  | some (.completion shell), _ =>
    have hFinish : Reading.finish registry { Reading.start .completion with
        places := []
        pending := .unread .shell (Utf8.encode shell.name) } =
          .ok ⟨none, none, 0, some (.completion shell)⟩ := by
      cases shell <;> rfl
    exact roomy_subcommand (s := .completion) (by decide) (by decide)
      (roomy_on rfl rfl (Reading.next_shell shell) (hDone rfl rfl hFinish))

/-! ## Options among the words -/

/-- The words that give a level and a home directory. -/
theorem Global.bytes_logLevel (s : String) :
    (logLevel (Utf8.encode s)).bytes = Utf8.encode ("--log-level=" ++ s) := by
  rw [Utf8.encode_append]
  rfl

theorem Global.bytes_home (s : String) :
    (home (Utf8.encode s)).bytes = Utf8.encode ("--home=" ++ s) := by
  rw [Utf8.encode_append]
  rfl

/-- A level in an argument is read as that of its text. -/
theorem Given.levelOf_encode (s : String) :
    levelOf (Utf8.encode s) =
      match LogLevel.ofName? (Text.lower (Text.trim s)) with
      | some level => .ok level
      | none => .error (.refusedValue (ValueError.logLevel s).message) := by
  have hText : textOf (Utf8.encode s) = .ok s := by
    unfold textOf
    rw [Utf8.decode?_encode]
  unfold levelOf
  rw [hText]
  rcases hName : LogLevel.ofName? (Text.lower (Text.trim s)) with _ | level
  · have hParse : LogLevel.parse s = .error (.logLevel s) := by rw [LogLevel.parse, hName]
    simp only [bind, Except.bind]
    rw [hParse]
    rfl
  · have hParse : LogLevel.parse s = .ok level := by rw [LogLevel.parse, hName]
    simp only [bind, Except.bind]
    rw [hParse]
    rfl

theorem Global.give_logLevel (registry : Registry) (v : Bytes) :
    (logLevel v).give registry .nothing =
      (Given.levelOf v).map fun level => { Given.nothing with logLevel := some level } := by
  exact bind_pure_comp _ (Given.levelOf v)

theorem Given.ofGlobals_singleton (m : Global) :
    ofGlobals registry [m] = m.give registry .nothing := by
  show m.give registry .nothing >>= pure = _
  exact bind_pure _

/-- The words for a request lack all options. -/
theorem lacks_common_request (request : Option Request) (p : Parameter) :
    (Invocation.common ⟨none, none, 0, request⟩).lacks p :=
  Given.lacks_nothing p

/-- One option put in among the words for a request, wherever it stands. -/
theorem woven_wordsFor {request : Option Request} (hAskable : Askable registry request)
    (m : Global) {i : Nat} (hi : i ≤ (wordsFor request).length) :
    ∃ globals deeper, Woven registry (.start .program) ((wordsFor request).map Utf8.encode)
      (((wordsFor request).map Utf8.encode).insertIdx i m.bytes) globals deeper ∧
        (globals :: deeper).flatten = [m] := by
  obtain ⟨hRoomy, -⟩ := roomy_wordsFor hAskable
  obtain ⟨deeper, hWoven, hNone⟩ := hRoomy.woven
  have hLength : i ≤ ((wordsFor request).map Utf8.encode).length := by
    rw [List.length_map]
    exact hi
  obtain ⟨globals, more, before, after, hMore, hOld, hNew⟩ := hWoven.insert hRoomy m hLength
  obtain ⟨rfl, rfl⟩ := List.append_eq_nil_iff.mp (hOld.symm.trans hNone)
  exact ⟨globals, more, hMore, hNew⟩

/-- One option among the words for a request means the same wherever it stands. -/
theorem parse_insert_option {request : Option Request} (hAskable : Askable registry request)
    (name : Bytes) (m : Global) {i : Nat} (hi : i ≤ (wordsFor request).length) :
    Invocation.parse registry (name :: ((wordsFor request).map Utf8.encode).insertIdx i m.bytes) =
      (m.give registry .nothing).map (·.handDown ⟨none, none, 0, request⟩) := by
  obtain ⟨-, hRead⟩ := roomy_wordsFor hAskable
  obtain ⟨globals, deeper, hWoven, hOne⟩ := woven_wordsFor hAskable m hi
  have hParse : Invocation.parse registry (name :: (wordsFor request).map Utf8.encode) =
      .ok ⟨none, none, 0, request⟩ := hRead
  rw [parse_woven_nodup hParse hWoven (by simp [hOne]) fun n _ => lacks_common_request request _,
    hOne, Given.ofGlobals_singleton]

/-- A level and a home directory come to the same in either order. -/
theorem Given.ofGlobals_level_home {options : List Global} {v d : Bytes} (hHome : d ≠ [])
    (hOptions : options = [.logLevel v, .home d] ∨ options = [.home d, .logLevel v]) :
    ofGlobals registry options = (levelOf v).map fun level =>
      { nothing with logLevel := some level, home := some ⟨d⟩ } := by
  have hTake : ∀ g : Given, g.home = none →
      g.take registry .home d = .ok { g with home := some ⟨d⟩ } := fun g hNone =>
    keep_eq_ok_iff.mpr ⟨hNone, ⟨d⟩, if_neg hHome, rfl⟩
  rcases hOptions with rfl | rfl
  · show ((levelOf v >>= fun level => Except.ok { nothing with logLevel := some level }) >>=
      fun g => g.take registry .home d >>= fun h => Except.ok h) = _
    rcases levelOf v with cause | level
    · rfl
    · show (Given.take registry { nothing with logLevel := some level } .home d >>= _) = _
      rw [hTake _ rfl]
      rfl
  · show (Given.take registry nothing .home d >>= fun g =>
      g.take registry .logLevel v >>= fun h => Except.ok h) = _
    rw [hTake _ rfl]
    show ((levelOf v >>= fun level => Except.ok
      { nothing with logLevel := some level, home := some ⟨d⟩ }) >>= _) = _
    rcases levelOf v with cause | level
    · rfl
    · rfl

/-- A level and a home directory among the words for a request mean the same wherever they
stand. -/
theorem parse_insert_level_home {request : Option Request} (hAskable : Askable registry request)
    (name : Bytes) {v d : Bytes} (hHome : d ≠ []) {i j : Nat}
    (hi : i ≤ (wordsFor request).length) (hj : j ≤ (wordsFor request).length + 1) :
    Invocation.parse registry (name :: (((wordsFor request).map Utf8.encode).insertIdx i
        (Global.logLevel v).bytes).insertIdx j (Global.home d).bytes) =
      (Given.levelOf v).map fun level => ⟨some level, some ⟨d⟩, 0, request⟩ := by
  obtain ⟨hRoomy, hRead⟩ := roomy_wordsFor hAskable
  obtain ⟨globals, deeper, hWoven, hOne⟩ := woven_wordsFor hAskable (.logLevel v) hi
  have hLength : j ≤ (((wordsFor request).map Utf8.encode).insertIdx i
      (Global.logLevel v).bytes).length := by
    rwa [List.length_insertIdx_of_le_length (by rwa [List.length_map]), List.length_map]
  obtain ⟨globals, deeper, before, after, hBoth, hOld, hNew⟩ :=
    hWoven.insert hRoomy (.home d) hLength
  -- the home directory stands before the level or behind it
  have hOptions : (globals :: deeper).flatten = [.logLevel v, .home d] ∨
      (globals :: deeper).flatten = [.home d, .logLevel v] := by
    rw [hNew]
    rcases List.append_eq_singleton_iff.mp (hOld.symm.trans hOne) with ⟨rfl, rfl⟩ | ⟨rfl, rfl⟩
    · exact Or.inr rfl
    · exact Or.inl rfl
  have hNodup : ((globals :: deeper).flatten.map Global.parameter).Nodup := by
    rcases hOptions with hSame | hSame <;> simp [hSame, Global.parameter]
  have hParse : Invocation.parse registry (name :: (wordsFor request).map Utf8.encode) =
      .ok ⟨none, none, 0, request⟩ := hRead
  rw [parse_woven_nodup hParse hBoth hNodup fun n _ => lacks_common_request request _,
    Given.ofGlobals_level_home hHome hOptions]
  rcases Given.levelOf v with cause | level
  · rfl
  · rfl

/-! ## What counts -/

namespace Global

/-- The option can be given. -/
def Valid : Global → Prop
  | logLevel value => ∃ level, Given.levelOf value = .ok level
  | home value => value ≠ []
  | verbose _ => True

/-- What counts for the parameter of the option is what the option says. -/
def Holds (g : Given) : Global → Prop
  | logLevel value => ∃ level, Given.levelOf value = .ok level ∧ g.logLevel = some level
  | home value => g.home = some ⟨value⟩
  | verbose more => g.verbose = min (more + 1) Given.verboseLimit

theorem Valid.exists_give (hValid : m.Valid) (registry : Registry) :
    ∃ g, m.give registry .nothing = .ok g ∧ m.Holds g := by
  cases m with
  | logLevel value =>
    obtain ⟨level, hLevel⟩ := hValid
    refine ⟨{ Given.nothing with logLevel := some level }, ?_, level, hLevel, rfl⟩
    exact Given.keep_eq_ok_iff.mpr ⟨rfl, level, hLevel, rfl⟩
  | home value =>
    refine ⟨{ Given.nothing with home := some ⟨value⟩ }, ?_, rfl⟩
    exact Given.keep_eq_ok_iff.mpr ⟨rfl, ⟨value⟩, if_neg hValid, rfl⟩
  | verbose more =>
    refine ⟨_, rfl, ?_⟩
    show min (0 + (more + 1)) Given.verboseLimit = min (more + 1) Given.verboseLimit
    rw [Nat.zero_add]

/-- What counts already goes on to count. -/
theorem Holds.besides (hHolds : m.Holds g) (e : Given) : m.Holds (g.besides e) := by
  cases m with
  | logLevel value =>
    obtain ⟨level, hLevel, hSome⟩ := hHolds
    refine ⟨level, hLevel, ?_⟩
    show g.logLevel.or e.logLevel = some level
    rw [hSome, Option.some_or]
  | home value =>
    replace hHolds : g.home = some ⟨value⟩ := hHolds
    show g.home.or e.home = some ⟨value⟩
    rw [hHolds, Option.some_or]
  | verbose more =>
    replace hHolds : g.verbose = min (more + 1) Given.verboseLimit := hHolds
    show (if g.verbose = 0 then e.verbose else g.verbose) = min (more + 1) Given.verboseLimit
    have hLimit : Given.verboseLimit = 255 := rfl
    rw [if_neg (by omega), hHolds]

/-- What is given besides counts where there is room for it. -/
theorem Holds.of_lacks (hHolds : m.Holds e) (hLacks : g.lacks m.parameter) :
    m.Holds (g.besides e) := by
  cases m with
  | logLevel value =>
    obtain ⟨level, hLevel, hSome⟩ := hHolds
    replace hLacks : g.logLevel = none := hLacks
    refine ⟨level, hLevel, ?_⟩
    show g.logLevel.or e.logLevel = some level
    rw [hLacks, hSome, Option.none_or]
  | home value =>
    replace hHolds : e.home = some ⟨value⟩ := hHolds
    replace hLacks : g.home = none := hLacks
    show g.home.or e.home = some ⟨value⟩
    rw [hLacks, hHolds, Option.none_or]
  | verbose more =>
    replace hHolds : e.verbose = min (more + 1) Given.verboseLimit := hHolds
    replace hLacks : g.verbose = 0 := hLacks
    show (if g.verbose = 0 then e.verbose else g.verbose) = min (more + 1) Given.verboseLimit
    rw [if_pos hLacks, hHolds]

end Global

/-- Options of which none is given twice come to what each of them says. -/
theorem Given.exists_ofGlobals (registry : Registry)
    (hNodup : (globals.map Global.parameter).Nodup)
    (hValid : ∀ m ∈ globals, m.Valid) :
    ∃ g, ofGlobals registry globals = .ok g ∧ ∀ m ∈ globals, m.Holds g := by
  induction globals with
  | nil => exact ⟨nothing, rfl, fun m hm => nomatch hm⟩
  | cons m rest ih =>
    rw [List.map_cons, List.nodup_cons] at hNodup
    obtain ⟨hFirst, hRest⟩ := hNodup
    have hApart : ∀ n ∈ rest, m.parameter ≠ n.parameter := fun n hn hSame =>
      hFirst (hSame ▸ List.mem_map_of_mem hn)
    obtain ⟨g, hGive, hHolds⟩ :=
      (hValid m List.mem_cons_self).exists_give registry
    obtain ⟨more, hMore, hOthers⟩ := ih hRest fun n hn => hValid n (List.mem_cons_of_mem _ hn)
    have hOne : ofGlobals registry [m] = .ok g := by rw [ofGlobals_singleton, hGive]
    refine ⟨g.besides more, ?_, fun n hn => ?_⟩
    · rw [← List.singleton_append, ofGlobals_append (by simpa using hApart), hOne, hMore]
      rfl
    · rcases List.mem_cons.mp hn with rfl | hn
      · exact hHolds.besides more
      · refine (hOthers n hn).of_lacks ?_
        exact lacks_ofGlobals hOne n.parameter_mem_everywhere (by simpa using hApart n hn)

@[simp] theorem Invocation.request_below (inner : Invocation) (givens : List Given) :
    (inner.below givens).request = inner.request := by
  induction givens with
  | nil => rfl
  | cons g rest ih => exact ih

/-- Where no command is given a parameter twice, that of the innermost command counts. -/
theorem exists_below (registry : Registry) {levels : List (List Global)}
    (hLevels : ∀ options ∈ levels, (options.map Global.parameter).Nodup ∧
      ∀ m ∈ options, m.Valid ∧ invocation.common.lacks m.parameter) :
    ∃ givens, levels.mapM (Given.ofGlobals registry) = .ok givens ∧
      (∀ p ∈ Parameter.everywhere, (∀ options ∈ levels, ∀ m ∈ options, m.parameter ≠ p) →
        invocation.common.lacks p → (invocation.below givens).common.lacks p) ∧
      ∀ outer options inner, levels = outer ++ options :: inner → ∀ m ∈ options,
        (∀ further ∈ inner, ∀ n ∈ further, n.parameter ≠ m.parameter) →
          m.Holds (invocation.below givens).common := by
  -- by induction from the innermost command outwards
  induction levels with
  | nil =>
    refine ⟨[], rfl, fun p _ _ hLacks => hLacks, fun outer options inner hNil => ?_⟩
    exact absurd hNil.symm (by simp)
  | cons first rest ih =>
    obtain ⟨hNodup, hFirst⟩ := hLevels first List.mem_cons_self
    obtain ⟨g, hGlobals, hHolds⟩ :=
      Given.exists_ofGlobals registry hNodup fun m hm => (hFirst m hm).1
    obtain ⟨givens, hMapM, hLacking, hDeepest⟩ := ih fun options hOptions =>
      hLevels options (List.mem_cons_of_mem _ hOptions)
    have hCommon : (invocation.below (g :: givens)).common =
        (invocation.below givens).common.besides g := rfl
    refine ⟨g :: givens, ?_, fun p hp hOther hLacks => ?_,
      fun outer options inner hSplit m hm hFurther => ?_⟩
    · rw [List.mapM_cons, hGlobals, hMapM]
      rfl
    · rw [hCommon, Given.lacks_besides hp]
      constructor
      · refine hLacking p hp (fun options hOptions => ?_) hLacks
        exact hOther options (List.mem_cons_of_mem _ hOptions)
      · exact Given.lacks_ofGlobals hGlobals hp (hOther first List.mem_cons_self)
    · rw [hCommon]
      cases outer with
      | nil =>
        -- the option is given to the outermost command, and to none further in
        obtain ⟨rfl, rfl⟩ := List.cons.inj hSplit
        refine (hHolds m hm).of_lacks ?_
        exact hLacking _ m.parameter_mem_everywhere hFurther (hFirst m hm).2
      | cons other outer =>
        obtain ⟨rfl, hRest⟩ := List.cons.inj hSplit
        exact (hDeepest outer options inner hRest m hm hFurther).besides g

/-- A level and a home directory mean the same at every position of a command line that asks for a
request, whether the level is one or not.  And whatever else a command line says, where an option is
given to several of its commands, each time with a value that will do, what is given furthest in
counts. -/
theorem parse_global_options (registry : Registry) :
    (∀ (request : Option Request) (v d : String) (i j : Nat), Askable registry request → d ≠ "" →
      i ≤ (wordsFor request).length → j ≤ (wordsFor request).length + 1 →
      Invocation.parse registry (("kfc" ::
          ((wordsFor request).insertIdx i ("--log-level=" ++ v)).insertIdx j ("--home=" ++ d)).map
            Utf8.encode) =
        (Given.levelOf (Utf8.encode v)).map fun level =>
          ⟨some level, some ⟨Utf8.encode d⟩, 0, request⟩) ∧
    (∀ (name : Bytes) (args line : List Bytes) (globals : List Global)
        (deeper : List (List Global)) (invocation : Invocation),
      Invocation.parse registry (name :: args) = .ok invocation →
      Woven registry (.start .program) args line globals deeper →
      (∀ options ∈ globals :: deeper, (options.map Global.parameter).Nodup ∧
        ∀ m ∈ options, m.Valid ∧ invocation.common.lacks m.parameter) →
      ∃ out, Invocation.parse registry (name :: line) = .ok out ∧
        out.request = invocation.request ∧
        ∀ outer options inner, globals :: deeper = outer ++ options :: inner → ∀ m ∈ options,
          (∀ further ∈ inner, ∀ n ∈ further, n.parameter ≠ m.parameter) →
            m.Holds out.common) := by
  constructor
  · intro request v d i j hAskable hHome hi hj
    have hBytes : Utf8.encode d ≠ [] := fun hNil => hHome (Utf8.encode_injective hNil)
    rw [List.map_cons, List.map_insertIdx, List.map_insertIdx, ← Global.bytes_logLevel,
      ← Global.bytes_home]
    exact parse_insert_level_home hAskable _ hBytes hi hj
  · intro name args line globals deeper invocation hParse hWoven hLevels
    obtain ⟨givens, hMapM, -, hDeepest⟩ := exists_below registry hLevels
    refine ⟨invocation.below givens, ?_, invocation.request_below givens, hDeepest⟩
    rw [parse_woven hParse hWoven fun options hOptions m hm =>
      ((hLevels options hOptions).2 m hm).2, hMapM]
    rfl

/-- Options before the group, between the group and its subcommand, and behind both. -/
theorem woven_data_list (outer group inner : List Global) :
    Woven registry (.start .program) (["data", "list"].map Utf8.encode)
      (outer.map Global.bytes ++ Utf8.encode "data" ::
        (group.map Global.bytes ++ Utf8.encode "list" :: inner.map Global.bytes))
      outer [group, inner] := by
  have hInner : Woven registry (.start .dataList) [] (inner.map Global.bytes) inner [] := by
    have hDone : Woven registry (.start .dataList) [] [] [] [] := .done
    have hPut := hDone.prepend inner
    rwa [List.append_nil] at hPut
  have hData : (Reading.start .program).next registry (Utf8.encode "data") = .ok (.into .data) :=
    Reading.next_subcommand (by decide) (by decide)
  have hList : (Reading.start .data).next registry (Utf8.encode "list") = .ok (.into .dataList) :=
    Reading.next_subcommand (by decide) (by decide)
  exact .prepend outer (.into hData (.prepend group (.into hList hInner)))

/-- Before the group or behind the subcommand, a level and a home directory are the same; and of
three levels the one behind the subcommand counts. -/
theorem parse_global_options_sample :
    Invocation.parse .builtin
        (["kfc", "--log-level=Debug", "data", "list", "--home=/srv"].map Utf8.encode) =
      .ok ⟨some .debug, some ⟨Utf8.encode "/srv"⟩, 0, some (.data .list)⟩ ∧
    Invocation.parse .builtin
        (["kfc", "data", "--home=/srv", "list", "--log-level=loud"].map Utf8.encode) =
      .error (.refusedValue (ValueError.logLevel "loud").message) ∧
    ∃ out, Invocation.parse .builtin
        (["kfc", "--log-level=info", "data", "--log-level=debug", "list", "--log-level=error"].map
          Utf8.encode) = .ok out ∧
      out.request = some (.data .list) ∧ out.logLevel = some .error := by
  obtain ⟨hPositions, hDeepest⟩ := parse_global_options .builtin
  have hAskable : Askable .builtin (some (.data .list)) := by
    intro source hSource
    exact nomatch hSource
  refine ⟨?_, ?_, ?_⟩
  · exact hPositions (some (.data .list)) "Debug" "/srv" 0 3 hAskable (by decide) (by decide)
      (by decide)
  · exact hPositions (some (.data .list)) "loud" "/srv" 2 1 hAskable (by decide) (by decide)
      (by decide)
  · let level (s : String) : List Global := [.logLevel (Utf8.encode s)]
    have hValid : ∀ options ∈ [level "info", level "debug", level "error"],
        (options.map Global.parameter).Nodup ∧ ∀ m ∈ options, m.Valid ∧
          (Invocation.common ⟨none, none, 0, some (.data .list)⟩).lacks m.parameter := by
      intro options hOptions
      obtain ⟨s, hLevel, rfl⟩ : ∃ s, (∃ l, Given.levelOf (Utf8.encode s) = .ok l) ∧
          options = level s := by
        simp only [List.mem_cons, List.not_mem_nil, or_false] at hOptions
        rcases hOptions with rfl | rfl | rfl
        · exact ⟨"info", ⟨.info, rfl⟩, rfl⟩
        · exact ⟨"debug", ⟨.debug, rfl⟩, rfl⟩
        · exact ⟨"error", ⟨.error, rfl⟩, rfl⟩
      refine ⟨List.pairwise_singleton _ _, fun m hm => ?_⟩
      obtain rfl := List.mem_singleton.mp hm
      exact ⟨hLevel, lacks_common_request _ _⟩
    obtain ⟨out, hParse, hRequest, hCounts⟩ :=
      hDeepest (Utf8.encode "kfc") _ _ _ _ _ (roomy_wordsFor hAskable).2
        (woven_data_list (level "info") (level "debug") (level "error")) hValid
    obtain ⟨l, hLevel, hSame⟩ := hCounts [level "info", level "debug"] (level "error") [] rfl _
      List.mem_cons_self (fun further hFurther => nomatch hFurther)
    have hError : Given.levelOf (Utf8.encode "error") = .ok .error := rfl
    obtain rfl := Except.ok.inj (hLevel.symm.trans hError)
    exact ⟨out, hParse, hRequest, hSame⟩

end MarketFeed.CommandLine
