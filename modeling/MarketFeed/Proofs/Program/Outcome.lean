import MarketFeed.Program
import MarketFeed.Proofs.CommandLine.Sources
import MarketFeed.Proofs.Services.Getting
import MarketFeed.Proofs.Session.Log
import MarketFeed.Proofs.Settings.Layers

/-!
# What a run comes to

The status of a run and the files that it leaves, told without the journal, and what stands in the
journal before its request.

* `Services.conclusion` — the status and the files that a request leads to.
* `result_createFile`   — the request for a settings file does what is told by the files alone, if
                          anybody knows where it is.
* `Program.announcement` — what is told before a request is done.
* `result_work`         — the work of an invocation is the announcement and then its request.
* `Program.ending`      — the status and the files that a whole command line leads to: the arguments
                          or the settings may end a run before its request does.
* `run_standard`        — every run of the standard program leads to its ending.
-/

namespace MarketFeed

namespace Services

/-! ## Requests -/

/-- The status and the files that a request leads to. -/
def conclusion (stamp : Stamp) (e : Environment) (settings : Settings) (files : FileTree) :
    Option Request → ExitStatus × FileTree
  | none => (.usage, files)
  | some (.data _) =>
    match beginSession stamp settings.home files with
    | (.error _, after) => (.cannotCreate, after)
    | (.ok (), after) => (.ok, after)
  | some (.config (.createFile force)) =>
    match e.configFile? with
    | none => (.usage, files)
    | some file =>
      match createConfig file force files with
      | (.error cause, after) => (cause.status, after)
      | (.ok (), after) => (.ok, after)
  | some (.config .locateFile) => (if e.configFile?.isSome then .ok else .usage, files)
  | some _ => (.ok, files)

/-- The status that a result leads to. -/
def statusOf {α : Type} : Except CommandError α → ExitStatus
  | .ok _ => .ok
  | .error e => e.status

/-- A request of the data group goes well exactly if a session begins. -/
theorem performData_conclusion (stamp : Stamp) (e : Environment) {settings : Settings}
    {request : DataRequest}
    (hSource : ∀ name, request = .get name → Registry.builtin.contains name = true)
    (s : Session) :
    let r := (performData ⟨settings, e, .builtin, .console stamp⟩ request).result s
    (statusOf r.1, r.2.files) = conclusion stamp e settings s.files (some (.data request)) := by
  intro r
  have hCases := performData_cases ⟨settings, e, .builtin, .console stamp⟩ request s
  have hMark := mark_console stamp s.nextIdentity settings.home settings.logLevel s.files
  unfold conclusion
  dsimp only [RuntimeLog.console, site] at hCases hMark
  rw [← hMark]
  rcases hEnd : (RuntimeLog.mark stamp _ dataGroup s.files).result with cause | ⟨⟩ <;>
    rw [hEnd] at hCases hMark <;> dsimp only at hCases
  · rw [show r.1 = _ from hCases.1, show r.2.files = _ from hCases.2]
    rfl
  · obtain ⟨group, t, hFiles, hRegistry, hDirectory, hResult, hLeft⟩ := hCases
    -- the log has made the runtime directory that the probe asks for
    have hLooks := Group.serve_looks hRegistry (hRegistry ▸ hSource) t
    have hRuntime : t.files.isDirectory group.context.frame.runtimeDir = true := by
      rw [hFiles, hDirectory]
      exact isDirectory_of_beginSession hMark.symm
    obtain ⟨⟨⟩, hGood⟩ := hLooks.2 hRuntime
    rw [show r.1 = _ from hResult, show r.2.files = _ from hLeft, hGood, hLooks.1, hFiles]
    rfl

/-- Where a request needs the settings file, it fails without one. -/
theorem configFile_of_none {services : Services}
    (hNone : services.environment.configFile? = none) :
    services.configFile = .error (.usage "cannot determine config directory") := by
  rw [configFile, hNone]

theorem configFile_of_some {services : Services} {file : Path}
    (hFile : services.environment.configFile? = some file) : services.configFile = .ok file := by
  rw [configFile, hFile]

/-- The request for a settings file fails where nobody knows its place. -/
theorem result_createFile_of_none (services : Services)
    (hNone : services.environment.configFile? = none) (force : Bool) (s : Session) :
    let r := (services.perform (some (.config (.createFile force)))).result s
    r.1 = .error (.usage "cannot determine config directory") ∧ r.2.files = s.files := by
  intro r
  have hr : r = (services.performConfig (.createFile force)).result s := rfl
  unfold performConfig at hr
  rw [Action.result_within, configFile_of_none hNone] at hr
  rw [hr]
  exact ⟨rfl, rfl⟩

/-- What it comes to otherwise is told by the files alone. -/
theorem result_createFile (services : Services) {file : Path}
    (hFile : services.environment.configFile? = some file) (force : Bool) (s : Session) :
    let r := (services.perform (some (.config (.createFile force)))).result s
    let made := createConfig file force s.files
    r.1 = made.1 ∧ r.2.files = made.2 := by
  intro r made
  have hr : r = (services.performConfig (.createFile force)).result s := rfl
  unfold performConfig at hr
  rw [Action.result_within, configFile_of_some hFile] at hr
  dsimp only at hr
  rw [Action.result_bind_ok (a := file) rfl, Action.result_bind, Action.result_onFiles] at hr
  dsimp only [Action.result_ofExcept] at hr
  rcases hMade : createConfig file force s.files with ⟨cause | ⟨⟩, files⟩ <;>
    rw [hMade] at hr <;> rw [hr, show made = _ from hMade]
  · exact ⟨rfl, rfl⟩
  · exact ⟨rfl, rfl⟩

/-- The request for the place of the settings file goes well exactly if somebody knows it. -/
theorem locateFile_conclusion (services : Services) (s : Session) :
    let r := (services.perform (some (.config .locateFile))).result s
    (statusOf r.1, r.2.files) =
      (if services.environment.configFile?.isSome then .ok else .usage, s.files) := by
  intro r
  have hr : r = (services.performConfig .locateFile).result s := rfl
  unfold performConfig at hr
  rw [Action.result_within] at hr
  rcases hFile : services.environment.configFile? with _ | file
  · rw [configFile_of_none hFile] at hr
    rw [hr]
    rfl
  · rw [configFile_of_some hFile] at hr
    rw [hr]
    rfl

/-- What the services of the standard program do for a request comes to its conclusion. -/
theorem perform_conclusion (stamp : Stamp) (e : Environment) {settings : Settings}
    {request : Option Request} (hHome : ∃ text, settings.home = .ofString text)
    (hSource : ∀ name, request = some (.data (.get name)) → Registry.builtin.contains name = true)
    (s : Session) :
    let r := (perform ⟨settings, e, .builtin, .console stamp⟩ request).result s
    (statusOf r.1, r.2.files) = conclusion stamp e settings s.files request := by
  intro r
  rcases request with _ | request | request | shell
  · rfl
  · exact performData_conclusion stamp e (fun name hName => hSource name (by rw [hName])) s
  · cases request with
    | showSettings =>
      -- only a home directory that is no text could not be told
      obtain ⟨text, hText⟩ := hHome
      have hToml : ∃ document, settings.toToml = .ok document := by
        unfold Settings.toToml Settings.toToml?
        rw [hText, Path.ofString, Utf8.decode?_encode]
        exact ⟨_, rfl⟩
      obtain ⟨document, hDocument⟩ := hToml
      have hr : r = (performConfig ⟨settings, e, .builtin, .console stamp⟩
        .showSettings).result s := rfl
      unfold performConfig showSettings at hr
      rw [Action.result_within, Action.result_bind, Action.result_mapError,
        Action.result_ofExcept, hDocument] at hr
      rw [hr]
      rfl
    | createFile force =>
      unfold conclusion
      dsimp only
      rcases hFile : e.configFile? with _ | file
      · obtain ⟨hResult, hFiles⟩ := result_createFile_of_none
          ⟨settings, e, .builtin, .console stamp⟩ hFile force s
        rw [show r.1 = _ from hResult, show r.2.files = _ from hFiles]
        rfl
      · obtain ⟨hResult, hFiles⟩ := result_createFile
          ⟨settings, e, .builtin, .console stamp⟩ hFile force s
        rw [show r.1 = _ from hResult, show r.2.files = _ from hFiles]
        dsimp only
        rcases createConfig file force s.files with ⟨cause | ⟨⟩, files⟩
        · rfl
        · rfl
    | locateFile => exact locateFile_conclusion ⟨settings, e, .builtin, .console stamp⟩ s
  · rfl

end Services

/-! ## Command lines -/

namespace Program

open CommandLine (Invocation)

/-- The home directory of settings that were loaded is text. -/
theorem exists_home_of_settings {p : Program} {invocation : Invocation} {files : FileTree}
    {settings : Settings} (hSettings : p.settings invocation files = .ok settings) :
    ∃ text, settings.home = .ofString text := by
  obtain ⟨loaded, hLoad, hOverride⟩ := bind_eq_ok_iff.mp hSettings
  obtain rfl := Except.ok.inj hOverride
  -- an invocation is one layer from the command line
  exact Settings.exists_home_of_load hLoad [⟨invocation.home, invocation.logLevel⟩]

/-- What is told before a request is done. -/
def announcement (verbose : Nat) (level : LogLevel) (spans : List Span) : List Entry :=
  (if 3 < verbose then [.told (.remark "Don't be crazy, max is -v -v -v")] else []) ++
    .showing (threshold verbose level) ::
      (modeEvent? (threshold verbose level)).toList.map (.event · spans)

theorem result_showEvents (verbose : Nat) (level : LogLevel) (s : Session) :
    (showEvents verbose level).result s =
      (.ok (), s.after s.files (announcement verbose level s.spans)) := by
  unfold showEvents announcement
  by_cases hMany : 3 < verbose
  · rw [if_pos hMany, if_pos hMany, Action.result_bind_ok (a := ()) rfl,
      Action.result_bind_ok (a := ()) rfl, Action.result_forM_emit]
    simp [Session.add, Session.after]
  · rw [if_neg hMany, if_neg hMany, Action.result_bind_ok (a := ()) rfl, Action.result_forM_emit]
    simp [Session.add, Session.after]

/-- The work of an invocation ends with its settings, or is the announcement and then its
request. -/
theorem result_work (p : Program) (invocation : Invocation) (s : Session) :
    (p.work invocation).result s =
      match p.settings invocation s.files with
      | .error cause => (.error (.ofService cause), s)
      | .ok settings =>
        (Services.perform ⟨settings, p.environment, p.registry, p.log⟩ invocation.request).result
          (s.after s.files (announcement invocation.verbose settings.logLevel s.spans)) := by
  unfold work
  rw [Action.result_bind_ok (a := s) rfl, Action.result_get]
  dsimp only
  rcases p.settings invocation s.files with cause | settings
  · rfl
  · have hShown := result_showEvents invocation.verbose settings.logLevel s
    rw [Action.result_bind_ok (a := settings) rfl]
    show (showEvents invocation.verbose settings.logLevel >>= fun _ => _).result s = _
    rw [Action.result_bind_ok (congrArg Prod.fst hShown), hShown]

/-- The status and the files that a run of the standard program leads to. -/
def ending (stamp : Stamp) (e : Environment) (args : List Bytes) (files : FileTree) :
    ExitStatus × FileTree :=
  match Invocation.parse .builtin args with
  | .error rejection => (rejection.status, files)
  | .ok invocation =>
    match (standard stamp e).settings invocation files with
    | .error cause => (cause.status, files)
    | .ok settings => Services.conclusion stamp e settings files invocation.request

/-- Every run of the standard program leads to its ending. -/
theorem run_standard (stamp : Stamp) (e : Environment) (args : List Bytes) (files : FileTree) :
    let outcome := (standard stamp e).run args files
    (outcome.status, outcome.session.files) = ending stamp e args files := by
  intro outcome
  have hOutcome : outcome = run (standard stamp e) args files := rfl
  unfold run at hOutcome
  unfold ending
  rcases hParse : Invocation.parse .builtin args with rejection | invocation <;>
    rw [show (standard stamp e).registry = .builtin from rfl, hParse] at hOutcome
  · rw [hOutcome]
    rfl
  · -- the arguments were read, so it is the work that ends the run
    have hWork := result_work (standard stamp e) invocation (.begin files)
    dsimp only at hOutcome ⊢
    rw [show (Session.begin files).files = files from rfl] at hWork
    rcases hSettings : (standard stamp e).settings invocation files with cause | settings <;>
      rw [hSettings] at hWork
    · rw [hOutcome, conclude, hWork]
      rfl
    · -- what is told before the request touches no file
      have hEnd := Services.perform_conclusion stamp e (exists_home_of_settings hSettings)
        (fun name hName => CommandLine.contains_of_parse hParse hName)
        ((Session.begin files).after files
          (announcement invocation.verbose settings.logLevel []))
      rw [Session.after_files] at hEnd
      dsimp only at hWork ⊢
      rw [← hEnd, hOutcome, conclude, hWork]
      dsimp only [standard, Session.begin]
      rcases (Services.perform ⟨settings, e, .builtin, .console stamp⟩ invocation.request).result _
        with ⟨cause | ⟨⟩, after⟩
      · rfl
      · rfl

end Program

end MarketFeed
