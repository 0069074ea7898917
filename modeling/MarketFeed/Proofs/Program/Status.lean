import MarketFeed.Proofs.Program.Outcome
import MarketFeed.Proofs.Settings.Layers

/-!
# Statuses of runs

* `Site.make_ofHome` — the locations that every site has are made of accepted parts.
* `status_settings`  — settings that cannot be loaded end a run in one way.
* `status_run`       — the status of every run of the standard program, request by request.
* `exists_status_run` — every status that is left is met.
-/

namespace MarketFeed

open CommandLine (Invocation)

/-- The locations that every site has are made of accepted parts. -/
theorem Site.make_ofHome (identity : Nat) (home : Path) (level : LogLevel) :
    let site := Site.ofHome identity home level
    Location.make .live .system "etc" "kungfu" site.locator = .ok site.config ∧
      Location.make .live .system "service" "console" site.locator = .ok site.console ∧
      Location.make .live .system "journal" "index" site.locator = .ok site.index :=
  ⟨rfl, rfl, rfl⟩

/-- Once it is tried, making the file can only fail with the files themselves. -/
theorem Services.error_writeTemplate {file : Path} {files : FileTree} {cause : CommandError}
    (hError : (writeTemplate file files).1 = .error cause) :
    ∃ context fault, cause = .ofIo context fault := by
  have hAbove : ∀ {e}, (createAbove file files).1 = .error e →
      ∃ context fault, e = .ofIo context fault := by
    intro e hFails
    unfold createAbove at hFails
    split at hFails
    · exact nomatch hFails
    · split at hFails
      · exact ⟨_, _, (Except.error.inj hFails).symm⟩
      · exact nomatch hFails
  unfold writeTemplate at hError
  split at hError
  · next hFails =>
    obtain rfl := Except.error.inj hError
    exact hAbove (congrArg Prod.fst hFails)
  · split at hError
    · exact ⟨_, _, (Except.error.inj hError).symm⟩
    · exact nomatch hError

/-- A file of the settings that cannot be made is in the way or cannot be written. -/
theorem Services.status_createConfig {file : Path} {force : Bool} {files : FileTree}
    {cause : CommandError} (hError : (createConfig file force files).1 = .error cause) :
    cause.status = .usage ∨ cause.status = .ioError := by
  unfold createConfig at hError
  split at hError
  · obtain rfl := Except.error.inj hError
    exact Or.inl rfl
  · right
    obtain ⟨context, fault, rfl⟩ := error_writeTemplate hError
    rfl

/-- The statuses that a request can end with.  A request of the data group goes well exactly if
its runtime log can be set up, and one that needs the settings file only if its place is known. -/
def Services.CanEnd (stamp : Stamp) (e : Environment) (settings : Settings) (files : FileTree)
    (status : ExitStatus) : Option Request → Prop
  | none => status = .usage
  | some (.data _) =>
    let site := Site.ofHome 0 settings.home settings.logLevel
    (status = .ok ∨ status = .cannotCreate) ∧
      (status = .ok ↔ (RuntimeLog.mark stamp site.console dataGroup files).result = .ok ())
  | some (.config .showSettings) => status = .ok
  | some (.config .locateFile) =>
    (status = .ok ∨ status = .usage) ∧ (status = .ok ↔ ∃ file, e.configFile? = some file)
  | some (.config (.createFile _)) =>
    (status = .ok ∨ status = .usage ∨ status = .ioError) ∧
      (e.configFile? = none → status = .usage)
  | some (.completion _) => status = .ok

theorem Services.canEnd_conclusion (stamp : Stamp) (e : Environment) (settings : Settings)
    (files : FileTree) (request : Option Request) :
    CanEnd stamp e settings files (conclusion stamp e settings files request).1 request := by
  rcases request with _ | request | request | shell
  · rfl
  · -- the identity of a site is no matter of its log
    have hMark := mark_console stamp 0 settings.home settings.logLevel files
    unfold CanEnd conclusion
    dsimp only at hMark ⊢
    rw [← hMark]
    rcases (RuntimeLog.mark stamp _ dataGroup files).result with cause | ⟨⟩
    · show (ExitStatus.cannotCreate = .ok ∨ ExitStatus.cannotCreate = .cannotCreate) ∧
        (ExitStatus.cannotCreate = .ok ↔ _)
      simp
    · show (ExitStatus.ok = .ok ∨ ExitStatus.ok = .cannotCreate) ∧ (ExitStatus.ok = .ok ↔ _)
      simp
  · cases request with
    | showSettings => rfl
    | locateFile =>
      unfold CanEnd conclusion
      dsimp only
      rcases hFile : e.configFile? with _ | file
      · simp
      · simp
    | createFile force =>
      unfold CanEnd conclusion
      dsimp only
      rcases hFile : e.configFile? with _ | file
      · exact ⟨Or.inr (Or.inl rfl), fun _ => rfl⟩
      · refine ⟨?_, fun hNone => nomatch hNone⟩
        dsimp only
        rcases hMade : createConfig file force files with ⟨cause | ⟨⟩, after⟩
        · exact Or.inr (status_createConfig (congrArg Prod.fst hMade))
        · exact Or.inl rfl
  · rfl

theorem Services.code_of_canEnd {stamp : Stamp} {e : Environment} {settings : Settings}
    {files : FileTree} {status : ExitStatus} {request : Option Request}
    (hEnd : CanEnd stamp e settings files status request) :
    status.code ∈ [0, 2, 64, 73, 74, 78] := by
  unfold CanEnd at hEnd
  split at hEnd
  · rw [hEnd]
    decide
  · rcases hEnd.1 with h | h <;> rw [h] <;> decide
  · rw [hEnd]
    decide
  · rcases hEnd.1 with h | h <;> rw [h] <;> decide
  · rcases hEnd.1 with h | h | h <;> rw [h] <;> decide
  · rw [hEnd]
    decide

namespace Program

/-- Settings that cannot be loaded end a run in one way. -/
theorem status_settings {p : Program} {invocation : Invocation} {files : FileTree}
    {cause : ServiceError} (hError : p.settings invocation files = .error cause) :
    cause.status = .config := by
  rcases bind_eq_error_iff.mp hError with hLoad | ⟨loaded, -, hOverride⟩
  · obtain ⟨message, rfl⟩ := Settings.error_loadFrom hLoad
    rfl
  · exact nomatch hOverride

/-- What each request can end with, and that no run ends in any other way: neither refused data
nor a failing source is ever met. -/
theorem status_run (stamp : Stamp) (e : Environment) (args : List Bytes) (files : FileTree) :
    let status := ((standard stamp e).run args files).status
    status.code ∈ [0, 2, 64, 73, 74, 78] ∧
      ∀ invocation, Invocation.parse .builtin args = .ok invocation →
        match (standard stamp e).settings invocation files with
        | .error _ => status = .config
        | .ok settings => Services.CanEnd stamp e settings files status invocation.request := by
  intro status
  have hStatus : status = (ending stamp e args files).1 :=
    congrArg Prod.fst (run_standard stamp e args files)
  unfold ending at hStatus
  rcases hParse : Invocation.parse .builtin args with rejection | invocation <;>
    rw [hParse] at hStatus
  · refine ⟨?_, fun _ hNone => nomatch hNone⟩
    have hRejection : rejection.status = .ok ∨ rejection.status = .rejected := by
      cases rejection <;> simp [CommandLine.Rejection.status]
    rw [show status = rejection.status from hStatus]
    rcases hRejection with h | h <;> rw [h] <;> decide
  have hEnd : match (standard stamp e).settings invocation files with
      | .error _ => status = .config
      | .ok settings => Services.CanEnd stamp e settings files status invocation.request := by
    dsimp only at hStatus
    rcases hSettings : (standard stamp e).settings invocation files with cause | settings <;>
      rw [hSettings] at hStatus
    · exact hStatus.trans (status_settings hSettings)
    · rw [hStatus]
      exact Services.canEnd_conclusion stamp e settings files invocation.request
  -- the bound on the codes follows from what each request can end with
  constructor
  · split at hEnd
    · rw [hEnd]
      decide
    · exact Services.code_of_canEnd hEnd
  · intro other hOther
    obtain rfl := Except.ok.inj hOther
    exact hEnd

/-- Where no home directory is known, nobody knows the place of the settings file. -/
example : ((standard ⟨"now", "here", "1"⟩ ⟨[], none⟩).run
    (["kfc", "config", "path"].map Utf8.encode) .empty).status = .usage := by
  decide +kernel

/-- The program where no variable is set but these. -/
def rootProgram (bindings : List (String × String)) : Program :=
  standard ⟨"now", "here", "1"⟩
    ⟨bindings.map fun (name, value) => (Utf8.encode name, Utf8.encode value),
      some (.ofString "/root")⟩

/-- Files among which one stands where the home directory should be. -/
def blockedFiles : FileTree :=
  .put .empty [] (Utf8.encode "root") (.file []) (FileTree.node?_root .empty) fun h => nomatch h

/-- Each of these codes is met: the bound is no wider than it must be. -/
theorem exists_status_run :
    ∀ code ∈ [0, 2, 64, 73, 74, 78], ∃ (bindings : List (String × String)) (args : List String)
      (files : FileTree),
      ((rootProgram bindings).run (args.map Utf8.encode) files).status.code = code := by
  intro code hCode
  simp only [List.mem_cons, List.not_mem_nil, or_false] at hCode
  rcases hCode with rfl | rfl | rfl | rfl | rfl | rfl
  · exact ⟨[], ["kfc", "--help"], .empty, by decide +kernel⟩
  · exact ⟨[], ["kfc", "--all"], .empty, by decide +kernel⟩
  · exact ⟨[], ["kfc"], .empty, by decide +kernel⟩
  · exact ⟨[], ["kfc", "data", "list"], blockedFiles, by decide +kernel⟩
  · exact ⟨[], ["kfc", "config", "init"], blockedFiles, by decide +kernel⟩
  · exact ⟨[("KFC_LOG_LEVEL", "loud")], ["kfc"], .empty, by decide +kernel⟩

end Program

end MarketFeed
