import MarketFeed.Proofs.Registry.Entries
import MarketFeed.Proofs.Services.Getting
import MarketFeed.Services

/-!
# Doing what is asked of the data group

* `Registry.find_of_contains` — a registered name has a source.
* `Group.get_failsOnlyWith`   — a registered source is met with errors of its own alone.
* `Group.get_probe_looks`     — the probe looks at the runtime directory and touches nothing.
* `Group.serve`               — what is done for a request once the group is entered.
* `Services.performData_cases` — the runtime log decides whether the group is entered; only then
                                is anything done in it.
-/

namespace MarketFeed

/-- A registered name has a source. -/
theorem Registry.find_of_contains {r : Registry} {name : String} (hName : r.contains name = true) :
    ∃ source, r.find name = .ok source :=
  mem_names_iff_find.mp (List.contains_iff_mem.mp hName)

/-- Running the probe looks at the runtime directory: there must be one. -/
theorem Probe.execute_looks (frame : Frame) (context : Context) :
    ((Probe.extension frame).execute context).Looks
      fun files => files.isDirectory frame.runtimeDir = true := by
  intro s
  rw [Extension.execute, Routine.result_performOrFail]
  unfold Probe.extension FileTree.isDirectory
  rw [Routine.outcome]
  dsimp only
  -- what stands at the runtime directory decides
  rcases s.files.find? frame.runtimeDir with e | _ | content
  · exact ⟨rfl, fun hDirectory => absurd hDirectory Bool.false_ne_true⟩
  · dsimp only
    rw [Routine.outcome_logAll]
    exact ⟨rfl, fun _ => ⟨(), rfl⟩⟩
  · exact ⟨rfl, fun hDirectory => absurd hDirectory Bool.false_ne_true⟩

namespace Group

/-- A registered source is met with errors of its own alone. -/
theorem get_failsOnlyWith {group : Group} {name : String}
    (hName : group.registry.contains name = true) :
    (group.get name).FailsOnlyWith fun e => ∃ cause, e = .source cause := by
  obtain ⟨source, hFind⟩ := Registry.find_of_contains hName
  refine Action.FailsOnlyWith.within ?_ _
  rw [hFind]
  refine Action.FailsOnlyWith.bind (fun _ _ hError => nomatch hError) fun context => ?_
  refine Action.FailsOnlyWith.bind (fun _ _ hError => nomatch hError) fun source => ?_
  -- what the source does may fail in its own ways
  have hOwn : ∀ {α : Type} (act : Action SourceError α),
      (Action.mapError ServiceError.source act).FailsOnlyWith fun e => ∃ cause, e = .source cause :=
    fun act => Action.FailsOnlyWith.mapError (fun _ _ _ => trivial) _ fun cause _ => ⟨cause, rfl⟩
  refine (hOwn _).bind fun extension => ?_
  refine (Action.failsOnlyWith_log _ _ _).bind fun _ => ?_
  refine (hOwn _).bind fun _ => ?_
  exact Action.failsOnlyWith_log _ _ _

/-- The probe touches no file, and it goes well where the runtime directory is one. -/
theorem get_probe_looks {group : Group}
    (hFind : group.registry.find Probe.name = .ok Probe.source) :
    (group.get Probe.name).Looks fun files =>
      files.isDirectory group.context.frame.runtimeDir = true := by
  refine Action.Looks.within ?_ _
  rw [hFind]
  -- the context, the source and the extension are there whatever the files are
  refine (Action.looks_ofExcept fun _ _ => ⟨_, rfl⟩).bind fun _ context hContext => ?_
  obtain rfl := Except.ok.inj hContext
  refine ((Action.looks_ofExcept fun _ _ => ⟨_, rfl⟩).mapError _).bind fun _ source hSource => ?_
  obtain rfl := Except.ok.inj hSource
  have hBuild : ∀ child, (Probe.source.construct child).Looks fun files =>
      files.isDirectory group.context.frame.runtimeDir = true :=
    fun _ _ => ⟨rfl, fun _ => ⟨_, rfl⟩⟩
  refine ((hBuild _).mapError _).bind fun _ extension hExtension => ?_
  obtain rfl := Except.ok.inj hExtension
  refine (Action.looks_log _ _ _).bind fun _ _ _ => ?_
  refine ((Probe.execute_looks _ _).mapError _).bind fun _ _ _ => ?_
  exact Action.looks_log _ _ _

/-! ## The group, once it is entered -/

/-- What is done for a request in the group. -/
def serve (group : Group) : DataRequest → Action CommandError Unit
  | .get source => do
    Action.emit (Services.dispatching source)
    Action.mapError .ofService (group.get source)
  | .list => (Services.listing group.sources).forM Action.tell

/-- A request for a registered source fails with errors of that source alone. -/
theorem serve_failsOnlyWith {group : Group} {request : DataRequest}
    (hName : ∀ name, request = .get name → group.registry.contains name = true) :
    (group.serve request).FailsOnlyWith fun e => ∃ cause, e = .ofService (.source cause) := by
  cases request with
  | get name =>
    unfold serve
    refine (Action.failsOnlyWith_emit _).bind fun _ => ?_
    exact (get_failsOnlyWith (hName name rfl)).mapError _ fun e ⟨cause, h⟩ => ⟨cause, by rw [h]⟩
  | list =>
    intro s e hError
    rw [serve, Action.result_forM_tell] at hError
    exact nomatch hError

/-- With the probe alone a request touches no file, and it goes well where the runtime directory
is one. -/
theorem serve_looks {group : Group} (hRegistry : group.registry = .builtin)
    {request : DataRequest}
    (hName : ∀ name, request = .get name → group.registry.contains name = true) :
    (group.serve request).Looks fun files =>
      files.isDirectory group.context.frame.runtimeDir = true := by
  cases request with
  | get name =>
    -- no other name than that of the probe is registered
    have hProbe : name = Probe.name := by
      have hContains := hName name rfl
      rw [hRegistry] at hContains
      simpa [Registry.contains, Registry.names, Registry.builtin] using hContains
    refine (Action.looks_emit _).bind fun _ _ _ => Action.Looks.mapError ?_ _
    rw [hProbe]
    exact get_probe_looks (by rw [hRegistry]; rfl)
  | list => exact Action.looks_forM (fun _ => Action.looks_record _) _

end Group

namespace Services

/-- The site that a request resolves in a session. -/
def site (services : Services) (s : Session) : Site :=
  Site.ofHome s.nextIdentity services.settings.home services.settings.logLevel

/-- The runtime log decides whether the group is entered, and what becomes of the files. -/
theorem enterData_cases (services : Services) (s : Session) :
    let call := services.log.setUp (services.site s).console dataGroup s.files
    match call.result with
    | .error e => ∃ t, t.files = call.files ∧
        services.enterData.result s =
          (.error (.ofService (.logSetup (services.site s).console.uname e)), t)
    | .ok () => ∃ group t, t.files = call.files ∧
        services.enterData.result s = (.ok group, t) ∧ group.registry = services.registry ∧
          group.context.frame.runtimeDir = (services.site s).runtimeDir := by
  intro call
  -- the site takes an identity, and the group is entered in the session after that
  let t : Session := { s with nextIdentity := s.nextIdentity + 1 }
  have hEnter : services.enterData.result s = (Action.mapError CommandError.ofService
      ((⟨services.registry, services.log⟩ : DataService).enter (services.site s))).result t := rfl
  have hRoot := Context.result_root dataGroup (services.site s) services.log t
  rw [show services.log.setUp _ dataGroup t.files = call from rfl] at hRoot
  rw [hEnter, Action.result_mapError, DataService.result_enter, hRoot]
  dsimp only
  rcases call.result with e | ⟨⟩
  · exact ⟨_, rfl, rfl⟩
  · exact ⟨_, _, rfl, rfl, rfl, rfl⟩

/-- The runtime log decides how a request ends that it refuses; any other is served in the group,
on the files that the log leaves. -/
theorem performData_cases (services : Services) (request : DataRequest) (s : Session) :
    let r := (services.performData request).result s
    let call := services.log.setUp (services.site s).console dataGroup s.files
    match call.result with
    | .error e =>
      r.1 = .error (.ofService (.logSetup (services.site s).console.uname e)) ∧
        r.2.files = call.files
    | .ok () => ∃ (group : Group) (t : Session), t.files = call.files ∧
        group.registry = services.registry ∧
          group.context.frame.runtimeDir = (services.site s).runtimeDir ∧
          r.1 = ((group.serve request).result t).1 ∧
          r.2.files = ((group.serve request).result t).2.files := by
  intro r call
  -- the span neither asks for an identity nor touches a file
  let inside : Session := { s with spans := s.spans ++ [span "cmd_data" request.words] }
  have hEnter := services.enterData_cases inside
  have hr : r = _ := Action.result_within _ _
  rw [Action.result_bind] at hr
  rw [show services.log.setUp (services.site inside).console dataGroup inside.files = call
    from rfl] at hEnter
  dsimp only at hEnter
  rcases hEnd : call.result with e | ⟨⟩ <;> rw [hEnd] at hEnter
  · -- refused by the runtime log
    obtain ⟨t, hFiles, hResult⟩ := hEnter
    rw [hResult] at hr
    rw [hr]
    exact ⟨rfl, hFiles⟩
  · -- entered, so that the request is served in the group
    obtain ⟨group, t, hFiles, hResult, hRegistry, hDirectory⟩ := hEnter
    rw [hResult] at hr
    refine ⟨group, t, hFiles, hRegistry, hDirectory, ?_⟩
    rw [hr]
    cases request with
    | get source => exact ⟨rfl, rfl⟩
    | list => exact ⟨rfl, rfl⟩

/-- A request for a registered source is never refused by the registry. -/
theorem performData_ne_registry {services : Services} {request : DataRequest}
    (hName : ∀ name, request = .get name → services.registry.contains name = true) (s : Session)
    (cause : RegistryError) :
    ((services.performData request).result s).1 ≠ .error (.ofService (.registry cause)) := by
  have hCases := services.performData_cases request s
  dsimp only at hCases
  rcases hEnd : (services.log.setUp (services.site s).console dataGroup s.files).result
    with e | ⟨⟩ <;> rw [hEnd] at hCases
  · rw [hCases.1]
    exact fun h => nomatch h
  · obtain ⟨group, t, -, hRegistry, -, hResult, -⟩ := hCases
    rw [hResult]
    intro hError
    obtain ⟨other, hOther⟩ := group.serve_failsOnlyWith (hRegistry ▸ hName) t _ hError
    exact nomatch hOther

end Services

end MarketFeed
