import MarketFeed.DataService

/-!
# Running actions

What the larger actions come to, each told by its result and the session after it.

* `Session.after` — a session once some work changed the files and told some entries.
* `result_bind_ok`, `result_bind_error` — one action after another.
* `result_forM_emit`, `result_forM_tell` — a list of entries for the journal.
* `FailsOnlyWith` — every error that an action can end with is one of some.
* `Looks` — an action touches no file, and it goes well on files that are good for it.
* `result_root`, `result_enter` — entering a group; the runtime log decides how that ends, and what
  is told of it.
-/

namespace MarketFeed

/-! ## Work on a session -/

/-- The session after work that left these files and told these entries. -/
def Session.after (s : Session) (files : FileTree) (entries : List Entry) : Session :=
  { s with files, journal := s.journal ++ entries }

section After

variable {s : Session} {files later : FileTree} {first second : List Entry}

@[simp] theorem Session.after_files : (s.after files first).files = files := rfl

@[simp] theorem Session.after_spans : (s.after files first).spans = s.spans := rfl

@[simp] theorem Session.after_journal : (s.after files first).journal = s.journal ++ first := rfl

@[simp] theorem Session.after_after :
    (s.after files first).after later second = s.after later (first ++ second) := by
  simp [after, List.append_assoc]

theorem Session.after_nil : s.after s.files [] = s := by simp [after]

theorem Session.add_eq_after (entry : Entry) : s.add entry = s.after s.files [entry] := rfl

end After

namespace Action

variable {ε α β : Type} {s : Session}

theorem result_bind_ok {act : Action ε α} {next : α → Action ε β} {a : α}
    (hAct : (act.result s).1 = .ok a) :
    (act >>= next).result s = (next a).result (act.result s).2 := by
  rw [result_bind]
  rcases hResult : act.result s with ⟨r, t⟩
  rw [hResult] at hAct
  obtain rfl : r = .ok a := hAct
  rfl

theorem result_bind_error {act : Action ε α} {next : α → Action ε β} {e : ε}
    (hAct : (act.result s).1 = .error e) :
    (act >>= next).result s = (.error e, (act.result s).2) := by
  rw [result_bind]
  rcases hResult : act.result s with ⟨r, t⟩
  rw [hResult] at hAct
  obtain rfl : r = .error e := hAct
  rfl

/-- Actions that add one entry each add their entries in order. -/
theorem result_forM {γ : Type} {f : γ → Action ε Unit} (entry : γ → List Span → Entry)
    (hOne : ∀ x t, (f x).result t = (.ok (), t.add (entry x t.spans))) (xs : List γ) :
    (xs.forM f).result s =
      (.ok (), { s with journal := s.journal ++ xs.map (entry · s.spans) }) := by
  -- by induction on the list: no entry changes the spans of those to come
  induction xs generalizing s with
  | nil =>
    rw [List.map_nil, List.append_nil]
    rfl
  | cons x rest ih =>
    have hFirst : ((f x).result s).1 = .ok () := by rw [hOne]
    show (f x >>= fun _ => rest.forM f).result s = _
    rw [result_bind_ok hFirst, hOne, ih]
    simp [Session.add]

theorem result_forM_emit (events : List Event) :
    (events.forM (emit (ε := ε))).result s =
      (.ok (), { s with journal := s.journal ++ events.map (.event · s.spans) }) :=
  result_forM Entry.event (fun _ _ => rfl) events

theorem result_forM_tell (messages : List Terminal.Message) :
    (messages.forM (tell (ε := ε))).result s =
      (.ok (), { s with journal := s.journal ++ messages.map .told }) :=
  result_forM (fun message _ => .told message) (fun _ _ => rfl) messages

/-! ### Errors -/

/-- Whatever error the action ends with is one of these. -/
def FailsOnlyWith (act : Action ε α) (E : ε → Prop) : Prop :=
  ∀ s e, (act.result s).1 = .error e → E e

variable {E : ε → Prop}

theorem FailsOnlyWith.bind {act : Action ε α} {next : α → Action ε β}
    (hAct : act.FailsOnlyWith E) (hNext : ∀ a, (next a).FailsOnlyWith E) :
    (act >>= next).FailsOnlyWith E := by
  intro s e hError
  rw [result_bind] at hError
  rcases hFirst : act.result s with ⟨d | a, t⟩
  · rw [hFirst] at hError
    obtain rfl := Except.error.inj hError
    exact hAct s _ (by rw [hFirst])
  · rw [hFirst] at hError
    exact hNext a t e hError

theorem FailsOnlyWith.within {act : Action ε α} (hAct : act.FailsOnlyWith E) (span : Span) :
    (within span act).FailsOnlyWith E := fun _ e hError => hAct _ e hError

theorem FailsOnlyWith.mapError {δ : Type} {D : δ → Prop} {act : Action δ α}
    (hAct : act.FailsOnlyWith D) (f : δ → ε) (hTold : ∀ d, D d → E (f d)) :
    (Action.mapError f act).FailsOnlyWith E := by
  intro s e hError
  rw [result_mapError] at hError
  dsimp only at hError
  rcases hCause : (act.result s).1 with cause | a <;> rw [hCause] at hError
  · obtain rfl := Except.error.inj hError
    exact hTold cause (hAct s cause hCause)
  · exact nomatch hError

theorem failsOnlyWith_log (logger : Logger) (level : LogLevel) (message : String) :
    (log logger level message).FailsOnlyWith E := by
  intro s e hError
  rw [result_log] at hError
  exact nomatch hError

theorem failsOnlyWith_emit (event : Event) : (emit event).FailsOnlyWith E :=
  fun _ _ hError => nomatch hError

/-! ### Looking -/

/-- The action leaves the files as they are, however it ends, and it goes well where the files
are good for it. -/
def Looks (act : Action ε α) (good : FileTree → Prop) : Prop :=
  ∀ s, (act.result s).2.files = s.files ∧ (good s.files → ∃ a, (act.result s).1 = .ok a)

variable {good : FileTree → Prop}

theorem Looks.bind {act : Action ε α} {next : α → Action ε β} (hAct : act.Looks good)
    (hNext : ∀ s a, (act.result s).1 = .ok a → (next a).Looks good) :
    (act >>= next).Looks good := by
  intro s
  rw [result_bind]
  obtain ⟨hFiles, hGood⟩ := hAct s
  rcases hFirst : act.result s with ⟨e | a, t⟩ <;> rw [hFirst] at hFiles hGood
  · refine ⟨hFiles, fun h => ?_⟩
    obtain ⟨a, hEnd⟩ := hGood h
    exact nomatch hEnd
  · obtain ⟨hLast, hEnd⟩ := hNext s a (by rw [hFirst]) t
    rw [show t.files = s.files from hFiles] at hLast hEnd
    exact ⟨hLast, hEnd⟩

theorem Looks.within {act : Action ε α} (hAct : act.Looks good) (span : Span) :
    (within span act).Looks good := fun _ => hAct _

theorem Looks.mapError {δ : Type} {act : Action δ α} (hAct : act.Looks good) (f : δ → ε) :
    (mapError f act).Looks good := by
  intro s
  refine ⟨(hAct s).1, fun hGood => ?_⟩
  obtain ⟨a, hEnd⟩ := (hAct s).2 hGood
  exact ⟨a, by rw [result_mapError, hEnd]; rfl⟩

theorem looks_ofExcept {r : Except ε α} (hGood : ∀ files, good files → ∃ a, r = .ok a) :
    (ofExcept r).Looks good := fun s => ⟨rfl, hGood s.files⟩

theorem looks_record (entry : Entry) : (record entry : Action ε Unit).Looks good :=
  fun _ => ⟨rfl, fun _ => ⟨(), rfl⟩⟩

theorem looks_emit (event : Event) : (emit event : Action ε Unit).Looks good :=
  fun _ => ⟨rfl, fun _ => ⟨(), rfl⟩⟩

theorem looks_log (logger : Logger) (level : LogLevel) (message : String) :
    (log logger level message : Action ε Unit).Looks good := by
  unfold log
  split
  · exact looks_emit _
  · exact fun _ => ⟨rfl, fun _ => ⟨(), rfl⟩⟩

theorem looks_forM {γ : Type} {f : γ → Action ε Unit} (hOne : ∀ x, (f x).Looks good)
    (xs : List γ) : (xs.forM f).Looks good := by
  induction xs with
  | nil => exact fun _ => ⟨rfl, fun _ => ⟨(), rfl⟩⟩
  | cons x rest ih => exact (hOne x).bind fun _ _ _ => ih

end Action

/-! ## Entering a group -/

/-- Beginning a session comes to what the runtime log makes of the files, and tells what the log
tells. -/
theorem RuntimeLog.result_begin (log : RuntimeLog) (location : Location) (label : String)
    (s : Session) :
    let r := log.setUp location label s.files
    (log.begin location label).result s =
      (r.result, s.after r.files (r.reports.map (Report.entry s.spans))) := rfl

/-- The session once a root context was asked for, where this came of beginning a session: there is
a new logger, and what the runtime log did and told stays. -/
def Session.asking (s : Session) (label : String) (site : Site) (r : SetUp) : Session :=
  let logger := Logger.make s.nextIdentity label site.logLevel site.console
  { s with nextIdentity := s.nextIdentity + 1 }.after r.files
    (.event logger.created s.spans :: r.reports.map (Report.entry s.spans))

/-- The runtime log is asked once, on the files that are there.  It decides whether there is a root
context. -/
theorem Context.result_root (label : String) (site : Site) (log : RuntimeLog) (s : Session) :
    let r := log.setUp site.console label s.files
    (Context.root label site log).result s =
      (match r.result with
        | .error e => .error (.logSetup site.console.uname e)
        | .ok () =>
          .ok (.ofRoot (Logger.make s.nextIdentity label site.logLevel site.console) site),
        s.asking label site r) := by
  intro r
  let logger := Logger.make s.nextIdentity label site.logLevel site.console
  -- two steps that cannot fail come before the runtime log
  let t : Session :=
    { s with nextIdentity := s.nextIdentity + 1 }.after s.files [.event logger.created s.spans]
  have hRoot : (Context.root label site log).result s =
      (Action.mapError (ServiceError.logSetup site.console.uname) (log.begin site.console label) >>=
        fun _ => pure (Context.ofRoot logger site)).result t := rfl
  have hAsked : t.after r.files (r.reports.map (Report.entry t.spans)) = s.asking label site r :=
    Session.after_after
  rw [hRoot, Action.result_bind, Action.result_mapError, RuntimeLog.result_begin,
    show log.setUp site.console label t.files = r from rfl]
  dsimp only
  rw [hAsked]
  rcases r.result with e | ⟨⟩
  · rfl
  · rfl

/-- Entering the group is making its root context and telling so. -/
theorem DataService.result_enter (service : DataService) (site : Site) (s : Session) :
    (service.enter site).result s =
      match (Context.root dataGroup site service.log).result s with
      | (.error e, t) => (.error e, t)
      | (.ok context, t) =>
        (.ok ⟨service.registry, context⟩, t.add (.event (entered context) t.spans)) := by
  unfold DataService.enter
  rw [Action.result_bind]
  rcases (Context.root dataGroup site service.log).result s with ⟨e | context, t⟩
  · rfl
  · rfl

end MarketFeed
