import MarketFeed.CommandError

/-!
# What lies behind an error

An error may have another one behind it, of its own layer or of a lower one, and that one may have
a next.  Here the errors of all layers are one type, and what is behind an error is told one step
at a time, so that the texts which the layers list can be compared with what the steps lead to.

* `Failure`                — an error of any layer, or one from outside.
* `Failure.cause?`         — what stands right behind it.
* `Failure.chain`          — all that lies behind it, and `Failure.innermost` the last of that.
* `causes_of_cause?`       — one step: the texts behind an error are the text of its cause and the
                             texts behind that one.
* `map_text_chain`         — all steps: the texts behind an error are those of its chain.
* `innermost_within`       — sources that rely on one another do not change what lies innermost.
* `ServiceError.Kind`      — what the exit status of a service's error depends on.
* `ofService_loses_nothing` — a service's error reaches the user with its text, with everything
                             behind it, and with a status that its kind decides.
-/

namespace MarketFeed

/-- An error of any layer, or one from outside. -/
inductive Failure where
  | command (e : CommandError)
  | system (e : SystemError)
  | service (e : ServiceError)
  | value (e : ValueError)
  | registry (e : RegistryError)
  | source (e : SourceError)
  | io (e : IoError)
  /-- An error from outside, known by its text and the texts behind it. -/
  | foreign (text : String) (behind : List String)
  deriving DecidableEq, Repr

namespace Failure

/-- The text shown for the failure. -/
def text : Failure → String
  | command e => e.message
  | system e => e.message
  | service e => e.message
  | value e => e.message
  | registry e => e.message
  | source e => e.message
  | io e => e.message
  | foreign text _ => text

/-- What stands right behind the failure. -/
def cause? : Failure → Option Failure
  | command (.system e) => some (.system e)
  | system (.service e) => some (.service e)
  | system (.io _ e) => some (.io e)
  | service (.value e) => some (.value e)
  | service (.logSetup _ e) => some (.io e)
  | service (.registry e) => some (.registry e)
  | service (.source e) => some (.source e)
  | source (.io _ _ e) => some (.io e)
  | source (.foreign _ text behind) => some (.foreign text behind)
  | source (.nested _ e) => some (.source e)
  | io (.other _ (text :: behind)) => some (.foreign text behind)
  | foreign _ (text :: behind) => some (.foreign text behind)
  | _ => none

/-- The texts of what lies behind the failure, as its layer lists them. -/
def causes : Failure → List String
  | command e => e.causes
  | system e => e.causes
  | service e => e.causes
  | value _ => []
  | registry _ => []
  | source e => e.causes
  | io e => e.causes
  | foreign _ behind => behind

/-! ## One step -/

theorem causes_eq (f : Failure) :
    f.causes = (f.cause?.map fun c => c.text :: c.causes).getD [] := by
  cases f with
  | command e => cases e <;> rfl
  | system e => cases e <;> rfl
  | service e => cases e <;> rfl
  | value e => rfl
  | registry e => rfl
  | source e => cases e <;> rfl
  | io e =>
    cases e with
    | other text behind => cases behind <;> rfl
    | fault => rfl
    | nulInPath => rfl
    | notText => rfl
  | foreign text behind => cases behind <;> rfl

/-- The texts behind a failure are the text of its cause and the texts behind that one. -/
theorem causes_of_cause? {f c : Failure} (hCause : f.cause? = some c) :
    f.causes = c.text :: c.causes := by
  rw [causes_eq, hCause]
  rfl

theorem causes_of_cause?_eq_none {f : Failure} (hNone : f.cause? = none) : f.causes = [] := by
  rw [causes_eq, hNone]
  rfl

/-! ## All steps -/

/-- All that lies behind the failure, from the outside in. -/
def chain (f : Failure) : List Failure :=
  match _hCause : f.cause? with
  | none => []
  | some c => c :: c.chain
termination_by f.causes.length
decreasing_by
  -- a step leaves one of the texts behind
  rw [causes_of_cause? _hCause]
  exact Nat.lt_succ_self _

/-- The last failure behind the given one, or the given one if there is none behind it. -/
def innermost (f : Failure) : Failure := f.chain.getLastD f

theorem chain_of_cause? {f c : Failure} (hCause : f.cause? = some c) :
    f.chain = c :: c.chain := by
  rw [chain]
  split
  · next hNone => exact absurd (hCause.symm.trans hNone) (by simp)
  · next d hSome =>
    obtain rfl : c = d := Option.some.inj (hCause.symm.trans hSome)
    rfl

theorem chain_of_cause?_eq_none {f : Failure} (hNone : f.cause? = none) : f.chain = [] := by
  rw [chain]
  split
  · rfl
  · next c hSome => exact absurd (hNone.symm.trans hSome) (by simp)

theorem innermost_of_cause? {f c : Failure} (hCause : f.cause? = some c) :
    f.innermost = c.innermost := by
  rw [innermost, chain_of_cause? hCause, List.getLastD_cons]
  rfl

theorem innermost_of_cause?_eq_none {f : Failure} (hNone : f.cause? = none) :
    f.innermost = f := by
  rw [innermost, chain_of_cause?_eq_none hNone]
  rfl

/-- The texts behind a failure are those of the failures behind it, each once and in order. -/
theorem map_text_chain (f : Failure) : f.chain.map text = f.causes := by
  -- by induction on the steps
  induction f using chain.induct with
  | case1 f hNone => rw [chain_of_cause?_eq_none hNone, causes_of_cause?_eq_none hNone]; rfl
  | case2 f c hCause ih => rw [chain_of_cause? hCause, causes_of_cause? hCause, List.map_cons, ih]

/-- Nothing lies behind the innermost failure. -/
theorem cause?_innermost (f : Failure) : f.innermost.cause? = none := by
  induction f using chain.induct with
  | case1 f hNone => rw [innermost_of_cause?_eq_none hNone, hNone]
  | case2 f c hCause ih => rw [innermost_of_cause? hCause, ih]

/-- The last of the texts behind a failure that has a cause is the text of the innermost one. -/
theorem getLast?_causes {f c : Failure} (hCause : f.cause? = some c) :
    f.causes.getLast? = some f.innermost.text := by
  rw [← map_text_chain, innermost, chain_of_cause? hCause, List.getLast?_map, List.getLastD_cons,
    List.getLast?_cons, List.getLastD_eq_getLast?]
  rfl

end Failure

/-! ## Sources that rely on one another -/

/-- The error as it comes through sources that rely on one another, told from the outermost one. -/
def SourceError.within (names : List String) (e : SourceError) : SourceError :=
  names.foldr SourceError.nested e

/-- However many sources an error comes through, what lies innermost stays. -/
theorem Failure.innermost_within (names : List String) (e : SourceError) :
    (Failure.source (e.within names)).innermost = (Failure.source e).innermost := by
  induction names with
  | nil => rfl
  | cons name names ih => exact (innermost_of_cause? rfl).trans ih

/-! ## Kinds of errors -/

/-- Why a source was not registered or not found, without the name. -/
inductive RegistryError.Kind where
  | invalidName
  | duplicate
  | notRegistered
  deriving DecidableEq, Repr

def RegistryError.kind : RegistryError → RegistryError.Kind
  | .invalidName _ => .invalidName
  | .duplicate _ => .duplicate
  | .notRegistered _ => .notRegistered

/-- Why a service could not do its work, without texts, names and causes.  Of what lies behind it,
only the kind of a registry's error is told. -/
inductive ServiceError.Kind where
  | value
  | config
  | missingParent
  | logSetup
  | registry (kind : RegistryError.Kind)
  | source
  deriving DecidableEq, Repr

def ServiceError.kind : ServiceError → ServiceError.Kind
  | .value _ => .value
  | .config _ => .config
  | .missingParent _ => .missingParent
  | .logSetup _ _ => .logSetup
  | .registry e => .registry e.kind
  | .source _ => .source

/-- The exit code for a kind of error: a name that is not registered is a mistake in the call. -/
def ServiceError.Kind.code : ServiceError.Kind → Nat
  | .value => 65
  | .config => 78
  | .missingParent => 78
  | .logSetup => 73
  | .registry .notRegistered => 64
  | .registry _ => 70
  | .source => 70

theorem ServiceError.code_status (e : ServiceError) : e.status.code = e.kind.code := by
  cases e with
  | registry e => cases e <;> rfl
  | value e => rfl
  | config message => rfl
  | missingParent command => rfl
  | logSetup location cause => rfl
  | source e => rfl

/-! ## Errors of services as the user sees them -/

namespace CommandError

/-- Nothing is lost on the way to the user.  A service's error is shown with its own text; behind it
come the two layers that pass it on, each with that text again, and then everything that was behind
it before.  The last text is that of what lies innermost, however many sources rely on one another,
and the exit code is that of the error's kind. -/
theorem ofService_loses_nothing (e : ServiceError) :
    (ofService e).message = e.message ∧
      (Failure.command (ofService e)).chain =
        .system (.service e) :: .service e :: (Failure.service e).chain ∧
      (ofService e).causes = (Failure.command (ofService e)).chain.map Failure.text ∧
      e.causes = (Failure.service e).chain.map Failure.text ∧
      (ofService e).causes = e.message :: e.message :: e.causes ∧
      (ofService e).causes.getLast? = some (Failure.service e).innermost.text ∧
      (Failure.service e).innermost.cause? = none ∧
      (∀ names s, e = .source (s.within names) →
        (ofService e).causes.getLast? = some (Failure.source s).innermost.text) ∧
      (ofService e).status.code = e.kind.code := by
  have hOuter : (Failure.command (ofService e)).cause? = some (.system (.service e)) := rfl
  have hInner : (Failure.system (.service e)).cause? = some (.service e) := rfl
  have hLast : (ofService e).causes.getLast? = some (Failure.service e).innermost.text := by
    have hText := Failure.getLast?_causes hOuter
    rw [Failure.innermost_of_cause? hOuter, Failure.innermost_of_cause? hInner] at hText
    exact hText
  refine ⟨rfl, ?_, ?_, ?_, causes_ofService e, hLast, ?_, ?_, e.code_status⟩
  · rw [Failure.chain_of_cause? hOuter, Failure.chain_of_cause? hInner]
  · exact (Failure.map_text_chain (.command (ofService e))).symm
  · exact (Failure.map_text_chain (.service e)).symm
  · exact Failure.cause?_innermost (.service e)
  · rintro names s rfl
    have hSource : (Failure.service (.source (s.within names))).cause? =
        some (.source (s.within names)) := rfl
    rw [hLast, Failure.innermost_of_cause? hSource, Failure.innermost_within]

/-- Three sources rely on one another, and the last one fails to read: what made the reading fail is
the last that the user can be told. -/
theorem ofService_loses_nothing_nested :
    ∃ s : SourceError, s = .io "disk" "read feed" (.other "socket closed" ["reset by peer"]) ∧
      (ofService (.source (s.within ["rest", "csv"]))).causes.getLast? = some "reset by peer" ∧
      (ofService (.source (s.within ["rest", "csv"]))).status.code = 70 := by
  refine ⟨_, rfl, ?_⟩
  obtain ⟨-, -, -, -, -, -, -, hDeep, hCode⟩ := ofService_loses_nothing (.source
    ((SourceError.io "disk" "read feed" (.other "socket closed" ["reset by peer"])).within
      ["rest", "csv"]))
  refine ⟨?_, hCode⟩
  rw [hDeep _ _ rfl, Failure.innermost_of_cause? rfl, Failure.innermost_of_cause? rfl,
    Failure.innermost_of_cause?_eq_none rfl]
  rfl

end CommandError

end MarketFeed
