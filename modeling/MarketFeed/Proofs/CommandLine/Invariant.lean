import MarketFeed.CommandLine.Reading
import MarketFeed.Proofs.Result

/-!
# What every command line keeps

A property of what a command has been given that every switch and every value keeps is kept by
every argument, and so it holds of what the innermost command has been given in the end.

* `Given.Invariant`      — a property that every switch and every value keeps.
* `Reading.given_step`   — one argument keeps it.
* `exists_given_of_read` — the request of an invocation is that of a command whose given has it.
-/

namespace MarketFeed

namespace CommandLine

/-- A property of what a command has been given that holds at the start and that every switch and
every value keeps. -/
structure Given.Invariant (registry : Registry) (P : Given → Prop) : Prop where
  nothing : P .nothing
  turn : ∀ {c g h switch}, P g → g.turn c switch = .ok h → P h
  take : ∀ {g h slot value}, P g → g.take registry slot value = .ok h → P h

namespace Reading

variable {registry : Registry} {P : Given → Prop} {r q : Reading}

theorem given_settle (hP : Given.Invariant registry P) (hr : P r.given)
    (hSettle : r.settle registry = .ok q) : P q.given := by
  unfold settle at hSettle
  split at hSettle
  · obtain rfl := Except.ok.inj hSettle
    exact hr
  · exact nomatch hSettle
  · obtain ⟨g, hTake, hq⟩ := bind_eq_ok_iff.mp hSettle
    obtain rfl := Except.ok.inj hq
    exact hP.take hr hTake

theorem given_turn (hP : Given.Invariant registry P) (hr : P r.given) {switch : Switch}
    (hTurn : r.turn registry switch = .ok q) : P q.given := by
  obtain ⟨settled, hSettle, hNext⟩ := bind_eq_ok_iff.mp hTurn
  obtain ⟨g, hGiven, hq⟩ := bind_eq_ok_iff.mp hNext
  obtain rfl := Except.ok.inj hq
  exact hP.turn (given_settle hP hr hSettle) hGiven

theorem given_fill (hP : Given.Invariant registry P) (hr : P r.given) {slot : Slot}
    {value : Bytes} (hFill : r.fill registry slot value = .ok q) : P q.given := by
  obtain ⟨settled, hSettle, hNext⟩ := bind_eq_ok_iff.mp hFill
  obtain ⟨g, hGiven, hq⟩ := bind_eq_ok_iff.mp hNext
  obtain rfl := Except.ok.inj hq
  exact hP.take (given_settle hP hr hSettle) hGiven

theorem given_await (hP : Given.Invariant registry P) (hr : P r.given) {slot : Slot}
    (hAwait : r.await registry slot = .ok q) : P q.given := by
  obtain ⟨settled, hSettle, hq⟩ := bind_eq_ok_iff.mp hAwait
  obtain rfl := Except.ok.inj hq
  exact given_settle (q := settled) hP hr hSettle

theorem given_long (hP : Given.Invariant registry P) (hr : P r.given) {word : Bytes}
    {value : Option Bytes} (hLong : r.long registry word value = .ok q) : P q.given := by
  unfold long at hLong
  split at hLong
  · exact nomatch hLong
  · exact given_turn hP hr hLong
  · exact nomatch hLong
  · exact given_await hP hr hLong
  · exact given_fill hP hr hLong

theorem given_letters (hP : Given.Invariant registry P) (hr : P r.given) {first : UInt8}
    {rest : Bytes} (hLetters : r.letters registry first rest = .ok q) : P q.given := by
  -- every letter but the last may be a switch, after which the reading goes on
  induction rest generalizing r first with
  | nil =>
    unfold letters at hLetters
    rcases hFirst : r.command.byLetter? first with _ | switch | slot <;> rw [hFirst] at hLetters
    · exact nomatch hLetters
    · exact given_turn hP hr hLetters
    · exact given_await hP hr hLetters
  | cons second rest ih =>
    unfold letters at hLetters
    rcases hFirst : r.command.byLetter? first with _ | switch | slot <;> rw [hFirst] at hLetters
    · exact nomatch hLetters
    · obtain ⟨turned, hTurn, hRest⟩ := bind_eq_ok_iff.mp hLetters
      exact ih (given_turn hP hr hTurn) hRest
    · exact given_fill hP hr hLetters

theorem given_stand (hP : Given.Invariant registry P) (hr : P r.given) {value : Bytes}
    (hStand : r.stand registry value = .ok q) : P q.given := by
  unfold stand at hStand
  split at hStand
  · exact nomatch hStand
  · obtain ⟨settled, hSettle, hq⟩ := bind_eq_ok_iff.mp hStand
    obtain rfl := Except.ok.inj hq
    exact given_settle (q := settled) hP hr hSettle

/-- One argument keeps an invariant of what is given. -/
theorem given_step (hP : Given.Invariant registry P) (hr : P r.given) {arg : Argument}
    (hStep : r.step registry arg = .ok q) : P q.given := by
  cases arg with
  | escape =>
    obtain rfl := Except.ok.inj hStep
    exact hr
  | long word value => exact given_long hP hr hStep
  | letters first rest => exact given_letters hP hr hStep
  | plain value =>
    unfold step at hStep
    dsimp only at hStep
    split at hStep
    · obtain rfl := Except.ok.inj hStep
      exact hr
    · exact given_stand hP hr hStep

end Reading

/-- The request of an invocation is what some command asks for, and what that command has been
given has every invariant that the reading began with. -/
theorem exists_given_of_read {registry : Registry} {P : Given → Prop}
    (hP : Given.Invariant registry P) {r : Reading} (hr : P r.given) {args : List Bytes}
    {invocation : Invocation} (hRead : Invocation.read registry r args = .ok invocation) :
    ∃ c g, P g ∧ g.request c = .ok invocation.request := by
  -- by induction on the arguments, for every reading at once
  induction args generalizing r invocation with
  | nil =>
    obtain ⟨settled, hSettle, hNext⟩ := bind_eq_ok_iff.mp hRead
    obtain ⟨request, hRequest, hInvocation⟩ := bind_eq_ok_iff.mp hNext
    obtain rfl := Except.ok.inj hInvocation
    exact ⟨settled.command, settled.given, Reading.given_settle hP hr hSettle, hRequest⟩
  | cons arg rest ih =>
    rw [Invocation.read] at hRead
    split at hRead
    · obtain ⟨stood, hStand, hRest⟩ := bind_eq_ok_iff.mp hRead
      exact ih (Reading.given_stand hP hr hStand) hRest
    · split at hRead
      · obtain ⟨stepped, hStep, hRest⟩ := bind_eq_ok_iff.mp hRead
        exact ih (Reading.given_step hP hr hStep) hRest
      · split at hRead
        · exact nomatch hRead
        · split at hRead
          · -- a subcommand starts afresh, and what encloses it leaves its request alone
            obtain ⟨inner, hInner, hEnclose⟩ := bind_eq_ok_iff.mp hRead
            obtain ⟨settled, -, hInvocation⟩ := bind_eq_ok_iff.mp hEnclose
            obtain rfl := Except.ok.inj hInvocation
            have hRequest := ih (r := .start _) hP.nothing hInner
            exact hRequest
          · obtain ⟨stepped, hStep, hRest⟩ := bind_eq_ok_iff.mp hRead
            exact ih (Reading.given_step hP hr hStep) hRest

end CommandLine

end MarketFeed
