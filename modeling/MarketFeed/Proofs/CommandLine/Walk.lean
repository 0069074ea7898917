import MarketFeed.CommandLine.Reading
import MarketFeed.Proofs.Result

/-!
# Reading one argument after the other

A command line that is read leads from argument to argument.  Whether a value that is open is
looked at earlier or later makes no difference to what is read.

* `Reading.next`      — what one more argument leads to: the same command goes on, or a
                        subcommand begins.
* `exists_next_of_read`, `read_of_next_on`, `read_of_next_into` — reading is going from one to the
                        next.
* `read_of_settle`    — looking at the open value first changes nothing.
* `exists_settle_of_read` — where a line can be read, the value that is open can be looked at.
-/

namespace MarketFeed.CommandLine

/-- What an argument leads to. -/
inductive Next where
  /-- The same command goes on. -/
  | on (r : Reading)
  /-- A subcommand begins. -/
  | into (c : Command)

namespace Reading

variable {registry : Registry} {r s q : Reading} {arg : Bytes}

/-- What one more argument leads to. -/
def next (registry : Registry) (r : Reading) (arg : Bytes) : Except Rejection Next :=
  if r.escaped then (r.stand registry arg).map .on
  else if r.isWaiting then (r.step registry (.ofBytes arg)).map .on
  else if r.command.isHelp arg then .error .help
  else
    match r.command.subcommand? arg with
    | some c => .ok (.into c)
    | none => (r.step registry (.ofBytes arg)).map .on

/-- The same command goes on behind two dashes with a value, and before them with any argument
that names no subcommand. -/
theorem next_eq_on_iff : r.next registry arg = .ok (.on q) ↔
    (r.escaped = true ∧ r.stand registry arg = .ok q) ∨
      (r.escaped = false ∧ r.step registry (.ofBytes arg) = .ok q ∧
        (r.isWaiting = true ∨
          (r.command.isHelp arg = false ∧ r.command.subcommand? arg = none))) := by
  unfold next
  have hOn : ∀ x : Except Rejection Reading, x.map Next.on = .ok (.on q) ↔ x = .ok q := by
    intro x
    simp [map_eq_ok_iff]
  by_cases hEscaped : r.escaped = true
  · simp [hEscaped, hOn]
  by_cases hWaiting : r.isWaiting = true
  · simp [hEscaped, hWaiting, hOn]
  by_cases hHelp : r.command.isHelp arg = true
  · simp [hEscaped, hWaiting, hHelp]
  · rcases r.command.subcommand? arg with _ | c
    · simp [hEscaped, hWaiting, hHelp, hOn]
    · simp [hEscaped, hWaiting, hHelp]

/-- A subcommand begins with its name, where a value is neither awaited nor all that may come. -/
theorem next_eq_into_iff {c : Command} : r.next registry arg = .ok (.into c) ↔
    r.escaped = false ∧ r.isWaiting = false ∧ r.command.isHelp arg = false ∧
      r.command.subcommand? arg = some c := by
  unfold next
  have hOn : ∀ x : Except Rejection Reading, x.map Next.on ≠ .ok (.into c) := by
    intro x
    simp [map_eq_ok_iff]
  by_cases hEscaped : r.escaped = true
  · simp [hEscaped, hOn]
  by_cases hWaiting : r.isWaiting = true
  · simp [hEscaped, hWaiting, hOn]
  by_cases hHelp : r.command.isHelp arg = true
  · simp [hEscaped, hWaiting, hHelp]
  · rcases r.command.subcommand? arg with _ | d
    · simp [hEscaped, hWaiting, hHelp, hOn]
    · simp [hEscaped, hWaiting, hHelp]

end Reading

open Reading

variable {registry : Registry} {r s q : Reading} {arg : Bytes} {rest args : List Bytes}
  {invocation : Invocation}

/-! ## From argument to argument -/

theorem read_of_next_on (hNext : r.next registry arg = .ok (.on q)) :
    Invocation.read registry r (arg :: rest) = Invocation.read registry q rest := by
  rw [Invocation.read]
  rcases next_eq_on_iff.mp hNext with
    ⟨hEscaped, hStand⟩ | ⟨hEscaped, hStep, hWaiting | ⟨hHelp, hNone⟩⟩
  · rw [if_pos hEscaped, hStand]
    rfl
  · rw [hEscaped, hWaiting, hStep]
    rfl
  · rw [hEscaped, hHelp, hNone, hStep]
    rcases r.isWaiting with _ | _
    · rfl
    · rfl

theorem read_of_next_into {c : Command} (hNext : r.next registry arg = .ok (.into c)) :
    Invocation.read registry r (arg :: rest) =
      Invocation.read registry (.start c) rest >>= r.enclose registry := by
  obtain ⟨hEscaped, hWaiting, hHelp, hSubcommand⟩ := next_eq_into_iff.mp hNext
  rw [Invocation.read, hEscaped, hWaiting, hHelp, hSubcommand]
  rfl

/-- A line that can be read leads somewhere with each of its arguments. -/
theorem exists_next_of_read
    (hRead : Invocation.read registry r (arg :: rest) = .ok invocation) :
    ∃ next, r.next registry arg = .ok next := by
  rw [Invocation.read] at hRead
  unfold next
  split at hRead
  · next hEscaped =>
    obtain ⟨stood, hStand, -⟩ := bind_eq_ok_iff.mp hRead
    exact ⟨.on stood, by rw [if_pos hEscaped, hStand]; rfl⟩
  next hEscaped =>
  split at hRead
  · next hWaiting =>
    obtain ⟨stepped, hStep, -⟩ := bind_eq_ok_iff.mp hRead
    exact ⟨.on stepped, by rw [if_neg hEscaped, if_pos hWaiting, hStep]; rfl⟩
  next hWaiting =>
  split at hRead
  · exact nomatch hRead
  next hHelp =>
  rw [if_neg hEscaped, if_neg hWaiting, if_neg hHelp]
  rcases hSubcommand : r.command.subcommand? arg with _ | c <;> rw [hSubcommand] at hRead
  · obtain ⟨stepped, hStep, -⟩ := bind_eq_ok_iff.mp hRead
    exact ⟨.on stepped, by dsimp only; rw [hStep]; rfl⟩
  · exact ⟨.into c, rfl⟩

/-! ## The open value -/

namespace Reading

/-- The open value is looked at where there is one; nothing else changes. -/
theorem settle_eq_ok_iff : r.settle registry = .ok s ↔
    (r.pending = .nothing ∧ s = r) ∨
      ∃ slot value g, r.pending = .unread slot value ∧ r.given.take registry slot value = .ok g ∧
        s = { r with given := g, pending := .nothing } := by
  unfold settle
  split
  · next hNothing => simp [hNothing, eq_comm]
  · next slot hWanted => simp [hWanted]
  · next slot value hUnread =>
    constructor
    · intro hTake
      obtain ⟨g, hGiven, hSame⟩ := bind_eq_ok_iff.mp hTake
      exact Or.inr ⟨slot, value, g, hUnread, hGiven, (Except.ok.inj hSame).symm⟩
    · rintro (⟨hNothing, -⟩ | ⟨slot', value', g, hOther, hGiven, rfl⟩)
      · rw [hUnread] at hNothing
        exact nomatch hNothing
      · -- the open value is the same one
        obtain ⟨rfl, rfl⟩ := Pending.unread.inj (hUnread.symm.trans hOther)
        exact bind_eq_ok_iff.mpr ⟨g, hGiven, rfl⟩

/-- Afterwards nothing is open, and all but what is given is as it was. -/
theorem eq_of_settle (hSettle : r.settle registry = .ok s) :
    s = { r with given := s.given, pending := .nothing } := by
  rcases settle_eq_ok_iff.mp hSettle with ⟨hNothing, rfl⟩ | ⟨slot, value, g, -, -, rfl⟩
  · rw [← hNothing]
  · rfl

theorem settle_settled (hSettle : r.settle registry = .ok s) : s.settle registry = .ok s := by
  rw [eq_of_settle hSettle]
  rfl

theorem isWaiting_of_settle (hSettle : r.settle registry = .ok s) : r.isWaiting = false := by
  unfold isWaiting
  rcases settle_eq_ok_iff.mp hSettle with ⟨hNothing, -⟩ | ⟨slot, value, g, hUnread, -, -⟩
  · rw [hNothing]
  · rw [hUnread]

/-- Two dashes are met with a value open or not. -/
theorem settle_escape (hSettle : r.settle registry = .ok s) :
    { r with escaped := true }.settle registry = .ok { s with escaped := true } := by
  rcases settle_eq_ok_iff.mp hSettle with ⟨hNothing, rfl⟩ | ⟨slot, value, g, hUnread, hTake, rfl⟩
  · exact settle_eq_ok_iff.mpr (Or.inl ⟨hNothing, rfl⟩)
  · exact settle_eq_ok_iff.mpr (Or.inr ⟨slot, value, g, hUnread, hTake, rfl⟩)

/-! ### Looking at it earlier -/

theorem turn_of_settle (hSettle : r.settle registry = .ok s) (switch : Switch) :
    r.turn registry switch = s.turn registry switch := by
  unfold turn
  rw [hSettle, settle_settled hSettle]

theorem fill_of_settle (hSettle : r.settle registry = .ok s) (slot : Slot) (value : Bytes) :
    r.fill registry slot value = s.fill registry slot value := by
  unfold fill
  rw [hSettle, settle_settled hSettle]

theorem await_of_settle (hSettle : r.settle registry = .ok s) (slot : Slot) :
    r.await registry slot = s.await registry slot := by
  unfold await
  rw [hSettle, settle_settled hSettle]

theorem stand_of_settle (hSettle : r.settle registry = .ok s) (value : Bytes) :
    r.stand registry value = s.stand registry value := by
  unfold stand
  rw [hSettle, settle_settled hSettle]
  have hSame := eq_of_settle hSettle
  have hPlaces : s.places = r.places := by rw [hSame]
  have hLeft : s.leftOver value = r.leftOver value := by rw [hSame]; rfl
  rw [hPlaces, hLeft]

/-- An argument before which the open value was looked at is read as it is otherwise. -/
theorem step_of_settle (hSettle : r.settle registry = .ok s) {arg : Argument}
    (hArg : arg ≠ .escape) : r.step registry arg = s.step registry arg := by
  have hCommand : s.command = r.command := by rw [eq_of_settle hSettle]
  cases arg with
  | escape => exact absurd rfl hArg
  | long word value =>
    show r.long registry word value = s.long registry word value
    unfold long
    simp only [hCommand, turn_of_settle hSettle, await_of_settle hSettle, fill_of_settle hSettle]
  | letters first rest =>
    show r.letters registry first rest = s.letters registry first rest
    unfold letters
    simp only [hCommand, turn_of_settle hSettle, await_of_settle hSettle, fill_of_settle hSettle]
  | plain value =>
    -- neither of the two awaits a value
    have hStand : ∀ {q : Reading}, q.isWaiting = false →
        q.step registry (.plain value) = q.stand registry value := by
      intro q hWaiting
      unfold step
      dsimp only
      split
      · next slot hWanted =>
        rw [isWaiting, hWanted] at hWaiting
        exact nomatch hWaiting
      · rfl
    rw [hStand (isWaiting_of_settle hSettle),
      hStand (isWaiting_of_settle (settle_settled hSettle)), stand_of_settle hSettle]

/-! ### Looking at it at last -/

theorem exists_settle_of_stand {value : Bytes} (hStand : r.stand registry value = .ok q) :
    ∃ s, r.settle registry = .ok s := by
  unfold stand at hStand
  split at hStand
  · exact nomatch hStand
  · obtain ⟨s, hSettle, -⟩ := bind_eq_ok_iff.mp hStand
    exact ⟨s, hSettle⟩

/-- Any argument but two dashes has the open value looked at, unless it is that value. -/
theorem exists_settle_of_step {arg : Argument} (hStep : r.step registry arg = .ok q)
    (hArg : arg ≠ .escape) (hWaiting : r.isWaiting = false) :
    ∃ s, r.settle registry = .ok s := by
  -- a switch, a slot with its value and one without it have this in common
  have hFirst : ∀ {next : Reading → Except Rejection Reading},
      r.settle registry >>= next = .ok q → ∃ s, r.settle registry = .ok s := by
    intro next hNext
    obtain ⟨s, hSettle, -⟩ := bind_eq_ok_iff.mp hNext
    exact ⟨s, hSettle⟩
  cases arg with
  | escape => exact absurd rfl hArg
  | long word value =>
    replace hStep : r.long registry word value = .ok q := hStep
    unfold long at hStep
    split at hStep
    · exact nomatch hStep
    · exact hFirst hStep
    · exact nomatch hStep
    · exact hFirst hStep
    · exact hFirst hStep
  | letters first rest =>
    replace hStep : r.letters registry first rest = .ok q := hStep
    unfold letters at hStep
    split at hStep
    · exact nomatch hStep
    · exact hFirst hStep
    · obtain ⟨turned, hTurn, -⟩ := bind_eq_ok_iff.mp hStep
      obtain ⟨s, hSettle, -⟩ := bind_eq_ok_iff.mp hTurn
      exact ⟨s, hSettle⟩
    · exact hFirst hStep
    · exact hFirst hStep
  | plain value =>
    unfold step at hStep
    dsimp only at hStep
    split at hStep
    · next slot hWanted =>
      rw [isWaiting, hWanted] at hWaiting
      exact nomatch hWaiting
    · exact exists_settle_of_stand hStep

end Reading

/-- Looking at the open value first changes nothing in what is read. -/
theorem read_of_settle (hSettle : r.settle registry = .ok s) :
    Invocation.read registry r args = Invocation.read registry s args := by
  -- by induction on the arguments: behind two dashes the value may still be open
  induction args generalizing r s with
  | nil =>
    show r.finish registry = s.finish registry
    unfold finish
    rw [hSettle, settle_settled hSettle]
  | cons arg rest ih =>
    have hSame := eq_of_settle hSettle
    have hEscaped : s.escaped = r.escaped := by rw [hSame]
    have hCommand : s.command = r.command := by rw [hSame]
    have hEnclose : r.enclose registry = s.enclose registry := by
      funext inner
      unfold enclose
      rw [hSettle, settle_settled hSettle]
    have hStep : (r.step registry (.ofBytes arg) >>= fun q => Invocation.read registry q rest) =
        (s.step registry (.ofBytes arg) >>= fun q => Invocation.read registry q rest) := by
      by_cases hArg : Argument.ofBytes arg = .escape
      · rw [hArg]
        exact ih (settle_escape hSettle)
      · rw [step_of_settle hSettle hArg]
    rw [Invocation.read, Invocation.read, hEscaped, hCommand, isWaiting_of_settle hSettle,
      isWaiting_of_settle (settle_settled hSettle), stand_of_settle hSettle, hEnclose, hStep]

/-- Where a line can be read and no value is awaited, the open value can be looked at. -/
theorem exists_settle_of_read (hRead : Invocation.read registry r args = .ok invocation)
    (hWaiting : r.isWaiting = false) : ∃ s, r.settle registry = .ok s := by
  -- by induction on the arguments: two dashes put it off to the argument behind them
  induction args generalizing r with
  | nil =>
    obtain ⟨s, hSettle, -⟩ := bind_eq_ok_iff.mp hRead
    exact ⟨s, hSettle⟩
  | cons arg rest ih =>
    obtain ⟨next, hNext⟩ := exists_next_of_read hRead
    cases next with
    | on q =>
      rw [read_of_next_on hNext] at hRead
      rcases next_eq_on_iff.mp hNext with ⟨-, hStand⟩ | ⟨-, hStep, -⟩
      · exact exists_settle_of_stand hStand
      · by_cases hArg : Argument.ofBytes arg = .escape
        · rw [hArg] at hStep
          obtain rfl := Except.ok.inj hStep
          obtain ⟨s, hSettle⟩ := ih hRead hWaiting
          rcases settle_eq_ok_iff.mp hSettle with
            ⟨hNothing, -⟩ | ⟨slot, value, g, hUnread, hTake, -⟩
          · exact ⟨_, settle_eq_ok_iff.mpr (Or.inl ⟨hNothing, rfl⟩)⟩
          · exact ⟨_, settle_eq_ok_iff.mpr (Or.inr ⟨slot, value, g, hUnread, hTake, rfl⟩)⟩
        · exact exists_settle_of_step hStep hArg hWaiting
    | into c =>
      rw [read_of_next_into hNext] at hRead
      obtain ⟨inner, -, hEnclose⟩ := bind_eq_ok_iff.mp hRead
      obtain ⟨s, hSettle, -⟩ := bind_eq_ok_iff.mp hEnclose
      exact ⟨s, hSettle⟩

end MarketFeed.CommandLine
