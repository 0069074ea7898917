import MarketFeed.Proofs.CommandLine.Walk

/-!
# What is given besides

A command may be given more than its arguments say: what was given to a group counts for its
subcommands, and options that hold for every command may stand among the arguments of any.  As long
as nothing is given twice, a command line is read in the same way with that or without it.

* `Given.lacks`    — a parameter has not been given.
* `Given.besides`  — what a command has been given, and what is given besides where there is room.
* `Given.Apart`    — nothing is given on both sides.
* `Given.keep_eq_ok_iff` — a value is kept where none is kept yet.
* `Steady`         — a step that takes nothing back and does not depend on what is given besides.
* `steady_step`    — reading an argument is such a step.
* `lacks_of_read`  — what an invocation lacks was not given on the way to it.
* `finish_besides`, `enclose_besides` — what is given besides counts where nothing else does.
-/

namespace MarketFeed.CommandLine

namespace Given

/-- The parameter has not been given. -/
def lacks (g : Given) : Parameter → Prop
  | .slot .logLevel => g.logLevel = none
  | .slot .home => g.home = none
  | .slot .source => g.source = none
  | .slot .shell => g.shell = none
  | .switch .verbose => g.verbose = 0
  | .switch .force => g.force = false
  -- these two are never kept
  | .switch .help => True
  | .switch .version => True

/-- What a command has been given, and of the parameters that every command knows what is given
besides where that leaves room. -/
def besides (g e : Given) : Given :=
  { g with
    logLevel := g.logLevel.or e.logLevel
    home := g.home.or e.home
    verbose := if g.verbose = 0 then e.verbose else g.verbose }

/-- No parameter that every command knows is given on both sides. -/
def Apart (e g : Given) : Prop := ∀ p ∈ Parameter.everywhere, e.lacks p ∨ g.lacks p

/-- All that is given on the left is given on the right. -/
def Within (g h : Given) : Prop := ∀ p, h.lacks p → g.lacks p

variable {registry : Registry} {g h e : Given}

theorem Within.refl (g : Given) : g.Within g := fun _ hLacks => hLacks

theorem Within.trans {k : Given} (hFirst : g.Within h) (hSecond : h.Within k) : g.Within k :=
  fun p hLacks => hFirst p (hSecond p hLacks)

theorem Apart.of_within (hApart : e.Apart h) (hWithin : g.Within h) : e.Apart g :=
  fun p hp => (hApart p hp).imp_right (hWithin p)

theorem lacks_nothing (p : Parameter) : nothing.lacks p := by
  cases p with
  | switch switch => cases switch <;> trivial
  | slot slot => cases slot <;> rfl

theorem apart_nothing (g : Given) : nothing.Apart g := fun p _ => Or.inl (lacks_nothing p)

@[simp] theorem besides_nothing (g : Given) : g.besides nothing = g := by
  unfold besides nothing
  rcases g with ⟨level, home, verbose, source, force, shell⟩
  by_cases hVerbose : verbose = 0 <;> simp [hVerbose]

theorem mem_everywhere_iff {p : Parameter} :
    p ∈ Parameter.everywhere ↔ p = .slot .logLevel ∨ p = .slot .home ∨ p = .switch .verbose := by
  simp [Parameter.everywhere]

/-- What is lacking with what is given besides is lacking on both sides. -/
theorem lacks_besides {p : Parameter} (hp : p ∈ Parameter.everywhere) :
    (g.besides e).lacks p ↔ g.lacks p ∧ e.lacks p := by
  rcases mem_everywhere_iff.mp hp with rfl | rfl | rfl
  · exact Option.or_eq_none_iff
  · exact Option.or_eq_none_iff
  · show (if g.verbose = 0 then e.verbose else g.verbose) = 0 ↔ g.verbose = 0 ∧ e.verbose = 0
    split
    · next hZero => simp [hZero]
    · next hSome => simp [hSome]

theorem Apart.of_besides {k : Given} (hApart : k.Apart (g.besides e)) : k.Apart g ∧ k.Apart e :=
  ⟨fun p hp => (hApart p hp).imp_right fun hLacks => ((lacks_besides hp).mp hLacks).1,
    fun p hp => (hApart p hp).imp_right fun hLacks => ((lacks_besides hp).mp hLacks).2⟩

/-! ## Switches and values -/

theorem within_turn {c : Command} {switch : Switch} (hTurn : g.turn c switch = .ok h) :
    g.Within h := by
  intro p hLacks
  cases switch with
  | verbose =>
    obtain rfl := Except.ok.inj hTurn
    rcases p with (_ | _ | _ | _) | (_ | _ | _ | _)
    · -- the count is one more than it was, or at its limit
      have hZero : min (g.verbose + 1) verboseLimit = 0 := hLacks
      have hLimit : verboseLimit = 255 := rfl
      omega
    all_goals exact hLacks
  | force =>
    rw [turn] at hTurn
    split at hTurn
    · cases hTurn
    · obtain rfl := Except.ok.inj hTurn
      rcases p with (_ | _ | _ | _) | (_ | _ | _ | _)
      · exact hLacks
      · cases hLacks
      all_goals exact hLacks
  | help => cases hTurn
  | version => cases hTurn

/-- A switch is turned whatever is given besides. -/
theorem turn_besides {c : Command} {switch : Switch} (hTurn : g.turn c switch = .ok h)
    (hApart : e.Apart h) : (g.besides e).turn c switch = .ok (h.besides e) := by
  cases switch with
  | verbose =>
    obtain rfl := Except.ok.inj hTurn
    have hLimit : verboseLimit = 255 := rfl
    have hCount : min (g.verbose + 1) verboseLimit ≠ 0 := by omega
    -- verbosity is asked for here, so not besides
    have hNone : e.verbose = 0 := (hApart (.switch .verbose) (by decide)).resolve_right hCount
    have hSame : (if g.verbose = 0 then e.verbose else g.verbose) = g.verbose := by
      split
      · next hZero => rw [hNone, hZero]
      · rfl
    unfold turn besides
    dsimp only
    rw [hSame, if_neg hCount]
  | force =>
    rw [turn] at hTurn ⊢
    split at hTurn
    · cases hTurn
    · next hForce =>
      obtain rfl := Except.ok.inj hTurn
      exact if_neg hForce
  | help => cases hTurn
  | version => cases hTurn

/-- A value is kept where none is kept yet. -/
theorem keep_eq_ok_iff {α : Type} {old : Option α} {read : Except Rejection α} {put : α → Given} :
    (vacant old >>= fun _ => read >>= fun value => .ok (put value)) = .ok h ↔
      old = none ∧ ∃ value, read = .ok value ∧ h = put value := by
  have hVacant : vacant old = .ok () ↔ old = none := by
    rcases old with _ | value <;> simp [vacant]
  constructor
  · intro hKeep
    obtain ⟨⟨⟩, hFree, hNext⟩ := bind_eq_ok_iff.mp hKeep
    obtain ⟨value, hRead, hEnd⟩ := bind_eq_ok_iff.mp hNext
    exact ⟨hVacant.mp hFree, value, hRead, (Except.ok.inj hEnd).symm⟩
  · rintro ⟨hFree, value, hRead, rfl⟩
    exact bind_eq_ok_iff.mpr ⟨(), hVacant.mpr hFree, bind_eq_ok_iff.mpr ⟨value, hRead, rfl⟩⟩

theorem within_take {slot : Slot} {value : Bytes} (hTake : g.take registry slot value = .ok h) :
    g.Within h := by
  intro p hLacks
  -- only the slot itself holds more than before, and it is not lacking
  cases slot <;>
  · obtain ⟨-, read, -, rfl⟩ := keep_eq_ok_iff.mp hTake
    rcases p with (_ | _ | _ | _) | (_ | _ | _ | _) <;> first | exact hLacks | cases hLacks

/-- A value is taken whatever is given besides. -/
theorem take_besides {slot : Slot} {value : Bytes} (hTake : g.take registry slot value = .ok h)
    (hApart : e.Apart h) : (g.besides e).take registry slot value = .ok (h.besides e) := by
  -- the slot is vacant here, and where every command knows it also besides
  cases slot with
  | logLevel =>
    obtain ⟨hFree, level, hLevel, rfl⟩ := keep_eq_ok_iff.mp hTake
    have hNone : e.logLevel = none :=
      (hApart (.slot .logLevel) (by decide)).resolve_right (Option.some_ne_none level)
    have hBoth : g.logLevel.or e.logLevel = none := Option.or_eq_none_iff.mpr ⟨hFree, hNone⟩
    exact keep_eq_ok_iff.mpr ⟨hBoth, level, hLevel, rfl⟩
  | home =>
    obtain ⟨hFree, home, hHome, rfl⟩ := keep_eq_ok_iff.mp hTake
    have hNone : e.home = none :=
      (hApart (.slot .home) (by decide)).resolve_right (Option.some_ne_none home)
    have hBoth : g.home.or e.home = none := Option.or_eq_none_iff.mpr ⟨hFree, hNone⟩
    exact keep_eq_ok_iff.mpr ⟨hBoth, home, hHome, rfl⟩
  | source =>
    obtain ⟨hFree, source, hSource, rfl⟩ := keep_eq_ok_iff.mp hTake
    exact keep_eq_ok_iff.mpr ⟨hFree, source, hSource, rfl⟩
  | shell =>
    obtain ⟨hFree, shell, hShell, rfl⟩ := keep_eq_ok_iff.mp hTake
    exact keep_eq_ok_iff.mpr ⟨hFree, shell, hShell, rfl⟩

/-- What a command asks for does not depend on what is given besides. -/
theorem request_besides {c : Command} {request : Option Request}
    (hRequest : g.request c = .ok request) : (g.besides e).request c = .ok request := by
  have hGroup : g.groupAlone ≠ .ok request := by
    unfold groupAlone
    split
    · exact fun h => nomatch h
    · exact fun h => nomatch h
  cases c with
  | config => exact absurd hRequest hGroup
  | data => exact absurd hRequest hGroup
  | _ => exact hRequest

/-- What is given besides counts after what is given. -/
theorem handDown_besides (inner : Invocation) :
    (g.besides e).handDown inner = e.handDown (g.handDown inner) := by
  unfold handDown Invocation.under besides
  rcases inner with ⟨level, home, verbose, request⟩
  dsimp only
  rw [Option.or_assoc, Option.or_assoc]
  by_cases hInner : verbose = 0
  · rw [if_pos hInner, if_pos hInner]
  · rw [if_neg hInner, if_neg hInner, if_neg hInner]

end Given

/-! ## Steps -/

namespace Reading

/-- The reading with more given besides. -/
def besides (r : Reading) (e : Given) : Reading := { r with given := r.given.besides e }

@[simp] theorem besides_nothing (r : Reading) : r.besides .nothing = r := by
  rw [besides, Given.besides_nothing]

/-- The step takes nothing back, and it does not depend on what is given besides. -/
def Steady (act : Reading → Except Rejection Reading) : Prop :=
  ∀ ⦃r q⦄, act r = .ok q → r.given.Within q.given ∧
    ∀ e : Given, e.Apart q.given → act (r.besides e) = .ok (q.besides e)

variable {registry : Registry} {r q : Reading} {e : Given}

theorem Steady.bind {first second : Reading → Except Rejection Reading} (hFirst : Steady first)
    (hSecond : Steady second) : Steady fun r => first r >>= second := by
  intro r q hOk
  obtain ⟨s, hs, hq⟩ := bind_eq_ok_iff.mp hOk
  obtain ⟨hBefore, hOne⟩ := hFirst hs
  obtain ⟨hAfter, hTwo⟩ := hSecond hq
  refine ⟨hBefore.trans hAfter, fun e hApart => ?_⟩
  exact bind_eq_ok_iff.mpr ⟨_, hOne e (hApart.of_within hAfter), hTwo e hApart⟩

theorem steady_settle : Steady (settle registry) := by
  intro r q hSettle
  rcases settle_eq_ok_iff.mp hSettle with ⟨hNothing, rfl⟩ | ⟨slot, value, g, hUnread, hTake, rfl⟩
  · exact ⟨Given.Within.refl _, fun e _ => settle_eq_ok_iff.mpr (Or.inl ⟨hNothing, rfl⟩)⟩
  · refine ⟨Given.within_take hTake, fun e hApart => settle_eq_ok_iff.mpr (Or.inr ?_)⟩
    exact ⟨slot, value, _, hUnread, Given.take_besides hTake hApart, rfl⟩

theorem steady_turn (switch : Switch) : Steady fun r => r.turn registry switch := by
  refine steady_settle.bind fun r q hTurn => ?_
  obtain ⟨g, hGiven, hq⟩ := bind_eq_ok_iff.mp hTurn
  obtain rfl := Except.ok.inj hq
  refine ⟨Given.within_turn hGiven, fun e hApart => ?_⟩
  exact bind_eq_ok_iff.mpr ⟨_, Given.turn_besides hGiven hApart, rfl⟩

theorem steady_fill (slot : Slot) (value : Bytes) :
    Steady fun r => r.fill registry slot value := by
  refine steady_settle.bind fun r q hFill => ?_
  obtain ⟨g, hGiven, hq⟩ := bind_eq_ok_iff.mp hFill
  obtain rfl := Except.ok.inj hq
  refine ⟨Given.within_take hGiven, fun e hApart => ?_⟩
  exact bind_eq_ok_iff.mpr ⟨_, Given.take_besides hGiven hApart, rfl⟩

theorem steady_await (slot : Slot) : Steady fun r => r.await registry slot := by
  refine steady_settle.bind fun r q hAwait => ?_
  obtain rfl := Except.ok.inj hAwait
  exact ⟨Given.Within.refl _, fun e _ => rfl⟩

theorem steady_long (word : Bytes) (value : Option Bytes) :
    Steady fun r => r.long registry word value := by
  intro r q hLong
  -- what the word names does not depend on what is given
  show _ ∧ ∀ e : Given, _ → (r.besides e).long registry word value = _
  replace hLong : r.long registry word value = .ok q := hLong
  have hCommand : ∀ e, (r.besides e).command = r.command := fun _ => rfl
  unfold long at hLong ⊢
  simp only [hCommand]
  split at hLong
  · exact nomatch hLong
  · exact steady_turn _ hLong
  · exact nomatch hLong
  · exact steady_await _ hLong
  · exact steady_fill _ _ hLong

theorem steady_letters (first : UInt8) (rest : Bytes) :
    Steady fun r => r.letters registry first rest := by
  -- every letter but the last may be a switch, after which the reading goes on
  induction rest generalizing first with
  | nil =>
    intro r q hLetters
    show _ ∧ ∀ e : Given, _ → (r.besides e).letters registry first [] = _
    replace hLetters : r.letters registry first [] = .ok q := hLetters
    have hCommand : ∀ e, (r.besides e).command = r.command := fun _ => rfl
    unfold letters at hLetters ⊢
    simp only [hCommand]
    rcases hFirst : r.command.byLetter? first with _ | switch | slot <;> rw [hFirst] at hLetters
    · exact nomatch hLetters
    · exact steady_turn _ hLetters
    · exact steady_await _ hLetters
  | cons second rest ih =>
    intro r q hLetters
    show _ ∧ ∀ e : Given, _ → (r.besides e).letters registry first (second :: rest) = _
    replace hLetters : r.letters registry first (second :: rest) = .ok q := hLetters
    have hCommand : ∀ e, (r.besides e).command = r.command := fun _ => rfl
    unfold letters at hLetters ⊢
    simp only [hCommand]
    rcases hFirst : r.command.byLetter? first with _ | switch | slot <;> rw [hFirst] at hLetters
    · exact nomatch hLetters
    · exact ((steady_turn switch).bind (ih second)) hLetters
    · exact steady_fill _ _ hLetters

theorem steady_stand (value : Bytes) : Steady fun r => r.stand registry value := by
  intro r q hStand
  show _ ∧ ∀ e : Given, _ → (r.besides e).stand registry value = _
  replace hStand : r.stand registry value = .ok q := hStand
  have hPlaces : ∀ e, (r.besides e).places = r.places := fun _ => rfl
  unfold stand at hStand ⊢
  simp only [hPlaces]
  split at hStand
  · exact nomatch hStand
  · -- the value goes to a place, and is not looked at yet
    next slot places hFree =>
    have hPut : Steady fun r =>
        Except.ok { r with places, pending := .unread slot value } := by
      intro r q hPut
      obtain rfl := Except.ok.inj hPut
      exact ⟨Given.Within.refl _, fun e _ => rfl⟩
    exact (steady_settle.bind hPut) hStand

/-- Reading an argument takes nothing back and does not depend on what is given besides. -/
theorem steady_step (arg : Argument) : Steady fun r => r.step registry arg := by
  cases arg with
  | escape =>
    intro r q hStep
    obtain rfl := Except.ok.inj hStep
    exact ⟨Given.Within.refl _, fun e _ => rfl⟩
  | long word value => exact steady_long word value
  | letters first rest => exact steady_letters first rest
  | plain value =>
    intro r q hStep
    show _ ∧ ∀ e : Given, _ → (r.besides e).step registry (.plain value) = _
    replace hStep : r.step registry (.plain value) = .ok q := hStep
    have hPending : ∀ e, (r.besides e).pending = r.pending := fun _ => rfl
    unfold step at hStep ⊢
    dsimp only at hStep ⊢
    simp only [hPending]
    split at hStep
    · obtain rfl := Except.ok.inj hStep
      exact ⟨Given.Within.refl _, fun e _ => rfl⟩
    · exact steady_stand value hStep

theorem steady_next {arg : Bytes} (hNext : r.next registry arg = .ok (.on q)) :
    r.given.Within q.given ∧
      ∀ e : Given, e.Apart q.given → (r.besides e).next registry arg = .ok (.on (q.besides e)) := by
  -- which of the two it is depends on the command and on what is pending alone
  rcases next_eq_on_iff.mp hNext with ⟨hEscaped, hStand⟩ | ⟨hEscaped, hStep, hPlain⟩
  · obtain ⟨hWithin, hBesides⟩ := steady_stand arg hStand
    refine ⟨hWithin, fun e hApart => next_eq_on_iff.mpr (Or.inl ?_)⟩
    exact ⟨hEscaped, hBesides e hApart⟩
  · obtain ⟨hWithin, hBesides⟩ := steady_step _ hStep
    refine ⟨hWithin, fun e hApart => next_eq_on_iff.mpr (Or.inr ?_)⟩
    exact ⟨hEscaped, hBesides e hApart, hPlain⟩

theorem next_into_besides {arg : Bytes} {c : Command}
    (hNext : r.next registry arg = .ok (.into c)) (e : Given) :
    (r.besides e).next registry arg = .ok (.into c) := by
  have hInto := next_eq_into_iff.mp hNext
  exact next_eq_into_iff.mpr hInto

end Reading

/-! ## Invocations -/

/-- What an invocation says of the parameters that every command knows. -/
def Invocation.common (invocation : Invocation) : Given :=
  { Given.nothing with
    logLevel := invocation.logLevel
    home := invocation.home
    verbose := invocation.verbose }

@[simp] theorem Invocation.common_handDown (g : Given) (inner : Invocation) :
    (g.handDown inner).common = inner.common.besides g := rfl

open Reading

variable {registry : Registry} {r : Reading} {e : Given} {args : List Bytes}
  {invocation inner : Invocation}

/-- The invocation of a command that nothing follows is what it was given, and its request. -/
theorem finish_eq_ok_iff : r.finish registry = .ok invocation ↔
    ∃ s request, r.settle registry = .ok s ∧ s.given.request s.command = .ok request ∧
      invocation = s.given.handDown ⟨none, none, 0, request⟩ := by
  constructor
  · intro hFinish
    obtain ⟨s, hSettle, hNext⟩ := bind_eq_ok_iff.mp hFinish
    obtain ⟨request, hRequest, hEnd⟩ := bind_eq_ok_iff.mp hNext
    exact ⟨s, request, hSettle, hRequest, (Except.ok.inj hEnd).symm⟩
  · rintro ⟨s, request, hSettle, hRequest, rfl⟩
    exact bind_eq_ok_iff.mpr ⟨s, hSettle, bind_eq_ok_iff.mpr ⟨request, hRequest, rfl⟩⟩

theorem enclose_eq_ok_iff : r.enclose registry inner = .ok invocation ↔
    ∃ s, r.settle registry = .ok s ∧ invocation = s.given.handDown inner := by
  constructor
  · intro hEnclose
    obtain ⟨s, hSettle, hEnd⟩ := bind_eq_ok_iff.mp hEnclose
    exact ⟨s, hSettle, (Except.ok.inj hEnd).symm⟩
  · rintro ⟨s, hSettle, rfl⟩
    exact bind_eq_ok_iff.mpr ⟨s, hSettle, rfl⟩

/-- What an invocation lacks was not given on the way to it. -/
theorem lacks_of_read {p : Parameter} (hp : p ∈ Parameter.everywhere)
    (hRead : Invocation.read registry r args = .ok invocation)
    (hLacks : invocation.common.lacks p) : r.given.lacks p := by
  -- by induction on the arguments, none of which takes anything back
  induction args generalizing r invocation with
  | nil =>
    obtain ⟨s, request, hSettle, -, rfl⟩ := finish_eq_ok_iff.mp hRead
    rw [Invocation.common_handDown, Given.lacks_besides hp] at hLacks
    exact (steady_settle hSettle).1 p hLacks.2
  | cons arg rest ih =>
    obtain ⟨next, hNext⟩ := exists_next_of_read hRead
    cases next with
    | on q =>
      rw [read_of_next_on hNext] at hRead
      exact (steady_next hNext).1 p (ih hRead hLacks)
    | into c =>
      rw [read_of_next_into hNext] at hRead
      obtain ⟨inner, -, hEnclose⟩ := bind_eq_ok_iff.mp hRead
      obtain ⟨s, hSettle, rfl⟩ := enclose_eq_ok_iff.mp hEnclose
      rw [Invocation.common_handDown, Given.lacks_besides hp] at hLacks
      exact (steady_settle hSettle).1 p hLacks.2

theorem apart_of_read (hRead : Invocation.read registry r args = .ok invocation)
    (hApart : e.Apart invocation.common) : e.Apart r.given :=
  fun p hp => (hApart p hp).imp_right (lacks_of_read hp hRead)

/-- What is given besides to a command that nothing follows counts for its invocation. -/
theorem finish_besides (hFinish : r.finish registry = .ok invocation)
    (hApart : e.Apart invocation.common) :
    (r.besides e).finish registry = .ok (e.handDown invocation) := by
  obtain ⟨s, request, hSettle, hRequest, rfl⟩ := finish_eq_ok_iff.mp hFinish
  rw [Invocation.common_handDown] at hApart
  have hGiven : e.Apart s.given := hApart.of_besides.2
  refine finish_eq_ok_iff.mpr ⟨s.besides e, request, (steady_settle hSettle).2 e hGiven, ?_, ?_⟩
  · exact Given.request_besides hRequest
  · exact (Given.handDown_besides _).symm

/-- What is given besides to a group counts for what its subcommand comes to. -/
theorem enclose_besides {s : Reading} (hSettle : r.settle registry = .ok s)
    (hApart : e.Apart s.given) (inner : Invocation) :
    (r.besides e).enclose registry inner = .ok (e.handDown (s.given.handDown inner)) := by
  refine enclose_eq_ok_iff.mpr ⟨s.besides e, (steady_settle hSettle).2 e hApart, ?_⟩
  exact (Given.handDown_besides _).symm

end MarketFeed.CommandLine
