import MarketFeed.Proofs.CommandLine.Positions

/-!
# Asking for verbosity

The letter for verbosity may be given again and again, to any of the commands on a command line.
Each command counts for itself, up to a limit, and of these counts that of the innermost command
with one holds: they are not added up.

* `asked`         — how often verbosity is asked for.
* `heard`         — the count that holds.
* `heard_eq_iff`  — when that is as often as it was asked for.
* `parse_verbose` — what a command line with the letter put in is read as.
-/

namespace MarketFeed.CommandLine

/-- How often verbosity is asked for by arguments that give the letter once and repeat it so
often. -/
def asked : List Nat → Nat
  | [] => 0
  | more :: rest => more + 1 + asked rest

/-- The count that holds where each command is given such arguments, the outermost first: that of
the innermost command with a count. -/
def heard : List (List Nat) → Nat
  | [] => 0
  | clusters :: inner =>
    if heard inner = 0 then min (asked clusters) Given.verboseLimit else heard inner

variable {clusters : List Nat} {levels : List (List Nat)}

@[simp] theorem asked_nil : asked [] = 0 := rfl

@[simp] theorem asked_cons (more : Nat) (rest : List Nat) :
    asked (more :: rest) = more + 1 + asked rest := rfl

@[simp] theorem asked_append (clusters more : List Nat) :
    asked (clusters ++ more) = asked clusters + asked more := by
  induction clusters with
  | nil => exact (Nat.zero_add _).symm
  | cons first rest ih =>
    rw [List.cons_append, asked_cons, asked_cons, ih]
    exact (Nat.add_assoc ..).symm

/-! ## What holds -/

/-- No command has more than all of them have together. -/
theorem asked_le_flatten (hMem : clusters ∈ levels) : asked clusters ≤ asked levels.flatten := by
  obtain ⟨before, after, rfl⟩ := List.append_of_mem hMem
  simp only [List.flatten_append, List.flatten_cons, asked_append]
  omega

/-- Nothing is asked for, or the count of the innermost command with one holds. -/
theorem heard_cases (levels : List (List Nat)) :
    (heard levels = 0 ∧ asked levels.flatten = 0) ∨
      ∃ outer clusters inner, levels = outer ++ clusters :: inner ∧ 0 < asked clusters ∧
        asked inner.flatten = 0 ∧ heard levels = min (asked clusters) Given.verboseLimit := by
  have hLimit : Given.verboseLimit = 255 := rfl
  induction levels with
  | nil => exact Or.inl ⟨rfl, rfl⟩
  | cons clusters inner ih =>
    have hHeard : heard (clusters :: inner) =
        if heard inner = 0 then min (asked clusters) Given.verboseLimit else heard inner := rfl
    rw [List.flatten_cons, asked_append, hHeard]
    rcases ih with ⟨hSilent, hNone⟩ | ⟨outer, found, further, rfl, hSome, hFurther, hFound⟩
    · rw [if_pos hSilent]
      by_cases hHere : asked clusters = 0
      · exact Or.inl (by omega)
      · exact Or.inr ⟨[], clusters, inner, rfl, by omega, hNone, rfl⟩
    · -- a command further in has a count, which is not nought
      rw [if_neg (by omega)]
      exact Or.inr ⟨clusters :: outer, found, further, rfl, hSome, hFurther, hFound⟩

/-- All that is asked for counts exactly if the count has reached the limit, or one command is asked
for all of it. -/
theorem heard_eq_iff (hLevels : levels ≠ []) :
    heard levels = min (asked levels.flatten) Given.verboseLimit ↔
      heard levels = Given.verboseLimit ∨
        ∃ clusters ∈ levels, asked clusters = asked levels.flatten := by
  rcases heard_cases levels with
    ⟨hSilent, hNone⟩ | ⟨outer, clusters, inner, rfl, hSome, hInner, hHeard⟩
  · -- nothing is asked for, so of no command
    obtain ⟨clusters, rest, rfl⟩ := List.exists_cons_of_ne_nil hLevels
    have hHere : asked clusters ≤ asked (clusters :: rest).flatten :=
      asked_le_flatten List.mem_cons_self
    refine iff_of_true (by omega) (Or.inr ⟨clusters, List.mem_cons_self, by omega⟩)
  · rw [hHeard]
    have hTotal : asked (outer ++ clusters :: inner).flatten =
        asked outer.flatten + asked clusters := by
      simp [hInner]
    constructor
    · intro hSame
      by_cases hReached : Given.verboseLimit ≤ asked clusters
      · exact Or.inl (by omega)
      · exact Or.inr ⟨clusters, by simp, by omega⟩
    · rintro (hReached | ⟨other, hOther, hAll⟩)
      · omega
      · -- the command with all of it is the innermost one with some
        rcases List.mem_append.mp hOther with hOuter | hOther
        · have hLe := asked_le_flatten hOuter
          omega
        · rcases List.mem_cons.mp hOther with rfl | hFurther
          · rw [hAll]
          · have hLe := asked_le_flatten hFurther
            omega

/-! ## Reading it -/

variable {registry : Registry}

/-- Counting goes on from what was counted before, up to the limit. -/
theorem foldlM_give_verbose {g : Given} (hLimit : g.verbose ≤ Given.verboseLimit) :
    (clusters.map Global.verbose).foldlM (Global.give registry) g =
      .ok { g with verbose := min (g.verbose + asked clusters) Given.verboseLimit } := by
  induction clusters generalizing g with
  | nil =>
    show Except.ok g = _
    rw [asked_nil, Nat.add_zero, Nat.min_eq_left hLimit]
  | cons more rest ih =>
    show (rest.map Global.verbose).foldlM (Global.give registry)
      { g with verbose := min (g.verbose + (more + 1)) Given.verboseLimit } = _
    rw [ih (Nat.min_le_right _ _)]
    have hCount : min (min (g.verbose + (more + 1)) Given.verboseLimit + asked rest)
        Given.verboseLimit = min (g.verbose + asked (more :: rest)) Given.verboseLimit := by
      rw [asked_cons]
      omega
    rw [← hCount]

/-- What a command has been given that is asked for nothing but verbosity. -/
def Given.loud (clusters : List Nat) : Given :=
  { Given.nothing with verbose := min (asked clusters) Given.verboseLimit }

theorem mapM_ofGlobals_verbose (registry : Registry) (levels : List (List Nat)) :
    (levels.map (List.map Global.verbose)).mapM (Given.ofGlobals registry) =
      .ok (levels.map Given.loud) := by
  induction levels with
  | nil => rfl
  | cons clusters rest ih =>
    have hOne : Given.ofGlobals registry (clusters.map Global.verbose) = .ok (.loud clusters) := by
      refine (foldlM_give_verbose (Nat.zero_le _)).trans ?_
      rw [show Given.nothing.verbose + asked clusters = asked clusters from Nat.zero_add _]
      rfl
    rw [List.map_cons, List.mapM_cons, hOne, ih]
    rfl

/-- Laid over an invocation without a count, the count that holds is all there is. -/
theorem below_loud {invocation : Invocation} (hNone : invocation.verbose = 0)
    (levels : List (List Nat)) :
    invocation.below (levels.map Given.loud) = { invocation with verbose := heard levels } := by
  induction levels with
  | nil =>
    show invocation = { invocation with verbose := 0 }
    rw [← hNone]
  | cons clusters rest ih =>
    show (Given.loud clusters).handDown (invocation.below (rest.map Given.loud)) = _
    rw [ih]
    unfold Given.handDown Invocation.under Given.loud Given.nothing
    rw [Option.or_none, Option.or_none]
    rfl

/-- A command line without a count, with the letter for verbosity put in here and there, is read as
it was with the count of the innermost command that has one.  That is as often as the letter was
put in, up to the limit, exactly if this count has reached the limit or one command has them all. -/
theorem parse_verbose {name : Bytes} {args line : List Bytes} {invocation : Invocation}
    (clusters : List Nat) (further : List (List Nat))
    (hParse : Invocation.parse registry (name :: args) = .ok invocation)
    (hNone : invocation.verbose = 0)
    (hWoven : Woven registry (.start .program) args line (clusters.map .verbose)
      (further.map (List.map .verbose))) :
    Invocation.parse registry (name :: line) =
        .ok { invocation with verbose := heard (clusters :: further) } ∧
      (heard (clusters :: further) =
          min (asked (clusters :: further).flatten) Given.verboseLimit ↔
        heard (clusters :: further) = Given.verboseLimit ∨
          ∃ options ∈ clusters :: further,
            asked options = asked (clusters :: further).flatten) := by
  refine ⟨?_, heard_eq_iff (List.cons_ne_nil _ _)⟩
  have hLacks : ∀ options ∈ (clusters :: further).map (List.map Global.verbose), ∀ m ∈ options,
      invocation.common.lacks m.parameter := by
    intro options hOptions m hm
    obtain ⟨counts, -, rfl⟩ := List.mem_map.mp hOptions
    obtain ⟨more, -, rfl⟩ := List.mem_map.mp hm
    exact hNone
  have hMapM := mapM_ofGlobals_verbose registry (clusters :: further)
  rw [List.map_cons] at hLacks hMapM
  rw [parse_woven hParse hWoven hLacks, hMapM]
  show Except.ok (invocation.below ((clusters :: further).map Given.loud)) = _
  rw [below_loud hNone]

/-- Behind the subcommand twice is twice, whatever was asked for before the group. -/
theorem parse_verbose_sample :
    Invocation.parse .builtin (["kfc", "-v", "data", "list", "-vv"].map Utf8.encode) =
        .ok ⟨none, none, 2, some (.data .list)⟩ ∧
      Invocation.parse .builtin (["kfc", "data", "list", "-v", "-vv"].map Utf8.encode) =
        .ok ⟨none, none, 3, some (.data .list)⟩ := by
  have hParse : Invocation.parse .builtin (["kfc", "data", "list"].map Utf8.encode) =
      .ok ⟨none, none, 0, some (.data .list)⟩ := by rfl
  constructor
  · exact (parse_verbose [0] [[], [1]] hParse rfl
      (woven_data_list [.verbose 0] [] [.verbose 1])).1
  · exact (parse_verbose [] [[], [0, 1]] hParse rfl
      (woven_data_list [] [] [.verbose 0, .verbose 1])).1

/-- The counts of several commands are not added up: once for the group and once for its subcommand
is once. -/
theorem not_parse_verbose_sum :
    ¬ ∀ (registry : Registry) (name : Bytes) (args line : List Bytes) (invocation : Invocation)
        (clusters : List Nat) (further : List (List Nat)),
      Invocation.parse registry (name :: args) = .ok invocation → invocation.verbose = 0 →
      Woven registry (.start .program) args line (clusters.map .verbose)
        (further.map (List.map .verbose)) →
      ∃ out, Invocation.parse registry (name :: line) = .ok out ∧
        out.verbose = min (asked (clusters :: further).flatten) Given.verboseLimit := by
  intro hSum
  have hParse : Invocation.parse .builtin (["kfc", "data", "list"].map Utf8.encode) =
      .ok ⟨none, none, 0, some (.data .list)⟩ := by rfl
  obtain ⟨out, hOut, hVerbose⟩ := hSum .builtin _ _ _ _ [0] [[0], []] hParse rfl
    (woven_data_list [.verbose 0] [.verbose 0] [])
  have hOnce : Invocation.parse .builtin (["kfc", "-v", "data", "-v", "list"].map Utf8.encode) =
      .ok ⟨none, none, 1, some (.data .list)⟩ := by rfl
  obtain rfl := Except.ok.inj (hOnce.symm.trans hOut)
  exact absurd hVerbose (by decide)

end MarketFeed.CommandLine
