/-!
# Steps that may fail

* `bind_eq_ok_iff`    — both steps went well.
* `bind_eq_error_iff` — the first step failed, or the second did.
* `map_eq_ok_iff`     — the step went well.
* `exists_of_mem_mapM` — each result of many steps comes from one of them.
-/

namespace MarketFeed

variable {ε α β : Type} {first : Except ε α} {next : α → Except ε β}

theorem bind_eq_ok_iff {b : β} :
    (first >>= next) = .ok b ↔ ∃ a, first = .ok a ∧ next a = .ok b := by
  cases first with
  | error e => simp [bind, Except.bind]
  | ok a => simp [bind, Except.bind]

theorem bind_eq_error_iff {e : ε} :
    (first >>= next) = .error e ↔
      first = .error e ∨ ∃ a, first = .ok a ∧ next a = .error e := by
  cases first with
  | error d => simp [bind, Except.bind]
  | ok a => simp [bind, Except.bind]

theorem map_eq_ok_iff {f : α → β} {b : β} :
    first.map f = .ok b ↔ ∃ a, first = .ok a ∧ f a = b := by
  cases first with
  | error e => simp [Except.map]
  | ok a => simp [Except.map]

theorem exists_of_mem_mapM {as : List α} {bs : List β} (hMap : as.mapM next = .ok bs) {b : β}
    (hb : b ∈ bs) : ∃ a ∈ as, next a = .ok b := by
  induction as generalizing bs with
  | nil =>
    obtain rfl := Except.ok.inj hMap
    cases hb
  | cons a rest ih =>
    rw [List.mapM_cons] at hMap
    obtain ⟨first, hFirst, hNext⟩ := bind_eq_ok_iff.mp hMap
    obtain ⟨more, hMore, hEnd⟩ := bind_eq_ok_iff.mp hNext
    obtain rfl := Except.ok.inj hEnd
    rcases List.mem_cons.mp hb with rfl | hb
    · exact ⟨a, List.mem_cons_self, hFirst⟩
    · obtain ⟨other, hOther, hSame⟩ := ih hMore hb
      exact ⟨other, List.mem_cons_of_mem _ hOther, hSame⟩

end MarketFeed
