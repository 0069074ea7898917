import Mathlib.Data.List.Induction
import MarketFeed.Proofs.Registry.Entries
import MarketFeed.Source.Counting

/-!
# The first source under a name stays

What a registry holds after any number of sources were registered, told by the calls alone.

* `Registry.ofCalls` — the registry after calls, each of which may have failed.
* `registered?_ofCalls`   — a valid name has the entry of the first call for it.
* `Succeeded`, `contains_ofCalls_iff` — a name is taken if a call registered it.
* `ofCalls_perm`     — calls for different names may come in any order.
* `ofCalls_first_wins` — what each call answers, and what all observers tell afterwards.
-/

namespace MarketFeed

namespace Registry

/-! ## Many calls -/

/-- The registry after a call, which is the same as before if the call fails. -/
def call (r : Registry) (c : Registered) : Registry :=
  match r.register c.name c.source with
  | .ok more => more
  | .error _ => r

/-- The registry after calls, one after the other, on the empty one. -/
def ofCalls (calls : List Registered) : Registry := calls.foldl call empty

theorem ofCalls_concat (calls : List Registered) (c : Registered) :
    ofCalls (calls ++ [c]) = (ofCalls calls).call c := by
  simp [ofCalls, List.foldl_append]

/-- A call adds at most its own entry, and that only where there is none yet. -/
theorem registered?_call (r : Registry) (c : Registered) (name : String) :
    (r.call c).registered? name =
      (r.registered? name).or
        (if c.name = name ∧ isSourceName name = true then some c else none) := by
  unfold call
  by_cases hName : IsSourceName c.name
  · rcases hTaken : r.contains c.name with _ | _
    · obtain ⟨more, hMore, hEntry⟩ := register_of_free hName hTaken c.source
      rw [hMore]
      dsimp only
      rw [hEntry]
      by_cases hc : c.name = name
      · obtain rfl := hc
        rw [if_pos rfl, if_pos ⟨rfl, isSourceName_iff.mpr hName⟩]
      · simp [hc]
    · rw [register_of_contains hName hTaken]
      dsimp only
      by_cases hc : c.name = name
      · obtain ⟨e, he⟩ := contains_iff.mp hTaken
        rw [← hc, he]
        rfl
      · simp [hc]
  · rw [register_of_not_isSourceName hName]
    dsimp only
    by_cases hc : c.name = name
    · have hInvalid : ¬ isSourceName name = true := fun h => hName (hc ▸ isSourceName_iff.mp h)
      simp [hInvalid]
    · simp [hc]

/-- After calls a valid name has the entry of the first call for it. -/
theorem registered?_ofCalls (calls : List Registered) (name : String) :
    (ofCalls calls).registered? name =
      if isSourceName name = true then calls.find? (·.name == name) else none := by
  -- by induction on the calls from the first to the last
  induction calls using List.reverseRecOn with
  | nil => simp [ofCalls, empty, registered?]
  | append_singleton calls c ih =>
    rw [ofCalls_concat, registered?_call, ih, List.find?_append]
    by_cases hName : isSourceName name = true
    · by_cases hc : c.name = name <;> simp [hName, hc]
    · simp [hName]

theorem registered?_ofCalls_eq_some_iff {calls : List Registered} {name : String} {e : Registered} :
    (ofCalls calls).registered? name = some e ↔
      IsSourceName name ∧ calls.find? (·.name == name) = some e := by
  rw [registered?_ofCalls, ← isSourceName_iff]
  split <;> simp_all

theorem mem_names_ofCalls {calls : List Registered} {name : String} :
    name ∈ (ofCalls calls).names ↔ IsSourceName name ∧ ∃ c ∈ calls, c.name = name := by
  rw [mem_names_iff]
  constructor
  · rintro ⟨e, hEntry⟩
    obtain ⟨hName, hFirst⟩ := registered?_ofCalls_eq_some_iff.mp hEntry
    exact ⟨hName, e, List.mem_of_find?_eq_some hFirst, name_of_registered? hEntry⟩
  · rintro ⟨hName, c, hMem, rfl⟩
    rcases hFirst : calls.find? (·.name == c.name) with _ | e
    · exact absurd (List.find?_eq_none.mp hFirst c hMem) (by simp)
    · exact ⟨e, registered?_ofCalls_eq_some_iff.mpr ⟨hName, hFirst⟩⟩

/-- Some call among these registered the name. -/
def Succeeded (calls : List Registered) (name : String) : Prop :=
  ∃ before c after more, calls = before ++ c :: after ∧ c.name = name ∧
    (ofCalls before).register c.name c.source = .ok more

/-- A name is taken exactly if some call registered it. -/
theorem contains_ofCalls_iff {calls : List Registered} {name : String} :
    (ofCalls calls).contains name = true ↔ Succeeded calls name := by
  rw [contains, List.contains_iff_mem, mem_names_ofCalls]
  constructor
  · rintro ⟨hName, c, hMem, rfl⟩
    rcases hFirst : calls.find? (·.name == c.name) with _ | first
    · exact absurd (List.find?_eq_none.mp hFirst c hMem) (by simp)
    · -- the first call for the name found it free
      obtain ⟨hFound, before, after, rfl, hBefore⟩ := List.find?_eq_some_iff_append.mp hFirst
      have hSame : first.name = c.name := by simpa using hFound
      have hFree : (ofCalls before).contains first.name = false := by
        rw [Bool.eq_false_iff, ne_eq, contains, List.contains_iff_mem, mem_names_ofCalls]
        rintro ⟨-, d, hd, hTaken⟩
        exact absurd (hBefore d hd) (by simp [hTaken, hSame])
      obtain ⟨more, hMore, -⟩ := register_of_free (hSame ▸ hName) hFree first.source
      exact ⟨before, first, after, more, rfl, hSame, hMore⟩
  · rintro ⟨before, c, after, more, rfl, rfl, hMore⟩
    refine ⟨?_, c, by simp, rfl⟩
    by_contra hName
    rw [register_of_not_isSourceName hName] at hMore
    cases hMore

/-- Among calls for different names, the first call for a name is the only one. -/
theorem find?_name_eq_some_iff {calls : List Registered} (hNames : (calls.map (·.name)).Nodup)
    {name : String} {c : Registered} :
    calls.find? (·.name == name) = some c ↔ c ∈ calls ∧ c.name = name := by
  constructor
  · intro hFound
    exact ⟨List.mem_of_find?_eq_some hFound, by simpa using List.find?_some hFound⟩
  · rintro ⟨hMem, rfl⟩
    rcases hFound : calls.find? (·.name == c.name) with _ | d
    · exact absurd (List.find?_eq_none.mp hFound c hMem) (by simp)
    · have hSame : d.name = c.name := by simpa using List.find?_some hFound
      have hOne := List.inj_on_of_nodup_map hNames (List.mem_of_find?_eq_some hFound) hMem hSame
      rw [hFound, hOne]

/-- Calls for different names may come in any order. -/
theorem ofCalls_perm {calls others : List Registered} (hPerm : calls.Perm others)
    (hNames : (calls.map (·.name)).Nodup) : ofCalls calls = ofCalls others := by
  have hOthers : (others.map (·.name)).Nodup := (hPerm.map (·.name)).nodup_iff.mp hNames
  refine eq_of_registered?_eq fun name => Option.ext fun c => ?_
  rw [registered?_ofCalls_eq_some_iff, registered?_ofCalls_eq_some_iff,
    find?_name_eq_some_iff hNames, find?_name_eq_some_iff hOthers, hPerm.mem_iff]

/-! ## What is told of a registry -/

/-- What a call answers after others, by the name alone. -/
theorem register_ofCalls (calls : List Registered) (c : Registered) :
    (¬ IsSourceName c.name →
      (ofCalls calls).register c.name c.source = .error (.invalidName c.name)) ∧
    (IsSourceName c.name → Succeeded calls c.name →
      (ofCalls calls).register c.name c.source = .error (.duplicate c.name)) ∧
    (IsSourceName c.name → ¬ Succeeded calls c.name →
      (ofCalls calls).register c.name c.source = .ok (ofCalls (calls ++ [c]))) := by
  refine ⟨fun hName => register_of_not_isSourceName hName _, fun hName hTaken => ?_,
    fun hName hFree => ?_⟩
  · exact register_of_contains hName (contains_ofCalls_iff.mpr hTaken) _
  · rw [← contains_ofCalls_iff, Bool.not_eq_true] at hFree
    obtain ⟨more, hMore, -⟩ := register_of_free hName hFree c.source
    rw [ofCalls_concat, call, hMore]

/-- A call that fails leaves the registry as it is. -/
theorem ofCalls_concat_of_error {calls : List Registered} {c : Registered} {e : RegistryError}
    (hError : (ofCalls calls).register c.name c.source = .error e) :
    ofCalls (calls ++ [c]) = ofCalls calls := by
  rw [ofCalls_concat, call, hError]

/-- A registry keeps the first source of each valid name, whatever is registered.

Each call is refused for an invalid name, else for a name that an earlier call registered, and
works otherwise; a refused call changes nothing.  Afterwards the names increase byte by byte and
are the valid ones among the calls; whatever is told of a name is that of its first call; and calls
for different names may come in any order. -/
theorem ofCalls_first_wins (calls : List Registered) :
    -- what one more call answers
    (∀ c : Registered,
      let answer := (ofCalls calls).register c.name c.source
      (∀ s, (((ofCalls calls).enroll c.name c.source).result s).1 = answer) ∧
      (answer = .error (.invalidName c.name) ↔ ¬ IsSourceName c.name) ∧
      (IsSourceName c.name →
        (answer = .error (.duplicate c.name) ↔ Succeeded calls c.name) ∧
        (¬ Succeeded calls c.name → answer = .ok (ofCalls (calls ++ [c])))) ∧
      (∀ e, answer = .error e → ofCalls (calls ++ [c]) = ofCalls calls)) ∧
    -- the names, in order, and what is told with them
    ((ofCalls calls).names.map Utf8.encode).Pairwise (· < ·) ∧
    (∀ name, name ∈ (ofCalls calls).names ↔ IsSourceName name ∧ ∃ c ∈ calls, c.name = name) ∧
    (ofCalls calls).describe.map Prod.fst = (ofCalls calls).names ∧
    (∀ name about, (name, about) ∈ (ofCalls calls).describe →
      ∃ c, calls.find? (·.name == name) = some c ∧ c.source.about = about) ∧
    (ofCalls calls).size = (ofCalls calls).names.length ∧
    -- what is found under a name
    (∀ name,
      ((ofCalls calls).contains name = true ↔ name ∈ (ofCalls calls).names) ∧
      (name ∈ (ofCalls calls).names ↔ ∃ source, (ofCalls calls).find name = .ok source) ∧
      (∀ source, (ofCalls calls).find name = .ok source →
        ∃ c, calls.find? (·.name == name) = some c ∧ c.source = source) ∧
      (name ∉ (ofCalls calls).names →
        (ofCalls calls).find name = .error (.notRegistered name))) ∧
    (∀ others, calls.Perm others → (calls.map (·.name)).Nodup →
      ofCalls others = ofCalls calls) := by
  refine ⟨fun c => ⟨?_, ?_, fun hName => ⟨?_, ?_⟩, ?_⟩, pairwise_encode_names _,
    fun name => mem_names_ofCalls, ?_, ?_, ?_, fun name => ⟨?_, mem_names_iff_find, ?_, ?_⟩, ?_⟩
  · exact fun s => by rw [result_enroll]
  · obtain ⟨hInvalid, hDuplicate, hOk⟩ := register_ofCalls calls c
    refine ⟨fun hAnswer hName => ?_, hInvalid⟩
    by_cases hTaken : Succeeded calls c.name
    · rw [hDuplicate hName hTaken] at hAnswer
      exact nomatch hAnswer
    · rw [hOk hName hTaken] at hAnswer
      exact nomatch hAnswer
  · obtain ⟨-, hDuplicate, hOk⟩ := register_ofCalls calls c
    refine ⟨fun hAnswer => ?_, hDuplicate hName⟩
    by_contra hFree
    rw [hOk hName hFree] at hAnswer
    exact nomatch hAnswer
  · exact (register_ofCalls calls c).2.2 hName
  · exact fun e hError => ofCalls_concat_of_error hError
  · simp [describe, names]
  · intro name about hMem
    obtain ⟨c, hEntry, hAbout⟩ := mem_describe_iff.mp hMem
    exact ⟨c, (registered?_ofCalls_eq_some_iff.mp hEntry).2, hAbout⟩
  · simp [size, names]
  · rw [contains, List.contains_iff_mem]
  · intro source hFind
    obtain ⟨c, hEntry, hSource⟩ := find_eq_ok_iff.mp hFind
    exact ⟨c, (registered?_ofCalls_eq_some_iff.mp hEntry).2, hSource⟩
  · exact find_of_not_mem_names
  · exact fun others hPerm hNames => (ofCalls_perm hPerm hNames).symm

/-- Of two sources under one name the first stays, a name with a capital letter is refused, and two
names may come in any order. -/
theorem ofCalls_first_wins_sample :
    let calls : List Registered :=
      [⟨"rest", .counting 0 "rest" "first" false⟩, ⟨"csv", .counting 1 "csv" "" true⟩]
    let again : Registered := ⟨"rest", .counting 2 "rest" "second" true⟩
    (ofCalls calls).register "rest" again.source = .error (.duplicate "rest") ∧
      (ofCalls calls).register "Csv" again.source = .error (.invalidName "Csv") ∧
      ofCalls (calls ++ [again]) = ofCalls calls ∧
      ofCalls calls.reverse = ofCalls calls := by
  intro calls again
  obtain ⟨hAnswer, -, -, -, -, -, -, hOrder⟩ := ofCalls_first_wins calls
  have hTaken : Succeeded calls "rest" := contains_ofCalls_iff.mp (by decide)
  have hValid : IsSourceName "rest" := isSourceName_iff.mp (by decide)
  have hInvalid : ¬ IsSourceName "Csv" := fun h => absurd (isSourceName_iff.mpr h) (by decide)
  obtain ⟨-, -, hTold, hKept⟩ := hAnswer again
  have hDuplicate := (hTold hValid).1.mpr hTaken
  refine ⟨hDuplicate, ?_, hKept _ hDuplicate, ?_⟩
  · exact (hAnswer ⟨"Csv", again.source⟩).2.1.mpr hInvalid
  · exact hOrder calls.reverse (List.reverse_perm calls).symm (by decide)

end Registry

end MarketFeed
