import ValueTypes.Constant.Calls

/-!
The notice on the legacy name. However the lookups in one state come one after the other or between each
other's steps, the notice is given once if the legacy name is among the names, by the lookup that sets the
flag first, and what a lookup answers depends on its name alone.
-/
namespace ValueTypes.Deprecations

/- One lookup after the other. -/

def after (d : Deprecations) (names : List String) : Deprecations :=
  names.foldl (fun d name => (d.lookup name).2.1) d

def logged (d : Deprecations) : List String → List Log
  | [] => []
  | name :: names => (d.lookup name).2.2 ++ logged (d.lookup name).2.1 names

theorem lookup_legacy (d : Deprecations) :
    d.lookup legacyName = (some .nominal, ⟨true⟩, if d.warned then [] else [notice]) := rfl

theorem lookup_current (d : Deprecations) {name : String} (current : name ≠ legacyName) :
    d.lookup name = (Kind.named? name, d, []) := if_neg current

theorem lookup_fst (d : Deprecations) (name : String) :
    (d.lookup name).1 = (({} : Deprecations).lookup name).1 := by
  by_cases legacy : name = legacyName
  · rw [legacy, lookup_legacy, lookup_legacy]
  · rw [lookup_current d legacy, lookup_current {} legacy]

theorem warned_lookup (d : Deprecations) (name : String) :
    (d.lookup name).2.1.warned = true ↔ d.warned = true ∨ legacyName = name := by
  by_cases legacy : name = legacyName
  · simp [legacy, lookup_legacy]
  · simp [lookup_current d legacy, Ne.symm legacy]

theorem warned_after (d : Deprecations) (names : List String) :
    (d.after names).warned = true ↔ d.warned = true ∨ legacyName ∈ names := by
  induction names generalizing d with
  | nil => simp [after]
  | cons name names ih => rw [after, List.foldl_cons, ← after, ih, warned_lookup, List.mem_cons, or_assoc]

theorem logged_eq (d : Deprecations) (names : List String) :
    d.logged names = if d.warned = false ∧ legacyName ∈ names then [notice] else [] := by
  induction names generalizing d with
  | nil => simp [logged]
  | cons name names ih =>
    by_cases legacy : name = legacyName
    · cases d with
      | mk warned => cases warned <;> simp [logged, ih, legacy, lookup_legacy]
    · simp [logged, ih, lookup_current d legacy, Ne.symm legacy]

/- Steps of several lookups. -/

/-- A lookup whose steps nothing comes between is a lookup in one go. -/
theorem step_step (d : Deprecations) (name : String) :
    let first := (Call.asked name).step d
    let second := first.1.step first.2.1
    (second.1, second.2.1, first.2.2 ++ second.2.2) =
      (.answered (d.lookup name).1, (d.lookup name).2) := by
  by_cases legacy : name = legacyName
  · subst legacy
    rfl
  · simp [Call.step, legacy, lookup_current d legacy]

/-- How far a lookup has come with so many steps. Of those of the legacy name one set the flag first. -/
def Call.reached (name : String) (first : Bool) : Nat → Call
  | 0 => .asked name
  | 1 => if name = legacyName then .swapped (!first) else .answered (Kind.named? name)
  | _ => .answered (({} : Deprecations).lookup name).1

theorem Call.step_reached {d : Deprecations} {name : String} {first : Bool} {n : Nat}
    (set : name = legacyName → d.warned = true) (own : first = true → name = legacyName ∧ n ≠ 0) :
    (reached name first n).step d =
      (reached name first (n + 1), d, if first = true ∧ n = 1 then [notice] else []) := by
  by_cases legacy : name = legacyName
  · subst legacy
    obtain ⟨warned⟩ := d
    obtain rfl : warned = true := set rfl
    rcases n with _ | _ | n
    · have later : first = false := by
        cases first with
        | true => exact absurd rfl (own rfl).2
        | false => rfl
      simp [reached, step, later]
    · cases first <;> simp [reached, step, lookup_legacy]
    · simp [reached, step]
  · have later : first = false := by
      cases first with
      | true => exact absurd (own rfl).1 legacy
      | false => rfl
    rcases n with _ | _ | n <;> simp [reached, step, legacy, later, lookup_current {} legacy]

theorem Call.of_reached_eq_answered {name : String} {first : Bool} {n : Nat} {kind : Option Kind}
    (answered : reached name first n = .answered kind) :
    kind = (({} : Deprecations).lookup name).1 ∧ (name = legacyName → 2 ≤ n) := by
  rcases n with _ | _ | n
  · cases answered
  · by_cases legacy : name = legacyName
    · rw [reached, if_pos legacy] at answered
      cases answered
    · rw [reached, if_neg legacy] at answered
      cases answered
      exact ⟨by rw [lookup_current {} legacy], fun same => absurd same legacy⟩
  · cases answered
    exact ⟨rfl, fun _ => Nat.le_add_left 2 n⟩

theorem Call.reached_of_two_le {name : String} {first : Bool} {n : Nat} (twice : 2 ≤ n) :
    reached name first n = .answered (({} : Deprecations).lookup name).1 := by
  obtain ⟨k, rfl⟩ := Nat.exists_eq_add_of_le' twice
  rfl

/-- The lookup that sets the flag first, which it does in its first step. -/
def firstSwap? (names : List String) (schedule : List Nat) : Option Nat :=
  schedule.find? fun i => names[i]? = some legacyName

theorem of_firstSwap? {names : List String} {schedule : List Nat} {i : Nat}
    (first : firstSwap? names schedule = some i) : i ∈ schedule ∧ names[i]? = some legacyName :=
  ⟨List.mem_of_find?_eq_some first, by simpa using List.find?_some first⟩

theorem isSome_firstSwap? (names : List String) (schedule : List Nat) :
    (firstSwap? names schedule).isSome = true ↔ ∃ i ∈ schedule, names[i]? = some legacyName := by
  simp [firstSwap?]

/-- With one step more the first to set the flag is the same, unless nobody had set it. -/
theorem firstSwap?_snoc (names : List String) (schedule : List Nat) (i : Nat) :
    firstSwap? names (schedule ++ [i]) = firstSwap? names schedule ∨
      firstSwap? names schedule = none ∧ names[i]? = some legacyName ∧
        firstSwap? names (schedule ++ [i]) = some i := by
  have alone : firstSwap? names [i] = if names[i]? = some legacyName then some i else none := by
    simp [firstSwap?]
  have joined : firstSwap? names (schedule ++ [i]) =
      (firstSwap? names schedule).or (firstSwap? names [i]) := List.find?_append
  rw [joined, alone]
  cases firstSwap? names schedule with
  | some w => exact .inl rfl
  | none =>
    by_cases legacy : names[i]? = some legacyName
    · exact .inr ⟨rfl, legacy, if_pos legacy⟩
    · exact .inl (if_neg legacy)

theorem count_snoc (schedule : List Nat) (i j : Nat) :
    (schedule ++ [i]).count j = schedule.count j + if i = j then 1 else 0 := by
  simp [List.count_append, List.count_singleton]

/-- The notice, if the lookup to give it has taken both of its steps. -/
def given (first : Option Nat) (schedule : List Nat) : List (Nat × Log) :=
  first.toList.flatMap fun i => if 2 ≤ schedule.count i then [(i, notice)] else []

theorem given_snoc (first : Option Nat) (schedule : List Nat) (i : Nat) :
    given first (schedule ++ [i]) = given first schedule ++
      if first = some i ∧ schedule.count i = 1 then [(i, notice)] else [] := by
  cases first with
  | none => simp [given]
  | some w =>
    by_cases own : w = i
    · subst own
      have once : schedule.count w = 1 ∨ schedule.count w ≠ 1 ∧
          (2 ≤ schedule.count w + 1 ↔ 2 ≤ schedule.count w) := by omega
      rcases once with once | ⟨other, same⟩
      · simp [given, once]
      · simp [given, other, same]
    · simp [given, own, Ne.symm own]

theorem mem_given_iff {first : Option Nat} {schedule : List Nat} (e : Nat × Log) :
    e ∈ given first schedule ↔ e.2 = notice ∧ first = some e.1 ∧ 2 ≤ schedule.count e.1 := by
  obtain ⟨i, l⟩ := e
  rw [given, List.mem_flatMap]
  constructor
  · rintro ⟨w, is_first, within⟩
    by_cases twice : 2 ≤ schedule.count w
    · rw [if_pos twice, List.mem_singleton, Prod.mk.injEq] at within
      obtain ⟨rfl, rfl⟩ := within
      exact ⟨rfl, Option.mem_toList.mp is_first, twice⟩
    · rw [if_neg twice] at within
      exact absurd within List.not_mem_nil
  · rintro ⟨rfl, is_first, twice⟩
    refine ⟨i, Option.mem_toList.mpr is_first, ?_⟩
    rw [if_pos twice]
    exact List.mem_singleton_self _

theorem length_given_le (first : Option Nat) (schedule : List Nat) :
    (given first schedule).length ≤ 1 := by
  cases first with
  | none => exact Nat.zero_le 1
  | some w => by_cases twice : 2 ≤ schedule.count w <;> simp [given, twice]

namespace Run

theorem step_of_some {r : Run} {i : Nat} {c : Call} (under_way : r.calls[i]? = some c) :
    r.step i = ⟨(c.step r.state).2.1, r.calls.set i (c.step r.state).1,
      r.log ++ (c.step r.state).2.2.map (i, ·)⟩ := by
  rw [step, under_way]

theorem step_of_none {r : Run} {i : Nat} (missing : r.calls[i]? = none) : r.step i = r := by
  rw [step, missing]

/-- What a run has come to with the steps of a schedule. -/
structure Follows (names : List String) (schedule : List Nat) (r : Run) : Prop where
  warned : r.state.warned = (firstSwap? names schedule).isSome
  calls : ∀ i, r.calls[i]? = names[i]?.map fun name =>
    Call.reached name (firstSwap? names schedule = some i) (schedule.count i)
  log : r.log = given (firstSwap? names schedule) schedule

theorem follows_start (names : List String) : Follows names [] (start names) where
  warned := rfl
  calls i := by simp [start, Call.reached]
  log := rfl

variable {names : List String} {schedule : List Nat} {r : Run}

theorem calls_step_self {i : Nat} {c : Call} (under_way : r.calls[i]? = some c) :
    (r.step i).calls[i]? = some (c.step r.state).1 := by
  have inside : i < r.calls.length := (List.getElem?_eq_some_iff.mp under_way).1
  rw [step_of_some under_way, List.getElem?_set_self inside]

/-- How far the other lookups have come is not changed by a step. -/
theorem calls_step_of_ne {i j : Nat} (other : i ≠ j) : (r.step i).calls[j]? = r.calls[j]? := by
  cases under_way : r.calls[i]? with
  | none => rw [step_of_none under_way]
  | some c => rw [step_of_some under_way, List.getElem?_set_ne other]

/-- It is enough to look at the lookup that takes the step. -/
theorem Follows.calls_snoc (h : Follows names schedule r) {i : Nat}
    (others : ∀ j, i ≠ j →
      (firstSwap? names (schedule ++ [i]) = some j ↔ firstSwap? names schedule = some j))
    (own : (r.step i).calls[i]? = names[i]?.map fun name => Call.reached name
      (firstSwap? names (schedule ++ [i]) = some i) (schedule.count i + 1)) (j : Nat) :
    (r.step i).calls[j]? = names[j]?.map fun name => Call.reached name
      (firstSwap? names (schedule ++ [i]) = some j) ((schedule ++ [i]).count j) := by
  by_cases other : i = j
  · subst other
    rw [own, count_snoc, if_pos rfl]
  · rw [calls_step_of_ne other, h.calls, decide_eq_decide.mpr (others j other), count_snoc,
      if_neg other, Nat.add_zero]

/-- A step under a number that no lookup has changes nothing. -/
theorem Follows.step_missing (h : Follows names schedule r) {i : Nat} (nobody : names[i]? = none) :
    Follows names (schedule ++ [i]) (r.step i) := by
  have missing : r.calls[i]? = none := by rw [h.calls, nobody, Option.map_none]
  have other : firstSwap? names schedule ≠ some i := fun found =>
    absurd (nobody.symm.trans (of_firstSwap? found).2) (by simp)
  have same : firstSwap? names (schedule ++ [i]) = firstSwap? names schedule := by
    rcases firstSwap?_snoc names schedule i with same | ⟨-, legacy, -⟩
    · exact same
    · exact absurd (nobody.symm.trans legacy) (by simp)
  refine ⟨?_, h.calls_snoc (fun j _ => by rw [same]) ?_, ?_⟩
  · rw [step_of_none missing, same]
    exact h.warned
  · rw [step_of_none missing, missing, nobody, Option.map_none]
  · rw [step_of_none missing, same, given_snoc, if_neg (fun gives => other gives.1), List.append_nil]
    exact h.log

/-- Here the flag was set before, or the name is another one. -/
theorem Follows.step_of_same (h : Follows names schedule r) {i : Nat} {name : String}
    (asked : names[i]? = some name)
    (same : firstSwap? names (schedule ++ [i]) = firstSwap? names schedule) :
    Follows names (schedule ++ [i]) (r.step i) := by
  let first : Bool := firstSwap? names schedule = some i
  have under_way : r.calls[i]? = some (Call.reached name first (schedule.count i)) := by
    rw [h.calls, asked]
    rfl
  have set : name = legacyName → r.state.warned = true := by
    rintro rfl
    rw [h.warned, ← same, isSome_firstSwap?]
    exact ⟨i, by simp, asked⟩
  have own : first = true → name = legacyName ∧ schedule.count i ≠ 0 := by
    intro found
    obtain ⟨before, legacy⟩ := of_firstSwap? (of_decide_eq_true found)
    exact ⟨Option.some.inj (asked.symm.trans legacy), Nat.ne_of_gt (List.count_pos_iff.mpr before)⟩
  have taken := Call.step_reached set own
  refine ⟨?_, h.calls_snoc (fun j _ => by rw [same]) ?_, ?_⟩
  · rw [step_of_some under_way, taken, same]
    exact h.warned
  · rw [calls_step_self under_way, taken, asked, same]
    rfl
  · rw [step_of_some under_way, taken, same, given_snoc, h.log]
    simp only [first, decide_eq_true_eq, apply_ite (List.map _), List.map_cons, List.map_nil]

theorem Follows.step_of_first (h : Follows names schedule r) {i : Nat}
    (unset : firstSwap? names schedule = none) (legacy : names[i]? = some legacyName)
    (first : firstSwap? names (schedule ++ [i]) = some i) :
    Follows names (schedule ++ [i]) (r.step i) := by
  have fresh : schedule.count i = 0 := by
    refine List.count_eq_zero.mpr fun before => ?_
    have found := (isSome_firstSwap? names schedule).mpr ⟨i, before, legacy⟩
    rw [unset] at found
    cases found
  have under_way : r.calls[i]? = some (.asked legacyName) := by
    rw [h.calls, legacy, fresh]
    rfl
  have clear : r.state.warned = false := by
    rw [h.warned, unset]
    rfl
  have taken : Call.step r.state (.asked legacyName) = (.swapped false, ⟨true⟩, []) := by
    simp [Call.step, clear]
  refine ⟨?_, h.calls_snoc (fun j other => by simp [unset, first, other]) ?_, ?_⟩
  · rw [step_of_some under_way, taken, first]
    rfl
  · rw [calls_step_self under_way, taken, legacy, first, fresh]
    simp [Call.reached]
  · rw [step_of_some under_way, taken, h.log, unset, first, given_snoc]
    simp [given, fresh]

theorem Follows.step (h : Follows names schedule r) (i : Nat) :
    Follows names (schedule ++ [i]) (r.step i) := by
  rcases firstSwap?_snoc names schedule i with same | ⟨unset, legacy, first⟩
  · cases asked : names[i]? with
    | none => exact h.step_missing asked
    | some name => exact h.step_of_same asked same
  · exact h.step_of_first unset legacy first

theorem Follows.steps (h : Follows names schedule r) (later : List Nat) :
    Follows names (schedule ++ later) (r.steps later) := by
  induction later generalizing schedule r with
  | nil => rwa [List.append_nil]
  | cons i later ih =>
    have next := ih (h.step i)
    rwa [List.append_assoc] at next

theorem follows_steps (names : List String) (schedule : List Nat) :
    Follows names schedule ((start names).steps schedule) :=
  (follows_start names).steps schedule

theorem Follows.exists_of_answered (h : Follows names schedule r) {i : Nat} {kind : Option Kind}
    (answered : r.calls[i]? = some (.answered kind)) :
    ∃ name, names[i]? = some name ∧ kind = (({} : Deprecations).lookup name).1 := by
  rw [h.calls, Option.map_eq_some_iff] at answered
  obtain ⟨name, asked, reached⟩ := answered
  exact ⟨name, asked, (Call.of_reached_eq_answered reached).1⟩

theorem Follows.answered_of_two_steps (h : Follows names schedule r) {i : Nat} {name : String}
    (asked : names[i]? = some name) (twice : 2 ≤ schedule.count i) :
    r.calls[i]? = some (.answered (({} : Deprecations).lookup name).1) := by
  rw [h.calls, asked, Option.map_some, Call.reached_of_two_le twice]

theorem Follows.two_steps_of_answered (h : Follows names schedule r)
    (answered : ∀ c ∈ r.calls, ∃ kind, c = .answered kind) {i : Nat}
    (legacy : names[i]? = some legacyName) : 2 ≤ schedule.count i := by
  have under_way := h.calls i
  rw [legacy, Option.map_some] at under_way
  obtain ⟨kind, reached⟩ := answered _ (List.mem_of_getElem? under_way)
  exact (Call.of_reached_eq_answered reached).2 rfl

/-- Once all lookups have answered, the notice has been given if one was of the legacy name. -/
theorem Follows.length_log_of_answered (h : Follows names schedule r)
    (answered : ∀ c ∈ r.calls, ∃ kind, c = .answered kind) :
    r.log.length = if legacyName ∈ names then 1 else 0 := by
  rw [h.log]
  by_cases legacy : legacyName ∈ names
  · obtain ⟨i, asked⟩ := List.mem_iff_getElem?.mp legacy
    have taken : i ∈ schedule := List.count_pos_iff.mp
      (Nat.lt_of_lt_of_le Nat.two_pos (h.two_steps_of_answered answered asked))
    have swapped := (isSome_firstSwap? names schedule).mpr ⟨i, taken, asked⟩
    obtain ⟨w, first⟩ := Option.isSome_iff_exists.mp swapped
    have twice := h.two_steps_of_answered answered (of_firstSwap? first).2
    simp [given, first, twice, legacy]
  · have nobody : firstSwap? names schedule = none := by
      refine Option.eq_none_iff_forall_ne_some.mpr fun w first => ?_
      exact legacy (List.mem_of_getElem? (of_firstSwap? first).2)
    simp [given, nobody, legacy]

end Run

theorem logs_lookup_after (before : List String) (name : String) :
    ((({} : Deprecations).after before).lookup name).2.2 =
      if name = legacyName ∧ legacyName ∉ before then [notice] else [] := by
  by_cases legacy : name = legacyName
  · have flag : (({} : Deprecations).after before).warned = true ↔ legacyName ∈ before := by
      simp [warned_after]
    simp [legacy, lookup_legacy, flag]
  · simp [lookup_current _ legacy, legacy]

/-- What lookups one after the other in a fresh state come to, and what one more would. -/
structure Sequential (names : List String) : Prop where
  warned : (({} : Deprecations).after names).warned = true ↔ legacyName ∈ names
  answers : ∀ name, ((({} : Deprecations).after names).lookup name).1 =
    (({} : Deprecations).lookup name).1
  emits : ∀ name, ((({} : Deprecations).after names).lookup name).2.2 =
    if name = legacyName ∧ legacyName ∉ names then [notice] else []
  total : ({} : Deprecations).logged names = if legacyName ∈ names then [notice] else []

theorem sequential (names : List String) : Sequential names where
  warned := by simp [warned_after]
  answers := lookup_fst _
  emits := logs_lookup_after names
  total := by simp [logged_eq]

/-- What lookups come to that have taken their steps in the order of a schedule. -/
structure Interleaved (names : List String) (schedule : List Nat) (r : Run) : Prop where
  warned : r.state.warned = true ↔ ∃ i ∈ schedule, names[i]? = some legacyName
  emitted : ∀ e, e ∈ r.log ↔
    e.2 = notice ∧ firstSwap? names schedule = some e.1 ∧ 2 ≤ schedule.count e.1
  once : r.log.length ≤ 1
  answers : ∀ (i : Nat) kind, r.calls[i]? = some (Call.answered kind) →
    ∃ name, names[i]? = some name ∧ kind = (({} : Deprecations).lookup name).1
  answered : ∀ (i : Nat) name, names[i]? = some name → 2 ≤ schedule.count i →
    r.calls[i]? = some (Call.answered (({} : Deprecations).lookup name).1)
  total : (∀ c ∈ r.calls, ∃ kind, c = .answered kind) →
    r.log.length = if legacyName ∈ names then 1 else 0

theorem Run.Follows.interleaved {names : List String} {schedule : List Nat} {r : Run}
    (h : Run.Follows names schedule r) : Interleaved names schedule r where
  warned := by rw [h.warned, isSome_firstSwap?]
  emitted := by
    rw [h.log]
    exact mem_given_iff
  once := by
    rw [h.log]
    exact length_given_le _ schedule
  answers _ _ := h.exists_of_answered
  answered _ _ := h.answered_of_two_steps
  total := h.length_log_of_answered

/-- The notice is a warning. Of lookups one after the other in a fresh state it is given by the first of the
legacy name, and by no other. So it is if lookups take their steps in any order: it is given by the one that
sets the flag first, in its second step. The flag is set if and only if a lookup of the legacy name has taken
its first step, and what a lookup answers depends on its name alone. -/
theorem notice_once :
    notice.level = .warn ∧ (∀ names, Sequential names) ∧
      (∀ names schedule, Interleaved names schedule ((Run.start names).steps schedule)) ∧
      ∀ (d : Deprecations) (name : String),
        let first := (Call.asked name).step d
        let second := first.1.step first.2.1
        (second.1, second.2.1, first.2.2 ++ second.2.2) =
          (.answered (d.lookup name).1, (d.lookup name).2) :=
  ⟨rfl, sequential, fun names schedule => (Run.follows_steps names schedule).interleaved, step_step⟩

/-- Here the last lookup sets the flag first, and the one before it answers first. -/
theorem notice_once_overtaken :
    let r := (Run.start ["Map", legacyName, legacyName]).steps [2, 1, 1, 0, 2]
    (∀ c ∈ r.calls, ∃ kind, c = .answered kind) ∧ r.log.length = 1 ∧ (2, notice) ∈ r.log := by
  intro r
  have answered : ∀ c ∈ r.calls, ∃ kind, c = .answered kind := by
    have calls : r.calls = [.answered (some .map), .answered (some .nominal), .answered (some .nominal)] := by
      decide
    simp [calls]
  obtain ⟨-, -, interleaved, -⟩ := notice_once
  have run := interleaved ["Map", legacyName, legacyName] [2, 1, 1, 0, 2]
  refine ⟨answered, run.total answered, (run.emitted _).mpr ?_⟩
  decide

end ValueTypes.Deprecations
