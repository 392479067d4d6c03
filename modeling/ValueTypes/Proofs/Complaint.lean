import ValueTypes.Proofs.Acceptance

/-!
What the message of a failed attempt says. Messages are joined at each level on the way up, and the result
is one list of complaints: an array passes on those about its items, and a hash makes one of those about
an entry, in the order of items and entries.
-/
namespace ValueTypes

def joined? (ms : List String) : Option String :=
  if ms.isEmpty then none else some (", ".intercalate ms)

theorem joined?_eq_none_iff (ms : List String) : joined? ms = none ↔ ms = [] := by
  cases ms <;> simp [joined?]

theorem joined?_of_ne_nil {ms : List String} (filled : ms ≠ []) :
    joined? ms = some (", ".intercalate ms) :=
  if_neg (mt List.isEmpty_iff.mp filled)

theorem joined?_eq_some_iff {ms : List String} {s : String} :
    joined? ms = some s ↔ ms ≠ [] ∧ s = ", ".intercalate ms := by
  by_cases blank : ms = []
  · simp [blank, joined?]
  · rw [joined?_of_ne_nil blank, Option.some.injEq, eq_comm]
    exact (and_iff_right blank).symm

theorem joined?_singleton (m : String) : joined? [m] = some m :=
  congrArg some String.intercalate_singleton

theorem joined?_cons_append {ms ns js : List String} (filled : ms ≠ [])
    (joined : joined? js = joined? ns) : joined? (", ".intercalate ms :: js) = joined? (ms ++ ns) := by
  -- With nothing behind it the first group takes no comma.
  by_cases tail : ns = []
  · rw [tail] at joined
    have blank : js = [] := (joined?_eq_none_iff js).mp joined
    rw [tail, blank, List.append_nil, joined?_singleton, joined?_of_ne_nil filled]
  · rw [joined?_of_ne_nil tail, joined?_eq_some_iff] at joined
    obtain ⟨collected, same⟩ := joined
    rw [joined?_of_ne_nil (List.cons_ne_nil _ _),
      joined?_of_ne_nil (List.append_ne_nil_of_left_ne_nil filled _),
      String.intercalate_cons_of_ne_nil collected, String.intercalate_append_of_ne_nil filled tail,
      same]

/-- Joining groups that are joined already joins what is in them, if those without anything in them are
left out. -/
theorem joined?_filterMap {α : Type} (f : α → List String) (xs : List α) :
    joined? (xs.filterMap fun x => joined? (f x)) = joined? (xs.flatMap f) := by
  induction xs with
  | nil => rfl
  | cons x xs ih =>
    rw [List.flatMap_cons]
    by_cases head : f x = []
    · have unsaid : joined? (f x) = none := (joined?_eq_none_iff _).mpr head
      simp only [List.filterMap_cons, unsaid]
      rw [ih, head, List.nil_append]
    · simp only [List.filterMap_cons, joined?_of_ne_nil head]
      exact joined?_cons_append head ih

namespace TypeDef

/-- Complaints about the key of an entry hide those about the value. -/
def entryComplaints (k v : Value) (atKey atValue : List String) : List String :=
  if atKey ≠ [] then ["input key " ++ k.render ++ " is invalid: " ++ ", ".intercalate atKey]
  else if atValue ≠ [] then
    ["input value " ++ v.render ++ " for key " ++ k.render ++ " is invalid: " ++
      ", ".intercalate atValue]
  else []

def complaints : TypeDef → Value → List String
  | .arrayMember _ m, v =>
    match v with
    | .array vs => vs.flatMap fun w => m.complaints w
    | _ => [v.render ++ " is not an array"]
  | .map _ kt vt, v =>
    match v with
    | .hash es => es.flatMap fun e => entryComplaints e.1 e.2 (kt.complaints e.1) (vt.complaints e.2)
    | _ => [v.render ++ " is not a hash"]
  | _, _ => []

/- The message of a failure, at each way that one is put together. -/

theorem message_settle (v : Value) (errors : List CoercionError) (r : Value) :
    (settle v errors r).error?.map CoercionError.message =
      joined? (errors.map CoercionError.message) := by
  cases errors <;> rfl

theorem messages_itemErrors (tried : List Outcome) :
    (itemErrors tried).map CoercionError.message =
      tried.filterMap fun o => o.error?.map CoercionError.message := by
  have kept : ∀ o : Outcome × Nat, (o.1.error?.map (itemError o.2)).map CoercionError.message =
      o.1.error?.map CoercionError.message := by
    intro o
    rw [Option.map_map]
    rfl
  have places : tried.zipIdx.map Prod.fst = tried := List.zipIdx_map_fst 0 tried
  rw [itemErrors, List.map_filterMap]
  simp only [kept]
  conv => rhs; rw [← places, List.filterMap_map]
  rfl

theorem message_entryError? {k v : Value} {atKey atValue : Outcome} {ks vs : List String}
    (key : atKey.error?.map CoercionError.message = joined? ks)
    (value : atValue.error?.map CoercionError.message = joined? vs) :
    (entryError? k v atKey atValue).map CoercionError.message =
      joined? (entryComplaints k v ks vs) := by
  unfold entryComplaints
  cases atKey with
  | failure w e =>
    obtain ⟨filled, said⟩ := joined?_eq_some_iff.mp key.symm
    rw [if_pos filled, joined?_singleton, ← said]
    rfl
  | success w =>
    have blank : ks = [] := (joined?_eq_none_iff ks).mp key.symm
    rw [if_neg (not_not_intro blank)]
    cases atValue with
    | failure u e =>
      obtain ⟨filled, said⟩ := joined?_eq_some_iff.mp value.symm
      rw [if_pos filled, joined?_singleton, ← said]
      rfl
    | success u =>
      have blank : vs = [] := (joined?_eq_none_iff vs).mp value.symm
      rw [if_neg (not_not_intro blank)]
      rfl

theorem message_attempt (t : TypeDef) (v : Value) :
    (t.attempt v).error?.map CoercionError.message = joined? (t.complaints v) := by
  induction t generalizing v with
  | nominal p l => rfl
  | array l => rfl
  | arrayMember l m ih =>
    cases v with
    | array vs =>
      rw [attempt_array, message_settle, messages_itemErrors, List.filterMap_map]
      simp only [Function.comp_def, ih]
      exact joined?_filterMap ..
    | _ => rfl
  | hash l => rfl
  | map l kt vt ihk ihv =>
    cases v with
    | hash es =>
      have entries : ∀ e : Value × Value,
          (entryError? e.1 e.2 (kt.attempt e.1) (vt.attempt e.2)).map CoercionError.message =
            joined? (entryComplaints e.1 e.2 (kt.complaints e.1) (vt.complaints e.2)) :=
        fun e => message_entryError? (ihk e.1) (ihv e.2)
      rw [attempt_hash, message_settle, entryErrors, tryEntries, List.map_filterMap, List.filterMap_map]
      simp only [Function.comp_def, entries]
      exact joined?_filterMap ..
    | _ => rfl

/-- An attempt fails if and only if there are complaints, and its message lists them. -/
theorem failure_lists_complaints (t : TypeDef) (v : Value) :
    ((t.attempt v).isFailure = true ↔ t.complaints v ≠ []) ∧
      ∀ w e, t.attempt v = .failure w e → e.message = ", ".intercalate (t.complaints v) := by
  have said := message_attempt t v
  cases outcome : t.attempt v with
  | success u =>
    rw [outcome] at said
    have blank : t.complaints v = [] := (joined?_eq_none_iff _).mp said.symm
    refine ⟨iff_of_false Bool.false_ne_true (not_not_intro blank), ?_⟩
    intro w e failed
    cases failed
  | failure u f =>
    rw [outcome] at said
    obtain ⟨filled, joined⟩ := joined?_eq_some_iff.mp said.symm
    refine ⟨iff_of_true rfl filled, ?_⟩
    intro w e failed
    cases failed
    exact joined

theorem failure_lists_complaints_mixed :
    let row := arrayMember {} (nominal (.builtin .any) {})
    let t := map {} row (arrayMember {} row)
    let v : Value := .hash [(.int 1, .int 2), (.array [], .array [.int 3, .array [], .nil])]
    ∃ e, t.attempt v = .failure v e ∧ e.message = "input key 1 is invalid: 1 is not an array, " ++
      "input value [3, [], nil] for key [] is invalid: 3 is not an array, nil is not an array" := by
  intro row t v
  obtain ⟨-, listed⟩ := failure_lists_complaints t v
  obtain ⟨e, failed⟩ : ∃ e, t.attempt v = .failure v e := ⟨_, rfl⟩
  exact ⟨e, failed, (listed v e failed).trans (by decide)⟩

end TypeDef
end ValueTypes
