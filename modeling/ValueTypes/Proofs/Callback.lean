import ValueTypes.Proofs.Acceptance

namespace ValueTypes.TypeDef

variable {M : Type → Type} [Monad M]

/-- The callback, with a list kept of what it is called with. -/
def noted (f : Value → CoercionError → M Outcome) (v : Value) (e : CoercionError) :
    StateT (List (Value × CoercionError)) M Outcome := fun calls => do
  let outcome ← f v e
  return (outcome, calls ++ [(v, e)])

theorem attemptOr_of_accepts {t : TypeDef} {v : Value} (sorted : v.Sorted)
    (accepted : t.accepts v = true) (f : Value → CoercionError → M Outcome) :
    t.attemptOr v f = pure (.success v) := by
  have fits := (accepts_iff_fits t v).mp accepted
  rw [attemptOr, attempt_of_fits fits, apply_eq_self t sorted]

theorem attemptOr_of_failure {t : TypeDef} {v w : Value} {e : CoercionError}
    (failed : t.attempt v = .failure w e) (f : Value → CoercionError → M Outcome) :
    t.attemptOr v f = f w e := by
  rw [attemptOr, failed]

/-- Whatever state the callback keeps and whatever else it does, it runs once, with the whole value and
its error, and decides the outcome, or it does not run. -/
theorem callback_for_whole (t : TypeDef) {v : Value} (sorted : v.Sorted)
    (f : Value → CoercionError → M Outcome) (calls : List (Value × CoercionError)) :
    (t.accepts v = true →
      t.attemptOr v f = pure (.success v) ∧
        (t.attemptOr v (noted f)).run calls = pure (.success v, calls)) ∧
      (t.accepts v = false →
        ∃ e, t.attempt v = .failure v e ∧ t.attemptOr v f = f v e ∧
          (t.attemptOr v (noted f)).run calls =
            (do let outcome ← f v e; return (outcome, calls ++ [(v, e)]))) := by
  constructor
  · intro accepted
    refine ⟨attemptOr_of_accepts sorted accepted f, ?_⟩
    rw [attemptOr_of_accepts sorted accepted (noted f)]
    rfl
  · intro refused
    obtain ⟨e, failed⟩ := attempt_of_not_accepts refused
    refine ⟨e, failed, attemptOr_of_failure failed f, ?_⟩
    rw [attemptOr_of_failure failed (noted f)]
    rfl

theorem callback_for_whole_counted :
    let t := arrayMember {} (map {} (nominal (.builtin .string) {}) (arrayMember {} (array {})))
    let v : Value := .array [.hash [(.str "ann", .nil), (.str "bob", .int 7)], .array [], .nil]
    let f : Value → CoercionError → StateM Nat Outcome := fun w _ => do
      modify (· + 1)
      return .success (.array [w])
    (v.Sorted ∧ t.accepts v = false ∧
      ∃ e, ((t.attemptOr v (noted f)).run []).run 0 = ((.success (.array [v]), [(v, e)]), 1) ∧
        e.errors.length = 3) ∧
      t.accepts (.array []) = true ∧
        ((t.attemptOr (.array []) (noted f)).run []).run 0 = ((.success (.array []), []), 0) := by
  intro t v f
  have sorted : v.Sorted := by
    simp [v, Value.Sorted, Value.SortedItems, Value.SortedEntries, Entries.Ascending, Value.cmp]
    decide
  have refused : t.accepts v = false := rfl
  obtain ⟨e, failed, -, called⟩ := (callback_for_whole t sorted f []).2 refused
  have blank : Value.Sorted (.array []) := trivial
  have accepted : t.accepts (.array []) = true := rfl
  obtain ⟨-, uncalled⟩ := (callback_for_whole t blank f []).1 accepted
  refine ⟨⟨sorted, refused, e, ?_, ?_⟩, accepted, ?_⟩
  · rw [called]
    rfl
  · cases failed
    rfl
  · rw [uncalled]
    rfl

end ValueTypes.TypeDef
