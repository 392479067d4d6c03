import ValueTypes.Proofs.Primitive

/-!
The hierarchy of primitives. To lie below is a partial order with `Any` on top, in which classes lie
below nothing but themselves and `Any`. An object still belongs to the classes above its own, as it
carries them with it; apart from that a value belongs to the primitives above the one of its type.
-/
namespace ValueTypes.Primitive

theorem isSubtypeOf_refl (p : Primitive) : p.isSubtypeOf p = true :=
  (isSubtypeOf_iff p p).mpr (.inl rfl)

theorem isSubtypeOf_any (p : Primitive) : p.isSubtypeOf (.builtin .any) = true :=
  (isSubtypeOf_iff p (.builtin .any)).mpr (.inr (.inl rfl))

/-- Nothing lies above `Any`. -/
theorem any_isSubtypeOf_iff (p : Primitive) :
    (builtin .any).isSubtypeOf p = true ↔ p = .builtin .any := by
  rw [isSubtypeOf_iff]
  simp [eq_comm]

theorem numeric_isSubtypeOf_iff (p : Primitive) :
    (builtin .numeric).isSubtypeOf p = true ↔ p = .builtin .numeric ∨ p = .builtin .any := by
  rw [isSubtypeOf_iff]
  simp [eq_comm]

theorem isSubtypeOf_trans {p q r : Primitive} (lower : p.isSubtypeOf q = true)
    (upper : q.isSubtypeOf r = true) : p.isSubtypeOf r = true := by
  rcases (isSubtypeOf_iff p q).mp lower with rfl | rfl | ⟨rfl, number⟩
  · exact upper
  · rw [any_isSubtypeOf_iff] at upper
    exact upper ▸ isSubtypeOf_any p
  · rcases (numeric_isSubtypeOf_iff r).mp upper with rfl | rfl
    · exact lower
    · exact isSubtypeOf_any p

theorem isSubtypeOf_antisymm {p q : Primitive} (up : p.isSubtypeOf q = true)
    (down : q.isSubtypeOf p = true) : p = q := by
  rcases (isSubtypeOf_iff p q).mp up with rfl | rfl | ⟨rfl, number⟩
  · rfl
  · exact (any_isSubtypeOf_iff p).mp down
  · rcases (numeric_isSubtypeOf_iff p).mp down with rfl | rfl
    · rfl
    · simp at number

/-- A class lies below no other. -/
theorem ofClass_isSubtypeOf_iff (c d : ClassName) :
    (ofClass c).isSubtypeOf (.ofClass d) = true ↔ c = d := by
  rw [isSubtypeOf_iff]
  simp

theorem isA_object_iff (c d : ClassName) (ancestors : List ClassName)
    (fields : List (String × Value)) :
    (Value.object d ancestors fields).isA c = true ↔ d = c ∨ c ∈ ancestors := by
  simp [Value.isA]

/-- Only for an object and a class does more count than the primitive of the value's type. -/
theorem isInstance_iff (p : Primitive) (v : Value) :
    p.isInstance v = true ↔ (of v).isSubtypeOf p = true ∨
      ∃ c d ancestors fields, v = .object d ancestors fields ∧ p = .ofClass c ∧ c ∈ ancestors := by
  cases p with
  | builtin b => simp [isInstance_builtin]
  | ofClass c =>
    cases v with
    | object d ancestors fields =>
      rw [isInstance, isA_object_iff, of, ofClass_isSubtypeOf_iff]
      constructor
      · exact Or.imp_right fun above => ⟨c, d, ancestors, fields, rfl, rfl, above⟩
      · rintro (own | ⟨_, _, _, _, object, primitive, above⟩)
        · exact .inl own
        · cases object
          cases primitive
          exact .inr above
    | _ => simp [isInstance]

theorem isInstance_of (v : Value) : (of v).isInstance v = true :=
  (isInstance_iff (of v) v).mpr (.inl (isSubtypeOf_refl (of v)))

/-- Primitives are ordered, and what belongs to one is fixed by the order and by the classes an object
has above its own. -/
theorem hierarchy_coherent :
    ((∀ p : Primitive, p.isSubtypeOf p = true) ∧
      (∀ p q : Primitive, p.isSubtypeOf q = true → q.isSubtypeOf p = true → p = q) ∧
      (∀ p q r : Primitive,
        p.isSubtypeOf q = true → q.isSubtypeOf r = true → p.isSubtypeOf r = true) ∧
      ∀ p : Primitive, p.isSubtypeOf (.builtin .any) = true) ∧
    (∀ (p : Primitive) (v : Value), p.isInstance v = true ↔ (of v).isSubtypeOf p = true ∨
      ∃ c d ancestors fields, v = .object d ancestors fields ∧ p = .ofClass c ∧ c ∈ ancestors) ∧
    (∀ v : Value, (of v).isInstance v = true) ∧
    ∀ (p q : Primitive) (v : Value),
      p.isInstance v = true → p.isSubtypeOf q = true → q.isInstance v = true := by
  have order := fun p q : Primitive => @isSubtypeOf_antisymm p q
  have chain := fun p q r : Primitive => @isSubtypeOf_trans p q r
  refine ⟨⟨isSubtypeOf_refl, order, chain, isSubtypeOf_any⟩, isInstance_iff, isInstance_of, ?_⟩
  intro p q v inst below
  exact isInstance_of_isSubtypeOf below inst

/-- A circle is a shape, though the class of circles does not lie below that of shapes. -/
theorem hierarchy_coherent_circle :
    let circle : ClassName := ⟨"Geo::Circle", by decide⟩
    let shape : ClassName := ⟨"Geo::Shape", by decide⟩
    let v : Value := .object circle [shape] []
    (ofClass shape).isInstance v = true ∧ (of v).isSubtypeOf (.ofClass shape) = false ∧
      ((builtin .integer).isSubtypeOf (.builtin .numeric) = true ∧
        (builtin .integer).isInstance (.int 5) = true) ∧
      (builtin .numeric).isInstance (.int 5) = true ∧
      (builtin .integer).isSubtypeOf (.builtin .any) = true := by
  intro circle shape v
  have below : (builtin .integer).isSubtypeOf (.builtin .numeric) = true := rfl
  have inst : (builtin .integer).isInstance (.int 5) = true := rfl
  have above : (builtin .numeric).isSubtypeOf (.builtin .any) = true := rfl
  have ancestor : shape ∈ [shape] := List.mem_singleton.mpr rfl
  obtain ⟨⟨-, -, chain, -⟩, instances, -, upward⟩ := hierarchy_coherent
  have other : (ofClass shape).isInstance v = true :=
    (instances _ v).mpr (.inr ⟨shape, circle, [shape], [], rfl, rfl, ancestor⟩)
  refine ⟨other, ?_, ⟨below, inst⟩, upward _ _ _ inst below, chain _ _ _ below above⟩
  decide

end ValueTypes.Primitive
