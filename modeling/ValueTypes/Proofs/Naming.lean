import ValueTypes.Primitive.Document
import ValueTypes.Proofs.Primitive
import ValueTypes.Proofs.Written

namespace ValueTypes

theorem ClassName.name_ne_builtin (c : ClassName) (b : Builtin) : c.name ≠ b.name := by
  intro same
  have unnamed := c.builtin_named?_name
  rw [same, b.named?_name] at unnamed
  cases unnamed

namespace Primitive

/-- Looking a name up is the inverse of having it. -/
theorem named_eq_ok_iff_name (s : String) (p : Primitive) : named s = .ok p ↔ p.name = s := by
  rw [named_eq_ok_iff]
  constructor
  · exact name_of_named?
  · rintro rfl
    exact p.named?_name

theorem name_inj {p q : Primitive} : p.name = q.name ↔ p = q := by
  rw [← named_eq_ok_iff_name, (named_eq_ok_iff_name q.name q).mpr rfl, Except.ok.injEq]
  exact eq_comm

theorem name_of (v : Value) : (of v).name = v.typeName := by
  cases v <;> rfl

theorem ofJson_toJson (p : Primitive) : ofJson p.toJson = .ok p :=
  (named_eq_ok_iff_name p.name p).mpr rfl

theorem read_of_written {p : Primitive} {s : String}
    (written : s = p.toJson.compact ∨ s = p.toJson.pretty) : read s = .ok p := by
  have plain : Json.Plain p.toJson := .string p.name
  have document : Json.read s = some p.toJson := by
    rw [Json.read, plain.readWithin Json.maxDepth written]
    exact if_pos (Nat.zero_le _)
  rw [read, document]
  exact p.ofJson_toJson

/-- Names and primitives go one to one, in lookups, in documents and in the types of values. -/
theorem names_identify :
    (∀ (s : String) (p : Primitive), named s = .ok p ↔ p.name = s) ∧
      (∀ p q : Primitive, p = q ↔ p.name = q.name) ∧
      (∀ p : Primitive, ofJson p.toJson = .ok p ∧
        read p.toJson.compact = .ok p ∧ read p.toJson.pretty = .ok p) ∧
      (∀ v : Value, named v.typeName = .ok (of v)) ∧
      ∀ (c : ClassName) (as : List ClassName) (fs : List (String × Value)) (b : Builtin),
        (Value.object c as fs).typeName ≠ b.name := by
  refine ⟨named_eq_ok_iff_name, fun p q => name_inj.symm, ?_, ?_, ?_⟩
  · intro p
    exact ⟨p.ofJson_toJson, read_of_written (.inl rfl), read_of_written (.inr rfl)⟩
  · intro v
    exact (named_eq_ok_iff_name _ _).mpr (name_of v)
  · intro c _ _ b
    exact c.name_ne_builtin b

end Primitive
end ValueTypes
