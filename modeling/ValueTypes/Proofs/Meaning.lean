import ValueTypes.Ast
import ValueTypes.TypeDef.Contract

namespace ValueTypes.TypeDef

/-- The type with nominal leaves and no labels. -/
def bare : TypeDef → TypeDef
  | .arrayMember _ m => .arrayMember {} m.bare
  | .map _ k v => .map {} k.bare v.bare
  | t => .nominal t.primitive {}

/-- Two types have one name and give the same answer to every question about every value. -/
structure Alike (t u : TypeDef) : Prop where
  name : t.name = u.name
  apply : ∀ v, t.apply v = u.apply v
  attempt : ∀ v, t.attempt v = u.attempt v
  accepts : ∀ v, t.accepts v = u.accepts v
  isPrimitive : ∀ v, t.isPrimitive v = u.isPrimitive v
  coerce : ∀ v, t.coerce v = u.coerce v

theorem Alike.symm {t u : TypeDef} (h : Alike t u) : Alike u t where
  name := h.name.symm
  apply v := (h.apply v).symm
  attempt v := (h.attempt v).symm
  accepts v := (h.accepts v).symm
  isPrimitive v := (h.isPrimitive v).symm
  coerce v := (h.coerce v).symm

theorem Alike.trans {t u w : TypeDef} (h : Alike t u) (h' : Alike u w) : Alike t w where
  name := h.name.trans h'.name
  apply v := (h.apply v).trans (h'.apply v)
  attempt v := (h.attempt v).trans (h'.attempt v)
  accepts v := (h.accepts v).trans (h'.accepts v)
  isPrimitive v := (h.isPrimitive v).trans (h'.isPrimitive v)
  coerce v := (h.coerce v).trans (h'.coerce v)

/- Each question reads of a container its member types and of a leaf its primitive, so stripping a
type changes no answer. -/

theorem primitive_bare (t : TypeDef) : t.bare.primitive = t.primitive := by
  cases t <;> rfl

theorem apply_bare (t : TypeDef) (v : Value) : t.bare.apply v = t.apply v := by
  induction t generalizing v with
  | nominal p l => rfl
  | array l => rfl
  | arrayMember l m ih => cases v <;> simp only [bare, apply, ih]
  | hash l => rfl
  | map l kt vt ihk ihv => cases v <;> simp only [bare, apply, ihk, ihv]

theorem attempt_bare (t : TypeDef) (v : Value) : t.bare.attempt v = t.attempt v := by
  induction t generalizing v with
  | nominal p l => rfl
  | array l => rfl
  | arrayMember l m ih => cases v <;> simp only [bare, attempt, ih]
  | hash l => rfl
  | map l kt vt ihk ihv => cases v <;> simp only [bare, attempt, ihk, ihv]

theorem accepts_bare (t : TypeDef) (v : Value) : t.bare.accepts v = t.accepts v := by
  induction t generalizing v with
  | nominal p l => rfl
  | array l => rfl
  | arrayMember l m ih => cases v <;> simp only [bare, accepts, ih]
  | hash l => rfl
  | map l kt vt ihk ihv => cases v <;> simp only [bare, accepts, ihk, ihv]

theorem coerce_bare (t : TypeDef) (v : Value) : t.bare.coerce v = t.coerce v := by
  induction t generalizing v with
  | nominal p l => rfl
  | array l => rfl
  | arrayMember l m ih => simp only [bare, coerce, ih]
  | hash l => rfl
  | map l kt vt ihk ihv => simp only [bare, coerce, ihk, ihv]

theorem alike_bare (t : TypeDef) : Alike t.bare t where
  name := congrArg Primitive.name (primitive_bare t)
  apply := apply_bare t
  attempt := attempt_bare t
  accepts := accepts_bare t
  isPrimitive v := congrArg (Primitive.isInstance · v) (primitive_bare t)
  coerce := coerce_bare t

theorem alike_of_bare_eq {t u : TypeDef} (h : t.bare = u.bare) : Alike t u :=
  (alike_bare t).symm.trans (h ▸ alike_bare u)

/- What is exported keeps the nesting and the primitives of leaves. -/

/-- The kind of a built type is settled by its primitive. -/
theorem build_cases (p : Primitive) (options notes : OptionMap) :
    p = .builtin .array ∧ build p options notes = .array ⟨options, notes⟩ ∨
      p = .builtin .hash ∧ build p options notes = .hash ⟨options, notes⟩ ∨
      (p ≠ .builtin .array ∧ p ≠ .builtin .hash) ∧
        build p options notes = .nominal p ⟨options, notes⟩ := by
  by_cases ha : p = .builtin .array
  · subst ha
    exact .inl ⟨rfl, rfl⟩
  · by_cases hh : p = .builtin .hash
    · subst hh
      exact .inr (.inl ⟨rfl, rfl⟩)
    · refine .inr (.inr ⟨⟨ha, hh⟩, ?_⟩)
      simp [build, Primitive.kind, Primitive.isSequence, Primitive.isMap, ha, hh]

theorem bare_build (p : Primitive) (options notes : OptionMap) :
    (build p options notes).bare = .nominal p {} := by
  obtain ⟨rfl, h⟩ | ⟨rfl, h⟩ | ⟨-, h⟩ := build_cases p options notes <;> rw [h] <;> rfl

theorem bare_relabel (f : Labels → Labels) (t : TypeDef) : (t.relabel f).bare = t.bare := by
  cases t <;> rfl

theorem bare_compile_toAst (withNotes : Bool) (t : TypeDef) :
    (t.toAst withNotes).compile.bare = t.bare := by
  induction t with
  | nominal p l => exact bare_build ..
  | array l => rfl
  | arrayMember l m ih =>
    rw [toAst, Ast.compile, TypeDef.withNotes, bare_relabel]
    simp only [bare, ih]
  | hash l => rfl
  | map l kt vt ihk ihv =>
    rw [toAst, Ast.compile, TypeDef.withNotes, bare_relabel]
    simp only [bare, ihk, ihv]

/-- A type exported, with notes or without, and built again answers as the type itself. -/
theorem alike_compile_toAst (t : TypeDef) (withNotes : Bool) :
    Alike (t.toAst withNotes).compile t :=
  alike_of_bare_eq (bare_compile_toAst withNotes t)

end ValueTypes.TypeDef
