import ValueTypes.Proofs.Canonical

namespace ValueTypes

namespace Ast

/-- The description with no notes on any node. -/
def withoutNotes : Ast → Ast
  | .nominal p _ => .nominal p .empty
  | .array m _ => .array m.withoutNotes .empty
  | .hash options _ => .hash options .empty
  | .map k v _ => .map k.withoutNotes v.withoutNotes .empty

theorem withoutNotes_withoutNotes (a : Ast) : a.withoutNotes.withoutNotes = a.withoutNotes := by
  induction a with
  | nominal p ns => rfl
  | array m ns ih => simp only [withoutNotes, ih]
  | hash options ns => rfl
  | map k v ns ihk ihv => simp only [withoutNotes, ihk, ihv]

/-- Building and exporting again adds no notes: it does not matter when they are taken off. -/
theorem ast_compile_withoutNotes (a : Ast) :
    a.withoutNotes.compile.ast = a.compile.ast.withoutNotes := by
  induction a with
  | nominal p ns =>
    simp only [withoutNotes, compile, TypeDef.build]
    cases p.kind <;> rfl
  | array m ns ih =>
    rw [withoutNotes, compile_array, compile_array, TypeDef.ast_arrayMember, ih]
    rfl
  | hash options ns =>
    rw [withoutNotes, compile_hash, compile_hash]
    rfl
  | map k v ns ihk ihv =>
    rw [withoutNotes, compile_map, compile_map, TypeDef.ast_map, ihk, ihv]
    rfl

end Ast

namespace TypeDef

theorem toAst_false_eq (t : TypeDef) : t.toAst false = t.ast.withoutNotes := by
  induction t with
  | nominal p l => rfl
  | array l => rfl
  | arrayMember l m ih =>
    rw [toAst, ih]
    rfl
  | hash l => rfl
  | map l kt vt ihk ihv =>
    rw [toAst, ihk, ihv]
    rfl

/-- The same type but for the notes of its nodes. -/
inductive SameButNotes : TypeDef → TypeDef → Prop
  | nominal (p : Primitive) (options ns ns' : OptionMap) :
    SameButNotes (.nominal p ⟨options, ns⟩) (.nominal p ⟨options, ns'⟩)
  | array (options ns ns' : OptionMap) : SameButNotes (.array ⟨options, ns⟩) (.array ⟨options, ns'⟩)
  | arrayMember (options ns ns' : OptionMap) {m n : TypeDef} (member : SameButNotes m n) :
    SameButNotes (.arrayMember ⟨options, ns⟩ m) (.arrayMember ⟨options, ns'⟩ n)
  | hash (options ns ns' : OptionMap) : SameButNotes (.hash ⟨options, ns⟩) (.hash ⟨options, ns'⟩)
  | map (options ns ns' : OptionMap) {kt kt' vt vt' : TypeDef} (key : SameButNotes kt kt')
    (value : SameButNotes vt vt') :
    SameButNotes (.map ⟨options, ns⟩ kt vt) (.map ⟨options, ns'⟩ kt' vt')

theorem SameButNotes.toAst_eq {t u : TypeDef} (same : SameButNotes t u) :
    t.toAst false = u.toAst false := by
  induction same with
  | nominal p options ns ns' => rfl
  | array options ns ns' => rfl
  | arrayMember options ns ns' _ ih =>
    rw [toAst, toAst, ih]
    rfl
  | hash options ns ns' => rfl
  | map options ns ns' _ _ ihk ihv =>
    rw [toAst, toAst, ihk, ihv]
    rfl

/-- Without notes a type is exported as with them, less the notes of all nodes. So types that differ in
notes alone are exported alike, and what is built from such a description is exported alike with notes
and without. -/
theorem notes_taken_off (t : TypeDef) :
    t.toAst false = (t.toAst true).withoutNotes ∧
      (∀ u, SameButNotes t u → t.toAst false = u.toAst false) ∧
      (t.toAst false).compile.toAst true = (t.toAst false).compile.toAst false := by
  refine ⟨t.toAst_false_eq, fun u same => same.toAst_eq, ?_⟩
  have exported := Ast.ast_compile_withoutNotes t.ast
  rw [← toAst_false_eq] at exported
  calc (t.toAst false).compile.toAst true
      = t.ast.compile.ast.withoutNotes := exported
    _ = t.ast.compile.ast.withoutNotes.withoutNotes := (Ast.withoutNotes_withoutNotes _).symm
    _ = (t.toAst false).compile.ast.withoutNotes := by rw [exported]
    _ = (t.toAst false).compile.toAst false := (toAst_false_eq _).symm

theorem notes_taken_off_scores :
    let ns := OptionMap.ofList [(⟨"doc"⟩, .str "scores"), (⟨"since"⟩, .int 2)]
    let strict := OptionMap.ofList [(⟨"strict"⟩, .bool true)]
    let t := map ⟨.empty, ns⟩ (nominal (.builtin .string) ⟨strict, ns⟩)
      (arrayMember ⟨.empty, .empty⟩ (hash ⟨strict, ns⟩))
    let u := map ⟨.empty, .empty⟩ (nominal (.builtin .string) ⟨strict, .empty⟩)
      (arrayMember ⟨.empty, ns⟩ (hash ⟨strict, .empty⟩))
    SameButNotes t u ∧ t.toAst true ≠ u.toAst true ∧ t.toAst false = u.toAst false ∧
      t.toAst false = .map (.nominal (.builtin .string) .empty) (.array (.hash strict .empty) .empty)
        .empty := by
  intro ns strict t u
  have same : SameButNotes t u :=
    .map _ _ _ (.nominal _ _ _ _) (.arrayMember _ _ _ (.hash _ _ _))
  obtain ⟨-, alike, -⟩ := notes_taken_off t
  exact ⟨same, by decide, alike u same, rfl⟩

end TypeDef
end ValueTypes
