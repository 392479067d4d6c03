import ValueTypes.Proofs.Meaning
import ValueTypes.Proofs.OptionMap

/-!
Which types and descriptions come back from each other unchanged. A description has no room for the
options of most types, and none for being nominal over `Array` or `Hash`: building gives such a node
the kind of its primitive. A type that needs no such room is canonical, and every type that is built
from a description is.
-/
namespace ValueTypes

namespace TypeDef

def nodes : TypeDef → List TypeDef
  | .arrayMember l m => .arrayMember l m :: m.nodes
  | .map l k v => .map l k v :: (k.nodes ++ v.nodes)
  | t => [t]

/-- A node is not nominal over `Array` or `Hash`, and only as a plain hash type it has options. -/
def CanonicalNode (t : TypeDef) : Prop :=
  (t.kind = .nominal → t.primitive ≠ .builtin .array ∧ t.primitive ≠ .builtin .hash) ∧
    (t.kind ≠ .hash → t.options = .empty)

def Canonical (t : TypeDef) : Prop := ∀ n ∈ t.nodes, n.CanonicalNode

theorem canonical_nominal (p : Primitive) (l : Labels) :
    (nominal p l).Canonical ↔
      (p ≠ .builtin .array ∧ p ≠ .builtin .hash) ∧ l.options = .empty := by
  simp [Canonical, nodes, CanonicalNode, kind, primitive, options, labels]

theorem canonical_array (l : Labels) : (array l).Canonical ↔ l.options = .empty := by
  simp [Canonical, nodes, CanonicalNode, kind, options, labels]

theorem canonical_hash (l : Labels) : (hash l).Canonical := by
  simp [Canonical, nodes, CanonicalNode, kind]

theorem canonical_arrayMember (l : Labels) (m : TypeDef) :
    (arrayMember l m).Canonical ↔ l.options = .empty ∧ m.Canonical := by
  have node : (arrayMember l m).CanonicalNode ↔ l.options = .empty := by
    simp [CanonicalNode, kind, options, labels]
  rw [Canonical, nodes, List.forall_mem_cons, node, Canonical]

theorem canonical_map (l : Labels) (kt vt : TypeDef) :
    (map l kt vt).Canonical ↔ l.options = .empty ∧ kt.Canonical ∧ vt.Canonical := by
  have node : (map l kt vt).CanonicalNode ↔ l.options = .empty := by
    simp [CanonicalNode, kind, options, labels]
  rw [Canonical, nodes, List.forall_mem_cons, List.forall_mem_append, node, Canonical, Canonical]

end TypeDef

namespace Ast

def nodes : Ast → List Ast
  | .array m ns => .array m ns :: m.nodes
  | .map k v ns => .map k v ns :: (k.nodes ++ v.nodes)
  | a => [a]

def IsNominalHash (a : Ast) : Prop := ∃ ns, a = nominal (.builtin .hash) ns

/- A built type starts without labels, so what its description lays over them is all that it has. -/

theorem compile_array (m : Ast) (ns : OptionMap) :
    (array m ns).compile = .arrayMember ⟨.empty, ns⟩ m.compile := by
  rw [compile, TypeDef.withNotes, TypeDef.relabel, Labels.withNotes, OptionMap.empty_merge]

theorem compile_hash (options ns : OptionMap) :
    (hash options ns).compile = .hash ⟨options, ns⟩ := by
  rw [compile, TypeDef.withNotes, TypeDef.relabel, Labels.withNotes, Labels.withOptions,
    OptionMap.empty_merge, OptionMap.empty_merge]

theorem compile_map (k v : Ast) (ns : OptionMap) :
    (map k v ns).compile = .map ⟨.empty, ns⟩ k.compile v.compile := by
  rw [compile, TypeDef.withNotes, TypeDef.relabel, Labels.withNotes, OptionMap.empty_merge]

theorem canonical_compile (a : Ast) : a.compile.Canonical := by
  induction a with
  | nominal p ns =>
    obtain ⟨rfl, h⟩ | ⟨rfl, h⟩ | ⟨hp, h⟩ := TypeDef.build_cases p .empty ns
    · rw [compile, h, TypeDef.canonical_array]
    · rw [compile, h]
      exact TypeDef.canonical_hash _
    · rw [compile, h, TypeDef.canonical_nominal]
      exact ⟨hp, rfl⟩
  | array m ns ih =>
    rw [compile_array, TypeDef.canonical_arrayMember]
    exact ⟨rfl, ih⟩
  | hash options ns =>
    rw [compile_hash]
    exact TypeDef.canonical_hash _
  | map k v ns ihk ihv =>
    rw [compile_map, TypeDef.canonical_map]
    exact ⟨rfl, ihk, ihv⟩

end Ast

namespace TypeDef

/- Exported with all notes, each type keeps its notes, and a plain hash type its options too. -/

theorem ast_nominal (p : Primitive) (l : Labels) : (nominal p l).ast = .nominal p l.notes := rfl

theorem ast_array (l : Labels) : (array l).ast = .nominal (.builtin .array) l.notes := rfl

theorem ast_arrayMember (l : Labels) (m : TypeDef) :
    (arrayMember l m).ast = .array m.ast l.notes := rfl

theorem ast_hash (l : Labels) : (hash l).ast = .hash l.options l.notes := rfl

theorem ast_map (l : Labels) (kt vt : TypeDef) :
    (map l kt vt).ast = .map kt.ast vt.ast l.notes := rfl

theorem without_options_eq_iff (l : Labels) :
    (⟨.empty, l.notes⟩ : Labels) = l ↔ l.options = .empty := by
  obtain ⟨options, notes⟩ := l
  simp only [Labels.mk.injEq, and_true]
  exact eq_comm

theorem compile_ast_eq_iff (t : TypeDef) : t.ast.compile = t ↔ t.Canonical := by
  induction t with
  | nominal p l =>
    rw [ast_nominal, Ast.compile, canonical_nominal]
    obtain ⟨rfl, h⟩ | ⟨rfl, h⟩ | ⟨hp, h⟩ := build_cases p .empty l.notes
    · simp [h]
    · simp [h]
    · rw [h, nominal.injEq, without_options_eq_iff]
      simp only [true_and, iff_and_self]
      exact fun _ => hp
  | array l =>
    have built : (array l).ast.compile = .array ⟨.empty, l.notes⟩ := rfl
    rw [built, array.injEq, without_options_eq_iff, canonical_array]
  | arrayMember l m ih =>
    rw [ast_arrayMember, Ast.compile_array, arrayMember.injEq, without_options_eq_iff, ih,
      canonical_arrayMember]
  | hash l =>
    rw [ast_hash, Ast.compile_hash]
    exact ⟨fun _ => canonical_hash l, fun _ => rfl⟩
  | map l kt vt ihk ihv =>
    rw [ast_map, Ast.compile_map, map.injEq, without_options_eq_iff, ihk, ihv, canonical_map]

end TypeDef

namespace Ast

theorem ast_compile_nominal_eq_iff (p : Primitive) (ns : OptionMap) :
    (nominal p ns).compile.ast = nominal p ns ↔ p ≠ .builtin .hash := by
  obtain ⟨rfl, h⟩ | ⟨rfl, h⟩ | ⟨hp, h⟩ := TypeDef.build_cases p .empty ns
  · simp [compile, h, TypeDef.ast_array]
  · simp [compile, h, TypeDef.ast_hash]
  · simp [compile, h, TypeDef.ast_nominal, hp.2]

theorem ast_compile_eq_iff (a : Ast) :
    a.compile.ast = a ↔ ∀ n ∈ a.nodes, ¬n.IsNominalHash := by
  induction a with
  | nominal p ns =>
    rw [ast_compile_nominal_eq_iff]
    simp [nodes, IsNominalHash]
  | array m ns ih =>
    have node : ¬(array m ns).IsNominalHash := nofun
    rw [compile_array, TypeDef.ast_arrayMember, array.injEq, ih, nodes, List.forall_mem_cons]
    simp only [node, not_false_eq_true, true_and, and_true]
  | hash options ns =>
    rw [compile_hash, TypeDef.ast_hash]
    simp [nodes, IsNominalHash]
  | map k v ns ihk ihv =>
    have node : ¬(map k v ns).IsNominalHash := nofun
    rw [compile_map, TypeDef.ast_map, map.injEq, ihk, ihv, nodes, List.forall_mem_cons,
      List.forall_mem_append]
    simp only [node, not_false_eq_true, true_and, and_true]

end Ast

/-- Building inverts exporting on canonical types and on no others, and gives only these; exporting
inverts building on descriptions without nominal nodes over `Hash` and on no others. -/
theorem compile_ast_inverse :
    (∀ t : TypeDef, t.ast.compile = t ↔ t.Canonical) ∧
      ∀ a : Ast, a.compile.Canonical ∧ a.compile.ast.compile = a.compile ∧
        (a.compile.ast = a ↔ ∀ n ∈ a.nodes, ¬n.IsNominalHash) := by
  refine ⟨TypeDef.compile_ast_eq_iff, fun a => ?_⟩
  have canonical := Ast.canonical_compile a
  exact ⟨canonical, (TypeDef.compile_ast_eq_iff a.compile).mpr canonical, Ast.ast_compile_eq_iff a⟩

end ValueTypes
