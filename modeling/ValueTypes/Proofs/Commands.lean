import ValueTypes.Command
import ValueTypes.Proofs.Canonical
import ValueTypes.Proofs.TypeText

/-!
Types on the command line. What is printed for a primitive with notes is one document, and rebuilding
the type from it gives the type back. The document lays three levels around the value of a note, so a
value that could be given may lie too deep in it to be read again.
-/
namespace ValueTypes

namespace OptionMap

theorem mem_of_mem_values_ofList {ps : List (Symbol × Value)} {w : Value}
    (mem : w ∈ (ofList ps).values) : ∃ n ∈ ps, n.2 = w := by
  obtain ⟨n, bound, rfl⟩ := List.mem_map.mp mem
  exact ⟨n, Entries.mem_of_mem_ofList bound, rfl⟩

theorem depth_toJson_le_iff (m : OptionMap) (levels : Nat) :
    m.toJson.depth ≤ levels + 1 ↔ ∀ w ∈ m.values, w.toJson.depth ≤ levels := by
  have members := Json.Reader.fits_members_iff (Nat.zero_lt_succ levels)
    (m.entries.map fun e => (e.1.name, e.2.toJson))
  rw [List.forall_mem_map] at members
  rw [toJson_eq, Json.depth, values, List.forall_mem_map]
  simpa [Nat.add_comm 1] using members

end OptionMap

namespace TypeDef

/- The description of a built type. -/

theorem name_build (p : Primitive) (options notes : OptionMap) :
    (build p options notes).name = p.name := by
  obtain ⟨rfl, built⟩ | ⟨rfl, built⟩ | ⟨-, built⟩ := build_cases p options notes <;>
    rw [built] <;> rfl

theorem notes_ast_build (p : Primitive) (options notes : OptionMap) :
    (build p options notes).ast.notes = notes := by
  obtain ⟨rfl, built⟩ | ⟨rfl, built⟩ | ⟨-, built⟩ := build_cases p options notes <;>
    rw [built] <;> rfl

theorem values_ast_build (p : Primitive) (notes : OptionMap) :
    (build p .empty notes).ast.values = notes.values := by
  obtain ⟨rfl, built⟩ | ⟨rfl, built⟩ | ⟨-, built⟩ := build_cases p .empty notes <;>
    rw [built] <;> rfl

theorem toAst_build (withNotes : Bool) (p : Primitive) (notes : OptionMap) :
    (build p .empty notes).toAst withNotes =
      (build p .empty (exportedNotes withNotes notes)).ast := by
  obtain ⟨rfl, -⟩ | ⟨rfl, -⟩ | ⟨other, built⟩ := build_cases p .empty notes
  · rfl
  · rfl
  · obtain ⟨array, -⟩ | ⟨hash, -⟩ | ⟨-, bare⟩ :=
      build_cases p .empty (exportedNotes withNotes notes)
    · exact absurd array other.1
    · exact absurd hash other.2
    · rw [built, bare]
      rfl

theorem plain_ast_build (p : Primitive) {notes : OptionMap} (free : ∀ w ∈ notes.values, w.FloatFree) :
    (build p .empty notes).ast.toJson.Plain := by
  rw [← values_ast_build p] at free
  exact Ast.plain_toJson free

theorem compile_ast_build (p : Primitive) (notes : OptionMap) :
    (build p .empty notes).ast.compile = build p .empty notes := by
  have canonical : (build p .empty notes).Canonical := Ast.canonical_compile (.nominal p notes)
  exact (compile_ast_eq_iff _).mpr canonical

theorem depth_ast_build (p : Primitive) (notes : OptionMap) :
    (build p .empty notes).ast.toJson.depth = notes.toJson.depth + 2 := by
  have none : OptionMap.empty.toJson.depth = 1 := rfl
  obtain ⟨rfl, built⟩ | ⟨rfl, built⟩ | ⟨-, built⟩ := build_cases p .empty notes
  · simp [built, ast_array, Ast.toJson, Ast.node, Json.depth, Json.depthOfItems]
  · have pos : 0 < notes.toJson.depth := by
      rw [OptionMap.toJson_eq, Json.depth]
      exact Nat.zero_lt_succ _
    simp [built, ast_hash, Ast.toJson, Ast.node, Json.depth, Json.depthOfItems, none]
    omega
  · simp [built, ast_nominal, Ast.toJson, Ast.node, Json.depth, Json.depthOfItems]

end TypeDef

namespace Command

def noteText (n : Symbol × Value) : String := n.1.name ++ "=" ++ n.2.toJson.compact

/-- A note that its text gives: the key ends at the first equals sign, and the value can be read. -/
structure Givable (n : Symbol × Value) : Prop where
  named : n.1.name ≠ ""
  unsigned : '=' ∉ n.1.name.toList
  sorted : n.2.Sorted
  native : n.2.IsNative
  floatFree : n.2.FloatFree
  shallow : n.2.toJson.depth ≤ 127

theorem noteValue_compact {n : Symbol × Value} (givable : Givable n) :
    noteValue n.2.toJson.compact = n.2 := by
  have read : Json.read n.2.toJson.compact = some n.2.toJson := by
    have within := givable.floatFree.plain_toJson.readWithin Json.maxDepth (.inl rfl)
    exact within.trans (if_pos givable.shallow)
  simp only [noteValue, read]
  exact Value.reread_of_native n.2 givable.sorted givable.native

theorem splitNote_noteText {n : Symbol × Value} (givable : Givable n) :
    splitNote (noteText n) = .ok n := by
  have within : ∀ c ∈ n.1.name.toList, (c != '=') = true := by
    intro c mem
    apply bne_iff_ne.mpr
    rintro rfl
    exact givable.unsigned mem
  have stop : ∀ c ∈ ('=' :: n.2.toJson.compact.toList).head?, (c != '=') = false := by simp
  have whole : (noteText n).toList = n.1.name.toList ++ '=' :: n.2.toJson.compact.toList := by
    simp [noteText]
  have nonempty : n.1.name.toList.isEmpty = false := by
    simpa using givable.named
  obtain ⟨key, rest⟩ := Json.Number.span_append within stop
  unfold splitNote
  simp only [whole, key, rest, nonempty, String.ofList_toList, noteValue_compact givable]
  rfl

theorem readNotes_noteText {given : List (Symbol × Value)} (givable : ∀ n ∈ given, Givable n) :
    readNotes (given.map noteText) = .ok (OptionMap.ofList given) := by
  have onto (m : OptionMap) : (given.map noteText).foldlM
      (fun m pair => (splitNote pair).map fun n => m.insert n.1 n.2) m =
        .ok (given.foldl (fun m n => m.insert n.1 n.2) m) := by
    induction given generalizing m with
    | nil => rfl
    | cons n given ih =>
      obtain ⟨first, others⟩ := List.forall_mem_cons.mp givable
      rw [List.map_cons, List.foldlM_cons, splitNote_noteText first]
      exact ih others (m.insert n.1 n.2)
  rw [OptionMap.ofList_eq_foldl]
  exact onto .empty

theorem runAst_noteText {name : String} {p : Primitive} (named : Primitive.named name = .ok p)
    {given : List (Symbol × Value)} (givable : ∀ n ∈ given, Givable n) (withNotes pretty : Bool) :
    (runAst name (given.map noteText) withNotes pretty).2 =
      .ok ⟨0, printAst withNotes pretty (TypeDef.build p .empty (OptionMap.ofList given))⟩ := by
  have primitive : primitiveNamed name = .ok p := by
    simp only [primitiveNamed, named]
    rfl
  unfold runAst
  simp only [primitive, readNotes_noteText givable]

/- What rebuilding does with a text, by what the text is read as. -/

theorem runCompile_of_read {s : String} {a : Ast} (read : Ast.read s = .ok a) :
    (runCompile s).2 = .ok ⟨0, describe a.compile⟩ := by
  unfold Ast.read at read
  split at read
  · rename_i j document
    unfold runCompile compileJson
    simp only [document, read]
    rfl
  · cases read

theorem runCompile_of_unread {s : String} (unread : Json.read s = none) :
    (runCompile s).2 = .error .astNotJson := by
  unfold runCompile
  simp only [unread]

/-- The document lays three levels around the value of a note. -/
theorem depth_exported (p : Primitive) (withNotes : Bool) (notes : OptionMap) :
    (TypeDef.build p .empty (TypeDef.exportedNotes withNotes notes)).ast.toJson.depth ≤ 127 ↔
      (withNotes = true → ∀ w ∈ notes.values, w.toJson.depth ≤ 124) := by
  have levels (ns : OptionMap) : (TypeDef.build p .empty ns).ast.toJson.depth ≤ 127 ↔
      ∀ w ∈ ns.values, w.toJson.depth ≤ 124 := by
    rw [TypeDef.depth_ast_build, ← ns.depth_toJson_le_iff]
    omega
  rw [levels]
  cases withNotes with
  | true => simp [TypeDef.exportedNotes]
  | false => simp [TypeDef.exportedNotes, OptionMap.values, OptionMap.empty]

theorem values_exported {given : List (Symbol × Value)} (givable : ∀ n ∈ given, Givable n)
    (withNotes : Bool) : ∀ w ∈ (TypeDef.exportedNotes withNotes (OptionMap.ofList given)).values,
      w.Sorted ∧ w.IsNative ∧ w.FloatFree := by
  cases withNotes with
  | true =>
    intro w mem
    obtain ⟨n, listed, rfl⟩ := OptionMap.mem_of_mem_values_ofList mem
    exact ⟨(givable n listed).sorted, (givable n listed).native, (givable n listed).floatFree⟩
  | false =>
    intro w mem
    exact absurd mem List.not_mem_nil

/-- A text of its description makes a type again, unless it has too many levels. -/
theorem runCompile_of_spells {p : Primitive} {notes : OptionMap}
    (values : ∀ w ∈ notes.values, w.Sorted ∧ w.IsNative ∧ w.FloatFree) {s : String} :
    let t := TypeDef.build p .empty notes
    Json.Token.Spells s.toList t.ast.toJson.tokens →
      if t.ast.toJson.depth ≤ 127 then
        Ast.read s = .ok t.ast ∧ (runCompile s).2 = .ok ⟨0, describe t⟩
      else (runCompile s).2 = .error .astNotJson := by
  intro t spelled
  have plain := TypeDef.plain_ast_build p fun w mem => (values w mem).2.2
  rw [← TypeDef.values_ast_build p] at values
  split
  · rename_i shallow
    have read : Ast.read s = .ok t.ast := (Ast.read_of_spells values spelled).trans (if_pos shallow)
    have answered := runCompile_of_read read
    rw [TypeDef.compile_ast_build] at answered
    exact ⟨read, answered⟩
  · rename_i deep
    have unread := plain.readWithin_of_spells Json.maxDepth spelled
    exact runCompile_of_unread (unread.trans (if_neg deep))

/-- A type is rebuilt as it was printed, whichever way it is printed, if the values of its notes leave
room for the three levels that the description adds; otherwise its text is refused. -/
theorem commands_inverse {name : String} {p : Primitive} (named : Primitive.named name = .ok p)
    {given : List (Symbol × Value)} (givable : ∀ n ∈ given, Givable n) (withNotes : Bool) :
    let notes := if withNotes then OptionMap.ofList given else .empty
    let t := TypeDef.build p .empty notes
    let document := t.ast.toJson
    ∀ pretty, ∃ text,
      (runAst name (given.map noteText) withNotes pretty).2 = .ok ⟨0, text ++ "\n"⟩ ∧
      text = (if pretty then document.pretty else document.compact) ∧
      (∀ limit, Json.readWithin limit text =
        if document.depth ≤ limit then some document else none) ∧
      ∀ s, s = text ∨ s = text ++ "\n" →
        ((∃ answer, (runCompile s).2 = .ok answer) ↔
          (withNotes = true → ∀ w ∈ (OptionMap.ofList given).values, w.toJson.depth ≤ 124)) ∧
        ∀ answer, (runCompile s).2 = .ok answer →
          (∃ a, Ast.read s = .ok a ∧ a.notes = notes ∧ a.compile = t) ∧
          answer = ⟨0, "kind: " ++ t.kind.name ++ "\nname: " ++ name ++ "\nast:  " ++
            document.compact ++ "\n"⟩ := by
  intro notes t document pretty
  have printed := runAst_noteText named givable withNotes pretty
  rw [printAst, TypeDef.toAst_build] at printed
  have values : ∀ w ∈ notes.values, w.Sorted ∧ w.IsNative ∧ w.FloatFree :=
    values_exported givable withNotes
  have plain : document.Plain := TypeDef.plain_ast_build p fun w mem => (values w mem).2.2
  have written : (if pretty then document.pretty else document.compact) = document.compact ∨
      (if pretty then document.pretty else document.compact) = document.pretty := by
    cases pretty
    · exact .inl rfl
    · exact .inr rfl
  have spelled := plain.spells written
  refine ⟨_, printed, rfl, fun limit => plain.readWithin_of_spells limit spelled, ?_⟩
  intro s shown
  have line : Json.Token.Spells s.toList document.tokens := by
    rcases shown with rfl | rfl
    · exact spelled
    · exact Json.spells_line spelled
  have depth := depth_exported p withNotes (OptionMap.ofList given)
  have rebuilt := runCompile_of_spells values line
  by_cases shallow : document.depth ≤ 127
  · rw [if_pos shallow] at rebuilt
    obtain ⟨read, answered⟩ := rebuilt
    refine ⟨iff_of_true ⟨_, answered⟩ (depth.mp shallow), ?_⟩
    intro answer done
    cases answered.symm.trans done
    refine ⟨⟨t.ast, read, TypeDef.notes_ast_build .., TypeDef.compile_ast_build ..⟩, ?_⟩
    rw [describe, TypeDef.name_build, Primitive.name_of_named? (Primitive.named_eq_ok_iff.mp named)]
  · rw [if_neg shallow] at rebuilt
    constructor
    · refine iff_of_false ?_ (mt depth.mpr shallow)
      rintro ⟨answer, done⟩
      cases rebuilt.symm.trans done
    · intro answer done
      cases rebuilt.symm.trans done

theorem commands_inverse_doc :
    let given : List (Symbol × Value) :=
      [(⟨"doc"⟩, .str "a=b"), (⟨"doc"⟩, .array [.int (-3), .nil])]
    given.map noteText = ["doc=\"a=b\"", "doc=[-3,null]"] ∧
      ∃ text, (runAst "Hash" ["doc=\"a=b\"", "doc=[-3,null]"] true true).2 = .ok ⟨0, text ++ "\n"⟩ ∧
        (∃ a, Ast.read (text ++ "\n") = .ok a ∧
          a.notes = .ofList [(⟨"doc"⟩, .array [.int (-3), .nil])] ∧
          a.compile = .hash ⟨.empty, a.notes⟩) ∧
        (runCompile (text ++ "\n")).2 = .ok ⟨0, "kind: Hash\nname: Hash\nast:  " ++
          "[\"hash\",[\x7b\x7d,\x7b\"doc\":[-3,null]\x7d]]\n"⟩ := by
  intro given
  have texts : given.map noteText = ["doc=\"a=b\"", "doc=[-3,null]"] := by decide
  have items : ∀ v ∈ [.int (-3), .nil], Value.FloatFree v := by
    simpa using ⟨.int _, .nil⟩
  have first : Givable (⟨"doc"⟩, .str "a=b") :=
    ⟨by decide, by decide, by simp [Value.Sorted], by simp [Value.IsNative], .str _, by decide⟩
  have second : Givable (⟨"doc"⟩, .array [.int (-3), .nil]) :=
    ⟨by decide, by decide, by simp [Value.Sorted, Value.SortedItems],
      by simp [Value.IsNative, Value.NativeItems], .array items, by decide⟩
  have givable : ∀ n ∈ given, Givable n := by simpa [given] using ⟨first, second⟩
  have kept : OptionMap.ofList given = .ofList [(⟨"doc"⟩, .array [.int (-3), .nil])] := rfl
  have shallow : ∀ w ∈ (OptionMap.ofList given).values, w.toJson.depth ≤ 124 := by
    rw [kept]
    exact List.forall_mem_singleton.mpr (by decide)
  have named : Primitive.named "Hash" = .ok (.builtin .hash) := rfl
  obtain ⟨text, printed, -, -, rebuilt⟩ := commands_inverse named givable true true
  obtain ⟨accepted, said⟩ := rebuilt (text ++ "\n") (.inr rfl)
  obtain ⟨answer, answered⟩ := accepted.mpr fun _ => shallow
  obtain ⟨⟨a, read, notes, compiled⟩, lines⟩ := said answer answered
  rw [texts] at printed
  rw [if_pos rfl] at notes compiled
  refine ⟨texts, text, printed, ⟨a, read, notes.trans kept, ?_⟩, ?_⟩
  · rw [compiled, notes]
    rfl
  · rw [answered, lines]
    rfl

end Command
end ValueTypes
