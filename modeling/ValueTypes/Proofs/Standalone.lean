import ValueTypes.Proofs.Document
import ValueTypes.Proofs.Written

namespace ValueTypes

theorem Json.compact_object (ms : List (String × Json)) :
    (object ms).compact = "\x7b" ++ ",".intercalate (ms.map fun m => Token.quote m.1 ++ ":" ++
      m.2.compact) ++ "\x7d" := by
  have members : (ms.map fun m => Token.quote m.1 ++ ":" ++ m.2.compact).map String.toList =
      ms.map fun m => chars (tokensOfMember m) := by
    rw [List.map_map]
    refine List.map_congr_left fun m _ => ?_
    rw [Function.comp_apply, String.toList_append, String.toList_append, toList_compact, tokensOfMember,
      chars_cons, chars_cons, List.append_assoc]
    rfl
  rw [← String.toList_inj, toList_compact, tokens, memberTokens_eq_map, chars_group,
    String.toList_append, String.toList_append, String.toList_intercalate, members, List.append_assoc]
  rfl

namespace OptionMap

theorem write_eq_compact (m : OptionMap) : m.write = m.toJson.compact := by
  rw [toJson_eq, Json.compact_object, List.map_map]
  rfl

/-- Gathering the members by name first makes no difference, as symbols are ordered as names. -/
theorem ofJson?_object (ms : List (String × Json)) : ofJson? (.object ms) = some (ofMembers ms) := by
  let bound := ms.map fun m => (m.1, Value.ofJson m.2)
  have order : ∀ a b : String, Symbol.cmp ⟨a⟩ ⟨b⟩ = compare a b := fun _ _ => rfl
  have symbols : bound.map (Prod.map Symbol.mk id) = ms.map fun m => (⟨m.1⟩, Value.ofJson m.2) :=
    List.map_map
  have renamed : (Entries.ofList compare bound).map (Prod.map Symbol.mk id) = (ofMembers ms).entries := by
    rw [← Entries.ofList_map order, symbols]
    rfl
  have gathered : ofJson? (.object ms) =
      some (ofList ((Entries.ofList compare bound).map (Prod.map Symbol.mk id))) := rfl
  rw [gathered, renamed, ofList_entries]

theorem ofJson?_eq (j : Json) : ofJson? j = (Ast.optionsOfJson j).toOption := by
  cases j with
  | object ms => rw [ofJson?_object]; rfl
  | _ => rfl

theorem ofJson?_toJson (m : OptionMap) : ofJson? m.toJson = some (m.mapValues .reread) := by
  obtain ⟨ms, written, back⟩ := m.toJson_members
  rw [written, ofJson?_object, back]

/-- Written on its own, a map has the text of its document, member for member; read on its own, a document
gives the map that it gives as the labels in a description, or none where that is none. What is written is
read with each value as it comes back by itself. -/
theorem standalone_agrees :
    (∀ m : OptionMap, m.toJson = .object (m.entries.map fun e => (e.1.name, e.2.toJson)) ∧
        m.write = m.toJson.compact) ∧
      (∀ j : Json, ofJson? j = (Ast.optionsOfJson j).toOption) ∧
      (∀ ms : List (String × Json), ∃ m, ofJson? (.object ms) = some m) ∧
      (∀ m : OptionMap, ofJson? m.toJson = some (m.mapValues .reread)) ∧
      ∀ m : OptionMap, (∀ w ∈ m.values, w.Sorted) →
        (ofJson? m.toJson = some m ↔ ∀ w ∈ m.values, w.IsNative) := by
  refine ⟨fun m => ⟨m.toJson_eq, m.write_eq_compact⟩, ofJson?_eq, fun ms => ⟨_, ofJson?_object ms⟩,
    ofJson?_toJson, fun m sorted => ?_⟩
  rw [ofJson?_toJson, Option.some.injEq, mapValues_eq_self_iff]
  exact forall₂_congr fun w hw => Value.reread_eq_self_iff (sorted w hw)

theorem standalone_agrees_unit :
    let w : Value := .hash [(.str "max", .int 3), (.str "min", .int 1)]
    let m : OptionMap := .ofList [(⟨"range"⟩, w)]
    let n : OptionMap := .ofList [(⟨"unit"⟩, .sym ⟨"cm"⟩)]
    (w.Sorted ∧ (Value.sym ⟨"cm"⟩).Sorted) ∧ ofJson? m.toJson = some m ∧ ofJson? n.toJson ≠ some n := by
  intro w m n
  have hash : w.Sorted := by
    simp [w, Value.Sorted, Value.SortedEntries, Entries.Ascending, Value.cmp]
    decide
  have native : w.IsNative := by simp [w, Value.IsNative, Value.NativeEntries]
  have symbol : (Value.sym ⟨"cm"⟩).Sorted := by simp [Value.Sorted]
  obtain ⟨-, -, -, -, kept⟩ := standalone_agrees
  refine ⟨⟨hash, symbol⟩, (kept m ?_).mpr ?_, fun same => ?_⟩
  · exact List.forall_mem_singleton.mpr hash
  · exact List.forall_mem_singleton.mpr native
  · have written := (kept n ?_).mp same _ (List.mem_singleton_self _)
    · simp [Value.IsNative] at written
    · exact List.forall_mem_singleton.mpr symbol

end OptionMap
end ValueTypes
