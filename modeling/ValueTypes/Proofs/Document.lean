import ValueTypes.Proofs.Grammar
import ValueTypes.Proofs.OptionMap

namespace ValueTypes.Ast

def values : Ast → List Value
  | .nominal _ ns => ns.values
  | .array m ns => m.values ++ ns.values
  | .hash options ns => options.values ++ ns.values
  | .map k v ns => k.values ++ (v.values ++ ns.values)

def mapValues (f : Value → Value) : Ast → Ast
  | .nominal p ns => .nominal p (ns.mapValues f)
  | .array m ns => .array (m.mapValues f) (ns.mapValues f)
  | .hash options ns => .hash (options.mapValues f) (ns.mapValues f)
  | .map k v ns => .map (k.mapValues f) (v.mapValues f) (ns.mapValues f)

theorem mapValues_eq_self_iff (f : Value → Value) (a : Ast) :
    a.mapValues f = a ↔ ∀ w ∈ a.values, f w = w := by
  induction a with
  | nominal p ns =>
    rw [mapValues, values, nominal.injEq, OptionMap.mapValues_eq_self_iff]
    simp only [true_and]
  | array m ns ih =>
    rw [mapValues, values, array.injEq, OptionMap.mapValues_eq_self_iff, ih, List.forall_mem_append]
  | hash options ns =>
    rw [mapValues, values, hash.injEq, OptionMap.mapValues_eq_self_iff,
      OptionMap.mapValues_eq_self_iff, List.forall_mem_append]
  | map k v ns ihk ihv =>
    rw [mapValues, values, map.injEq, OptionMap.mapValues_eq_self_iff, ihk, ihv,
      List.forall_mem_append, List.forall_mem_append]

theorem describes_toJson (a : Ast) : Describes a.toJson (a.mapValues .reread) := by
  induction a with
  | nominal p ns =>
    obtain ⟨ms, written, back⟩ := ns.toJson_members
    rw [toJson, written, mapValues, ← back]
    exact .nominal ms [] p.named?_name
  | array m ns ih =>
    obtain ⟨ms, written, back⟩ := ns.toJson_members
    rw [toJson, written, mapValues, ← back]
    exact .array ms [] ih
  | hash options ns =>
    obtain ⟨os, options_written, options_back⟩ := options.toJson_members
    obtain ⟨ms, written, back⟩ := ns.toJson_members
    rw [toJson, options_written, written, mapValues, ← options_back, ← back]
    exact .hash os ms []
  | map k v ns ihk ihv =>
    obtain ⟨ms, written, back⟩ := ns.toJson_members
    rw [toJson, written, mapValues, ← back]
    exact .map ms [] ihk ihv

theorem ofJson_toJson (a : Ast) : ofJson a.toJson = .ok (a.mapValues .reread) :=
  ofJson_eq_ok_iff.mpr (describes_toJson a)

theorem ofJson_toJson_eq_self_iff (a : Ast) :
    ofJson a.toJson = .ok a ↔ ∀ w ∈ a.values, w.reread = w := by
  rw [ofJson_toJson, Except.ok.injEq, mapValues_eq_self_iff]

/-- What a document describes has only values that were read from it. -/
theorem reread_of_describes {j : Json} {a : Ast} (h : Describes j a) :
    ∀ w ∈ a.values, w.reread = w := by
  have labels (ms : List (String × Json)) : ∀ w ∈ (OptionMap.ofMembers ms).values, w.reread = w :=
    fun w hw => OptionMap.reread_of_mem_ofMembers hw
  induction h with
  | nominal ms rest named => exact labels ms
  | array ms rest member ih => exact List.forall_mem_append.mpr ⟨ih, labels ms⟩
  | hash os ms rest => exact List.forall_mem_append.mpr ⟨labels os, labels ms⟩
  | map ms rest key value ihk ihv =>
    exact List.forall_mem_append.mpr ⟨ihk, List.forall_mem_append.mpr ⟨ihv, labels ms⟩⟩

theorem document_round_trip :
    (∀ a : Ast, ofJson a.toJson = .ok (a.mapValues .reread)) ∧
      (∀ a : Ast, (∀ w ∈ a.values, w.Sorted) →
        (ofJson a.toJson = .ok a ↔ ∀ w ∈ a.values, w.IsNative)) ∧
      ∀ (j : Json) (a : Ast), ofJson j = .ok a → ofJson a.toJson = .ok a := by
  refine ⟨ofJson_toJson, ?_, ?_⟩
  · intro a sorted
    rw [ofJson_toJson_eq_self_iff]
    exact forall₂_congr fun w hw => Value.reread_eq_self_iff (sorted w hw)
  · intro j a accepted
    rw [ofJson_toJson_eq_self_iff]
    exact reread_of_describes (ofJson_eq_ok_iff.mp accepted)

theorem document_round_trip_range :
    ofJson (nominal (.builtin .integer)
      (.ofList [(⟨"range"⟩, .hash [(.str "max", .int 3), (.str "min", .int 1)])])).toJson =
        .ok (nominal (.builtin .integer)
          (.ofList [(⟨"range"⟩, .hash [(.str "max", .int 3), (.str "min", .int 1)])])) ∧
      ofJson (nominal (.builtin .integer) (.ofList [(⟨"unit"⟩, .sym ⟨"cm"⟩)])).toJson ≠
        .ok (nominal (.builtin .integer) (.ofList [(⟨"unit"⟩, .sym ⟨"cm"⟩)])) ∧
      ofJson (node "hash" [.object [], .object [], .null]) = .ok (hash .empty .empty) ∧
      ofJson (hash .empty .empty).toJson = .ok (hash .empty .empty) := by
  have read : ofJson (node "hash" [.object [], .object [], .null]) = .ok (hash .empty .empty) := rfl
  refine ⟨(document_round_trip.2.1 _ ?_).mpr ?_, fun same => ?_, read,
    document_round_trip.2.2 _ _ read⟩
  · intro w hw
    obtain rfl : w = .hash [(.str "max", .int 3), (.str "min", .int 1)] := List.mem_singleton.mp hw
    simp [Value.Sorted, Value.SortedEntries, Entries.Ascending, Value.cmp]
    decide
  · intro w hw
    obtain rfl : w = .hash [(.str "max", .int 3), (.str "min", .int 1)] := List.mem_singleton.mp hw
    simp [Value.IsNative, Value.NativeEntries]
  · have native := (document_round_trip.2.1 _ ?_).mp same (.sym ⟨"cm"⟩) (List.mem_singleton_self _)
    · simp [Value.IsNative] at native
    · intro w hw
      obtain rfl : w = .sym ⟨"cm"⟩ := List.mem_singleton.mp hw
      simp [Value.Sorted]

end ValueTypes.Ast
