import ValueTypes.Proofs.Document
import ValueTypes.Proofs.Written

namespace ValueTypes

namespace Value

/-- Without floats, at every depth. -/
inductive FloatFree : Value → Prop
  | nil : FloatFree .nil
  | bool (b : Bool) : FloatFree (.bool b)
  | int (n : Int64) : FloatFree (.int n)
  | str (s : String) : FloatFree (.str s)
  | sym (s : Symbol) : FloatFree (.sym s)
  | array {vs : List Value} (items : ∀ v ∈ vs, FloatFree v) : FloatFree (.array vs)
  | hash {es : List (Value × Value)} (keys : ∀ e ∈ es, FloatFree e.1)
    (values : ∀ e ∈ es, FloatFree e.2) : FloatFree (.hash es)
  | object (c : ClassName) (ancestors : List ClassName) {fields : List (String × Value)}
    (values : ∀ f ∈ fields, FloatFree f.2) : FloatFree (.object c ancestors fields)

theorem fieldsToJson_eq_map (fs : List (String × Value)) :
    fieldsToJson fs = fs.map fun f => (f.1, f.2.toJson) := by
  induction fs with
  | nil => rfl
  | cons f fs ih => rw [fieldsToJson, ih, List.map_cons]

theorem FloatFree.plain_toJson {v : Value} (h : v.FloatFree) : v.toJson.Plain := by
  induction h with
  | nil => rw [toJson]; exact .null
  | bool b => rw [toJson]; exact .bool b
  | int n => rw [toJson, Json.ofInt64]; exact .whole ..
  | str s => rw [toJson]; exact .string s
  | sym s => rw [toJson]; exact .string s.name
  | array _ ih =>
    rw [toJson, itemsToJson_eq_map]
    exact .array (List.forall_mem_map.mpr ih)
  | hash _ _ _ ih =>
    rw [toJson, entriesToJson_eq_map]
    exact Json.plain_ofMembers (List.forall_mem_map.mpr ih)
  | object _ _ _ ih =>
    rw [toJson, fieldsToJson_eq_map]
    exact Json.plain_ofMembers (List.forall_mem_map.mpr ih)

end Value

theorem OptionMap.plain_toJson {m : OptionMap} (h : ∀ w ∈ m.values, w.FloatFree) :
    m.toJson.Plain := by
  have members : ∀ e ∈ m.entries, e.2.toJson.Plain := fun e he =>
    (h e.2 (List.mem_map_of_mem he)).plain_toJson
  exact Json.plain_ofMembers (List.forall_mem_map.mpr members)

namespace Ast

theorem plain_node (tag : String) {payload : List Json} (parts : ∀ j ∈ payload, j.Plain) :
    (node tag payload).Plain :=
  .array (List.forall_mem_cons.mpr ⟨.string tag, List.forall_mem_singleton.mpr (.array parts)⟩)

theorem plain_toJson {a : Ast} (h : ∀ w ∈ a.values, w.FloatFree) : a.toJson.Plain := by
  induction a with
  | nominal p ns =>
    have notes := OptionMap.plain_toJson h
    exact plain_node _ (by simpa using ⟨Json.Plain.string p.name, notes⟩)
  | array m ns ih =>
    obtain ⟨member, notes⟩ := List.forall_mem_append.mp h
    exact plain_node _ (by simpa using ⟨ih member, OptionMap.plain_toJson notes⟩)
  | hash options ns =>
    obtain ⟨options, notes⟩ := List.forall_mem_append.mp h
    exact plain_node _ (by simpa using ⟨OptionMap.plain_toJson options, OptionMap.plain_toJson notes⟩)
  | map k v ns ihk ihv =>
    obtain ⟨key, rest⟩ := List.forall_mem_append.mp h
    obtain ⟨value, notes⟩ := List.forall_mem_append.mp rest
    exact plain_node _ (by simpa using ⟨ihk key, ihv value, OptionMap.plain_toJson notes⟩)

theorem read_of_spells {a : Ast} (h : ∀ w ∈ a.values, w.Sorted ∧ w.IsNative ∧ w.FloatFree)
    {s : String} (spelled : Json.Token.Spells s.toList a.toJson.tokens) :
    read s = if a.toJson.depth ≤ 127 then .ok a else .error .notJson := by
  have plain : a.toJson.Plain := plain_toJson fun w hw => (h w hw).2.2
  have native : ∀ w ∈ a.values, w.reread = w := fun w hw =>
    Value.reread_of_native w (h w hw).1 (h w hw).2.1
  have document : ofJson a.toJson = .ok a := (ofJson_toJson_eq_self_iff a).mpr native
  have text : Json.read s = if a.toJson.depth ≤ 127 then some a.toJson else none :=
    plain.readWithin_of_spells Json.maxDepth spelled
  rw [read, text]
  by_cases deep : a.toJson.depth ≤ 127
  · simp only [if_pos deep, document]
  · simp only [if_neg deep]

theorem read_text {a : Ast} (h : ∀ w ∈ a.values, w.Sorted ∧ w.IsNative ∧ w.FloatFree) {s : String}
    (written : s = a.toJson.compact ∨ s = a.toJson.pretty) :
    read s = if a.toJson.depth ≤ 127 then .ok a else .error .notJson := by
  have plain : a.toJson.Plain := plain_toJson fun w hw => (h w hw).2.2
  exact read_of_spells h (plain.spells written)

/-- Arrays of arrays, so many levels of them, and `a` in the innermost. -/
def arrayOf : Nat → Ast → Ast
  | 0, a => a
  | levels + 1, a => .array (arrayOf levels a) .empty

theorem values_arrayOf (levels : Nat) (a : Ast) : (arrayOf levels a).values = a.values := by
  induction levels with
  | zero => rfl
  | succ levels ih =>
    have none : OptionMap.empty.values = [] := rfl
    rw [arrayOf, values, ih, none, List.append_nil]

theorem depth_toJson_arrayOf (levels : Nat) (p : Primitive) :
    (arrayOf levels (nominal p .empty)).toJson.depth = 2 * levels + 3 := by
  induction levels with
  | zero => rfl
  | succ levels ih =>
    have none : OptionMap.empty.toJson = .object [] := rfl
    simp only [arrayOf, toJson, node, Json.depth, Json.depthOfItems, Json.depthOfMembers, none, ih]
    omega

/-- What is written within the limit is read as it was, and what is beyond it is refused. -/
theorem text_round_trip :
    (∀ a : Ast, (∀ w ∈ a.values, w.Sorted ∧ w.IsNative ∧ w.FloatFree) →
      ∀ s, s = a.toJson.compact ∨ s = a.toJson.pretty →
        read s = if a.toJson.depth ≤ 127 then .ok a else .error .notJson) ∧
      ∀ (levels : Nat) (p : Primitive),
        let a := arrayOf levels (nominal p .empty)
        ∀ s, s = a.toJson.compact ∨ s = a.toJson.pretty → (read s = .ok a ↔ 2 * levels + 3 ≤ 127) := by
  refine ⟨fun a h s => read_text h, ?_⟩
  intro levels p a s written
  have bare : a.values = [] := values_arrayOf levels (nominal p .empty)
  have text := read_text (a := a) (by simp [bare]) written
  rw [text, ← depth_toJson_arrayOf levels p]
  by_cases deep : a.toJson.depth ≤ 127
  · simp only [if_pos deep, true_iff]
    exact deep
  · simp only [if_neg deep, reduceCtorEq, false_iff]
    exact deep

theorem text_round_trip_points :
    let w : Value := .hash [(.str "é\t\\", .array [.int (-9223372036854775808), .nil])]
    let a := map (nominal (.builtin .string) (.ofList [(⟨"a \"unit\"\n"⟩, w)]))
      (nominal (.ofClass ⟨"Geo::Point", by decide⟩) .empty) .empty
    let points := nominal (.ofClass ⟨"Geo::Point", by decide⟩) .empty
    (w.Sorted ∧ w.IsNative ∧ w.FloatFree) ∧ read a.toJson.compact = .ok a ∧
      read a.toJson.pretty = .ok a ∧
      read (arrayOf 62 points).toJson.compact = .ok (arrayOf 62 points) ∧
      read (arrayOf 63 points).toJson.pretty = .error .notJson := by
  intro w a points
  have sorted : w.Sorted := by
    simp [w, Value.Sorted, Value.SortedEntries, Value.SortedItems, Entries.Ascending]
  have native : w.IsNative := by
    simp [w, Value.IsNative, Value.NativeEntries, Value.NativeItems]
  have items : ∀ v ∈ [.int (-9223372036854775808), .nil], Value.FloatFree v := by
    simpa using ⟨.int _, .nil⟩
  have free : w.FloatFree := .hash (by simpa using .str _) (by simpa using .array items)
  have labels : ∀ v ∈ a.values, v.Sorted ∧ v.IsNative ∧ v.FloatFree := by
    intro v hv
    obtain rfl : v = w := List.mem_singleton.mp hv
    exact ⟨sorted, native, free⟩
  have back := text_round_trip.1 a labels
  have shallow : a.toJson.depth ≤ 127 := by decide
  have levels : (arrayOf 63 points).toJson.depth = 129 := depth_toJson_arrayOf 63 _
  have deep : ¬(arrayOf 63 points).toJson.depth ≤ 127 := by omega
  have bare : (arrayOf 63 points).values = [] := values_arrayOf 63 points
  refine ⟨⟨sorted, native, free⟩, ?_, ?_, ?_, ?_⟩
  · rw [back _ (.inl rfl), if_pos shallow]
  · rw [back _ (.inr rfl), if_pos shallow]
  · exact (text_round_trip.2 62 _ (arrayOf 62 points).toJson.compact (.inl rfl)).mpr (by decide)
  · rw [text_round_trip.1 (arrayOf 63 points) (by simp [bare]) _ (.inr rfl), if_neg deep]

end Ast
end ValueTypes
