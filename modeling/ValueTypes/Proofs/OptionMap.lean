import ValueTypes.OptionMap
import ValueTypes.Proofs.Native

namespace ValueTypes.OptionMap

theorem merge_empty (m : OptionMap) : m.merge .empty = m := rfl

theorem empty_merge (m : OptionMap) : OptionMap.empty.merge m = m := by
  obtain ⟨es, asc⟩ := m
  cases es with
  | nil => rfl
  | cons e es => rfl

theorem entries_foldl_insert (ps : List (Symbol × Value)) (m : OptionMap) :
    (ps.foldl (fun m n => m.insert n.1 n.2) m).entries = Entries.layer Symbol.cmp m.entries ps := by
  induction ps generalizing m with
  | nil => rfl
  | cons n ps ih => exact ih (m.insert n.1 n.2)

theorem ofList_eq_foldl (ps : List (Symbol × Value)) :
    ofList ps = ps.foldl (fun m n => m.insert n.1 n.2) .empty := by
  have entries := entries_foldl_insert ps .empty
  exact OptionMap.mk.injEq .. |>.mpr entries.symm

theorem ofList_entries (m : OptionMap) : ofList m.entries = m := by
  obtain ⟨es, asc⟩ := m
  simp only [ofList, OptionMap.mk.injEq]
  exact Entries.ofList_eq_self asc

def values (m : OptionMap) : List Value := m.entries.map (·.2)

def mapValues (f : Value → Value) (m : OptionMap) : OptionMap :=
  ⟨m.entries.map fun e => (e.1, f e.2), m.ascending.map_value fun _ => f⟩

theorem mapValues_eq_self_iff (f : Value → Value) (m : OptionMap) :
    m.mapValues f = m ↔ ∀ w ∈ m.values, f w = w := by
  obtain ⟨es, asc⟩ := m
  simp only [mapValues, values, OptionMap.mk.injEq, List.forall_mem_map]
  exact Entries.map_value_eq_self_iff

theorem toJson_eq (m : OptionMap) :
    m.toJson = .object (m.entries.map fun e => (e.1.name, e.2.toJson)) := by
  have asc : Entries.Ascending compare (m.entries.map fun e => (e.1.name, e.2.toJson)) :=
    List.pairwise_map.mpr m.ascending
  rw [toJson, Json.ofMembers, Entries.ofList_eq_self asc]

theorem ofMembers_toJson (m : OptionMap) :
    ofMembers (m.entries.map fun e => (e.1.name, e.2.toJson)) = m.mapValues .reread := by
  have asc := (m.mapValues .reread).ascending
  simp only [ofMembers, ofList, mapValues, List.map_map, OptionMap.mk.injEq]
  exact Entries.ofList_eq_self asc

/-- A map is written as an object, whose members hold the map with each value as it comes back. -/
theorem toJson_members (m : OptionMap) :
    ∃ ms, m.toJson = .object ms ∧ ofMembers ms = m.mapValues .reread :=
  ⟨_, m.toJson_eq, m.ofMembers_toJson⟩

theorem reread_of_mem_ofMembers {ms : List (String × Json)} {w : Value}
    (h : w ∈ (ofMembers ms).values) : w.reread = w := by
  obtain ⟨e, he, rfl⟩ := List.mem_map.mp h
  obtain ⟨m, -, rfl⟩ := List.mem_map.mp (Entries.mem_of_mem_ofList he)
  exact Value.reread_ofJson m.2

end ValueTypes.OptionMap
