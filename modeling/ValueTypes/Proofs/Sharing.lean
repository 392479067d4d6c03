import ValueTypes.OptionMap.Stored
import ValueTypes.Proofs.OptionMap

namespace ValueTypes

namespace OptionMap

theorem isEmpty_iff (m : OptionMap) : m.isEmpty = true ↔ m = .empty := by
  obtain ⟨es, asc⟩ := m
  simp only [isEmpty, empty, List.isEmpty_iff, OptionMap.mk.injEq]

theorem isEmpty_insert (m : OptionMap) (k : Symbol) (v : Value) : (m.insert k v).isEmpty = false :=
  List.isEmpty_eq_false_iff.mpr (Entries.insert_ne_nil k v m.entries)

theorem isEmpty_merge {lower upper : OptionMap} (filled : lower.isEmpty = false) :
    (lower.merge upper).isEmpty = false := by
  unfold merge
  by_cases blank : upper.isEmpty = true
  · rwa [if_pos blank]
  · have kept : Entries.layer Symbol.cmp lower.entries upper.entries ≠ [] :=
      Entries.layer_ne_nil (List.isEmpty_eq_false_iff.mp filled) upper.entries
    simp only [blank, filled, Bool.false_eq_true, if_false]
    exact List.isEmpty_eq_false_iff.mpr kept

end OptionMap

namespace StoredMap

/-- What finitely many operations make, each from nothing or from maps made before. -/
inductive Made : StoredMap → Prop
  | new : Made .new
  | default : Made default
  | ofList (ps : List (Symbol × Value)) : Made (ofList ps)
  | read {text : String} {s : StoredMap} (done : read text = some s) : Made s
  | ofJson {j : Json} {s : StoredMap} (done : ofJson? j = some s) : Made s
  | insert {s : StoredMap} (made : Made s) (k : Symbol) (v : Value) : Made (s.insert k v)
  | merge {lower upper : StoredMap} (below : Made lower) (above : Made upper) :
    Made (lower.merge upper)
  | erase {s : StoredMap} (made : Made s) (k : Symbol) : Made (s.erase k)

def Placed (s : StoredMap) : Prop := s.shared = true ↔ s.map.isEmpty = true

theorem placed_new : new.Placed := by simp [Placed, new, OptionMap.isEmpty, OptionMap.empty]

/-- A store of its own is right for a map that has entries. -/
theorem placed_own {m : OptionMap} (filled : m.isEmpty = false) : (StoredMap.mk m false).Placed := by
  simp [Placed, filled]

theorem ofMap_eq (m : OptionMap) : ofMap m = ⟨m, m.isEmpty⟩ := by
  unfold ofMap
  cases blank : m.isEmpty with
  | true =>
    cases (OptionMap.isEmpty_iff m).mp blank
    rfl
  | false => rfl

/- Each operation keeps maps placed. -/

theorem placed_ofMap (m : OptionMap) : (ofMap m).Placed := by
  rw [ofMap_eq]
  exact Iff.rfl

theorem Placed.merge {lower upper : StoredMap} (below : lower.Placed) (above : upper.Placed) :
    (lower.merge upper).Placed := by
  -- Either side may come back as it is; a new store is taken if neither is empty.
  unfold StoredMap.merge
  split
  · exact below
  split
  · exact above
  · rename_i filled
    exact placed_own (OptionMap.isEmpty_merge (Bool.eq_false_iff.mpr filled))

theorem Placed.erase {s : StoredMap} (placed : s.Placed) (k : Symbol) : (s.erase k).Placed := by
  unfold StoredMap.erase
  split
  · exact placed_ofMap _
  · exact placed

theorem Made.placed {s : StoredMap} (made : Made s) : s.Placed := by
  induction made with
  | new => exact placed_new
  | default => exact placed_new
  | ofList ps => exact placed_ofMap _
  | read done =>
    obtain ⟨m, -, rfl⟩ := Option.map_eq_some_iff.mp done
    exact placed_ofMap m
  | ofJson done =>
    obtain ⟨m, -, rfl⟩ := Option.map_eq_some_iff.mp done
    exact placed_ofMap m
  | insert _ k v _ => exact placed_own (OptionMap.isEmpty_insert _ k v)
  | merge _ _ below above => exact below.merge above
  | erase _ k ih => exact ih.erase k

/-- The maps that can be made are those that are shared if and only if they are empty: no map without
entries has a store of its own, and none with entries sits in the store of the empty ones. -/
theorem made_iff_shared_iff_empty (s : StoredMap) :
    Made s ↔ (s.shared = true ↔ s.map.isEmpty = true) := by
  constructor
  · exact Made.placed
  · intro placed
    obtain ⟨m, shared⟩ := s
    have same : shared = m.isEmpty := Bool.eq_iff_iff.mpr placed
    have made : Made (ofList m.entries) := .ofList m.entries
    rwa [ofList, OptionMap.ofList_entries, ofMap_eq, ← same] at made

end StoredMap
end ValueTypes
