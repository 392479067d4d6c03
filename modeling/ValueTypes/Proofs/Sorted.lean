import ValueTypes.Proofs.Entries
import ValueTypes.Proofs.Order

namespace ValueTypes.Value

theorem sortedItems_iff (vs : List Value) : SortedItems vs ↔ ∀ v ∈ vs, v.Sorted := by
  induction vs with
  | nil => simp [SortedItems]
  | cons v vs ih => rw [SortedItems, List.forall_mem_cons, ih]

theorem sortedEntries_iff (es : List (Value × Value)) :
    SortedEntries es ↔ ∀ e ∈ es, e.1.Sorted ∧ e.2.Sorted := by
  induction es with
  | nil => simp [SortedEntries]
  | cons e es ih => rw [SortedEntries, List.forall_mem_cons, ih]

theorem ofEntries_eq_self {es : List (Value × Value)} (h : Entries.Ascending cmp es) :
    ofEntries es = .hash es := by
  rw [ofEntries, Entries.ofList_eq_self h]

theorem sorted_ofEntries {es : List (Value × Value)} (h : ∀ e ∈ es, e.1.Sorted ∧ e.2.Sorted) :
    (ofEntries es).Sorted := by
  rw [ofEntries, Sorted, sortedEntries_iff]
  exact ⟨Entries.ascending_ofList es, fun e he => h e (Entries.mem_of_mem_ofList he)⟩

end ValueTypes.Value
