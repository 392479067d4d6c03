import ValueTypes.Proofs.Rounding
import ValueTypes.Proofs.Sorted
import ValueTypes.Value.Document

namespace ValueTypes.Value

/- Without symbols and objects, without floats that are not finite, and with strings as the keys of
all hashes, at every depth. -/
mutual

def IsNative : Value → Prop
  | .float x => x.isFinite = true
  | .sym _ => False
  | .array vs => NativeItems vs
  | .hash es => NativeEntries es
  | .object .. => False
  | _ => True

def NativeItems : List Value → Prop
  | [] => True
  | v :: vs => IsNative v ∧ NativeItems vs

def NativeEntries : List (Value × Value) → Prop
  | [] => True
  | (k, v) :: es => ((∃ s, k = .str s) ∧ IsNative v) ∧ NativeEntries es

end

/-- The value as it comes back from the document it is written to. -/
def reread (v : Value) : Value := ofJson v.toJson

theorem nativeItems_iff (vs : List Value) : NativeItems vs ↔ ∀ v ∈ vs, v.IsNative := by
  induction vs with
  | nil => simp [NativeItems]
  | cons v vs ih => rw [NativeItems, List.forall_mem_cons, ih]

theorem nativeEntries_iff (es : List (Value × Value)) :
    NativeEntries es ↔ ∀ e ∈ es, (∃ s, e.1 = .str s) ∧ e.2.IsNative := by
  induction es with
  | nil => simp [NativeEntries]
  | cons e es ih => rw [NativeEntries, List.forall_mem_cons, ih]

/- Reading a document. -/

theorem native_ofNumber (n : Json.Number) : (ofNumber n).IsNative := by
  cases n with
  | int n low high =>
    rw [ofNumber]
    split
    · simp [IsNative]
    · rw [IsNative]
      exact Binary64.isFinite_ofMagnitude (Binary64.ofNat_lt_infinity (by omega))
  | float x finite =>
    rw [ofNumber, IsNative]
    exact finite

theorem sorted_ofNumber (n : Json.Number) : (ofNumber n).Sorted := by
  cases n with
  | int n low high =>
    rw [ofNumber]
    split <;> simp [Sorted]
  | float x finite => simp [ofNumber, Sorted]

theorem native_ofEntries {es : List (Value × Value)} (h : NativeEntries es) :
    (ofEntries es).IsNative := by
  rw [ofEntries, IsNative, nativeEntries_iff]
  exact fun e he => (nativeEntries_iff es).mp h e (Entries.mem_of_mem_ofList he)

mutual

theorem native_ofJson : ∀ j : Json, (ofJson j).IsNative
  | .null => by simp [ofJson, IsNative]
  | .bool b => by simp [ofJson, IsNative]
  | .number n => by rw [ofJson]; exact native_ofNumber n
  | .string s => by simp [ofJson, IsNative]
  | .array js => by rw [ofJson, IsNative]; exact native_itemsOfJson js
  | .object ms => by rw [ofJson]; exact native_ofEntries (native_entriesOfJson ms)

theorem native_itemsOfJson : ∀ js : List Json, NativeItems (itemsOfJson js)
  | [] => by simp [itemsOfJson, NativeItems]
  | j :: js => by
    rw [itemsOfJson, NativeItems]
    exact ⟨native_ofJson j, native_itemsOfJson js⟩

theorem native_entriesOfJson : ∀ ms : List (String × Json), NativeEntries (entriesOfJson ms)
  | [] => by simp [entriesOfJson, NativeEntries]
  | (n, j) :: ms => by
    rw [entriesOfJson, NativeEntries]
    exact ⟨⟨⟨n, rfl⟩, native_ofJson j⟩, native_entriesOfJson ms⟩

end

mutual

theorem sorted_ofJson : ∀ j : Json, (ofJson j).Sorted
  | .null => by simp [ofJson, Sorted]
  | .bool b => by simp [ofJson, Sorted]
  | .number n => by rw [ofJson]; exact sorted_ofNumber n
  | .string s => by simp [ofJson, Sorted]
  | .array js => by rw [ofJson, Sorted]; exact sorted_itemsOfJson js
  | .object ms => by
    rw [ofJson]
    exact sorted_ofEntries ((sortedEntries_iff _).mp (sorted_entriesOfJson ms))

theorem sorted_itemsOfJson : ∀ js : List Json, SortedItems (itemsOfJson js)
  | [] => by simp [itemsOfJson, SortedItems]
  | j :: js => by
    rw [itemsOfJson, SortedItems]
    exact ⟨sorted_ofJson j, sorted_itemsOfJson js⟩

theorem sorted_entriesOfJson : ∀ ms : List (String × Json), SortedEntries (entriesOfJson ms)
  | [] => by simp [entriesOfJson, SortedEntries]
  | (n, j) :: ms => by
    rw [entriesOfJson, SortedEntries]
    exact ⟨⟨by simp [Sorted], sorted_ofJson j⟩, sorted_entriesOfJson ms⟩

end

/- Writing a native value and reading it again. -/

theorem itemsToJson_eq_map (vs : List Value) : itemsToJson vs = vs.map toJson := by
  induction vs with
  | nil => rfl
  | cons v vs ih => rw [itemsToJson, ih, List.map_cons]

theorem entriesToJson_eq_map (es : List (Value × Value)) :
    entriesToJson es = es.map fun e => (e.1.keyName, e.2.toJson) := by
  induction es with
  | nil => rfl
  | cons e es ih => rw [entriesToJson, ih, List.map_cons]

theorem ascending_entriesToJson {es : List (Value × Value)} (asc : Entries.Ascending cmp es)
    (native : NativeEntries es) : Entries.Ascending compare (entriesToJson es) := by
  rw [entriesToJson_eq_map, Entries.Ascending, List.pairwise_map]
  refine asc.imp_of_mem fun {a b} ha hb lt => ?_
  obtain ⟨⟨s, hs⟩, -⟩ := (nativeEntries_iff es).mp native a ha
  obtain ⟨⟨t, ht⟩, -⟩ := (nativeEntries_iff es).mp native b hb
  rw [hs, ht, cmp] at lt
  simpa only [hs, ht, keyName] using lt

mutual

theorem reread_of_native : ∀ v : Value, v.Sorted → v.IsNative → v.reread = v
  | .nil, _, _ => by rw [reread, toJson, ofJson]
  | .bool b, _, _ => by rw [reread, toJson, ofJson]
  | .int n, _, _ => by
    have low : n.toInt < 0x8000000000000000 := n.toInt_lt
    rw [reread, toJson, Json.ofInt64, ofJson, ofNumber, if_pos low, Int64.ofInt_toInt]
  | .float x, _, native => by
    rw [IsNative] at native
    rw [reread, toJson, floatToJson, dif_pos native, ofJson, ofNumber]
  | .str s, _, _ => by rw [reread, toJson, ofJson]
  | .sym s, _, native => by simp [IsNative] at native
  | .array vs, sorted, native => by
    rw [Sorted] at sorted
    rw [IsNative] at native
    rw [reread, toJson, ofJson, itemsOfJson_itemsToJson vs sorted native]
  | .hash es, sorted, native => by
    rw [Sorted] at sorted
    rw [IsNative] at native
    rw [reread, toJson, Json.ofMembers, Entries.ofList_eq_self (ascending_entriesToJson sorted.1 native),
      ofJson, entriesOfJson_entriesToJson es sorted.2 native, ofEntries_eq_self sorted.1]
  | .object .., _, native => by simp [IsNative] at native

theorem itemsOfJson_itemsToJson : ∀ vs : List Value, SortedItems vs → NativeItems vs →
    itemsOfJson (itemsToJson vs) = vs
  | [], _, _ => by rw [itemsToJson, itemsOfJson]
  | v :: vs, sorted, native => by
    rw [SortedItems] at sorted
    rw [NativeItems] at native
    rw [itemsToJson, itemsOfJson, ← reread, reread_of_native v sorted.1 native.1,
      itemsOfJson_itemsToJson vs sorted.2 native.2]

theorem entriesOfJson_entriesToJson : ∀ es : List (Value × Value), SortedEntries es →
    NativeEntries es → entriesOfJson (entriesToJson es) = es
  | [], _, _ => by rw [entriesToJson, entriesOfJson]
  | (k, v) :: es, sorted, native => by
    rw [SortedEntries] at sorted
    rw [NativeEntries] at native
    obtain ⟨s, rfl⟩ := native.1.1
    rw [entriesToJson, entriesOfJson, ← reread, reread_of_native v sorted.1.2 native.1.2,
      entriesOfJson_entriesToJson es sorted.2 native.2, keyName]

end

theorem reread_eq_self_iff {v : Value} (sorted : v.Sorted) : v.reread = v ↔ v.IsNative := by
  constructor
  · intro h
    rw [← h]
    exact native_ofJson v.toJson
  · exact reread_of_native v sorted

theorem reread_ofJson (j : Json) : (ofJson j).reread = ofJson j :=
  reread_of_native (ofJson j) (sorted_ofJson j) (native_ofJson j)

end ValueTypes.Value
