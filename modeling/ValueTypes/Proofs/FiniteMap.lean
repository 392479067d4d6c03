import ValueTypes.Proofs.Lookup
import ValueTypes.Proofs.OptionMap
import ValueTypes.Proofs.Sharing

namespace ValueTypes

namespace OptionMap

/- What is found after each operation. -/

@[simp]
theorem find?_insert (m : OptionMap) (k l : Symbol) (v : Value) :
    (m.insert k v).find? l = if l = k then some v else m.find? l := by
  simp only [find?, insert, Entries.find?_insert, Std.LawfulEqCmp.compare_eq_iff_eq]

@[simp]
theorem find?_erase (m : OptionMap) (k l : Symbol) :
    (m.erase k).find? l = if l = k then none else m.find? l := by
  simp only [find?, erase, Entries.find?_erase, Std.LawfulEqCmp.compare_eq_iff_eq]

/-- Where one side is empty, layering would come to the same. -/
theorem entries_merge (lower upper : OptionMap) :
    (lower.merge upper).entries = Entries.layer Symbol.cmp lower.entries upper.entries := by
  by_cases above : upper.isEmpty = true
  · cases (isEmpty_iff upper).mp above
    rfl
  by_cases below : lower.isEmpty = true
  · cases (isEmpty_iff lower).mp below
    rw [empty_merge]
    exact (Entries.ofList_eq_self upper.ascending).symm
  · rw [merge, if_neg above, if_neg below]

@[simp]
theorem find?_merge (lower upper : OptionMap) (k : Symbol) :
    (lower.merge upper).find? k = (upper.find? k).or (lower.find? k) := by
  rw [find?, entries_merge]
  exact Entries.find?_layer k lower.entries upper.ascending

@[simp]
theorem find?_singleton (k l : Symbol) (v : Value) :
    (ofList [(k, v)]).find? l = if l = k then some v else none := by
  rw [ofList_eq_foldl]
  exact find?_insert .empty k l v

/- What is found makes up the map. -/

theorem ext_find? {m n : OptionMap} (same : ∀ k, m.find? k = n.find? k) : m = n := by
  obtain ⟨es, asc⟩ := m
  obtain ⟨fs, asc'⟩ := n
  simp only [OptionMap.mk.injEq]
  exact Entries.eq_of_find?_eq asc asc' same

def keys (m : OptionMap) : List Symbol := m.entries.map Prod.fst

theorem mem_keys_iff (m : OptionMap) (k : Symbol) : k ∈ m.keys ↔ (m.find? k).isSome = true := by
  simp only [keys, List.mem_map, Prod.exists, exists_and_right, exists_eq_right,
    Entries.mem_iff_find? m.ascending, Option.isSome_iff_exists]
  exact Iff.rfl

/- Laws. -/

theorem merge_assoc (a b c : OptionMap) : (a.merge b).merge c = a.merge (b.merge c) := by
  refine ext_find? fun k => ?_
  simp [Option.or_assoc]

theorem merge_self (m : OptionMap) : m.merge m = m := by
  refine ext_find? fun k => ?_
  simp

theorem insert_eq_merge (m : OptionMap) (k : Symbol) (v : Value) :
    m.insert k v = m.merge (ofList [(k, v)]) := by
  refine ext_find? fun l => ?_
  by_cases here : l = k <;> simp [here]

theorem insert_comm (m : OptionMap) {k l : Symbol} (v w : Value) (apart : l ≠ k) :
    (m.insert k v).insert l w = (m.insert l w).insert k v := by
  refine ext_find? fun j => ?_
  by_cases here : j = l <;> simp [here, apart]

theorem erase_insert_comm (m : OptionMap) {k l : Symbol} (v : Value) (apart : l ≠ k) :
    (m.insert k v).erase l = (m.erase l).insert k v := by
  refine ext_find? fun j => ?_
  by_cases here : j = l <;> simp [here, apart]

theorem erase_comm (m : OptionMap) (k l : Symbol) : (m.erase k).erase l = (m.erase l).erase k := by
  refine ext_find? fun j => ?_
  by_cases here : j = l <;> simp [here]

theorem erase_of_not_contains {m : OptionMap} {k : Symbol} (absent : m.contains k = false) :
    m.erase k = m := by
  have unbound : m.find? k = none := Option.isNone_iff_eq_none.mp (Option.isSome_eq_false_iff.mp absent)
  refine ext_find? fun l => ?_
  by_cases here : l = k <;> simp [here, unbound]

end OptionMap

namespace StoredMap

/- The map that an operation leads to does not depend on where maps are stored. -/

@[simp]
theorem map_ofMap (m : OptionMap) : (ofMap m).map = m := by rw [ofMap_eq]

@[simp]
theorem map_insert (s : StoredMap) (k : Symbol) (v : Value) :
    (s.insert k v).map = s.map.insert k v := rfl

@[simp]
theorem map_merge (lower upper : StoredMap) :
    (lower.merge upper).map = lower.map.merge upper.map := by
  by_cases above : upper.map.isEmpty = true
  · rw [merge, OptionMap.merge, if_pos above, if_pos above]
  by_cases below : lower.map.isEmpty = true
  · rw [merge, OptionMap.merge, if_neg above, if_neg above, if_pos below, if_pos below]
  · rw [merge, if_neg above, if_neg below]

@[simp]
theorem map_erase (s : StoredMap) (k : Symbol) : (s.erase k).map = s.map.erase k := by
  unfold StoredMap.erase
  split
  · exact map_ofMap _
  · rename_i absent
    exact (OptionMap.erase_of_not_contains (Bool.eq_false_iff.mpr absent)).symm

theorem map_foldl_insert (ps : List (Symbol × Value)) (s : StoredMap) :
    (ps.foldl (fun s p => s.insert p.1 p.2) s).map =
      ps.foldl (fun m p => m.insert p.1 p.2) s.map := by
  induction ps generalizing s with
  | nil => rfl
  | cons p ps ih => exact ih (s.insert p.1 p.2)

/-- What is found in a map after each operation, and that it makes up the map. -/
structure ActsAsFiniteMap (a : StoredMap) : Prop where
  find?_insert : ∀ k v l, (a.insert k v).map.find? l = if l = k then some v else a.map.find? l
  find?_merge : ∀ b l, (a.merge b).map.find? l = (b.map.find? l).or (a.map.find? l)
  find?_erase : ∀ k l, (a.erase k).map.find? l = if l = k then none else a.map.find? l
  size : ∃ ks : List Symbol, ks.Nodup ∧ (∀ l, l ∈ ks ↔ (a.map.find? l).isSome = true) ∧
    a.map.size = ks.length
  ext_iff : ∀ b : StoredMap, a.map = b.map ↔ ∀ l, a.map.find? l = b.map.find? l

structure MergeLaws (a : StoredMap) : Prop where
  assoc : ∀ b c, ((a.merge b).merge c).map = (a.merge (b.merge c)).map
  idempotent : (a.merge a).map = a.map
  merge_empty : (a.merge new).map = a.map
  empty_merge : (new.merge a).map = a.map
  insert_eq : ∀ k v, (a.insert k v).map = (a.merge (ofList [(k, v)])).map

/-- What is done under two keys can be done in either order. -/
structure Commutes (a : StoredMap) (k l : Symbol) : Prop where
  inserts : ∀ v w, ((a.insert k v).insert l w).map = ((a.insert l w).insert k v).map
  erase_insert : ∀ v, ((a.insert k v).erase l).map = ((a.erase l).insert k v).map
  erases : ((a.erase k).erase l).map = ((a.erase l).erase k).map

theorem actsAsFiniteMap (a : StoredMap) : a.ActsAsFiniteMap where
  find?_insert k v l := by rw [map_insert, OptionMap.find?_insert]
  find?_merge b l := by rw [map_merge, OptionMap.find?_merge]
  find?_erase k l := by rw [map_erase, OptionMap.find?_erase]
  size := ⟨a.map.keys, a.map.ascending.keys_nodup, a.map.mem_keys_iff, (List.length_map ..).symm⟩
  ext_iff b := ⟨fun same l => by rw [same], OptionMap.ext_find?⟩

theorem mergeLaws (a : StoredMap) : a.MergeLaws where
  assoc b c := by simp only [map_merge, OptionMap.merge_assoc]
  idempotent := by rw [map_merge, OptionMap.merge_self]
  merge_empty := map_merge a new
  empty_merge := by
    rw [map_merge]
    exact OptionMap.empty_merge a.map
  insert_eq k v := by
    rw [map_merge, ofList, map_ofMap]
    exact OptionMap.insert_eq_merge a.map k v

theorem commutes (a : StoredMap) {k l : Symbol} (apart : l ≠ k) : a.Commutes k l where
  inserts v w := OptionMap.insert_comm a.map v w apart
  erase_insert v := by
    rw [map_erase, map_insert, map_insert, map_erase, OptionMap.erase_insert_comm _ v apart]
  erases := by simp only [map_erase, OptionMap.erase_comm]

/-- Stored maps are finite maps: each operation does to what is found what it does to a finite map, the
size is the number of keys under which something is found, and maps are equal if the same is found in
both. So laying over is associative and idempotent, and what is about different keys commutes. -/
theorem finite_map_laws (a : StoredMap) :
    a.ActsAsFiniteMap ∧ a.MergeLaws ∧ (∀ k l, l ≠ k → a.Commutes k l) ∧
      ∀ ps, (ofList ps).map = (ps.foldl (fun s p => s.insert p.1 p.2) new).map := by
  refine ⟨a.actsAsFiniteMap, a.mergeLaws, fun k l apart => a.commutes apart, fun ps => ?_⟩
  rw [map_foldl_insert, ofList, map_ofMap]
  exact OptionMap.ofList_eq_foldl ps

theorem finite_map_laws_shadowed :
    let a := ofList [(⟨"index"⟩, .int 1), (⟨"key"⟩, .nil), (⟨"index"⟩, .int 2)]
    let b := new.insert ⟨"key"⟩ (.bool true)
    (⟨"index"⟩ : Symbol) ≠ ⟨"key"⟩ ∧
      (a.merge b).map.find? ⟨"key"⟩ = some (.bool true) ∧
      (a.merge b).map.find? ⟨"index"⟩ = some (.int 2) ∧
      ((a.insert ⟨"key"⟩ .nil).erase ⟨"index"⟩).map = ((a.erase ⟨"index"⟩).insert ⟨"key"⟩ .nil).map := by
  intro a b
  have apart : (⟨"index"⟩ : Symbol) ≠ ⟨"key"⟩ := by decide
  obtain ⟨acts, -, commute, -⟩ := finite_map_laws a
  refine ⟨apart, ?_, ?_, (commute _ _ apart).erase_insert .nil⟩
  · rw [acts.find?_merge]
    rfl
  · rw [acts.find?_merge]
    rfl

end StoredMap
end ValueTypes
