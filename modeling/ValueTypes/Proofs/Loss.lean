import ValueTypes.Proofs.Native

/-!
What is lost between documents and values. A document comes back from its value unless it holds a whole
number beyond the signed words, which has become a float by then. A value comes back from its document
exactly if it is native, and what has come back once is not changed by going round again.
-/
namespace ValueTypes

namespace Json

/-- Members stand in ascending order of their names, at every depth. -/
inductive Ordered : Json → Prop
  | null : Ordered .null
  | bool (b : Bool) : Ordered (.bool b)
  | number (n : Number) : Ordered (.number n)
  | string (s : String) : Ordered (.string s)
  | array {items : List Json} (parts : ∀ j ∈ items, Ordered j) : Ordered (.array items)
  | object {ms : List (String × Json)} (ascending : Entries.Ascending compare ms)
    (parts : ∀ m ∈ ms, Ordered m.2) : Ordered (.object ms)

/-- A whole number above those that a signed word of 64 bits holds. -/
def Number.IsLarge : Number → Prop
  | .int n _ _ => 0x7fffffffffffffff < n
  | .float .. => False

/- The numbers of a document, at every depth. -/
mutual

def numbers : Json → List Number
  | .number n => [n]
  | .array js => numbersOfItems js
  | .object ms => numbersOfMembers ms
  | _ => []

def numbersOfItems : List Json → List Number
  | [] => []
  | j :: js => numbers j ++ numbersOfItems js

def numbersOfMembers : List (String × Json) → List Number
  | [] => []
  | (_, j) :: ms => numbers j ++ numbersOfMembers ms

end

theorem forall_mem_numbersOfItems {p : Number → Prop} (js : List Json) :
    (∀ n ∈ numbersOfItems js, p n) ↔ ∀ j ∈ js, ∀ n ∈ j.numbers, p n := by
  induction js with
  | nil => simp [numbersOfItems]
  | cons j js ih => rw [numbersOfItems, List.forall_mem_append, List.forall_mem_cons, ih]

theorem forall_mem_numbersOfMembers {p : Number → Prop} (ms : List (String × Json)) :
    (∀ n ∈ numbersOfMembers ms, p n) ↔ ∀ m ∈ ms, ∀ n ∈ m.2.numbers, p n := by
  induction ms with
  | nil => simp [numbersOfMembers]
  | cons m ms ih => rw [numbersOfMembers, List.forall_mem_append, List.forall_mem_cons, ih]

end Json

namespace Value

/- The floats of a value, also those in the keys of hashes and the fields of objects. -/
mutual

def floats : Value → List Binary64
  | .float x => [x]
  | .array vs => floatsOfItems vs
  | .hash es => floatsOfEntries es
  | .object _ _ fs => floatsOfFields fs
  | _ => []

def floatsOfItems : List Value → List Binary64
  | [] => []
  | v :: vs => floats v ++ floatsOfItems vs

def floatsOfEntries : List (Value × Value) → List Binary64
  | [] => []
  | (k, v) :: es => floats k ++ floats v ++ floatsOfEntries es

def floatsOfFields : List (String × Value) → List Binary64
  | [] => []
  | (_, v) :: fs => floats v ++ floatsOfFields fs

end

mutual

theorem isFinite_of_native : ∀ v : Value, v.IsNative → ∀ x ∈ v.floats, x.isFinite = true
  | .float x, native => by
    rw [IsNative] at native
    rw [floats, List.forall_mem_singleton]
    exact native
  | .array vs, native => by
    rw [IsNative] at native
    rw [floats]
    exact isFinite_of_nativeItems vs native
  | .hash es, native => by
    rw [IsNative] at native
    rw [floats]
    exact isFinite_of_nativeEntries es native
  | .object .., native => by simp [IsNative] at native
  | .nil, _ | .bool _, _ | .int _, _ | .str _, _ | .sym _, _ => by simp [floats]

theorem isFinite_of_nativeItems : ∀ vs : List Value, NativeItems vs →
    ∀ x ∈ floatsOfItems vs, x.isFinite = true
  | [], _ => by simp [floatsOfItems]
  | v :: vs, native => by
    rw [NativeItems] at native
    rw [floatsOfItems, List.forall_mem_append]
    exact ⟨isFinite_of_native v native.1, isFinite_of_nativeItems vs native.2⟩

theorem isFinite_of_nativeEntries : ∀ es : List (Value × Value), NativeEntries es →
    ∀ x ∈ floatsOfEntries es, x.isFinite = true
  | [], _ => by simp [floatsOfEntries]
  | (k, v) :: es, native => by
    rw [NativeEntries] at native
    obtain ⟨⟨⟨s, rfl⟩, value⟩, rest⟩ := native
    have key : ∀ x ∈ (Value.str s).floats, x.isFinite = true := by simp [floats]
    rw [floatsOfEntries, List.forall_mem_append, List.forall_mem_append]
    exact ⟨⟨key, isFinite_of_native v value⟩, isFinite_of_nativeEntries es rest⟩

end

/- From a document to its value and back. -/

theorem toJson_ofNumber_of_fits {n : Int} (low : -0x8000000000000000 ≤ n)
    (high : n < 0x10000000000000000) (fits : n < 0x8000000000000000) :
    (ofNumber (.int n low high)).toJson = .number (.int n low high) := by
  have back : (Int64.ofInt n).toInt = n := Int64.toInt_ofInt_of_le low fits
  rw [ofNumber, if_pos fits, toJson, Json.ofInt64]
  simp only [back]

/-- Once rounded to a float, a whole number is written as a float. -/
theorem toJson_ofNumber_of_large {n : Int} (low : -0x8000000000000000 ≤ n)
    (high : n < 0x10000000000000000) (large : ¬n < 0x8000000000000000) :
    (ofNumber (.int n low high)).toJson ≠ .number (.int n low high) := by
  rw [ofNumber, if_neg large, toJson, floatToJson]
  split <;> simp

theorem toJson_ofNumber_eq_iff (n : Json.Number) :
    (ofNumber n).toJson = .number n ↔ ¬n.IsLarge := by
  cases n with
  | int n low high =>
    by_cases fits : n < 0x8000000000000000
    · have small : ¬0x7fffffffffffffff < n := by omega
      exact iff_of_true (toJson_ofNumber_of_fits low high fits) small
    · have large : 0x7fffffffffffffff < n := by omega
      exact iff_of_false (toJson_ofNumber_of_large low high fits) (not_not_intro large)
  | float x finite =>
    rw [ofNumber, toJson, floatToJson, dif_pos finite]
    exact iff_of_true rfl id

theorem itemsOfJson_eq_map (js : List Json) : itemsOfJson js = js.map ofJson := by
  induction js with
  | nil => rfl
  | cons j js ih => rw [itemsOfJson, ih, List.map_cons]

theorem entriesOfJson_eq_map (ms : List (String × Json)) :
    entriesOfJson ms = ms.map fun m => (.str m.1, ofJson m.2) := by
  induction ms with
  | nil => rfl
  | cons m ms ih => rw [entriesOfJson, ih, List.map_cons]

theorem toJson_ofJson_array (js : List Json) :
    (ofJson (.array js)).toJson = .array (js.map fun j => (ofJson j).toJson) := by
  rw [ofJson, toJson, itemsOfJson_eq_map, itemsToJson_eq_map, List.map_map]
  rfl

theorem toJson_ofJson_object {ms : List (String × Json)} (asc : Entries.Ascending compare ms) :
    (ofJson (.object ms)).toJson = .object (ms.map fun m => (m.1, (ofJson m.2).toJson)) := by
  have keys : Entries.Ascending cmp (entriesOfJson ms) := by
    rw [entriesOfJson_eq_map, Entries.Ascending, List.pairwise_map]
    refine asc.imp fun lt => ?_
    rw [cmp]
    exact lt
  have written : entriesToJson (entriesOfJson ms) = ms.map fun m => (m.1, (ofJson m.2).toJson) := by
    rw [entriesOfJson_eq_map, entriesToJson_eq_map, List.map_map]
    rfl
  rw [ofJson, ofEntries_eq_self keys, toJson, written, Json.ofMembers,
    Entries.ofList_eq_self (asc.map_value fun _ j => (ofJson j).toJson)]

theorem toJson_ofJson_eq_iff {j : Json} (ordered : j.Ordered) :
    (ofJson j).toJson = j ↔ ∀ n ∈ j.numbers, ¬n.IsLarge := by
  induction ordered with
  | null => simp [ofJson, toJson, Json.numbers]
  | bool b => simp [ofJson, toJson, Json.numbers]
  | number n => rw [ofJson, toJson_ofNumber_eq_iff, Json.numbers, List.forall_mem_singleton]
  | string s => simp [ofJson, toJson, Json.numbers]
  | @array items _ ih =>
    rw [toJson_ofJson_array, Json.array.injEq, Entries.map_eq_self_iff, Json.numbers,
      Json.forall_mem_numbersOfItems]
    exact forall₂_congr ih
  | @object ms ascending _ ih =>
    have same : ms.map (fun m => (m.1, (ofJson m.2).toJson)) = ms ↔
        ∀ m ∈ ms, (ofJson m.2).toJson = m.2 :=
      Entries.map_value_eq_self_iff (f := fun j => (ofJson j).toJson)
    rw [toJson_ofJson_object ascending, Json.object.injEq, same, Json.numbers,
      Json.forall_mem_numbersOfMembers]
    exact forall₂_congr ih

/-- Reading a document as a value loses large whole numbers only, and never makes a float that is not
finite. Writing a value as a document loses something of every value that is not native. -/
theorem conversion_loss_exact :
    (∀ j : Json, (ofJson j).IsNative ∧ (ofJson j).reread = ofJson j ∧
        ∀ x ∈ (ofJson j).floats, x.isFinite = true) ∧
      (∀ j : Json, j.Ordered → ((ofJson j).toJson = j ↔ ∀ n ∈ j.numbers, ¬n.IsLarge)) ∧
      (∀ v : Value, v.Sorted → (v.reread = v ↔ v.IsNative)) ∧
      ∀ v : Value, v.reread.reread = v.reread := by
  refine ⟨?_, ?_, ?_, ?_⟩
  · intro j
    have native := native_ofJson j
    exact ⟨native, reread_ofJson j, isFinite_of_native _ native⟩
  · intro j ordered
    exact toJson_ofJson_eq_iff ordered
  · intro v sorted
    exact reread_eq_self_iff sorted
  · intro v
    exact reread_ofJson v.toJson

/-- The largest number that is kept and the next, and two keys of one name. -/
theorem conversion_loss_exact_limits :
    let number (n : Int) (low : -0x8000000000000000 ≤ n) (high : n < 0x10000000000000000) : Json :=
      .object [("a", .array [.null, .number (.int n low high)]), ("b", .string "1")]
    let kept := number 0x7fffffffffffffff (by decide) (by decide)
    let lost := number 0x8000000000000000 (by decide) (by decide)
    let keys : Value := .hash [(.int 1, .nil), (.str "1", .bool true)]
    kept.Ordered ∧ (ofJson kept).toJson = kept ∧ lost.Ordered ∧ (ofJson lost).toJson ≠ lost ∧
      keys.Sorted ∧ keys.reread ≠ keys := by
  intro number kept lost keys
  have ordered (n : Int) (low : -0x8000000000000000 ≤ n) (high : n < 0x10000000000000000) :
      (number n low high).Ordered := by
    refine .object (by simp [Entries.Ascending]; decide) ?_
    simpa using ⟨.array (by simpa using ⟨.null, .number _⟩), .string _⟩
  have written := conversion_loss_exact.2.1
  have sorted : keys.Sorted := by
    simp [keys, Value.Sorted, Value.SortedEntries, Entries.Ascending, Value.cmp, Value.rank]
    decide
  refine ⟨ordered .., (written _ (ordered ..)).mpr ?_, ordered .., ?_, sorted, ?_⟩
  · simp [number, Json.numbers, Json.numbersOfMembers, Json.numbersOfItems, Json.Number.IsLarge]
  · intro same
    have small := (written lost (ordered ..)).mp same
    simp [lost, number, Json.numbers, Json.numbersOfMembers, Json.numbersOfItems,
      Json.Number.IsLarge] at small
  · intro same
    have native := (conversion_loss_exact.2.2.1 keys sorted).mp same
    simp [keys, IsNative, NativeEntries] at native

end Value
end ValueTypes
