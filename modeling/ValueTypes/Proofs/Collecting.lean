import ValueTypes.Proofs.Failure
import ValueTypes.Proofs.Lookup
import ValueTypes.Proofs.OptionMap
import ValueTypes.Value.Feed

namespace ValueTypes

namespace Value

theorem ofEntries_perm {es fs : List (Value × Value)} (perm : es.Perm fs)
    (distinct : (es.map Prod.fst).Nodup) : ofEntries es = ofEntries fs := by
  have reordered : (fs.map Prod.fst).Nodup := (perm.map Prod.fst).nodup_iff.mp distinct
  refine congrArg hash ((Entries.ofList_eq_iff es fs).mpr fun k v => ?_)
  rw [Entries.lastBound_iff_mem distinct, Entries.lastBound_iff_mem reordered, perm.mem_iff]

end Value

/-- All values in the notes of a failure, and of the failures it is made of, are of a kind. -/
inductive CoercionError.EachNote (p : Value → Prop) : CoercionError → Prop
  | mk {e : CoercionError} (own : ∀ v ∈ e.notes.values, p v)
    (parts : ∀ d ∈ e.errors, d.EachNote p) : e.EachNote p

def Outcome.Sorted : Outcome → Prop
  | .success v => v.Sorted
  | .failure v e => v.Sorted ∧ e.EachNote Value.Sorted

namespace TypeDef

open Value

/-- The hashes in all that a type answers with ascend. -/
structure AnswersSorted (t : TypeDef) (v : Value) : Prop where
  applied : (t.apply v).Sorted
  attempted : (t.attempt v).Sorted
  coerced : ∀ w, t.coerce v = .ok w → w.Sorted
  refused : ∀ m, t.coerce v = .error m → m.input.Sorted

theorem sorted_of_mem_culprits {t : TypeDef} {v : Value} (sorted : v.Sorted) {c : Culprit}
    (culprit : c ∈ t.culprits v) : ∀ w ∈ c.place.values, w.Sorted := by
  unfold culprits at culprit
  split at culprit
  · obtain ⟨p, -, rfl⟩ := List.mem_map.mp culprit
    have index : (Value.int (Int64.ofNat p.2)).Sorted := by simp [Sorted]
    exact List.forall_mem_singleton.mpr index
  · obtain ⟨p, failing, rfl⟩ := List.mem_map.mp culprit
    rw [Sorted, sortedEntries_iff] at sorted
    rw [place_entryCulprit]
    exact List.forall_mem_singleton.mpr (sorted.2 p (List.mem_of_mem_filter failing)).1
  · exact absurd culprit List.not_mem_nil

theorem Refuses.eachNote_sorted {t : TypeDef} {v : Value} {e : CoercionError}
    (refuses : t.Refuses v e) (sorted : v.Sorted) : e.EachNote Value.Sorted := by
  refine .mk ?_ fun d part => ?_
  · rw [refuses.notes]
    exact List.forall_mem_nil _
  · obtain ⟨c, culprit, -, place, bare⟩ := exists_mem_left refuses.culprits_blamed part
    refine .mk ?_ ?_
    · rw [place]
      exact sorted_of_mem_culprits sorted culprit
    · rw [bare]
      exact List.forall_mem_nil _

/- Contents go through their types one by one, and a hash is collected anew from what comes back. -/
theorem sorted_apply (t : TypeDef) {v : Value} (sorted : v.Sorted) : (t.apply v).Sorted := by
  induction t generalizing v with
  | nominal p l => exact sorted
  | array l => exact sorted
  | arrayMember l m ih =>
    cases v with
    | array vs =>
      rw [Sorted, sortedItems_iff] at sorted
      rw [apply_array, Sorted, sortedItems_iff, List.forall_mem_map]
      exact fun w item => ih (sorted w item)
    | _ => exact sorted
  | hash l => exact sorted
  | map l kt vt ihk ihv =>
    cases v with
    | hash es =>
      rw [Sorted, sortedEntries_iff] at sorted
      refine sorted_ofEntries (List.forall_mem_map.mpr fun e entry => ?_)
      obtain ⟨key, value⟩ := sorted.2 e entry
      exact ⟨ihk key, ihv value⟩
    | _ => exact sorted

theorem sorted_attempt (t : TypeDef) {v : Value} (sorted : v.Sorted) : (t.attempt v).Sorted := by
  cases outcome : t.attempt v with
  | success w =>
    have fits : t.Fits v := fits_of_isSuccess (by rw [outcome]; rfl)
    rw [attempt_of_fits fits] at outcome
    cases outcome
    exact sorted_apply t sorted
  | failure w e =>
    cases eq_of_attempt_failure outcome
    exact ⟨sorted, (refuses_of_attempt outcome).eachNote_sorted sorted⟩

theorem sorted_of_coerce {t : TypeDef} {v w : Value} (sorted : v.Sorted)
    (coerced : t.coerce v = .ok w) : w.Sorted := by
  obtain ⟨-, rfl⟩ := (coerce_ok_iff t v w).mp coerced
  exact sorted_apply t sorted

theorem sorted_of_mem_checks {t : TypeDef} {v : Value} (sorted : v.Sorted) :
    ∀ c ∈ t.checks v, c.part.Sorted := by
  refine forall_mem_checks (fun vs items => ?_) (fun es entries => ?_) t sorted
  · rwa [Sorted, sortedItems_iff] at items
  · rw [Sorted, sortedEntries_iff] at entries
    exact entries.2

theorem sorted_of_coerce_error {t : TypeDef} {v : Value} {m : Mismatch} (sorted : v.Sorted)
    (refused : t.coerce v = .error m) : m.input.Sorted := by
  rw [coerce_eq_judge_apply] at refused
  obtain ⟨c, mem, -, rfl⟩ := exists_of_judge_error refused
  exact sorted_of_mem_checks sorted c mem

theorem answersSorted (t : TypeDef) {v : Value} (sorted : v.Sorted) : t.AnswersSorted v where
  applied := t.sorted_apply sorted
  attempted := t.sorted_attempt sorted
  coerced _ := sorted_of_coerce sorted
  refused _ := sorted_of_coerce_error sorted

end TypeDef

namespace Value

/-- The entries of a hash that is collected from bindings. -/
structure Collected (es fs : List (Value × Value)) : Prop where
  ascending : Entries.Ascending cmp fs
  keys : ∀ k, k ∈ fs.map Prod.fst ↔ k ∈ es.map Prod.fst
  bindings : ∀ k v, (k, v) ∈ fs ↔ Entries.LastBound es k v

theorem collected_ofList (es : List (Value × Value)) : Collected es (Entries.ofList cmp es) := by
  have members : ∀ k v, (k, v) ∈ Entries.ofList cmp es ↔ Entries.LastBound es k v :=
    Entries.mem_ofList_iff es
  refine ⟨Entries.ascending_ofList es, fun k => ?_, members⟩
  rw [← Entries.exists_lastBound_iff es]
  simp only [← members, List.mem_map, Prod.exists, exists_and_right, exists_eq_right]

/-- Nothing that is made of the values tells them apart. -/
structure ShownAlike (v w : Value) : Prop where
  eq : v = w
  render : v.render = w.render
  toJson : v.toJson = w.toJson
  feed : v.feed = w.feed

theorem shownAlike_refl (v : Value) : v.ShownAlike v := ⟨rfl, rfl, rfl, rfl⟩

/-- A hash ascends in its keys and has the last binding of each. In what order bindings of different keys
come shows neither in it nor in its text, its document and what it feeds to a hash function. The hashes
in a value from a document ascend at every depth, and if those in any value do, so do those in what
applying, attempting and coercing answer with. -/
theorem hash_canonical :
    (∀ es : List (Value × Value), ∃ fs, ofEntries es = .hash fs ∧ Collected es fs) ∧
    (∀ es fs : List (Value × Value), es.Perm fs → (es.map Prod.fst).Nodup →
      (ofEntries es).ShownAlike (ofEntries fs)) ∧
    (∀ j, (ofJson j).Sorted) ∧
    ∀ (t : TypeDef) (v : Value), v.Sorted → t.AnswersSorted v := by
  refine ⟨fun es => ⟨_, rfl, collected_ofList es⟩, fun es fs perm distinct => ?_, sorted_ofJson,
    fun t v sorted => t.answersSorted sorted⟩
  rw [ofEntries_perm perm distinct]
  exact shownAlike_refl _

theorem hash_canonical_mixed_keys :
    let nan : Value := .float ⟨0x7ff8000000000000⟩
    let es : List (Value × Value) := [(.hash [(nan, .nil)], .int 1), (.array [nan], .int 2)]
    let more : Value × Value := (nan, .int 3)
    let v : Value := .hash [(.hash [(nan, .nil)], .int 1)]
    let t : TypeDef := .map {} (.arrayMember {} (.array {})) (.array {})
    ((es ++ [more]).Perm (more :: es) ∧ ((es ++ [more]).map Prod.fst).Nodup ∧
      (ofEntries (es ++ [more])).feed = (ofEntries (more :: es)).feed) ∧
    (∃ fs, ofEntries (more :: es ++ [(nan, .int 4)]) = .hash fs ∧ (nan, .int 4) ∈ fs ∧ more ∉ fs) ∧
    v.Sorted ∧ ∃ e, t.attempt v = .failure v e ∧ e.EachNote Value.Sorted := by
  intro nan es more v t
  have perm : (es ++ [more]).Perm (more :: es) := List.perm_append_singleton more es
  have distinct : ((es ++ [more]).map Prod.fst).Nodup := by simp [es, nan, more]
  have sorted : v.Sorted := by simp [v, nan, Sorted, SortedEntries, Entries.Ascending]
  obtain ⟨collect, permute, -, answer⟩ := hash_canonical
  obtain ⟨fs, hash, collected⟩ := collect (more :: es ++ [(nan, .int 4)])
  have tried := (answer t v sorted).attempted
  refine ⟨⟨perm, distinct, (permute _ _ perm distinct).feed⟩, ⟨fs, hash, ?_, ?_⟩, sorted, _, rfl,
    tried.2⟩
  · rw [collected.bindings]
    exact ⟨_, [], rfl, List.not_mem_nil⟩
  · rw [collected.bindings]
    simp [Entries.lastBound_cons_iff, es, nan, more]

end Value

end ValueTypes
