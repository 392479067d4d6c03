import ValueTypes.Proofs.Membership

/-!
What a type accepts. To accept a value and to attempt it are one question: whether arrays and hashes
stand where the type has items or entries. To coerce it asks more. Whatever the question, a value that
passes is given back as it came, and so is one that an attempt refuses.
-/
namespace ValueTypes

theorem Outcome.error?_eq_none_iff (o : Outcome) : o.error? = none ↔ o.isSuccess = true := by
  cases o <;> simp [error?, isSuccess]

theorem judge_eq_ok_iff {α : Type} {cs : List Check} {r s : α} :
    judge cs r = .ok s ↔ (∀ c ∈ cs, c.passes = true) ∧ r = s := by
  by_cases passed : ∀ c ∈ cs, c.passes = true
  · rw [judge_of_passes passed, Except.ok.injEq]
    exact (and_iff_right passed).symm
  · obtain ⟨_, _, _, -, -, -, judged⟩ := judge_of_fails (r := r) passed
    rw [judged]
    exact ⟨nofun, fun h => absurd h.1 passed⟩

theorem exists_of_judge_error {α : Type} {cs : List Check} {r : α} {m : Mismatch}
    (refused : judge cs r = .error m) :
    ∃ c ∈ cs, c.passes = false ∧ m = ⟨c.part, c.expected⟩ := by
  by_cases passed : ∀ c ∈ cs, c.passes = true
  · rw [judge_of_passes passed] at refused
    cases refused
  · obtain ⟨before, c, after, rfl, -, failed, judged⟩ := judge_of_fails (r := r) passed
    rw [judged] at refused
    exact ⟨c, List.mem_append_right before List.mem_cons_self, failed,
      (Except.error.inj refused).symm⟩

namespace TypeDef

/-- Arrays stand where the type has items, and hashes where it has entries. -/
def Fits : TypeDef → Value → Prop
  | .arrayMember _ m, v => ∃ vs, v = .array vs ∧ ∀ w ∈ vs, m.Fits w
  | .map _ kt vt, v => ∃ es, v = .hash es ∧ ∀ e ∈ es, kt.Fits e.1 ∧ vt.Fits e.2
  | _, _ => True

theorem accepts_iff_fits (t : TypeDef) (v : Value) : t.accepts v = true ↔ t.Fits v := by
  induction t generalizing v with
  | nominal p l => simp [accepts, Fits]
  | array l => simp [accepts, Fits]
  | arrayMember l m ih => cases v <;> simp [accepts, Fits, ih]
  | hash l => simp [accepts, Fits]
  | map l kt vt ihk ihv => cases v <;> simp [accepts, Fits, ihk, ihv]

/- What an attempt collects at a container. -/

def itemErrors (tried : List Outcome) : List CoercionError :=
  tried.zipIdx.filterMap fun o => o.1.error?.map (itemError o.2)

def entryErrors (tried : List ((Value × Value) × Outcome × Outcome)) : List CoercionError :=
  tried.filterMap fun o => entryError? o.1.1 o.1.2 o.2.1 o.2.2

def acceptedEntries (tried : List ((Value × Value) × Outcome × Outcome)) : List (Value × Value) :=
  tried.filterMap fun o => o.2.1.value?.bind fun k => o.2.2.value?.map fun w => (k, w)

def tryEntries (kt vt : TypeDef) (es : List (Value × Value)) :
    List ((Value × Value) × Outcome × Outcome) :=
  es.map fun e => (e, kt.attempt e.1, vt.attempt e.2)

theorem attempt_array (l : Labels) (m : TypeDef) (vs : List Value) :
    (arrayMember l m).attempt (.array vs) =
      settle (.array vs) (itemErrors (vs.map fun w => m.attempt w))
        (.array ((vs.map fun w => m.attempt w).filterMap Outcome.value?)) :=
  rfl

theorem attempt_hash (l : Labels) (kt vt : TypeDef) (es : List (Value × Value)) :
    (map l kt vt).attempt (.hash es) =
      settle (.hash es) (entryErrors (tryEntries kt vt es))
        (.ofEntries (acceptedEntries (tryEntries kt vt es))) :=
  rfl

theorem entryError?_eq_none_iff (k v : Value) (atKey atValue : Outcome) :
    entryError? k v atKey atValue = none ↔ atKey.isSuccess = true ∧ atValue.isSuccess = true := by
  cases atKey <;> cases atValue <;> simp [entryError?, Outcome.isSuccess]

theorem itemErrors_eq_nil_iff (tried : List Outcome) :
    itemErrors tried = [] ↔ ∀ o ∈ tried, o.isSuccess = true := by
  have places : tried.zipIdx.map Prod.fst = tried := List.zipIdx_map_fst 0 tried
  have located : (∀ o ∈ tried.zipIdx.map Prod.fst, o.isSuccess = true) ↔
      ∀ o ∈ tried.zipIdx, o.1.isSuccess = true := List.forall_mem_map
  rw [places] at located
  rw [itemErrors, List.filterMap_eq_nil_iff, located]
  refine forall₂_congr fun o _ => ?_
  rw [Option.map_eq_none_iff, Outcome.error?_eq_none_iff]

theorem entryErrors_eq_nil_iff (tried : List ((Value × Value) × Outcome × Outcome)) :
    entryErrors tried = [] ↔ ∀ o ∈ tried, o.2.1.isSuccess = true ∧ o.2.2.isSuccess = true := by
  rw [entryErrors, List.filterMap_eq_nil_iff]
  exact forall₂_congr fun o _ => entryError?_eq_none_iff ..

/-- An attempt succeeds with what applying the type makes of the value. -/
theorem attempt_of_fits {t : TypeDef} {v : Value} (fits : t.Fits v) :
    t.attempt v = .success (t.apply v) := by
  induction t generalizing v with
  | nominal p l => rfl
  | array l => rfl
  | arrayMember l m ih =>
    obtain ⟨vs, rfl, items⟩ := fits
    have tried : (vs.map fun w => m.attempt w) = vs.map fun w => .success (m.apply w) :=
      List.map_congr_left fun w hw => ih (items w hw)
    have errors : itemErrors (vs.map fun w => m.attempt w) = [] := by
      rw [itemErrors_eq_nil_iff, tried, List.forall_mem_map]
      exact fun _ _ => rfl
    have accepted : (vs.map fun w => Outcome.success (m.apply w)).filterMap Outcome.value? =
        vs.map fun w => m.apply w := by
      rw [List.filterMap_map]
      exact congrFun List.filterMap_eq_map vs
    rw [attempt_array, errors, tried, accepted, apply_array]
    rfl
  | hash l => rfl
  | map l kt vt ihk ihv =>
    obtain ⟨es, rfl, entries⟩ := fits
    have tried : tryEntries kt vt es =
        es.map fun e => (e, .success (kt.apply e.1), .success (vt.apply e.2)) := by
      refine List.map_congr_left fun e he => ?_
      rw [ihk (entries e he).1, ihv (entries e he).2]
    have errors : entryErrors (tryEntries kt vt es) = [] := by
      rw [entryErrors_eq_nil_iff, tried, List.forall_mem_map]
      exact fun _ _ => ⟨rfl, rfl⟩
    have accepted : acceptedEntries
        (es.map fun e => (e, .success (kt.apply e.1), .success (vt.apply e.2))) =
          es.map fun e => (kt.apply e.1, vt.apply e.2) := by
      rw [acceptedEntries, List.filterMap_map]
      exact congrFun List.filterMap_eq_map es
    rw [attempt_hash, errors, tried, accepted, apply_hash]
    rfl

theorem isSuccess_settle (v : Value) (errors : List CoercionError) (r : Value) :
    (settle v errors r).isSuccess = true ↔ errors = [] := by
  cases errors <;> simp [settle, Outcome.isSuccess]

theorem fits_of_isSuccess {t : TypeDef} {v : Value} (succeeded : (t.attempt v).isSuccess = true) :
    t.Fits v := by
  induction t generalizing v with
  | nominal p l => trivial
  | array l => trivial
  | arrayMember l m ih =>
    cases v with
    | array vs =>
      rw [attempt_array, isSuccess_settle, itemErrors_eq_nil_iff, List.forall_mem_map] at succeeded
      exact ⟨vs, rfl, fun w hw => ih (succeeded w hw)⟩
    | _ => nomatch succeeded
  | hash l => trivial
  | map l kt vt ihk ihv =>
    cases v with
    | hash es =>
      rw [attempt_hash, isSuccess_settle, entryErrors_eq_nil_iff, tryEntries,
        List.forall_mem_map] at succeeded
      refine ⟨es, rfl, fun e he => ?_⟩
      obtain ⟨key, value⟩ := succeeded e he
      exact ⟨ihk key, ihv value⟩
    | _ => nomatch succeeded

theorem isSuccess_attempt_iff (t : TypeDef) (v : Value) :
    (t.attempt v).isSuccess = true ↔ t.Fits v := by
  constructor
  · exact fits_of_isSuccess
  · intro fits
    rw [attempt_of_fits fits]
    rfl

theorem eq_of_settle_failure {v w r : Value} {errors : List CoercionError} {e : CoercionError}
    (failed : settle v errors r = .failure w e) : w = v := by
  unfold settle at failed
  split at failed
  · nomatch failed
  · exact (Outcome.failure.inj failed).1.symm

/-- An attempt that fails refuses the whole value, also where only a part of it does not fit. -/
theorem eq_of_attempt_failure {t : TypeDef} {v w : Value} {e : CoercionError}
    (failed : t.attempt v = .failure w e) : w = v := by
  cases t with
  | nominal p l => nomatch failed
  | array l => nomatch failed
  | arrayMember l m =>
    cases v with
    | array vs => exact eq_of_settle_failure failed
    | _ => exact (Outcome.failure.inj failed).1.symm
  | hash l => nomatch failed
  | map l kt vt =>
    cases v with
    | hash es => exact eq_of_settle_failure failed
    | _ => exact (Outcome.failure.inj failed).1.symm

theorem attempt_of_not_accepts {t : TypeDef} {v : Value} (refused : t.accepts v = false) :
    ∃ e, t.attempt v = .failure v e := by
  cases outcome : t.attempt v with
  | success w =>
    have fits : t.Fits v := fits_of_isSuccess (by rw [outcome]; rfl)
    rw [(accepts_iff_fits t v).mpr fits] at refused
    cases refused
  | failure w e =>
    cases eq_of_attempt_failure outcome
    exact ⟨e, rfl⟩

/- Coercing asks for more than the shapes: membership in the primitives at every depth. -/

theorem coerce_ok_iff (t : TypeDef) (v w : Value) :
    t.coerce v = .ok w ↔ t.Contains v ∧ t.apply v = w := by
  rw [coerce_eq_judge_apply, judge_eq_ok_iff, contains_iff_checks]

theorem fits_of_contains {t : TypeDef} {v : Value} (member : t.Contains v) : t.Fits v := by
  induction t generalizing v with
  | nominal p l => trivial
  | array l => trivial
  | arrayMember l m ih =>
    obtain ⟨vs, rfl, items⟩ := member
    exact ⟨vs, rfl, fun w hw => ih (items w hw)⟩
  | hash l => trivial
  | map l kt vt ihk ihv =>
    obtain ⟨es, rfl, entries⟩ := member
    exact ⟨es, rfl, fun e he => ⟨ihk (entries e he).1, ihv (entries e he).2⟩⟩

theorem isPrimitive_of_fits {t : TypeDef} {v : Value} (fits : t.Fits v)
    (container : t.kind = .arrayMember ∨ t.kind = .map) : t.isPrimitive v = true := by
  cases t with
  | arrayMember l m =>
    obtain ⟨vs, rfl, -⟩ := fits
    rfl
  | map l kt vt =>
    obtain ⟨es, rfl, -⟩ := fits
    rfl
  | _ => simp [kind] at container

theorem isPrimitive_of_contains {t : TypeDef} {v : Value} (member : t.Contains v) :
    t.isPrimitive v = true := by
  cases t with
  | arrayMember l m => exact isPrimitive_of_fits (fits_of_contains member) (.inl rfl)
  | map l kt vt => exact isPrimitive_of_fits (fits_of_contains member) (.inr rfl)
  | _ => exact member

theorem isInstance_of_coerce {t : TypeDef} {v w : Value} (coerced : t.coerce v = .ok w) :
    t.primitive.isInstance w = true := by
  obtain ⟨member, rfl⟩ := (coerce_ok_iff t v w).mp coerced
  cases t with
  | arrayMember l m =>
    obtain ⟨vs, rfl, -⟩ := member
    rfl
  | map l kt vt =>
    obtain ⟨es, rfl, -⟩ := member
    rfl
  | _ => exact member

/-- What is coerced is accepted, what is accepted is what an attempt succeeds on, and a type with
items or entries accepts instances of its primitive only. -/
theorem acceptance_ordered (t : TypeDef) (v : Value) :
    (t.accepts v = true ↔ (t.attempt v).isSuccess = true) ∧
      ((∃ w, t.coerce v = .ok w) →
        t.accepts v = true ∧ (t.attempt v).isSuccess = true ∧ t.isPrimitive v = true) ∧
      (t.kind = .arrayMember ∨ t.kind = .map → t.accepts v = true → t.isPrimitive v = true) := by
  rw [accepts_iff_fits, isSuccess_attempt_iff]
  refine ⟨Iff.rfl, ?_, ?_⟩
  · rintro ⟨w, coerced⟩
    obtain ⟨member, -⟩ := (coerce_ok_iff t v w).mp coerced
    have fits := fits_of_contains member
    exact ⟨fits, fits, isPrimitive_of_contains member⟩
  · intro container fits
    exact isPrimitive_of_fits fits container

theorem acceptance_ordered_scores :
    (map {} (nominal (.builtin .string) {}) (arrayMember {} (nominal (.builtin .integer) {}))).coerce
        (.hash [(.str "ann", .array [.int 1])]) = .ok (.hash [(.str "ann", .array [.int 1])]) ∧
      ((map {} (nominal (.builtin .string) {})
        (arrayMember {} (nominal (.builtin .integer) {}))).attempt
          (.hash [(.str "ann", .array [.int 1])])).isSuccess = true ∧
      (map {} (nominal (.builtin .string) {})
        (arrayMember {} (nominal (.builtin .integer) {}))).isPrimitive
          (.hash [(.nil, .array [.nil])]) = true ∧
      (map {} (nominal (.builtin .string) {})
        (arrayMember {} (nominal (.builtin .integer) {}))).coerce
          (.hash [(.nil, .array [.nil])]) = .error ⟨.nil, .builtin .string⟩ := by
  have coerced : (map {} (nominal (.builtin .string) {})
      (arrayMember {} (nominal (.builtin .integer) {}))).coerce
        (.hash [(.str "ann", .array [.int 1])]) = .ok (.hash [(.str "ann", .array [.int 1])]) := rfl
  refine ⟨coerced, ((acceptance_ordered _ _).2.1 ⟨_, coerced⟩).2.1, ?_, rfl⟩
  exact (acceptance_ordered _ _).2.2 (.inr rfl) rfl

/-- Whatever is asked of a type, the value that comes back is the value that was given, and so no
entry of a hash is lost, merged or moved. -/
theorem value_unaltered (t : TypeDef) {v : Value} (sorted : v.Sorted) :
    t.apply v = v ∧
      (∀ w, t.attempt v = .success w → w = v) ∧
      (∀ w e, t.attempt v = .failure w e → w = v) ∧
      ∀ w, t.coerce v = .ok w → w = v := by
  have applied := apply_eq_self t sorted
  refine ⟨applied, ?_, ?_, ?_⟩
  · intro w succeeded
    have fits : t.Fits v := fits_of_isSuccess (by rw [succeeded]; rfl)
    rw [attempt_of_fits fits, applied] at succeeded
    exact (Outcome.success.inj succeeded).symm
  · intro w e failed
    exact eq_of_attempt_failure failed
  · intro w coerced
    have same := ((coerce_ok_iff t v w).mp coerced).2
    exact same.symm.trans applied

theorem value_unaltered_mixed_keys :
    let v : Value := .hash [(.float ⟨0x7ff8000000000000⟩, .array [.bool true]),
      (.array [.nil], .array [.int 1]), (.hash [(.int 1, .nil)], .array [.int 2]),
      (.object ⟨"Geo", by decide⟩ [] [], .array [])]
    v.Sorted ∧
      (map {} (nominal (.builtin .any) {}) (arrayMember {} (nominal (.builtin .any) {}))).apply v =
        v ∧
      (∃ w, (map {} (nominal (.builtin .any) {})
        (arrayMember {} (nominal (.builtin .any) {}))).coerce v = .ok w ∧ w = v) ∧
      ∃ w e, (map {} (nominal (.builtin .any) {})
        (arrayMember {} (arrayMember {} (nominal (.builtin .any) {})))).attempt v = .failure w e ∧
          w = v := by
  intro v
  have sorted : v.Sorted := by
    simp [v, Value.Sorted, Value.SortedItems, Value.SortedEntries, Value.SortedFields,
      Entries.Ascending, Value.cmp, Value.rank]
    decide
  have coerced : ∃ w, (map {} (nominal (.builtin .any) {})
      (arrayMember {} (nominal (.builtin .any) {}))).coerce v = .ok w := ⟨_, rfl⟩
  have failed : ∃ w e, (map {} (nominal (.builtin .any) {})
      (arrayMember {} (arrayMember {} (nominal (.builtin .any) {})))).attempt v = .failure w e :=
    ⟨_, _, rfl⟩
  obtain ⟨w, coerced⟩ := coerced
  obtain ⟨u, e, failed⟩ := failed
  exact ⟨sorted, (value_unaltered _ sorted).1,
    ⟨w, coerced, (value_unaltered _ sorted).2.2.2 w coerced⟩,
    u, e, failed, (value_unaltered _ sorted).2.2.1 u e failed⟩

end TypeDef
end ValueTypes
