import ValueTypes.Proofs.Primitive
import ValueTypes.Proofs.Sorted
import ValueTypes.TypeDef.Contract

/-!
Which values a type coerces, and what it says of the others. A type checks a value, and parts of it,
against primitives. It coerces the value to itself if all checks pass, and else refuses the part whose
check is the first in depth-first order to fail.
-/
namespace ValueTypes

structure Check where
  part : Value
  expected : Primitive

def Check.passes (c : Check) : Bool := c.expected.isInstance c.part

def judge {α : Type} : List Check → α → Except Mismatch α
  | [], r => .ok r
  | c :: cs, r => if c.passes = true then judge cs r else .error ⟨c.part, c.expected⟩

theorem judge_of_passes {α : Type} {cs : List Check} {r : α}
    (passed : ∀ c ∈ cs, c.passes = true) : judge cs r = .ok r := by
  induction cs with
  | nil => rfl
  | cons c cs ih =>
    obtain ⟨head, tail⟩ := List.forall_mem_cons.mp passed
    rw [judge, if_pos head, ih tail]

theorem judge_of_fails {α : Type} {cs : List Check} {r : α}
    (fails : ¬∀ c ∈ cs, c.passes = true) :
    ∃ before c after, cs = before ++ c :: after ∧ (∀ d ∈ before, d.passes = true) ∧
      c.passes = false ∧ judge cs r = .error ⟨c.part, c.expected⟩ := by
  induction cs with
  | nil => exact absurd (fun c hc => absurd hc List.not_mem_nil) fails
  | cons c cs ih =>
    by_cases head : c.passes = true
    · have tail : ¬∀ d ∈ cs, d.passes = true := by
        intro passed
        exact fails (List.forall_mem_cons.mpr ⟨head, passed⟩)
      obtain ⟨before, d, after, rfl, passed, failed, judged⟩ := ih tail
      refine ⟨c :: before, d, after, rfl, List.forall_mem_cons.mpr ⟨head, passed⟩, failed, ?_⟩
      rw [judge, if_pos head, judged]
    · refine ⟨[], c, cs, rfl, fun d hd => absurd hd List.not_mem_nil, Bool.eq_false_iff.mpr head, ?_⟩
      rw [judge, if_neg head]

theorem judge_map {α β : Type} (cs : List Check) (r : α) (f : α → β) :
    judge cs (f r) = (do return f (← judge cs r)) := by
  induction cs with
  | nil => rfl
  | cons c cs ih =>
    rw [judge, judge]
    by_cases head : c.passes = true
    · rw [if_pos head, if_pos head, ih]
    · rw [if_neg head, if_neg head]
      rfl

theorem judge_append {α β γ : Type} (cs ds : List Check) (r : α) (s : β) (f : α → β → γ) :
    judge (cs ++ ds) (f r s) = (do return f (← judge cs r) (← judge ds s)) := by
  induction cs with
  | nil => exact judge_map ds s (f r)
  | cons c cs ih =>
    rw [List.cons_append, judge, judge]
    by_cases head : c.passes = true
    · rw [if_pos head, if_pos head, ih]
    · rw [if_neg head, if_neg head]
      rfl

/-- Judging items one after the other is judging all their checks in turn. -/
theorem mapM_judge {α β : Type} {f : α → Except Mismatch β} {checks : α → List Check} {g : α → β}
    {xs : List α} (judged : ∀ x ∈ xs, f x = judge (checks x) (g x)) :
    xs.mapM f = judge (xs.flatMap checks) (xs.map g) := by
  induction xs with
  | nil => rfl
  | cons x xs ih =>
    obtain ⟨head, tail⟩ := List.forall_mem_cons.mp judged
    rw [List.mapM_cons, head, ih tail, List.flatMap_cons, List.map_cons, judge_append]

namespace TypeDef

def Contains : TypeDef → Value → Prop
  | .arrayMember _ m, v => ∃ vs, v = .array vs ∧ ∀ w ∈ vs, m.Contains w
  | .map _ kt vt, v => ∃ es, v = .hash es ∧ ∀ e ∈ es, kt.Contains e.1 ∧ vt.Contains e.2
  | t, v => t.primitive.isInstance v = true

/-- What is checked, in depth-first order: a container before its contents, items and entries as they
come, a key before its value. -/
def checks : TypeDef → Value → List Check
  | .arrayMember _ m, v =>
    ⟨v, .builtin .array⟩ ::
      match v with
      | .array vs => vs.flatMap fun w => m.checks w
      | _ => []
  | .map _ kt vt, v =>
    ⟨v, .builtin .hash⟩ ::
      match v with
      | .hash es => es.flatMap fun e => kt.checks e.1 ++ vt.checks e.2
      | _ => []
  | t, v => [⟨v, t.primitive⟩]

theorem contains_iff_checks (t : TypeDef) (v : Value) :
    t.Contains v ↔ ∀ c ∈ t.checks v, c.passes = true := by
  induction t generalizing v with
  | nominal p l => simp [Contains, checks, Check.passes]
  | array l => simp [Contains, checks, Check.passes]
  | arrayMember l m ih =>
    constructor
    · rintro ⟨vs, rfl, items⟩
      rw [checks, List.forall_mem_cons, List.forall_mem_flatMap]
      exact ⟨rfl, fun w hw => (ih w).mp (items w hw)⟩
    · intro passed
      obtain ⟨vs, rfl⟩ := Primitive.isInstance_array.mp (passed ⟨v, _⟩ (List.mem_cons_self ..))
      rw [checks, List.forall_mem_cons, List.forall_mem_flatMap] at passed
      exact ⟨vs, rfl, fun w hw => (ih w).mpr (passed.2 w hw)⟩
  | hash l => simp [Contains, checks, Check.passes]
  | map l kt vt ihk ihv =>
    constructor
    · rintro ⟨es, rfl, entries⟩
      rw [checks, List.forall_mem_cons, List.forall_mem_flatMap]
      refine ⟨rfl, fun e he => List.forall_mem_append.mpr ?_⟩
      exact ⟨(ihk e.1).mp (entries e he).1, (ihv e.2).mp (entries e he).2⟩
    · intro passed
      obtain ⟨es, rfl⟩ := Primitive.isInstance_hash.mp (passed ⟨v, _⟩ (List.mem_cons_self ..))
      rw [checks, List.forall_mem_cons, List.forall_mem_flatMap] at passed
      refine ⟨es, rfl, fun e he => ?_⟩
      obtain ⟨key, value⟩ := List.forall_mem_append.mp (passed.2 e he)
      exact ⟨(ihk e.1).mpr key, (ihv e.2).mpr value⟩

/-- What passes from an array to its items, and from a hash to its keys and values, holds of every part
that is checked if it holds of the value. -/
theorem forall_mem_checks {p : Value → Prop} (items : ∀ vs, p (.array vs) → ∀ w ∈ vs, p w)
    (entries : ∀ es, p (.hash es) → ∀ e ∈ es, p e.1 ∧ p e.2) (t : TypeDef) {v : Value}
    (whole : p v) : ∀ c ∈ t.checks v, p c.part := by
  induction t generalizing v with
  | nominal q l => exact List.forall_mem_singleton.mpr whole
  | array l => exact List.forall_mem_singleton.mpr whole
  | arrayMember l m ih =>
    refine List.forall_mem_cons.mpr ⟨whole, ?_⟩
    cases v with
    | array vs => exact List.forall_mem_flatMap.mpr fun w item => ih (items vs whole w item)
    | _ => exact List.forall_mem_nil _
  | hash l => exact List.forall_mem_singleton.mpr whole
  | map l kt vt ihk ihv =>
    refine List.forall_mem_cons.mpr ⟨whole, ?_⟩
    cases v with
    | hash es =>
      refine List.forall_mem_flatMap.mpr fun e entry => List.forall_mem_append.mpr ?_
      obtain ⟨key, value⟩ := entries es whole e entry
      exact ⟨ihk key, ihv value⟩
    | _ => exact List.forall_mem_nil _

/- What coercing does at a container: another kind of value is refused whole, and the contents of one
of the right kind are coerced in turn. -/

theorem coerce_arrayMember_of_not (l : Labels) (m : TypeDef) {v : Value}
    (other : ¬Primitive.isInstance (.builtin .array) v = true) :
    (arrayMember l m).coerce v = .error ⟨v, .builtin .array⟩ := by
  rw [coerce, check, if_neg other]
  rfl

theorem coerce_arrayMember_array (l : Labels) (m : TypeDef) (vs : List Value) :
    (arrayMember l m).coerce (.array vs) = (do return .array (← vs.mapM fun w => m.coerce w)) :=
  rfl

theorem coerce_map_of_not (l : Labels) (kt vt : TypeDef) {v : Value}
    (other : ¬Primitive.isInstance (.builtin .hash) v = true) :
    (map l kt vt).coerce v = .error ⟨v, .builtin .hash⟩ := by
  rw [coerce, check, if_neg other]
  rfl

theorem coerce_map_hash (l : Labels) (kt vt : TypeDef) (es : List (Value × Value)) :
    (map l kt vt).coerce (.hash es) = (do
      return .ofEntries (← es.mapM fun e => do return (← kt.coerce e.1, ← vt.coerce e.2))) :=
  rfl

theorem judge_checks_array (l : Labels) (m : TypeDef) (vs : List Value) (r : Value) :
    judge ((arrayMember l m).checks (.array vs)) r = judge (vs.flatMap fun w => m.checks w) r :=
  if_pos rfl

theorem judge_checks_hash (l : Labels) (kt vt : TypeDef) (es : List (Value × Value)) (r : Value) :
    judge ((map l kt vt).checks (.hash es)) r =
      judge (es.flatMap fun e => kt.checks e.1 ++ vt.checks e.2) r :=
  if_pos rfl

theorem apply_array (l : Labels) (m : TypeDef) (vs : List Value) :
    (arrayMember l m).apply (.array vs) = .array (vs.map fun w => m.apply w) :=
  rfl

theorem apply_hash (l : Labels) (kt vt : TypeDef) (es : List (Value × Value)) :
    (map l kt vt).apply (.hash es) = .ofEntries (es.map fun e => (kt.apply e.1, vt.apply e.2)) :=
  rfl

/-- A value that passes its checks is coerced to what applying the type makes of it. -/
theorem coerce_eq_judge_apply (t : TypeDef) (v : Value) :
    t.coerce v = judge (t.checks v) (t.apply v) := by
  induction t generalizing v with
  | nominal p l => rfl
  | array l => rfl
  | arrayMember l m ih =>
    by_cases kind : Primitive.isInstance (.builtin .array) v = true
    · obtain ⟨vs, rfl⟩ := Primitive.isInstance_array.mp kind
      have items : vs.mapM (fun w => m.coerce w) =
          judge (vs.flatMap fun w => m.checks w) (vs.map fun w => m.apply w) :=
        mapM_judge fun w _ => ih w
      rw [coerce_arrayMember_array, items, ← judge_map, judge_checks_array, apply_array]
    · rw [coerce_arrayMember_of_not l m kind]
      exact (if_neg kind).symm
  | hash l => rfl
  | map l kt vt ihk ihv =>
    by_cases kind : Primitive.isInstance (.builtin .hash) v = true
    · obtain ⟨es, rfl⟩ := Primitive.isInstance_hash.mp kind
      have entry : ∀ e ∈ es, (do return (← kt.coerce e.1, ← vt.coerce e.2)) =
          judge (kt.checks e.1 ++ vt.checks e.2) (kt.apply e.1, vt.apply e.2) := by
        intro e _
        rw [ihk, ihv, ← judge_append]
      have entries := mapM_judge entry
      rw [coerce_map_hash, entries, ← judge_map, judge_checks_hash, apply_hash]
    · rw [coerce_map_of_not l kt vt kind]
      exact (if_neg kind).symm

/- An ascending hash is put together again from its entries as it was. -/
theorem apply_eq_self (t : TypeDef) {v : Value} (sorted : v.Sorted) : t.apply v = v := by
  induction t generalizing v with
  | nominal p l => rfl
  | array l => rfl
  | arrayMember l m ih =>
    cases v with
    | array vs =>
      rw [Value.Sorted, Value.sortedItems_iff] at sorted
      have items : vs.map (fun w => m.apply w) = vs :=
        Entries.map_eq_self_iff.mpr fun w hw => ih (sorted w hw)
      rw [apply_array, items]
    | _ => rfl
  | hash l => rfl
  | map l kt vt ihk ihv =>
    cases v with
    | hash es =>
      rw [Value.Sorted, Value.sortedEntries_iff] at sorted
      have entries : es.map (fun e => (kt.apply e.1, vt.apply e.2)) = es := by
        refine Entries.map_eq_self_iff.mpr fun e he => ?_
        have key := ihk (sorted.2 e he).1
        have value := ihv (sorted.2 e he).2
        exact Prod.ext key value
      rw [apply_hash, entries, Value.ofEntries_eq_self sorted.1]
    | _ => rfl

theorem coerce_eq_judge (t : TypeDef) {v : Value} (sorted : v.Sorted) :
    t.coerce v = judge (t.checks v) v := by
  have judged := coerce_eq_judge_apply t v
  rwa [apply_eq_self t sorted] at judged

/-- Members are coerced to themselves. Of any other value the part is refused whose check is the
first to fail. -/
theorem coerce_exact (t : TypeDef) {v : Value} (sorted : v.Sorted) :
    (t.Contains v → t.coerce v = .ok v) ∧
      (¬t.Contains v → ∃ before c after m, t.checks v = before ++ c :: after ∧
        (∀ d ∈ before, d.passes = true) ∧ c.passes = false ∧
        t.coerce v = .error m ∧ m.input = c.part ∧
        m.message = c.part.render ++ " must be an instance of " ++ c.expected.name) := by
  rw [coerce_eq_judge t sorted, contains_iff_checks]
  constructor
  · exact judge_of_passes
  · intro fails
    obtain ⟨before, c, after, split, passed, failed, judged⟩ := judge_of_fails fails
    exact ⟨before, c, after, _, split, passed, failed, judged, rfl, rfl⟩

theorem coerce_exact_scores :
    (map {} (nominal (.builtin .string) {}) (arrayMember {} (nominal (.builtin .integer) {}))).coerce
        (.hash [(.str "ann", .array [.int 1, .int 2])]) =
      .ok (.hash [(.str "ann", .array [.int 1, .int 2])]) ∧
    ∃ m, (map {} (nominal (.builtin .string) {})
        (arrayMember {} (nominal (.builtin .integer) {}))).coerce
          (.hash [(.str "ann", .array [.int 1, .nil, .bool true])]) = .error m ∧
      m.message = "nil must be an instance of Integer" := by
  have sorted (vs : List Value) (items : ∀ w ∈ vs, w.Sorted) :
      (Value.hash [(.str "ann", .array vs)]).Sorted := by
    have single : Entries.Ascending Value.cmp [(Value.str "ann", Value.array vs)] :=
      List.pairwise_singleton ..
    rw [Value.Sorted, Value.sortedEntries_iff]
    refine ⟨single, List.forall_mem_singleton.mpr ⟨?_, ?_⟩⟩
    · simp [Value.Sorted]
    · rwa [Value.Sorted, Value.sortedItems_iff]
  constructor
  · have sound := sorted [.int 1, .int 2] (by simp [Value.Sorted])
    exact (coerce_exact _ sound).1 ((contains_iff_checks _ _).mpr (by decide))
  · have sound := sorted [.int 1, .nil, .bool true] (by simp [Value.Sorted])
    have judged := coerce_exact (map {} (nominal (.builtin .string) {})
      (arrayMember {} (nominal (.builtin .integer) {}))) sound
    obtain ⟨_, _, _, m, -, -, -, refused, -, -⟩ :=
      judged.2 (mt (contains_iff_checks _ _).mp (by decide))
    have first : m = ⟨.nil, .builtin .integer⟩ := Except.error.inj (refused.symm.trans rfl)
    rw [first] at refused
    exact ⟨_, refused, by decide⟩

end TypeDef
end ValueTypes
