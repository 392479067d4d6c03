import ValueTypes.Proofs.FloatOrder
import ValueTypes.Proofs.Order

namespace ValueTypes.Value

/- Of one kind, and with the same parts. -/
mutual

inductive Identical : Value → Value → Prop
  | nil : Identical .nil .nil
  | bool {a b : Bool} (same : a = b) : Identical (.bool a) (.bool b)
  | int {m n : Int64} (same : m = n) : Identical (.int m) (.int n)
  | float {x y : Binary64} (bits : x.bits = y.bits) : Identical (.float x) (.float y)
  | str {s t : String} (same : s = t) : Identical (.str s) (.str t)
  | sym {s t : Symbol} (name : s.name = t.name) : Identical (.sym s) (.sym t)
  | array {vs ws : List Value} (items : IdenticalItems vs ws) : Identical (.array vs) (.array ws)
  | hash {es fs : List (Value × Value)} (entries : IdenticalEntries es fs) :
    Identical (.hash es) (.hash fs)
  | object {c d : ClassName} {as bs : List ClassName} {es fs : List (String × Value)}
    (ofClass : c = d) (ancestors : as = bs) (fields : IdenticalFields es fs) :
    Identical (.object c as es) (.object d bs fs)

inductive IdenticalItems : List Value → List Value → Prop
  | nil : IdenticalItems [] []
  | cons {v w : Value} {vs ws : List Value} (item : Identical v w) (rest : IdenticalItems vs ws) :
    IdenticalItems (v :: vs) (w :: ws)

inductive IdenticalEntries : List (Value × Value) → List (Value × Value) → Prop
  | nil : IdenticalEntries [] []
  | cons {k l v w : Value} {es fs : List (Value × Value)} (key : Identical k l)
    (value : Identical v w) (rest : IdenticalEntries es fs) :
    IdenticalEntries ((k, v) :: es) ((l, w) :: fs)

inductive IdenticalFields : List (String × Value) → List (String × Value) → Prop
  | nil : IdenticalFields [] []
  | cons {m n : String} {v w : Value} {es fs : List (String × Value)} (name : m = n)
    (value : Identical v w) (rest : IdenticalFields es fs) :
    IdenticalFields ((m, v) :: es) ((n, w) :: fs)

end

mutual

theorem identical_self : ∀ v : Value, Identical v v
  | .nil => .nil
  | .bool _ => .bool rfl
  | .int _ => .int rfl
  | .float _ => .float rfl
  | .str _ => .str rfl
  | .sym _ => .sym rfl
  | .array vs => .array (identicalItems_self vs)
  | .hash es => .hash (identicalEntries_self es)
  | .object _ _ fs => .object rfl rfl (identicalFields_self fs)

theorem identicalItems_self : ∀ vs : List Value, IdenticalItems vs vs
  | [] => .nil
  | v :: vs => .cons (identical_self v) (identicalItems_self vs)

theorem identicalEntries_self : ∀ es : List (Value × Value), IdenticalEntries es es
  | [] => .nil
  | (k, v) :: es => .cons (identical_self k) (identical_self v) (identicalEntries_self es)

theorem identicalFields_self : ∀ fs : List (String × Value), IdenticalFields fs fs
  | [] => .nil
  | (_, v) :: fs => .cons rfl (identical_self v) (identicalFields_self fs)

end

mutual

theorem eq_of_identical : ∀ {v w : Value}, Identical v w → v = w
  | _, _, .nil => rfl
  | _, _, .bool same => congrArg Value.bool same
  | _, _, .int same => congrArg Value.int same
  | _, _, .float bits => congrArg (fun b => Value.float ⟨b⟩) bits
  | _, _, .str same => congrArg Value.str same
  | _, _, .sym name => congrArg (fun n => Value.sym ⟨n⟩) name
  | _, _, .array items => congrArg Value.array (eq_of_identicalItems items)
  | _, _, .hash entries => congrArg Value.hash (eq_of_identicalEntries entries)
  | _, _, .object rfl rfl fields => congrArg (Value.object _ _) (eq_of_identicalFields fields)

theorem eq_of_identicalItems : ∀ {vs ws : List Value}, IdenticalItems vs ws → vs = ws
  | _, _, .nil => rfl
  | _, _, .cons item rest => by rw [eq_of_identical item, eq_of_identicalItems rest]

theorem eq_of_identicalEntries : ∀ {es fs : List (Value × Value)}, IdenticalEntries es fs → es = fs
  | _, _, .nil => rfl
  | _, _, .cons key value rest => by
    rw [eq_of_identical key, eq_of_identical value, eq_of_identicalEntries rest]

theorem eq_of_identicalFields : ∀ {es fs : List (String × Value)}, IdenticalFields es fs → es = fs
  | _, _, .nil => rfl
  | _, _, .cons name value rest => by
    rw [name, eq_of_identical value, eq_of_identicalFields rest]

end

theorem identical_iff_eq (v w : Value) : Identical v w ↔ v = w := by
  constructor
  · exact eq_of_identical
  · rintro rfl
    exact identical_self v

theorem cmp_eq_iff_identical (v w : Value) : cmp v w = .eq ↔ Identical v w := by
  rw [cmp_eq_iff, identical_iff_eq]

/- Sequences are compared at the first place where they differ. One that ends before that is less. -/

theorem cmpItems_eq_compareLex (vs ws : List Value) : cmpItems vs ws = vs.compareLex cmp ws := by
  induction vs generalizing ws with
  | nil => cases ws <;> simp [cmpItems, List.compareLex]
  | cons v vs ih =>
    cases ws with
    | nil => simp [cmpItems, List.compareLex]
    | cons w ws => rw [cmpItems, List.compareLex_cons_cons, ih]

/-- Entries are compared by their keys first. -/
def cmpEntry (e f : Value × Value) : Ordering := (cmp e.1 f.1).then (cmp e.2 f.2)

theorem cmpEntries_eq_compareLex (es fs : List (Value × Value)) :
    cmpEntries es fs = es.compareLex cmpEntry fs := by
  induction es generalizing fs with
  | nil => cases fs <;> simp [cmpEntries, List.compareLex]
  | cons e es ih =>
    cases fs with
    | nil => simp [cmpEntries, List.compareLex]
    | cons f fs => rw [cmpEntries, List.compareLex_cons_cons, ih, cmpEntry, Ordering.then_assoc]

theorem cmp_ne_gt_trans {v w x : Value} (h : cmp v w ≠ .gt) (h' : cmp w x ≠ .gt) : cmp v x ≠ .gt := by
  have low := Ordering.ne_gt_iff_isLE.mp h
  have high := Ordering.ne_gt_iff_isLE.mp h'
  exact Ordering.ne_gt_iff_isLE.mpr (Std.TransCmp.isLE_trans low high)

/-- A total order on all values, in which only identical ones are equal. -/
theorem cmp_total_order :
    (∀ v w : Value, cmp v w = (cmp w v).swap) ∧
      (∀ v w x : Value, cmp v w ≠ .gt → cmp w x ≠ .gt → cmp v x ≠ .gt) ∧
      (∀ v w : Value, (cmp v w = .eq ↔ Identical v w) ∧ ((v == w) = true ↔ Identical v w)) ∧
      (∀ x y : Binary64,
        cmp (.float x) (.float y) = compare x.signedKey.toInt y.signedKey.toInt) ∧
      (∀ vs ws : List Value, cmp (.array vs) (.array ws) = vs.compareLex cmp ws) ∧
      ∀ es fs : List (Value × Value), cmp (.hash es) (.hash fs) = es.compareLex cmpEntry fs := by
  refine ⟨cmp_swap, fun v w x => cmp_ne_gt_trans, ?_, ?_, ?_, ?_⟩
  · intro v w
    have same : (v == w) = true ↔ Identical v w := by rw [beq_iff_eq, identical_iff_eq]
    exact ⟨cmp_eq_iff_identical v w, same⟩
  · intro x y
    rw [cmp, Binary64.cmp_eq_compare_signedKey]
  · intro vs ws
    rw [cmp, cmpItems_eq_compareLex]
  · intro es fs
    rw [cmp, cmpEntries_eq_compareLex]

theorem cmp_total_order_zeros :
    let v : Value := .array [.float ⟨0x8000000000000000⟩]
    let w : Value := .array [.float ⟨0⟩]
    let x : Value := .hash [(.str "at", .float ⟨0x7ff8000000000001⟩)]
    (cmp v w ≠ .gt ∧ cmp w x ≠ .gt) ∧ cmp v x ≠ .gt ∧ ¬Identical v w := by
  intro v w x
  have first : cmp v w = .lt := by
    simp [v, w, cmp, cmpItems]
    decide
  have second : cmp w x = .lt := by
    simp [w, x, cmp, rank]
    decide
  have low : cmp v w ≠ .gt := by simp [first]
  have high : cmp w x ≠ .gt := by simp [second]
  refine ⟨⟨low, high⟩, cmp_total_order.2.1 v w x low high, fun same => ?_⟩
  have equal := (cmp_total_order.2.2.1 v w).1.mpr same
  simp [first] at equal

end ValueTypes.Value
