import ValueTypes.Value.Order

namespace ValueTypes.Value

/-- Values that are compared by what they hold and not by their kinds. -/
inductive SameKind : Value → Value → Prop
  | nil : SameKind .nil .nil
  | bool (a b : Bool) : SameKind (.bool a) (.bool b)
  | int (m n : Int64) : SameKind (.int m) (.int n)
  | float (x y : Binary64) : SameKind (.float x) (.float y)
  | str (s t : String) : SameKind (.str s) (.str t)
  | sym (s t : Symbol) : SameKind (.sym s) (.sym t)
  | array (vs ws : List Value) : SameKind (.array vs) (.array ws)
  | hash (es fs : List (Value × Value)) : SameKind (.hash es) (.hash fs)
  | object (c d : ClassName) (as bs : List ClassName) (es fs : List (String × Value)) :
    SameKind (.object c as es) (.object d bs fs)

theorem sameKind_of_rank_eq {v w : Value} (h : v.rank = w.rank) : SameKind v w := by
  cases v <;> cases w <;> first | constructor | simp [rank] at h

theorem cmp_of_rank_ne {v w : Value} (h : v.rank ≠ w.rank) : cmp v w = compare v.rank w.rank := by
  unfold cmp
  split <;> first | rfl | exact absurd rfl h

/- Comparing the other way round. -/

theorem cmp_swap_of_sameKind {v w : Value} (same : SameKind v w → cmp v w = (cmp w v).swap) :
    cmp v w = (cmp w v).swap := by
  by_cases h : v.rank = w.rank
  · exact same (sameKind_of_rank_eq h)
  · rw [cmp_of_rank_ne h, cmp_of_rank_ne (Ne.symm h)]
    exact Std.OrientedOrd.eq_swap

theorem cmpNames_swap (cs ds : List ClassName) : cmpNames cs ds = (cmpNames ds cs).swap := by
  induction cs generalizing ds with
  | nil => cases ds <;> rfl
  | cons c cs ih =>
    cases ds with
    | nil => rfl
    | cons d ds =>
      rw [cmpNames, cmpNames, Ordering.swap_then, ← ih, ← Std.OrientedOrd.eq_swap]

mutual

theorem cmp_swap : ∀ v w : Value, cmp v w = (cmp w v).swap
  | .array vs, w => cmp_swap_of_sameKind fun h => by
    cases h with
    | array _ ws => rw [cmp, cmp, cmpItems_swap vs ws]
  | .hash es, w => cmp_swap_of_sameKind fun h => by
    cases h with
    | hash _ fs => rw [cmp, cmp, cmpEntries_swap es fs]
  | .object c as es, w => cmp_swap_of_sameKind fun h => by
    cases h with
    | object _ d _ bs _ fs =>
      rw [cmp, cmp, Ordering.swap_then, Ordering.swap_then, ← cmpNames_swap,
        ← cmpFields_swap es fs, ← Std.OrientedOrd.eq_swap]
  | .nil, w => cmp_swap_of_sameKind fun h => by cases h; rw [cmp, Ordering.swap_eq]
  | .bool a, w => cmp_swap_of_sameKind fun h => by cases h; rw [cmp, cmp]; exact Std.OrientedOrd.eq_swap
  | .int n, w => cmp_swap_of_sameKind fun h => by cases h; rw [cmp, cmp]; exact Std.OrientedOrd.eq_swap
  | .float x, w => cmp_swap_of_sameKind fun h => by cases h; rw [cmp, cmp]; exact Std.OrientedOrd.eq_swap
  | .str s, w => cmp_swap_of_sameKind fun h => by cases h; rw [cmp, cmp]; exact Std.OrientedOrd.eq_swap
  | .sym s, w => cmp_swap_of_sameKind fun h => by cases h; rw [cmp, cmp]; exact Std.OrientedCmp.eq_swap

theorem cmpItems_swap : ∀ vs ws : List Value, cmpItems vs ws = (cmpItems ws vs).swap
  | [], [] => by rw [cmpItems, Ordering.swap_eq]
  | [], _ :: _ => by rw [cmpItems, cmpItems, Ordering.swap_gt]
  | _ :: _, [] => by rw [cmpItems, cmpItems, Ordering.swap_lt]
  | v :: vs, w :: ws => by
    rw [cmpItems, cmpItems, Ordering.swap_then, ← cmp_swap v w, ← cmpItems_swap vs ws]

theorem cmpEntries_swap : ∀ es fs : List (Value × Value), cmpEntries es fs = (cmpEntries fs es).swap
  | [], [] => by rw [cmpEntries, Ordering.swap_eq]
  | [], _ :: _ => by rw [cmpEntries, cmpEntries, Ordering.swap_gt]
  | _ :: _, [] => by rw [cmpEntries, cmpEntries, Ordering.swap_lt]
  | (k, v) :: es, (l, w) :: fs => by
    rw [cmpEntries, cmpEntries, Ordering.swap_then, Ordering.swap_then, ← cmp_swap k l,
      ← cmp_swap v w, ← cmpEntries_swap es fs]

theorem cmpFields_swap : ∀ es fs : List (String × Value), cmpFields es fs = (cmpFields fs es).swap
  | [], [] => by rw [cmpFields, Ordering.swap_eq]
  | [], _ :: _ => by rw [cmpFields, cmpFields, Ordering.swap_gt]
  | _ :: _, [] => by rw [cmpFields, cmpFields, Ordering.swap_lt]
  | (k, v) :: es, (l, w) :: fs => by
    rw [cmpFields, cmpFields, Ordering.swap_then, Ordering.swap_then, ← cmp_swap v w,
      ← cmpFields_swap es fs, ← Std.OrientedOrd.eq_swap]

end

/- Being less. -/

theorem rank_le_of_lt {v w : Value} (h : cmp v w = .lt) : v.rank ≤ w.rank := by
  by_cases hr : v.rank = w.rank
  · exact Nat.le_of_eq hr
  · rw [cmp_of_rank_ne hr, Nat.compare_eq_lt] at h
    exact Nat.le_of_lt h

theorem cmp_lt_trans_of_sameKind {v w x : Value}
    (same : SameKind v w → SameKind w x → cmp v w = .lt → cmp w x = .lt → cmp v x = .lt)
    (h : cmp v w = .lt) (h' : cmp w x = .lt) : cmp v x = .lt := by
  by_cases hr : v.rank = w.rank ∧ w.rank = x.rank
  · exact same (sameKind_of_rank_eq hr.1) (sameKind_of_rank_eq hr.2) h h'
  · have le := rank_le_of_lt h
    have le' := rank_le_of_lt h'
    have lt : v.rank < x.rank := by omega
    rw [cmp_of_rank_ne (Nat.ne_of_lt lt), Nat.compare_eq_lt]
    exact lt

/-- Parts are compared in turn: equal first parts are one and the same, so the rest decides. -/
theorem then_lt_trans {α : Type} {f : α → α → Ordering} {x y z : α} {a b c : Ordering}
    (eq : ∀ x y, f x y = .eq → x = y) (first : f x y = .lt → f y z = .lt → f x z = .lt)
    (rest : a = .lt → b = .lt → c = .lt) (h : (f x y).then a = .lt) (h' : (f y z).then b = .lt) :
    (f x z).then c = .lt := by
  rw [Ordering.then_eq_lt] at h h' ⊢
  rcases h with hxy | ⟨hxy, ha⟩
  · rcases h' with hyz | ⟨hyz, -⟩
    · exact .inl (first hxy hyz)
    · exact .inl (eq y z hyz ▸ hxy)
  · obtain rfl := eq x y hxy
    exact h'.imp_right fun hb => ⟨hb.1, rest ha hb.2⟩

theorem cmpNames_lt_trans {cs ds fs : List ClassName} (h : cmpNames cs ds = .lt)
    (h' : cmpNames ds fs = .lt) : cmpNames cs fs = .lt := by
  induction cs generalizing ds fs with
  | nil =>
    cases ds with
    | nil => simp [cmpNames] at h
    | cons d ds => cases fs <;> simp [cmpNames] at h' ⊢
  | cons c cs ih =>
    cases ds with
    | nil => simp [cmpNames] at h
    | cons d ds =>
      cases fs with
      | nil => simp [cmpNames] at h'
      | cons f fs =>
        rw [cmpNames] at h h' ⊢
        exact then_lt_trans (fun _ _ => Std.LawfulEqOrd.eq_of_compare) Std.TransCmp.lt_trans ih h h'

mutual

theorem cmp_lt_trans : ∀ v w x : Value, cmp v w = .lt → cmp w x = .lt → cmp v x = .lt
  | .array vs, w, x => cmp_lt_trans_of_sameKind fun hw hx h h' => by
    cases hw with
    | array _ ws =>
      cases hx with
      | array _ xs =>
        rw [cmp] at h h' ⊢
        exact cmpItems_lt_trans vs ws xs h h'
  | .hash es, w, x => cmp_lt_trans_of_sameKind fun hw hx h h' => by
    cases hw with
    | hash _ fs =>
      cases hx with
      | hash _ gs =>
        rw [cmp] at h h' ⊢
        exact cmpEntries_lt_trans es fs gs h h'
  | .object c as es, w, x => cmp_lt_trans_of_sameKind fun hw hx h h' => by
    cases hw with
    | object _ d _ bs _ fs =>
      cases hx with
      | object _ e _ cs _ gs =>
        rw [cmp] at h h' ⊢
        exact then_lt_trans (fun _ _ => Std.LawfulEqOrd.eq_of_compare) Std.TransCmp.lt_trans
          (then_lt_trans (fun as bs => (cmpNames_eq_iff as bs).mp) cmpNames_lt_trans
            (cmpFields_lt_trans es fs gs)) h h'
  | .nil, w, x => cmp_lt_trans_of_sameKind fun hw _ h _ => by
    cases hw
    simp [cmp] at h
  | .bool a, w, x => cmp_lt_trans_of_sameKind fun hw hx h h' => by
    cases hw
    cases hx
    rw [cmp] at h h' ⊢
    exact Std.TransCmp.lt_trans h h'
  | .int n, w, x => cmp_lt_trans_of_sameKind fun hw hx h h' => by
    cases hw
    cases hx
    rw [cmp] at h h' ⊢
    exact Std.TransCmp.lt_trans h h'
  | .float y, w, x => cmp_lt_trans_of_sameKind fun hw hx h h' => by
    cases hw
    cases hx
    rw [cmp, Binary64.cmp] at h h' ⊢
    exact Std.TransCmp.lt_trans h h'
  | .str s, w, x => cmp_lt_trans_of_sameKind fun hw hx h h' => by
    cases hw
    cases hx
    rw [cmp] at h h' ⊢
    exact Std.TransCmp.lt_trans h h'
  | .sym s, w, x => cmp_lt_trans_of_sameKind fun hw hx h h' => by
    cases hw
    cases hx
    rw [cmp] at h h' ⊢
    exact Std.TransCmp.lt_trans h h'

theorem cmpItems_lt_trans : ∀ vs ws xs : List Value,
    cmpItems vs ws = .lt → cmpItems ws xs = .lt → cmpItems vs xs = .lt
  | vs, [], _, h, _ => by cases vs <;> simp [cmpItems] at h
  | _, _ :: _, [], _, h' => by simp [cmpItems] at h'
  | [], _ :: _, _ :: _, _, _ => by rw [cmpItems]
  | v :: vs, w :: ws, x :: xs, h, h' => by
    rw [cmpItems] at h h' ⊢
    exact then_lt_trans (fun v w => (cmp_eq_iff v w).mp) (cmp_lt_trans v w x)
      (cmpItems_lt_trans vs ws xs) h h'

theorem cmpEntries_lt_trans : ∀ es fs gs : List (Value × Value),
    cmpEntries es fs = .lt → cmpEntries fs gs = .lt → cmpEntries es gs = .lt
  | vs, [], _, h, _ => by cases vs <;> simp [cmpEntries] at h
  | _, _ :: _, [], _, h' => by simp [cmpEntries] at h'
  | [], _ :: _, _ :: _, _, _ => by rw [cmpEntries]
  | (k, v) :: es, (l, w) :: fs, (m, x) :: gs, h, h' => by
    rw [cmpEntries] at h h' ⊢
    exact then_lt_trans (fun v w => (cmp_eq_iff v w).mp) (cmp_lt_trans k l m)
      (then_lt_trans (fun v w => (cmp_eq_iff v w).mp) (cmp_lt_trans v w x)
        (cmpEntries_lt_trans es fs gs)) h h'

theorem cmpFields_lt_trans : ∀ es fs gs : List (String × Value),
    cmpFields es fs = .lt → cmpFields fs gs = .lt → cmpFields es gs = .lt
  | vs, [], _, h, _ => by cases vs <;> simp [cmpFields] at h
  | _, _ :: _, [], _, h' => by simp [cmpFields] at h'
  | [], _ :: _, _ :: _, _, _ => by rw [cmpFields]
  | (k, v) :: es, (l, w) :: fs, (m, x) :: gs, h, h' => by
    rw [cmpFields] at h h' ⊢
    exact then_lt_trans (fun _ _ => Std.LawfulEqOrd.eq_of_compare) Std.TransCmp.lt_trans
      (then_lt_trans (fun v w => (cmp_eq_iff v w).mp) (cmp_lt_trans v w x)
        (cmpFields_lt_trans es fs gs)) h h'

end

instance : Std.TransCmp cmp where
  eq_swap := cmp_swap _ _
  isLE_trans {v w x} h h' := by
    rw [Ordering.isLE_iff_eq_lt_or_eq_eq] at h h' ⊢
    rcases h with h | h
    · rcases h' with h' | h'
      · exact .inl (cmp_lt_trans v w x h h')
      · exact .inl ((cmp_eq_iff w x).mp h' ▸ h)
    · obtain rfl := (cmp_eq_iff v w).mp h
      exact h'

instance : Std.LawfulEqCmp cmp where
  compare_self {v} := (cmp_eq_iff v v).mpr rfl
  eq_of_compare {v w} := (cmp_eq_iff v w).mp

end ValueTypes.Value
