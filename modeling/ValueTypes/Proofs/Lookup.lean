import ValueTypes.Proofs.Entries

namespace ValueTypes.Entries

variable {α β : Type} {cmp : α → α → Ordering}

theorem find?_insert [Std.TransCmp cmp] (k l : α) (v : β) (es : List (α × β)) :
    find? cmp l (insert cmp k v es) = if cmp l k = .eq then some v else find? cmp l es := by
  induction es with
  | nil => rfl
  | cons e es ih =>
    rw [insert]
    cases place : cmp k e.1 with
    | lt => rfl
    | eq =>
      have same : cmp l e.1 = cmp l k := (Std.TransCmp.congr_right place).symm
      simp only [find?, same]
      split <;> rfl
    | gt =>
      by_cases here : cmp l e.1 = .eq
      · have apart : cmp l k = .lt := by
          rw [Std.TransCmp.congr_left here, Std.OrientedCmp.lt_of_gt place]
        simp [find?, here, apart]
      · simp only [find?, here, if_false, ih]

theorem find?_erase [Std.TransCmp cmp] (k l : α) (es : List (α × β)) :
    find? cmp l (erase cmp k es) = if cmp l k = .eq then none else find? cmp l es := by
  induction es with
  | nil => simp [erase, find?]
  | cons e es ih =>
    rw [erase] at ih ⊢
    rw [List.filter_cons]
    by_cases removed : cmp k e.1 = .eq
    · have same : cmp l e.1 = cmp l k := (Std.TransCmp.congr_right removed).symm
      simp only [removed, bne_self_eq_false, Bool.false_eq_true, if_false, ih, find?, same]
      split <;> rfl
    · by_cases here : cmp l e.1 = .eq
      · have apart : cmp l k ≠ .eq := by
          rwa [Std.TransCmp.congr_left here, ne_eq, Std.OrientedCmp.eq_comm]
        simp [find?, here, apart, removed]
      · simp [find?, here, removed, ih]

/-- Nothing is found under a key below all others. -/
theorem find?_eq_none {k : α} {es : List (α × β)} (below : ∀ e ∈ es, cmp k e.1 = .lt) :
    find? cmp k es = none := by
  induction es with
  | nil => rfl
  | cons e es ih =>
    obtain ⟨first, rest⟩ := List.forall_mem_cons.mp below
    rw [find?, if_neg (by simp [first]), ih rest]

/-- Keys are bound once: what is level with the first key is not found in the rest. -/
theorem Ascending.find?_rest [Std.TransCmp cmp] {e : α × β} {es : List (α × β)}
    (h : Ascending cmp (e :: es)) {l : α} (here : cmp l e.1 = .eq) : find? cmp l es = none :=
  find?_eq_none fun a ha => Std.TransCmp.lt_of_eq_of_lt here ((List.pairwise_cons.mp h).1 a ha)

theorem find?_layer [Std.TransCmp cmp] (l : α) (lower : List (α × β)) {upper : List (α × β)}
    (h : Ascending cmp upper) :
    find? cmp l (layer cmp lower upper) = (find? cmp l upper).or (find? cmp l lower) := by
  induction upper generalizing lower with
  | nil => rfl
  | cons e es ih =>
    have rest := (List.pairwise_cons.mp h).2
    have step : layer cmp lower (e :: es) = layer cmp (insert cmp e.1 e.2 lower) es := rfl
    rw [step, ih _ rest, find?_insert, find?]
    by_cases here : cmp l e.1 = .eq
    · simp only [here, h.find?_rest here, if_true, Option.none_or, Option.some_or]
    · simp only [here, if_false]

theorem mem_iff_find? [Std.TransCmp cmp] [Std.LawfulEqCmp cmp] {es : List (α × β)}
    (h : Ascending cmp es) (k : α) (v : β) : (k, v) ∈ es ↔ find? cmp k es = some v := by
  induction es with
  | nil => simp [find?]
  | cons e es ih =>
    have rest := (List.pairwise_cons.mp h).2
    rw [find?, List.mem_cons, ih rest]
    by_cases here : cmp k e.1 = .eq
    · have later := h.find?_rest here
      cases Std.LawfulEqCmp.eq_of_compare here
      simp only [Prod.ext_iff, later, here, if_true, Option.some.injEq, true_and, reduceCtorEq,
        or_false]
      exact eq_comm
    · have other : k ≠ e.1 := by
        rintro rfl
        exact here Std.ReflCmp.compare_self
      simp [here, Prod.ext_iff, other]

theorem mem_insert_iff [Std.TransCmp cmp] [Std.LawfulEqCmp cmp] {es : List (α × β)}
    (h : Ascending cmp es) (k l : α) (v w : β) :
    (k, v) ∈ insert cmp l w es ↔ (k, v) = (l, w) ∨ k ≠ l ∧ (k, v) ∈ es := by
  rw [mem_iff_find? (h.insert l w), find?_insert, mem_iff_find? h]
  by_cases here : k = l
  · have level : cmp k l = .eq := here ▸ Std.ReflCmp.compare_self
    rw [if_pos level]
    simp [here, eq_comm]
  · have apart : cmp k l ≠ .eq := mt Std.LawfulEqCmp.eq_of_compare here
    simp [here, apart]

theorem Ascending.keys_nodup [Std.ReflCmp cmp] {es : List (α × β)} (h : Ascending cmp es) :
    (es.map Prod.fst).Nodup := by
  refine List.pairwise_map.mpr (h.imp fun {a b} less same => ?_)
  have level : cmp a.1 b.1 = .eq := same ▸ Std.ReflCmp.compare_self
  rw [level] at less
  cases less

theorem Ascending.nodup [Std.ReflCmp cmp] {es : List (α × β)} (h : Ascending cmp es) : es.Nodup :=
  (List.pairwise_map.mp h.keys_nodup).imp fun other same => other (congrArg Prod.fst same)

/-- A list whose keys ascend is known by its members, whatever order they are listed in. -/
theorem eq_of_mem_iff [Std.OrientedCmp cmp] {es fs : List (α × β)} (left : Ascending cmp es)
    (right : Ascending cmp fs) (same : ∀ e, e ∈ es ↔ e ∈ fs) : es = fs := by
  have perm : es.Perm fs := (List.perm_ext_iff_of_nodup left.nodup right.nodup).mpr same
  refine perm.eq_of_pairwise ?_ left right
  intro a b _ _ less more
  rw [Std.OrientedCmp.gt_of_lt less] at more
  cases more

theorem eq_of_find?_eq [Std.TransCmp cmp] [Std.LawfulEqCmp cmp] {es fs : List (α × β)}
    (left : Ascending cmp es) (right : Ascending cmp fs)
    (same : ∀ k, find? cmp k es = find? cmp k fs) : es = fs := by
  refine eq_of_mem_iff left right fun e => ?_
  rw [mem_iff_find? left, mem_iff_find? right, same]

/- What a list of bindings in any order comes to. -/

/-- The last binding of the key in the list is to the value. -/
def LastBound (es : List (α × β)) (k : α) (v : β) : Prop :=
  ∃ before after, es = before ++ (k, v) :: after ∧ k ∉ after.map Prod.fst

@[simp]
theorem not_lastBound_nil (k : α) (v : β) : ¬LastBound [] k v := by simp [LastBound]

theorem lastBound_cons_iff (e : α × β) (es : List (α × β)) (k : α) (v : β) :
    LastBound (e :: es) k v ↔ LastBound es k v ∨ k ∉ es.map Prod.fst ∧ (k, v) = e := by
  constructor
  · rintro ⟨before, after, split, later⟩
    cases before with
    | nil =>
      obtain ⟨rfl, rfl⟩ := List.cons.inj split
      exact .inr ⟨later, rfl⟩
    | cons b before =>
      obtain ⟨-, rfl⟩ := List.cons.inj split
      exact .inl ⟨before, after, rfl, later⟩
  · rintro (⟨before, after, rfl, later⟩ | ⟨later, rfl⟩)
    · exact ⟨e :: before, after, rfl, later⟩
    · exact ⟨[], es, rfl, later⟩

theorem exists_lastBound_iff (es : List (α × β)) (k : α) :
    (∃ v, LastBound es k v) ↔ k ∈ es.map Prod.fst := by
  induction es with
  | nil => simp
  | cons e es ih =>
    simp only [lastBound_cons_iff, exists_or, ih, exists_and_left, Prod.ext_iff, List.map_cons,
      List.mem_cons]
    by_cases later : k ∈ es.map Prod.fst <;> simp [later]

theorem lastBound_iff_mem {es : List (α × β)} (distinct : (es.map Prod.fst).Nodup) (k : α) (v : β) :
    LastBound es k v ↔ (k, v) ∈ es := by
  constructor
  · rintro ⟨before, after, rfl, -⟩
    exact List.mem_append_right before List.mem_cons_self
  · intro mem
    obtain ⟨before, after, rfl⟩ := List.append_of_mem mem
    rw [List.map_append, List.map_cons] at distinct
    have rest := (List.nodup_append.mp distinct).2.1
    exact ⟨before, after, rfl, (List.nodup_cons.mp rest).1⟩

theorem mem_layer_iff [Std.TransCmp cmp] [Std.LawfulEqCmp cmp] {lower : List (α × β)}
    (h : Ascending cmp lower) (upper : List (α × β)) (k : α) (v : β) :
    (k, v) ∈ layer cmp lower upper ↔
      LastBound upper k v ∨ k ∉ upper.map Prod.fst ∧ (k, v) ∈ lower := by
  induction upper generalizing lower with
  | nil => simp [layer]
  | cons e es ih =>
    have step : layer cmp lower (e :: es) = layer cmp (insert cmp e.1 e.2 lower) es := rfl
    rw [step, ih (h.insert e.1 e.2), mem_insert_iff h, lastBound_cons_iff, List.map_cons,
      List.mem_cons]
    by_cases later : k ∈ es.map Prod.fst <;> simp [later, Prod.ext_iff, or_assoc]

theorem mem_ofList_iff [Std.TransCmp cmp] [Std.LawfulEqCmp cmp] (es : List (α × β)) (k : α)
    (v : β) :
    (k, v) ∈ ofList cmp es ↔ LastBound es k v := by
  rw [ofList, mem_layer_iff ascending_nil]
  simp

/-- What counts in a list is the last binding of each key, and nothing else. -/
theorem ofList_eq_iff [Std.TransCmp cmp] [Std.LawfulEqCmp cmp] (es fs : List (α × β)) :
    ofList cmp es = ofList cmp fs ↔ ∀ k v, LastBound es k v ↔ LastBound fs k v := by
  have members := @mem_ofList_iff α β cmp _ _
  simp only [← members]
  constructor
  · intro same k v
    rw [same]
  · intro same
    exact eq_of_mem_iff (ascending_ofList es) (ascending_ofList fs) fun e => same e.1 e.2

end ValueTypes.Entries
