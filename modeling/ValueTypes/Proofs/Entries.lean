import ValueTypes.Entries

namespace ValueTypes.Entries

variable {α β γ : Type} {cmp : α → α → Ordering}

theorem mem_of_mem_layer {lower upper : List (α × β)} {e : α × β} (h : e ∈ layer cmp lower upper) :
    e ∈ lower ∨ e ∈ upper := by
  induction upper generalizing lower with
  | nil => exact .inl h
  | cons a as ih =>
    rcases ih h with h | h
    · rcases mem_insert h with rfl | h
      · exact .inr List.mem_cons_self
      · exact .inl h
    · exact .inr (List.mem_cons_of_mem a h)

theorem mem_of_mem_ofList {es : List (α × β)} {e : α × β} (h : e ∈ ofList cmp es) : e ∈ es := by
  rcases mem_of_mem_layer h with h | h
  · exact absurd h List.not_mem_nil
  · exact h

theorem insert_ne_nil (k : α) (v : β) (es : List (α × β)) : insert cmp k v es ≠ [] := by
  cases es with
  | nil => exact List.cons_ne_nil _ _
  | cons e es =>
    rw [insert]
    split <;> exact List.cons_ne_nil _ _

theorem layer_ne_nil {lower : List (α × β)} (filled : lower ≠ []) (upper : List (α × β)) :
    layer cmp lower upper ≠ [] := by
  induction upper generalizing lower with
  | nil => exact filled
  | cons e es ih => exact ih (insert_ne_nil e.1 e.2 lower)

/-- A key above all others goes to the end. -/
theorem insert_eq_append [Std.OrientedCmp cmp] {k : α} {v : β} {es : List (α × β)}
    (h : ∀ e ∈ es, cmp e.1 k = .lt) : insert cmp k v es = es ++ [(k, v)] := by
  induction es with
  | nil => rfl
  | cons e es ih =>
    have hgt : cmp k e.1 = .gt := Std.OrientedCmp.gt_of_lt (h e List.mem_cons_self)
    rw [insert, hgt, List.cons_append, ← ih fun a ha => h a (List.mem_cons_of_mem e ha)]

theorem layer_eq_append [Std.OrientedCmp cmp] {lower upper : List (α × β)}
    (h : Ascending cmp (lower ++ upper)) : layer cmp lower upper = lower ++ upper := by
  induction upper generalizing lower with
  | nil => exact (List.append_nil lower).symm
  | cons e es ih =>
    have below : ∀ a ∈ lower, cmp a.1 e.1 = .lt := fun a ha =>
      (List.pairwise_append.mp h).2.2 a ha e List.mem_cons_self
    have step : layer cmp lower (e :: es) = layer cmp (lower ++ [e]) es := by
      rw [layer, List.foldl_cons, insert_eq_append below, layer]
    rw [List.append_cons] at h
    rw [step, ih h, List.append_assoc, List.singleton_append]

theorem ofList_eq_self [Std.OrientedCmp cmp] {es : List (α × β)} (h : Ascending cmp es) :
    ofList cmp es = es := by
  have start : Ascending cmp ([] ++ es) := h
  exact layer_eq_append start

/- Keys renamed in their order, and other values bound to them. -/

section

variable {δ : Type} {cmp' : γ → γ → Ordering} {name : α → γ} {f : β → δ}

theorem insert_map (order : ∀ a b, cmp' (name a) (name b) = cmp a b) (k : α) (v : β)
    (es : List (α × β)) :
    insert cmp' (name k) (f v) (es.map (Prod.map name f)) = (insert cmp k v es).map (Prod.map name f) := by
  induction es with
  | nil => rfl
  | cons e es ih =>
    rw [List.map_cons, insert, insert, Prod.map_fst, order]
    cases cmp k e.1 with
    | lt => rfl
    | eq => rfl
    | gt => simp only [ih, List.map_cons]

theorem layer_map (order : ∀ a b, cmp' (name a) (name b) = cmp a b) (lower upper : List (α × β)) :
    layer cmp' (lower.map (Prod.map name f)) (upper.map (Prod.map name f)) =
      (layer cmp lower upper).map (Prod.map name f) := by
  induction upper generalizing lower with
  | nil => rfl
  | cons e es ih =>
    have step := ih (insert cmp e.1 e.2 lower)
    rw [← insert_map order] at step
    exact step

theorem ofList_map (order : ∀ a b, cmp' (name a) (name b) = cmp a b) (es : List (α × β)) :
    ofList cmp' (es.map (Prod.map name f)) = (ofList cmp es).map (Prod.map name f) :=
  layer_map order [] es

end

/-- What is bound to the keys does not matter. -/
theorem Ascending.map_value {es : List (α × β)} (h : Ascending cmp es) (f : α → β → γ) :
    Ascending cmp (es.map fun e => (e.1, f e.1 e.2)) :=
  List.pairwise_map.mpr h

theorem map_eq_self_iff {f : α → α} {xs : List α} : xs.map f = xs ↔ ∀ x ∈ xs, f x = x := by
  have pointwise : xs.map f = xs.map id ↔ ∀ x ∈ xs, f x = id x := List.map_inj_left
  rwa [List.map_id] at pointwise

theorem map_value_eq_self_iff {f : β → β} {es : List (α × β)} :
    es.map (fun e => (e.1, f e.2)) = es ↔ ∀ e ∈ es, f e.2 = e.2 := by
  simp only [map_eq_self_iff, Prod.ext_iff, true_and]

end ValueTypes.Entries
