namespace ValueTypes.Entries

variable {α β : Type} {cmp : α → α → Ordering}

def Ascending (cmp : α → α → Ordering) (es : List (α × β)) : Prop :=
  es.Pairwise fun a b => cmp a.1 b.1 = .lt

/-- Binds a key, in its place; the value of a key already present is replaced. -/
def insert (cmp : α → α → Ordering) (k : α) (v : β) : List (α × β) → List (α × β)
  | [] => [(k, v)]
  | e :: es =>
    match cmp k e.1 with
    | .lt => (k, v) :: e :: es
    | .eq => (k, v) :: es
    | .gt => e :: insert cmp k v es

def find? (cmp : α → α → Ordering) (k : α) : List (α × β) → Option β
  | [] => none
  | e :: es => if cmp k e.1 = .eq then some e.2 else find? cmp k es

def erase (cmp : α → α → Ordering) (k : α) (es : List (α × β)) : List (α × β) :=
  es.filter fun e => cmp k e.1 != .eq

/-- The bindings of `upper` laid over those of `lower`, one after the other. -/
def layer (cmp : α → α → Ordering) (lower upper : List (α × β)) : List (α × β) :=
  upper.foldl (fun es e => insert cmp e.1 e.2 es) lower

/-- The ascending list of the given bindings; of two with one key the later counts. -/
def ofList (cmp : α → α → Ordering) (es : List (α × β)) : List (α × β) := layer cmp [] es

theorem ascending_nil : Ascending cmp ([] : List (α × β)) := .nil

theorem mem_insert {k : α} {v : β} {e : α × β} {es : List (α × β)} (h : e ∈ insert cmp k v es) :
    e = (k, v) ∨ e ∈ es := by
  induction es with
  | nil => exact .inl (by simpa [insert] using h)
  | cons a es ih =>
    rw [insert] at h
    cases hc : cmp k a.1 with
    | lt =>
      rw [hc] at h
      exact List.mem_cons.1 h
    | eq =>
      rw [hc] at h
      exact (List.mem_cons.1 h).imp_right (List.mem_cons_of_mem _)
    | gt =>
      rw [hc] at h
      rcases List.mem_cons.1 h with rfl | h
      · exact .inr List.mem_cons_self
      · exact (ih h).imp_right (List.mem_cons_of_mem _)

theorem Ascending.insert [Std.TransCmp cmp] {es : List (α × β)} (h : Ascending cmp es) (k : α)
    (v : β) : Ascending cmp (Entries.insert cmp k v es) := by
  induction es with
  | nil => exact List.pairwise_singleton _ _
  | cons a es ih =>
    obtain ⟨ha, hes⟩ := List.pairwise_cons.1 h
    rw [Entries.insert]
    cases hc : cmp k a.1 with
    | lt =>
      refine List.pairwise_cons.2 ⟨fun b hb => ?_, h⟩
      rcases List.mem_cons.1 hb with rfl | hb
      · exact hc
      · exact Std.TransCmp.lt_trans hc (ha b hb)
    | eq => exact List.pairwise_cons.2 ⟨fun b hb => Std.TransCmp.lt_of_eq_of_lt hc (ha b hb), hes⟩
    | gt =>
      refine List.pairwise_cons.2 ⟨fun b hb => ?_, ih hes⟩
      rcases mem_insert hb with rfl | hb
      · exact Std.OrientedCmp.lt_of_gt hc
      · exact ha b hb

theorem Ascending.erase {es : List (α × β)} (h : Ascending cmp es) (k : α) :
    Ascending cmp (Entries.erase cmp k es) := h.filter _

theorem Ascending.layer [Std.TransCmp cmp] {lower : List (α × β)} (h : Ascending cmp lower)
    (upper : List (α × β)) : Ascending cmp (Entries.layer cmp lower upper) := by
  induction upper generalizing lower with
  | nil => exact h
  | cons e es ih => exact ih (h.insert e.1 e.2)

theorem ascending_ofList [Std.TransCmp cmp] (es : List (α × β)) : Ascending cmp (ofList cmp es) :=
  ascending_nil.layer es

end ValueTypes.Entries
