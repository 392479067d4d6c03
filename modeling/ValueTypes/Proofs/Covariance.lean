import ValueTypes.Proofs.Skeleton

namespace ValueTypes.TypeDef

inductive Below : TypeDef → TypeDef → Prop
  /-- Under a leaf the type itself may have items or entries; they are asked for no more. -/
  | leaf {t u : TypeDef} (upper : u.IsLeaf)
    (primitives : t.primitive.isSubtypeOf u.primitive = true) : Below t u
  | arrayMember (l l' : Labels) {m n : TypeDef} (member : Below m n) :
    Below (.arrayMember l m) (.arrayMember l' n)
  | map (l l' : Labels) {kt kt' vt vt' : TypeDef} (key : Below kt kt') (value : Below vt vt') :
    Below (.map l kt vt) (.map l' kt' vt')

theorem contains_of_isLeaf {t : TypeDef} (leaf : t.IsLeaf) {v : Value}
    (inst : t.isPrimitive v = true) : t.Contains v := by
  obtain ⟨p, l, rfl⟩ | ⟨l, rfl⟩ | ⟨l, rfl⟩ := isLeaf_cases leaf <;> exact inst

theorem fits_of_isLeaf {t : TypeDef} (leaf : t.IsLeaf) (v : Value) : t.Fits v := by
  rw [← isSuccess_attempt_iff, attempt_of_isLeaf leaf]
  rfl

theorem Below.contains {t u : TypeDef} (below : Below t u) {v : Value} (member : t.Contains v) :
    u.Contains v := by
  induction below generalizing v with
  | leaf upper primitives =>
    have inst := isPrimitive_of_contains member
    exact contains_of_isLeaf upper (Primitive.isInstance_of_isSubtypeOf primitives inst)
  | arrayMember l l' _ ih =>
    obtain ⟨vs, rfl, items⟩ := member
    exact ⟨vs, rfl, fun w hw => ih (items w hw)⟩
  | map l l' _ _ ihk ihv =>
    obtain ⟨es, rfl, entries⟩ := member
    exact ⟨es, rfl, fun e he => ⟨ihk (entries e he).1, ihv (entries e he).2⟩⟩

theorem Below.fits {t u : TypeDef} (below : Below t u) {v : Value} (fits : t.Fits v) : u.Fits v := by
  induction below generalizing v with
  | leaf upper _ => exact fits_of_isLeaf upper v
  | arrayMember l l' _ ih =>
    obtain ⟨vs, rfl, items⟩ := fits
    exact ⟨vs, rfl, fun w hw => ih (items w hw)⟩
  | map l l' _ _ ihk ihv =>
    obtain ⟨es, rfl, entries⟩ := fits
    exact ⟨es, rfl, fun e he => ⟨ihk (entries e he).1, ihv (entries e he).2⟩⟩

/-- Whatever a type lets through, a type above it lets through. -/
theorem coercion_covariant {t u : TypeDef} (below : Below t u) {v : Value} (sorted : v.Sorted) :
    (t.coerce v = .ok v → u.coerce v = .ok v) ∧ (t.accepts v = true → u.accepts v = true) ∧
      ((t.attempt v).isSuccess = true → (u.attempt v).isSuccess = true) := by
  rw [accepts_iff_fits, accepts_iff_fits, isSuccess_attempt_iff, isSuccess_attempt_iff]
  refine ⟨?_, below.fits, below.fits⟩
  intro coerced
  have member := ((coerce_ok_iff t v v).mp coerced).1
  exact (coerce_ok_iff u v v).mpr ⟨below.contains member, apply_eq_self u sorted⟩

theorem coercion_covariant_shapes :
    let circle : ClassName := ⟨"Geo::Circle", by decide⟩
    let shape : ClassName := ⟨"Geo::Shape", by decide⟩
    let t := map {} (nominal (.builtin .integer) {}) (arrayMember {} (nominal (.ofClass shape) {}))
    let u := map {} (nominal (.builtin .numeric) {}) (array {})
    let v : Value := .hash [(.int 1, .array [.object circle [shape] []])]
    Below t u ∧ v.Sorted ∧ t.coerce v = .ok v ∧ u.coerce v = .ok v ∧ u.accepts v = true ∧
      (u.attempt v).isSuccess = true := by
  intro circle shape t u v
  have below : Below t u := .map _ _ (.leaf (.inl rfl) rfl) (.leaf (.inr (.inl rfl)) rfl)
  have sorted : v.Sorted := by
    simp [v, Value.Sorted, Value.SortedItems, Value.SortedEntries, Value.SortedFields,
      Entries.Ascending]
  have coerced : t.coerce v = .ok v := rfl
  have above := coercion_covariant below sorted
  exact ⟨below, sorted, coerced, above.1 coerced, above.2.1 rfl, above.2.2 rfl⟩

end ValueTypes.TypeDef
