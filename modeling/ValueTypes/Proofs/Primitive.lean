import ValueTypes.Fault
import ValueTypes.Value

namespace ValueTypes

theorem Builtin.named?_name (b : Builtin) : Builtin.named? b.name = some b := by
  cases b <;> decide

/-- Class names are made of name characters and colons. -/
theorem isNameChar_or_eq_colon {fresh : Bool} {cs : List Char} (rest : isNameRest fresh cs = true) :
    ∀ c ∈ cs, isNameChar c = true ∨ c = ':' := by
  fun_induction isNameRest fresh cs with
  | case1 fresh => exact fun c hc => absurd hc List.not_mem_nil
  | case2 fresh cs ih =>
    rw [Bool.and_eq_true] at rest
    have later := ih rest.2
    exact List.forall_mem_cons.mpr ⟨.inr rfl, List.forall_mem_cons.mpr ⟨.inr rfl, later⟩⟩
  | case3 fresh c cs _ ih =>
    rw [Bool.and_eq_true] at rest
    exact List.forall_mem_cons.mpr ⟨.inl rest.1, ih rest.2⟩

theorem ClassName.builtin_named?_name (c : ClassName) : Builtin.named? c.name = none := by
  have valid := c.valid
  simp only [isClassName, Bool.and_eq_true, Option.isNone_iff_eq_none] at valid
  exact valid.2

theorem ClassName.ofString?_name (c : ClassName) : ClassName.ofString? c.name = some c := by
  rw [ClassName.ofString?, dif_pos c.valid]

namespace Primitive

theorem named?_name (p : Primitive) : named? p.name = some p := by
  cases p with
  | builtin b => rw [name, named?, b.named?_name]
  | ofClass c => rw [name, named?, c.builtin_named?_name, c.ofString?_name, Option.map_some]

theorem name_of_named? {s : String} {p : Primitive} (named : named? s = some p) : p.name = s := by
  unfold named? at named
  split at named
  · rename_i b found
    cases named
    unfold Builtin.named? at found
    have same := List.find?_some found
    exact of_decide_eq_true same
  · obtain ⟨c, found, rfl⟩ := Option.map_eq_some_iff.mp named
    unfold ClassName.ofString? at found
    split at found
    · cases found
      rfl
    · cases found

theorem named_eq_ok_iff {s : String} {p : Primitive} : named s = .ok p ↔ named? s = some p := by
  unfold named
  cases named? s <;> simp

/- Only arrays are instances of `Array`, and only hashes of `Hash`: no class lies below a built-in. -/

theorem isInstance_array {v : Value} :
    isInstance (.builtin .array) v = true ↔ ∃ vs, v = .array vs := by
  cases v <;> simp [isInstance, of, isSubtypeOf]

theorem isInstance_hash {v : Value} :
    isInstance (.builtin .hash) v = true ↔ ∃ es, v = .hash es := by
  cases v <;> simp [isInstance, of, isSubtypeOf]

/- Being an instance goes up the hierarchy. Among the built-ins it is the order of primitives, of the
value's own primitive below the one asked for; no class is above another. -/

theorem isSubtypeOf_iff (p q : Primitive) : p.isSubtypeOf q = true ↔
    p = q ∨ q = .builtin .any ∨
      q = .builtin .numeric ∧ (p = .builtin .integer ∨ p = .builtin .float) := by
  simp only [isSubtypeOf, Bool.or_eq_true, Bool.and_eq_true, decide_eq_true_eq, or_assoc]

theorem isInstance_builtin (b : Builtin) (v : Value) :
    isInstance (.builtin b) v = (of v).isSubtypeOf (.builtin b) := by
  cases v <;> rfl

/-- No built-in is below one that is neither `Any` nor `Numeric`, save that one. -/
theorem isInstance_lowest (b : Builtin) (any : b ≠ .any) (numeric : b ≠ .numeric) {v : Value} :
    isInstance (.builtin b) v = true ↔ of v = .builtin b := by
  rw [isInstance_builtin, isSubtypeOf_iff]
  simp [any, numeric]

theorem isInstance_of_isSubtypeOf {p q : Primitive} {v : Value} (below : p.isSubtypeOf q = true)
    (inst : p.isInstance v = true) : q.isInstance v = true := by
  obtain rfl | rfl | ⟨rfl, number⟩ := (isSubtypeOf_iff p q).mp below
  · exact inst
  · rw [isInstance_builtin, isSubtypeOf_iff]
    exact .inr (.inl rfl)
  · rw [isInstance_builtin, isSubtypeOf_iff]
    refine .inr (.inr ⟨rfl, ?_⟩)
    rcases number with rfl | rfl
    · exact .inl ((isInstance_lowest .integer nofun nofun).mp inst)
    · exact .inr ((isInstance_lowest .float nofun nofun).mp inst)

end Primitive
end ValueTypes
