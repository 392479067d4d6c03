import ValueTypes.Proofs.Failure

/-!
How far the notes of a failure lead. A failure lists the failures of its parts, but not what those are
made of in turn. So the notes lead to all that is refused as long as no part that fails has parts of its
own, and from there on only the messages tell more.
-/
namespace ValueTypes

/-- A relation that comes down to a property of the left side is that property of all of it. -/
theorem forall₂_iff_forall {α β : Type} {R S : α → β → Prop} {P : α → Prop} {xs : List α}
    {ys : List β} (related : List.Forall₂ R xs ys) (each : ∀ x y, R x y → (S x y ↔ P x)) :
    List.Forall₂ S xs ys ↔ ∀ x ∈ xs, P x := by
  induction related with
  | nil => simp
  | cons head tail ih => rw [List.forall₂_cons, List.forall_mem_cons, each _ _ head, ih]

namespace CoercionError

/-- The notes on the way down to a failure that is made of no others. -/
inductive Leads : CoercionError → List OptionMap → Prop
  | here {e : CoercionError} (single : e.errors = []) : Leads e []
  | step {e d : CoercionError} {path : List OptionMap} (listed : d ∈ e.errors)
    (rest : Leads d path) : Leads e (d.notes :: path)

theorem Leads.exists_listed {e : CoercionError} {notes : OptionMap} {path : List OptionMap}
    (leads : e.Leads (notes :: path)) : ∃ d ∈ e.errors, d.notes = notes ∧ d.Leads path := by
  -- The notes of a listed failure are no variable, so the path is named before the cases.
  generalize named : notes :: path = p at leads
  cases leads with
  | here => cases named
  | step listed rest =>
    cases named
    exact ⟨_, listed, rfl, rest⟩

theorem Leads.eq_nil {e : CoercionError} {path : List OptionMap} (leads : e.Leads path)
    (single : e.errors = []) : path = [] := by
  cases leads with
  | here => rfl
  | step listed _ =>
    rw [single] at listed
    cases listed

end CoercionError

namespace TypeDef

/-- The places on the way down to a part that is refused for its kind. -/
inductive Reaches : TypeDef → Value → List OptionMap → Prop
  | here {t : TypeDef} {v w : Value} {e : CoercionError} (failed : t.attempt v = .failure w e)
    (other : t.isPrimitive v = false) : Reaches t v []
  | step {t : TypeDef} {v : Value} {c : Culprit} {path : List OptionMap}
    (culprit : c ∈ t.culprits v) (rest : Reaches c.type c.part path) :
    Reaches t v (c.place :: path)

/-- Each failure that is listed is made of what the failure of its part is made of. -/
def KeepsParts (t : TypeDef) (v : Value) (e : CoercionError) : Prop :=
  List.Forall₂ (fun c d => ∃ f, c.type.attempt c.part = .failure c.part f ∧ d.errors = f.errors)
    (t.culprits v) e.errors

/-- What fails in the value is refused for its kind, and nothing further down is to blame. -/
def Shallow (t : TypeDef) (v : Value) : Prop :=
  ∀ c ∈ t.culprits v, c.type.isPrimitive c.part = false

theorem keepsParts_iff {t : TypeDef} {v w : Value} {e : CoercionError}
    (failed : t.attempt v = .failure w e) : t.KeepsParts v e ↔ t.Shallow v := by
  refine forall₂_iff_forall (refuses_of_attempt failed).culprits_blamed ?_
  rintro c d ⟨⟨f, nested⟩, -, dropped⟩
  rw [dropped, ← (refuses_of_attempt nested).errors_eq_nil_iff]
  constructor
  · rintro ⟨g, same, kept⟩
    cases nested.symm.trans same
    exact kept.symm
  · intro single
    exact ⟨f, nested, single.symm⟩

theorem culprits_ne_nil {t : TypeDef} {v w : Value} {e : CoercionError}
    (failed : t.attempt v = .failure w e) (container : t.isPrimitive v = true) :
    t.culprits v ≠ [] := by
  intro unlisted
  have refuses := refuses_of_attempt failed
  have blamed := refuses.culprits_blamed
  rw [unlisted, List.forall₂_nil_left_iff, refuses.errors_eq_nil_iff, container] at blamed
  cases blamed

theorem exists_reaches_of_parts {t : TypeDef} {v w : Value} {e : CoercionError}
    (failed : t.attempt v = .failure w e)
    (parts : ∀ c ∈ t.culprits v, ∀ f, c.type.attempt c.part = .failure c.part f →
      ∃ path, c.type.Reaches c.part path) : ∃ path, t.Reaches v path := by
  cases container : t.isPrimitive v with
  | false => exact ⟨[], .here failed container⟩
  | true =>
    obtain ⟨c, culprit⟩ := List.exists_mem_of_ne_nil _ (culprits_ne_nil failed container)
    obtain ⟨d, -, ⟨f, nested⟩, -⟩ :=
      exists_mem_right (refuses_of_attempt failed).culprits_blamed culprit
    obtain ⟨path, rest⟩ := parts c culprit f nested
    exact ⟨c.place :: path, .step culprit rest⟩

theorem type_of_mem_culprits_arrayMember {l : Labels} {m : TypeDef} {v : Value} {c : Culprit}
    (culprit : c ∈ (arrayMember l m).culprits v) : c.type = m := by
  cases v with
  | array vs =>
    obtain ⟨p, -, rfl⟩ := List.mem_map.mp culprit
    rfl
  | _ => cases culprit

theorem type_of_mem_culprits_map {l : Labels} {kt vt : TypeDef} {v : Value} {c : Culprit}
    (culprit : c ∈ (map l kt vt).culprits v) : c.type = kt ∨ c.type = vt := by
  cases v with
  | hash es =>
    obtain ⟨p, -, rfl⟩ := List.mem_map.mp culprit
    unfold entryCulprit
    split
    · exact .inl rfl
    · exact .inr rfl
  | _ => cases culprit

/-- Every failure comes down to some part that is refused for its kind. -/
theorem exists_reaches {t : TypeDef} {v w : Value} {e : CoercionError}
    (failed : t.attempt v = .failure w e) : ∃ path, t.Reaches v path := by
  induction t generalizing v w e with
  | nominal p l => cases failed
  | array l => cases failed
  | arrayMember l m ih =>
    refine exists_reaches_of_parts failed fun c culprit f nested => ?_
    rw [type_of_mem_culprits_arrayMember culprit] at nested ⊢
    exact ih nested
  | hash l => cases failed
  | map l kt vt ihk ihv =>
    refine exists_reaches_of_parts failed fun c culprit f nested => ?_
    rcases type_of_mem_culprits_map culprit with type | type
    · rw [type] at nested ⊢
      exact ihk nested
    · rw [type] at nested ⊢
      exact ihv nested

theorem Reaches.eq_nil {t : TypeDef} {v : Value} {path : List OptionMap} (reaches : t.Reaches v path)
    (other : t.isPrimitive v = false) : path = [] := by
  cases reaches with
  | here => rfl
  | step culprit _ =>
    rw [culprits_of_not_isPrimitive other] at culprit
    cases culprit

theorem leads_iff_reaches {t : TypeDef} {v w : Value} {e : CoercionError}
    (failed : t.attempt v = .failure w e) (shallow : t.Shallow v) (path : List OptionMap) :
    e.Leads path ↔ t.Reaches v path := by
  have refuses := refuses_of_attempt failed
  constructor
  · intro leads
    cases leads with
    | here single => exact .here failed (refuses.errors_eq_nil_iff.mp single)
    | step listed rest =>
      obtain ⟨c, culprit, ⟨f, nested⟩, noted, single⟩ :=
        exists_mem_left refuses.culprits_blamed listed
      cases rest.eq_nil single
      rw [noted]
      exact .step culprit (.here nested (shallow c culprit))
  · intro reaches
    cases reaches with
    | here _ other => exact .here (refuses.errors_eq_nil_iff.mpr other)
    | step culprit rest =>
      obtain ⟨d, listed, -, noted, single⟩ := exists_mem_right refuses.culprits_blamed culprit
      cases rest.eq_nil (shallow _ culprit)
      rw [← noted]
      exact .step listed (.here single)

theorem shallow_of_leads {t : TypeDef} {v w : Value} {e : CoercionError}
    (failed : t.attempt v = .failure w e) (leads : ∀ path, t.Reaches v path → e.Leads path) :
    t.Shallow v := by
  intro c culprit
  rw [Bool.eq_false_iff]
  intro container
  have blamed := (refuses_of_attempt failed).culprits_blamed
  obtain ⟨-, -, ⟨f, nested⟩, -⟩ := exists_mem_right blamed culprit
  obtain ⟨path, rest⟩ := exists_reaches nested
  cases rest with
  | here _ other => exact absurd container (Bool.eq_false_iff.mp other)
  | step deeper rest =>
    -- The way down has two steps, and notes lead one step at most.
    obtain ⟨d, listed, -, rest⟩ := (leads _ (.step culprit (.step deeper rest))).exists_listed
    obtain ⟨-, -, -, -, single⟩ := exists_mem_left blamed listed
    cases rest.eq_nil single

/-- A failure keeps what the failures that it lists are made of if and only if it is shallow, and no other
failure has notes that lead to all that is refused. -/
theorem structure_kept_iff {t : TypeDef} {v w : Value} {e : CoercionError}
    (failed : t.attempt v = .failure w e) :
    (t.KeepsParts v e ↔ t.Shallow v) ∧
      ((∀ path, e.Leads path ↔ t.Reaches v path) ↔ t.Shallow v) := by
  refine ⟨keepsParts_iff failed, ?_, leads_iff_reaches failed⟩
  intro same
  exact shallow_of_leads failed fun path => (same path).mpr

theorem structure_kept_iff_scores :
    let row := arrayMember {} (nominal (.builtin .integer) {})
    let t := map {} (nominal (.builtin .string) {}) row
    let v : Value := .hash [(.str "ann", .array [.int 1]), (.str "bob", .int 3)]
    ∃ e, t.attempt v = .failure v e ∧ t.KeepsParts v e ∧
      ∀ path, e.Leads path ↔ t.Reaches v path := by
  intro row t v
  obtain ⟨e, failed⟩ : ∃ e, t.attempt v = .failure v e := ⟨_, rfl⟩
  have blamed : t.culprits v = [⟨atKey (.str "bob"), row, .int 3⟩] := rfl
  have shallow : t.Shallow v := by
    rw [Shallow, blamed]
    exact List.forall_mem_singleton.mpr rfl
  obtain ⟨kept, led⟩ := structure_kept_iff failed
  exact ⟨e, failed, kept.mpr shallow, led.mpr shallow⟩

/-- Two levels down the index of the item is lost. -/
theorem nested_failures_dropped :
    let row := arrayMember {} (arrayMember {} (nominal (.builtin .any) {}))
    let v : Value := .array [.array [.nil]]
    ∃ e d f, (arrayMember {} row).attempt v = .failure v e ∧ e.errors = [d] ∧
      row.attempt (.array [.nil]) = .failure (.array [.nil]) f ∧
      f.errors = [⟨"nil is not an array", atIndex 0, []⟩] ∧ d.errors = [] ∧
      ¬(arrayMember {} row).KeepsParts v e := by
  intro row v
  have failed : (arrayMember {} row).attempt v =
      .failure v (.combine [⟨"nil is not an array", atIndex 0, []⟩]) := rfl
  refine ⟨_, _, _, failed, rfl, rfl, rfl, rfl, ?_⟩
  rw [keepsParts_iff failed]
  intro shallow
  cases shallow ⟨atIndex 0, row, .array [.nil]⟩ List.mem_cons_self

end TypeDef
end ValueTypes
