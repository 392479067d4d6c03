import ValueTypes.Proofs.Acceptance
import ValueTypes.Proofs.Meaning

namespace ValueTypes.TypeDef

/-- The type with the labels of every node taken off. -/
def unlabelled : TypeDef → TypeDef
  | .nominal p _ => .nominal p {}
  | .array _ => .array {}
  | .arrayMember _ m => .arrayMember {} m.unlabelled
  | .hash _ => .hash {}
  | .map _ k v => .map {} k.unlabelled v.unlabelled

theorem bare_unlabelled (t : TypeDef) : t.unlabelled.bare = t.bare := by
  induction t with
  | nominal p l => rfl
  | array l => rfl
  | arrayMember l m ih => rw [unlabelled, bare, bare, ih]
  | hash l => rfl
  | map l kt vt ihk ihv => rw [unlabelled, bare, bare, ihk, ihv]

theorem alike_of_unlabelled_eq {t u : TypeDef} (same : t.unlabelled = u.unlabelled) : Alike t u := by
  have stripped := congrArg bare same
  rw [bare_unlabelled, bare_unlabelled] at stripped
  exact alike_of_bare_eq stripped

def IsLeaf (t : TypeDef) : Prop := t.kind = .nominal ∨ t.kind = .array ∨ t.kind = .hash

/-- Items and entries in the same places, and any leaves below them. -/
inductive SameSkeleton : TypeDef → TypeDef → Prop
  | leaf {t u : TypeDef} (left : t.IsLeaf) (right : u.IsLeaf) : SameSkeleton t u
  | arrayMember (l l' : Labels) {m n : TypeDef} (member : SameSkeleton m n) :
    SameSkeleton (.arrayMember l m) (.arrayMember l' n)
  | map (l l' : Labels) {kt kt' vt vt' : TypeDef} (key : SameSkeleton kt kt')
    (value : SameSkeleton vt vt') : SameSkeleton (.map l kt vt) (.map l' kt' vt')

theorem isLeaf_cases {t : TypeDef} (leaf : t.IsLeaf) :
    (∃ p l, t = nominal p l) ∨ (∃ l, t = array l) ∨ ∃ l, t = hash l := by
  cases t with
  | nominal p l => exact .inl ⟨p, l, rfl⟩
  | array l => exact .inr (.inl ⟨l, rfl⟩)
  | hash l => exact .inr (.inr ⟨l, rfl⟩)
  | arrayMember l m => simp [IsLeaf, kind] at leaf
  | map l kt vt => simp [IsLeaf, kind] at leaf

theorem attempt_of_isLeaf {t : TypeDef} (leaf : t.IsLeaf) (v : Value) : t.attempt v = .success v := by
  obtain ⟨p, l, rfl⟩ | ⟨l, rfl⟩ | ⟨l, rfl⟩ := isLeaf_cases leaf <;> rfl

theorem attempt_eq_of_sameSkeleton {t u : TypeDef} (same : SameSkeleton t u) (v : Value) :
    t.attempt v = u.attempt v := by
  induction same generalizing v with
  | leaf left right => rw [attempt_of_isLeaf left, attempt_of_isLeaf right]
  | arrayMember l l' _ ih => cases v <;> simp only [attempt, ih]
  | map l l' _ _ ihk ihv => cases v <;> simp only [attempt, ihk, ihv]

/-- What is accepted is what an attempt succeeds on, so it depends on no more than attempts do. -/
theorem accepts_eq_of_attempt_eq {t u : TypeDef} {v : Value} (same : t.attempt v = u.attempt v) :
    t.accepts v = u.accepts v := by
  rw [Bool.eq_iff_iff, accepts_iff_fits, accepts_iff_fits, ← isSuccess_attempt_iff,
    ← isSuccess_attempt_iff, same]

/-- Types that differ in labels alone answer alike. With other leaves, a type still accepts the same
values and makes the same of them. -/
theorem labels_and_leaves_inert {t u : TypeDef} (same : t.unlabelled = u.unlabelled) (v : Value) :
    (t.apply v = u.apply v ∧ t.attempt v = u.attempt v ∧ t.accepts v = u.accepts v ∧
        t.isPrimitive v = u.isPrimitive v ∧ t.coerce v = u.coerce v) ∧
      ∀ t', SameSkeleton t t' → t'.accepts v = u.accepts v ∧ t'.attempt v = u.attempt v := by
  have alike := alike_of_unlabelled_eq same
  refine ⟨⟨alike.apply v, alike.attempt v, alike.accepts v, alike.isPrimitive v, alike.coerce v⟩, ?_⟩
  intro t' skeleton
  have attempt : t'.attempt v = u.attempt v :=
    (attempt_eq_of_sameSkeleton skeleton v).symm.trans (alike.attempt v)
  exact ⟨accepts_eq_of_attempt_eq attempt, attempt⟩

theorem labels_and_leaves_inert_scores :
    let notes := OptionMap.ofList [(⟨"index"⟩, .int 7), (⟨"key"⟩, .nil)]
    let t := map ⟨notes, notes⟩ (nominal (.builtin .string) ⟨.empty, notes⟩)
      (arrayMember ⟨notes, .empty⟩ (nominal (.builtin .integer) {}))
    let u := map {} (nominal (.builtin .string) {}) (arrayMember {} (nominal (.builtin .integer) {}))
    let t' := map {} (array {}) (arrayMember {} (hash {}))
    let v : Value := .hash [(.str "ann", .array [.nil]), (.str "bob", .int 3)]
    t.unlabelled = u.unlabelled ∧ SameSkeleton t t' ∧ t.attempt v = u.attempt v ∧
      t.coerce v = .error ⟨.nil, .builtin .integer⟩ ∧ t'.attempt v = u.attempt v ∧
      (t'.attempt v).isSuccess = false := by
  intro notes t u t' v
  have same : t.unlabelled = u.unlabelled := rfl
  have skeleton : SameSkeleton t t' :=
    .map _ _ (.leaf (.inl rfl) (.inr (.inl rfl))) (.arrayMember _ _ (.leaf (.inl rfl) (.inr (.inr rfl))))
  obtain ⟨⟨-, attempted, -, -, coerced⟩, leaves⟩ := labels_and_leaves_inert same v
  have refused : u.coerce v = .error ⟨.nil, .builtin .integer⟩ := rfl
  exact ⟨same, skeleton, attempted, coerced.trans refused, (leaves t' skeleton).2, rfl⟩

end ValueTypes.TypeDef
