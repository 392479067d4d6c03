import ValueTypes.Proofs.Acceptance
import ValueTypes.TypeDef.Stored

/-!
Which types can be made. However types are put together and taken apart, every array type stores a
definition over `Array` and every hash type one over `Hash`, at every depth, and all types of that form
can be made. So no value passes the check of a type with items unless it is an array, or that of a type
with entries unless it is a hash.
-/
namespace ValueTypes.StoredType

/-- What finitely many operations make, each from nothing or from types made before. -/
inductive Made : StoredType → Prop
  | build (p : Primitive) (options notes : OptionMap) : Made (build p options notes)
  | nominal (b : Base) : Made (nominal b)
  | plainArray : Made (array plainArray)
  | plainHash : Made (hash plainHash)
  | compile (a : Ast) : Made (compile a)
  | compileJson {j : Json} {t : StoredType} (done : compileJson j = .ok t) : Made t
  | withNotes {t : StoredType} (made : Made t) (notes : OptionMap) : Made (t.withNotes notes)
  | withOptions {t u : StoredType} (made : Made t) (options : OptionMap)
    (done : t.withOptions? options = some u) : Made u
  | withOption {t u : StoredType} (made : Made t) (k : Symbol) (v : Value)
    (done : t.withOption? k v = some u) : Made u
  | pristine {t u : StoredType} (made : Made t) (done : t.pristine? = some u) : Made u
  | of {t m u : StoredType} (made : Made t) (member : Made m) (done : t.of? m = some u) : Made u
  | map {t k v u : StoredType} (made : Made t) (key : Made k) (value : Made v)
    (done : t.map? k v = some u) : Made u
  | base {t u : StoredType} (made : Made t) (done : t.base? = some u) : Made u
  | member {t u : StoredType} (made : Made t) (done : t.member? = some u) : Made u
  | key {t u : StoredType} (made : Made t) (done : t.key? = some u) : Made u
  | value {t u : StoredType} (made : Made t) (done : t.value? = some u) : Made u

def nodes : StoredType → List StoredType
  | .arrayMember b m => .arrayMember b m :: m.nodes
  | .map b k v => .map b k v :: (k.nodes ++ v.nodes)
  | t => [t]

/-- What is below a type is a part of a part, and so on, and can be taken out of it. -/
theorem Made.node {t n : StoredType} (made : Made t) (below : n ∈ t.nodes) : Made n := by
  induction t with
  | nominal b =>
    cases List.mem_singleton.mp below
    exact made
  | array b =>
    cases List.mem_singleton.mp below
    exact made
  | arrayMember b m ih =>
    rcases List.mem_cons.mp below with rfl | below
    · exact made
    · exact ih (.member made rfl) below
  | hash b =>
    cases List.mem_singleton.mp below
    exact made
  | map b k v ihk ihv =>
    rcases List.mem_cons.mp below with rfl | below
    · exact made
    rcases List.mem_append.mp below with below | below
    · exact ihk (.key made rfl) below
    · exact ihv (.value made rfl) below

theorem self_mem_nodes (t : StoredType) : t ∈ t.nodes := by
  cases t <;> exact List.mem_cons_self

/-- The primitive that the node stores is the one of its kind. -/
def SettledNode (t : StoredType) : Prop :=
  (t.kind = .array ∨ t.kind = .arrayMember → t.primitive = .builtin .array) ∧
    (t.kind = .hash ∨ t.kind = .map → t.primitive = .builtin .hash)

def Settled (t : StoredType) : Prop := ∀ n ∈ t.nodes, n.SettledNode

theorem settled_nominal (b : Base) : (nominal b).Settled := by
  simp [Settled, nodes, SettledNode, kind]

theorem settled_array (b : Base) : (array b).Settled ↔ b.primitive = .builtin .array := by
  simp [Settled, nodes, SettledNode, kind, primitive, base]

theorem settled_hash (b : Base) : (hash b).Settled ↔ b.primitive = .builtin .hash := by
  simp [Settled, nodes, SettledNode, kind, primitive, base]

theorem settled_arrayMember (b : Base) (m : StoredType) :
    (arrayMember b m).Settled ↔ b.primitive = .builtin .array ∧ m.Settled := by
  simp [Settled, nodes, SettledNode, kind, primitive, base]

theorem settled_map (b : Base) (k v : StoredType) :
    (map b k v).Settled ↔ b.primitive = .builtin .hash ∧ k.Settled ∧ v.Settled := by
  simp only [Settled, nodes, List.forall_mem_cons, List.forall_mem_append]
  simp [SettledNode, kind, primitive, base]

/- A settled type is told by its definition. -/

theorem definition_ofDefinition (d : TypeDef) : (ofDefinition d).definition = d := by
  induction d with
  | nominal p l => rfl
  | array l => rfl
  | arrayMember l m ih => simp only [ofDefinition, definition, ih]
  | hash l => rfl
  | map l k v ihk ihv => simp only [ofDefinition, definition, ihk, ihv]

theorem settled_iff_ofDefinition (t : StoredType) : t.Settled ↔ ofDefinition t.definition = t := by
  induction t with
  | nominal b => simp [settled_nominal, definition, ofDefinition]
  | array b =>
    obtain ⟨p, l⟩ := b
    simp [settled_array, definition, ofDefinition, eq_comm]
  | arrayMember b m ih =>
    obtain ⟨p, l⟩ := b
    simp [settled_arrayMember, definition, ofDefinition, ih, eq_comm]
  | hash b =>
    obtain ⟨p, l⟩ := b
    simp [settled_hash, definition, ofDefinition, eq_comm]
  | map b k v ihk ihv =>
    obtain ⟨p, l⟩ := b
    simp [settled_map, definition, ofDefinition, ihk, ihv, eq_comm]

theorem settled_ofDefinition (d : TypeDef) : (ofDefinition d).Settled := by
  rw [settled_iff_ofDefinition, definition_ofDefinition]

theorem build_eq_ofDefinition (p : Primitive) (options notes : OptionMap) :
    build p options notes = ofDefinition (TypeDef.build p options notes) := by
  unfold build TypeDef.build Primitive.kind
  by_cases sequence : p.isSequence = true
  · obtain rfl : p = .builtin .array := of_decide_eq_true sequence
    rfl
  by_cases mapping : p.isMap = true
  · obtain rfl : p = .builtin .hash := of_decide_eq_true mapping
    rfl
  · simp only [sequence, mapping, if_false, Bool.false_eq_true]
    rfl

theorem compile_eq_ofDefinition (a : Ast) : compile a = ofDefinition a.compile := by
  induction a with
  | nominal p ns => exact build_eq_ofDefinition p .empty ns
  | array m ns ih =>
    rw [compile, ih]
    rfl
  | hash options ns => rfl
  | map k v ns ihk ihv =>
    rw [compile, ihk, ihv]
    rfl

/- Each operation keeps types settled. -/

theorem Settled.relabel {t : StoredType} (settled : t.Settled) (f : Labels → Labels) :
    (t.relabel f).Settled := by
  cases t with
  | nominal b => exact settled_nominal _
  | array b => exact (settled_array _).mpr ((settled_array b).mp settled)
  | hash b => exact (settled_hash _).mpr ((settled_hash b).mp settled)
  | arrayMember b m => exact (settled_arrayMember _ m).mpr ((settled_arrayMember b m).mp settled)
  | map b k v => exact (settled_map _ k v).mpr ((settled_map b k v).mp settled)

theorem Settled.of {t m u : StoredType} (settled : t.Settled) (member : m.Settled)
    (done : t.of? m = some u) : u.Settled := by
  cases t with
  | array b =>
    cases done
    exact (settled_arrayMember b m).mpr ⟨(settled_array b).mp settled, member⟩
  | _ => cases done

theorem Settled.map {t k v u : StoredType} (settled : t.Settled) (key : k.Settled)
    (value : v.Settled) (done : t.map? k v = some u) : u.Settled := by
  cases t with
  | hash b =>
    cases done
    exact (settled_map b k v).mpr ⟨(settled_hash b).mp settled, key, value⟩
  | _ => cases done

theorem settled_of_base? {t u : StoredType} (done : t.base? = some u) : u.Settled := by
  cases t with
  | array b =>
    cases done
    exact settled_nominal b
  | hash b =>
    cases done
    exact settled_nominal b
  | _ => cases done

theorem Settled.part {t u : StoredType} (settled : t.Settled)
    (done : t.member? = some u ∨ t.key? = some u ∨ t.value? = some u) : u.Settled := by
  cases t with
  | arrayMember b m =>
    obtain ⟨-, member⟩ := (settled_arrayMember b m).mp settled
    obtain done | done | done := done <;> cases done
    exact member
  | map b k v =>
    obtain ⟨-, key, value⟩ := (settled_map b k v).mp settled
    obtain done | done | done := done <;> cases done
    · exact key
    · exact value
  | _ => obtain done | done | done := done <;> cases done

theorem Made.settled {t : StoredType} (made : Made t) : t.Settled := by
  induction made with
  | build p options notes =>
    rw [build_eq_ofDefinition]
    exact settled_ofDefinition _
  | nominal b => exact settled_nominal b
  | plainArray => exact (settled_array _).mpr rfl
  | plainHash => exact (settled_hash _).mpr rfl
  | compile a =>
    rw [compile_eq_ofDefinition]
    exact settled_ofDefinition _
  | @compileJson j _ done =>
    unfold StoredType.compileJson at done
    cases read : Ast.ofJson j with
    | error e =>
      simp only [read] at done
      cases done
    | ok a =>
      simp only [read] at done
      cases done
      rw [compile_eq_ofDefinition]
      exact settled_ofDefinition _
  | withNotes _ notes ih => exact ih.relabel _
  | withOptions _ options done ih =>
    unfold withOptions? at done
    split at done <;> cases done <;> exact ih.relabel _
  | withOption _ k v done ih =>
    unfold withOption? at done
    split at done <;> cases done
    exact ih.relabel _
  | pristine _ done ih =>
    unfold pristine? at done
    split at done <;> cases done
    exact ih.relabel _
  | of _ _ done ih ihm => exact ih.of ihm done
  | map _ _ _ done ih ihk ihv => exact ih.map ihk ihv done
  | base _ done _ => exact settled_of_base? done
  | member _ done ih => exact ih.part (.inl done)
  | key _ done ih => exact ih.part (.inr (.inl done))
  | value _ done ih => exact ih.part (.inr (.inr done))

theorem made_array (b : Base) (stored : b.primitive = .builtin .array) : Made (array b) := by
  obtain ⟨p, options, notes⟩ := b
  cases stored
  exact .build (.builtin .array) options notes

theorem made_hash (b : Base) (stored : b.primitive = .builtin .hash) : Made (hash b) := by
  obtain ⟨p, options, notes⟩ := b
  cases stored
  exact .build (.builtin .hash) options notes

/-- Nothing else restricts what can be made. -/
theorem made_iff_settled (t : StoredType) : Made t ↔ t.Settled := by
  constructor
  · exact Made.settled
  · intro settled
    induction t with
    | nominal b => exact .nominal b
    | array b => exact made_array b ((settled_array b).mp settled)
    | arrayMember b m ih =>
      obtain ⟨stored, member⟩ := (settled_arrayMember b m).mp settled
      exact .of (made_array b stored) (ih member) rfl
    | hash b => exact made_hash b ((settled_hash b).mp settled)
    | map b k v ihk ihv =>
      obtain ⟨stored, key, value⟩ := (settled_map b k v).mp settled
      exact .map (made_hash b stored) (ihk key) (ihv value) rfl

/- Coercing. A value that passes the check of a settled container has items or entries. -/

theorem coerceElse_arrayMember_array (other : Value → Except Mismatch Value) {b : Base}
    (stored : b.primitive = .builtin .array) (m : StoredType) (vs : List Value) :
    (arrayMember b m).coerceElse other (.array vs) =
      (do return .array (← vs.mapM fun w => m.coerceElse other w)) := by
  rw [coerceElse, stored]
  rfl

theorem coerceElse_map_hash (other : Value → Except Mismatch Value) {b : Base}
    (stored : b.primitive = .builtin .hash) (k v : StoredType) (es : List (Value × Value)) :
    (map b k v).coerceElse other (.hash es) = (do
      return .ofEntries (← es.mapM fun e => do
        return (← k.coerceElse other e.1, ← v.coerceElse other e.2))) := by
  rw [coerceElse, stored]
  rfl

/-- What would be done with a value that passes without having parts does not matter. -/
theorem Settled.coerceElse_eq {t : StoredType} (settled : t.Settled)
    (other : Value → Except Mismatch Value) (v : Value) :
    t.coerceElse other v = t.definition.coerce v := by
  induction t generalizing v with
  | nominal b => rfl
  | array b =>
    have stored := (settled_array b).mp settled
    simp only [coerceElse, primitive, base, stored]
    rfl
  | arrayMember b m ih =>
    obtain ⟨stored, member⟩ := (settled_arrayMember b m).mp settled
    by_cases passes : Primitive.isInstance (.builtin .array) v = true
    · obtain ⟨vs, rfl⟩ := Primitive.isInstance_array.mp passes
      simp only [coerceElse_arrayMember_array other stored, ih member]
      rfl
    · simp only [coerceElse, stored, TypeDef.check, passes, definition,
        TypeDef.coerce_arrayMember_of_not b.labels m.definition passes]
      rfl
  | hash b =>
    have stored := (settled_hash b).mp settled
    simp only [coerceElse, primitive, base, stored]
    rfl
  | map b kt vt ihk ihv =>
    obtain ⟨stored, key, value⟩ := (settled_map b kt vt).mp settled
    by_cases passes : Primitive.isInstance (.builtin .hash) v = true
    · obtain ⟨es, rfl⟩ := Primitive.isInstance_hash.mp passes
      simp only [coerceElse_map_hash other stored, ihk key, ihv value]
      rfl
    · simp only [coerceElse, stored, TypeDef.check, passes, definition,
        TypeDef.coerce_map_of_not b.labels kt.definition vt.definition passes]
      rfl

/-- A type is made from its definition again, and what is done with it can be done with its definition. -/
structure ToldByDefinition (t : StoredType) : Prop where
  itself : ofDefinition t.definition = t
  kind : t.definition.kind = t.kind
  primitive : t.definition.primitive = t.primitive
  coerceElse : ∀ other v, t.coerceElse other v = t.definition.coerce v
  withNotes : ∀ notes, (t.withNotes notes).definition = t.definition.withNotes notes
  withOptions? : ∀ options,
    (t.withOptions? options).map definition = t.definition.withOptions? options
  withOption? : ∀ k v, (t.withOption? k v).map definition = t.definition.withOption? k v
  pristine? : t.pristine?.map definition = t.definition.pristine?
  of? : ∀ m, (t.of? m).map definition = t.definition.of? m.definition
  map? : ∀ k v, (t.map? k v).map definition = t.definition.map? k.definition v.definition
  base? : t.base?.map definition = t.definition.base?
  member? : t.member?.map definition = t.definition.member?
  key? : t.key?.map definition = t.definition.key?
  value? : t.value?.map definition = t.definition.value?

theorem toldByDefinition_ofDefinition (d : TypeDef) : (ofDefinition d).ToldByDefinition where
  itself := by rw [definition_ofDefinition]
  kind := by cases d <;> rfl
  primitive := by cases d <;> rfl
  coerceElse := (settled_ofDefinition d).coerceElse_eq
  withNotes notes := by cases d <;> rfl
  withOptions? options := by cases d <;> rfl
  withOption? k v := by cases d <;> rfl
  pristine? := by cases d <;> rfl
  of? m := by cases d <;> rfl
  map? k v := by cases d <;> rfl
  base? := by cases d <;> rfl
  member? := by cases d <;> rfl
  key? := by cases d <;> rfl
  value? := by cases d <;> rfl

/-- The types that can be made are those that definitions tell all about, so what holds of definitions
holds of them. -/
theorem made_iff_toldByDefinition (t : StoredType) : Made t ↔ t.ToldByDefinition := by
  rw [made_iff_settled, settled_iff_ofDefinition]
  constructor
  · intro itself
    rw [← itself]
    exact toldByDefinition_ofDefinition t.definition
  · intro told
    exact told.itself

theorem ToldByDefinition.isInstance_of_coerce {t : StoredType} (told : t.ToldByDefinition)
    {v w : Value} (done : t.coerce v = .ok w) : t.primitive.isInstance w = true := by
  rw [coerce, told.coerceElse] at done
  rw [← told.primitive]
  exact TypeDef.isInstance_of_coerce done

/-- Whatever made a type, at every depth its array types are over `Array` and its hash types over
`Hash`. So no value passes their check without having items or entries, and coercing never gives
anything else. -/
theorem primitives_kept {t : StoredType} (made : Made t) :
    ∀ n ∈ t.nodes,
      (n.kind = .array ∨ n.kind = .arrayMember → n.primitive = .builtin .array ∧
        ∀ v w, n.coerce v = .ok w → ∃ vs, w = .array vs) ∧
      (n.kind = .hash ∨ n.kind = .map → n.primitive = .builtin .hash ∧
        ∀ v w, n.coerce v = .ok w → ∃ es, w = .hash es) ∧
      ∀ other v, n.coerceElse other v = n.coerce v := by
  intro n below
  have node : Made n := made.node below
  have told : n.ToldByDefinition := (made_iff_toldByDefinition n).mp node
  obtain ⟨sequence, mapping⟩ := node.settled n n.self_mem_nodes
  refine ⟨?_, ?_, ?_⟩
  · intro container
    refine ⟨sequence container, ?_⟩
    intro v w done
    have inst := told.isInstance_of_coerce done
    rw [sequence container] at inst
    exact Primitive.isInstance_array.mp inst
  · intro container
    refine ⟨mapping container, ?_⟩
    intro v w done
    have inst := told.isInstance_of_coerce done
    rw [mapping container] at inst
    exact Primitive.isInstance_hash.mp inst
  · intro other v
    simp only [coerce, told.coerceElse]

theorem primitives_kept_rows :
    let rows := arrayMember plainArray (map plainHash (nominal plainArray) (array plainArray))
    Made rows ∧ rows.primitive = .builtin .array ∧
      (∀ other, rows.coerceElse other (.array [.hash [(.array [], .array [.nil])]]) =
        .ok (.array [.hash [(.array [], .array [.nil])]])) ∧
      ∀ v w, (map plainHash (nominal plainArray) (array plainArray)).coerce v = .ok w →
        ∃ es, w = .hash es := by
  intro rows
  have row : Made (map plainHash (nominal plainArray) (array plainArray)) :=
    .map .plainHash (.base .plainArray rfl) .plainArray rfl
  have made : Made rows := .of .plainArray row rfl
  obtain ⟨array, -, coerced⟩ := primitives_kept made rows rows.self_mem_nodes
  refine ⟨made, (array (.inr rfl)).1, fun other => ?_, ?_⟩
  · rw [coerced]
    rfl
  · exact ((primitives_kept row _ (self_mem_nodes _)).2.1 (.inr rfl)).2

end ValueTypes.StoredType
