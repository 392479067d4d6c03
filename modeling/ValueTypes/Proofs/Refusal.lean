import ValueTypes.Proofs.Grammar

/-!
Which fault a refused document has. What is demanded of a document stands in the order of decoding: the
shape of a node, its tag, its payload, then the entries from left to right, each to its depth before the
next. Reading fails with the fault of the first demand that is not met.
-/
namespace ValueTypes.Ast

inductive Demand where
  | pair (j : Json)
  | tagString (j : Json)
  | payloadArray (tag : String) (j : Json)
  | knownTag (tag : String)
  | enoughEntries (tag : String) (found : Nat)
  | nameString (j : Json)
  | primitiveName (s : String)
  | object (j : Json)

namespace Demand

def isMet : Demand → Bool
  | .pair (.array [_, _]) => true
  | .tagString (.string _) => true
  | .payloadArray _ (.array _) => true
  | .knownTag tag => (arity? tag).isSome
  | .enoughEntries tag found => (arity? tag).all (· ≤ found)
  | .nameString (.string _) => true
  | .primitiveName s => (Primitive.named? s).isSome
  | .object (.object _) => true
  | _ => false

def fault : Demand → Fault
  | .pair j => .ast (.notPair j)
  | .tagString j => .ast (.tagNotString j)
  | .payloadArray tag _ => .ast (.payloadNotArray tag)
  | .knownTag tag => .ast (.unknownTag tag)
  | .enoughEntries tag found => .ast (.tooFewEntries tag ((arity? tag).getD 0) found)
  | .nameString j => .ast (.primitiveNotName j)
  | .primitiveName s => .className s
  | .object j => .ast (.notObject j)

theorem fault_kind (d : Demand) :
    (∃ s, d = .primitiveName s ∧ d.fault = .className s) ∨
      (∀ s, d ≠ .primitiveName s) ∧ ∃ f, d.fault = .ast f := by
  cases d with
  | primitiveName s => exact .inl ⟨s, rfl, rfl⟩
  | _ => exact .inr ⟨nofun, _, rfl⟩

end Demand

def nodeDemands (tag : String) (payload : List Json) : List Demand :=
  [.pair (node tag payload), .tagString (.string tag), .payloadArray tag (.array payload),
    .knownTag tag, .enoughEntries tag payload.length]

def nameDemands : Json → List Demand
  | .string s => [.nameString (.string s), .primitiveName s]
  | j => [.nameString j]

/-- What is demanded of a document. The list ends where a node is not of the shape that the demands
after it would be about. -/
def demands : Json → List Demand
  | .array [.string tag, .array payload] =>
    nodeDemands tag payload ++
      match tag, payload with
      | "nominal", p :: ns :: _ => nameDemands p ++ [.object ns]
      | "array", m :: ns :: _ => demands m ++ [.object ns]
      | "hash", options :: ns :: _ => [.object options] ++ [.object ns]
      | "map", k :: v :: ns :: _ => demands k ++ (demands v ++ [.object ns])
      | _, _ => []
  | .array [.string tag, j] =>
    [.pair (.array [.string tag, j]), .tagString (.string tag), .payloadArray tag j]
  | .array [t, j] => [.pair (.array [t, j]), .tagString t]
  | j => [.pair j]

/-- How a reading goes that makes demands in turn: it has a result if all are met, and else the fault
of the first that is not. -/
inductive Meets {α : Type} : List Demand → Except Fault α → Prop
  | done (a : α) : Meets [] (.ok a)
  | met {d : Demand} {ds : List Demand} {x : Except Fault α} (met : d.isMet = true)
    (rest : Meets ds x) : Meets (d :: ds) x
  | unmet {d : Demand} (ds : List Demand) (unmet : d.isMet = false) :
    Meets (d :: ds) (.error d.fault)

namespace Meets

variable {α β : Type} {ds es : List Demand} {x : Except Fault α}

theorem bind {f : α → Except Fault β} (first : Meets ds x) (rest : ∀ a, Meets es (f a)) :
    Meets (ds ++ es) (x >>= f) := by
  induction first with
  | done a => exact rest a
  | met met _ ih => exact .met met ih
  | unmet ds unmet => exact .unmet _ unmet

theorem finish (first : Meets ds x) (f : α → β) : Meets ds (do return f (← x)) := by
  induction first with
  | done a => exact .done (f a)
  | met met _ ih => exact .met met ih
  | unmet ds unmet => exact .unmet _ unmet

theorem ok_or_first_unmet (h : Meets ds x) :
    (∃ a, x = .ok a) ∨ ∃ before d after, ds = before ++ d :: after ∧
      (∀ c ∈ before, c.isMet = true) ∧ d.isMet = false ∧ x = .error d.fault := by
  induction h with
  | done a => exact .inl ⟨a, rfl⟩
  | @met c ds x met rest ih =>
    refine ih.imp_right ?_
    rintro ⟨before, d, after, rfl, earlier, unmet, failed⟩
    exact ⟨c :: before, d, after, rfl, List.forall_mem_cons.mpr ⟨met, earlier⟩, unmet, failed⟩
  | @unmet d ds unmet =>
    exact .inr ⟨[], d, ds, rfl, fun c hc => absurd hc List.not_mem_nil, unmet, rfl⟩

end Meets

/- The parts of a node. -/

theorem meets_primitiveOfJson (j : Json) : Meets (nameDemands j) (primitiveOfJson j) := by
  cases j with
  | string s =>
    have named : Meets [.primitiveName s] (Primitive.named s) := by
      unfold Primitive.named
      cases h : Primitive.named? s with
      | none => exact .unmet [] (by simp [Demand.isMet, h])
      | some p => exact .met (by simp [Demand.isMet, h]) (.done p)
    exact .met rfl named
  | _ => exact .unmet [] rfl

theorem meets_optionsOfJson (j : Json) : Meets [.object j] (optionsOfJson j) := by
  cases j with
  | object ms => exact .met rfl (.done _)
  | _ => exact .unmet [] rfl

theorem meets_of_tag {α : Type} {tag : String} {payload : List Json} {ds : List Demand}
    {x : Except Fault α}
    (rest : Meets (.knownTag tag :: .enoughEntries tag payload.length :: ds) x) :
    Meets (nodeDemands tag payload ++ ds) x :=
  .met rfl (.met rfl (.met rfl rest))

theorem meets_node {α : Type} {tag : String} {payload : List Json} {n : Nat} {ds : List Demand}
    {x : Except Fault α} (known : arity? tag = some n) (enough : n ≤ payload.length)
    (entries : Meets ds x) : Meets (nodeDemands tag payload ++ ds) x := by
  have known_tag : (Demand.knownTag tag).isMet = true := by simp [Demand.isMet, known]
  have enough_entries : (Demand.enoughEntries tag payload.length).isMet = true := by
    simp [Demand.isMet, known, enough]
  exact meets_of_tag (.met known_tag (.met enough_entries entries))

/-- A node fails as a whole if its tag is unknown or its payload too short for it. -/
theorem meets_payloadFault {α : Type} {tag : String} {payload : List Json} (ds : List Demand)
    (short : ∀ n, arity? tag = some n → payload.length < n) :
    Meets (α := α) (nodeDemands tag payload ++ ds)
      (.error (.ast (payloadFault tag payload.length))) := by
  refine meets_of_tag ?_
  unfold payloadFault
  cases known : arity? tag with
  | none => exact .unmet _ (by simp [Demand.isMet, known])
  | some n =>
    have too_few : (Demand.enoughEntries tag payload.length).isMet = false := by
      have := short n known
      simp [Demand.isMet, known]
      omega
    have fault : (Demand.enoughEntries tag payload.length).fault =
        .ast (.tooFewEntries tag n payload.length) := by
      simp [Demand.fault, known]
    rw [← fault]
    exact .met (by simp [Demand.isMet, known]) (.unmet ds too_few)

theorem arity?_cases {tag : String} {n : Nat} (known : arity? tag = some n) :
    (tag = "nominal" ∨ tag = "array" ∨ tag = "hash") ∧ n = 2 ∨ tag = "map" ∧ n = 3 := by
  unfold arity? at known
  split at known
  · exact .inl ⟨‹_›, (Option.some.inj known).symm⟩
  · split at known
    · exact .inr ⟨‹_›, (Option.some.inj known).symm⟩
    · nomatch known

theorem length_lt_two {payload : List Json} (short : ∀ a b rest, payload = a :: b :: rest → False) :
    payload.length < 2 := by
  match payload with
  | [] | [_] => simp
  | a :: b :: rest => exact (short a b rest rfl).elim

theorem length_lt_three {payload : List Json}
    (short : ∀ a b c rest, payload = a :: b :: c :: rest → False) : payload.length < 3 := by
  match payload with
  | [] | [_] | [_, _] => simp
  | a :: b :: c :: rest => exact (short a b c rest rfl).elim

theorem pair_unmet {j : Json} (not_pair : ∀ t payload, j = .array [t, payload] → False) :
    (Demand.pair j).isMet = false := by
  cases j with
  | array items =>
    rcases items with _ | ⟨t, _ | ⟨payload, _ | ⟨_, _⟩⟩⟩
    · rfl
    · rfl
    · exact (not_pair t payload rfl).elim
    · rfl
  | _ => rfl

/- The cases are those of the reader: one for each tag, then the four kinds of faults of a node. -/
theorem meets_ofJson (j : Json) : Meets (demands j) (ofJson j) := by
  fun_induction ofJson j with
  | case1 p ns rest =>
    have entries := (meets_primitiveOfJson p).bind fun p =>
      (meets_optionsOfJson ns).finish (Ast.nominal p)
    rw [demands]
    exact meets_node rfl (by simp) entries
  | case2 m ns rest ih =>
    have entries := ih.bind fun m => (meets_optionsOfJson ns).finish (Ast.array m)
    rw [demands]
    exact meets_node rfl (by simp) entries
  | case3 options ns rest =>
    have entries := (meets_optionsOfJson options).bind fun options =>
      (meets_optionsOfJson ns).finish (Ast.hash options)
    rw [demands]
    exact meets_node rfl (by simp) entries
  | case4 k v ns rest ihk ihv =>
    have entries := ihk.bind fun k => ihv.bind fun v => (meets_optionsOfJson ns).finish (Ast.map k v)
    rw [demands]
    exact meets_node rfl (by simp) entries
  | case5 tag payload nominal array hash map =>
    have listed : demands (.array [.string tag, .array payload]) = nodeDemands tag payload ++ [] := by
      rw [demands] <;> assumption
    rw [listed]
    refine meets_payloadFault [] fun n known => ?_
    obtain ⟨rfl | rfl | rfl, rfl⟩ | ⟨rfl, rfl⟩ := arity?_cases known
    · exact length_lt_two fun p ns rest => nominal p ns rest rfl
    · exact length_lt_two fun m ns rest => array m ns rest rfl
    · exact length_lt_two fun options ns rest => hash options ns rest rfl
    · exact length_lt_three fun k v ns rest => map k v ns rest rfl
  | case6 tag j not_array =>
    have listed : demands (.array [.string tag, j]) =
        [.pair (.array [.string tag, j]), .tagString (.string tag), .payloadArray tag j] := by
      rw [demands]
      exact not_array
    rw [listed]
    refine .met rfl (.met rfl (.unmet [] ?_))
    cases j with
    | array payload => exact absurd rfl (not_array payload)
    | _ => rfl
  | case7 t j _ not_string =>
    have listed : demands (.array [t, j]) = [.pair (.array [t, j]), .tagString t] := by
      rw [demands] <;> assumption
    rw [listed]
    refine .met rfl (.unmet [] ?_)
    cases t with
    | string tag => exact absurd rfl (not_string tag)
    | _ => rfl
  | case8 j _ _ not_pair =>
    have listed : demands j = [.pair j] := by
      rw [demands] <;> assumption
    rw [listed]
    exact .unmet [] (pair_unmet not_pair)

/-- Reading accepts what the rules describe. Anything else it refuses with the fault of the first
demand that is not met, which is about the name of a primitive or about the form of the document. -/
theorem reading_classified (j : Json) :
    (∀ a, ofJson j = .ok a ↔ Describes j a) ∧
      ((∀ a, ¬Describes j a) →
        ∃ before d after, demands j = before ++ d :: after ∧ (∀ c ∈ before, c.isMet = true) ∧
          d.isMet = false ∧ ofJson j = .error d.fault ∧
          ((∃ s, d = .primitiveName s ∧ d.fault = .className s) ∨
            (∀ s, d ≠ .primitiveName s) ∧ ∃ f, d.fault = .ast f)) := by
  refine ⟨fun a => ofJson_eq_ok_iff, fun undescribed => ?_⟩
  obtain ⟨a, accepted⟩ | ⟨before, d, after, listed, earlier, unmet, failed⟩ :=
    (meets_ofJson j).ok_or_first_unmet
  · exact absurd (ofJson_eq_ok_iff.mp accepted) (undescribed a)
  · exact ⟨before, d, after, listed, earlier, unmet, failed, d.fault_kind⟩

theorem reading_classified_unusable_key :
    (∀ a, ¬Describes (node "map" [node "nominal" [.string "no good", .object []],
      node "widget" [], .null]) a) ∧
      ∃ before d after, demands (node "map" [node "nominal" [.string "no good", .object []],
          node "widget" [], .null]) = before ++ d :: after ∧
        (∀ c ∈ before, c.isMet = true) ∧ d.isMet = false ∧ d.fault = .className "no good" := by
  have refused : ofJson (node "map" [node "nominal" [.string "no good", .object []],
      node "widget" [], .null]) = .error (.className "no good") := rfl
  have classified := reading_classified (node "map" [node "nominal" [.string "no good", .object []],
    node "widget" [], .null])
  have undescribed : ∀ a, ¬Describes (node "map" [node "nominal" [.string "no good", .object []],
      node "widget" [], .null]) a := by
    intro a described
    have accepted := (classified.1 a).mpr described
    rw [refused] at accepted
    nomatch accepted
  obtain ⟨before, d, after, listed, earlier, unmet, failed, -⟩ := classified.2 undescribed
  rw [refused] at failed
  exact ⟨undescribed, before, d, after, listed, earlier, unmet, (Except.error.inj failed).symm⟩

end ValueTypes.Ast
