import ValueTypes.Proofs.FiniteMap
import ValueTypes.TypeDef.Stored

namespace ValueTypes

namespace Labels

/-- The labels with others laid over them. -/
def merge (l added : Labels) : Labels :=
  ⟨l.options.merge added.options, l.notes.merge added.notes⟩

theorem merge_assoc (l m n : Labels) : (l.merge m).merge n = l.merge (m.merge n) := by
  simp only [merge, OptionMap.merge_assoc]

end Labels

/-- A call that labels a type. -/
inductive Labelling where
  | notes (m : OptionMap)
  | options (m : OptionMap)
  | option (k : Symbol) (v : Value)
  | pristine

namespace Labelling

def act : Labelling → Labels → Labels
  | .notes m, l => l.withNotes m
  | .options m, l => l.withOptions m
  | .option k v, l => l.withOption k v
  | .pristine, l => l.pristine

/-- What the call adds. -/
def adds : Labelling → Labels
  | .notes m => ⟨.empty, m⟩
  | .options m => ⟨m, .empty⟩
  | .option k v => ⟨.ofList [(k, v)], .empty⟩
  | .pristine => {}

def isOnNotes : Labelling → Bool
  | .notes _ => true
  | .options _ => false
  | .option .. => false
  | .pristine => true

def isNotes : Labelling → Bool
  | .notes _ => true
  | _ => false

def OfferedBy (k : Kind) : Labelling → Prop
  | .notes _ => True
  | .options _ => k = .nominal ∨ k = .hash
  | .option .. => k = .nominal
  | .pristine => k = .nominal

theorem act_eq_merge {s : Labelling} (adding : s ≠ .pristine) (l : Labels) :
    s.act l = l.merge s.adds := by
  cases s with
  | notes m => rfl
  | options m => rfl
  | option k v =>
    rw [act, Labels.withOption, OptionMap.insert_eq_merge]
    rfl
  | pristine => exact absurd rfl adding

/-- Options are only ever added. -/
theorem options_act (s : Labelling) (l : Labels) : (s.act l).options = (l.merge s.adds).options := by
  cases s with
  | pristine => rfl
  | _ => rw [act_eq_merge (by simp)]

theorem options_act_of_isOnNotes {s : Labelling} (onNotes : s.isOnNotes = true) (l : Labels) :
    (s.act l).options = l.options := by
  cases s with
  | notes m => rfl
  | pristine => rfl
  | options m => cases onNotes
  | option k v => cases onNotes

theorem notes_act_of_not_isOnNotes {s : Labelling} (onOptions : s.isOnNotes = false) (l : Labels) :
    (s.act l).notes = l.notes := by
  cases s with
  | options m => rfl
  | option k v => rfl
  | notes m => cases onOptions
  | pristine => cases onOptions

/-- All that a row of calls adds. -/
def gathered : List Labelling → Labels
  | [] => {}
  | s :: steps => s.adds.merge (gathered steps)

def actAll (steps : List Labelling) (l : Labels) : Labels := steps.foldl (fun l s => s.act l) l

theorem actAll_eq_merge {steps : List Labelling} (adding : .pristine ∉ steps) (l : Labels) :
    actAll steps l = l.merge (gathered steps) := by
  induction steps generalizing l with
  | nil => rfl
  | cons s steps ih =>
    obtain ⟨first, rest⟩ := not_or.mp (mt List.mem_cons.mpr adding)
    rw [gathered, ← Labels.merge_assoc, ← act_eq_merge (Ne.symm first)]
    exact ih rest (s.act l)

theorem options_actAll (steps : List Labelling) (l : Labels) :
    (actAll steps l).options = l.options.merge (gathered steps).options := by
  induction steps generalizing l with
  | nil => rfl
  | cons s steps ih =>
    have later := ih (s.act l)
    rw [options_act] at later
    exact later.trans (OptionMap.merge_assoc ..)

/-- Notes that are added add no options. -/
theorem options_gathered_filter (steps : List Labelling) :
    (gathered (steps.filter fun s => !s.isNotes)).options = (gathered steps).options := by
  induction steps with
  | nil => rfl
  | cons s steps ih =>
    cases s with
    | notes m => exact ih.trans (OptionMap.empty_merge _).symm
    | _ => exact congrArg (OptionMap.merge _) ih

end Labelling

namespace StoredType

theorem relabel_relabel (f g : Labels → Labels) (t : StoredType) :
    (t.relabel f).relabel g = t.relabel fun l => g (f l) := by
  cases t <;> rfl

theorem kind_relabel (f : Labels → Labels) (t : StoredType) : (t.relabel f).kind = t.kind := by
  cases t <;> rfl

/-- The same primitive and the same parts. -/
structure SameBody (t u : StoredType) : Prop where
  kind : u.kind = t.kind
  primitive : u.primitive = t.primitive
  member? : u.member? = t.member?
  key? : u.key? = t.key?
  value? : u.value? = t.value?

theorem sameBody_relabel (f : Labels → Labels) (t : StoredType) : SameBody t (t.relabel f) := by
  cases t <;> exact ⟨rfl, rfl, rfl, rfl, rfl⟩

theorem labels_relabel (f : Labels → Labels) (t : StoredType) :
    (t.relabel f).base.labels = f t.base.labels := by
  cases t <;> rfl

def label? (t : StoredType) : Labelling → Option StoredType
  | .notes m => some (t.withNotes m)
  | .options m => t.withOptions? m
  | .option k v => t.withOption? k v
  | .pristine => t.pristine?

/-- A call that is offered relabels the type and does nothing else. -/
theorem label?_of_offeredBy {t : StoredType} {s : Labelling} (offered : s.OfferedBy t.kind) :
    t.label? s = some (t.relabel s.act) := by
  cases s with
  | notes m => rfl
  | options m =>
    obtain kind | kind := offered <;> simp only [label?, withOptions?, kind] <;> rfl
  | option k v =>
    simp only [Labelling.OfferedBy] at offered
    simp only [label?, withOption?, offered]
    rfl
  | pristine =>
    simp only [Labelling.OfferedBy] at offered
    simp only [label?, pristine?, offered]
    rfl

def run? (t : StoredType) (steps : List Labelling) : Option StoredType := steps.foldlM label? t

theorem run?_of_offeredBy {t : StoredType} {steps : List Labelling}
    (offered : ∀ s ∈ steps, s.OfferedBy t.kind) :
    t.run? steps = some (t.relabel (Labelling.actAll steps)) := by
  induction steps generalizing t with
  | nil => cases t <;> rfl
  | cons s steps ih =>
    obtain ⟨first, rest⟩ := List.forall_mem_cons.mp offered
    rw [← kind_relabel s.act] at rest
    have later := ih rest
    rw [relabel_relabel] at later
    rw [run?, List.foldlM_cons, label?_of_offeredBy first]
    exact later

theorem offeredBy_of_nominal {t : StoredType} (nominal : t.kind = .nominal) (s : Labelling) :
    s.OfferedBy t.kind := by
  cases s <;> simp [Labelling.OfferedBy, nominal]

theorem withNotes_withNotes (t : StoredType) (a b : OptionMap) :
    (t.withNotes a).withNotes b = t.withNotes (a.merge b) := by
  simp only [withNotes, relabel_relabel, Labels.withNotes, OptionMap.merge_assoc]

theorem withOptions?_withOptions? (t : StoredType) (a b : OptionMap) :
    (t.withOptions? a).bind (·.withOptions? b) = t.withOptions? (a.merge b) := by
  have merged (c : Base) : (c.relabel (·.withOptions a)).relabel (·.withOptions b) =
      c.relabel (·.withOptions (a.merge b)) := by
    simp only [Base.relabel, Labels.withOptions, OptionMap.merge_assoc]
  cases t with
  | nominal c => exact congrArg (fun c => some (nominal c)) (merged c)
  | hash c => exact congrArg (fun c => some (hash c)) (merged c)
  | _ => rfl

theorem withNotes_withOptions? (t : StoredType) (a b : OptionMap) :
    (t.withOptions? a).map (·.withNotes b) = (t.withNotes b).withOptions? a := by
  cases t <;> rfl

theorem withOption?_eq_withOptions? {t : StoredType} (nominal : t.kind = .nominal) (k : Symbol)
    (v : Value) : t.withOption? k v = t.withOptions? (.ofList [(k, v)]) := by
  simp only [withOption?, withOptions?, nominal, Labels.withOption, Labels.withOptions,
    OptionMap.insert_eq_merge]

theorem run?_of_adding {t : StoredType} {steps : List Labelling}
    (offered : ∀ s ∈ steps, s.OfferedBy t.kind) (adding : .pristine ∉ steps) :
    t.run? steps = some (t.relabel (·.merge (Labelling.gathered steps))) := by
  have labels : Labelling.actAll steps = fun l => l.merge (Labelling.gathered steps) :=
    funext (Labelling.actAll_eq_merge adding)
  rw [run?_of_offeredBy offered, labels]

theorem pristine?_run? {t : StoredType} (nominal : t.kind = .nominal) (steps : List Labelling) :
    (t.run? steps).bind pristine? = some (.nominal ⟨t.primitive,
      t.base.labels.options.merge (Labelling.gathered steps).options, .empty⟩) := by
  cases t with
  | nominal c =>
    rw [run?_of_offeredBy fun s _ => offeredBy_of_nominal nominal s, ← Labelling.options_actAll]
    rfl
  | _ => cases nominal

/-- What several calls give is what one call gives with their maps laid over each other. -/
structure LabelsCompose (t : StoredType) : Prop where
  notes : ∀ a b, (t.withNotes a).withNotes b = t.withNotes (a.merge b)
  options : ∀ a b, (t.withOptions? a).bind (·.withOptions? b) = t.withOptions? (a.merge b)
  options_notes : ∀ a b, (t.withOptions? a).map (·.withNotes b) = (t.withNotes b).withOptions? a
  option : t.kind = .nominal → ∀ k v, t.withOption? k v = t.withOptions? (.ofList [(k, v)])
  run : ∀ steps, (∀ s ∈ steps, Labelling.OfferedBy t.kind s) → .pristine ∉ steps →
    t.run? steps = some (t.relabel (·.merge (Labelling.gathered steps)))

theorem labelsCompose (t : StoredType) : t.LabelsCompose where
  notes := t.withNotes_withNotes
  options := t.withOptions?_withOptions?
  options_notes := t.withNotes_withOptions?
  option := withOption?_eq_withOptions?
  run _ := run?_of_adding

/-- All options that were given are left by making pristine, and notes that were given among them make
no difference. -/
structure Strips (t : StoredType) (steps : List Labelling) (u : StoredType) : Prop where
  made : t.run? steps = some u
  pristine : u.pristine? = some (.nominal ⟨t.primitive,
    t.base.labels.options.merge (Labelling.gathered steps).options, .empty⟩)
  without_notes : (t.run? (steps.filter fun s => !s.isNotes)).bind pristine? = u.pristine?

theorem strips_actAll {t : StoredType} (nominal : t.kind = .nominal) (steps : List Labelling) :
    t.Strips steps (t.relabel (Labelling.actAll steps)) := by
  have made : t.run? steps = some (t.relabel (Labelling.actAll steps)) :=
    run?_of_offeredBy fun s _ => offeredBy_of_nominal nominal s
  have stripped := pristine?_run? nominal steps
  rw [made] at stripped
  refine ⟨made, stripped, ?_⟩
  rw [pristine?_run? nominal, Labelling.options_gathered_filter]
  exact stripped.symm

/-- Getting parts copies all labels, so it makes no difference whether notes are given before or after. -/
structure Specialises (t : StoredType) : Prop where
  of?_notes : ∀ a m, (t.withNotes a).of? m = (t.of? m).map (·.withNotes a)
  map?_notes : ∀ a k v, (t.withNotes a).map? k v = (t.map? k v).map (·.withNotes a)
  items : t.kind = .array → ∀ m, ∃ u, t.of? m = some u ∧ u.base = t.base ∧ u.member? = some m
  entries : t.kind = .hash → ∀ k v, ∃ u, t.map? k v = some u ∧ u.base = t.base ∧
    u.key? = some k ∧ u.value? = some v

theorem specialises (t : StoredType) : t.Specialises where
  of?_notes a m := by cases t <;> rfl
  map?_notes a k v := by cases t <;> rfl
  items array m := by
    cases t with
    | array c => exact ⟨_, rfl, rfl, rfl⟩
    | _ => cases array
  entries hash k v := by
    cases t with
    | hash c => exact ⟨_, rfl, rfl, rfl, rfl⟩
    | _ => cases hash

/-- What a call leaves as it is, of a type that it makes from another. -/
structure Leaves (s : Labelling) (t u : StoredType) : Prop extends SameBody t u where
  options : s.isOnNotes = true → u.base.labels.options = t.base.labels.options
  notes : s.isOnNotes = false → u.base.labels.notes = t.base.labels.notes

theorem leaves_relabel (s : Labelling) (t : StoredType) : Leaves s t (t.relabel s.act) where
  toSameBody := sameBody_relabel s.act t
  options onNotes := by rw [labels_relabel, Labelling.options_act_of_isOnNotes onNotes]
  notes onOptions := by rw [labels_relabel, Labelling.notes_act_of_not_isOnNotes onOptions]

/-- Labelling by several calls comes to laying the maps of all calls over the labels, one after the other,
whichever the kind and the order of options and notes. Making pristine keeps all options, and undoes notes
only. Parts may be given before or after notes, and no call touches more than its own map. -/
theorem labelling_composes (t : StoredType) :
    t.LabelsCompose ∧ (t.kind = .nominal → ∀ steps, ∃ u, t.Strips steps u) ∧ t.Specialises ∧
      ∀ s : Labelling, s.OfferedBy t.kind → ∃ u, t.label? s = some u ∧ Leaves s t u := by
  refine ⟨t.labelsCompose, ?_, t.specialises, ?_⟩
  · intro nominal steps
    exact ⟨_, strips_actAll nominal steps⟩
  · intro s offered
    exact ⟨_, label?_of_offeredBy offered, leaves_relabel s t⟩

theorem labelling_composes_strict :
    let doc := OptionMap.ofList [(⟨"doc"⟩, .str "scores")]
    let strict := OptionMap.ofList [(⟨"limit"⟩, .int 3), (⟨"strict"⟩, .bool true)]
    let t := build (.builtin .integer)
    let steps : List Labelling :=
      [.option ⟨"limit"⟩ .nil, .notes doc, .options (.ofList [(⟨"strict"⟩, .bool true)]),
        .option ⟨"limit"⟩ (.int 3)]
    (t.kind = .nominal ∧ (∀ s ∈ steps, Labelling.OfferedBy t.kind s) ∧ .pristine ∉ steps ∧
        t.run? steps = some (nominal ⟨.builtin .integer, strict, doc⟩)) ∧
      (∃ u, t.run? (steps ++ [.pristine, .notes doc]) = some u ∧
        u.pristine? = some (nominal ⟨.builtin .integer, strict, .empty⟩)) ∧
      ((array plainArray).kind = .array ∧ ∃ u, (array plainArray).of? t = some u ∧
        u.member? = some t) ∧
      (hash plainHash).kind = .hash ∧
        ∃ u, (hash plainHash).label? (.options strict) = some u ∧ u.primitive = .builtin .hash := by
  intro doc strict t steps
  have offered : ∀ s ∈ steps, Labelling.OfferedBy t.kind s := fun s _ => offeredBy_of_nominal rfl s
  have adding : .pristine ∉ steps := by simp [steps]
  obtain ⟨compose, strip, -, -⟩ := labelling_composes t
  obtain ⟨u, stripped⟩ := strip rfl (steps ++ [.pristine, .notes doc])
  obtain ⟨-, -, parts, -⟩ := labelling_composes (array plainArray)
  obtain ⟨w, given, -, member⟩ := parts.items rfl t
  obtain ⟨-, -, -, labelled⟩ := labelling_composes (hash plainHash)
  obtain ⟨x, done, left⟩ := labelled (.options strict) (.inr rfl)
  refine ⟨⟨rfl, offered, adding, ?_⟩, ⟨u, stripped.made, ?_⟩, ⟨rfl, w, given, member⟩, rfl, x, done,
    left.primitive⟩
  · rw [compose.run steps offered adding]
    rfl
  · rw [stripped.pristine]
    rfl

end StoredType
end ValueTypes
