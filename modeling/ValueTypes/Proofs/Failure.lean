import Mathlib.Data.List.Forall2
import ValueTypes.Proofs.Acceptance

namespace ValueTypes

/-- What is collected from a list belongs, one for one, to what is not passed over. -/
theorem forall₂_filterMap {α β : Type} (g : α → Option β) (xs : List α) :
    List.Forall₂ (fun x y => g x = some y) (xs.filter fun x => (g x).isSome) (xs.filterMap g) := by
  induction xs with
  | nil => exact .nil
  | cons x xs ih =>
    cases answer : g x with
    | none => simpa [answer] using ih
    | some y => simpa [answer] using ih

theorem exists_mem_right {α β : Type} {R : α → β → Prop} {xs : List α} {ys : List β}
    (related : List.Forall₂ R xs ys) {x : α} (mem : x ∈ xs) : ∃ y ∈ ys, R x y := by
  induction related with
  | nil => cases mem
  | cons head tail ih =>
    rcases List.mem_cons.mp mem with rfl | mem
    · exact ⟨_, List.mem_cons_self, head⟩
    · obtain ⟨y, listed, rest⟩ := ih mem
      exact ⟨y, List.mem_cons_of_mem _ listed, rest⟩

theorem exists_mem_left {α β : Type} {R : α → β → Prop} {xs : List α} {ys : List β}
    (related : List.Forall₂ R xs ys) {y : β} (mem : y ∈ ys) : ∃ x ∈ xs, R x y :=
  exists_mem_right related.flip mem

theorem Outcome.isSome_error? (o : Outcome) : o.error?.isSome = o.isFailure := by
  cases o <;> rfl

namespace TypeDef

/- The notes on a place. -/

def atIndex (i : Nat) : OptionMap := .ofList [(⟨"index"⟩, .int (Int64.ofNat i))]

def atKey (k : Value) : OptionMap := .ofList [(⟨"key"⟩, k)]

def failingItems (m : TypeDef) (vs : List Value) : List (Value × Nat) :=
  vs.zipIdx.filter fun p => (m.attempt p.1).isFailure

def failingEntries (kt vt : TypeDef) (es : List (Value × Value)) : List (Value × Value) :=
  es.filter fun p => (kt.attempt p.1).isFailure || (vt.attempt p.2).isFailure

/-- The ways an attempt fails. -/
inductive Refuses : TypeDef → Value → CoercionError → Prop
  | notArray (l : Labels) (m : TypeDef) {v : Value}
    (other : Primitive.isInstance (.builtin .array) v = false) :
    Refuses (.arrayMember l m) v (.ofMessage (v.render ++ " is not an array"))
  | items (l : Labels) (m : TypeDef) {vs : List Value}
    (listed : itemErrors (vs.map fun w => m.attempt w) ≠ []) :
    Refuses (.arrayMember l m) (.array vs) (.combine (itemErrors (vs.map fun w => m.attempt w)))
  | notHash (l : Labels) (kt vt : TypeDef) {v : Value}
    (other : Primitive.isInstance (.builtin .hash) v = false) :
    Refuses (.map l kt vt) v (.ofMessage (v.render ++ " is not a hash"))
  | entries (l : Labels) (kt vt : TypeDef) {es : List (Value × Value)}
    (listed : entryErrors (tryEntries kt vt es) ≠ []) :
    Refuses (.map l kt vt) (.hash es) (.combine (entryErrors (tryEntries kt vt es)))

theorem settle_eq_failure {v w r : Value} {errors : List CoercionError} {e : CoercionError}
    (failed : settle v errors r = .failure w e) : errors ≠ [] ∧ e = .combine errors := by
  unfold settle at failed
  split at failed
  · cases failed
  · rename_i listed
    cases failed
    exact ⟨mt List.isEmpty_iff.mpr listed, rfl⟩

theorem refuses_of_attempt {t : TypeDef} {v w : Value} {e : CoercionError}
    (failed : t.attempt v = .failure w e) : t.Refuses v e := by
  cases t with
  | nominal p l => cases failed
  | array l => cases failed
  | arrayMember l m =>
    cases v with
    | array vs =>
      obtain ⟨listed, rfl⟩ := settle_eq_failure failed
      exact .items l m listed
    | _ =>
      cases failed
      exact .notArray l m rfl
  | hash l => cases failed
  | map l kt vt =>
    cases v with
    | hash es =>
      obtain ⟨listed, rfl⟩ := settle_eq_failure failed
      exact .entries l kt vt listed
    | _ =>
      cases failed
      exact .notHash l kt vt rfl

theorem Refuses.notes {t : TypeDef} {v : Value} {e : CoercionError} (refuses : t.Refuses v e) :
    e.notes = .empty := by
  cases refuses <;> rfl

theorem attempt_of_error? {t : TypeDef} {v : Value} {f : CoercionError}
    (error : (t.attempt v).error? = some f) : t.attempt v = .failure v f := by
  cases outcome : t.attempt v with
  | success w =>
    rw [outcome] at error
    cases error
  | failure w g =>
    rw [outcome] at error
    cases error
    rw [eq_of_attempt_failure outcome]

/- Failures of parts. The failure of a part has no notes of its own, so the place is all that is noted. -/

def LocatesItem (m : TypeDef) (p : Value × Nat) (d : CoercionError) : Prop :=
  ∃ f, m.attempt p.1 = .failure p.1 f ∧ d = ⟨f.message, atIndex p.2, []⟩

theorem locatesItem_of_failed {m : TypeDef} {p : Value × Nat} {d : CoercionError}
    (failed : (m.attempt p.1).error?.map (itemError p.2) = some d) : m.LocatesItem p d := by
  obtain ⟨f, error, rfl⟩ := Option.map_eq_some_iff.mp failed
  have nested := attempt_of_error? error
  refine ⟨f, nested, ?_⟩
  rw [itemError, (refuses_of_attempt nested).notes]
  rfl

theorem itemErrors_located (m : TypeDef) (vs : List Value) :
    List.Forall₂ m.LocatesItem (failingItems m vs) (itemErrors (vs.map fun w => m.attempt w)) := by
  have collected := forall₂_filterMap
    (fun p : Value × Nat => (m.attempt p.1).error?.map (itemError p.2)) vs.zipIdx
  simp only [Option.isSome_map, Outcome.isSome_error?] at collected
  rw [itemErrors, List.zipIdx_map, List.filterMap_map]
  exact collected.imp fun _ _ => locatesItem_of_failed

/-- A part that fails, with the place that it is noted with and the type that it fails at. -/
structure Culprit where
  place : OptionMap
  type : TypeDef
  part : Value

/-- Of an entry that fails, the key is to blame if it fails, and else the value. -/
def entryCulprit (kt vt : TypeDef) (p : Value × Value) : Culprit :=
  if (kt.attempt p.1).isFailure then ⟨atKey p.1, kt, p.1⟩ else ⟨atKey p.1, vt, p.2⟩

theorem place_entryCulprit (kt vt : TypeDef) (p : Value × Value) :
    (entryCulprit kt vt p).place = atKey p.1 := by
  unfold entryCulprit
  split <;> rfl

def Culprit.Blamed (c : Culprit) (d : CoercionError) : Prop :=
  (∃ f, c.type.attempt c.part = .failure c.part f) ∧ d.notes = c.place ∧ d.errors = []

theorem blamed_of_entryError? {kt vt : TypeDef} {p : Value × Value} {d : CoercionError}
    (failed : entryError? p.1 p.2 (kt.attempt p.1) (vt.attempt p.2) = some d) :
    (entryCulprit kt vt p).Blamed d := by
  have noted {u : TypeDef} {w : Value} {f : CoercionError} (nested : u.attempt w = .failure w f)
      (message : String) : (⟨atKey p.1, u, w⟩ : Culprit).Blamed (entryError p.1 message f) := by
    refine ⟨⟨f, nested⟩, ?_, rfl⟩
    rw [entryError, (refuses_of_attempt nested).notes]
    rfl
  unfold entryError? at failed
  split at failed
  · rename_i w f key
    cases failed
    cases eq_of_attempt_failure key
    rw [entryCulprit, key]
    exact noted key _
  · rename_i u w f key value
    cases failed
    cases eq_of_attempt_failure value
    rw [entryCulprit, key]
    exact noted value _
  · cases failed

theorem isSome_entryError? (k v : Value) (atKey atValue : Outcome) :
    (entryError? k v atKey atValue).isSome = (atKey.isFailure || atValue.isFailure) := by
  cases atKey <;> cases atValue <;> rfl

theorem entryErrors_blamed (kt vt : TypeDef) (es : List (Value × Value)) :
    List.Forall₂ (fun p d => (entryCulprit kt vt p).Blamed d) (failingEntries kt vt es)
      (entryErrors (tryEntries kt vt es)) := by
  have collected := forall₂_filterMap
    (fun p : Value × Value => entryError? p.1 p.2 (kt.attempt p.1) (vt.attempt p.2)) es
  simp only [isSome_entryError?] at collected
  rw [entryErrors, tryEntries, List.filterMap_map]
  exact collected.imp fun _ _ => blamed_of_entryError?

/-- The parts whose failures an attempt lists, in their order. -/
def culprits : TypeDef → Value → List Culprit
  | .arrayMember _ m, .array vs => (failingItems m vs).map fun p => ⟨atIndex p.2, m, p.1⟩
  | .map _ kt vt, .hash es => (failingEntries kt vt es).map (entryCulprit kt vt)
  | _, _ => []

theorem culprits_of_not_isPrimitive {t : TypeDef} {v : Value} (other : t.isPrimitive v = false) :
    t.culprits v = [] := by
  cases t with
  | arrayMember l m =>
    cases v with
    | array vs => cases other
    | _ => rfl
  | map l kt vt =>
    cases v with
    | hash es => cases other
    | _ => rfl
  | _ => rfl

theorem Refuses.culprits_blamed {t : TypeDef} {v : Value} {e : CoercionError}
    (refuses : t.Refuses v e) : List.Forall₂ Culprit.Blamed (t.culprits v) e.errors := by
  cases refuses with
  | notArray l m other =>
    have unlisted : (arrayMember l m).culprits v = [] := culprits_of_not_isPrimitive other
    rw [unlisted]
    exact .nil
  | items l m _ =>
    refine List.forall₂_map_left_iff.mpr ((itemErrors_located m _).imp ?_)
    rintro p d ⟨f, nested, rfl⟩
    exact ⟨⟨f, nested⟩, rfl, rfl⟩
  | notHash l kt vt other =>
    have unlisted : (map l kt vt).culprits v = [] := culprits_of_not_isPrimitive other
    rw [unlisted]
    exact .nil
  | entries l kt vt _ => exact List.forall₂_map_left_iff.mpr (entryErrors_blamed kt vt _)

theorem Refuses.errors_eq_nil_iff {t : TypeDef} {v : Value} {e : CoercionError}
    (refuses : t.Refuses v e) : e.errors = [] ↔ t.isPrimitive v = false := by
  cases refuses with
  | notArray l m other => exact iff_of_true rfl other
  | items l m listed =>
    refine iff_of_false listed fun other => ?_
    cases other
  | notHash l kt vt other => exact iff_of_true rfl other
  | entries l kt vt listed =>
    refine iff_of_false listed fun other => ?_
    cases other

theorem failingItems_ascending (m : TypeDef) (vs : List Value) :
    (failingItems m vs).Pairwise fun p q => p.2 < q.2 := by
  have places : (vs.zipIdx.map Prod.snd).Pairwise (· < ·) := by
    rw [List.zipIdx_map_snd]
    exact List.pairwise_lt_range'
  exact (List.pairwise_map.mp places).filter _

/-- An attempt looks at all parts. A failure lists exactly those that fail, in their order, each with its
place; that of a value of another kind lists nothing. -/
theorem failures_located {t : TypeDef} {v w : Value} {e : CoercionError}
    (failed : t.attempt v = .failure w e) :
    e.notes = .empty ∧ (t.isPrimitive v = false → e.errors = []) ∧
      (∀ l m vs, t = .arrayMember l m → v = .array vs →
        (failingItems m vs).Pairwise (fun p q => p.2 < q.2) ∧
          List.Forall₂ (fun p d => d.notes = atIndex p.2 ∧
            ∃ f, m.attempt p.1 = .failure p.1 f ∧ d.message = f.message)
            (failingItems m vs) e.errors) ∧
      ∀ l kt vt es, t = .map l kt vt → v = .hash es →
        (Entries.Ascending Value.cmp es → Entries.Ascending Value.cmp (failingEntries kt vt es)) ∧
          List.Forall₂ (fun p d => d.notes = atKey p.1) (failingEntries kt vt es) e.errors := by
  have refuses := refuses_of_attempt failed
  refine ⟨refuses.notes, refuses.errors_eq_nil_iff.mpr, ?_, ?_⟩
  · rintro l m vs rfl rfl
    refine ⟨failingItems_ascending m vs, ?_⟩
    cases refuses with
    | items l m _ =>
      refine (itemErrors_located m vs).imp ?_
      rintro p d ⟨f, nested, rfl⟩
      exact ⟨rfl, f, nested, rfl⟩
    | notArray l m other => cases other
  · rintro l kt vt es rfl rfl
    refine ⟨fun ascending => ascending.filter _, ?_⟩
    cases refuses with
    | entries l kt vt _ =>
      refine (entryErrors_blamed kt vt es).imp ?_
      rintro p d ⟨-, noted, -⟩
      rw [noted, place_entryCulprit]
    | notHash l kt vt other => cases other

theorem failures_located_mixed :
    let row := arrayMember {} (nominal (.builtin .integer) {})
    let items : List Value := [.array [], .int 7, .array [.nil], .nil]
    let entries : List (Value × Value) :=
      [(.int 1, .array []), (.array [], .nil), (.array [.int 1], .array [])]
    (∃ e, (arrayMember {} row).attempt (.array items) = .failure (.array items) e ∧
      e.notes = .empty ∧
      List.Forall₂ (fun i d => d.notes = atIndex i) [1, 3] e.errors) ∧
    ∃ e, (map {} row row).attempt (.hash entries) = .failure (.hash entries) e ∧ e.notes = .empty ∧
      List.Forall₂ (fun k d => d.notes = atKey k) [.int 1, .array []] e.errors := by
  intro row items entries
  have list : (arrayMember {} row).attempt (.array items) =
      .failure (.array items) (.combine (itemErrors (items.map fun w => row.attempt w))) := rfl
  have table : (map {} row row).attempt (.hash entries) =
      .failure (.hash entries) (.combine (entryErrors (tryEntries row row entries))) := rfl
  obtain ⟨listNotes, -, listed, -⟩ := failures_located list
  obtain ⟨tableNotes, -, -, tabled⟩ := failures_located table
  have places : (failingItems row items).map Prod.snd = [1, 3] := rfl
  have keys : (failingEntries row row entries).map Prod.fst = [.int 1, .array []] := rfl
  refine ⟨⟨_, list, listNotes, ?_⟩, _, table, tableNotes, ?_⟩
  · rw [← places, List.forall₂_map_left_iff]
    exact (listed _ _ _ rfl rfl).2.imp fun _ _ located => located.1
  · rw [← keys, List.forall₂_map_left_iff]
    exact (tabled _ _ _ _ rfl rfl).2

end TypeDef
end ValueTypes
