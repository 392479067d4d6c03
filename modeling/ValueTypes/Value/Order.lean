import ValueTypes.Value

namespace ValueTypes.Value

def cmpNames : List ClassName → List ClassName → Ordering
  | [], [] => .eq
  | [], _ :: _ => .lt
  | _ :: _, [] => .gt
  | c :: cs, d :: ds => (compare c.name d.name).then (cmpNames cs ds)

mutual

/-- By kind, then within the kind; sequences and hashes lexicographically. -/
def cmp : Value → Value → Ordering
  | .nil, .nil => .eq
  | .bool a, .bool b => compare a b
  | .int m, .int n => compare m.toInt n.toInt
  | .float x, .float y => x.cmp y
  | .str s, .str t => compare s t
  | .sym s, .sym t => s.cmp t
  | .array vs, .array ws => cmpItems vs ws
  | .hash es, .hash fs => cmpEntries es fs
  | .object c as es, .object d bs fs =>
    (compare c.name d.name).then ((cmpNames as bs).then (cmpFields es fs))
  | v, w => compare v.rank w.rank

def cmpItems : List Value → List Value → Ordering
  | [], [] => .eq
  | [], _ :: _ => .lt
  | _ :: _, [] => .gt
  | v :: vs, w :: ws => (cmp v w).then (cmpItems vs ws)

def cmpEntries : List (Value × Value) → List (Value × Value) → Ordering
  | [], [] => .eq
  | [], _ :: _ => .lt
  | _ :: _, [] => .gt
  | (k, v) :: es, (l, w) :: fs => (cmp k l).then ((cmp v w).then (cmpEntries es fs))

def cmpFields : List (String × Value) → List (String × Value) → Ordering
  | [], [] => .eq
  | [], _ :: _ => .lt
  | _ :: _, [] => .gt
  | (k, v) :: es, (l, w) :: fs => (compare k l).then ((cmp v w).then (cmpFields es fs))

end

theorem cmpNames_eq_iff : ∀ cs ds : List ClassName, cmpNames cs ds = .eq ↔ cs = ds
  | [], [] => by simp [cmpNames]
  | [], _ :: _ => by simp [cmpNames]
  | _ :: _, [] => by simp [cmpNames]
  | c :: cs, d :: ds => by
    simp [cmpNames, Ordering.then_eq_eq, ClassName.ext_iff, cmpNames_eq_iff cs ds]

mutual

theorem cmp_eq_iff : ∀ v w : Value, v.cmp w = .eq ↔ v = w
  | .nil, w => by cases w <;> simp [cmp, rank]
  | .bool a, w => by cases w <;> simp [cmp, rank]
  | .int a, w => by cases w <;> simp [cmp, rank, Int64.toInt_inj]
  | .float x, w => by
    cases w <;> simp [cmp, rank, Binary64.cmp_eq_iff]
  | .str s, w => by cases w <;> simp [cmp, rank]
  | .sym s, w => by cases w <;> simp [cmp, rank]
  | .array vs, w => by
    cases w <;> simp [cmp, rank, cmpItems_eq_iff vs]
  | .hash es, w => by
    cases w <;> simp [cmp, rank, cmpEntries_eq_iff es]
  | .object c as es, w => by
    cases w <;>
      simp [cmp, rank, Ordering.then_eq_eq, ClassName.ext_iff, cmpNames_eq_iff, cmpFields_eq_iff es]

theorem cmpItems_eq_iff : ∀ vs ws : List Value, cmpItems vs ws = .eq ↔ vs = ws
  | [], [] => by simp [cmpItems]
  | [], _ :: _ => by simp [cmpItems]
  | _ :: _, [] => by simp [cmpItems]
  | v :: vs, w :: ws => by
    simp [cmpItems, Ordering.then_eq_eq, cmp_eq_iff v w, cmpItems_eq_iff vs ws]

theorem cmpEntries_eq_iff : ∀ es fs : List (Value × Value), cmpEntries es fs = .eq ↔ es = fs
  | [], [] => by simp [cmpEntries]
  | [], _ :: _ => by simp [cmpEntries]
  | _ :: _, [] => by simp [cmpEntries]
  | (k, v) :: es, (l, w) :: fs => by
    simp [cmpEntries, Ordering.then_eq_eq, cmp_eq_iff k l, cmp_eq_iff v w, cmpEntries_eq_iff es fs,
      and_assoc]

theorem cmpFields_eq_iff : ∀ es fs : List (String × Value), cmpFields es fs = .eq ↔ es = fs
  | [], [] => by simp [cmpFields]
  | [], _ :: _ => by simp [cmpFields]
  | _ :: _, [] => by simp [cmpFields]
  | (k, v) :: es, (l, w) :: fs => by
    simp [cmpFields, Ordering.then_eq_eq, cmp_eq_iff v w, cmpFields_eq_iff es fs, and_assoc]

end

instance : DecidableEq Value := fun v w => decidable_of_iff _ (cmp_eq_iff v w)

/-- The hash with the given entries; of two with one key the later counts. -/
def ofEntries (es : List (Value × Value)) : Value := .hash (Entries.ofList cmp es)

/- Hashes and fields are in ascending order at every depth. -/
mutual

def Sorted : Value → Prop
  | .array vs => SortedItems vs
  | .hash es => Entries.Ascending cmp es ∧ SortedEntries es
  | .object _ _ fs => Entries.Ascending compare fs ∧ SortedFields fs
  | _ => True

def SortedItems : List Value → Prop
  | [] => True
  | v :: vs => Sorted v ∧ SortedItems vs

def SortedEntries : List (Value × Value) → Prop
  | [] => True
  | (k, v) :: es => (Sorted k ∧ Sorted v) ∧ SortedEntries es

def SortedFields : List (String × Value) → Prop
  | [] => True
  | (_, v) :: fs => Sorted v ∧ SortedFields fs

end

end ValueTypes.Value
