import ValueTypes.OptionMap

namespace ValueTypes

structure Mismatch where
  input : Value
  expected : Primitive
deriving DecidableEq

def Mismatch.message (m : Mismatch) : String :=
  m.input.render ++ " must be an instance of " ++ m.expected.name

/-- A failed attempt, with notes on where it failed and the failures it is made of. -/
structure CoercionError where
  message : String
  notes : OptionMap
  errors : List CoercionError
deriving Inhabited

namespace CoercionError

mutual

def decEq : (d e : CoercionError) → Decidable (d = e)
  | ⟨m, ns, ds⟩, ⟨m', ns', es⟩ =>
    if h : m = m' ∧ ns = ns' then
      match decEqList ds es with
      | isTrue h' => isTrue (by rw [h.1, h.2, h'])
      | isFalse h' => isFalse fun e => h' (CoercionError.mk.inj e).2.2
    else isFalse fun e => h ⟨(CoercionError.mk.inj e).1, (CoercionError.mk.inj e).2.1⟩

def decEqList : (ds es : List CoercionError) → Decidable (ds = es)
  | [], [] => isTrue rfl
  | [], _ :: _ => isFalse nofun
  | _ :: _, [] => isFalse nofun
  | d :: ds, e :: es =>
    match decEq d e, decEqList ds es with
    | isTrue h, isTrue h' => isTrue (by rw [h, h'])
    | isFalse h, _ => isFalse fun eq => h (List.cons.inj eq).1
    | _, isFalse h => isFalse fun eq => h (List.cons.inj eq).2

end

instance : DecidableEq CoercionError := decEq

def ofMessage (message : String) (notes : OptionMap := .empty) : CoercionError :=
  ⟨message, notes, []⟩

def ofMismatch (m : Mismatch) : CoercionError := ofMessage m.message

/-- Several failures as one, which joins their messages and keeps each. -/
def combine (es : List CoercionError) : CoercionError :=
  ⟨", ".intercalate (es.map message), .empty, es⟩

end CoercionError
end ValueTypes
