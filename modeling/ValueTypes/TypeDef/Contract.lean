import ValueTypes.Outcome
import ValueTypes.TypeDef

/-!
What a type does with a value. To apply it trusts the value; to attempt it looks only at the shapes
of arrays and hashes, and reports all that is wrong; to coerce checks primitives at every depth and
stops at the first mismatch.
-/
namespace ValueTypes.TypeDef

/-- Items and entries go through their types; a value of another kind is left alone. -/
def apply : TypeDef → Value → Value
  | .arrayMember _ m, .array vs => .array (vs.map fun v => m.apply v)
  | .map _ kt vt, .hash es => .ofEntries (es.map fun e => (kt.apply e.1, vt.apply e.2))
  | _, v => v

/-- The failure of the item at a place, without the failures it was made of. -/
def itemError (i : Nat) (e : CoercionError) : CoercionError :=
  .ofMessage e.message (e.notes.insert ⟨"index"⟩ (.int (Int64.ofNat i)))

def entryError (k : Value) (message : String) (e : CoercionError) : CoercionError :=
  .ofMessage message (e.notes.insert ⟨"key"⟩ k)

/-- The failure of an entry. A failing key hides the failure of the value. -/
def entryError? (k v : Value) (atKey atValue : Outcome) : Option CoercionError :=
  match atKey, atValue with
  | .failure _ e, _ =>
    some (entryError k ("input key " ++ k.render ++ " is invalid: " ++ e.message) e)
  | .success _, .failure _ e =>
    some (entryError k ("input value " ++ v.render ++ " for key " ++ k.render ++ " is invalid: " ++
      e.message) e)
  | .success _, .success _ => none

/-- All failures at once, or a success if there are none. -/
def settle (v : Value) (errors : List CoercionError) (result : Value) : Outcome :=
  if errors.isEmpty then .success result else .failure v (.combine errors)

def attempt : TypeDef → Value → Outcome
  | .arrayMember _ m, v =>
    match v with
    | .array vs =>
      let tried := vs.map fun w => m.attempt w
      let errors := tried.zipIdx.filterMap fun o => o.1.error?.map (itemError o.2)
      settle v errors (.array (tried.filterMap Outcome.value?))
    | _ => .failure v (.ofMessage (v.render ++ " is not an array"))
  | .map _ kt vt, v =>
    match v with
    | .hash es =>
      let tried := es.map fun e => (e, kt.attempt e.1, vt.attempt e.2)
      let errors := tried.filterMap fun o => entryError? o.1.1 o.1.2 o.2.1 o.2.2
      let accepted := tried.filterMap fun o =>
        o.2.1.value?.bind fun k => o.2.2.value?.map fun w => (k, w)
      settle v errors (.ofEntries accepted)
    | _ => .failure v (.ofMessage (v.render ++ " is not a hash"))
  | _, v => .success v

def attemptOr {M : Type → Type} [Monad M] (t : TypeDef) (v : Value)
    (f : Value → CoercionError → M Outcome) : M Outcome :=
  match t.attempt v with
  | .failure w e => f w e
  | .success w => pure (.success w)

def accepts : TypeDef → Value → Bool
  | .arrayMember _ m, v =>
    match v with
    | .array vs => vs.all fun w => m.accepts w
    | _ => false
  | .map _ kt vt, v =>
    match v with
    | .hash es => es.all fun e => kt.accepts e.1 && vt.accepts e.2
    | _ => false
  | _, _ => true

def isPrimitive (t : TypeDef) (v : Value) : Bool := t.primitive.isInstance v

def check (p : Primitive) (v : Value) : Except Mismatch Value :=
  if p.isInstance v then .ok v else .error ⟨v, p⟩

/-- Keys are coerced before their values, entries in their order. -/
def coerce : TypeDef → Value → Except Mismatch Value
  | .arrayMember _ m, v => do
    match ← check (.builtin .array) v with
    | .array vs => return .array (← vs.mapM fun w => m.coerce w)
    | w => return w
  | .map _ kt vt, v => do
    match ← check (.builtin .hash) v with
    | .hash es => return .ofEntries (← es.mapM fun e => do return (← kt.coerce e.1, ← vt.coerce e.2))
    | w => return w
  | t, v => check t.primitive v

end ValueTypes.TypeDef
