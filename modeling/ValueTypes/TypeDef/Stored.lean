import ValueTypes.Ast.Document
import ValueTypes.TypeDef.Contract

/-!
Type definitions as they are put together. Each node stores a plain definition, and a type with parts
takes over the one of the array or hash type that it was made from. The form of a node does not settle
the primitive of what it stores; that is left to the ways there are to make one.
-/
namespace ValueTypes

/-- A plain definition, over any primitive. -/
structure Base where
  primitive : Primitive
  labels : Labels := {}
deriving DecidableEq, Inhabited

def Base.relabel (f : Labels → Labels) (b : Base) : Base := ⟨b.primitive, f b.labels⟩

inductive StoredType where
  | nominal (base : Base)
  | array (base : Base)
  | arrayMember (base : Base) (member : StoredType)
  | hash (base : Base)
  | map (base : Base) (key value : StoredType)
deriving DecidableEq, Inhabited

namespace StoredType

def kind : StoredType → Kind
  | .nominal _ => .nominal
  | .array _ => .array
  | .arrayMember .. => .arrayMember
  | .hash _ => .hash
  | .map .. => .map

def base : StoredType → Base
  | .nominal b => b
  | .array b => b
  | .arrayMember b _ => b
  | .hash b => b
  | .map b _ _ => b

def primitive (t : StoredType) : Primitive := t.base.primitive

/-- The definition itself, which leaves the primitive of an array or hash type to its kind. -/
def definition : StoredType → TypeDef
  | .nominal b => .nominal b.primitive b.labels
  | .array b => .array b.labels
  | .arrayMember b m => .arrayMember b.labels m.definition
  | .hash b => .hash b.labels
  | .map b k v => .map b.labels k.definition v.definition

/-- The type with that definition that stores the primitive of its kind at every node. -/
def ofDefinition : TypeDef → StoredType
  | .nominal p l => .nominal ⟨p, l⟩
  | .array l => .array ⟨.builtin .array, l⟩
  | .arrayMember l m => .arrayMember ⟨.builtin .array, l⟩ (ofDefinition m)
  | .hash l => .hash ⟨.builtin .hash, l⟩
  | .map l k v => .map ⟨.builtin .hash, l⟩ (ofDefinition k) (ofDefinition v)

/- Making types. -/

def build (p : Primitive) (options notes : OptionMap := .empty) : StoredType :=
  let b : Base := ⟨p, ⟨options, notes⟩⟩
  match p.kind with
  | .array => .array b
  | .hash => .hash b
  | _ => .nominal b

def plainArray : Base := ⟨.builtin .array, {}⟩

def plainHash : Base := ⟨.builtin .hash, {}⟩

def relabel (f : Labels → Labels) : StoredType → StoredType
  | .nominal b => .nominal (b.relabel f)
  | .array b => .array (b.relabel f)
  | .arrayMember b m => .arrayMember (b.relabel f) m
  | .hash b => .hash (b.relabel f)
  | .map b k v => .map (b.relabel f) k v

def withNotes (t : StoredType) (notes : OptionMap) : StoredType := t.relabel (·.withNotes notes)

def withOptions? (t : StoredType) (options : OptionMap) : Option StoredType :=
  match t.kind with
  | .nominal | .hash => some (t.relabel (·.withOptions options))
  | _ => none

def withOption? (t : StoredType) (k : Symbol) (v : Value) : Option StoredType :=
  match t.kind with
  | .nominal => some (t.relabel (·.withOption k v))
  | _ => none

def pristine? (t : StoredType) : Option StoredType :=
  match t.kind with
  | .nominal => some (t.relabel Labels.pristine)
  | _ => none

def of? (t member : StoredType) : Option StoredType :=
  match t with
  | .array b => some (.arrayMember b member)
  | _ => none

def map? (t key value : StoredType) : Option StoredType :=
  match t with
  | .hash b => some (.map b key value)
  | _ => none

/-- The plain definition that an array or hash type without parts stores. -/
def base? : StoredType → Option StoredType
  | .array b => some (.nominal b)
  | .hash b => some (.nominal b)
  | _ => none

def member? : StoredType → Option StoredType
  | .arrayMember _ m => some m
  | _ => none

def key? : StoredType → Option StoredType
  | .map _ k _ => some k
  | _ => none

def value? : StoredType → Option StoredType
  | .map _ _ v => some v
  | _ => none

def compile : Ast → StoredType
  | .nominal p ns => build p .empty ns
  | .array m ns => (arrayMember plainArray (compile m)).withNotes ns
  | .hash options ns => (hash (plainHash.relabel (·.withOptions options))).withNotes ns
  | .map k v ns => (map plainHash (compile k) (compile v)).withNotes ns

def compileJson (j : Json) : Except Fault StoredType := (Ast.ofJson j).map compile

/- Coercing. -/

/-- Coercing as the node's stored primitive says. What is an instance of the primitive of a type with
parts, but has no parts itself, goes to `other`. -/
def coerceElse (other : Value → Except Mismatch Value) : StoredType → Value → Except Mismatch Value
  | .arrayMember b m, v => do
    match ← TypeDef.check b.primitive v with
    | .array vs => return .array (← vs.mapM fun w => m.coerceElse other w)
    | w => other w
  | .map b kt vt, v => do
    match ← TypeDef.check b.primitive v with
    | .hash es =>
      return .ofEntries (← es.mapM fun e => do
        return (← kt.coerceElse other e.1, ← vt.coerceElse other e.2))
    | w => other w
  | t, v => TypeDef.check t.primitive v

/-- Such a value is let through as it is. -/
def coerce (t : StoredType) (v : Value) : Except Mismatch Value := t.coerceElse .ok v

end StoredType
end ValueTypes
