import ValueTypes.OptionMap

/-!
Type definitions. A definition is nominal over a primitive, or it is one of the array and hash types,
which are over `Array` and `Hash` by what they are. Each node has options, which configure it, and
notes, which describe it.
-/
namespace ValueTypes

structure Labels where
  options : OptionMap := .empty
  notes : OptionMap := .empty
deriving DecidableEq, Inhabited

namespace Labels

def withOptions (l : Labels) (options : OptionMap) : Labels :=
  ⟨l.options.merge options, l.notes⟩

def withOption (l : Labels) (k : Symbol) (v : Value) : Labels := ⟨l.options.insert k v, l.notes⟩

def withNotes (l : Labels) (notes : OptionMap) : Labels := ⟨l.options, l.notes.merge notes⟩

def pristine (l : Labels) : Labels := ⟨l.options, .empty⟩

end Labels

inductive Kind where
  | nominal
  | array
  | arrayMember
  | hash
  | map
deriving DecidableEq, Inhabited

def Kind.name : Kind → String
  | nominal => "Nominal"
  | array => "Array"
  | arrayMember => "Array::Member"
  | hash => "Hash"
  | map => "Map"

def Primitive.kind (p : Primitive) : Kind :=
  if p.isSequence then .array else if p.isMap then .hash else .nominal

inductive TypeDef where
  | nominal (p : Primitive) (labels : Labels)
  | array (labels : Labels)
  /-- Arrays whose items are all of one type. -/
  | arrayMember (labels : Labels) (member : TypeDef)
  | hash (labels : Labels)
  /-- Hashes whose keys are all of one type, and their values of another. -/
  | map (labels : Labels) (key value : TypeDef)
deriving DecidableEq, Inhabited

namespace TypeDef

def kind : TypeDef → Kind
  | .nominal .. => .nominal
  | .array _ => .array
  | .arrayMember .. => .arrayMember
  | .hash _ => .hash
  | .map .. => .map

def primitive : TypeDef → Primitive
  | .nominal p _ => p
  | .array _ => .builtin .array
  | .arrayMember .. => .builtin .array
  | .hash _ => .builtin .hash
  | .map .. => .builtin .hash

def name (t : TypeDef) : String := t.primitive.name

def labels : TypeDef → Labels
  | .nominal _ l => l
  | .array l => l
  | .arrayMember l _ => l
  | .hash l => l
  | .map l _ _ => l

def options (t : TypeDef) : OptionMap := t.labels.options

def notes (t : TypeDef) : OptionMap := t.labels.notes

def build (p : Primitive) (options notes : OptionMap := .empty) : TypeDef :=
  match p.kind with
  | .array => .array ⟨options, notes⟩
  | .hash => .hash ⟨options, notes⟩
  | _ => .nominal p ⟨options, notes⟩

def relabel (f : Labels → Labels) : TypeDef → TypeDef
  | .nominal p l => .nominal p (f l)
  | .array l => .array (f l)
  | .arrayMember l m => .arrayMember (f l) m
  | .hash l => .hash (f l)
  | .map l k v => .map (f l) k v

def withNotes (t : TypeDef) (notes : OptionMap) : TypeDef := t.relabel (·.withNotes notes)

/- What only some kinds offer. -/

def withOptions? (t : TypeDef) (options : OptionMap) : Option TypeDef :=
  match t.kind with
  | .nominal | .hash => some (t.relabel (·.withOptions options))
  | _ => none

def withOption? (t : TypeDef) (k : Symbol) (v : Value) : Option TypeDef :=
  match t.kind with
  | .nominal => some (t.relabel (·.withOption k v))
  | _ => none

def pristine? (t : TypeDef) : Option TypeDef :=
  match t.kind with
  | .nominal => some (t.relabel Labels.pristine)
  | _ => none

/-- Gives the items of an array type a type; its labels stay. -/
def of? (t member : TypeDef) : Option TypeDef :=
  match t with
  | .array l => some (.arrayMember l member)
  | _ => none

/-- Gives the keys and values of a hash type types; its labels stay. -/
def map? (t key value : TypeDef) : Option TypeDef :=
  match t with
  | .hash l => some (.map l key value)
  | _ => none

/-- The plain definition over the same primitive, of an array or hash type without parts. -/
def base? : TypeDef → Option TypeDef
  | .array l => some (.nominal (.builtin .array) l)
  | .hash l => some (.nominal (.builtin .hash) l)
  | _ => none

def member? : TypeDef → Option TypeDef
  | .arrayMember _ m => some m
  | _ => none

def key? : TypeDef → Option TypeDef
  | .map _ k _ => some k
  | _ => none

def value? : TypeDef → Option TypeDef
  | .map _ _ v => some v
  | _ => none

/- Capabilities that refined definitions would have, and these lack. -/

def isDefault (_ : TypeDef) : Bool := false

def isConstrained (_ : TypeDef) : Bool := false

def isOptional (_ : TypeDef) : Bool := false

end TypeDef
end ValueTypes
