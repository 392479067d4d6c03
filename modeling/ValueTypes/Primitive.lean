/-!
Primitives: the built-in runtime types and the classes users name. A class never has the name of a
built-in, so a name alone says which primitive is meant.
-/
namespace ValueTypes

/-- The built-in primitives. `any` is above all others, and `numeric` above `integer` and `float`. -/
inductive Builtin where
  | any
  | nil
  | bool
  | numeric
  | integer
  | float
  | string
  | symbol
  | array
  | hash
deriving DecidableEq, Inhabited

namespace Builtin

def all : List Builtin := [any, nil, bool, numeric, integer, float, string, symbol, array, hash]

def name : Builtin → String
  | any => "Any"
  | nil => "Nil"
  | bool => "Bool"
  | numeric => "Numeric"
  | integer => "Integer"
  | float => "Float"
  | string => "String"
  | symbol => "Symbol"
  | array => "Array"
  | hash => "Hash"

def named? (s : String) : Option Builtin := all.find? (·.name = s)

def place (b : Builtin) : Nat := all.idxOf b

end Builtin

/- Class names are segments of ASCII letters, digits and underscores, joined by double colons. The
first begins with a letter. -/

def isNameChar (c : Char) : Bool := c.isAlphanum || c = '_'

/-- The rest of a class name, at the start of a segment or within one. -/
def isNameRest : (fresh : Bool) → List Char → Bool
  | fresh, [] => !fresh
  | fresh, ':' :: ':' :: cs => !fresh && isNameRest true cs
  | _, c :: cs => isNameChar c && isNameRest false cs

def isClassName (s : String) : Bool :=
  (s.toList.head?.any Char.isAlpha) && isNameRest true s.toList && (Builtin.named? s).isNone

@[ext]
structure ClassName where
  name : String
  valid : isClassName name = true
deriving DecidableEq

def ClassName.ofString? (s : String) : Option ClassName :=
  if h : isClassName s = true then some ⟨s, h⟩ else none

inductive Primitive where
  | builtin (b : Builtin)
  | ofClass (c : ClassName)
deriving DecidableEq

namespace Primitive

instance : Inhabited Primitive := ⟨.builtin .any⟩

def name : Primitive → String
  | .builtin b => b.name
  | .ofClass c => c.name

def named? (s : String) : Option Primitive :=
  match Builtin.named? s with
  | some b => some (.builtin b)
  | none => (ClassName.ofString? s).map .ofClass

def cmp : Primitive → Primitive → Ordering
  | .builtin a, .builtin b => compare a.place b.place
  | .builtin _, .ofClass _ => .lt
  | .ofClass _, .builtin _ => .gt
  | .ofClass a, .ofClass b => compare a.name b.name

def isSubtypeOf (p q : Primitive) : Bool :=
  p = q || q = .builtin .any ||
    (q = .builtin .numeric && (p = .builtin .integer || p = .builtin .float))

def isSequence (p : Primitive) : Bool := p = .builtin .array

def isMap (p : Primitive) : Bool := p = .builtin .hash

end Primitive
end ValueTypes
