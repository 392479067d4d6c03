import ValueTypes.Binary64
import ValueTypes.Entries
import ValueTypes.Primitive
import ValueTypes.Symbol

/-!
Runtime values. Values of different kinds are never equal, so the integer 1 and the float 1.0 are
two values, and floats are told apart by their bits.
-/
namespace ValueTypes

inductive Value where
  | nil
  | bool (b : Bool)
  | int (n : Int64)
  | float (x : Binary64)
  | str (s : String)
  | sym (s : Symbol)
  | array (items : List Value)
  | hash (entries : List (Value × Value))
  /-- An instance of a class, with the classes above it, nearest first. -/
  | object (ofClass : ClassName) (ancestors : List ClassName) (fields : List (String × Value))
deriving Inhabited

namespace Value

def rank : Value → Nat
  | .nil => 0
  | .bool _ => 1
  | .int _ => 2
  | .float _ => 3
  | .str _ => 4
  | .sym _ => 5
  | .array _ => 6
  | .hash _ => 7
  | .object .. => 8

def typeName : Value → String
  | .nil => "Nil"
  | .bool _ => "Bool"
  | .int _ => "Integer"
  | .float _ => "Float"
  | .str _ => "String"
  | .sym _ => "Symbol"
  | .array _ => "Array"
  | .hash _ => "Hash"
  | .object c _ _ => c.name

def asInt? : Value → Option Int64
  | .int n => some n
  | _ => none

def asString? : Value → Option String
  | .str s => some s
  | _ => none

def asArray? : Value → Option (List Value)
  | .array items => some items
  | _ => none

def asHash? : Value → Option (List (Value × Value))
  | .hash es => some es
  | _ => none

/-- The instance with the given fields; of two with one name the later counts. -/
def ofFields (c : ClassName) (ancestors : List ClassName) (fields : List (String × Value)) : Value :=
  .object c ancestors (Entries.ofList compare fields)

def isA (c : ClassName) : Value → Bool
  | .object d ancestors _ => d = c || ancestors.contains c
  | _ => false

end Value

namespace Primitive

/-- The primitive of the value's own runtime type; for an object, its class. -/
def of : Value → Primitive
  | .nil => .builtin .nil
  | .bool _ => .builtin .bool
  | .int _ => .builtin .integer
  | .float _ => .builtin .float
  | .str _ => .builtin .string
  | .sym _ => .builtin .symbol
  | .array _ => .builtin .array
  | .hash _ => .builtin .hash
  | .object c _ _ => .ofClass c

def isInstance (p : Primitive) (v : Value) : Bool :=
  match p, v with
  | .ofClass c, .object .. => v.isA c
  | _, _ => (of v).isSubtypeOf p

end Primitive
end ValueTypes
