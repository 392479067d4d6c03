import ValueTypes.Fault
import ValueTypes.Json.Printer
import ValueTypes.Json.Reader

namespace ValueTypes.Primitive

def toJson (p : Primitive) : Json := .string p.name

def ofJson : Json → Except Fault Primitive
  | .string s => named s
  | _ => .error .notJson

def read (s : String) : Except Fault Primitive :=
  match Json.read s with
  | some j => ofJson j
  | none => .error .notJson

end ValueTypes.Primitive
