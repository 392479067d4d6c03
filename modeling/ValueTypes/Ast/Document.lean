import ValueTypes.Ast
import ValueTypes.Fault

namespace ValueTypes.Ast

def node (tag : String) (payload : List Json) : Json := .array [.string tag, .array payload]

def toJson : Ast → Json
  | .nominal p ns => node "nominal" [.string p.name, ns.toJson]
  | .array m ns => node "array" [m.toJson, ns.toJson]
  | .hash options ns => node "hash" [options.toJson, ns.toJson]
  | .map k v ns => node "map" [k.toJson, v.toJson, ns.toJson]

def arity? (tag : String) : Option Nat :=
  if tag = "nominal" ∨ tag = "array" ∨ tag = "hash" then some 2
  else if tag = "map" then some 3
  else none

/-- What is wrong with a payload that lacks entries, or with its tag. -/
def payloadFault (tag : String) (found : Nat) : AstFault :=
  match arity? tag with
  | none => .unknownTag tag
  | some needed => .tooFewEntries tag needed found

def primitiveOfJson : Json → Except Fault Primitive
  | .string s => Primitive.named s
  | j => .error (.ast (.primitiveNotName j))

def optionsOfJson : Json → Except Fault OptionMap
  | .object ms => .ok (.ofMembers ms)
  | j => .error (.ast (.notObject j))

/-- The type that a document describes. Entries are read from left to right. -/
def ofJson : Json → Except Fault Ast
  | .array [.string tag, .array payload] =>
    match tag, payload with
    | "nominal", p :: ns :: _ => do return .nominal (← primitiveOfJson p) (← optionsOfJson ns)
    | "array", m :: ns :: _ => do return .array (← ofJson m) (← optionsOfJson ns)
    | "hash", options :: ns :: _ => do return .hash (← optionsOfJson options) (← optionsOfJson ns)
    | "map", k :: v :: ns :: _ => do return .map (← ofJson k) (← ofJson v) (← optionsOfJson ns)
    | _, _ => .error (.ast (payloadFault tag payload.length))
  | .array [.string tag, _] => .error (.ast (.payloadNotArray tag))
  | .array [t, _] => .error (.ast (.tagNotString t))
  | j => .error (.ast (.notPair j))

def read (s : String) : Except Fault Ast :=
  match Json.read s with
  | some j => ofJson j
  | none => .error .notJson

end ValueTypes.Ast
