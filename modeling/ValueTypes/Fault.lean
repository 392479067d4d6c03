import ValueTypes.CoercionError

namespace ValueTypes

inductive AstFault where
  | notPair (json : Json)
  | tagNotString (json : Json)
  | payloadNotArray (tag : String)
  | unknownTag (tag : String)
  | tooFewEntries (tag : String) (needed found : Nat)
  | primitiveNotName (json : Json)
  | notObject (json : Json)
  | described (text : String)

inductive Fault where
  | mismatch (m : Mismatch)
  | coercion (e : CoercionError)
  | className (name : String)
  | ast (f : AstFault)
  | notJson

/-- The wording of every fault in a document's text. -/
def Json.unreadable : String := "<json>"

def AstFault.message : AstFault → String
  | .notPair j => "expected [tag, payload], got " ++ j.compact
  | .tagNotString j => "tag must be a string, got " ++ j.compact
  | .payloadNotArray tag => "payload of " ++ Text.quote tag ++ " must be an array"
  | .unknownTag tag => "unknown tag " ++ Text.quote tag
  | .tooFewEntries tag needed found =>
    "payload of " ++ Text.quote tag ++ " needs " ++ Text.numeral needed ++ " entries, got " ++
      Text.numeral found
  | .primitiveNotName j => "primitive must be a name, got " ++ j.compact
  | .notObject j => "expected an object, got " ++ j.compact
  | .described text => text

def Fault.message : Fault → String
  | .mismatch m => "constraint error: " ++ m.message
  | .coercion e => "coercion error: " ++ e.message
  | .className name =>
    "invalid class name " ++ Text.quote name ++ ": must start with a letter, " ++
      "contain only letters, digits, '_' or '::', and not name a built-in primitive"
  | .ast f => "malformed AST: " ++ f.message
  | .notJson => "serialization error: " ++ Json.unreadable

/-- Only the wording of a fault is kept, also where it is about a coercion. -/
def CoercionError.ofFault (f : Fault) : CoercionError := .ofMessage f.message

def ClassName.ofString (s : String) : Except Fault ClassName :=
  match ClassName.ofString? s with
  | some c => .ok c
  | none => .error (.className s)

def Primitive.named (s : String) : Except Fault Primitive :=
  match Primitive.named? s with
  | some p => .ok p
  | none => .error (.className s)

end ValueTypes
