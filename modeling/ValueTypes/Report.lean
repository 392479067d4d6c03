import ValueTypes.TypeDef.Contract

namespace ValueTypes.TypeDef

def describeOutcome : Outcome → String
  | .success v => "success " ++ v.render
  | .failure v e => "failure " ++ v.render ++ " (" ++ e.message ++ ")"

def describeCoercion : Except Mismatch Value → String
  | .ok v => v.render
  | .error m => "error: " ++ m.message

def reportLines (t : TypeDef) (v : Value) : List (String × String) := [
  ("type:       ", t.name ++ " (" ++ t.kind.name ++ ")"),
  ("input:      ", v.render ++ " (" ++ v.typeName ++ ")"),
  ("call:       ", (t.apply v).render),
  ("try:        ", describeOutcome (t.attempt v)),
  ("valid:      ", Value.renderBool (t.accepts v)),
  ("primitive:  ", Value.renderBool (t.isPrimitive v)),
  ("coerce:     ", describeCoercion (t.coerce v))]

def report (t : TypeDef) (v : Value) : String :=
  String.join ((t.reportLines v).map fun l => l.1 ++ l.2 ++ "\n")

def coerces (t : TypeDef) (v : Value) : Bool :=
  match t.coerce v with
  | .ok _ => true
  | .error _ => false

end ValueTypes.TypeDef
