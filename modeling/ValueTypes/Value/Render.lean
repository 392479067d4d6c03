import ValueTypes.Json.Number
import ValueTypes.Text.Quoted
import ValueTypes.Value

namespace ValueTypes.Value

/-- In messages floats are written in full from 1e-4 to below 1e16. A point is never missing, and an
exponent has a sign and two digits. -/
def floatLayout : Layout where
  low := Binary64.ofScientific 1 (-4)
  high := Binary64.ofScientific 1 16
  tie := .upward
  pointed := true
  signed := true
  width := 2
  nan := "NaN"
  infinity := "Infinity"

/-- The same sizes are written in full, and exponents as short as can be. -/
def dumpLayout : Layout :=
  { floatLayout with pointed := false, signed := false, width := 1, infinity := "inf" }

/-- The exponent that stands behind the `e` of a float, if it has no more than 32 bits. -/
def exponent? (cs : List Char) : Option Int :=
  (Json.Number.exponent? cs).filter fun n => -0x80000000 ≤ n && n < 0x80000000

/-- The text of a float with an exponent, in which the mantissa gets a point, and the exponent a sign and
two digits. A text without exponent is left, and an exponent that cannot be read is taken for zero. -/
def relaid (cs : List Char) : List Char :=
  let mantissa := cs.takeWhile (· != 'e')
  match cs.dropWhile (· != 'e') with
  | [] => cs
  | _ :: power =>
    let n := (exponent? power).getD 0
    let point := if mantissa.contains '.' then [] else ['.', '0']
    let sign := if n < 0 then '-' else '+'
    mantissa ++ point ++ 'e' :: sign :: Layout.pad 2 (Nat.toDigits 10 n.natAbs)

/-- Floats of a usual size are written as in dumps, and others are made of their texts with an exponent,
which gives them the layout of messages. -/
def renderFloat (x : Binary64) : String :=
  if x.isNaN then floatLayout.nan
  else if x.isFinite then
    if dumpLayout.usual x.magnitude then dumpLayout.write x
    else String.ofList (relaid (dumpLayout.scientific x))
  else (if x.negative then "-" else "") ++ floatLayout.infinity

def renderBool (b : Bool) : String := if b then "true" else "false"

/-- Fields follow the class name after a blank, if there are any. -/
def renderFieldList (fields : List String) : String :=
  if fields.isEmpty then "" else " " ++ ", ".intercalate fields

mutual

def render : Value → String
  | .nil => "nil"
  | .bool b => renderBool b
  | .int n => Text.numeral n.toInt
  | .float x => renderFloat x
  | .str s => Text.quote s
  | .sym s => s.render
  | .array vs => "[" ++ ", ".intercalate (renderItems vs) ++ "]"
  | .hash es => "\x7b" ++ ", ".intercalate (renderEntries es) ++ "\x7d"
  | .object c _ fs => "#<" ++ c.name ++ renderFieldList (renderFields fs) ++ ">"

def renderItems : List Value → List String
  | [] => []
  | v :: vs => render v :: renderItems vs

def renderEntries : List (Value × Value) → List String
  | [] => []
  | (k, v) :: es => (render k ++ " => " ++ render v) :: renderEntries es

def renderFields : List (String × Value) → List String
  | [] => []
  | (n, v) :: fs => (n ++ "=" ++ render v) :: renderFields fs

end

def dumpName (c : ClassName) : String := "ClassName(" ++ Text.quote c.name ++ ")"

def braces (parts : List String) : String := "\x7b" ++ ", ".intercalate parts ++ "\x7d"

def brackets (parts : List String) : String := "[" ++ ", ".intercalate parts ++ "]"

mutual

def dump : Value → String
  | .nil => "Nil"
  | .bool b => "Bool(" ++ renderBool b ++ ")"
  | .int n => "Integer(" ++ Text.numeral n.toInt ++ ")"
  | .float x => "Float(" ++ dumpLayout.write x ++ ")"
  | .str s => "String(" ++ Text.quote s ++ ")"
  | .sym s => "Symbol(" ++ s.render ++ ")"
  | .array vs => "Array(" ++ brackets (dumpItems vs) ++ ")"
  | .hash es => "Hash(" ++ braces (dumpEntries es) ++ ")"
  | .object c as fs =>
    "Object(Instance \x7b class: " ++ dumpName c ++ ", ancestors: " ++ brackets (as.map dumpName) ++
      ", fields: " ++ braces (dumpFields fs) ++ " \x7d)"

def dumpItems : List Value → List String
  | [] => []
  | v :: vs => dump v :: dumpItems vs

def dumpEntries : List (Value × Value) → List String
  | [] => []
  | (k, v) :: es => (dump k ++ ": " ++ dump v) :: dumpEntries es

def dumpFields : List (String × Value) → List String
  | [] => []
  | (n, v) :: fs => (Text.quote n ++ ": " ++ dump v) :: dumpFields fs

end

end ValueTypes.Value
