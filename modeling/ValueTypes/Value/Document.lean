import ValueTypes.Json
import ValueTypes.Value.Order
import ValueTypes.Value.Render

/-!
Values as documents, and documents as values. A document has no symbols, objects, keys other than
strings, or floats that are not finite, so these do not come back as they were.
-/
namespace ValueTypes.Value

/-- The member name of a hash key: a string or symbol by its name, any other key by its text. -/
def keyName : Value → String
  | .str s => s
  | .sym s => s.name
  | k => k.render

def floatToJson (x : Binary64) : Json :=
  if h : x.isFinite then .number (.float x h) else .null

mutual

def toJson : Value → Json
  | .nil => .null
  | .bool b => .bool b
  | .int n => .ofInt64 n
  | .float x => floatToJson x
  | .str s => .string s
  | .sym s => .string s.name
  | .array vs => .array (itemsToJson vs)
  | .hash es => .ofMembers (entriesToJson es)
  | .object _ _ fs => .ofMembers (fieldsToJson fs)

def itemsToJson : List Value → List Json
  | [] => []
  | v :: vs => toJson v :: itemsToJson vs

def entriesToJson : List (Value × Value) → List (String × Json)
  | [] => []
  | (k, v) :: es => (k.keyName, toJson v) :: entriesToJson es

def fieldsToJson : List (String × Value) → List (String × Json)
  | [] => []
  | (n, v) :: fs => (n, toJson v) :: fieldsToJson fs

end

/-- A whole number that does not fit a signed word becomes the float nearest to it. -/
def ofNumber : Json.Number → Value
  | .int n _ _ =>
    if n < 0x8000000000000000 then .int (Int64.ofInt n)
    else .float (Binary64.ofMagnitude false (Binary64.ofNat n.toNat))
  | .float x _ => .float x

mutual

def ofJson : Json → Value
  | .null => .nil
  | .bool b => .bool b
  | .number n => ofNumber n
  | .string s => .str s
  | .array js => .array (itemsOfJson js)
  | .object ms => ofEntries (entriesOfJson ms)

def itemsOfJson : List Json → List Value
  | [] => []
  | j :: js => ofJson j :: itemsOfJson js

def entriesOfJson : List (String × Json) → List (Value × Value)
  | [] => []
  | (n, j) :: ms => (.str n, ofJson j) :: entriesOfJson ms

end

end ValueTypes.Value
