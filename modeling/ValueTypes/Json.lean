import ValueTypes.Binary64
import ValueTypes.Entries

namespace ValueTypes

/-- A whole number that fits in 64 bits, with or without a sign, or a finite float. -/
inductive Json.Number where
  | int (n : Int) (low : -0x8000000000000000 ≤ n) (high : n < 0x10000000000000000)
  | float (x : Binary64) (finite : x.isFinite = true)
deriving DecidableEq

inductive Json where
  | null
  | bool (b : Bool)
  | number (n : Json.Number)
  | string (s : String)
  | array (items : List Json)
  | object (members : List (String × Json))
deriving Inhabited

namespace Json

/-- The object with the given members; of two with one name the later counts. -/
def ofMembers (ms : List (String × Json)) : Json := .object (Entries.ofList compare ms)

def ofInt64 (n : Int64) : Json :=
  .number (.int n.toInt n.le_toInt (Int.lt_trans n.toInt_lt (by decide)))

/- Levels of nested arrays and objects. -/
mutual

def depth : Json → Nat
  | .array items => depthOfItems items + 1
  | .object ms => depthOfMembers ms + 1
  | _ => 0

def depthOfItems : List Json → Nat
  | [] => 0
  | j :: js => max (depth j) (depthOfItems js)

def depthOfMembers : List (String × Json) → Nat
  | [] => 0
  | m :: ms => max (depth m.2) (depthOfMembers ms)

end

end Json
end ValueTypes
