import ValueTypes.CoercionError

namespace ValueTypes

inductive Outcome where
  | success (value : Value)
  | failure (input : Value) (error : CoercionError)
deriving DecidableEq, Inhabited

namespace Outcome

def isSuccess : Outcome → Bool
  | .success _ => true
  | .failure .. => false

def isFailure (o : Outcome) : Bool := !o.isSuccess

def input : Outcome → Value
  | .success v => v
  | .failure v _ => v

def value? : Outcome → Option Value
  | .success v => some v
  | .failure .. => none

def error? : Outcome → Option CoercionError
  | .success _ => none
  | .failure _ e => some e

def map (f : Value → Value) : Outcome → Outcome
  | .success v => .success (f v)
  | .failure v e => .failure v e

def orElse (f : Value → CoercionError → Outcome) : Outcome → Outcome
  | .success v => .success v
  | .failure v e => f v e

def toExcept : Outcome → Except CoercionError Value
  | .success v => .ok v
  | .failure _ e => .error e

end Outcome
end ValueTypes
