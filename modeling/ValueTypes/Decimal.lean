import ValueTypes.Binary64

namespace ValueTypes

structure Decimal where
  coefficient : Nat
  exponent : Int
deriving DecidableEq

/-- Which of two equally near decimals of one length is taken. -/
inductive Tie where
  | upward
  | toEven
deriving DecidableEq

namespace Decimal

def reads (m : Nat) (d : Decimal) : Bool := Binary64.ofScientific d.coefficient d.exponent = m

def digits (d : Decimal) : List Char := Nat.toDigits 10 d.coefficient

def leading (d : Decimal) : Int := d.exponent + d.digits.length - 1

/- The grid with a step of `10 ^ g`. For a negative `g` both the step and the number of units are
taken `10 ^ -g` times. -/

def step (g : Int) : Nat := Binary64.unitsInOne * Binary64.tenTo g

/-- The last point not above `u` units. -/
def below (u : Nat) (g : Int) : Decimal := ⟨u * Binary64.tenTo (-g) / step g, g⟩

def next (d : Decimal) : Decimal := ⟨d.coefficient + 1, d.exponent⟩

/-- Where `u` units lie between that point and the next. -/
def sideOfMiddle (u : Nat) (g : Int) : Ordering :=
  compare (2 * (u * Binary64.tenTo (-g) % step g)) (step g)

/-- Which of a point and the next is taken, given which of them read back and where the middle is. -/
def pick? (tie : Tie) (side : Ordering) (lo : Decimal) : (low high : Bool) → Option Decimal
  | false, false => none
  | true, false => some lo
  | false, true => some lo.next
  | true, true =>
    match side, tie with
    | .lt, _ => some lo
    | .gt, _ => some lo.next
    | .eq, .upward => some lo.next
    | .eq, .toEven => some (if lo.coefficient % 2 = 0 then lo else lo.next)

/-- The point nearest to the magnitude `m` among its two neighbours that read back as `m`. -/
def onGrid? (tie : Tie) (m : Nat) (g : Int) : Option Decimal :=
  let lo := below (Binary64.units m) g
  pick? tie (sideOfMiddle (Binary64.units m) g) lo (lo.reads m) (lo.next.reads m)

/-- The power of ten of the first digit of `u` units, `u` not zero. -/
def firstPower (u : Nat) : Int :=
  (Nat.toDigits 10 (u * Binary64.tenTo 343 / Binary64.unitsInOne)).length - 344

def dropZeros : Nat → Decimal → Decimal
  | 0, d => d
  | n + 1, d =>
    if d.coefficient % 10 = 0 then dropZeros n ⟨d.coefficient / 10, d.exponent + 1⟩ else d

/-- The shortest decimal that reads back as the finite magnitude `m`, of those the nearest.
Seventeen digits always do. -/
def shortest (tie : Tie) (m : Nat) : Decimal :=
  if m = 0 then ⟨0, 0⟩
  else
    let top := firstPower (Binary64.units m)
    let found := (List.range 17).findSome? fun n : Nat => onGrid? tie m (top - n)
    dropZeros 17 (found.getD (below (Binary64.units m) (top - 16)))

end Decimal
end ValueTypes
