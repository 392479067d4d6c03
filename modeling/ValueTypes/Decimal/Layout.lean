import ValueTypes.Decimal

namespace ValueTypes

/-- The choices one format makes for floats. -/
structure Layout where
  /-- The magnitude from which floats are written in full. Zero always is. -/
  low : Nat
  /-- The magnitude from which they no longer are. -/
  high : Nat
  tie : Tie
  /-- A mantissa of one digit still has a point, with a zero after it. -/
  pointed : Bool
  /-- An exponent that is not negative has its sign. -/
  signed : Bool
  width : Nat
  nan : String
  infinity : String

namespace Layout

def pad (width : Nat) (ds : List Char) : List Char :=
  List.replicate (width - ds.length) '0' ++ ds

/-- The number in full, with at least one digit on each side of the point. -/
def inFull (d : Decimal) : List Char :=
  let places := (-d.exponent).toNat
  let ds := pad (places + 1) (d.digits ++ List.replicate d.exponent.toNat '0')
  let whole := ds.length - places
  ds.take whole ++ '.' :: (if places = 0 then ['0'] else ds.drop whole)

def fraction (l : Layout) : List Char → List Char
  | [] => if l.pointed then ['.', '0'] else []
  | ds => '.' :: ds

def sign (l : Layout) (e : Int) : List Char :=
  if e < 0 then ['-'] else if l.signed then ['+'] else []

/-- One digit before the point, and the exponent that this takes. -/
def withExponent (l : Layout) (d : Decimal) : List Char :=
  d.digits.take 1 ++ l.fraction (d.digits.drop 1) ++
    'e' :: l.sign d.leading ++ pad l.width (Nat.toDigits 10 d.leading.natAbs)

def usual (l : Layout) (m : Nat) : Bool := m = 0 || (l.low ≤ m && m < l.high)

/-- The magnitude `m`, which the decimal stands for. -/
def decimal (l : Layout) (m : Nat) (d : Decimal) : List Char :=
  if l.usual m then inFull d else l.withExponent d

/-- A finite float with an exponent, whatever its size. -/
def scientific (l : Layout) (x : Binary64) : List Char :=
  (if x.negative then ['-'] else []) ++ l.withExponent (Decimal.shortest l.tie x.magnitude)

def write (l : Layout) (x : Binary64) : String :=
  let minus := if x.negative then "-" else ""
  if x.isNaN then l.nan
  else if x.isFinite then
    minus ++ String.ofList (l.decimal x.magnitude (Decimal.shortest l.tie x.magnitude))
  else minus ++ l.infinity

end Layout
end ValueTypes
