/-!
IEEE 754 binary64 values, held by their bits so that every NaN keeps its own. Finite magnitudes are
read as whole multiples of 2^-1074, and rounding is done on those in exact arithmetic.
-/
namespace ValueTypes

structure Binary64 where
  bits : UInt64
deriving DecidableEq, Inhabited

namespace Binary64

def signWeight : Nat := 0x8000000000000000

/-- The number of fractions that each exponent has. -/
def binade : Nat := 0x10000000000000

/-- The bits below the sign; among values of one sign they order the values. -/
def magnitude (x : Binary64) : Nat := x.bits.toNat % signWeight

def negative (x : Binary64) : Bool := signWeight ≤ x.bits.toNat

def infinity : Nat := 2047 * binade

def isFinite (x : Binary64) : Bool := x.magnitude < infinity

def isNaN (x : Binary64) : Bool := infinity < x.magnitude

def ofMagnitude (negative : Bool) (m : Nat) : Binary64 :=
  ⟨UInt64.ofNat (if negative then signWeight + m else m)⟩

/- Negative values lie below all others and run against their magnitudes. The order is total on
bits: it tells the two zeros apart, and NaNs lie beyond the infinities of their sign. -/
def position (x : Binary64) : Int :=
  if x.negative then -1 - (x.magnitude : Int) else x.magnitude

def cmp (x y : Binary64) : Ordering := compare x.position y.position

theorem bits_eq (x : Binary64) :
    x.bits.toNat = (if x.negative then signWeight else 0) + x.magnitude := by
  have := x.bits.toNat_lt
  cases h : x.negative with
  | false =>
    have h : ¬signWeight ≤ x.bits.toNat := of_decide_eq_false h
    simp only [magnitude, signWeight, Bool.false_eq_true, if_false] at h ⊢
    omega
  | true =>
    have h : signWeight ≤ x.bits.toNat := of_decide_eq_true h
    simp only [magnitude, signWeight, if_true] at h ⊢
    omega

theorem position_inj {x y : Binary64} (h : x.position = y.position) : x = y := by
  have hx := bits_eq x
  have hy := bits_eq y
  obtain ⟨a⟩ := x
  obtain ⟨b⟩ := y
  refine congrArg Binary64.mk (UInt64.toNat_inj.1 ?_)
  simp only [position] at h
  cases hn : Binary64.negative ⟨a⟩ <;> cases hm : Binary64.negative ⟨b⟩ <;>
    simp only [hn, hm, if_true, if_false, Bool.false_eq_true] at h hx hy <;> omega

theorem cmp_eq_iff {x y : Binary64} : x.cmp y = .eq ↔ x = y := by
  rw [cmp, Std.LawfulEqOrd.compare_eq_iff_eq]
  exact ⟨position_inj, congrArg position⟩

/- A finite magnitude is `significand * 2 ^ scale` units of 2^-1074. -/

def significand (m : Nat) : Nat := if m < binade then m else binade + m % binade

def scale (m : Nat) : Nat := m / binade - 1

def units (m : Nat) : Nat := significand m * Nat.pow 2 (scale m)

def unitsInOne : Nat := Nat.pow 2 1074

/-- `10 ^ e`, or 1 where `e` is negative. -/
def tenTo (e : Int) : Nat := Nat.pow 10 e.toNat

/-- The whole number nearest to `num / den`, of two equally near the even one. -/
def roundHalfEven (num den : Nat) : Nat :=
  let q := num / den
  let r := num % den
  if 2 * r < den then q else if den < 2 * r then q + 1 else q + q % 2

/-- The magnitude nearest to `num / den` units, ties to even; infinite where it exceeds all. -/
def nearest (num den : Nat) : Nat :=
  let k := (num / den).log2 - 52
  min (k * binade + roundHalfEven num (den * Nat.pow 2 k)) infinity

def ofNat (n : Nat) : Nat := nearest (n * unitsInOne) 1

def ofScientific (c : Nat) (e : Int) : Nat :=
  nearest (c * tenTo e * unitsInOne) (tenTo (-e))

def mul (m n : Nat) : Nat := nearest (units m * units n) unitsInOne

/-- The rounded quotient of two finite magnitudes, the second not zero. -/
def div (m n : Nat) : Nat := nearest (units m * unitsInOne) (units n)

end Binary64
end ValueTypes
