import ValueTypes.Decimal.Layout
import ValueTypes.Json
import ValueTypes.Text.Numeral

/-!
Numbers of documents as text. A whole number that fits stays one. Any other number is read as a
significand of at most 64 bits, scaled by a power of ten in floating arithmetic, so its last bit may
differ from that of the nearest float.
-/
namespace ValueTypes.Json.Number

/-- Floats in documents are written in full from 1e-5 to below 1e16. Before an exponent a lone digit
has no zero after it, and the exponent's sign is written. -/
def layout : Layout where
  low := Binary64.ofScientific 1 (-5)
  high := Binary64.ofScientific 1 16
  tie := .toEven
  pointed := false
  signed := true
  width := 1
  nan := "null"
  infinity := "null"

def text : Number → String
  | .int n _ _ => Text.numeral n
  | .float x _ => layout.write x

structure Parts where
  negative : Bool
  whole : List Char
  fraction : Option (List Char)
  exponent : Option Int

def exponent? (cs : List Char) : Option Int :=
  let (negative, ds) :=
    match cs with
    | '-' :: r => (true, r)
    | '+' :: r => (false, r)
    | _ => (false, cs)
  if ds.isEmpty || ds.any (!·.isDigit) then none
  else some (if negative then -(Text.number ds : Int) else Text.number ds)

/-- A zero stands in front of other digits only if they follow the point. -/
def whole? (ds : List Char) : Bool :=
  match ds with
  | [] => false
  | ['0'] => true
  | c :: _ => c != '0'

/-- What may follow the digits before the point. -/
def tail? (negative : Bool) (whole : List Char) (cs : List Char) : Option Parts :=
  match cs with
  | [] => some ⟨negative, whole, none, none⟩
  | '.' :: r =>
    let fraction := r.takeWhile Char.isDigit
    if fraction.isEmpty then none
    else
      match r.dropWhile Char.isDigit with
      | [] => some ⟨negative, whole, some fraction, none⟩
      | c :: e =>
        if c = 'e' || c = 'E' then
          (exponent? e).map fun n => ⟨negative, whole, some fraction, some n⟩
        else none
  | c :: e =>
    if c = 'e' || c = 'E' then (exponent? e).map fun n => ⟨negative, whole, none, some n⟩ else none

def parts? (cs : List Char) : Option Parts :=
  let (negative, r) :=
    match cs with
    | '-' :: r => (true, r)
    | _ => (false, cs)
  let whole := r.takeWhile Char.isDigit
  if whole? whole then tail? negative whole (r.dropWhile Char.isDigit) else none

/-- Takes digits into a significand while it stays below 2^64; those from the first that does not
fit are left. -/
def gather (s : Nat) : List Char → Nat × List Char
  | [] => (s, [])
  | c :: ds =>
    let t := s * 10 + (c.toNat - '0'.toNat)
    if t < 0x10000000000000000 then gather t ds else (s, c :: ds)

def shrink (m k : Nat) : Nat :=
  if k ≤ 308 then Binary64.div m (Binary64.ofNat (Binary64.tenTo k))
  else if m = 0 then 0
  else shrink (Binary64.div m (Binary64.ofNat (Binary64.tenTo 308))) (k - 308)
termination_by k

/-- The magnitude of `s * 10 ^ e`, or none if it is too large. -/
def scaled (s : Nat) (e : Int) : Option Nat :=
  if e < 0 then some (shrink (Binary64.ofNat s) e.natAbs)
  else if e ≤ 308 then
    let m := Binary64.mul (Binary64.ofNat s) (Binary64.ofNat (Binary64.tenTo e))
    if m < Binary64.infinity then some m else none
  else if s = 0 then some 0
  else none

def ofMagnitude (negative : Bool) (m : Nat) : Option Number :=
  let x := Binary64.ofMagnitude negative m
  if finite : x.isFinite then some (.float x finite) else none

/-- A whole number that fits, or the float nearest to it. A negative zero is a float. -/
def ofWhole (negative : Bool) (s : Nat) : Option Number :=
  let n : Int := if negative then -s else s
  if h : (-0x8000000000000000 ≤ n ∧ n < 0x10000000000000000) ∧ ¬(negative ∧ s = 0) then
    some (.int n h.1.1 h.1.2)
  else ofMagnitude negative (Binary64.ofNat s)

def ofParts (p : Parts) : Option Number :=
  let (s, dropped) := gather 0 p.whole
  let (t, ignored) := gather s (p.fraction.getD [])
  let taken := (p.fraction.getD []).length - ignored.length
  match dropped, p.fraction, p.exponent with
  | [], none, none => ofWhole p.negative s
  | _, _, e => (scaled t (dropped.length - taken + e.getD 0)).bind (ofMagnitude p.negative)

def read (cs : List Char) : Option Number := (parts? cs).bind ofParts

end ValueTypes.Json.Number
