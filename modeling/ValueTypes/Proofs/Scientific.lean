import Mathlib
import ValueTypes.Proofs.Magnitude
import ValueTypes.Proofs.Numeral

/-!
Numerals with a point or an exponent. Whatever the layout, what is written for a decimal is a numeral,
and the number it writes is that decimal: a point only moves where the exponent makes up for it.
-/
namespace ValueTypes

namespace Json.Number

/-- A sign, if there is one. -/
def minus (negative : Bool) : List Char := if negative then ['-'] else []

/-- A fraction behind its point, if there is one. -/
def afterPoint : Option (List Char) → List Char
  | none => []
  | some ds => '.' :: ds

/-- What stands before the exponent. -/
def Parts.mantissa (p : Parts) : List Char := minus p.negative ++ (p.whole ++ afterPoint p.fraction)

/-- An exponent and its text, or neither. -/
inductive Power : List Char → Option Int → Prop
  | absent : Power [] none
  | present {cs : List Char} {n : Int} (reads : exponent? cs = some n) : Power ('e' :: cs) (some n)

/-- Digits as a numeral has them: no zero goes before others of the whole part, and a fraction has some. -/
structure Parts.Regular (p : Parts) : Prop where
  leading : whole? p.whole = true
  whole : ∀ c ∈ p.whole, c.isDigit = true
  fraction : ∀ ds ∈ p.fraction, ds ≠ [] ∧ ∀ c ∈ ds, c.isDigit = true

theorem Power.stop {cs : List Char} {e : Option Int} (power : Power cs e) :
    ∀ c ∈ cs.head?, c.isDigit = false := by
  cases power <;> simp

theorem tail?_of_power (negative : Bool) (whole : List Char) {fraction : Option (List Char)}
    (digits : ∀ ds ∈ fraction, ds ≠ [] ∧ ∀ c ∈ ds, c.isDigit = true) {power : List Char}
    {e : Option Int} (powers : Power power e) :
    tail? negative whole (afterPoint fraction ++ power) = some ⟨negative, whole, fraction, e⟩ := by
  cases fraction with
  | none =>
    cases powers with
    | absent => rfl
    | present reads => simp [afterPoint, tail?, reads]
  | some ds =>
    obtain ⟨nonempty, digits⟩ := digits ds rfl
    obtain ⟨taken, dropped⟩ := span_append digits powers.stop
    cases powers with
    | absent =>
      rw [List.append_nil] at taken dropped
      simp [afterPoint, tail?, taken, dropped, nonempty]
    | present reads => simp [afterPoint, tail?, taken, dropped, nonempty, reads]

/-- A numeral is read as its parts. -/
theorem parts?_of_regular {p : Parts} (regular : p.Regular) {power : List Char}
    (powers : Power power p.exponent) : parts? (p.mantissa ++ power) = some p := by
  rw [Parts.mantissa, List.append_assoc, List.append_assoc]
  obtain ⟨negative, whole, fraction, e⟩ := p
  obtain ⟨leading, digits, digits'⟩ := regular
  have rest := tail?_of_power negative whole digits' powers
  have stop : ∀ c ∈ (afterPoint fraction ++ power).head?, c.isDigit = false := by
    cases fraction with
    | none => exact powers.stop
    | some ds => simp [afterPoint]
  obtain ⟨taken, dropped⟩ := span_append digits stop
  dsimp only at *
  cases negative with
  | true => simp [parts?, minus, taken, dropped, leading, rest]
  | false =>
    have unsigned (cs : List Char) : whole ++ (afterPoint fraction ++ power) ≠ '-' :: cs := by
      intro same
      have empty : ('-' :: cs).takeWhile Char.isDigit = [] := rfl
      rw [same, empty] at taken
      rw [← taken] at leading
      cases leading
    rw [minus, if_neg Bool.false_ne_true, List.nil_append]
    unfold parts?
    split
    rename_i negative text parsed
    split at parsed
    · rename_i cs same
      exact absurd same (unsigned cs)
    · obtain ⟨rfl, rfl⟩ := Prod.mk.inj parsed
      simp [taken, dropped, leading, rest]

/- Exponents. -/

/-- A sign that agrees with the exponent. If that is not negative, there need be none. -/
def IsSign (e : Int) (sign : List Char) : Prop :=
  if e < 0 then sign = ['-'] else sign = [] ∨ sign = ['+']

theorem exponent?_of_isSign {e : Int} {sign ds : List Char} (agrees : IsSign e sign)
    (nonempty : ds ≠ []) (digits : ∀ c ∈ ds, c.isDigit = true) (value : Text.number ds = e.natAbs) :
    exponent? (sign ++ ds) = some e := by
  have proper : (ds.isEmpty || ds.any (!·.isDigit)) = false := by
    simpa [nonempty] using digits
  unfold IsSign at agrees
  split at agrees
  · have back : -(e.natAbs : Int) = e := by omega
    simpa [agrees, exponent?, proper, value] using back
  · have back : (e.natAbs : Int) = e := by omega
    rcases agrees with rfl | rfl
    · unfold exponent?
      split
      rename_i negative text parsed
      split at parsed
      · rename_i r same
        exact absurd (digits '-' (List.nil_append ds ▸ same ▸ List.mem_cons_self)) (by decide)
      · rename_i r same
        exact absurd (digits '+' (List.nil_append ds ▸ same ▸ List.mem_cons_self)) (by decide)
      · obtain ⟨rfl, rfl⟩ := Prod.mk.inj parsed
        simp [proper, value, back]
    · simp [exponent?, proper, value, back]

/-- The number that the parts write, without rounding. -/
def Parts.toRat (p : Parts) : ℚ :=
  Binary64.sign p.negative * Text.number (p.whole ++ p.fraction.getD []) *
    10 ^ (p.exponent.getD 0 - (p.fraction.getD []).length)

/-- The number that a text writes, if it is a numeral. -/
def toRat? (cs : List Char) : Option ℚ := (parts? cs).map Parts.toRat

end Json.Number

namespace Text

theorem number_append (as bs : List Char) :
    number (as ++ bs) = 10 ^ bs.length * number as + number bs := by
  rw [number, Nat.ofDigitChars_append, Nat.ofDigitChars_eq_ofDigitChars_zero]
  rfl

theorem number_zeros (n : Nat) : number (List.replicate n '0') = 0 := by
  rw [number, Nat.ofDigitChars_replicate_zero, Nat.mul_zero]

end Text

namespace Layout

open Json.Number

theorem number_pad (width : Nat) (ds : List Char) : Text.number (pad width ds) = Text.number ds := by
  rw [pad, Text.number_append, Text.number_zeros, Nat.mul_zero, Nat.zero_add]

theorem isDigit_of_mem_zeros (n : Nat) : ∀ c ∈ List.replicate n '0', c.isDigit = true := by
  intro c mem
  rw [List.eq_of_mem_replicate mem]
  rfl

theorem isDigit_of_mem_pad (width : Nat) {ds : List Char} (digits : ∀ c ∈ ds, c.isDigit = true) :
    ∀ c ∈ pad width ds, c.isDigit = true :=
  List.forall_mem_append.mpr ⟨isDigit_of_mem_zeros _, digits⟩

theorem isDigit_of_mem_digits (d : Decimal) : ∀ c ∈ d.digits, c.isDigit = true := fun _ mem =>
  Nat.isDigit_of_mem_toDigits (by decide) (by decide) mem

theorem number_digits (d : Decimal) : Text.number d.digits = d.coefficient :=
  Nat.ofDigitChars_ten_toDigits

theorem length_pad (width : Nat) (ds : List Char) : (pad width ds).length = max width ds.length := by
  rw [pad, List.length_append, List.length_replicate]
  omega

theorem le_length_pad (width : Nat) (ds : List Char) : width ≤ (pad width ds).length :=
  length_pad width ds ▸ Nat.le_max_left width ds.length

/- Numbers in full. -/

/-- The digits of a number in full, from the ones on if it has none before. -/
def fullDigits (d : Decimal) : List Char :=
  pad ((-d.exponent).toNat + 1) (d.digits ++ List.replicate d.exponent.toNat '0')

/-- How many of them stand before the point. -/
def wholeLength (d : Decimal) : Nat := (fullDigits d).length - (-d.exponent).toNat

/-- The parts of a number in full. -/
def fullParts (negative : Bool) (d : Decimal) : Parts :=
  ⟨negative, (fullDigits d).take (wholeLength d),
    some (if (-d.exponent).toNat = 0 then ['0'] else (fullDigits d).drop (wholeLength d)), none⟩

theorem minus_inFull (negative : Bool) (d : Decimal) :
    minus negative ++ inFull d = (fullParts negative d).mantissa := rfl

theorem isDigit_of_mem_fullDigits (d : Decimal) : ∀ c ∈ fullDigits d, c.isDigit = true :=
  isDigit_of_mem_pad _ (List.forall_mem_append.mpr ⟨isDigit_of_mem_digits d, isDigit_of_mem_zeros _⟩)

theorem number_fullDigits (d : Decimal) :
    Text.number (fullDigits d) = d.coefficient * 10 ^ d.exponent.toNat := by
  rw [fullDigits, number_pad, Text.number_append, List.length_replicate, Text.number_zeros,
    number_digits, Nat.add_zero, Nat.mul_comm]

theorem places_lt_length (d : Decimal) : (-d.exponent).toNat < (fullDigits d).length :=
  le_length_pad _ _

theorem toRat_fullParts (negative : Bool) (d : Decimal) :
    (fullParts negative d).toRat = Binary64.sign negative * d.toRat := by
  rw [Parts.toRat, Decimal.toRat, mul_assoc]
  congr 1
  simp only [fullParts, Option.getD_some, Option.getD_none, zero_sub]
  by_cases whole : (-d.exponent).toNat = 0
  · have all : wholeLength d = (fullDigits d).length := by rw [wholeLength, whole, Nat.sub_zero]
    have back : (d.exponent.toNat : ℤ) = d.exponent := by omega
    have zero : Text.number ['0'] = 0 := rfl
    rw [if_pos whole, all, List.take_length, Text.number_append, number_fullDigits, zero, ← back,
      zpow_natCast, Int.toNat_natCast]
    push_cast
    norm_num
    ring
  · have places : ((fullDigits d).drop (wholeLength d)).length = (-d.exponent).toNat := by
      have room := places_lt_length d
      rw [List.length_drop, wholeLength]
      omega
    have small : d.exponent.toNat = 0 := by omega
    have back : -((-d.exponent).toNat : ℤ) = d.exponent := by omega
    rw [if_neg whole, List.take_append_drop, number_fullDigits, places, small, back, pow_zero,
      Nat.mul_one]

theorem whole?_of_head {ds : List Char} (nonempty : ds ≠ []) (first : ds.head? ≠ some '0') :
    whole? ds = true := by
  unfold whole?
  split
  · exact absurd rfl nonempty
  · rfl
  · simpa using first

theorem whole?_singleton (c : Char) : whole? [c] = true := by
  by_cases zero : c = '0'
  · subst zero
    rfl
  · exact whole?_of_head (List.cons_ne_nil c []) (by simpa using zero)

/-- Where there is more than one digit before the point, none of them is put in front. -/
theorem head?_fullDigits {d : Decimal} (significant : d.coefficient ≠ 0 ∨ d.exponent ≤ 0)
    (several : wholeLength d ≠ 1) : (fullDigits d).head? ≠ some '0' := by
  have room := places_lt_length d
  have nonempty : 0 < d.digits.length := Nat.length_toDigits_pos
  have long : (-d.exponent).toNat + 1 < d.digits.length + d.exponent.toNat := by
    have length := length_pad ((-d.exponent).toNat + 1)
      (d.digits ++ List.replicate d.exponent.toNat '0')
    rw [← fullDigits, List.length_append, List.length_replicate] at length
    rw [wholeLength] at several
    omega
  have positive : 0 < d.coefficient := by
    refine Nat.pos_of_ne_zero fun zero => ?_
    have single : d.digits.length = 1 := by rw [Decimal.digits, zero]; rfl
    omega
  have unpadded : fullDigits d = d.digits ++ List.replicate d.exponent.toNat '0' := by
    rw [fullDigits, pad, List.length_append, List.length_replicate, Nat.sub_eq_zero_of_le long.le]
    rfl
  rw [unpadded, List.head?_append_of_ne_nil _ (List.ne_nil_of_length_pos nonempty)]
  exact Text.head_toDigits_ne_zero positive

theorem regular_fullParts (negative : Bool) {d : Decimal}
    (significant : d.coefficient ≠ 0 ∨ d.exponent ≤ 0) : (fullParts negative d).Regular := by
  have digits := isDigit_of_mem_fullDigits d
  have room := places_lt_length d
  have before : 0 < wholeLength d := Nat.sub_pos_of_lt room
  refine ⟨?_, fun c mem => digits c (List.mem_of_mem_take mem), ?_⟩
  · show whole? ((fullDigits d).take (wholeLength d)) = true
    by_cases several : wholeLength d = 1
    · obtain ⟨c, cs, first⟩ := List.exists_cons_of_length_pos (Nat.zero_lt_of_lt room)
      rw [several, first]
      exact whole?_singleton c
    · have nonempty : (fullDigits d).take (wholeLength d) ≠ [] := by
        apply List.ne_nil_of_length_pos
        rw [List.length_take]
        omega
      refine whole?_of_head nonempty ?_
      rw [List.head?_take, if_neg before.ne']
      exact head?_fullDigits significant several
  · rintro ds ⟨⟩
    split
    · exact ⟨List.cons_ne_nil _ _, List.forall_mem_singleton.mpr rfl⟩
    · refine ⟨List.ne_nil_of_length_pos ?_, fun c mem => digits c (List.mem_of_mem_drop mem)⟩
      rw [List.length_drop, wholeLength]
      omega

/- Numbers with an exponent. -/

/-- What a layout makes of the digits behind the first. -/
def fractionPart (l : Layout) : List Char → Option (List Char)
  | [] => if l.pointed then some ['0'] else none
  | ds => some ds

theorem fraction_eq (l : Layout) (ds : List Char) : l.fraction ds = afterPoint (l.fractionPart ds) := by
  cases ds with
  | nil =>
    rw [fractionPart, Layout.fraction]
    split <;> rfl
  | cons c ds => rfl

/-- The parts of a number with an exponent. -/
def exponentParts (l : Layout) (negative : Bool) (d : Decimal) : Parts :=
  ⟨negative, d.digits.take 1, l.fractionPart (d.digits.drop 1), some d.leading⟩

/-- What stands behind the `e`. -/
def powerText (l : Layout) (d : Decimal) : List Char :=
  l.sign d.leading ++ pad l.width (Nat.toDigits 10 d.leading.natAbs)

theorem minus_withExponent (l : Layout) (negative : Bool) (d : Decimal) :
    minus negative ++ l.withExponent d =
      (l.exponentParts negative d).mantissa ++ 'e' :: l.powerText d := by
  rw [withExponent, fraction_eq, Parts.mantissa]
  simp only [List.append_assoc]
  rfl

theorem isSign_sign (l : Layout) (e : Int) : IsSign e (l.sign e) := by
  unfold IsSign Layout.sign
  split
  · rfl
  · split
    · exact .inr rfl
    · exact .inl rfl

theorem isDigit_of_mem_pad_toDigits (width n : Nat) :
    ∀ c ∈ pad width (Nat.toDigits 10 n), c.isDigit = true :=
  isDigit_of_mem_pad width fun _ mem => Nat.isDigit_of_mem_toDigits (by decide) (by decide) mem

theorem exponent?_powerText (l : Layout) (d : Decimal) : exponent? (l.powerText d) = some d.leading := by
  have nonempty : pad l.width (Nat.toDigits 10 d.leading.natAbs) ≠ [] := by
    refine List.append_ne_nil_of_right_ne_nil _ Nat.toDigits_ne_nil
  have value : Text.number (pad l.width (Nat.toDigits 10 d.leading.natAbs)) = d.leading.natAbs := by
    rw [number_pad]
    exact Nat.ofDigitChars_ten_toDigits
  exact exponent?_of_isSign (l.isSign_sign d.leading) nonempty (isDigit_of_mem_pad_toDigits _ _) value

theorem fractionPart_digits (l : Layout) {ds : List Char} (digits : ∀ c ∈ ds, c.isDigit = true) :
    ∀ fs ∈ l.fractionPart ds, fs ≠ [] ∧ ∀ c ∈ fs, c.isDigit = true := by
  intro fs mem
  unfold fractionPart at mem
  split at mem
  · split at mem
    · cases mem
      exact ⟨List.cons_ne_nil _ _, List.forall_mem_singleton.mpr rfl⟩
    · cases mem
  · rename_i nonempty
    cases mem
    exact ⟨nonempty, digits⟩

theorem regular_exponentParts (l : Layout) (negative : Bool) (d : Decimal) :
    (l.exponentParts negative d).Regular := by
  have digits := isDigit_of_mem_digits d
  refine ⟨?_, fun c mem => digits c (List.mem_of_mem_take mem),
    l.fractionPart_digits fun c mem => digits c (List.mem_of_mem_drop mem)⟩
  obtain ⟨c, cs, first⟩ := List.exists_cons_of_ne_nil (Nat.toDigits_ne_nil (b := 10) (n := d.coefficient))
  show whole? (d.digits.take 1) = true
  rw [Decimal.digits, first]
  exact whole?_singleton c

theorem toRat_exponentParts (l : Layout) (negative : Bool) (d : Decimal) :
    (l.exponentParts negative d).toRat = Binary64.sign negative * d.toRat := by
  have value := number_digits d
  have split : d.digits.take 1 ++ d.digits.drop 1 = d.digits := List.take_append_drop 1 d.digits
  have length : (d.digits.drop 1).length = d.digits.length - 1 := List.length_drop
  have nonempty : 0 < d.digits.length := Nat.length_toDigits_pos
  have ten : (10 : ℚ) ≠ 0 := by norm_num
  rw [Parts.toRat, Decimal.toRat, mul_assoc]
  congr 1
  simp only [exponentParts, Option.getD_some]
  unfold fractionPart
  have leading : d.leading - (d.digits.length - 1 : Nat) = d.exponent := by
    rw [Decimal.leading]
    omega
  rw [← length] at leading
  split
  · rename_i empty
    rw [empty, List.append_nil] at split
    rw [empty, List.length_nil, Nat.cast_zero, sub_zero] at leading
    rw [split, leading]
    split
    · have zero : Text.number ['0'] = 0 := rfl
      rw [Option.getD_some, Text.number_append, value, zero, List.length_singleton, Nat.cast_one,
        zpow_sub_one₀ ten]
      push_cast
      field_simp
      ring
    · rw [Option.getD_none, List.append_nil, value, List.length_nil, Nat.cast_zero, sub_zero]
  · rw [Option.getD_some, split, value, leading]

/- Floats. -/

theorem toRat?_inFull (negative : Bool) {d : Decimal}
    (significant : d.coefficient ≠ 0 ∨ d.exponent ≤ 0) :
    toRat? (minus negative ++ inFull d) = some (Binary64.sign negative * d.toRat) := by
  have read := parts?_of_regular (regular_fullParts negative significant) .absent
  rw [List.append_nil] at read
  rw [toRat?, minus_inFull, read, Option.map_some, toRat_fullParts]

theorem toRat?_withExponent (l : Layout) (negative : Bool) (d : Decimal) :
    toRat? (minus negative ++ l.withExponent d) = some (Binary64.sign negative * d.toRat) := by
  have read := parts?_of_regular (l.regular_exponentParts negative d)
    (.present (l.exponent?_powerText d))
  rw [toRat?, minus_withExponent, read, Option.map_some, toRat_exponentParts]

theorem toRat?_decimal (l : Layout) (negative : Bool) (m : Nat) {d : Decimal}
    (significant : d.coefficient ≠ 0 ∨ d.exponent ≤ 0) :
    toRat? (minus negative ++ l.decimal m d) = some (Binary64.sign negative * d.toRat) := by
  unfold decimal
  split
  · exact toRat?_inFull negative significant
  · exact l.toRat?_withExponent negative d

theorem toList_write (l : Layout) {x : Binary64} (finite : x.isFinite = true) :
    (l.write x).toList =
      minus x.negative ++ l.decimal x.magnitude (Decimal.shortest l.tie x.magnitude) := by
  have number : x.isNaN = false := by
    simp only [Binary64.isFinite, Binary64.isNaN, decide_eq_true_eq, decide_eq_false_iff_not] at *
    omega
  simp only [write, number, finite, if_true, Bool.false_eq_true, if_false, String.toList_append,
    String.toList_ofList, minus]
  split <;> rfl

/-- Whatever the layout, the text of a finite float writes the number of its shortest digits. -/
theorem toRat?_write (l : Layout) {x : Binary64} (finite : x.isFinite = true) :
    toRat? (l.write x).toList =
      some (Binary64.sign x.negative * (Decimal.shortest l.tie x.magnitude).toRat) := by
  rw [l.toList_write finite]
  exact l.toRat?_decimal _ _ (Decimal.significant_shortest l.tie (of_decide_eq_true finite))

theorem toRat?_scientific (l : Layout) (x : Binary64) :
    toRat? (l.scientific x) =
      some (Binary64.sign x.negative * (Decimal.shortest l.tie x.magnitude).toRat) :=
  l.toRat?_withExponent x.negative _

end Layout
end ValueTypes
