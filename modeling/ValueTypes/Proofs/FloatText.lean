import Mathlib
import ValueTypes.Proofs.Scientific
import ValueTypes.Proofs.Spelling
import ValueTypes.Value.Render

/-!
Floats in messages. Of a text with an exponent only the layout is changed, so every finite float comes
out as its shortest digits in the one layout of messages, and from there follows which number a text
writes, where its point stands and when it has an exponent.
-/
namespace ValueTypes

namespace Binary64

/-- The number that a finite float is. -/
def toRat (x : Binary64) : ℚ := sign x.negative * ratOf x.magnitude

theorem abs_toRat (x : Binary64) : |x.toRat| = ratOf x.magnitude := by
  have nonneg : 0 ≤ ratOf x.magnitude := div_nonneg (Nat.cast_nonneg _) (Nat.cast_nonneg _)
  have unit : |sign x.negative| = 1 := by
    unfold sign
    split <;> norm_num
  rw [toRat, abs_mul, unit, one_mul, abs_of_nonneg nonneg]

theorem toRat_ne_zero_iff (x : Binary64) : x.toRat ≠ 0 ↔ x.magnitude ≠ 0 := by
  rw [← abs_pos, abs_toRat, ← ratOf_zero, ratOf_lt_ratOf_iff, Nat.pos_iff_ne_zero]

/-- The first magnitude that reaches a power of ten tells which others do. -/
theorem zpow_le_ratOf_iff_le {e : ℤ} {t : Nat} (short : ratOf (t - 1) < 10 ^ e)
    (reached : (10 : ℚ) ^ e ≤ ratOf t) (m : Nat) : (10 : ℚ) ^ e ≤ ratOf m ↔ t ≤ m := by
  constructor
  · intro le
    have above := ratOf_lt_ratOf_iff.mp (short.trans_le le)
    omega
  · intro le
    have above : ¬ratOf m < ratOf t := mt ratOf_lt_ratOf_iff.mp (Nat.not_lt.mpr le)
    exact reached.trans (not_lt.mp above)

end Binary64

namespace Text

/-- A point with a digit on each side. -/
def Pointed (cs : List Char) : Prop :=
  ∃ as a b bs, cs = as ++ a :: '.' :: b :: bs ∧ a.isDigit = true ∧ b.isDigit = true

/-- An exponent with a sign and two digits or more. -/
def Powered (cs : List Char) : Prop :=
  ∃ mantissa sign ds, cs = mantissa ++ 'e' :: sign :: ds ∧ 'e' ∉ mantissa ∧
    (sign = '+' ∨ sign = '-') ∧ 2 ≤ ds.length ∧ ∀ c ∈ ds, c.isDigit = true

end Text

namespace Json.Number.Parts.Regular

variable {p : Parts} (regular : p.Regular)
include regular

theorem e_not_mem : 'e' ∉ p.mantissa := by
  have digit {ds : List Char} (digits : ∀ c ∈ ds, c.isDigit = true) : 'e' ∉ ds :=
    fun mem => absurd (digits 'e' mem) (by decide)
  unfold mantissa
  simp only [List.mem_append, not_or]
  refine ⟨?_, digit regular.whole, ?_⟩
  · unfold minus
    split <;> simp
  · cases h : p.fraction with
    | none => exact List.not_mem_nil
    | some ds =>
      obtain ⟨-, digits⟩ := regular.fraction ds h
      exact List.not_mem_cons_of_ne_of_not_mem (by decide) (digit digits)

theorem contains_point : p.mantissa.contains '.' = p.fraction.isSome := by
  have whole : '.' ∉ p.whole := fun mem => absurd (regular.whole '.' mem) (by decide)
  have sign : '.' ∉ minus p.negative := by
    unfold minus
    split <;> simp
  rw [Bool.eq_iff_iff, List.contains_iff_mem, mantissa, List.mem_append, List.mem_append,
    or_iff_right sign, or_iff_right whole]
  cases p.fraction with
  | none => simp [afterPoint]
  | some ds => simp [afterPoint]

theorem pointed {ds : List Char} (fraction : p.fraction = some ds) (power : List Char) :
    Text.Pointed (p.mantissa ++ power) := by
  have before : p.whole ≠ [] := by
    intro empty
    have leading := regular.leading
    rw [empty] at leading
    cases leading
  obtain ⟨behind, digits⟩ := regular.fraction ds fraction
  obtain ⟨b, bs, rfl⟩ := List.exists_cons_of_ne_nil behind
  refine ⟨minus p.negative ++ p.whole.dropLast, p.whole.getLast before, b, bs ++ power, ?_,
    regular.whole _ (List.getLast_mem before), digits b List.mem_cons_self⟩
  have split := List.dropLast_append_getLast before
  rw [mantissa, fraction, afterPoint]
  nth_rewrite 1 [← split]
  simp only [List.append_assoc, List.cons_append, List.nil_append]

end Json.Number.Parts.Regular

namespace Layout

open Json.Number Text

/-- Where a text with an exponent is split. -/
theorem span_withExponent (l : Layout) (negative : Bool) (d : Decimal) :
    (minus negative ++ l.withExponent d).takeWhile (· != 'e') =
        (l.exponentParts negative d).mantissa ∧
      (minus negative ++ l.withExponent d).dropWhile (· != 'e') = 'e' :: l.powerText d := by
  rw [l.minus_withExponent]
  apply span_append
  · intro c mem
    have other : c ≠ 'e' := fun same => (l.regular_exponentParts negative d).e_not_mem (same ▸ mem)
    simpa using other
  · rintro c ⟨⟩
    rfl

section Messages

variable {l : Layout} (negative : Bool) (m : Nat) {d : Decimal}

theorem pointed_decimal (pointed : l.pointed = true)
    (significant : d.coefficient ≠ 0 ∨ d.exponent ≤ 0) : Pointed (minus negative ++ l.decimal m d) := by
  unfold decimal
  split
  · rw [minus_inFull, ← List.append_nil (Parts.mantissa _)]
    exact (regular_fullParts negative significant).pointed rfl []
  · obtain ⟨ds, fraction⟩ : ∃ ds, (l.exponentParts negative d).fraction = some ds := by
      show ∃ ds, l.fractionPart (d.digits.drop 1) = some ds
      unfold fractionPart
      split
      · exact ⟨['0'], if_pos pointed⟩
      · exact ⟨_, rfl⟩
    rw [minus_withExponent]
    exact (l.regular_exponentParts negative d).pointed fraction _

theorem e_mem_decimal_iff (significant : d.coefficient ≠ 0 ∨ d.exponent ≤ 0) :
    'e' ∈ minus negative ++ l.decimal m d ↔ ¬l.usual m = true := by
  unfold decimal
  split
  · rename_i usual
    have absent := (regular_fullParts negative significant).e_not_mem
    rw [minus_inFull]
    exact ⟨fun present => absurd present absent, fun unusual => absurd usual unusual⟩
  · rename_i unusual
    rw [minus_withExponent]
    exact ⟨fun _ => unusual, fun _ => List.mem_append_right _ List.mem_cons_self⟩

theorem powered_decimal (signed : l.signed = true) (width : 2 ≤ l.width)
    (unusual : ¬l.usual m = true) : Powered (minus negative ++ l.decimal m d) := by
  obtain ⟨sign, alone, shape⟩ : ∃ sign, l.sign d.leading = [sign] ∧ (sign = '+' ∨ sign = '-') := by
    rw [Layout.sign, if_pos signed]
    split
    · exact ⟨'-', rfl, .inr rfl⟩
    · exact ⟨'+', rfl, .inl rfl⟩
  rw [decimal, if_neg unusual, minus_withExponent, powerText, alone]
  exact ⟨_, sign, _, rfl, (l.regular_exponentParts negative d).e_not_mem, shape,
    width.trans (le_length_pad _ _), isDigit_of_mem_pad_toDigits _ _⟩

end Messages
end Layout

namespace Value

open Binary64 Json.Number Layout Text

theorem exponent?_powerText (l : Layout) {d : Decimal} (low : -0x80000000 ≤ d.leading)
    (high : d.leading < 0x80000000) : Value.exponent? (l.powerText d) = some d.leading := by
  rw [Value.exponent?, l.exponent?_powerText, Option.filter_some, if_pos]
  rw [Bool.and_eq_true, decide_eq_true_eq, decide_eq_true_eq]
  exact ⟨low, high⟩

theorem afterPoint_floatLayout (l : Layout) (ds : List Char) :
    afterPoint (l.fractionPart ds) ++ (if (l.fractionPart ds).isSome then [] else ['.', '0']) =
      afterPoint (floatLayout.fractionPart ds) := by
  cases ds with
  | cons c ds =>
    have kept (l : Layout) : l.fractionPart (c :: ds) = some (c :: ds) := rfl
    rw [kept l, kept floatLayout, Option.isSome_some, if_pos rfl, List.append_nil]
  | nil =>
    have pointed : floatLayout.fractionPart [] = some ['0'] := rfl
    rw [pointed, fractionPart]
    split <;> rfl

/-- The point is added where the mantissa has none. -/
theorem mantissa_floatLayout (l : Layout) (negative : Bool) (d : Decimal) :
    (l.exponentParts negative d).mantissa ++
        (if (l.exponentParts negative d).mantissa.contains '.' then [] else ['.', '0']) =
      (floatLayout.exponentParts negative d).mantissa := by
  simp only [(l.regular_exponentParts negative d).contains_point]
  show minus negative ++ (d.digits.take 1 ++ afterPoint (l.fractionPart (d.digits.drop 1))) ++
      (if (l.fractionPart (d.digits.drop 1)).isSome then [] else ['.', '0']) =
    minus negative ++ (d.digits.take 1 ++ afterPoint (floatLayout.fractionPart (d.digits.drop 1)))
  rw [List.append_assoc, List.append_assoc, afterPoint_floatLayout]

/-- Whichever layout a text with an exponent has, it gets that of messages. -/
theorem relaid_withExponent (l : Layout) (negative : Bool) {d : Decimal}
    (low : -0x80000000 ≤ d.leading) (high : d.leading < 0x80000000) :
    relaid (minus negative ++ l.withExponent d) = minus negative ++ floatLayout.withExponent d := by
  obtain ⟨taken, dropped⟩ := l.span_withExponent negative d
  have sign : floatLayout.sign d.leading = [if d.leading < 0 then '-' else '+'] := by
    rw [Layout.sign]
    split <;> rfl
  rw [floatLayout.minus_withExponent, powerText, sign, ← mantissa_floatLayout l]
  unfold relaid
  simp only [taken, dropped, exponent?_powerText l low high, Option.getD_some]
  rfl

/-- The first digit of a finite float stands at a power of ten of at most 32 bits. -/
theorem leading_fits {x : Binary64} (finite : x.isFinite = true) :
    -0x80000000 ≤ (Decimal.shortest .upward x.magnitude).leading ∧
      (Decimal.shortest .upward x.magnitude).leading < 0x80000000 := by
  have bounds := Decimal.leading_shortest_bounds .upward (of_decide_eq_true finite)
  omega

theorem relaid_scientific {x : Binary64} (finite : x.isFinite = true) :
    relaid (dumpLayout.scientific x) =
      minus x.negative ++ floatLayout.withExponent (Decimal.shortest .upward x.magnitude) := by
  obtain ⟨low, high⟩ := leading_fits finite
  exact relaid_withExponent dumpLayout x.negative low high

theorem toList_renderFloat {x : Binary64} (finite : x.isFinite = true) :
    (renderFloat x).toList =
      minus x.negative ++
        floatLayout.decimal x.magnitude (Decimal.shortest .upward x.magnitude) := by
  have number : ¬x.isNaN = true := by
    simp only [Binary64.isFinite, Binary64.isNaN, decide_eq_true_eq] at *
    omega
  rw [renderFloat, if_neg number, if_pos finite, Layout.decimal]
  -- Both layouts take the same sizes for usual ones.
  have same : floatLayout.usual x.magnitude = dumpLayout.usual x.magnitude := rfl
  rw [same]
  split
  · rename_i usual
    rw [dumpLayout.toList_write finite, Layout.decimal, if_pos usual]
    rfl
  · rw [String.toList_ofList, relaid_scientific finite]

/-- Which floats are written in full, as a matter of numbers. -/
theorem usual_iff (x : Binary64) :
    floatLayout.usual x.magnitude = true ↔
      x.toRat = 0 ∨ ((10 : ℚ) ^ (-4 : ℤ) ≤ |x.toRat| ∧ |x.toRat| < 10 ^ (16 : ℤ)) := by
  have least : (10 : ℚ) ^ (-4 : ℤ) ≤ ratOf x.magnitude ↔ floatLayout.low ≤ x.magnitude :=
    zpow_le_ratOf_iff_le (by rw [← not_le, zpow_le_ratOf_iff]; decide +kernel)
      ((zpow_le_ratOf_iff _ _).mpr (by decide +kernel)) x.magnitude
  have most : (10 : ℚ) ^ (16 : ℤ) ≤ ratOf x.magnitude ↔ floatLayout.high ≤ x.magnitude :=
    zpow_le_ratOf_iff_le (by rw [← not_le, zpow_le_ratOf_iff]; decide +kernel)
      ((zpow_le_ratOf_iff _ _).mpr (by decide +kernel)) x.magnitude
  have zero : x.toRat = 0 ↔ x.magnitude = 0 := not_iff_not.mp x.toRat_ne_zero_iff
  rw [← not_le, zero, abs_toRat, least, most, Layout.usual, Nat.not_le]
  simp only [Bool.or_eq_true, Bool.and_eq_true, decide_eq_true_eq]

section Finite

variable {x : Binary64} (finite : x.isFinite = true)
include finite

theorem significant_digits :
    (Decimal.shortest .upward x.magnitude).coefficient ≠ 0 ∨
      (Decimal.shortest .upward x.magnitude).exponent ≤ 0 :=
  Decimal.significant_shortest .upward (of_decide_eq_true finite)

theorem toRat?_renderFloat :
    toRat? (renderFloat x).toList =
      some (Binary64.sign x.negative * (Decimal.shortest .upward x.magnitude).toRat) := by
  rw [toList_renderFloat finite]
  exact floatLayout.toRat?_decimal _ _ (significant_digits finite)

theorem pointed_renderFloat : Pointed (renderFloat x).toList := by
  rw [toList_renderFloat finite]
  exact pointed_decimal x.negative x.magnitude rfl (significant_digits finite)

theorem renderFloat_ne_numeral (n : Int) : renderFloat x ≠ Text.numeral n := by
  intro same
  obtain ⟨as, a, b, bs, text, -, -⟩ := pointed_renderFloat finite
  have mem : '.' ∈ (Text.numeral n).toList := by
    rw [← same, text]
    exact List.mem_append_right _ (List.mem_cons_of_mem _ List.mem_cons_self)
  rcases (Json.Token.numeral_chars n).2 '.' mem with digit | minus
  · exact absurd digit (by decide)
  · exact absurd minus (by decide)

theorem e_mem_renderFloat_iff :
    'e' ∈ (renderFloat x).toList ↔ ¬floatLayout.usual x.magnitude = true := by
  rw [toList_renderFloat finite]
  exact e_mem_decimal_iff x.negative x.magnitude (significant_digits finite)

theorem powered_renderFloat (unusual : ¬floatLayout.usual x.magnitude = true) :
    Powered (renderFloat x).toList := by
  rw [toList_renderFloat finite]
  exact powered_decimal x.negative x.magnitude rfl (by decide) unusual

/-- No float is left without an exponent that can be read. -/
theorem exponent?_scientific :
    ∃ power, (dumpLayout.scientific x).dropWhile (· != 'e') = 'e' :: power ∧
      Value.exponent? power = some (Decimal.shortest .upward x.magnitude).leading := by
  obtain ⟨low, high⟩ := leading_fits finite
  obtain ⟨-, dropped⟩ :=
    dumpLayout.span_withExponent x.negative (Decimal.shortest .upward x.magnitude)
  exact ⟨_, dropped, exponent?_powerText dumpLayout low high⟩

end Finite

/-- A finite float in a message is written with a point, and its number is that of the digits which
dumps write. Only sizes that are not usual take an exponent, whose fallbacks are for no float. -/
theorem float_number_kept {x : Binary64} (finite : x.isFinite = true) :
    let d := Decimal.shortest .upward x.magnitude
    let text := (render (.float x)).toList
    (toRat? text = some (Binary64.sign x.negative * d.toRat) ∧
      toRat? (dumpLayout.write x).toList = toRat? text ∧
      toRat? (dumpLayout.scientific x) = toRat? text) ∧
    Pointed text ∧
    (∀ n : Int64, render (.float x) ≠ render (.int n)) ∧
    ('e' ∈ text ↔
      x.toRat ≠ 0 ∧ ¬((10 : ℚ) ^ (-4 : ℤ) ≤ |x.toRat| ∧ |x.toRat| < 10 ^ (16 : ℤ))) ∧
    ('e' ∈ text → Powered text) ∧
    ∃ power, (dumpLayout.scientific x).dropWhile (· != 'e') = 'e' :: power ∧
      Value.exponent? power = some d.leading := by
  intro d text
  have number := toRat?_renderFloat finite
  have power := e_mem_renderFloat_iff finite
  have rendered : render (.float x) = renderFloat x := by rw [render]
  have whole (n : Int64) : render (.int n) = Text.numeral n.toInt := by rw [render]
  simp only [text, rendered, whole]
  refine ⟨⟨number, ?_, ?_⟩, pointed_renderFloat finite, ?_, ?_, ?_, exponent?_scientific finite⟩
  · exact (dumpLayout.toRat?_write finite).trans number.symm
  · exact (dumpLayout.toRat?_scientific x).trans number.symm
  · exact fun n => renderFloat_ne_numeral finite n.toInt
  · rw [power, usual_iff, not_or]
  · exact fun present => powered_renderFloat finite (power.mp present)

/-- One that is written with an exponent of two digits. -/
theorem float_number_kept_small :
    (⟨0x3ee4f8b588e368f1⟩ : Binary64).isFinite = true ∧
      render (.float ⟨0x3ee4f8b588e368f1⟩) = "1.0e-05" ∧
      Powered (render (.float ⟨0x3ee4f8b588e368f1⟩)).toList := by
  have finite : (⟨0x3ee4f8b588e368f1⟩ : Binary64).isFinite = true := by decide
  have text : render (.float ⟨0x3ee4f8b588e368f1⟩) = "1.0e-05" := by decide +kernel
  obtain ⟨-, -, -, -, powered, -⟩ := float_number_kept finite
  exact ⟨finite, text, powered (by rw [text]; decide)⟩

end Value
end ValueTypes
