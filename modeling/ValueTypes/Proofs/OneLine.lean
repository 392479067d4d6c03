import ValueTypes.Proofs.Native
import ValueTypes.Proofs.Numeral
import ValueTypes.Proofs.Primitive
import ValueTypes.Value.Render

namespace ValueTypes

namespace Text

def IsLine (s : String) : Prop := '\n' ∉ s.toList

instance : DecidablePred IsLine := fun s => inferInstanceAs (Decidable ('\n' ∉ s.toList))

@[simp]
theorem isLine_append (s t : String) : IsLine (s ++ t) ↔ IsLine s ∧ IsLine t := by
  simp [IsLine, not_or]

@[simp]
theorem isLine_ofList (cs : List Char) : IsLine (String.ofList cs) ↔ '\n' ∉ cs := by
  simp [IsLine]

theorem isLine_intercalate (sep : String) {parts : List String} (between : IsLine sep)
    (each : ∀ s ∈ parts, IsLine s) : IsLine (sep.intercalate parts) := by
  induction parts with
  | nil => simp [IsLine]
  | cons s parts ih =>
    obtain ⟨head, tail⟩ := List.forall_mem_cons.mp each
    cases parts with
    | nil => simpa using head
    | cons t parts =>
      simp only [String.intercalate_cons_cons, isLine_append]
      exact ⟨⟨head, between⟩, ih tail⟩

/-- Every digit in a base up to sixteen shows. -/
theorem newline_not_mem_toDigits {b : Nat} (low : 1 < b) (high : b ≤ 16) (n : Nat) :
    '\n' ∉ Nat.toDigits b n := by
  have digit : ∀ d < 16, '\n' ≠ Nat.digitChar d := by decide
  intro mem
  obtain ⟨d, small, same⟩ := exists_digit_of_mem_toDigits low n _ mem
  exact digit d (by omega) same

theorem isLine_numeral (n : Int) : IsLine (numeral n) := by
  have digits := newline_not_mem_toDigits (b := 10) (by decide) (by decide) n.natAbs
  unfold numeral
  apply (isLine_ofList _).mpr
  split
  · exact List.not_mem_cons_of_ne_of_not_mem (by decide) digits
  · exact digits

theorem newline_not_mem_escape (c : Char) : '\n' ∉ escape c := by
  have digits := newline_not_mem_toDigits (b := 16) (by decide) (by decide) c.toNat
  have number : '\n' ∉ byNumber c := by simp [byNumber, digits]
  have itself (other : c ≠ '\n') : '\n' ∉ [c] := mt List.mem_singleton.mp (Ne.symm other)
  unfold escape
  split
  · decide
  split
  · decide
  split
  · decide
  split
  · decide
  split
  · decide
  split
  · decide
  rename_i other
  split
  · exact number
  · exact itself other

theorem isLine_quote (s : String) : IsLine (quote s) := by
  have escaped : '\n' ∉ s.toList.flatMap escape := by
    intro mem
    obtain ⟨c, -, mem⟩ := List.mem_flatMap.mp mem
    exact newline_not_mem_escape c mem
  have mark : IsLine "\"" := by decide
  simp only [quote, isLine_append, isLine_ofList]
  exact ⟨⟨mark, escaped⟩, mark⟩

end Text

open Text

namespace Layout

theorem newline_not_mem_pad (width : Nat) {ds : List Char} (digits : '\n' ∉ ds) :
    '\n' ∉ pad width ds := by
  simp [pad, digits]

theorem newline_not_mem_digits (d : Decimal) : '\n' ∉ d.digits :=
  newline_not_mem_toDigits (by decide) (by decide) d.coefficient

theorem newline_not_mem_inFull (d : Decimal) : '\n' ∉ inFull d := by
  have zeros : '\n' ∉ d.digits ++ List.replicate d.exponent.toNat '0' := by
    simp [newline_not_mem_digits]
  have padded := newline_not_mem_pad ((-d.exponent).toNat + 1) zeros
  unfold inFull
  simp only [List.mem_append, List.mem_cons, not_or]
  refine ⟨mt List.mem_of_mem_take padded, by decide, ?_⟩
  split
  · decide
  · exact mt List.mem_of_mem_drop padded

theorem newline_not_mem_withExponent (l : Layout) (d : Decimal) : '\n' ∉ l.withExponent d := by
  have digits := newline_not_mem_digits d
  have power : '\n' ∉ Nat.toDigits 10 d.leading.natAbs :=
    newline_not_mem_toDigits (by decide) (by decide) _
  have fraction : '\n' ∉ l.fraction (d.digits.drop 1) := by
    unfold Layout.fraction
    split
    · split <;> decide
    · exact List.not_mem_cons_of_ne_of_not_mem (by decide) (mt List.mem_of_mem_drop digits)
  have sign : '\n' ∉ l.sign d.leading := by
    unfold Layout.sign
    split
    · decide
    · split <;> decide
  unfold withExponent
  simp only [List.mem_append, List.mem_cons, not_or]
  exact ⟨⟨⟨mt List.mem_of_mem_take digits, fraction⟩, by decide, sign⟩, newline_not_mem_pad _ power⟩

theorem isLine_write {l : Layout} (nan : IsLine l.nan) (infinity : IsLine l.infinity)
    (x : Binary64) : IsLine (l.write x) := by
  have minus : IsLine (if x.negative then "-" else "") := by split <;> decide
  have decimal (m : Nat) (d : Decimal) : '\n' ∉ l.decimal m d := by
    unfold Layout.decimal
    split
    · exact newline_not_mem_inFull d
    · exact newline_not_mem_withExponent l d
  unfold write
  simp only
  split
  · exact nan
  split
  · exact (isLine_append ..).mpr ⟨minus, (isLine_ofList _).mpr (decimal _ _)⟩
  · exact (isLine_append ..).mpr ⟨minus, infinity⟩

end Layout

namespace Value

/-- Laying a text out anew adds no line break. -/
theorem newline_not_mem_relaid {cs : List Char} (line : '\n' ∉ cs) : '\n' ∉ relaid cs := by
  unfold relaid
  dsimp only
  split
  · exact line
  · rename_i power _
    have mantissa : '\n' ∉ cs.takeWhile (· != 'e') := mt (List.takeWhile_subset _ ·) line
    have digits := Layout.newline_not_mem_pad 2
      (newline_not_mem_toDigits (b := 10) (by decide) (by decide) ((exponent? power).getD 0).natAbs)
    simp only [List.mem_append, List.mem_cons, not_or]
    refine ⟨⟨mantissa, ?_⟩, by decide, ?_, digits⟩
    · split <;> decide
    · split <;> decide

theorem isLine_renderFloat (x : Binary64) : IsLine (renderFloat x) := by
  have minus : IsLine (if x.negative then "-" else "") := by split <;> decide
  have scientific : '\n' ∉ dumpLayout.scientific x := by
    unfold Layout.scientific
    rw [List.mem_append, not_or]
    refine ⟨?_, Layout.newline_not_mem_withExponent _ _⟩
    split <;> decide
  unfold renderFloat
  split
  · decide
  split
  · split
    · exact Layout.isLine_write (by decide) (by decide) x
    · exact (isLine_ofList _).mpr (newline_not_mem_relaid scientific)
  · exact (isLine_append ..).mpr ⟨minus, by decide⟩

theorem isLine_renderBool (b : Bool) : IsLine (renderBool b) := by
  cases b <;> decide

mutual

theorem isLine_render : ∀ v : Value, v.IsNative → IsLine v.render
  | .nil, _ => by decide
  | .bool b, _ => by
    unfold render
    exact isLine_renderBool b
  | .int n, _ => by
    unfold render
    exact isLine_numeral n.toInt
  | .float x, _ => by
    unfold render
    exact isLine_renderFloat x
  | .str s, _ => by
    unfold render
    exact isLine_quote s
  | .sym s, native => by simp [IsNative] at native
  | .array vs, native => by
    unfold IsNative at native
    have items := isLine_intercalate ", " (by decide) (isLine_renderItems vs native)
    simp only [render, isLine_append]
    exact ⟨⟨by decide, items⟩, by decide⟩
  | .hash es, native => by
    unfold IsNative at native
    have entries := isLine_intercalate ", " (by decide) (isLine_renderEntries es native)
    simp only [render, isLine_append]
    exact ⟨⟨by decide, entries⟩, by decide⟩
  | .object .., native => by simp [IsNative] at native

theorem isLine_renderItems : ∀ vs : List Value, NativeItems vs → ∀ s ∈ renderItems vs, IsLine s
  | [], _ => by simp [renderItems]
  | v :: vs, native => by
    unfold NativeItems at native
    simp only [renderItems, List.forall_mem_cons]
    exact ⟨isLine_render v native.1, isLine_renderItems vs native.2⟩

theorem isLine_renderEntries : ∀ es : List (Value × Value), NativeEntries es →
    ∀ s ∈ renderEntries es, IsLine s
  | [], _ => by simp [renderEntries]
  | (k, v) :: es, native => by
    unfold NativeEntries at native
    obtain ⟨⟨s, rfl⟩, value⟩ := native.1
    simp only [renderEntries, List.forall_mem_cons]
    constructor
    · simp only [render, isLine_append]
      exact ⟨⟨isLine_quote s, by decide⟩, isLine_render v value⟩
    · exact isLine_renderEntries es native.2

end

end Value

namespace Primitive

theorem newline_not_mem_of_isNameRest {cs : List Char} {fresh : Bool}
    (rest : isNameRest fresh cs = true) : '\n' ∉ cs := by
  intro within
  rcases isNameChar_or_eq_colon rest _ within with name | colon
  · exact absurd name (by decide)
  · exact absurd colon (by decide)

theorem isLine_name (p : Primitive) : IsLine p.name := by
  cases p with
  | builtin b => cases b <;> decide
  | ofClass c =>
    have valid := c.valid
    simp only [isClassName, Bool.and_eq_true] at valid
    exact newline_not_mem_of_isNameRest valid.1.2

end Primitive

end ValueTypes
