import ValueTypes.Binary64

namespace ValueTypes.Binary64

theorem magnitude_ofMagnitude {m : Nat} (h : m < signWeight) : (ofMagnitude false m).magnitude = m := by
  have wide : m < 2 ^ 64 := Nat.lt_trans h (by decide)
  simp only [magnitude, ofMagnitude, Bool.false_eq_true, if_false, UInt64.toNat_ofNat',
    Nat.mod_eq_of_lt wide, Nat.mod_eq_of_lt h]

theorem isFinite_ofMagnitude {m : Nat} (h : m < infinity) : (ofMagnitude false m).isFinite = true := by
  rw [isFinite, magnitude_ofMagnitude (Nat.lt_trans h (by decide))]
  exact decide_eq_true h

theorem roundHalfEven_le (num den : Nat) : roundHalfEven num den ≤ num / den + 1 := by
  simp only [roundHalfEven]
  split
  · exact Nat.le_succ _
  · split <;> omega

/-- Scaled down by its exponent, a quotient keeps at most 53 bits. -/
theorem quotient_lt (q : Nat) : q / Nat.pow 2 (q.log2 - 52) < 2 * binade := by
  have bits : q < 2 ^ (53 + (q.log2 - 52)) :=
    Nat.lt_of_lt_of_le Nat.lt_log2_self (Nat.pow_le_pow_right (by decide) (by omega))
  rw [Nat.pow_add] at bits
  exact (Nat.div_lt_iff_lt_mul (Nat.two_pow_pos _)).mpr bits

theorem nearest_lt_infinity {num den : Nat} (h : (num / den).log2 < 2097) :
    nearest num den < infinity := by
  have scaled : num / (den * Nat.pow 2 ((num / den).log2 - 52)) < 2 * binade := by
    rw [← Nat.div_div_eq_div_mul]
    exact quotient_lt (num / den)
  have rounded := roundHalfEven_le num (den * Nat.pow 2 ((num / den).log2 - 52))
  simp only [nearest, infinity, binade] at scaled ⊢
  generalize roundHalfEven num _ = r at rounded ⊢
  omega

theorem log2_mul_two_pow_lt {n a : Nat} (zero : n ≠ 0) (h : n < Nat.pow 2 a) (b : Nat) :
    (n * Nat.pow 2 b).log2 < a + b := by
  have pos : 0 < Nat.pow 2 b := Nat.two_pow_pos b
  have scaled : n * Nat.pow 2 b < 2 ^ (a + b) := by
    rw [Nat.pow_add]
    exact Nat.mul_lt_mul_of_pos_right h pos
  exact (Nat.log2_lt (Nat.mul_ne_zero zero (Nat.ne_of_gt pos))).mpr scaled

theorem unitsInOne_eq : ∃ b, b < 2000 ∧ unitsInOne = Nat.pow 2 b := by
  refine ⟨1074, by decide, ?_⟩
  unfold unitsInOne
  rfl

theorem ofNat_lt_infinity {n : Nat} (h : n < 0x10000000000000000) : ofNat n < infinity := by
  obtain ⟨b, hb, units⟩ := unitsInOne_eq
  refine nearest_lt_infinity ?_
  rw [Nat.div_one, units]
  by_cases zero : n = 0
  · rw [zero, Nat.zero_mul]
    decide
  · have wide : n < Nat.pow 2 64 := h
    have bits := log2_mul_two_pow_lt zero wide b
    omega

end ValueTypes.Binary64
