import ValueTypes.Binary64

/-!
The total order of floats, read off their bits. Taken as a signed word, in which the bits below the
sign are turned over where the sign is set, the bits of a float are its position in the order.
-/
namespace ValueTypes.Binary64

def signedKey (x : Binary64) : Int64 :=
  let w := x.bits.toInt64
  w ^^^ ((w >>> 63).toUInt64 >>> 1).toInt64

/-- All bits but the sign. -/
def lowBits : BitVec 64 := BitVec.allOnes 64 >>> 1

theorem getElem_lowBits (i : Nat) (hi : i < 64) : lowBits[i] = decide (i < 63) := by
  have place : 1 + i < 64 ↔ i < 63 := by omega
  rw [lowBits, BitVec.getElem_ushiftRight, BitVec.getLsbD_allOnes]
  exact decide_eq_decide.mpr place

theorem toNat_and_lowBits (b : BitVec 64) : (b &&& lowBits).toNat = b.toNat % 0x8000000000000000 := by
  rw [BitVec.toNat_and]
  exact Nat.and_two_pow_sub_one_eq_mod b.toNat 63

/- The sign spread over the word, and shifted out of its own place. -/
theorem getElem_spread (b : BitVec 64) (i : Nat) (hi : i < 64) :
    (b.sshiftRight 63 >>> 1)[i] = (b.msb && decide (i < 63)) := by
  rw [BitVec.getElem_ushiftRight, BitVec.getLsbD_sshiftRight, BitVec.msb_eq_getLsbD_last]
  by_cases below : i < 63
  · have inside : ¬64 ≤ 1 + i := by omega
    have beyond : ¬63 + (1 + i) < 64 := by omega
    simp [below, inside, beyond]
  · have outside : 64 ≤ 1 + i := by omega
    simp [below, outside]

theorem xor_spread (b : BitVec 64) :
    b ^^^ (b.sshiftRight 63 >>> 1) = if b.msb = true then ~~~(b &&& lowBits) else b := by
  ext i hi
  rw [BitVec.getElem_xor, getElem_spread]
  cases sign : b.msb with
  | false => simp
  | true =>
    rw [if_pos rfl, BitVec.getElem_not, BitVec.getElem_and, getElem_lowBits]
    by_cases below : i < 63
    · simp [below]
    · obtain rfl : i = 63 := by omega
      have top : b[63] = true := by
        rw [BitVec.msb_eq_getLsbD_last] at sign
        exact sign
      simp [top]

theorem msb_bits (x : Binary64) : x.bits.toBitVec.msb = x.negative :=
  BitVec.msb_eq_decide _

theorem toBitVec_signedKey (x : Binary64) :
    x.signedKey.toBitVec = if x.negative = true then ~~~(x.bits.toBitVec &&& lowBits)
      else x.bits.toBitVec := by
  rw [← msb_bits, ← xor_spread]
  simp [signedKey]

theorem position_eq_signedKey (x : Binary64) : x.position = x.signedKey.toInt := by
  have key := congrArg BitVec.toInt (toBitVec_signedKey x)
  rw [Int64.toInt_toBitVec] at key
  have bits : x.bits.toBitVec.toNat = x.bits.toNat := rfl
  have wide := x.bits.toNat_lt
  rw [key, position]
  cases sign : x.negative with
  | true =>
    -- The word is -1 less the magnitude, which is what is left of the bits without the sign.
    have low := toNat_and_lowBits x.bits.toBitVec
    rw [if_pos rfl, if_pos rfl, BitVec.toInt_eq_toNat_cond, BitVec.toNat_not, low, bits, magnitude,
      signWeight]
    omega
  | false =>
    have above : ¬signWeight ≤ x.bits.toNat := of_decide_eq_false sign
    rw [if_neg Bool.false_ne_true, if_neg Bool.false_ne_true, BitVec.toInt_eq_toNat_cond, bits,
      magnitude]
    simp only [signWeight] at above ⊢
    omega

theorem cmp_eq_compare_signedKey (x y : Binary64) :
    x.cmp y = compare x.signedKey.toInt y.signedKey.toInt := by
  rw [cmp, position_eq_signedKey, position_eq_signedKey]

end ValueTypes.Binary64
