import Mathlib
import ValueTypes.Decimal
import ValueTypes.Proofs.Rounding

/-!
Finite floats and decimals as rational numbers. Magnitudes run with the numbers they stand for, so a
bound on numbers is one on magnitudes. The shortest decimal of a magnitude has its first digit at the
power of ten that the magnitude has, or one above where it is rounded up to the next power.
-/
namespace ValueTypes

namespace Binary64

theorem units_of_lt {m : Nat} (small : m < binade) : units m = m := by
  have low : scale m = 0 := by rw [scale, Nat.div_eq_of_lt small]
  rw [units, low, significand, if_pos small]
  exact Nat.mul_one m

theorem units_of_normal (k : Nat) {r : Nat} (below : r < binade) :
    units ((k + 1) * binade + r) = (binade + r) * 2 ^ k := by
  have pos : 0 < binade := Nat.zero_lt_of_lt below
  have place : ((k + 1) * binade + r) / binade = k + 1 := by
    rw [Nat.mul_comm, Nat.mul_add_div pos, Nat.div_eq_of_lt below, Nat.add_zero]
  have rest : ((k + 1) * binade + r) % binade = r := by
    rw [Nat.mul_comm, Nat.mul_add_mod, Nat.mod_eq_of_lt below]
  have large : ¬(k + 1) * binade + r < binade := by
    rw [← Nat.div_eq_zero_iff_lt pos, place]
    exact Nat.succ_ne_zero k
  rw [units, scale, significand, place, rest, if_neg large]
  rfl

theorem units_lt_units_succ (m : Nat) : units m < units (m + 1) := by
  by_cases small : m < binade
  · rw [units_of_lt small]
    by_cases next : m + 1 < binade
    · rw [units_of_lt next]
      exact Nat.lt_succ_self m
    · have first : m + 1 = (0 + 1) * binade + 0 := by omega
      rw [first, units_of_normal 0 (by decide)]
      omega
  · obtain ⟨k, hk⟩ : ∃ k, m / binade = k + 1 :=
      Nat.exists_eq_succ_of_ne_zero (mt (Nat.div_eq_zero_iff_lt (by decide)).mp small)
    have below : m % binade < binade := Nat.mod_lt m (by decide)
    have split : m = (k + 1) * binade + m % binade := by
      rw [← hk, Nat.mul_comm]
      exact (Nat.div_add_mod m binade).symm
    have pos : 0 < 2 ^ k := Nat.two_pow_pos k
    generalize m % binade = r at below split
    subst split
    rw [units_of_normal k below]
    by_cases next : r + 1 < binade
    · rw [Nat.add_assoc, units_of_normal k next]
      exact Nat.mul_lt_mul_of_pos_right (Nat.lt_succ_self _) pos
    · -- The last of one exponent, and the first of the next.
      have first : (k + 1) * binade + r + 1 = (k + 1 + 1) * binade + 0 := by
        rw [Nat.succ_mul (k + 1)]
        omega
      rw [first, units_of_normal (k + 1) (by decide), pow_succ]
      nlinarith

theorem units_strictMono : StrictMono units := strictMono_nat_of_lt_succ units_lt_units_succ

theorem unitsInOne_pos : 0 < unitsInOne := by
  obtain ⟨b, -, power⟩ := unitsInOne_eq
  exact power ▸ Nat.two_pow_pos b

theorem tenTo_pos (e : Int) : 0 < tenTo e := Nat.pow_pos (by decide)

theorem cast_tenTo {e : Int} (nonneg : 0 ≤ e) : (tenTo e : ℚ) = 10 ^ e := by
  obtain ⟨n, rfl⟩ := Int.eq_ofNat_of_zero_le nonneg
  exact (Nat.cast_pow 10 n).trans (zpow_natCast (10 : ℚ) n).symm

/-- A power of ten is a quotient of two whole ones, of which one is 1. -/
theorem tenTo_div_tenTo (e : Int) : (tenTo e : ℚ) / tenTo (-e) = 10 ^ e := by
  have one {f : Int} (low : f ≤ 0) : (tenTo f : ℚ) = 1 := by
    rw [tenTo, Int.toNat_of_nonpos low]
    exact Nat.cast_one
  rcases le_total 0 e with nonneg | nonpos
  · rw [cast_tenTo nonneg, one (neg_nonpos.mpr nonneg), div_one]
  · rw [one nonpos, cast_tenTo (neg_nonneg.mpr nonpos), zpow_neg, one_div, inv_inv]

def sign (negative : Bool) : ℚ := if negative then -1 else 1

/-- The number that a finite magnitude stands for. -/
def ratOf (m : Nat) : ℚ := units m / unitsInOne

theorem ratOf_lt_ratOf_iff {m n : Nat} : ratOf m < ratOf n ↔ m < n := by
  have pos : (0 : ℚ) < unitsInOne := Nat.cast_pos.mpr unitsInOne_pos
  rw [ratOf, ratOf, div_lt_div_iff_of_pos_right pos, Nat.cast_lt, units_strictMono.lt_iff_lt]

theorem ratOf_zero : ratOf 0 = 0 := by
  have nothing : units 0 = 0 := rfl
  rw [ratOf, nothing, Nat.cast_zero, zero_div]

/-- Sizes in units and powers of ten are compared as whole numbers. -/
theorem zpow_le_ratOf_iff (e : Int) (m : Nat) :
    (10 : ℚ) ^ e ≤ ratOf m ↔ tenTo e * unitsInOne ≤ units m * tenTo (-e) := by
  have one : (0 : ℚ) < unitsInOne := Nat.cast_pos.mpr unitsInOne_pos
  have ten : (0 : ℚ) < tenTo (-e) := Nat.cast_pos.mpr (tenTo_pos (-e))
  rw [← tenTo_div_tenTo, ratOf, div_le_div_iff₀ ten one]
  exact_mod_cast Iff.rfl

/-- No finite magnitude but zero is beyond these powers of ten. -/
theorem ratOf_bounds {m : Nat} (pos : 0 < m) (finite : m < infinity) :
    (10 : ℚ) ^ (-324 : ℤ) ≤ ratOf m ∧ ratOf m < 10 ^ (309 : ℤ) := by
  have least : (10 : ℚ) ^ (-324 : ℤ) ≤ ratOf 1 := (zpow_le_ratOf_iff _ _).mpr (by decide +kernel)
  have largest : ratOf infinity < 10 ^ (309 : ℤ) := by
    rw [← not_le, zpow_le_ratOf_iff]
    decide +kernel
  constructor
  · refine least.trans (not_lt.mp fun less => ?_)
    exact absurd (ratOf_lt_ratOf_iff.mp less) (by omega)
  · exact (ratOf_lt_ratOf_iff.mpr finite).trans largest

end Binary64

namespace Decimal

open Binary64

/-- The number that a decimal is. -/
def toRat (d : Decimal) : ℚ := d.coefficient * 10 ^ d.exponent

theorem zpow_pos_ten (e : ℤ) : (0 : ℚ) < 10 ^ e := zpow_pos (by norm_num) e

theorem length_toDigits_spec {n : Nat} (pos : 0 < n) :
    10 ^ ((Nat.toDigits 10 n).length - 1) ≤ n ∧ n < 10 ^ (Nat.toDigits 10 n).length := by
  have nonempty : 0 < (Nat.toDigits 10 n).length := Nat.length_toDigits_pos
  constructor
  · by_cases single : (Nat.toDigits 10 n).length = 1
    · rw [single]
      exact pos
    · have fewer : 0 < (Nat.toDigits 10 n).length - 1 := by omega
      have long := mt (Nat.length_toDigits_le_iff (n := n) (by decide : 1 < 10) fewer).mpr (by omega)
      exact Nat.not_lt.mp long
  · exact (Nat.length_toDigits_le_iff (by decide) nonempty).mp (Nat.le_refl _)

/-- The power of ten of the first digit is the greatest not above the number. -/
theorem leading_spec {d : Decimal} (nonzero : d.coefficient ≠ 0) :
    (10 : ℚ) ^ d.leading ≤ d.toRat ∧ d.toRat < 10 ^ (d.leading + 1) := by
  obtain ⟨low, high⟩ := length_toDigits_spec (Nat.pos_of_ne_zero nonzero)
  have nonempty : 0 < d.digits.length := Nat.length_toDigits_pos
  have split : d.leading = (d.digits.length - 1 : Nat) + d.exponent := by
    rw [leading]
    omega
  have next : d.leading + 1 = (d.digits.length : Nat) + d.exponent := by
    rw [leading]
    omega
  have ten : (10 : ℚ) ≠ 0 := by norm_num
  rw [next, split, toRat, zpow_add₀ ten, zpow_add₀ ten, zpow_natCast, zpow_natCast]
  constructor
  · refine mul_le_mul_of_nonneg_right ?_ (zpow_pos_ten _).le
    exact_mod_cast low
  · refine mul_lt_mul_of_pos_right ?_ (zpow_pos_ten _)
    exact_mod_cast high

theorem coefficient_ne_zero {d : Decimal} {a : ℤ} (low : (10 : ℚ) ^ a ≤ d.toRat) :
    d.coefficient ≠ 0 := by
  intro zero
  rw [toRat, zero, Nat.cast_zero, zero_mul] at low
  exact absurd (zpow_pos_ten a) (not_lt.mpr low)

theorem leading_bounds {d : Decimal} {a b : ℤ} (low : (10 : ℚ) ^ a ≤ d.toRat)
    (high : d.toRat ≤ 10 ^ b) : a ≤ d.leading ∧ d.leading ≤ b := by
  have base : (1 : ℚ) < 10 := by norm_num
  obtain ⟨first, next⟩ := leading_spec (coefficient_ne_zero low)
  have above := (zpow_lt_zpow_iff_right₀ base).mp (low.trans_lt next)
  have below := (zpow_le_zpow_iff_right₀ base).mp (first.trans high)
  omega

theorem toRat_dropZeros (n : Nat) (d : Decimal) : (dropZeros n d).toRat = d.toRat := by
  induction n generalizing d with
  | zero => rfl
  | succ n ih =>
    rw [dropZeros]
    split
    · rename_i last
      have tens : d.coefficient = d.coefficient / 10 * 10 := by omega
      rw [ih, toRat, toRat, zpow_add_one₀ (by norm_num), mul_comm ((10 : ℚ) ^ d.exponent) 10,
        ← mul_assoc]
      congr 1
      exact_mod_cast tens.symm
    · rfl

/-- How far a point of the grid reaches. -/
theorem le_below_iff (m k : Nat) (g : ℤ) :
    k ≤ (below (units m) g).coefficient ↔ (k : ℚ) * 10 ^ g ≤ ratOf m := by
  have one : (0 : ℚ) < unitsInOne := Nat.cast_pos.mpr unitsInOne_pos
  have ten : (0 : ℚ) < tenTo (-g) := Nat.cast_pos.mpr (tenTo_pos (-g))
  have pos : 0 < step g := Nat.mul_pos unitsInOne_pos (tenTo_pos g)
  rw [below, Nat.le_div_iff_mul_le pos, ← tenTo_div_tenTo, ratOf, ← mul_div_assoc,
    div_le_div_iff₀ ten one, step, mul_assoc, mul_comm (tenTo g : ℚ)]
  exact_mod_cast Iff.rfl

theorem zpow_mul_zpow (a b : ℤ) : (10 : ℚ) ^ a * 10 ^ b = 10 ^ (a + b) :=
  (zpow_add₀ (by norm_num) a b).symm

/-- On a grid `n` places below a power of ten that the magnitude reaches, it has `n + 1` digits. -/
theorem coefficient_below_bounds {m : Nat} {top : ℤ} (n : Nat) (low : (10 : ℚ) ^ top ≤ ratOf m)
    (high : ratOf m < 10 ^ (top + 1)) :
    10 ^ n ≤ (below (units m) (top - n)).coefficient ∧
      (below (units m) (top - n)).coefficient < 10 ^ (n + 1) := by
  rw [← Nat.not_le, le_below_iff, le_below_iff, Nat.cast_pow, Nat.cast_pow,
    ← zpow_natCast, ← zpow_natCast, Nat.cast_ofNat, zpow_mul_zpow, zpow_mul_zpow, not_le]
  have start : (n : ℤ) + (top - n) = top := by omega
  have stop : ((n + 1 : Nat) : ℤ) + (top - n) = top + 1 := by omega
  rw [start, stop]
  exact ⟨low, high⟩

/-- The power of ten of the first digit is the greatest not above the magnitude. -/
theorem firstPower_spec {m : Nat} (pos : 0 < m) (finite : m < infinity) :
    (10 : ℚ) ^ firstPower (units m) ≤ ratOf m ∧ ratOf m < 10 ^ (firstPower (units m) + 1) := by
  have fine : (10 : ℚ) ^ (-343 : ℤ) ≤ ratOf m :=
    (zpow_le_zpow_right₀ (by norm_num) (by decide)).trans (ratOf_bounds pos finite).1
  -- The digits that are counted are those of a point on a grid finer than any magnitude.
  have counted : firstPower (units m) =
      (Nat.toDigits 10 (below (units m) (-343)).coefficient).length - 344 := by
    have whole : tenTo (-343) = 1 := rfl
    rw [firstPower, below, step, whole, Nat.mul_one, neg_neg]
  have counts : 0 < (below (units m) (-343)).coefficient := by
    rw [Nat.lt_iff_add_one_le, le_below_iff]
    simpa using fine
  obtain ⟨low, high⟩ := length_toDigits_spec counts
  have long : 0 < (Nat.toDigits 10 (below (units m) (-343)).coefficient).length :=
    Nat.length_toDigits_pos
  rw [le_below_iff, Nat.cast_pow, ← zpow_natCast, Nat.cast_ofNat, zpow_mul_zpow] at low
  rw [← Nat.not_le, le_below_iff, Nat.cast_pow, ← zpow_natCast, Nat.cast_ofNat, zpow_mul_zpow,
    not_le] at high
  generalize (Nat.toDigits 10 (below (units m) (-343)).coefficient).length = count at *
  have first : ((count - 1 : Nat) : ℤ) + -343 = firstPower (units m) := by omega
  have next : (count : ℤ) + -343 = firstPower (units m) + 1 := by omega
  rw [first] at low
  rw [next] at high
  exact ⟨low, high⟩

theorem toRat_below_bounds {m : Nat} {top : ℤ} (n : Nat) (low : (10 : ℚ) ^ top ≤ ratOf m)
    (high : ratOf m < 10 ^ (top + 1)) {d : Decimal}
    (near : d = below (units m) (top - n) ∨ d = (below (units m) (top - n)).next) :
    (10 : ℚ) ^ top ≤ d.toRat ∧ d.toRat ≤ 10 ^ (top + 1) := by
  obtain ⟨least, most⟩ := coefficient_below_bounds n low high
  have place : d.exponent = top - n := by rcases near with rfl | rfl <;> rfl
  have range : 10 ^ n ≤ d.coefficient ∧ d.coefficient ≤ 10 ^ (n + 1) := by
    rcases near with rfl | rfl
    · exact ⟨least, most.le⟩
    · exact ⟨least.trans (Nat.le_succ _), most⟩
  have start : (10 : ℚ) ^ top = (10 ^ n : Nat) * 10 ^ (top - n) := by
    rw [Nat.cast_pow, ← zpow_natCast, Nat.cast_ofNat, zpow_mul_zpow, add_sub_cancel]
  have stop : (10 : ℚ) ^ (top + 1) = (10 ^ (n + 1) : Nat) * 10 ^ (top - n) := by
    rw [Nat.cast_pow, ← zpow_natCast, Nat.cast_ofNat, zpow_mul_zpow]
    congr 1
    omega
  rw [toRat, place, start, stop]
  have unit := (zpow_pos_ten (top - n)).le
  exact ⟨mul_le_mul_of_nonneg_right (Nat.cast_le.mpr range.1) unit,
    mul_le_mul_of_nonneg_right (Nat.cast_le.mpr range.2) unit⟩

theorem near_of_pick? {tie : Tie} {side : Ordering} {lo d : Decimal} {low high : Bool}
    (picked : pick? tie side lo low high = some d) : d = lo ∨ d = lo.next := by
  cases low with
  | false =>
    cases high with
    | false => cases picked
    | true => exact .inr (Option.some.inj picked).symm
  | true =>
    cases high with
    | false => exact .inl (Option.some.inj picked).symm
    | true =>
      cases side with
      | lt => exact .inl (Option.some.inj picked).symm
      | gt => exact .inr (Option.some.inj picked).symm
      | eq =>
        cases tie with
        | upward => exact .inr (Option.some.inj picked).symm
        | toEven =>
          have even : (if lo.coefficient % 2 = 0 then lo else lo.next) = d := Option.some.inj picked
          split at even
          · exact .inl even.symm
          · exact .inr even.symm

theorem near_of_onGrid? {tie : Tie} {m : Nat} {g : ℤ} {d : Decimal} (found : onGrid? tie m g = some d) :
    d = below (units m) g ∨ d = (below (units m) g).next := by
  unfold onGrid? at found
  exact near_of_pick? found

/-- The shortest decimal is a neighbour of the magnitude on one of the grids, without its last zeros. -/
theorem shortest_eq_dropZeros (tie : Tie) {m : Nat} (pos : 0 < m) :
    ∃ (n : Nat) (d : Decimal), shortest tie m = dropZeros 17 d ∧
      (d = below (units m) (firstPower (units m) - n) ∨
        d = (below (units m) (firstPower (units m) - n)).next) := by
  rw [shortest, if_neg (Nat.ne_of_gt pos)]
  extract_lets top found
  rcases outcome : found with _ | d
  · exact ⟨16, below (units m) (top - 16), rfl, .inl rfl⟩
  · obtain ⟨n, -, near⟩ := List.exists_of_findSome?_eq_some outcome
    exact ⟨n, d, rfl, near_of_onGrid? near⟩

theorem toRat_shortest_bounds (tie : Tie) {m : Nat} (pos : 0 < m) (finite : m < infinity) :
    (10 : ℚ) ^ firstPower (units m) ≤ (shortest tie m).toRat ∧
      (shortest tie m).toRat ≤ 10 ^ (firstPower (units m) + 1) := by
  obtain ⟨low, high⟩ := firstPower_spec pos finite
  obtain ⟨n, d, short, near⟩ := shortest_eq_dropZeros tie pos
  rw [short, toRat_dropZeros]
  exact toRat_below_bounds n low high near

theorem significant_shortest (tie : Tie) {m : Nat} (finite : m < infinity) :
    (shortest tie m).coefficient ≠ 0 ∨ (shortest tie m).exponent ≤ 0 := by
  rcases Nat.eq_zero_or_pos m with rfl | pos
  · exact .inr (by rw [shortest, if_pos rfl])
  · exact .inl (coefficient_ne_zero (toRat_shortest_bounds tie pos finite).1)

/-- Its first digit stands at a power of ten that fits in an exponent. -/
theorem leading_shortest_bounds (tie : Tie) {m : Nat} (finite : m < infinity) :
    -324 ≤ (shortest tie m).leading ∧ (shortest tie m).leading ≤ 309 := by
  rcases Nat.eq_zero_or_pos m with rfl | pos
  · rw [shortest, if_pos rfl]
    decide
  · obtain ⟨low, high⟩ := firstPower_spec pos finite
    obtain ⟨least, most⟩ := ratOf_bounds pos finite
    obtain ⟨above, below⟩ := toRat_shortest_bounds tie pos finite
    have base : (1 : ℚ) < 10 := by norm_num
    have reach := leading_bounds above below
    have start := (zpow_lt_zpow_iff_right₀ base).mp (least.trans_lt high)
    have stop := (zpow_lt_zpow_iff_right₀ base).mp (low.trans_lt most)
    omega

end Decimal
end ValueTypes
