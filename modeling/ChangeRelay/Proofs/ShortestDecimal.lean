import ChangeRelay.Number.Shortest
import ChangeRelay.Proofs.NearestBinary
import Mathlib.Tactic.Ring

/-!
The shortest decimal of a magnitude is read back as that magnitude. Whichever number of digits is
taken, the decimal is one of the numbers that the magnitude stands for, and any decimal of such a
number is read as the magnitude, however its digits and its power of ten are split.
-/
namespace ChangeRelay.Number

open Binary64 (Holds RoundsTo units unit unitsLimit unitsLimit_eq)

namespace Decimal

def value (decimal : Decimal) : ℚ := decimal.digits * 10 ^ decimal.exponent

end Decimal

theorem tenTo_spec (exponent : Int) :
    (tenTo exponent).2 ≠ 0 ∧ ((tenTo exponent).1 : ℚ) / (tenTo exponent).2 = 10 ^ exponent := by
  unfold tenTo
  split
  · rename_i up
    obtain ⟨n, rfl⟩ := Int.eq_ofNat_of_zero_le up
    constructor
    · exact one_ne_zero
    · simp
  · rename_i down
    obtain ⟨n, rfl⟩ := Int.exists_eq_neg_ofNat (le_of_not_ge down)
    constructor
    · exact pow_ne_zero _ (by norm_num)
    · simp

namespace Shortest

theorem units_pos {bits : Nat} (filled : bits ≠ 0) : 0 < units bits := by
  unfold units
  rw [unitsLimit_eq]
  split <;> omega

theorem interval_unit (power : Int) :
    ((if 0 ≤ power then Nat.pow 2 power.toNat else 1 : Nat) : ℚ) =
      2 ^ power * (if 0 ≤ power then 1 else Nat.pow 2 (-power).toNat : Nat) := by
  split
  · rename_i up
    obtain ⟨n, rfl⟩ := Int.eq_ofNat_of_zero_le up
    simp
  · rename_i down
    obtain ⟨n, rfl⟩ := Int.exists_eq_neg_ofNat (le_of_not_ge down)
    simp

theorem denominator_pos (bits : Nat) : 0 < (interval bits).denominator := by
  unfold interval
  dsimp only
  split
  · exact Nat.one_pos
  · exact Nat.pow_pos (by omega)

theorem interval_ends {bits : Nat} (filled : bits ≠ 0) :
    ((interval bits).low : ℚ) * 4 =
        (4 * units bits - (if units bits = unitsLimit ∧ 2 * unitsLimit ≤ bits then 1 else 2)) *
          2 ^ unit bits * (interval bits).denominator ∧
      ((interval bits).high : ℚ) * 4 =
        (4 * units bits + 2) * 2 ^ unit bits * (interval bits).denominator := by
  have some_ := units_pos filled
  have scale := interval_unit (unit bits - 2)
  have quarter : (2 : ℚ) ^ (unit bits - 2) * 4 = 2 ^ unit bits := by
    rw [zpow_sub₀ (by norm_num)]
    norm_num
  unfold interval
  dsimp only
  rw [← quarter]
  constructor
  · rw [Nat.cast_mul, scale, Nat.cast_sub (by split <;> omega)]
    split <;> push_cast <;> ring
  · rw [Nat.cast_mul, scale]
    push_cast
    ring

theorem value_scaled (decimal : Decimal) :
    decimal.value * (tenTo decimal.exponent).2 =
      decimal.digits * (tenTo decimal.exponent).1 := by
  obtain ⟨positive, ratio⟩ := tenTo_spec decimal.exponent
  have part : ((tenTo decimal.exponent).2 : ℚ) ≠ 0 := by exact_mod_cast positive
  rw [Decimal.value, ← ratio, mul_assoc, div_mul_cancel₀ _ part]

theorem bound_le_iff (decimal : Decimal) (bound denominator : Nat) :
    bound * (tenTo decimal.exponent).2 ≤
        decimal.digits * (tenTo decimal.exponent).1 * denominator ↔
      (bound : ℚ) ≤ decimal.value * denominator := by
  have part : (0 : ℚ) < (tenTo decimal.exponent).2 := by
    exact_mod_cast Nat.pos_of_ne_zero (tenTo_spec decimal.exponent).1
  rw [← mul_le_mul_iff_left₀ part, mul_right_comm decimal.value, value_scaled]
  exact_mod_cast Iff.rfl

theorem le_bound_iff (decimal : Decimal) (bound denominator : Nat) :
    decimal.digits * (tenTo decimal.exponent).1 * denominator ≤
        bound * (tenTo decimal.exponent).2 ↔
      decimal.value * denominator ≤ (bound : ℚ) := by
  have part : (0 : ℚ) < (tenTo decimal.exponent).2 := by
    exact_mod_cast Nat.pos_of_ne_zero (tenTo_spec decimal.exponent).1
  rw [← mul_le_mul_iff_left₀ part, mul_right_comm decimal.value, value_scaled]
  exact_mod_cast Iff.rfl

theorem holds_sound {bits : Nat} (filled : bits ≠ 0) {decimal : Decimal}
    (inside : (interval bits).holds decimal = true) : Holds bits decimal.value := by
  obtain ⟨low, high⟩ := interval_ends filled
  have positive : (0 : ℚ) < (interval bits).denominator := by
    exact_mod_cast denominator_pos bits
  have unitPositive : (0 : ℚ) < 2 ^ unit bits := by positivity
  have parity : (interval bits).closed = (units bits % 2 == 0) := rfl
  generalize interval bits = i at *
  have bounds : (i.low : ℚ) ≤ decimal.value * i.denominator ∧
      decimal.value * i.denominator ≤ (i.high : ℚ) ∧ (units bits % 2 = 1 →
        (i.low : ℚ) < decimal.value * i.denominator ∧
          decimal.value * i.denominator < (i.high : ℚ)) := by
    rw [← bound_le_iff, ← le_bound_iff, ← not_le, ← not_le, ← bound_le_iff, ← le_bound_iff]
    unfold Interval.holds at inside
    dsimp only at inside
    split at inside
    · rename_i even
      simp only [Bool.and_eq_true, decide_eq_true_eq] at inside
      rw [parity, beq_iff_eq] at even
      exact ⟨inside.1, inside.2, by omega⟩
    · simp only [Bool.and_eq_true, decide_eq_true_eq] at inside
      exact ⟨inside.1.le, inside.2.le, fun _ => ⟨by omega, by omega⟩⟩
  obtain ⟨above, below, strict⟩ := bounds
  have lowest : (4 * units bits - (if units bits = unitsLimit ∧ 2 * unitsLimit ≤ bits then 1
      else 2)) * 2 ^ unit bits ≤ 4 * decimal.value := by
    apply le_of_mul_le_mul_right _ positive
    linarith
  constructor
  · constructor
    · split at lowest <;> linarith
    · apply le_of_mul_le_mul_right _ positive
      linarith
    · intro odd
      obtain ⟨above, below⟩ := strict odd
      have inner : ¬(units bits = unitsLimit ∧ 2 * unitsLimit ≤ bits) := by
        rintro ⟨same, -⟩
        rw [same] at odd
        cases odd
      rw [if_neg inner] at low
      constructor
      · apply lt_of_mul_lt_mul_right _ positive.le
        linarith
      · apply lt_of_mul_lt_mul_right _ positive.le
        linarith
  · intro count many
    rw [if_pos ⟨count, many⟩] at lowest
    exact lowest

theorem exact_value (bits : Nat) : (exact bits).value = units bits * 2 ^ unit bits := by
  unfold exact Decimal.value
  dsimp only
  split
  · rename_i up
    obtain ⟨n, same⟩ := Int.eq_ofNat_of_zero_le up
    simp [same]
  · rename_i down
    obtain ⟨n, power⟩ := Int.exists_eq_neg_ofNat (le_of_not_ge down)
    have ten : (10 : ℚ) = 2 * 5 := by norm_num
    have five : (5 : ℚ) ^ n ≠ 0 := by positivity
    simp only [power, neg_neg, Int.toNat_natCast, Nat.pow_eq, Nat.cast_mul, Nat.cast_pow,
      Nat.cast_ofNat, zpow_neg, zpow_natCast]
    rw [ten, mul_pow, mul_inv, mul_assoc, mul_comm ((2 ^ n : ℚ)⁻¹), mul_inv_cancel_left₀ five]

theorem exact_holds (bits : Nat) : Holds bits (exact bits).value := by
  have size : (0 : ℚ) < 2 ^ unit bits := by positivity
  rw [exact_value]
  constructor
  · constructor
    · nlinarith
    · nlinarith
    · intro odd
      constructor <;> nlinarith
  · intro count many
    nlinarith

theorem withDigits_holds {i : Interval} {position : Int} {count : Nat} {decimal : Decimal}
    (found : withDigits? i position count = some decimal) : i.holds decimal = true := by
  unfold withDigits? at found
  dsimp only at found
  split at found
  · cases found
  · rename_i lower upper
    cases found
    exact lower
  · rename_i lower upper
    cases found
    exact upper
  · rename_i lower upper
    split at found
    · cases found
      exact lower
    · split at found
      · cases found
        exact upper
      · split at found
        · cases found
          exact lower
        · cases found
          exact upper

theorem withoutFinalZeros_value (fuel : Nat) (decimal : Decimal) :
    (withoutFinalZeros fuel decimal).value = decimal.value := by
  induction fuel generalizing decimal with
  | zero => rfl
  | succ fuel ih =>
    unfold withoutFinalZeros
    split
    · rename_i zero
      rw [ih]
      have whole : 10 * (decimal.digits / 10) = decimal.digits := by omega
      have same : (decimal.digits : ℚ) = 10 * (decimal.digits / 10 : Nat) := by
        exact_mod_cast whole.symm
      unfold Decimal.value
      rw [same, zpow_add_one₀ (by norm_num)]
      ring
    · rfl

end Shortest

/-- Whatever decimal is taken, the magnitude stands for it. -/
theorem shortest_holds {bits : Nat} (filled : bits ≠ 0) : Holds bits (shortest bits).value := by
  unfold shortest
  dsimp only
  rw [Shortest.withoutFinalZeros_value]
  cases found : (List.range 17).findSome? fun n =>
      Shortest.withDigits? (Shortest.interval bits)
        (Shortest.pointPosition (Shortest.interval bits).middle
          (Shortest.interval bits).denominator) (n + 1) with
  | none => exact Shortest.exact_holds bits
  | some decimal =>
    obtain ⟨count, -, taken⟩ := List.exists_of_findSome?_eq_some found
    exact Shortest.holds_sound filled (Shortest.withDigits_holds taken)

namespace Binary64

theorem holds_pos {bits : Nat} (filled : bits ≠ 0) {number : ℚ} (holds : Holds bits number) :
    2 ^ (-1075 : Int) ≤ number := by
  have low := holds.rounds.low
  have some_ : (1 : ℚ) ≤ units bits := by exact_mod_cast Shortest.units_pos filled
  have least : (2 : ℚ) ^ (-1074 : Int) ≤ 2 ^ unit bits :=
    zpow_le_zpow_right₀ (by norm_num) (unit_ge bits)
  have half : (2 : ℚ) ^ (-1074 : Int) = 2 * 2 ^ (-1075 : Int) := by
    rw [← zpow_one_add₀ (by norm_num)]
    rfl
  have one : 2 ^ unit bits ≤ (2 * (units bits : ℚ) - 1) * 2 ^ unit bits := by
    apply le_mul_of_one_le_left
    · positivity
    · linarith
  rw [half] at least
  generalize (2 : ℚ) ^ (-1075 : Int) = smallest at least ⊢
  linarith

theorem digits_ne_zero {bits : Nat} (filled : bits ≠ 0) {decimal : Decimal}
    (holds : Holds bits decimal.value) : decimal.digits ≠ 0 := by
  intro zero
  have low := holds_pos filled holds
  have smallest : (0 : ℚ) < 2 ^ (-1075 : Int) := by positivity
  rw [Decimal.value, zero, Nat.cast_zero, zero_mul] at low
  exact absurd smallest (not_lt.mpr low)

theorem holds_finite {bits : Nat} (small : bits < magnitudes) {number : ℚ}
    (holds : Holds bits number) : number < 2 ^ (1024 : Int) := by
  have most : unit bits ≤ 971 := by
    unfold unit
    unfold magnitudes at small
    rw [unitsLimit_eq]
    split <;> omega
  exact (holds_lt holds).trans_le (zpow_le_zpow_right₀ (by norm_num) (by omega))

theorem eight_le_ten {exponent : Int} (up : 0 ≤ exponent) :
    (2 : ℚ) ^ (3 * exponent) ≤ 10 ^ exponent := by
  obtain ⟨n, rfl⟩ := Int.eq_ofNat_of_zero_le up
  rw [zpow_mul, zpow_natCast, zpow_natCast]
  exact pow_le_pow_left₀ (by positivity) (by norm_num) n

theorem ten_le_eight {exponent : Int} (down : exponent ≤ 0) :
    (10 : ℚ) ^ exponent ≤ 2 ^ (3 * exponent) := by
  have up : 0 ≤ -exponent := by omega
  have flipped := eight_le_ten up
  rw [mul_neg, zpow_neg, zpow_neg] at flipped
  exact (inv_le_inv₀ (by positivity) (by positivity)).mp flipped

theorem ofDecimal_eq {bits : Nat} (filled : bits ≠ 0) (small : bits < magnitudes) (negative : Bool)
    {digits : Nat} {exponent : Int} (holds : Holds bits (Decimal.value ⟨digits, exponent⟩)) :
    ofDecimal negative digits exponent = .finite negative ⟨bits, small⟩ := by
  have low := holds_pos filled holds
  have high := holds_finite small holds
  obtain ⟨positive, ratio⟩ := tenTo_spec exponent
  have some_ : digits ≠ 0 := digits_ne_zero filled holds
  have one : (1 : ℚ) ≤ digits := by exact_mod_cast Nat.pos_of_ne_zero some_
  have atMost : ¬400 < exponent := by
    intro large
    have up : 0 ≤ exponent := by omega
    have power := eight_le_ten up
    have whole : (10 : ℚ) ^ exponent ≤ Decimal.value ⟨digits, exponent⟩ :=
      le_mul_of_one_le_left (by positivity) one
    have short := (zpow_lt_zpow_iff_right₀ (by norm_num)).mp
      ((power.trans whole).trans_lt high)
    omega
  have atLeast : ¬exponent + digits.log2 < -400 := by
    intro small
    have down : exponent ≤ 0 := by omega
    have power := ten_le_eight down
    have few : (digits : ℚ) ≤ 2 ^ (digits.log2 + 1 : Int) := by
      exact_mod_cast Nat.lt_log2_self.le
    have product : Decimal.value ⟨digits, exponent⟩ ≤
        2 ^ (digits.log2 + 1 : Int) * 2 ^ (3 * exponent) :=
      mul_le_mul few power (by positivity) (by positivity)
    rw [← zpow_add₀ (by norm_num)] at product
    have long := (zpow_le_zpow_iff_right₀ (by norm_num)).mp (low.trans product)
    omega
  unfold ofDecimal
  rw [if_neg some_, if_neg atMost, if_neg atLeast]
  have nearest : nearestBits (digits * (tenTo exponent).1) (tenTo exponent).2 = bits := by
    have scaled : (tenTo exponent).1 ≠ 0 := by
      intro zero
      rw [zero, Nat.cast_zero, zero_div] at ratio
      have power : (0 : ℚ) < 10 ^ exponent := by positivity
      linarith
    apply nearestBits_eq (Nat.mul_ne_zero some_ scaled) positive
    rw [Nat.cast_mul, mul_div_assoc, ratio]
    exact holds
  dsimp only
  rw [nearest, ofBits, dif_pos small]

end Binary64
end ChangeRelay.Number
