import ChangeRelay.Number.Binary64
import Mathlib.Algebra.Order.Field.Power
import Mathlib.Data.Rat.Cast.Order
import Mathlib.Tactic.Linarith
import Mathlib.Tactic.Positivity

/-!
Which magnitude is nearest to a quotient. A magnitude with so many units of a power of two is the
nearest one to every number within half a unit of it, and within a quarter of a unit below it where
the next smaller unit begins; on the edge an even count of units wins.
-/
namespace ChangeRelay.Number.Binary64

theorem unitsLimit_eq : unitsLimit = 4503599627370496 := rfl

theorem unit_ge (bits : Nat) : -1074 ≤ unit bits := by
  unfold unit
  have limit := unitsLimit_eq
  split
  · omega
  · have one : 1 ≤ bits / unitsLimit := (Nat.one_le_div_iff (by omega)).mpr (by omega)
    omega

theorem units_lt (bits : Nat) : units bits < 2 * unitsLimit := by
  unfold units
  rw [unitsLimit_eq]
  split <;> omega

theorem bits_eq (bits : Nat) : (bits : Int) = (unit bits + 1074) * unitsLimit + units bits := by
  unfold unit units
  have limit := unitsLimit_eq
  split
  · omega
  · rw [limit]
    omega

theorem unit_of_few {bits : Nat} (few : units bits < unitsLimit) : unit bits = -1074 := by
  unfold units at few
  unfold unit
  split at few
  · simp [*]
  · omega

theorem roundedQuotient_eq {numerator denominator count : Nat} (positive : 0 < denominator)
    (low : 2 * count * denominator ≤ 2 * numerator + denominator)
    (high : 2 * numerator ≤ 2 * count * denominator + denominator)
    (strict : count % 2 = 1 → 2 * count * denominator < 2 * numerator + denominator ∧
      2 * numerator < 2 * count * denominator + denominator) :
    roundedQuotient numerator denominator = count := by
  have whole := Nat.div_add_mod numerator denominator
  have rest := Nat.mod_lt numerator positive
  unfold roundedQuotient
  generalize numerator / denominator = quotient at whole
  generalize numerator % denominator = remainder at whole rest
  have near : count = quotient ∨ count = quotient + 1 := by
    have atLeast : quotient ≤ count := by
      by_contra below
      have step : (count + 1) * denominator ≤ quotient * denominator :=
        Nat.mul_le_mul_right _ (by omega)
      nlinarith
    have atMost : count ≤ quotient + 1 := by
      by_contra above
      have step : (quotient + 2) * denominator ≤ count * denominator :=
        Nat.mul_le_mul_right _ (by omega)
      nlinarith
    omega
  subst whole
  dsimp only
  rcases near with same | next
  · subst same
    have upper : 2 * remainder ≤ denominator := by nlinarith
    split
    · rfl
    · have tie : 2 * remainder = denominator := by omega
      have even : count % 2 ≠ 1 := by
        intro odd
        have := (strict odd).2
        nlinarith
      split <;> omega
  · subst next
    have lower : denominator ≤ 2 * remainder := by nlinarith
    split
    · omega
    · split
      · rfl
      · have tie : 2 * remainder = denominator := by omega
        have even : (quotient + 1) % 2 ≠ 1 := by
          intro odd
          have := (strict odd).1
          nlinarith
        omega

theorem cast_pow_two (n : Nat) : (Nat.pow 2 n : ℚ) = 2 ^ n := by simp

theorem scaled_le_iff (numerator denominator : Nat) (power : Int) :
    (if 0 ≤ power then denominator * Nat.pow 2 power.toNat ≤ numerator
      else denominator ≤ numerator * Nat.pow 2 (-power).toNat) ↔
      (denominator : ℚ) * 2 ^ power ≤ numerator := by
  split
  · rename_i positive
    obtain ⟨n, rfl⟩ := Int.eq_ofNat_of_zero_le positive
    rw [Int.toNat_natCast, zpow_natCast, ← Nat.cast_le (α := ℚ)]
    push_cast
    rw [cast_pow_two]
  · rename_i negative
    obtain ⟨n, rfl⟩ := Int.exists_eq_neg_ofNat (le_of_not_ge negative)
    rw [neg_neg, Int.toNat_natCast, zpow_neg, zpow_natCast, ← div_eq_mul_inv,
      div_le_iff₀ (by positivity), ← Nat.cast_le (α := ℚ)]
    push_cast
    rw [cast_pow_two]

theorem quotientLog2_spec {numerator denominator : Nat} (filled : numerator ≠ 0)
    (positive : denominator ≠ 0) :
    (2 : ℚ) ^ quotientLog2 numerator denominator ≤ (numerator : ℚ) / denominator ∧
      (numerator : ℚ) / denominator < 2 ^ (quotientLog2 numerator denominator + 1) := by
  have above : (0 : ℚ) < denominator := by exact_mod_cast Nat.pos_of_ne_zero positive
  have numeratorLow : (2 : ℚ) ^ numerator.log2 ≤ numerator := by
    exact_mod_cast Nat.log2_self_le filled
  have numeratorHigh : (numerator : ℚ) < 2 ^ (numerator.log2 + 1) := by
    exact_mod_cast Nat.lt_log2_self
  have denominatorLow : (2 : ℚ) ^ denominator.log2 ≤ denominator := by
    exact_mod_cast Nat.log2_self_le positive
  have denominatorHigh : (denominator : ℚ) < 2 ^ (denominator.log2 + 1) := by
    exact_mod_cast Nat.lt_log2_self
  have fits := scaled_le_iff numerator denominator (numerator.log2 - denominator.log2)
  have shift : (2 : ℚ) ^ (numerator.log2 - denominator.log2 : Int) * 2 ^ denominator.log2 =
      2 ^ numerator.log2 := by
    rw [← zpow_natCast, ← zpow_natCast, ← zpow_add₀ (by norm_num), sub_add_cancel]
  have ratio : (0 : ℚ) < 2 ^ (numerator.log2 - denominator.log2 : Int) := by positivity
  unfold quotientLog2
  dsimp only
  rw [le_div_iff₀ above, div_lt_iff₀ above]
  rw [pow_succ] at numeratorHigh denominatorHigh
  by_cases reaches : (denominator : ℚ) * 2 ^ (numerator.log2 - denominator.log2 : Int) ≤ numerator
  · rw [if_pos (fits.mpr reaches), zpow_add_one₀ (by norm_num)]
    constructor
    · linarith
    · nlinarith
  · rw [if_neg (fun holds => reaches (fits.mp holds)), sub_add_cancel, zpow_sub_one₀ (by norm_num)]
    constructor
    · nlinarith
    · linarith

theorem log2_lt_of_lt {numerator denominator : Nat} (filled : numerator ≠ 0)
    (positive : denominator ≠ 0) {power : Int}
    (below : (numerator : ℚ) / denominator < 2 ^ power) :
    quotientLog2 numerator denominator < power := by
  have low := (quotientLog2_spec filled positive).1
  exact (zpow_lt_zpow_iff_right₀ (by norm_num)).mp (low.trans_lt below)

theorem le_log2_of_le {numerator denominator : Nat} (filled : numerator ≠ 0)
    (positive : denominator ≠ 0) {power : Int}
    (above : (2 : ℚ) ^ power ≤ (numerator : ℚ) / denominator) :
    power ≤ quotientLog2 numerator denominator := by
  have high := (quotientLog2_spec filled positive).2
  exact Int.lt_add_one_iff.mp
    ((zpow_lt_zpow_iff_right₀ (a := (2 : ℚ)) (by norm_num)).mp (above.trans_lt high))

/-- A number within half a unit of a count of units, the edges included for an even count. -/
structure RoundsTo (number : ℚ) (power : Int) (count : Nat) : Prop where
  low : (2 * count - 1) * 2 ^ power ≤ 2 * number
  high : 2 * number ≤ (2 * count + 1) * 2 ^ power
  strict : count % 2 = 1 →
    (2 * count - 1) * 2 ^ power < 2 * number ∧ 2 * number < (2 * count + 1) * 2 ^ power

theorem roundedQuotient_of_roundsTo {numerator denominator count : Nat} (positive : denominator ≠ 0)
    (rounds : RoundsTo ((numerator : ℚ) / denominator) 0 count) :
    roundedQuotient numerator denominator = count := by
  have above : (0 : ℚ) < denominator := by exact_mod_cast Nat.pos_of_ne_zero positive
  have whole : (numerator : ℚ) / denominator * denominator = numerator :=
    div_mul_cancel₀ _ above.ne'
  obtain ⟨low, high, strict⟩ := rounds
  rw [zpow_zero, mul_one] at low high strict
  generalize (numerator : ℚ) / denominator = number at whole low high strict
  apply roundedQuotient_eq (Nat.pos_of_ne_zero positive)
  · rw [← Nat.cast_le (α := ℚ)]
    push_cast
    nlinarith
  · rw [← Nat.cast_le (α := ℚ)]
    push_cast
    nlinarith
  · intro odd
    obtain ⟨low, high⟩ := strict odd
    rw [← Nat.cast_lt (α := ℚ), ← Nat.cast_lt (α := ℚ)]
    push_cast
    constructor <;> nlinarith

theorem RoundsTo.scale {number : ℚ} {power : Int} {count : Nat}
    (rounds : RoundsTo number power count) : RoundsTo (number / 2 ^ power) 0 count := by
  have unit : (0 : ℚ) < 2 ^ power := by positivity
  obtain ⟨low, high, strict⟩ := rounds
  constructor
  · rw [zpow_zero, mul_one, mul_div_assoc', le_div_iff₀ unit]
    exact low
  · rw [zpow_zero, mul_one, mul_div_assoc', div_le_iff₀ unit]
    exact high
  · intro odd
    rw [zpow_zero, mul_one, mul_one, mul_div_assoc', lt_div_iff₀ unit, div_lt_iff₀ unit]
    exact strict odd

theorem rounded_units {numerator denominator count : Nat} {power : Int} (positive : denominator ≠ 0)
    (rounds : RoundsTo ((numerator : ℚ) / denominator) power count) :
    (if 0 ≤ power then roundedQuotient numerator (denominator * Nat.pow 2 power.toNat)
      else roundedQuotient (numerator * Nat.pow 2 (-power).toNat) denominator) = count := by
  have scaled := rounds.scale
  split
  · rename_i up
    obtain ⟨n, rfl⟩ := Int.eq_ofNat_of_zero_le up
    apply roundedQuotient_of_roundsTo
    · exact Nat.mul_ne_zero positive (pow_ne_zero n two_ne_zero)
    · rw [Int.toNat_natCast, Nat.cast_mul, cast_pow_two, ← div_div, ← zpow_natCast]
      exact scaled
  · rename_i down
    obtain ⟨n, rfl⟩ := Int.exists_eq_neg_ofNat (le_of_not_ge down)
    apply roundedQuotient_of_roundsTo positive
    rw [neg_neg, Int.toNat_natCast, Nat.cast_mul, cast_pow_two, mul_div_right_comm]
    rw [zpow_neg, zpow_natCast, div_inv_eq_mul] at scaled
    exact scaled

/-- The numbers that a magnitude stands for: half a unit to both sides, and less below where the
smaller unit begins. -/
structure Holds (bits : Nat) (number : ℚ) : Prop where
  rounds : RoundsTo number (unit bits) (units bits)
  edge : units bits = unitsLimit → 2 * unitsLimit ≤ bits →
    (4 * units bits - 1) * 2 ^ unit bits ≤ 4 * number

theorem nearestBits_of_power {numerator denominator count : Nat} {power : Int}
    (filled : numerator ≠ 0) (positive : denominator ≠ 0)
    (highest : max (-1074) (quotientLog2 numerator denominator - 52) = power)
    (rounds : RoundsTo ((numerator : ℚ) / denominator) power count) :
    nearestBits numerator denominator = (power + 1074).toNat * unitsLimit + count := by
  unfold nearestBits
  rw [if_neg filled]
  dsimp only
  rw [highest, rounded_units positive rounds]

theorem holds_lt {bits : Nat} {number : ℚ} (holds : Holds bits number) :
    number < 2 ^ (unit bits + 53) := by
  have few : (units bits : ℚ) + 1 ≤ 9007199254740992 := by
    have most := units_lt bits
    rw [unitsLimit_eq] at most
    exact_mod_cast most
  have size : (0 : ℚ) < 2 ^ unit bits := by positivity
  have high := holds.rounds.high
  rw [zpow_add₀ (by norm_num)]
  norm_num
  nlinarith

theorem units_of_low {bits : Nat} {number : ℚ} (holds : Holds bits number)
    (low : number < 2 ^ (unit bits + 52)) (above : unit bits ≠ -1074) :
    units bits = unitsLimit := by
  have size : (0 : ℚ) < 2 ^ unit bits := by positivity
  have least : unitsLimit ≤ units bits := by
    by_contra few
    exact above (unit_of_few (by omega))
  have most : units bits ≤ unitsLimit := by
    by_contra many
    have next : (4503599627370497 : ℚ) ≤ units bits := by
      rw [unitsLimit_eq] at many
      have step : 4503599627370497 ≤ units bits := by omega
      exact_mod_cast step
    have edge := holds.rounds.low
    rw [zpow_add₀ (by norm_num)] at low
    norm_num at low
    nlinarith
  omega

/-- The magnitude nearest to a number is the one that stands for it. -/
theorem nearestBits_eq {bits numerator denominator : Nat} (filled : numerator ≠ 0)
    (positive : denominator ≠ 0) (holds : Holds bits ((numerator : ℚ) / denominator)) :
    nearestBits numerator denominator = bits := by
  have whole := bits_eq bits
  have least := unit_ge bits
  have limit := unitsLimit_eq
  have below := log2_lt_of_lt filled positive (holds_lt holds)
  by_cases ordinary : (2 : ℚ) ^ (unit bits + 52) ≤ (numerator : ℚ) / denominator ∨
      unit bits = -1074
  · have power : max (-1074) (quotientLog2 numerator denominator - 52) = unit bits := by
      rcases ordinary with high | smallest
      · have reached := le_log2_of_le filled positive high
        omega
      · omega
    rw [nearestBits_of_power filled positive power holds.rounds]
    rw [limit] at whole ⊢
    omega
  · obtain ⟨low, above⟩ := not_or.mp ordinary
    rw [not_le] at low
    have count := units_of_low holds low above
    have many : 2 * unitsLimit ≤ bits := by
      rw [count, limit] at whole
      rw [limit]
      omega
    have edge := holds.edge count many
    have size : (0 : ℚ) < 2 ^ unit bits := by positivity
    have reached : unit bits + 51 ≤ quotientLog2 numerator denominator := by
      apply le_log2_of_le filled positive
      rw [zpow_add₀ (by norm_num)]
      rw [count, limit] at edge
      norm_num at edge ⊢
      nlinarith
    have power : max (-1074) (quotientLog2 numerator denominator - 52) = unit bits - 1 := by
      have short := log2_lt_of_lt filled positive low
      omega
    have half : RoundsTo ((numerator : ℚ) / denominator) (unit bits - 1) (2 * unitsLimit) := by
      rw [count, limit] at edge
      rw [zpow_add₀ (by norm_num)] at low
      norm_num at edge low
      constructor
      · rw [limit, zpow_sub_one₀ (by norm_num)]
        norm_num
        linarith
      · rw [limit, zpow_sub_one₀ (by norm_num)]
        norm_num
        linarith
      · intro odd
        omega
    rw [nearestBits_of_power filled positive power half]
    rw [count, limit] at whole
    rw [limit]
    omega

end ChangeRelay.Number.Binary64
