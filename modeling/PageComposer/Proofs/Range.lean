import Mathlib.Tactic.Ring
import PageComposer.Binary64

/-!
# The range of doubles

An integer comes to a finite double as long as it is closer to the greatest one than to the
next power of two, `2 ^ 1024`.  The bound between the two is `2 ^ 1024 - 2 ^ 970`: an integer at
the bound is rounded to the even significand, which is the one that has no finite form.
-/

namespace PageComposer.Binary64

theorem le_roundHalfEven (numerator denominator : Nat) :
    numerator / denominator ≤ roundHalfEven numerator denominator := by
  unfold roundHalfEven
  dsimp only
  split
  · exact Nat.le_refl _
  · split <;> omega

/-- A quotient is rounded below an even number when it lies below it by more than a half. -/
theorem roundHalfEven_lt_iff {numerator denominator bound : Nat} (positive : 0 < denominator)
    (even : bound % 2 = 0) :
    roundHalfEven numerator denominator < bound ↔
      2 * numerator + denominator < 2 * (denominator * bound) := by
  have parts := Nat.div_add_mod numerator denominator
  have small := Nat.mod_lt numerator positive
  unfold roundHalfEven
  dsimp only
  generalize numerator / denominator = quotient at parts
  generalize numerator % denominator = rest at parts small
  have above : bound ≤ quotient → denominator * bound ≤ denominator * quotient :=
    Nat.mul_le_mul_left denominator
  have before : quotient + 1 = bound → denominator * bound = denominator * quotient + denominator :=
    fun same => by rw [← same, Nat.mul_succ]
  have below : quotient + 2 ≤ bound →
      denominator * quotient + 2 * denominator ≤ denominator * bound := fun less => by
    calc denominator * quotient + 2 * denominator = denominator * (quotient + 2) := by
          rw [Nat.mul_add, Nat.mul_comm denominator 2]
      _ ≤ denominator * bound := Nat.mul_le_mul_left denominator less
  split
  · omega
  · split <;> omega

theorem isFinite_iff {value : Binary64} : value.isFinite = true ↔ value.exponent.val ≠ 2047 := by
  simp [isFinite]

theorem isFinite_ofSignificand_iff {negative : Bool} {significand shift : Nat}
    (normal : 4503599627370496 ≤ significand) :
    (ofSignificand negative significand shift).isFinite = true ↔ shift < 2046 := by
  have exponent : (if significand < 4503599627370496 then 0 else shift + 1) = shift + 1 :=
    if_neg (Nat.not_lt.mpr normal)
  unfold ofSignificand
  simp only [exponent, isFinite_iff]
  split
  · dsimp only
    omega
  · exact iff_of_false (fun finite => finite rfl) (by omega)

theorem one_eq {bits : Nat} (same : 1074 = bits) : one = 2 ^ bits := by
  -- A number for the bits would have the power worked out.
  unfold one
  generalize 1074 = units at same
  exact congrArg (Nat.pow 2) same

/-! ### Integers with so many bits -/

section

variable {value : Nat} (positive : value ≠ 0)

include positive

theorem log2_mul_two_pow (weight : Nat) :
    Nat.log2 (value * 2 ^ weight) = Nat.log2 value + weight := by
  have proper : value * 2 ^ weight ≠ 0 :=
    Nat.mul_ne_zero positive (Nat.ne_of_gt (Nat.two_pow_pos weight))
  rw [Nat.log2_eq_iff proper]
  constructor
  · rw [Nat.pow_add]
    exact Nat.mul_le_mul_right _ (Nat.log2_self_le positive)
  · rw [Nat.add_right_comm, Nat.pow_add]
    exact Nat.mul_lt_mul_of_pos_right Nat.lt_log2_self (Nat.two_pow_pos weight)

/-- Cut to 53 bits, an integer has all of them. -/
theorem normal_quotient (weight : Nat) :
    4503599627370496 ≤ value * 2 ^ (weight + 52) / 2 ^ (Nat.log2 value + weight) := by
  rw [Nat.le_div_iff_mul_le (Nat.two_pow_pos _)]
  calc 4503599627370496 * 2 ^ (Nat.log2 value + weight)
      = 2 ^ Nat.log2 value * 2 ^ (weight + 52) := by
        ring
    _ ≤ value * 2 ^ (weight + 52) := Nat.mul_le_mul_right _ (Nat.log2_self_le positive)

/-- An integer is rounded to a finite double if it has fewer bits than the greatest one, or as
many and does not run over. -/
theorem isFinite_nearest_iff (negative : Bool) :
    (nearest negative value 1).isFinite = true ↔
      Nat.log2 value < 1023 ∨ Nat.log2 value = 1023 ∧
        roundHalfEven (value * one) (2 ^ (Nat.log2 value + 1022)) < 9007199254740992 := by
  obtain ⟨weight, same⟩ : ∃ weight, weight = 1022 := ⟨_, rfl⟩
  have unit : one = 2 ^ (weight + 52) := one_eq (by omega)
  have normal := Nat.le_trans (normal_quotient positive weight) (le_roundHalfEven _ _)
  have whole : 9007199254740992 ≤ value * 2 ^ (weight + 52) := by
    calc 9007199254740992 = 1 * 2 ^ 53 := rfl
      _ ≤ value * 2 ^ (weight + 52) :=
        Nat.mul_le_mul (Nat.one_le_iff_ne_zero.mpr positive)
          (Nat.pow_le_pow_right (by decide) (by omega))
  have shift : Nat.log2 (value * 2 ^ (weight + 52)) - 52 = Nat.log2 value + weight := by
    rw [log2_mul_two_pow positive]
    omega
  rw [← same, unit]
  unfold nearest
  simp only [unit, Nat.pow_eq, Nat.div_one, if_neg (Nat.not_lt.mpr whole), shift, Nat.one_mul]
  split
  · rw [isFinite_ofSignificand_iff normal]
    omega
  · rw [isFinite_ofSignificand_iff (by omega)]
    omega

end

theorem multiples_lt_iff {size unit weight : Nat} (positive : 0 < weight) :
    2 * (size * weight) + weight * (unit * 2) < 2 * (weight * (unit * 2) * 9007199254740992) ↔
      size < 18014398509481983 * unit := by
  have left : 2 * (size * weight) + weight * (unit * 2) = weight * (2 * size + unit * 2) := by
    ring
  have right : 2 * (weight * (unit * 2) * 9007199254740992) =
      weight * (2 * (unit * 2 * 9007199254740992)) := by
    ring
  rw [left, right, Nat.mul_lt_mul_left positive]
  omega

/-- The first integer that is too large for a double, which is `2 ^ 1024 - 2 ^ 970`. -/
def ceiling : Nat := (2 ^ 54 - 1) * 2 ^ 970

/-- The integers that come to a finite double are those below the ceiling. -/
theorem isSome_ofInt?_iff {value : Int} :
    (ofInt? value).isSome = true ↔ value.natAbs < ceiling := by
  have shape : (ofInt? value).isSome = (nearest (value < 0) value.natAbs 1).isFinite := by
    unfold ofInt?
    dsimp only
    split <;> simp_all
  rw [shape, ceiling]
  generalize value.natAbs = size
  -- The powers stay as they are: worked out, they have hundreds of digits.
  generalize based : 970 = base
  have power : ∀ extra, 2 ^ (base + extra) = 2 ^ base * 2 ^ extra := Nat.pow_add 2 base
  have unitPos : 0 < 2 ^ base := Nat.two_pow_pos base
  generalize 2 ^ base = unit at power unitPos ⊢
  by_cases positive : size = 0
  · subst positive
    have noBits : nearest (value < 0) 0 1 = ofSignificand (value < 0) 0 0 := by
      simp [nearest, roundHalfEven]
    rw [noBits]
    exact iff_of_true rfl (by omega)
  · rw [isFinite_nearest_iff positive]
    have least := Nat.log2_self_le positive
    have greatest : size < 2 ^ (Nat.log2 size + 1) := Nat.lt_log2_self
    rcases Nat.lt_trichotomy (Nat.log2 size) 1023 with fewer | same | more
    · have inside : 2 ^ (Nat.log2 size + 1) ≤ 2 ^ (base + 53) :=
        Nat.pow_le_pow_right (by decide) (by omega)
      rw [power] at inside
      omega
    · generalize counted : 1074 = bits
      have step : 2 ^ (Nat.log2 size + 1022) = one * (unit * 2) := by
        have total : Nat.log2 size + 1022 = bits + (base + 1) := by omega
        rw [total, Nat.pow_add, power, one_eq counted, Nat.pow_one]
      have onePos : 0 < one := by
        rw [one_eq counted]
        exact Nat.two_pow_pos bits
      have stepPos : 0 < one * (unit * 2) := Nat.mul_pos onePos (by omega)
      rw [step, roundHalfEven_lt_iff stepPos (by decide), multiples_lt_iff onePos]
      omega
    · have outside : 2 ^ (base + 54) ≤ 2 ^ Nat.log2 size :=
        Nat.pow_le_pow_right (by decide) (by omega)
      rw [power] at outside
      omega

end PageComposer.Binary64
