import Mathlib.Data.Int.Log
import SwitchService.Foundation.Number

set_option autoImplicit false

/-!
# Foundation: the double nearest to a number

`Number(text)` gives the exact value of a literal; a program has the nearest number of the
binary format with 53 significant bits, the even one of two that are as near, or an infinity
beyond the range.  Integers below `2 ^ 53` stay as they are.
-/

namespace SwitchService.Foundation.Number

/-- The nearest integer, the even one of two. -/
def roundHalfEven (q : ℚ) : ℤ :=
  if q - ⌊q⌋ < 1 / 2 then ⌊q⌋
  else if 1 / 2 < q - ⌊q⌋ then ⌊q⌋ + 1
  else if ⌊q⌋ % 2 = 0 then ⌊q⌋
  else ⌊q⌋ + 1

/-- The exponent of the last place of a double near the number. -/
def lastPlace (q : ℚ) : ℤ := max (Int.log 2 |q| - 52) (-1074)

/-- The multiple of the last place that is nearest, whatever the range. -/
def nearest (q : ℚ) : ℚ := roundHalfEven (q / 2 ^ lastPlace q) * 2 ^ lastPlace q

/-- The double nearest to a number. -/
def toDouble (q : ℚ) : Number :=
  if |nearest q| < 2 ^ 1024 then .fin (nearest q)
  else if q < 0 then .negInf
  else .posInf

/-- The double that a program has of a number. -/
def double : Number → Number
  | .fin q => toDouble q
  | value => value

/-- `Number.MAX_SAFE_INTEGER`. -/
def maxSafeInteger : ℕ := 2 ^ 53 - 1

@[simp] theorem roundHalfEven_intCast (n : ℤ) : roundHalfEven n = n := by
  simp [roundHalfEven]

theorem abs_roundHalfEven_sub_le (q : ℚ) : |(roundHalfEven q : ℚ) - q| ≤ 1 / 2 := by
  have hlow := Int.floor_le q
  have hhigh := Int.lt_floor_add_one q
  unfold roundHalfEven
  rw [abs_le]
  split_ifs with hbelow habove heven
  · constructor <;> linarith
  · push_cast
    constructor <;> linarith
  · constructor <;> linarith
  · push_cast
    constructor <;> linarith

theorem nearest_natCast {n : ℕ} (hn : n ≤ maxSafeInteger) : nearest n = n := by
  have hlog : Int.log 2 |(n : ℚ)| ≤ 52 := by
    rw [Nat.abs_cast, Int.log_natCast]
    have hlt : n < 2 ^ 53 := by
      have : maxSafeInteger < 2 ^ 53 := by decide
      omega
    have hnat : Nat.log 2 n < 53 := Nat.log_lt_of_lt_pow' (by decide) hlt
    omega
  obtain ⟨places, hplaces⟩ : ∃ places : ℕ, lastPlace (n : ℚ) = -(places : ℤ) := by
    have hle : lastPlace (n : ℚ) ≤ 0 := max_le (by omega) (by decide)
    exact ⟨(-lastPlace (n : ℚ)).toNat, by omega⟩
  have hscaled : (n : ℚ) / 2 ^ lastPlace (n : ℚ) = ((n * 2 ^ places : ℕ) : ℤ) := by
    rw [hplaces, zpow_neg, div_inv_eq_mul, zpow_natCast]
    push_cast
    rfl
  rw [nearest, hscaled, roundHalfEven_intCast, ← hscaled, div_mul_cancel₀]
  positivity

/-- A number below half of the range has a finite double. -/
theorem abs_nearest_lt {q : ℚ} (hq : |q| < 2 ^ 1023) : |nearest q| < 2 ^ 1024 := by
  have hplace : (0 : ℚ) < 2 ^ lastPlace q := by positivity
  -- Half a place is at most the number itself, or the least double.
  have hhalf : (2 : ℚ) ^ lastPlace q ≤ 2 ^ 1023 := by
    have hlog : Int.log 2 |q| ≤ 1023 := by
      rcases eq_or_lt_of_le (abs_nonneg q) with hzero | hpos
      · rw [← hzero, Int.log_of_right_le_zero 2 le_rfl]
        decide
      · refine ((Int.lt_zpow_iff_log_lt (by decide) hpos).mp ?_).le
        rw [show (1023 : ℤ) = ((1023 : ℕ) : ℤ) from rfl, zpow_natCast]
        exact_mod_cast hq
    calc (2 : ℚ) ^ lastPlace q ≤ 2 ^ ((1023 : ℕ) : ℤ) :=
          zpow_le_zpow_right₀ (by norm_num) (max_le (by omega) (by decide))
      _ = 2 ^ 1023 := zpow_natCast 2 1023
  have herror : |nearest q - q| ≤ 1 / 2 * 2 ^ lastPlace q := by
    have hfactor : nearest q - q =
        ((roundHalfEven (q / 2 ^ lastPlace q) : ℚ) - q / 2 ^ lastPlace q) * 2 ^ lastPlace q := by
      rw [nearest, sub_mul, div_mul_cancel₀ q hplace.ne']
    rw [hfactor, abs_mul, abs_of_pos hplace]
    exact mul_le_mul_of_nonneg_right (abs_roundHalfEven_sub_le _) hplace.le
  calc |nearest q| = |q + (nearest q - q)| := by ring_nf
    _ ≤ |q| + |nearest q - q| := abs_add_le _ _
    _ < 2 ^ 1023 + 1 / 2 * 2 ^ 1023 := by
        refine add_lt_add_of_lt_of_le hq (herror.trans ?_)
        exact mul_le_mul_of_nonneg_left hhalf (by norm_num)
    _ ≤ 2 ^ 1024 := by
        have hpos : (0 : ℚ) < 2 ^ 1023 := pow_pos zero_lt_two 1023
        rw [pow_succ (2 : ℚ) 1023]
        generalize (2 : ℚ) ^ 1023 = bound at hpos
        linarith

/-- An integer of at most 53 bits is its own double. -/
theorem toDouble_natCast {n : ℕ} (hn : n ≤ maxSafeInteger) : toDouble n = .fin n := by
  have hlt : |(n : ℚ)| < 2 ^ 1023 := by
    rw [Nat.abs_cast]
    calc (n : ℚ) ≤ maxSafeInteger := by exact_mod_cast hn
      _ < 2 ^ 53 := by norm_num [maxSafeInteger]
      _ ≤ 2 ^ 1023 := pow_le_pow_right₀ (by norm_num) (by decide)
  rw [toDouble, if_pos (abs_nearest_lt hlt), nearest_natCast hn]

theorem toDouble_of_lt {q : ℚ} (hq : |q| < 2 ^ 1023) : toDouble q = .fin (nearest q) :=
  if_pos (abs_nearest_lt hq)

end SwitchService.Foundation.Number
