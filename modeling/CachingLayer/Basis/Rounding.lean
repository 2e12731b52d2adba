import Mathlib

/-!
# Rounding to decimals

To the nearest multiple of a power of ten, ties to the even one, as `round(x, digits)` does.
Rounding keeps the order (`roundTo_mono`) and moves a number by half a unit of its last
digit at most (`abs_roundTo_sub_le`).
-/

section
variable {F : Type} [Field F] [LinearOrder F] [FloorRing F]

/-- The nearest integer, of two the even one. -/
def roundEven (x : F) : ℤ :=
  if x - ⌊x⌋ < 0.5 then ⌊x⌋
  else if 0.5 < x - ⌊x⌋ then ⌊x⌋ + 1
  else if ⌊x⌋ % 2 = 0 then ⌊x⌋
  else ⌊x⌋ + 1

/-- `round(x, digits)`. -/
def roundTo (digits : ℕ) (x : F) : F := roundEven (x * 10 ^ digits) / 10 ^ digits

theorem floor_le_roundEven (x : F) : ⌊x⌋ ≤ roundEven x ∧ roundEven x ≤ ⌊x⌋ + 1 := by
  unfold roundEven
  constructor
  · split_ifs <;> omega
  · split_ifs <;> omega

variable [IsStrictOrderedRing F]

theorem roundEven_intCast (k : ℤ) : roundEven (k : F) = k := by
  unfold roundEven
  rw [Int.floor_intCast, sub_self, if_pos (by norm_num)]

theorem abs_roundEven_sub_le (x : F) : |(roundEven x : F) - x| ≤ 1 / 2 := by
  have hfloor := Int.floor_le x
  have hlt := Int.lt_floor_add_one x
  unfold roundEven
  rw [abs_le]
  split_ifs <;> push_cast <;> constructor <;> linarith

theorem roundEven_mono (x y : F) (h : x ≤ y) : roundEven x ≤ roundEven y := by
  have hfloor : ⌊x⌋ ≤ ⌊y⌋ := Int.floor_le_floor h
  by_cases heq : ⌊x⌋ = ⌊y⌋
  · -- what is behind the point decides
    have hrest : x - ⌊y⌋ ≤ y - ⌊y⌋ := sub_le_sub_right h _
    unfold roundEven
    rw [heq]
    split_ifs <;> first | omega | linarith
  · have hx := (floor_le_roundEven x).2
    have hy := (floor_le_roundEven y).1
    omega

theorem roundTo_mono (digits : ℕ) (x y : F) (h : x ≤ y) : roundTo digits x ≤ roundTo digits y := by
  have hpos : (0 : F) < 10 ^ digits := by positivity
  have hround : roundEven (x * 10 ^ digits) ≤ roundEven (y * 10 ^ digits) := by
    apply roundEven_mono
    exact mul_le_mul_of_nonneg_right h hpos.le
  unfold roundTo
  rw [div_le_div_iff_of_pos_right hpos]
  exact_mod_cast hround

theorem abs_roundTo_sub_le (digits : ℕ) (x : F) : |roundTo digits x - x| ≤ 1 / 2 / 10 ^ digits := by
  have hpos : (0 : F) < 10 ^ digits := by positivity
  have hunit : roundTo digits x - x = ((roundEven (x * 10 ^ digits) : F) - x * 10 ^ digits) / 10 ^ digits := by
    unfold roundTo
    rw [sub_div, mul_div_cancel_right₀ _ hpos.ne']
  rw [hunit, abs_div, abs_of_pos hpos, div_le_div_iff_of_pos_right hpos]
  exact abs_roundEven_sub_le _

end

/-- `2.5` to `2`, `3.5` to `4`. -/
example : roundTo 0 (5 / 2 : ℚ) = 2 ∧ roundTo 0 (7 / 2 : ℚ) = 4 ∧ roundTo 3 (-12345 / 10000 : ℚ) = -1234 / 1000 := by
  decide +kernel
