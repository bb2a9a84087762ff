import Mathlib
import ComptimeTyping.Constant.Bounds

/-! Which integers a number type holds. An integer type is checked exactly. For a float type the
integer is first rounded to the significand of a folded float, so the check is one of the rounded
integer: as the limit of `f32` is within the significand, nothing is lost there, and at the limit
of `f64` half a unit in the last place is let through. -/

namespace ComptimeTyping

namespace BigFloat

/-! ## Binary digits -/

theorem bitLength_le_iff {value width : Nat} : bitLength value ≤ width ↔ value < 2 ^ width := by
  unfold bitLength
  split
  · rename_i zero
    simp [zero]
  · rename_i nonzero
    rw [Nat.succ_le_iff, Nat.log2_lt nonzero]

theorem bitLength_eq_size (value : Nat) : bitLength value = value.size :=
  Nat.le_antisymm (bitLength_le_iff.mpr (Nat.lt_size_self value))
    (Nat.size_le.mpr (bitLength_le_iff.mp (Nat.le_refl _)))

theorem lt_of_size_lt {left right : Nat} (shorter : left.size < right.size) : left < right := by
  apply Nat.lt_of_not_le
  intro notLess
  have longer := Nat.size_le_size notLess
  omega

theorem two_pow_le_of_size {value width : Nat} (size : value.size = width + 1) :
    2 ^ width ≤ value := by
  rw [← Nat.lt_size]
  omega

theorem size_eq_of_bounds {value width : Nat} (least : 2 ^ width ≤ value)
    (greatest : value < 2 ^ (width + 1)) : value.size = width + 1 :=
  Nat.le_antisymm (Nat.size_le.mpr greatest) (Nat.lt_size.mpr least)

theorem size_mul_two_pow {value : Nat} (nonzero : value ≠ 0) (width : Nat) :
    (value * 2 ^ width).size = value.size + width := by
  rw [← Nat.shiftLeft_eq, Nat.size_shiftLeft nonzero]

/-- A whole number is compared by its digits, whatever part of them is in the exponent. -/
theorem isWithin_finite_iff (negative : Bool) (significand exponent limit : Nat) :
    (finite negative significand exponent).isWithin limit = true ↔
      significand <<< exponent ≤ limit := by
  unfold isWithin magnitude
  simp only [bitLength_eq_size]
  by_cases zero : significand = 0
  · simp [zero]
  · have size := Nat.size_shiftLeft zero exponent
    rcases Nat.lt_trichotomy (significand <<< exponent).size limit.size with less | same | greater
    · have smaller := lt_of_size_lt less
      rw [if_pos (.inr (by omega))]
      simp [Nat.le_of_lt smaller]
    · rw [if_neg (by omega), if_neg (by omega), if_pos (by omega)]
      simp
    · have larger := lt_of_size_lt greater
      rw [if_neg (by omega), if_pos (by omega)]
      simp [larger]

/-! ## Rounding -/

/-- Rounding goes down up to the middle, and at the middle only to an even number. -/
theorem shiftRounded_le_iff (value dropped bound : Nat) :
    shiftRounded value (dropped + 1) ≤ bound ↔
      value < bound * 2 ^ (dropped + 1) + 2 ^ dropped ∨
        value = bound * 2 ^ (dropped + 1) + 2 ^ dropped ∧ bound % 2 = 0 := by
  have unit : 2 ^ (dropped + 1) = 2 * 2 ^ dropped := by rw [Nat.pow_succ, Nat.mul_comm]
  have division := Nat.div_add_mod value (2 ^ (dropped + 1))
  have rest := Nat.mod_lt value (Nat.two_pow_pos (dropped + 1))
  unfold shiftRounded
  rw [if_neg (Nat.succ_ne_zero dropped), Nat.shiftRight_eq_div_pow]
  simp only [Nat.shiftLeft_eq, Nat.add_sub_cancel, Nat.one_mul]
  rw [Nat.mul_comm] at division
  generalize value / 2 ^ (dropped + 1) = quotient at *
  generalize value % 2 ^ (dropped + 1) = remainder at *
  have remains : value - quotient * 2 ^ (dropped + 1) = remainder := by omega
  rw [remains]
  rcases Nat.lt_trichotomy quotient bound with less | same | greater
  · have below := Nat.mul_le_mul_right (2 ^ (dropped + 1)) (Nat.succ_le_of_lt less)
    rw [Nat.succ_mul] at below
    split <;> omega
  · subst same
    split <;> omega
  · have above := Nat.mul_le_mul_right (2 ^ (dropped + 1)) (Nat.succ_le_of_lt greater)
    rw [Nat.succ_mul] at above
    split <;> omega

/-- An integer rounded to the significand of a folded float. -/
def roundedSize (value : Nat) : Nat :=
  shiftRounded value (value.size - precision) <<< (value.size - precision)

theorem isWithin_ofInt_iff (value : Int) {limit : Nat} (counted : limit.size ≤ 0x7fffffff) :
    (ofInt value).isWithin limit = true ↔ roundedSize value.natAbs ≤ limit := by
  unfold ofInt roundTo limited roundedSize
  dsimp only
  rw [bitLength_eq_size, Int.zero_add]
  generalize value.natAbs.size - precision = dropped
  generalize shiftRounded value.natAbs dropped = significand
  unfold magnitude greatestMagnitude leastMagnitude
  rw [bitLength_eq_size]
  by_cases zero : significand = 0
  · subst zero
    simp [isWithin]
  · have size := Nat.size_shiftLeft zero dropped
    rw [if_neg zero]
    by_cases infinite : (0x7fffffff : Int) < (significand.size : Int) + dropped
    · have larger : limit < significand <<< dropped := lt_of_size_lt (by omega)
      rw [if_pos infinite]
      simp [isWithin, larger]
    · rw [if_neg infinite, if_neg (by omega)]
      exact isWithin_finite_iff _ significand dropped limit

/-- What is rounded keeps its digits, or becomes the next power of two. -/
theorem shiftRounded_bounds {value kept dropped : Nat}
    (size : value.size = kept + 1 + (dropped + 1)) :
    2 ^ kept ≤ shiftRounded value (dropped + 1) ∧
      shiftRounded value (dropped + 1) ≤ 2 ^ (kept + 1) := by
  have least : 2 ^ kept * 2 ^ (dropped + 1) ≤ value := by
    rw [← Nat.pow_add]
    exact two_pow_le_of_size (by omega)
  have greatest : value < 2 ^ (kept + 1) * 2 ^ (dropped + 1) := by
    rw [← Nat.pow_add, ← size]
    exact Nat.lt_size_self value
  refine ⟨?_, (shiftRounded_le_iff _ _ _).mpr (.inl (Nat.lt_add_right _ greatest))⟩
  apply Nat.le_of_not_lt
  intro less
  have half : 2 ^ dropped < 2 ^ (dropped + 1) :=
    Nat.pow_lt_pow_right Nat.one_lt_two (Nat.lt_succ_self dropped)
  have room : 2 ^ (dropped + 1) ≤ 2 ^ kept * 2 ^ (dropped + 1) :=
    Nat.le_mul_of_pos_left _ (Nat.two_pow_pos kept)
  have below := (shiftRounded_le_iff value dropped (2 ^ kept - 1)).mp (by omega)
  rw [Nat.sub_mul, Nat.one_mul] at below
  generalize 2 ^ kept * 2 ^ (dropped + 1) = product at *
  omega

/-- Rounding stays between the powers of two around a number. -/
theorem roundedSize_bounds {value width : Nat} (size : value.size = width + 1)
    (wide : precision ≤ width) :
    2 ^ width ≤ roundedSize value ∧ roundedSize value ≤ 2 ^ (width + 1) := by
  rcases Nat.exists_eq_add_of_le wide with ⟨dropped, rfl⟩
  have kept : precision + dropped + 1 - precision = dropped + 1 := by omega
  have bounds : 2 ^ 255 ≤ shiftRounded value (dropped + 1) ∧
      shiftRounded value (dropped + 1) ≤ 2 ^ 256 :=
    shiftRounded_bounds (by unfold precision at size; omega)
  unfold roundedSize
  rw [size, kept, Nat.shiftLeft_eq]
  have least := Nat.mul_le_mul_right (2 ^ (dropped + 1)) bounds.1
  have greatest := Nat.mul_le_mul_right (2 ^ (dropped + 1)) bounds.2
  rw [← Nat.pow_add] at least greatest
  unfold precision
  have lowest : 255 + (dropped + 1) = 256 + dropped := by omega
  have highest : 256 + (dropped + 1) = 256 + dropped + 1 := by omega
  rw [lowest] at least
  rw [highest] at greatest
  exact ⟨least, greatest⟩

theorem roundedSize_of_narrow {value : Nat} (narrow : value.size ≤ precision) :
    roundedSize value = value := by
  unfold roundedSize
  rw [Nat.sub_eq_zero_of_le narrow]
  rfl

theorem roundedSize_le_two_pow (value : Nat) : roundedSize value ≤ 2 ^ value.size := by
  by_cases narrow : value.size ≤ precision
  · rw [roundedSize_of_narrow narrow]
    exact Nat.le_of_lt (Nat.lt_size_self value)
  · rcases Nat.exists_eq_add_of_lt (Nat.lt_of_not_le narrow) with ⟨more, size⟩
    rw [size]
    exact (roundedSize_bounds size (Nat.le_add_right _ _)).2

/-- Nothing is rounded that is near a limit with at most as many digits as the significand. -/
theorem roundedSize_le_iff_of_narrow {value limit : Nat} (narrow : limit.size ≤ precision) :
    roundedSize value ≤ limit ↔ value ≤ limit := by
  by_cases exactly : value.size ≤ precision
  · rw [roundedSize_of_narrow exactly]
  · rcases Nat.exists_eq_add_of_lt (Nat.lt_of_not_le exactly) with ⟨more, size⟩
    have larger : limit < 2 ^ (precision + more) := by
      rw [← Nat.size_le]
      omega
    have rounded := (roundedSize_bounds size (Nat.le_add_right _ _)).1
    have least := two_pow_le_of_size size
    omega

/-- At a limit with one digit more than the significand or yet more, and with zeros behind the
significand, half a unit of the last place is rounded off. -/
theorem roundedSize_le_iff_of_wide {value kept dropped : Nat} (full : kept.size = precision)
    (even : kept % 2 = 0) :
    roundedSize value ≤ kept * 2 ^ (dropped + 1) ↔
      value ≤ kept * 2 ^ (dropped + 1) + 2 ^ dropped := by
  have nonzero : kept ≠ 0 := by
    rintro rfl
    cases full
  have limitSize : (kept * 2 ^ (dropped + 1)).size = precision + dropped + 1 := by
    rw [size_mul_two_pow nonzero, full, Nat.add_assoc]
  have limitLeast := two_pow_le_of_size limitSize
  have unit : 2 ^ (dropped + 1) = 2 ^ dropped + 2 ^ dropped := by rw [Nat.pow_succ, Nat.mul_two]
  have positive := Nat.two_pow_pos dropped
  -- The next power of two is a whole unit of the last place away.
  have limitGreatest :
      kept * 2 ^ (dropped + 1) + 2 ^ (dropped + 1) ≤ 2 ^ (precision + dropped + 1) := by
    have next : kept + 1 ≤ 2 ^ precision := by
      rw [← full]
      exact Nat.lt_size_self kept
    have product := Nat.mul_le_mul_right (2 ^ (dropped + 1)) next
    rw [Nat.succ_mul, ← Nat.pow_add] at product
    exact product
  rcases Nat.lt_trichotomy value.size (precision + dropped + 1) with less | same | greater
  · have power : 2 ^ value.size ≤ 2 ^ (precision + dropped) :=
      Nat.pow_le_pow_right Nat.two_pos (by omega)
    have rounded := roundedSize_le_two_pow value
    have exactly := Nat.lt_size_self value
    generalize 2 ^ (precision + dropped) = last at *
    generalize kept * 2 ^ (dropped + 1) = limit at *
    omega
  · have lost : precision + dropped + 1 - precision = dropped + 1 := by omega
    unfold roundedSize
    rw [same, lost, Nat.shiftLeft_eq, Nat.mul_le_mul_right_iff (Nat.two_pow_pos _),
      shiftRounded_le_iff]
    omega
  · rcases Nat.exists_eq_add_of_lt greater with ⟨more, size⟩
    have power : 2 ^ (precision + dropped + 1) ≤ 2 ^ (precision + dropped + 1 + more) :=
      Nat.pow_le_pow_right Nat.two_pos (Nat.le_add_right _ _)
    have least := two_pow_le_of_size size
    have rounded := (roundedSize_bounds size (by omega)).1
    generalize 2 ^ (precision + dropped + 1) = next at *
    generalize 2 ^ (precision + dropped + 1 + more) = later at *
    generalize kept * 2 ^ (dropped + 1) = limit at *
    omega

theorem isWithin_ofInt_of_narrow (value : Int) {limit : Nat} (narrow : limit.size ≤ precision) :
    (ofInt value).isWithin limit = true ↔ value.natAbs ≤ limit := by
  rw [isWithin_ofInt_iff value (Nat.le_trans narrow (by decide)),
    roundedSize_le_iff_of_narrow narrow]

theorem isWithin_ofInt_of_wide (value : Int) {limit kept dropped : Nat}
    (isLimit : limit = kept * 2 ^ (dropped + 1)) (full : kept.size = precision)
    (even : kept % 2 = 0) (counted : precision + (dropped + 1) ≤ 0x7fffffff) :
    (ofInt value).isWithin limit = true ↔ value.natAbs ≤ limit + 2 ^ dropped := by
  have nonzero : kept ≠ 0 := by
    rintro rfl
    cases full
  subst isLimit
  rw [isWithin_ofInt_iff value (by rw [size_mul_two_pow nonzero, full]; exact counted),
    roundedSize_le_iff_of_wide full even]

end BigFloat

/-! ## Types -/

/-- The number of bits of `usize`. -/
def PointerWidth.bits : PointerWidth → Nat
  | .bits32 => 32
  | .bits64 => 64

namespace Constant

variable {value : Int} {width : PointerWidth}

theorem fits_int_of_limit {tag : Tag} {limit : Nat} (float : tag = .f32 ∨ tag = .f64)
    (isLimit : tag.floatLimit? = some limit) :
    (Constant.int value).fits tag width = (BigFloat.ofInt value).isWithin limit := by
  rcases float with rfl | rfl
  all_goals
    unfold fits
    simp only [isLimit]
    rfl

theorem fits_int_f32 :
    (Constant.int value).fits .f32 width = true ↔ value.natAbs ≤ (2 ^ 24 - 1) * 2 ^ 104 := by
  have size : ((2 ^ 24 - 1) * 2 ^ 104).size = 128 :=
    BigFloat.size_eq_of_bounds (by decide) (by decide)
  have limit : Tag.floatLimit? .f32 = some ((2 ^ 24 - 1) * 2 ^ 104) := rfl
  rw [fits_int_of_limit (.inl rfl) limit]
  exact BigFloat.isWithin_ofInt_of_narrow value (by rw [size]; decide)

theorem fits_int_f64 :
    (Constant.int value).fits .f64 width = true ↔
      value.natAbs ≤ (2 ^ 53 - 1) * 2 ^ 971 + 2 ^ 767 := by
  have full : ((2 ^ 53 - 1) * 2 ^ 203).size = BigFloat.precision :=
    BigFloat.size_eq_of_bounds (by decide) (by decide)
  have limit : Tag.floatLimit? .f64 = some ((2 ^ 53 - 1) * 2 ^ 971) := by decide +kernel
  have wide : (2 ^ 53 - 1) * 2 ^ 971 = (2 ^ 53 - 1) * 2 ^ 203 * 2 ^ (767 + 1) := by
    decide +kernel
  have within := BigFloat.isWithin_ofInt_of_wide value wide full (by decide) (by decide)
  rw [fits_int_of_limit (.inr rfl) limit]
  exact within

/-- The range check of an integer, with all bounds written out. An integer type holds exactly the
integers of its closed interval, and `f32` those up to its largest finite number. For `f64` the
integers up to half a unit in the last place of the significand above it are let through. -/
theorem fits_int_exactly (value : Int) (width : PointerWidth) :
    ((Constant.int value).fits .i32 width = true ↔ -2 ^ 31 ≤ value ∧ value ≤ 2 ^ 31 - 1) ∧
      ((Constant.int value).fits .i64 width = true ↔ -2 ^ 63 ≤ value ∧ value ≤ 2 ^ 63 - 1) ∧
      ((Constant.int value).fits .usize width = true ↔
        0 ≤ value ∧ value ≤ 2 ^ width.bits - 1) ∧
      ((Constant.int value).fits .f32 width = true ↔
        value.natAbs ≤ (2 ^ 24 - 1) * 2 ^ 104) ∧
      ((Constant.int value).fits .f64 width = true ↔
        value.natAbs ≤ (2 ^ 53 - 1) * 2 ^ 971 + 2 ^ 767) := by
  refine ⟨fits_int_iff_bounds (.inl rfl), fits_int_iff_bounds (.inr (.inl rfl)), ?_,
    fits_int_f32, fits_int_f64⟩
  cases width <;> exact fits_int_iff_bounds (.inr (.inr rfl))

/-- The integer next to the largest finite `f64` is rounded down to it, so it passes the check
although it lies outside. -/
theorem fits_beside_largest :
    (Constant.int ((2 ^ 53 - 1) * 2 ^ 971 + 1)).fits .f64 .bits64 = true ∧
      ¬ ((2 ^ 53 - 1) * 2 ^ 971 + 1 : Int).natAbs ≤ (2 ^ 53 - 1) * 2 ^ 971 := by
  decide +kernel

end Constant

end ComptimeTyping
