import ComptimeTyping.Constant.Basic

/-! Which folded values a concrete number type holds. -/

namespace ComptimeTyping

/-- The width of `usize` in bits. -/
inductive PointerWidth where
  | bits32
  | bits64
deriving DecidableEq, Repr

/-- Every width other than 32 counts as 64. -/
def PointerWidth.ofInt (width : Int) : PointerWidth :=
  if width = 32 then .bits32 else .bits64

namespace Tag

/-- The closed interval of an integer type. -/
def intBounds (tag : Tag) (width : PointerWidth) : Int × Int :=
  match tag, width with
  | .i32, _ => (-0x80000000, 0x7fffffff)
  | .i64, _ => (-0x8000000000000000, 0x7fffffffffffffff)
  | .usize, .bits32 => (0, 0xffffffff)
  | .usize, .bits64 => (0, 0xffffffffffffffff)
  | _, _ => (0, 0)

/-- The largest finite number of a float type. -/
def floatLimit? : Tag → Option Nat
  | .f32 => some ((Nat.pow 2 24 - 1) * Nat.pow 2 104)
  | .f64 => some ((Nat.pow 2 53 - 1) * Nat.pow 2 971)
  | _ => none

/-- The values of a type, in words. -/
def describeBounds (tag : Tag) (width : PointerWidth) : String :=
  match tag with
  | .i32 | .i64 | .usize =>
      let (least, greatest) := tag.intBounds width
      toString least ++ "..=" ++ toString greatest
  | .f32 => "±3.4028234663852886e+38"
  | .f64 => "±1.7976931348623157e+308"
  | _ => tag.name

end Tag

namespace Constant

/-- Drop the fraction, unless the number is infinite or far beyond every integer
type. -/
def integerPart? : Constant → Option Int
  | .int value => some value
  | .float value => if value.isWithin (Nat.pow 2 128) then value.truncate? else none

/-- Whether a value is one of the type's. Its ends are included. A float is
truncated before it is compared with an integer type, as a conversion does. -/
def fits (value : Constant) (tag : Tag) (width : PointerWidth) : Bool :=
  match tag with
  | .f32 | .f64 =>
      match tag.floatLimit? with
      | some limit => value.toFloat.isWithin limit
      | none => true
  | .i32 | .i64 | .usize =>
      let (least, greatest) := tag.intBounds width
      match value.integerPart? with
      | some part => decide (least ≤ part ∧ part ≤ greatest)
      | none => false
  | _ => true

theorem fits_int_iff_bounds {tag : Tag} {width : PointerWidth} {value : Int}
    (integer : tag = .i32 ∨ tag = .i64 ∨ tag = .usize) :
    (Constant.int value).fits tag width = true ↔
      (tag.intBounds width).1 ≤ value ∧ value ≤ (tag.intBounds width).2 := by
  rcases integer with rfl | rfl | rfl <;> exact decide_eq_true_iff

end Constant

end ComptimeTyping
