/-! Binary floating-point numbers with a 256-bit significand. Every operation
rounds its exact result once, to the nearest number and on a tie to the even
one. -/

namespace ComptimeTyping

/-- A finite number is `± significand · 2 ^ exponent`; a zero keeps its sign. -/
inductive BigFloat where
  | finite (negative : Bool) (significand : Nat) (exponent : Int)
  | infinite (negative : Bool)
deriving DecidableEq, Repr

namespace BigFloat

/-- The width of the significand of a folded value. -/
def precision : Nat := 256

/-! The number is a fraction below one times `2 ^ magnitude`; magnitudes are
limited to 32-bit integers. -/

def leastMagnitude : Int := -0x80000000

def greatestMagnitude : Int := 0x7fffffff

/-- Number of binary digits. -/
def bitLength (value : Nat) : Nat :=
  if value = 0 then 0 else value.log2 + 1

def magnitude (significand : Nat) (exponent : Int) : Int :=
  bitLength significand + exponent

/-- Divide by `2 ^ dropped`, to nearest, ties to even. -/
def shiftRounded (value dropped : Nat) : Nat :=
  if dropped = 0 then value
  else
    let quotient := value >>> dropped
    let rest := value - (quotient <<< dropped)
    let half := 1 <<< (dropped - 1)
    if rest < half ∨ (rest = half ∧ quotient % 2 = 0) then quotient else quotient + 1

/-- A number that is too large becomes infinite and one that is too small zero. -/
def limited (negative : Bool) (significand : Nat) (exponent : Int) : BigFloat :=
  if significand = 0 then .finite negative 0 0
  else if greatestMagnitude < magnitude significand exponent then .infinite negative
  else if magnitude significand exponent < leastMagnitude then .finite negative 0 0
  else .finite negative significand exponent

/-- Round to a significand of `width` bits. -/
def roundTo (width : Nat) (negative : Bool) (significand : Nat) (exponent : Int) : BigFloat :=
  let dropped := bitLength significand - width
  limited negative (shiftRounded significand dropped) (exponent + dropped)

def zero (negative : Bool) : BigFloat := .finite negative 0 0

def ofInt (value : Int) : BigFloat :=
  roundTo precision (decide (value < 0)) value.natAbs 0

/-- The number that the bits of a double denote, if they denote one. -/
def ofDoubleBits? (bits : UInt64) : Option BigFloat :=
  let negative := bits >>> 63 == 1
  let biased := ((bits >>> 52) &&& 0x7ff).toNat
  let fraction := (bits &&& 0xfffffffffffff).toNat
  if biased = 0x7ff then
    if fraction = 0 then some (.infinite negative) else none
  else if biased = 0 then some (limited negative fraction (-1074))
  else some (limited negative (fraction + 0x10000000000000) (biased - 1075))

/-! ## Views -/

def isInfinite : BigFloat → Bool
  | .finite _ _ _ => false
  | .infinite _ => true

def isNegative : BigFloat → Bool
  | .finite negative _ _ => negative
  | .infinite negative => negative

def isZero : BigFloat → Bool
  | .finite _ significand _ => significand == 0
  | .infinite _ => false

/-- Minus one, zero or one. -/
def sign (value : BigFloat) : Int :=
  if value.isZero then 0 else if value.isNegative then -1 else 1

/-- Drop the fraction of a finite number. -/
def truncate? : BigFloat → Option Int
  | .finite negative significand exponent =>
      let size : Nat :=
        if 0 ≤ exponent then significand <<< exponent.toNat
        else significand >>> (-exponent).toNat
      some (if negative then -size else size)
  | .infinite _ => none

/-- Whether the absolute value is at most `limit`. The magnitudes decide unless
they are close, so that no number is written out at length. -/
def isWithin (value : BigFloat) (limit : Nat) : Bool :=
  match value with
  | .infinite _ => false
  | .finite _ significand exponent =>
      let size := magnitude significand exponent
      if significand = 0 ∨ size < bitLength limit then true
      else if bitLength limit < size then false
      else if 0 ≤ exponent then significand <<< exponent.toNat ≤ limit
      else significand ≤ limit <<< (-exponent).toNat

/-! ## Arithmetic -/

/-- The operations that have no result. -/
inductive Undefined where
  | sumOfOppositeInfinities
  | differenceOfEqualInfinities
  | zeroTimesInfinity
  | indefiniteQuotient
deriving DecidableEq, Repr

def Undefined.message : Undefined → String
  | .sumOfOppositeInfinities => "addition of infinities with opposite signs"
  | .differenceOfEqualInfinities => "subtraction of infinities with equal signs"
  | .zeroTimesInfinity => "multiplication of zero with infinity"
  | .indefiniteQuotient => "division of zero by zero or infinity by infinity"

def negate : BigFloat → BigFloat
  | .finite negative significand exponent => .finite (!negative) significand exponent
  | .infinite negative => .infinite (!negative)

def signed (negative : Bool) (size : Nat) : Int :=
  if negative then -size else size

/-- Exponents so far apart that the smaller number is below half a unit of the
larger one. -/
def farApart : Int := 2 * precision + 64

/-- Add two finite numbers that are not zero. An exact cancellation is a positive
zero. -/
def addNonzero (leftNegative : Bool) (left : Nat) (leftExponent : Int)
    (rightNegative : Bool) (right : Nat) (rightExponent : Int) : BigFloat :=
  if farApart < leftExponent - rightExponent then .finite leftNegative left leftExponent
  else if farApart < rightExponent - leftExponent then
    .finite rightNegative right rightExponent
  else
    let exponent := min leftExponent rightExponent
    let sum :=
      signed leftNegative (left <<< (leftExponent - exponent).toNat)
        + signed rightNegative (right <<< (rightExponent - exponent).toNat)
    roundTo precision (decide (sum < 0)) sum.natAbs exponent

def add (left right : BigFloat) : Except Undefined BigFloat :=
  match left, right with
  | .infinite leftNegative, .infinite rightNegative =>
      if leftNegative = rightNegative then .ok left else .error .sumOfOppositeInfinities
  | .infinite _, .finite _ _ _ => .ok left
  | .finite _ _ _, .infinite _ => .ok right
  | .finite leftNegative leftSize leftExponent, .finite rightNegative rightSize rightExponent =>
      if leftSize = 0 ∧ rightSize = 0 then .ok (zero (leftNegative && rightNegative))
      else if leftSize = 0 then .ok right
      else if rightSize = 0 then .ok left
      else
        .ok (addNonzero leftNegative leftSize leftExponent rightNegative rightSize
          rightExponent)

/-- Subtraction adds the negation; only its failure has words of its own. -/
def sub (left right : BigFloat) : Except Undefined BigFloat :=
  match add left right.negate with
  | .ok difference => .ok difference
  | .error _ => .error .differenceOfEqualInfinities

def mul (left right : BigFloat) : Except Undefined BigFloat :=
  let negative := left.isNegative != right.isNegative
  match left, right with
  | .finite _ leftSize leftExponent, .finite _ rightSize rightExponent =>
      .ok (roundTo precision negative (leftSize * rightSize) (leftExponent + rightExponent))
  | _, _ =>
      if left.isZero || right.isZero then .error .zeroTimesInfinity
      else .ok (.infinite negative)

/-- Round the quotient of two positive significands: it is computed with spare
digits, of which the last one records whether anything was left over. -/
def roundQuotient (width : Nat) (negative : Bool) (left : Nat) (leftExponent : Int)
    (right : Nat) (rightExponent : Int) : BigFloat :=
  let spare := width + 2 + bitLength right
  let quotient := (left <<< spare) / right
  let sticky := if quotient * right = left <<< spare then 0 else 1
  roundTo width negative (2 * quotient + sticky) (leftExponent - rightExponent - spare - 1)

def div (left right : BigFloat) : Except Undefined BigFloat :=
  let negative := left.isNegative != right.isNegative
  match left, right with
  | .infinite _, .infinite _ => .error .indefiniteQuotient
  | .infinite _, .finite _ _ _ => .ok (.infinite negative)
  | .finite _ _ _, .infinite _ => .ok (zero negative)
  | .finite _ leftSize leftExponent, .finite _ rightSize rightExponent =>
      if rightSize = 0 then
        if leftSize = 0 then .error .indefiniteQuotient else .ok (.infinite negative)
      else if leftSize = 0 then .ok (zero negative)
      else .ok (roundQuotient precision negative leftSize leftExponent rightSize rightExponent)

end BigFloat

end ComptimeTyping
