import ComptimeTyping.Number.BigFloat

/-! Floats as decimal text: the exact value rounded to a number of significant
digits, then laid out with or without an exponent. -/

namespace ComptimeTyping

/-- The number `coefficient · 10 ^ exponent`. -/
structure Decimal where
  coefficient : Nat
  exponent : Int
deriving DecidableEq, Repr

namespace Decimal

/-- Every binary number is a decimal one: a negative power of two is a power of
five over a power of ten. -/
def ofBinary (significand : Nat) (exponent : Int) : Decimal :=
  if 0 ≤ exponent then ⟨significand <<< exponent.toNat, 0⟩
  else ⟨significand * Nat.pow 5 (-exponent).toNat, exponent⟩

/-- Raise a lower bound on the number of decimal digits until it is exact. -/
def countDigitsFrom (value : Nat) (fuel count : Nat) : Nat :=
  match fuel with
  | 0 => count
  | fuel + 1 => if value < Nat.pow 10 count then count else countDigitsFrom value fuel (count + 1)

/-- Number of decimal digits. A binary digit is worth at least 0.30102 decimal
ones, so the search starts close to its end. -/
def countDigits (value : Nat) : Nat :=
  let bits := BigFloat.bitLength value
  let start := (bits - 1) * 30102 / 100000
  countDigitsFrom value (bits + 1 - start) start

/-- Divide by a power of ten, to nearest, ties to even. -/
def dropDigits (value dropped : Nat) : Nat :=
  let unit := Nat.pow 10 dropped
  let quotient := value / unit
  let rest := value % unit
  if 2 * rest < unit ∨ (2 * rest = unit ∧ quotient % 2 = 0) then quotient else quotient + 1

/-- Keep at most `digits` significant digits. -/
def rounded (digits : Nat) (value : Decimal) : Decimal :=
  let dropped := countDigits value.coefficient - digits
  if dropped = 0 then value
  else ⟨dropDigits value.coefficient dropped, value.exponent + dropped⟩

/-- Significant digits of a positive number without trailing zeros, and the
position of the point: the value is `0.digits · 10 ^ point`. -/
structure Digits where
  digits : List Char
  point : Int

def trimZeros (digits : List Char) : List Char :=
  (digits.reverse.dropWhile (· == '0')).reverse

def toDigits (value : Decimal) : Digits :=
  let digits := Nat.toDigits 10 value.coefficient
  ⟨trimZeros digits, value.exponent + digits.length⟩

/-! ## Layout -/

/-- At least two digits behind the sign. -/
def exponentText (exponent : Int) : String :=
  let digits := toString exponent.natAbs
  (if exponent < 0 then "e-" else "e+")
    ++ (if digits.length < 2 then "0" ++ digits else digits)

/-- One digit before the point. -/
def scientific (value : Digits) : String :=
  match value.digits with
  | [] => "0"
  | first :: [] => first.toString ++ exponentText (value.point - 1)
  | first :: rest =>
      first.toString ++ "." ++ String.ofList rest ++ exponentText (value.point - 1)

def positionalText (value : Digits) : String :=
  if value.point ≤ 0 then
    "0." ++ String.ofList (List.replicate (-value.point).toNat '0' ++ value.digits)
  else
    let places := value.point.toNat
    let whole := value.digits.take places ++ List.replicate (places - value.digits.length) '0'
    match value.digits.drop places with
    | [] => String.ofList whole
    | fraction => String.ofList whole ++ "." ++ String.ofList fraction

/-- The layout of a folded float: an exponent is written below a ten-thousandth
and from the precision upwards, where a whole number counts with its own digits. -/
def layout (precision : Nat) (value : Digits) : String :=
  let count : Int := value.digits.length
  let limit : Int := if count < precision ∧ value.point ≤ count then count else precision
  let exponent := value.point - 1
  if exponent < -4 ∨ limit ≤ exponent then scientific value else positionalText value

end Decimal

namespace BigFloat

/-- The text of a float, with at most ten significant digits. -/
def text : BigFloat → String
  | .infinite negative => if negative then "-Inf" else "+Inf"
  | .finite negative significand exponent =>
      let size :=
        if significand = 0 then "0"
        else
          Decimal.layout 10 ((Decimal.ofBinary significand exponent).rounded 10).toDigits
      if negative then "-" ++ size else size

end BigFloat

end ComptimeTyping
