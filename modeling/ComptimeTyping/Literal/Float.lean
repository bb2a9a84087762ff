import ComptimeTyping.Literal.Digits
import ComptimeTyping.Number.BigFloat
import ComptimeTyping.Number.Word
import ComptimeTyping.Text.Quoted

/-! Float literals: decimal digits with an optional point, then an optional
exponent of ten (`e`) or of two (`p`). `Inf` is the infinite number. -/

namespace ComptimeTyping.Literal

/-- Why a text is not a float literal. -/
inductive FloatError where
  | empty
  | noDigits
  | exponentNotAWord (digits : String)
  | exponentOverflow
  | leftover (next : Char)
deriving DecidableEq, Repr

def FloatError.message : FloatError → String
  | .empty => "EOF"
  | .noDigits => "number has no digits"
  | .exponentNotAWord digits =>
      "strconv.ParseInt: parsing " ++ Text.quoted digits ++ ": value out of range"
  | .exponentOverflow => "exponent overflow"
  | .leftover next => "expected end of string, found " ++ Text.quotedChar next

/-! ## Reading -/

/-- The digits before and after the point, and what follows them. -/
structure Significand where
  whole : List Nat
  fraction : List Nat
  rest : List Char

def readSignificand (chars : List Char) : Significand :=
  let (whole, rest) := decimalRun chars
  match rest with
  | '.' :: rest =>
      let (fraction, rest) := decimalRun rest
      ⟨whole, fraction, rest⟩
  | _ => ⟨whole, [], rest⟩

/-- An exponent of ten or of two. -/
structure Exponent where
  binary : Bool
  value : Int

/-- The digits of an exponent. They have to form a word. -/
def readExponentValue (binary : Bool) (chars : List Char) :
    Except FloatError (Exponent × List Char) :=
  let (negative, body) := splitSign chars
  let digits := body.takeWhile Char.isDigit
  if digits.isEmpty then .error .noDigits
  else
    let size := positional 10 (digits.filterMap (digit? 10))
    let value : Int := if negative then -size else size
    if Word.holds value then .ok (⟨binary, value⟩, body.dropWhile Char.isDigit)
    else .error (.exponentNotAWord (String.ofList (if negative then '-' :: digits else digits)))

def readExponent (chars : List Char) : Except FloatError (Exponent × List Char) :=
  match chars with
  | mark :: rest =>
      if mark = 'e' ∨ mark = 'E' then readExponentValue false rest
      else if mark = 'p' ∨ mark = 'P' then readExponentValue true rest
      else .ok (⟨false, 0⟩, chars)
  | [] => .ok (⟨false, 0⟩, [])

/-! ## Value

A decimal literal is an integer times a power of five times a power of two. The
power of five is itself a rounded number, with 64 more digits than the result. -/

def powerPrecision : Nat := BigFloat.precision + 64

/-- Multiply two positive numbers and round to `width`; infinity absorbs. -/
def mulRounded (width : Nat) : BigFloat → BigFloat → BigFloat
  | .finite _ left leftExponent, .finite _ right rightExponent =>
      BigFloat.roundTo width false (left * right) (leftExponent + rightExponent)
  | _, _ => .infinite false

/-- Multiply `power` by `square` to the power `count`, by repeated squaring. The
squares have 64 more digits than the product. -/
def raise (power square : BigFloat) (count : Nat) : BigFloat :=
  if stop : count = 0 then power
  else
    let power := if count % 2 = 1 then mulRounded powerPrecision power square else power
    raise power (mulRounded (powerPrecision + 64) square square) (count / 2)
termination_by count
decreasing_by omega

/-- The largest power of five in one unsigned 64-bit word. -/
def wordPower : Nat := 27

def powerOfFive (count : Nat) : BigFloat :=
  if count ≤ wordPower then .finite false (Nat.pow 5 count) 0
  else raise (.finite false (Nat.pow 5 wordPower) 0) (.finite false 5 0) (count - wordPower)

/-- `± significand · 5 ^ five · 2 ^ two`. -/
def scaled (negative : Bool) (significand : Nat) (five two : Int) : BigFloat :=
  if five = 0 then BigFloat.roundTo BigFloat.precision negative significand two
  else
    match powerOfFive five.natAbs with
    | .infinite _ => if five < 0 then BigFloat.zero negative else .infinite negative
    | .finite _ power exponent =>
        if five < 0 then
          BigFloat.roundQuotient BigFloat.precision negative significand two power exponent
        else
          BigFloat.roundTo BigFloat.precision negative (significand * power) (two + exponent)

/-- The value of the parts. The binary magnitude before the power of five is
applied has to be a 32-bit integer. -/
def floatValue (negative : Bool) (parts : Significand) (exponent : Exponent) :
    Except FloatError BigFloat :=
  let significand := positional 10 (parts.whole ++ parts.fraction)
  let point : Int := -parts.fraction.length
  let five := if exponent.binary then point else point + exponent.value
  let two := point + exponent.value
  let magnitude := BigFloat.magnitude significand two
  if significand = 0 then .ok (BigFloat.zero negative)
  else if BigFloat.leastMagnitude ≤ magnitude ∧ magnitude ≤ BigFloat.greatestMagnitude then
    .ok (scaled negative significand five two)
  else
    .error .exponentOverflow

/-- The first byte of a character's encoding, as a character. -/
def leadingByte (char : Char) : Char :=
  match (String.singleton char).toUTF8.toList with
  | byte :: _ => Char.ofNat byte.toNat
  | [] => char

def finiteFloat (chars : List Char) : Except FloatError BigFloat := do
  let (negative, body) := splitSign chars
  if chars.isEmpty then .error .empty
  let parts := readSignificand body
  if parts.whole.isEmpty && parts.fraction.isEmpty then .error .noDigits
  let (exponent, rest) ← readExponent parts.rest
  let value ← floatValue negative parts exponent
  match rest with
  | [] => .ok value
  | next :: _ => .error (.leftover (leadingByte next))

def float (text : String) : Except FloatError BigFloat :=
  let chars := withoutSeparators text
  let (negative, body) := splitSign chars
  if body = "Inf".toList ∨ body = "inf".toList then .ok (.infinite negative)
  else finiteFloat chars

end ComptimeTyping.Literal
