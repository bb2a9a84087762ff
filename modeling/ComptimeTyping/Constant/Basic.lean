import ComptimeTyping.Tag
import ComptimeTyping.Literal.Integer
import ComptimeTyping.Literal.Float
import ComptimeTyping.Number.Decimal

/-! Folded values of comptime expressions: exact integers and 256-bit floats. A
value that is not known is `none` of `Option Constant`. -/

namespace ComptimeTyping

inductive Constant where
  | int (value : Int)
  | float (value : BigFloat)
deriving DecidableEq, Repr

/-- The operators that fold. `div` is division of floats, `intDiv` of integers. -/
inductive ArithOp where
  | add
  | sub
  | mul
  | div
  | intDiv
  | rem
deriving DecidableEq, Repr

namespace ArithOp

def symbol : ArithOp → String
  | .add => "+"
  | .sub => "-"
  | .mul => "*"
  | .div => "/"
  | .intDiv => "\\"
  | .rem => "%"

def ofSymbol? (text : String) : Option ArithOp :=
  [ArithOp.add, .sub, .mul, .div, .intDiv, .rem].find? (·.symbol == text)

end ArithOp

namespace Constant

/-! ## Literals -/

def ofIntegerLiteral? (text : String) : Option Constant :=
  (Literal.integer? text).map .int

def ofFloatLiteral (text : String) : Except Literal.FloatError Constant :=
  (Literal.float text).map .float

/-! ## Views -/

def isFloat : Constant → Bool
  | .int _ => false
  | .float _ => true

def toFloat : Constant → BigFloat
  | .int value => BigFloat.ofInt value
  | .float value => value

def sign : Constant → Int
  | .int value => value.sign
  | .float value => value.sign

/-- The value of an integer that is a 64-bit word. -/
def word? : Constant → Option Int
  | .int value => Word.ofInt? value
  | .float _ => none

def render : Constant → String
  | .int value => toString value
  | .float value => value.text

/-! ## Folding -/

def negate : Constant → Constant
  | .int value => .int (-value)
  | .float value => .float value.negate

def foldInt (op : ArithOp) (left right : Int) : Option Int :=
  match op with
  | .add => some (left + right)
  | .sub => some (left - right)
  | .mul => some (left * right)
  | .intDiv => if right = 0 then none else some (left.tdiv right)
  | .rem => if right = 0 then none else some (left.tmod right)
  | .div => none

def foldFloat (op : ArithOp) (left right : BigFloat) :
    Except BigFloat.Undefined (Option BigFloat) :=
  match op with
  | .add => (left.add right).map some
  | .sub => (left.sub right).map some
  | .mul => (left.mul right).map some
  | .div => if right.isZero then .ok none else (left.div right).map some
  | .intDiv => .ok none
  | .rem => .ok none

/-- Fold an operator. The result is `none` for a division by zero and for an
integer operator on floats. -/
def fold (op : ArithOp) (left right : Constant) :
    Except BigFloat.Undefined (Option Constant) :=
  match op, left, right with
  | .div, _, _ => (foldFloat op left.toFloat right.toFloat).map (·.map .float)
  | _, .int left, .int right => .ok ((foldInt op left right).map .int)
  | _, _, _ => (foldFloat op left.toFloat right.toFloat).map (·.map .float)

end Constant

end ComptimeTyping
