import ComptimeTyping.Ty.Basic
import ComptimeTyping.Shape
import ComptimeTyping.Diagnostic.Code

/-! Why one type does not stand for another, and the words for it. -/

namespace ComptimeTyping

inductive CoercionFailure where
  /-- `void` combined with another tag. -/
  | voidOperand (left right : Tag)
  /-- Two different tags of which one is not a number. With a conversion marker
  the marker is at fault. -/
  | notNumeric (left right : Tag) (explicit : Bool)
  /-- Two different concrete numbers without a marker. -/
  | unmarked (left right : Tag)
  /-- Types of different kinds, such as a scalar and an array. -/
  | kinds (left right : Ty)
  | cannotAdapt (source target : Tag)
  | elementsCannotAdapt (source element : Tag) (target : Ty)
  | rangeCannotAdapt (source target : Ty)
  | shape (mismatch : ShapeMismatch)
  | voidSlot (source target : Tag)
  /-- A value in a slot of another type; `convertible` when a marker would help. -/
  | slot (source target : Ty) (convertible : Bool)
  /-- A float range can never become a range of indices. -/
  | floatIndexRange (source : Ty)
  | noConversion (source target : Ty) (reason : String)
deriving DecidableEq, Repr

namespace CoercionFailure

def code : CoercionFailure → Code
  | .notNumeric _ _ true => .unsupportedConversion
  | .shape _ => .dimensionMismatch
  | .floatIndexRange _ => .unsupportedConversion
  | .noConversion _ _ _ => .unsupportedConversion
  | _ => .typeMismatch

def message : CoercionFailure → String
  | .voidOperand left right => "type mismatch: " ++ left.name ++ " and " ++ right.name
  | .notNumeric left right _ => "type mismatch: " ++ left.name ++ " and " ++ right.name
  | .unmarked left right =>
      "type mismatch: " ++ left.name ++ " and " ++ right.name
        ++ " cannot be mixed without an explicit conversion"
  | .kinds left right => "type mismatch: " ++ left.render ++ " and " ++ right.render
  | .cannotAdapt source target =>
      source.name ++ " cannot adapt to " ++ target.name ++ " implicitly"
  | .elementsCannotAdapt source element _ =>
      "array elements of type " ++ source.name ++ " cannot adapt to " ++ element.name
        ++ " implicitly"
  | .rangeCannotAdapt source target =>
      source.render ++ " cannot adapt to " ++ target.render ++ " implicitly"
  | .shape mismatch => mismatch.message
  | .voidSlot source target =>
      "cannot use " ++ source.name ++ " where " ++ target.name ++ " is expected"
  | .slot source target _ =>
      "cannot use " ++ source.render ++ " where " ++ target.render ++ " is expected"
  | .floatIndexRange source => "cannot convert " ++ source.render ++ " to range[usize]"
  | .noConversion source target _ =>
      "cannot convert " ++ source.render ++ " to " ++ target.render

/-- What to write instead. A failure of shapes gives its advice where it is
reported, since only there the literal is known. -/
def help : CoercionFailure → String
  | .unmarked _ right => "convert one operand explicitly, e.g. `value:" ++ right.name ++ "`"
  | .cannotAdapt _ target => "use an explicit conversion: `value:" ++ target.name ++ "`"
  | .elementsCannotAdapt _ _ target =>
      "use an explicit conversion: `value:" ++ target.render ++ "`"
  | .rangeCannotAdapt _ target =>
      "use an explicit conversion: `value:" ++ target.render ++ "`"
  | .slot _ target true => "convert explicitly: `value:" ++ target.render ++ "`"
  | _ => ""

/-- Why a float literal does not become an integer by itself. -/
def fractionNote (source target : Tag) : String :=
  if source = .comptimeFloat ∧ target.isInteger then
    "float literals never adapt to integer types; converting to " ++ target.name
      ++ " drops the fraction and must be visible"
  else
    ""

def note : CoercionFailure → String
  | .voidOperand _ _ => "void only combines with void"
  | .notNumeric left right true =>
      "only numeric types convert; " ++ left.name ++ " and " ++ right.name
        ++ " have no conversion path"
  | .cannotAdapt source target => fractionNote source target
  | .elementsCannotAdapt source element _ => fractionNote source element
  | .rangeCannotAdapt source target => fractionNote source.elementTag target.elementTag
  | .voidSlot _ _ => "void only coerces to void"
  | .floatIndexRange _ =>
      "index ranges are usize ranges and there is no float to usize index conversion; "
        ++ "use integer bounds"
  | .noConversion _ _ reason => reason
  | _ => ""

def shape? : CoercionFailure → Option ShapeMismatch
  | .shape mismatch => some mismatch
  | _ => none

end CoercionFailure

end ComptimeTyping
