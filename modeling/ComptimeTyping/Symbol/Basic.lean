import ComptimeTyping.Ty.Basic
import ComptimeTyping.Constant.Basic

/-! What a name stands for: variables with what is known of their value, and
function signatures. -/

namespace ComptimeTyping

/-- The folded bounds of a range binding. -/
structure RangeValues where
  start : Option Constant
  stop : Option Constant
  step : Option Constant
deriving DecidableEq, Repr

/-- A variable. A binding that is made from outside may have no type. -/
structure Symbol where
  name : String
  type : Option Ty
  isMutable : Bool
  /-- False from a declaration with `undef` until the first assignment. -/
  isInitialized : Bool := true
  isParameter : Bool := false
  /-- The folded value of a comptime scalar. -/
  value : Option Constant := none
  /-- The folded elements of a comptime array in row-major order. -/
  elements : Option (List (Option Constant)) := none
  bounds : Option RangeValues := none
deriving DecidableEq, Repr

namespace Symbol

def isComptime (symbol : Symbol) : Bool :=
  (symbol.type.map Ty.isComptime).getD false

end Symbol

structure Parameter where
  name : String
  type : Option Ty
  isMutable : Bool
deriving DecidableEq, Repr

/-- The name of a type that is absent, inside a message. -/
def absentType : String := "%!s(<nil>)"

/-- What stands in a message for a parameter that cannot be shown. -/
def absentParameter : String :=
  "%!s(PANIC=String method: runtime error: invalid memory address or nil pointer dereference)"

namespace Parameter

/-- The declaration of a parameter. Only one with a type can be shown. -/
def render (parameter : Parameter) : String :=
  match parameter.type with
  | some type =>
      (if parameter.isMutable then "mut " else "") ++ parameter.name ++ ": " ++ type.render
  | none => absentParameter

/-- The variable that a parameter is inside its function. -/
def toSymbol (parameter : Parameter) : Symbol :=
  { name := parameter.name, type := parameter.type, isMutable := parameter.isMutable,
    isParameter := true }

end Parameter

/-- A function without a result type returns `void`. -/
structure Signature where
  name : String
  parameters : List Parameter
  result : Option Ty
deriving DecidableEq, Repr

namespace Signature

def resultType (signature : Signature) : Ty :=
  signature.result.getD .void

def render (signature : Signature) : String :=
  "func " ++ signature.name ++ "("
    ++ ", ".intercalate (signature.parameters.map Parameter.render) ++ ") : "
    ++ signature.resultType.render

end Signature

end ComptimeTyping
