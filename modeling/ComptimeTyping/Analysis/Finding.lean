import ComptimeTyping.Coercion.Failure
import ComptimeTyping.Constant.Bounds
import ComptimeTyping.Diagnostic.Basic
import ComptimeTyping.Symbol.Basic

/-! What the analysis has to say about a program: the code and the words of every
problem that it recovers from. -/

namespace ComptimeTyping

/-- A problem before it is placed. -/
structure Finding where
  code : Code
  message : String
  help : String := ""
  note : String := ""
deriving DecidableEq, Repr

namespace Finding

/-- A finding is reported at a position. -/
def placed (finding : Finding) (position : Position) : Diagnostic :=
  { code := finding.code, position, message := finding.message, help := finding.help,
    note := finding.note }

/-- Say first which slot a problem is about. -/
def labelled (label message : String) : String :=
  if label = "" then message else label ++ ": " ++ message

def coercion (label : String) (failure : CoercionFailure) : Finding :=
  { code := failure.code, message := labelled label failure.message,
    help := (failure.shape?.map ShapeMismatch.help).getD failure.help, note := failure.note }

/-! ## Names -/

def undeclared (name : String) (isFunction : Bool) : Finding :=
  { code := .scope, message := "undeclared identifier " ++ name,
    help :=
      if isFunction then "functions are not values; call it as `" ++ name ++ "(...)`" else "" }

def uninitialized (name : String) : Finding :=
  { code := .scope, message := name ++ " is read before it is initialized",
    help := "assign a value to " ++ name ++ " before using it" }

def redeclared (name : String) : Finding :=
  { code := .scope, message := name ++ " is already declared in this scope",
    help := "assign to the existing variable, or pick another name" }

def unknownType (name : String) : Finding :=
  { code := .scope, message := "unknown type " ++ name }

/-! ## Type expressions -/

def dimNotPositive (size : Int) : Finding :=
  { code := .dimensionMismatch,
    message := "array dimension must be positive, got " ++ toString size }

def elementNotScalar (element : Ty) : Finding :=
  { code := .typeMismatch,
    message := "array element must be a scalar type, got " ++ element.render }

def notFormed (cause : Ty.FormationError) : Finding :=
  { code := .typeMismatch, message := cause.message }

/-! ## Literals and materialization -/

def misplacedUndef : Finding :=
  { code := .annotationMissing,
    message := "undef is only allowed as the initializer of an annotated mut declaration",
    help := "declare the variable as `mut name: T = undef`" }

def overflowHelp : Tag → String
  | .i32 => "use a wider type such as `i64`"
  | .f32 => "use `f64`"
  | _ => "reduce the value"

def overflow (value : Constant) (tag : Tag) (width : PointerWidth) : Finding :=
  { code := .overflow, message := "value " ++ value.render ++ " overflows " ++ tag.name,
    help := overflowHelp tag,
    note := tag.name ++ " holds " ++ tag.describeBounds width }

def shape (label : String) (mismatch : ShapeMismatch) : Finding :=
  { code := .dimensionMismatch, message := labelled label mismatch.message,
    help := mismatch.help,
    note :=
      if mismatch.mismatches.any (·.source.isWildcard) then
        "a `_` dimension is only known at runtime and cannot fill a fixed dimension"
      else "" }

/-! ## Array literals -/

def emptyArray : Finding :=
  { code := .annotationMissing, message := "empty array literal needs a type annotation",
    help := "annotate the declaration, e.g. `val xs: [_]i32 = []`" }

def emptyArrayLength (size : Int) : Finding :=
  { code := .dimensionMismatch,
    message := "array size mismatch (dimension 0: 0 vs " ++ toString size ++ ")",
    help := "use a wildcard dimension `[_]` or add elements" }

def elementKind (type : Ty) : Finding :=
  { code := .typeMismatch,
    message := "array elements must be scalars or arrays, got " ++ type.render }

def notScalarElement (index : Nat) (type : Ty) : Finding :=
  { code := .dimensionMismatch,
    message := "array element " ++ toString index ++ " is " ++ type.render
      ++ ", but element 0 is a scalar" }

def notArrayElement (index : Nat) (type : Ty) : Finding :=
  { code := .dimensionMismatch,
    message := "array element " ++ toString index ++ " is " ++ type.render
      ++ ", but element 0 is an array" }

def voidElements : Finding :=
  { code := .typeMismatch, message := "array elements cannot be void" }

def raggedRows (first : List Dim) (index : Nat) (row : List Dim) : Finding :=
  { code := .dimensionMismatch,
    message := "inconsistent sub-array shapes: element 0 is " ++ Dim.renderAll first
      ++ ", element " ++ toString index ++ " is " ++ Dim.renderAll row,
    help := "every row of a multidimensional array must have the same length" }

/-! ## Properties, elements and slices -/

def noProperty (type : Ty) (name : String) : Finding :=
  { code := .typeMismatch, message := type.render ++ " has no property " ++ name }

def notIndexable (type : Ty) : Finding :=
  { code := .typeMismatch, message := type.render ++ " cannot be indexed" }

def indexOutOfBounds (index length : Int) : Finding :=
  { code := .dimensionMismatch,
    message := "index " ++ toString index ++ " is out of bounds for length "
      ++ toString length }

def floatIndex (tag : Tag) : Finding :=
  { code := .unsupportedConversion, message := "array index must be usize, got " ++ tag.name,
    note := "float values never index arrays" }

def signedIndex (tag : Tag) : Finding :=
  { code := .typeMismatch, message := "array index must be usize, got " ++ tag.name,
    help := "convert explicitly: `i:usize`" }

def notAnIndex (type : Ty) : Finding :=
  { code := .typeMismatch, message := "array index must be usize, got " ++ type.render }

def notAnIndexRange (type : Ty) : Finding :=
  { code := .typeMismatch, message := type.render ++ " cannot index an array" }

def floatIndexRange (type : Ty) : Finding :=
  { code := .unsupportedConversion, message := type.render ++ " cannot index an array",
    help := "use integer bounds",
    note := "array indices are usize and there is no conversion from a float range to "
      ++ "range[usize], explicit or not" }

def signedIndexRange (type : Ty) : Finding :=
  { code := .typeMismatch,
    message := "array index range must be range[usize], got " ++ type.render,
    help := "convert explicitly: `r:range[usize]`" }

def comptimeSlice : Finding :=
  { code := .annotationMissing, message := "slicing a comptime array needs literal bounds",
    help := "materialize the array first, e.g. `val xs: [_]i32 = ...`" }

def negativeStep (step : Int) : Finding :=
  { code := .rangeShape, message := "slice step must be positive, got " ++ toString step }

def sliceText (start stop : Int) : String :=
  "slice " ++ toString start ++ ".." ++ toString stop

def sliceOutOfBounds (start stop length : Int) : Finding :=
  { code := .dimensionMismatch,
    message := sliceText start stop ++ " is out of bounds for length " ++ toString length }

def emptySlice (start stop : Int) : Finding :=
  { code := .rangeShape, message := sliceText start stop ++ " is empty" }

/-! ## Ranges -/

def stepWithoutStart : Finding :=
  { code := .rangeShape, message := "a range step requires a start bound",
    help := "write the range as `start..end:step`" }

def boundNotNumeric (part : String) (type : Ty) : Finding :=
  { code := .typeMismatch,
    message := "range " ++ part ++ " must be numeric, got " ++ type.render }

def zeroStep : Finding :=
  { code := .rangeShape, message := "range step cannot be zero" }

def floatRangeStep : Finding :=
  { code := .rangeShape, message := "float range requires explicit step",
    help := "add a step: `start..end:step`, e.g. `0.0..10.0:0.1`",
    note := "float ranges have no natural increment" }

/-! ## Operators -/

def undefinedOperator (operator : String) (type : Ty) : Finding :=
  { code := .typeMismatch,
    message := "operator " ++ operator ++ " is not defined for " ++ type.render }

def negatedUsize : Finding :=
  { code := .typeMismatch, message := "cannot negate a usize value",
    help := "convert to a signed type first: `value:i64`" }

def notRequiresBool (type : Ty) : Finding :=
  { code := .typeMismatch, message := "operator ! requires bool, got " ++ type.render }

def integerOperator (operator : String) (left right : Tag) : Finding :=
  { code := .typeMismatch,
    message := "operator " ++ operator ++ " requires integer operands, got " ++ left.name
      ++ " and " ++ right.name,
    help := "use `/` for float division" }

def divisionByZero : Finding :=
  { code := .typeMismatch, message := "division by zero in constant expression" }

/-- The float type to convert to before a float division. -/
def floatPartner (tag : Tag) : Tag :=
  if tag = .i32 then .f32 else .f64

def floatDivision (result : Tag) : Finding :=
  { code := .typeMismatch,
    message := "operator / is float division and cannot produce " ++ result.name,
    help := "use `\\` for integer division, or convert an operand: `value:"
      ++ (floatPartner result).name ++ "`" }

def incomparable (operator : String) (left right : Ty) : Finding :=
  { code := .typeMismatch,
    message := "operator " ++ operator ++ " is not defined for " ++ left.render ++ " and "
      ++ right.render }

def unordered (operator : String) (left right : Tag) : Finding :=
  { code := .typeMismatch,
    message := "operator " ++ operator ++ " requires numeric operands, got " ++ left.name
      ++ " and " ++ right.name }

def notLogical (operator : String) (type : Ty) : Finding :=
  { code := .typeMismatch,
    message := "operator " ++ operator ++ " requires bool operands, got " ++ type.render }

/-! ## Conditionals and blocks -/

def conditionNotBool (type : Ty) : Finding :=
  { code := .typeMismatch, message := "if condition must be bool, got " ++ type.render }

def branchesDisagree (left right : Ty) : Finding :=
  { code := .typeMismatch,
    message := "branches disagree: " ++ left.render ++ " and " ++ right.render,
    help := "annotate the result to choose a type, e.g. `val x: f64 = ...`",
    note := "comptime_int and comptime_float branches are not combined implicitly" }

def yieldOutsideBlock : Finding :=
  { code := .scope, message := "`->` is only valid inside an expression block" }

/-! ## Declarations and assignments -/

def voidVariable (name : String) : Finding :=
  { code := .typeMismatch, message := "variable " ++ name ++ " cannot have type void" }

def voidBinding (name : String) : Finding :=
  { code := .typeMismatch, message := "cannot bind " ++ name ++ " to a void value" }

/-- The concrete type that a comptime type usually becomes. -/
def usualType : Ty → String
  | .scalar tag => (usualTag tag).name
  | .comptimeArray element dims =>
      Ty.render (.comptimeArray (usualTag element) dims)
  | .comptimeRange element form => Ty.render (.range (usualTag element) form)
  | type => type.render
where
  usualTag (tag : Tag) : Tag :=
    if tag = .comptimeFloat then .f64 else .i32

def mutableComptime (name : String) (type : Ty) : Finding :=
  { code := .annotationMissing,
    message := "mut " ++ name ++ " needs a type annotation: a mutable variable cannot hold "
      ++ type.render,
    help := "annotate the type, e.g. `mut " ++ name ++ ": " ++ usualType type ++ " = ...`" }

def untypedUndef (name : String) : Finding :=
  { code := .annotationMissing, message := "undef requires a type annotation",
    help := "declare it as `mut " ++ name ++ ": T = undef`" }

def immutableUndef (name : String) (type : Ty) : Finding :=
  { code := .mutability, message := "val " ++ name ++ " = undef can never be initialized",
    help := "declare it as `mut " ++ name ++ ": " ++ type.render ++ " = undef`" }

def assignToParameter (parameter : Parameter) : Finding :=
  { code := .mutability, message := "cannot assign to parameter " ++ parameter.name,
    help := "declare the parameter as `"
      ++ ({ parameter with isMutable := true } : Parameter).render ++ "`" }

def assignToImmutable (name : String) (type : Option Ty) : Finding :=
  { code := .mutability, message := "cannot assign to immutable " ++ name,
    help := "declare it with `mut " ++ name ++ ": " ++ (type.map Ty.render).getD absentType
      ++ "`" }

/-! ## Functions -/

def nestedFunction : Finding :=
  { code := .scope, message := "functions can only be declared at the top level" }

def functionRedeclared (name : String) : Finding :=
  { code := .scope, message := "function " ++ name ++ " is already declared" }

def voidParameter (name : String) : Finding :=
  { code := .typeMismatch, message := "parameter " ++ name ++ " cannot have type void" }

def duplicateParameter (name function : String) : Finding :=
  { code := .scope, message := "duplicate parameter " ++ name ++ " in " ++ function }

def parameterRefused (number : Nat) (name function cause : String) : Finding :=
  { code := .scope,
    message := "cannot declare parameter " ++ toString number ++ " (" ++ name ++ ") of "
      ++ function ++ ": " ++ cause }

def returnOutsideFunction : Finding :=
  { code := .scope, message := "return outside of a function" }

def valueFromVoid (function : String) (type : Ty) : Finding :=
  { code := .typeMismatch,
    message := "function " ++ function ++ " returns void but a value of type " ++ type.render
      ++ " is returned",
    help := "remove the value: `return`" }

def mustReturn (function : String) (type : Ty) (help : String) : Finding :=
  { code := .typeMismatch,
    message := "function " ++ function ++ " must return a value of type " ++ type.render,
    help }

def undeclaredFunction (name : String) (isVariable : Bool) : Finding :=
  { code := .scope, message := "undeclared function " ++ name,
    note := if isVariable then name ++ " is a variable, not a function" else "" }

def arity (signature : Signature) (given : Nat) : Finding :=
  { code := .arityMismatch,
    message := signature.name ++ " expects " ++ toString signature.parameters.length
      ++ " argument(s), got " ++ toString given,
    help := "signature: " ++ signature.render }

end Finding

/-- A finding and where to report it. -/
abbrev Complaint := Position × Finding

end ComptimeTyping
