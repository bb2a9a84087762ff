import ComptimeTyping.Analysis.State
import ComptimeTyping.Program.Tree

/-! Type expressions. -/

namespace ComptimeTyping

namespace Analysis

/-- The axes of an array type as they are written. The first one that is not
positive is reported, and then there are none. -/
def readDims (node : Node) : List (Option DimExpr) → Analysis (Option (List Dim))
  | [] => return some []
  | none :: _ => malformed node.position .arrayDim
  | some dim :: dims =>
      match dim.size with
      | none => return (← readDims node dims).map (.wildcard :: ·)
      | some size => do
          if size ≤ 0 then
            report dim.position (.dimNotPositive size)
            return none
          else
            return (← readDims node dims).map (.fixed size :: ·)

/-- The array types around an element: the outermost node and all axes, outermost
first. -/
structure Enclosing where
  node : Node
  dims : List Dim
deriving DecidableEq, Repr

/-- Put the array types around a type that is not an array itself. -/
def enclose (enclosing : Option Enclosing) (position : Position) (element : Ty) :
    Analysis Ty := do
  match enclosing with
  | none => return element
  | some enclosing =>
      if element.isUnknown then return .unknown
      match element.scalarTag? with
      | none =>
          report position (.elementNotScalar element)
          return .unknown
      | some tag =>
          match Ty.array? tag enclosing.dims with
          | .ok type => return type
          | .error cause =>
              report enclosing.node.position (.notFormed cause)
              return .unknown

def namedType (node : Node) (name : String) : Analysis Ty := do
  match Tag.parse? name with
  | some tag => return .scalar tag
  | none =>
      report node.position (.unknownType name)
      return .unknown

def rangeType (node : Node) (element : Ty) : Analysis Ty := do
  if element.isUnknown then return .unknown
  match Ty.range? (element.scalarTag?.getD .unknown) .bare with
  | .ok type => return type
  | .error cause =>
      report node.position (.notFormed cause)
      return .unknown

end Analysis

open Analysis

/-- The type of a type expression inside of array types. Nested array types are
one array type, so `[2]([3]i32)` is `[2][3]i32`. -/
def TypeExpr.resolveIn (enclosing : Option Enclosing) : TypeExpr → Analysis Ty
  | .missing => malformed .nowhere .noTypeExpression
  | .named node name => do enclose enclosing node.position (← namedType node name)
  | .array node dims element => do
      if dims.isEmpty || element.isMissing then malformed node.position .arrayType
      match ← readDims node dims with
      | none => return .unknown
      | some dims =>
          match enclosing with
          | none => element.resolveIn (some ⟨node, dims⟩)
          | some outer => element.resolveIn (some { outer with dims := outer.dims ++ dims })
  | .range node element => do
      if element.isMissing then malformed node.position .rangeElement
      enclose enclosing node.position (← rangeType node (← element.resolveIn none))

/-- The type of a type expression; unknown if it was reported. -/
def TypeExpr.resolve (type : TypeExpr) : Analysis Ty :=
  type.resolveIn none

end ComptimeTyping
