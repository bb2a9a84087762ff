import ComptimeTyping.Analysis.Operators

/-! Range expressions. The bounds are resolved one after the other, so what is
wrong with a bound is reported before the next one is looked at. -/

namespace ComptimeTyping.Analysis

/-- The element type that a range is asked to have. -/
def rangeHint (target : Option Ty) : Tag :=
  match target.bind Ty.rangeParts? with
  | some (element, _) => element
  | none => .unknown

/-- What the bounds are asked to be. -/
def boundHint (hint : Tag) : Option Ty :=
  if hint = .unknown then none else some (.scalar hint)

/-- The bounds seen so far: their common tag, and whether any was reported. -/
structure RangeParts where
  isInvalid : Bool
  tag : Option Tag
deriving DecidableEq, Repr

namespace RangeParts

def invalid (parts : RangeParts) : RangeParts :=
  { parts with isInvalid := true }

end RangeParts

/-- Only a comptime bound is folded. -/
def foldedBound (position : Position) (tag : Tag) (operand : Operand) : Bound :=
  ⟨position, if tag.isComptime then operand.value else none⟩

/-- Add a resolved bound. -/
def addBound (part : String) (parts : RangeParts) (bound : Resolved) :
    Analysis (RangeParts × Bound) := do
  if bound.isUnknown then return (parts.invalid, .absent)
  match numericTag? bound.type with
  | none =>
      report bound.position (.boundNotNumeric part bound.type)
      return (parts.invalid, .absent)
  | some tag =>
      let folded := foldedBound bound.position tag bound.operand
      match parts.tag with
      | none => return ({ parts with tag := some tag }, folded)
      | some joined =>
          match joined.resolve tag false with
          | .ok joined => return ({ parts with tag := some joined }, folded)
          | .error failure =>
              report bound.position
                (.coercion ("range " ++ part ++ " does not match the other bounds") failure)
              return (parts.invalid, folded)

/-- A range over a tag. -/
def rangeOf (tag : Tag) (form : RangeForm) (bounds : Bounds) : Operand :=
  { type := if tag.isComptime then .comptimeRange tag form else .range tag form,
    bounds := some bounds }

/-- The tag of a range whose bounds have a common one: comptime bounds take on the
hint where they can adapt and fit. -/
def adaptRange (ctx : Context) (hint tag : Tag) (bounds : Bounds) :
    Analysis (Option Tag) := do
  if tag.isComptime && hint.isConcrete && tag.canAdapt hint then
    if ← checkBoundsFit ctx bounds hint then return some hint else return none
  else
    return some tag

/-- A range of resolved bounds. -/
def rangeLiteral (ctx : Context) (node : Node) (step : Position) (form : RangeForm)
    (hint : Tag) (parts : RangeParts) (bounds : Bounds) : Analysis Operand := do
  if parts.isInvalid then return .unknown
  match parts.tag with
  | none =>
      let element := if hint.isConcrete && hint.isNumeric then hint else .comptimeInt
      return rangeOf element form bounds
  | some tag =>
      match ← adaptRange ctx hint tag bounds with
      | none => return .unknown
      | some element =>
          if (bounds.step.value.map Constant.sign) = some 0 then
            refuse step .zeroStep
          else if ← requireFloatStep node.position element form then
            return rangeOf element form bounds
          else
            return .unknown

/-! ## Ranges as indices -/

/-- Whether a type may index an array: only ranges of `usize` and of integer
literals do. An unknown type was already reported. -/
def validateRangeIndex (position : Position) (type : Ty) : Analysis Bool := do
  match type.rangeParts? with
  | none =>
      if type.isUnknown then return true
      report position (.notAnIndexRange type)
      return false
  | some (element, _) =>
      if element = .usize ∨ element = .comptimeInt then return true
      if element.isFloat then report position (.floatIndexRange type)
      else report position (.signedIndexRange type)
      return false

end ComptimeTyping.Analysis
