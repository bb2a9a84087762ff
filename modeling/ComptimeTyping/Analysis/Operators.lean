import ComptimeTyping.Analysis.Materialize

/-! Operators. -/

namespace ComptimeTyping

inductive PrefixOp where
  | negate
  | not
deriving DecidableEq, Repr

def PrefixOp.ofSymbol? : String → Option PrefixOp
  | "-" => some .negate
  | "!" => some .not
  | _ => none

inductive InfixOp where
  | arithmetic (op : ArithOp)
  /-- Comparison for equality, or for order. -/
  | comparison (ordered : Bool)
  | logical
deriving DecidableEq, Repr

def InfixOp.ofSymbol? (text : String) : Option InfixOp :=
  match ArithOp.ofSymbol? text with
  | some op => some (.arithmetic op)
  | none =>
      match text with
      | "==" | "!=" => some (.comparison false)
      | "<" | "<=" | ">" | ">=" => some (.comparison true)
      | "&&" | "||" => some .logical
      | _ => none

namespace Analysis

/-- The result of something that was reported. -/
def refuse (position : Position) (finding : Finding) : Analysis Operand := do
  report position finding
  return .unknown

/-! ## Prefix operators -/

def negation (position : Position) (right : Operand) : Analysis Operand := do
  match right.type.scalarTag? with
  | none => refuse position (.undefinedOperator "-" right.type)
  | some tag =>
      if !tag.isNumeric then refuse position (.undefinedOperator "-" right.type)
      else if tag = .usize then refuse position .negatedUsize
      else if tag.isComptime then
        return { type := right.type, value := right.value.map Constant.negate }
      else return .typed right.type

/-- An operand that was reported hides even an operator that does not exist. -/
def prefixed (node : Node) (operator : String) (right : Operand) : Analysis Operand := do
  if right.isUnknown then return .unknown
  match PrefixOp.ofSymbol? operator with
  | some .negate => negation node.position right
  | some .not =>
      if right.type = .bool then return .typed .bool
      else refuse node.position (.notRequiresBool right.type)
  | none => malformed node.position (.prefixOperator operator)

/-! ## Arithmetic -/

/-- Only a scalar type is handed down to the operands. -/
def scalarHint : Option Ty → Option Ty
  | some (.scalar tag) => some (.scalar tag)
  | _ => none

/-- The type of an arithmetic expression with a conversion in it: the type that is
asked for if that is a concrete number, else the type of the converted operand. -/
def explicitResult (left right : Operand) (leftTag rightTag : Tag) (target : Option Ty) : Tag :=
  match (target.bind Ty.scalarTag?).filter (fun tag => tag.isNumeric && tag.isConcrete) with
  | some tag => tag
  | none =>
      if left.explicit && !right.explicit then leftTag
      else if right.explicit && !left.explicit then rightTag
      else if rightTag.isComptime then leftTag
      else rightTag

/-- A conversion of one operand does not truncate a float literal on the other
side: report the literal where the result is an integer. -/
def keepsFraction (source : Resolved) (result : Tag) : Analysis Bool := do
  if source.type = .comptimeFloat ∧ ¬source.operand.explicit ∧ result.isInteger then
    match source.type.assign (.scalar result) false with
    | .error failure =>
        report source.position (.coercion "" failure)
        return false
    | .ok _ => return true
  else
    return true

/-- Two comptime operands: fold, so that overflow shows where the result gets a
representation. -/
def foldComptime (op : ArithOp) (left right : Resolved) (leftTag rightTag : Tag) :
    Analysis Operand := do
  let tag := if op = .div then .comptimeFloat else leftTag.promote rightTag
  match left.operand.value, right.operand.value with
  | some leftValue, some rightValue =>
      match leftValue.fold op rightValue with
      | .error cause => stop (.undefined cause)
      | .ok (some value) => return { type := .scalar tag, value := some value }
      | .ok none =>
          if rightValue.sign = 0 then refuse right.position .divisionByZero
          else return .typed (.scalar tag)
  | _, _ => return .typed (.scalar tag)

/-- The result type with at least one concrete operand, if the operands agree. -/
def arithmeticResult (node : Node) (left right : Resolved) (leftTag rightTag : Tag)
    (target : Option Ty) : Analysis (Option Tag) := do
  if left.operand.explicit || right.operand.explicit then
    let result := explicitResult left.operand right.operand leftTag rightTag target
    if !(← keepsFraction left result) then return none
    if !(← keepsFraction right result) then return none
    return some result
  else
    match leftTag.resolve rightTag false with
    | .ok tag => return some tag
    | .error failure =>
        report node.position (.coercion "" failure)
        return none

/-- Arithmetic on two numbers. -/
def combineNumbers (ctx : Context) (node : Node) (op : ArithOp) (left right : Resolved)
    (leftTag rightTag : Tag) (target : Option Ty) : Analysis Operand := do
  if (op = .intDiv ∨ op = .rem) ∧ (leftTag.isFloat ∨ rightTag.isFloat) then
    refuse node.position (.integerOperator op.symbol leftTag rightTag)
  else if leftTag.isComptime ∧ rightTag.isComptime then
    foldComptime op left right leftTag rightTag
  else
    match ← arithmeticResult node left right leftTag rightTag target with
    | none => return .unknown
    | some result =>
        if leftTag.isComptime then
          discard <| checkFits ctx left.position left.operand.value result
        if rightTag.isComptime then
          discard <| checkFits ctx right.position right.operand.value result
        if op = .div ∧ result.isInteger then
          refuse node.position (.floatDivision result)
        else
          return .typed (.scalar result)

/-- The tag of a number. -/
def numericTag? (type : Ty) : Option Tag :=
  type.scalarTag?.filter Tag.isNumeric

def arithmetic (ctx : Context) (node : Node) (op : ArithOp) (left right : Resolved)
    (target : Option Ty) : Analysis Operand := do
  if left.isUnknown || right.isUnknown then return .unknown
  match numericTag? left.type, numericTag? right.type with
  | some leftTag, some rightTag =>
      combineNumbers ctx node op left right leftTag rightTag target
  | some _, none => refuse node.position (.undefinedOperator op.symbol right.type)
  | none, _ => refuse node.position (.undefinedOperator op.symbol left.type)

/-! ## Comparison and logic

Their result is `bool` whatever was reported. -/

def compareScalars (ctx : Context) (node : Node) (operator : String) (ordered : Bool)
    (left right : Resolved) (leftTag rightTag : Tag) : Analysis Unit := do
  if ordered && !(leftTag.isNumeric && rightTag.isNumeric) then
    report node.position (.unordered operator leftTag rightTag)
  else
    match leftTag.resolve rightTag (left.operand.explicit || right.operand.explicit) with
    | .error failure => report node.position (.coercion "" failure)
    | .ok tag =>
        if tag.isConcrete then
          if leftTag.isComptime then
            discard <| checkFits ctx left.position left.operand.value tag
          if rightTag.isComptime then
            discard <| checkFits ctx right.position right.operand.value tag

def comparison (ctx : Context) (node : Node) (operator : String) (ordered : Bool)
    (left right : Resolved) : Analysis Operand := do
  if !(left.isUnknown || right.isUnknown) then
    match left.type.scalarTag?, right.type.scalarTag? with
    | some leftTag, some rightTag =>
        compareScalars ctx node operator ordered left right leftTag rightTag
    | _, _ => report node.position (.incomparable operator left.type right.type)
  return .typed .bool

def requireLogical (operator : String) (side : Resolved) : Analysis Unit := do
  if !(side.isUnknown || side.type == .bool) then
    report side.position (.notLogical operator side.type)

def logical (operator : String) (left right : Resolved) : Analysis Operand := do
  requireLogical operator left
  requireLogical operator right
  return .typed .bool

end Analysis

end ComptimeTyping
