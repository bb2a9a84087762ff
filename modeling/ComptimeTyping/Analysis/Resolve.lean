import ComptimeTyping.Analysis.Arrays
import ComptimeTyping.Analysis.Declarations
import ComptimeTyping.Analysis.Functions
import ComptimeTyping.Analysis.Indexing

/-! Resolution of expressions and statements. Types come from below; the type that
the surroundings ask for comes from above. Every expression that is resolved has
its type noted. -/

namespace ComptimeTyping

namespace Analysis

/-! ## Leaves -/

def integerLiteral (node : Node) (text : String) : Analysis Operand := do
  match Constant.ofIntegerLiteral? text with
  | some value => return { type := .comptimeInt, value := some value }
  | none => malformed node.position (.integerLiteral text)

def floatLiteral (node : Node) (text : String) : Analysis Operand := do
  match Constant.ofFloatLiteral text with
  | .ok value => return { type := .comptimeFloat, value := some value }
  | .error cause => malformed node.position (.floatLiteral text cause)

def identifier (name : Ident) : Analysis Operand := do
  match (← table).lookup? name.name with
  | none => refuse name.position (.undeclared name.name ((← table).function? name.name).isSome)
  | some symbol =>
      if !symbol.isInitialized then report name.position (.uninitialized name.name)
      return .ofSymbol name.position symbol

/-! ## Operators -/

/-- What an operator asks of its operands. -/
def operandHint (op : InfixOp) (target : Option Ty) : Option Ty :=
  match op with
  | .arithmetic _ => scalarHint target
  | .comparison _ => none
  | .logical => some .bool

def infixed (ctx : Context) (node : Node) (operator : String) (op : InfixOp)
    (left right : Resolved) (target : Option Ty) : Analysis Operand :=
  match op with
  | .arithmetic op => arithmetic ctx node op left right target
  | .comparison ordered => comparison ctx node operator ordered left right
  | .logical => logical operator left right

/-- The conversion `value:Type` of a resolved value. -/
def converted (ctx : Context) (node : Node) (value : Resolved) (target : Ty) :
    Analysis Operand := do
  if value.isUnknown || target.isUnknown then return { type := target, explicit := true }
  match value.type.convert target with
  | .error failure =>
      report node.position (.coercion "" failure)
      return { type := target, explicit := true }
  | .ok type =>
      if value.type.isComptime then checkContents ctx node.position value type
      return { type, explicit := true }

def requireCondition (condition : Resolved) : Analysis Unit := do
  if !(condition.isUnknown || condition.type == .bool) then
    report condition.position (.conditionNotBool condition.type)

/-! ## Ranges -/

/-- A step needs a start to count from. -/
def startParts (start step : Expr) : Analysis RangeParts := do
  if start.isMissing && !step.isMissing then
    report step.node.position .stepWithoutStart
    return ⟨true, none⟩
  else
    return ⟨false, none⟩

/-- Resolve a bound, if it is there, and add it to those before. -/
def withBound (part : String) (parts : RangeParts) (bound : Expr)
    (resolve : Analysis Operand) : Analysis (RangeParts × Bound) := do
  if bound.isMissing then return (parts, .absent)
  addBound part parts ⟨bound.node, ← resolve⟩

/-! ## Blocks -/

/-- The value of a block: what its `->` statements agree on, `void` without any. -/
def blockValue (ctx : Context) (target : Option Ty) (statements : Analysis (List Resolved)) :
    Analysis Operand :=
  withScope .block do
    match ← statements with
    | [] => return .typed .void
    | branches => unifyBranches ctx branches target

/-! ## Calls -/

def argumentLabel (number : Nat) (parameter : Parameter) (signature : Signature) : String :=
  "argument " ++ toString number ++ " (" ++ parameter.name ++ ") of " ++ signature.name

def requireArity (node : Node) (signature : Signature) (given : Nat) : Analysis Unit := do
  if given ≠ signature.parameters.length then
    report node.position (.arity signature given)

/-! ## Statements -/

/-- Report a value that a function without a result returns. -/
def requireNoValue (signature : Signature) (value : Resolved) : Analysis Unit := do
  if !(value.isUnknown || value.type.isVoid) then
    report value.position (.valueFromVoid signature.name value.type)

def markReturned : Analysis Unit :=
  setReturned true

def clearReturned : Analysis Unit :=
  setReturned false

end Analysis

open Analysis

mutual

def Expr.resolve (ctx : Context) (target : Option Ty) : Expr → Analysis Operand
  | .missing => malformed .nowhere .noExpression
  | .int node text => recorded node (integerLiteral node text)
  | .float node text => recorded node (floatLiteral node text)
  | .bool node _ => recorded node (return .typed .bool)
  | .string node _ => recorded node (return .typed (.scalar .string))
  | .undef node => recorded node (refuse node.position .misplacedUndef)
  | .ident name => recorded name.node (identifier name)
  | .prefixOp node operator right => recorded node do
      prefixed node operator (← right.resolve ctx target)
  | .infixOp node left operator right => recorded node do
      match InfixOp.ofSymbol? operator with
      | none => malformed node.position (.infixOperator operator)
      | some op =>
          let leftOperand ← left.resolve ctx (operandHint op target)
          let rightOperand ← right.resolve ctx (operandHint op target)
          infixed ctx node operator op ⟨left.node, leftOperand⟩ ⟨right.node, rightOperand⟩
            target
  | .conversion node value type => recorded node do
      if type.isMissing then malformed node.position .conversionTarget
      let type ← type.resolve
      let operand ← value.resolve ctx none
      converted ctx node ⟨value.node, operand⟩ type
  | .array node items => recorded node do
      let elements ← items.resolveAll ctx (elementTarget target)
      arrayLiteral ctx node elements target
  | .range node start stop step inclusive => recorded node do
      let hint := rangeHint target
      let parts ← startParts start step
      let (parts, startBound) ←
        withBound "start" parts start (start.resolve ctx (boundHint hint))
      let (parts, stopBound) ← withBound "end" parts stop (stop.resolve ctx (boundHint hint))
      let (parts, stepBound) ← withBound "step" parts step (step.resolve ctx (boundHint hint))
      rangeLiteral ctx node step.node.position
        ⟨!start.isMissing, !stop.isMissing, !step.isMissing, inclusive⟩ hint parts
        ⟨startBound, stopBound, stepBound⟩
  | .index node left index => recorded node do
      let array ← left.resolve ctx none
      let operand ← index.resolve ctx (some (indexTarget index.isRange))
      indexing ctx node ⟨left.node, array⟩ ⟨index.node, operand⟩
  | .member node left name => recorded node do
      match name with
      | none => malformed node.position .propertyName
      | some name => property (← left.resolve ctx none) name
  | .call node callee arguments => recorded node do
      match callee with
      | none => malformed node.position .functionName
      | some callee =>
          match (← table).function? callee.name with
          | some signature =>
              requireArity node signature arguments.length
              arguments.resolveArguments ctx signature 1 signature.parameters
              return .typed signature.resultType
          | none =>
              report callee.position
                (.undeclaredFunction callee.name ((← table).lookup? callee.name).isSome)
              discard <| arguments.resolveAll ctx none
              return .unknown
  | .block node statements =>
      recorded node (blockValue ctx target (statements.analyze (ctx.inBlock target)))
  | .conditional node condition consequence alternative => recorded node do
      let operand ← condition.resolve ctx (some .bool)
      requireCondition ⟨condition.node, operand⟩
      if consequence.isMissing then malformed node.position .consequence
      let first ← consequence.resolve ctx target
      if alternative.isMissing then return .typed .void
      let second ← alternative.resolve ctx target
      unifyBranches ctx [⟨consequence.node, first⟩, ⟨alternative.node, second⟩] target

def Exprs.resolveAll (ctx : Context) (target : Option Ty) : Exprs → Analysis (List Resolved)
  | .nil => return []
  | .cons head tail => do
      let operand ← head.resolve ctx target
      return ⟨head.node, operand⟩ :: (← tail.resolveAll ctx target)

/-- Resolve arguments, each in the slot of its parameter. Those beyond the last
parameter are resolved on their own. -/
def Exprs.resolveArguments (ctx : Context) (signature : Signature) (number : Nat)
    (parameters : List Parameter) : Exprs → Analysis Unit
  | .nil => return
  | .cons head tail => do
      match parameters with
      | [] =>
          discard <| head.resolve ctx none
          tail.resolveArguments ctx signature (number + 1) []
      | parameter :: parameters =>
          let operand ← head.resolve ctx parameter.type
          materialize? ctx ⟨head.node, operand⟩ parameter.type
            (argumentLabel number parameter signature)
          tail.resolveArguments ctx signature (number + 1) parameters

def Body.resolve (ctx : Context) (target : Option Ty) : Body → Analysis Operand
  | .missing => malformed .nowhere .noExpression
  | .block node statements =>
      recorded node (blockValue ctx target (statements.analyze (ctx.inBlock target)))

/-- Analyze statements and collect what they give to the enclosing block. -/
def Stmts.analyze (ctx : Context) : Stmts → Analysis (List Resolved)
  | .nil => return []
  | .cons head tail => do
      let branch ← head.analyze ctx
      return branch.toList ++ (← tail.analyze ctx)

def Stmt.analyze (ctx : Context) : Stmt → Analysis (Option Resolved)
  | .missing => malformed .nowhere .noStatement
  | .declaration node isMutable name type value => do
      match name with
      | none => malformed node.position .declarationParts
      | some name =>
          if value.isMissing then malformed node.position .declarationParts
          let declared ← declaredType name.name type
          if value.isUndef then
            bindUndef isMutable name declared value.node
          else
            let operand ← value.resolve ctx declared
            bindValue ctx isMutable name declared ⟨value.node, operand⟩
          return none
  | .assignment node name value => do
      match name with
      | none => malformed node.position .assignmentParts
      | some name =>
          if value.isMissing then malformed node.position .assignmentParts
          match (← table).lookup? name.name with
          | none =>
              report name.position (.undeclared name.name false)
              discard <| value.resolve ctx none
          | some symbol =>
              requireMutable name symbol
              let operand ← value.resolve ctx symbol.type
              assign ctx name symbol ⟨value.node, operand⟩
          return none
  | .returning node value => do
      match ctx.function with
      | none =>
          report node.position .returnOutsideFunction
          if !value.isMissing then discard <| value.resolve ctx none
      | some signature =>
          markReturned
          let result := signature.resultType
          if result.isVoid then
            if !value.isMissing then
              let operand ← value.resolve ctx none
              requireNoValue signature ⟨value.node, operand⟩
          else if value.isMissing then
            report node.position (.mustReturn signature.name result "")
          else
            let operand ← value.resolve ctx (some result)
            discard <| materialize ctx ⟨value.node, operand⟩ result
              ("return value of " ++ signature.name)
      return none
  | .yielding node value => do
      if value.isMissing then malformed node.position .yieldValue
      match ctx.block with
      | none =>
          report node.position .yieldOutsideBlock
          discard <| value.resolve ctx none
          return none
      | some target =>
          let operand ← value.resolve ctx target
          return some ⟨value.node, operand⟩
  | .expression _ value => do
      discard <| value.resolve ctx none
      return none
  | .function node name parameters result body => do
      if ctx.function.isSome || ctx.block.isSome then
        report node.position .nestedFunction
      else
        let signature ← signatureOf node name parameters result body
        withScope .function do
          declareParameters node signature 1 signature.parameters
          clearReturned
          body.analyze (ctx.inFunction signature)
          requireReturn name signature
      return none

/-- The statements of a function. -/
def Body.analyze (ctx : Context) : Body → Analysis Unit
  | .missing => return
  | .block _ statements => discard <| statements.analyze ctx

end

end ComptimeTyping
