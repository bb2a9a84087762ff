import ComptimeTyping.Analysis.Resolve

/-! Trees that are complete: every child, name and parameter that the analysis needs is
there, every literal can be read and every operator is known. Bounds of ranges,
annotations, results of functions, returned values and alternatives may be left out. -/

namespace ComptimeTyping

namespace TypeExpr

def isComplete : TypeExpr → Bool
  | .missing => false
  | .named _ _ => true
  | .array _ dims element => !dims.isEmpty && dims.all Option.isSome && element.isComplete
  | .range _ element => element.isComplete

/-- Complete, if it is there at all. -/
def isCompleteIfAny (type : TypeExpr) : Bool :=
  type.isMissing || type.isComplete

theorem isComplete_of_isMissing {type : TypeExpr} (missing : type.isMissing = true) :
    type.isComplete = false := by
  cases type with
  | missing => rfl
  | named | array | range => cases missing

end TypeExpr

def ParameterExpr.isComplete (parameter : ParameterExpr) : Bool :=
  parameter.name.isSome && parameter.type.isComplete

/-- The parts of the head of a function are all there. -/
def isCompleteHead (name : Option Ident) (parameters : List (Option ParameterExpr))
    (result : TypeExpr) (body : Body) : Bool :=
  name.isSome && parameters.all (fun parameter => parameter.any (·.isComplete)) &&
    result.isCompleteIfAny && !body.isMissing

mutual

def Expr.isComplete : Expr → Bool
  | .missing => false
  | .int _ text => (Constant.ofIntegerLiteral? text).isSome
  | .float _ text => (Constant.ofFloatLiteral text).toOption.isSome
  | .bool _ _ => true
  | .string _ _ => true
  | .undef _ => true
  | .ident _ => true
  | .prefixOp _ operator right => (PrefixOp.ofSymbol? operator).isSome && right.isComplete
  | .infixOp _ left operator right =>
      (InfixOp.ofSymbol? operator).isSome && left.isComplete && right.isComplete
  | .conversion _ value target => target.isComplete && value.isComplete
  | .array _ items => items.isComplete
  | .range _ start stop step _ =>
      (start.isMissing || start.isComplete) && (stop.isMissing || stop.isComplete) &&
        (step.isMissing || step.isComplete)
  | .index _ left index => left.isComplete && index.isComplete
  | .member _ left name => name.isSome && left.isComplete
  | .call _ callee arguments => callee.isSome && arguments.isComplete
  | .block _ statements => statements.isComplete
  | .conditional _ condition consequence alternative =>
      condition.isComplete && consequence.isComplete &&
        (alternative.isMissing || alternative.isComplete)

def Exprs.isComplete : Exprs → Bool
  | .nil => true
  | .cons head tail => head.isComplete && tail.isComplete

def Body.isComplete : Body → Bool
  | .missing => false
  | .block _ statements => statements.isComplete

def Stmt.isComplete : Stmt → Bool
  | .missing => false
  | .declaration _ _ name type value =>
      name.isSome && type.isCompleteIfAny && value.isComplete
  | .assignment _ name value => name.isSome && value.isComplete
  | .returning _ value => value.isMissing || value.isComplete
  | .yielding _ value => value.isComplete
  | .expression _ value => value.isComplete
  | .function _ name parameters result body =>
      isCompleteHead name parameters result body && body.isComplete

def Stmts.isComplete : Stmts → Bool
  | .nil => true
  | .cons head tail => head.isComplete && tail.isComplete

end

theorem Expr.isComplete_of_isMissing {expr : Expr} (missing : expr.isMissing = true) :
    expr.isComplete = false := by
  cases expr with
  | missing => rfl
  | _ => cases missing

def Program.isComplete (program : Program) : Bool :=
  program.statements.isComplete

end ComptimeTyping
