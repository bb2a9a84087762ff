import ComptimeTyping.Analysis.Resolve

/-! Analysis of a whole program, in two passes: the signatures of all functions,
then every statement in order. -/

namespace ComptimeTyping

open Analysis

/-- Which passes to run. -/
inductive AnalysisMode where
  | full
  | headers
  | bodies
deriving DecidableEq, Repr

namespace AnalysisMode

def readsHeaders : AnalysisMode → Bool
  | .full | .headers => true
  | .bodies => false

def readsBodies : AnalysisMode → Bool
  | .full | .bodies => true
  | .headers => false

end AnalysisMode

/-- Register every function of a list of statements. -/
def Stmts.declareFunctions : Stmts → Analysis Unit
  | .nil => return
  | .cons (.function node name parameters result body) tail => do
      declareFunction node name parameters result body
      tail.declareFunctions
  | .cons _ tail => tail.declareFunctions

def Program.analyze (ctx : Context) (mode : AnalysisMode) (program : Program) :
    Analysis Unit := do
  if mode.readsHeaders then program.statements.declareFunctions
  if mode.readsBodies then discard <| program.statements.analyze ctx

/-- Analyze a program, if there is one. -/
def analyzeUnit (ctx : Context) (mode : AnalysisMode) : Option Program → Analysis Unit
  | none => stop .noProgram
  | some program => program.analyze ctx mode

/-- Resolve one expression against the program at hand. -/
def analyzeExpr (ctx : Context) (target : Option Ty) (expr : Expr) : Analysis Ty :=
  return (← expr.resolve ctx target).type

/-- Check a call against a signature that need not be registered. -/
def analyzeCall (ctx : Context) (node : Node) (arguments : Exprs) (signature : Signature) :
    Analysis Ty := do
  requireArity node signature arguments.length
  arguments.resolveArguments ctx signature 1 signature.parameters
  record node signature.resultType
  return signature.resultType

end ComptimeTyping
