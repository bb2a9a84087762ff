import ComptimeTyping.Program.Token

/-! Programs as trees. Any child may be missing: whoever builds a tree promises
nothing, and the analysis stops at a child that it needs. -/

namespace ComptimeTyping

/-! ## Type expressions -/

/-- One axis of an array type as it is written; without a size it is a wildcard. -/
structure DimExpr where
  position : Position
  size : Option Int
deriving DecidableEq, Repr

inductive TypeExpr where
  | missing
  | named (node : Node) (name : String)
  | array (node : Node) (dims : List (Option DimExpr)) (element : TypeExpr)
  | range (node : Node) (element : TypeExpr)
deriving DecidableEq, Repr

namespace TypeExpr

def node : TypeExpr → Node
  | .missing => .absent
  | .named node _ => node
  | .array node _ _ => node
  | .range node _ => node

def isMissing : TypeExpr → Bool
  | .missing => true
  | _ => false

end TypeExpr

/-- A parameter as it is written. -/
structure ParameterExpr where
  name : Option Ident
  type : TypeExpr
  isMutable : Bool
deriving DecidableEq, Repr

/-! ## Expressions and statements -/

mutual

inductive Expr where
  | missing
  | int (node : Node) (text : String)
  | float (node : Node) (text : String)
  | bool (node : Node) (value : Bool)
  | string (node : Node) (value : String)
  | undef (node : Node)
  | ident (name : Ident)
  | prefixOp (node : Node) (operator : String) (right : Expr)
  | infixOp (node : Node) (left : Expr) (operator : String) (right : Expr)
  /-- The conversion `value:Type`. -/
  | conversion (node : Node) (value : Expr) (target : TypeExpr)
  | array (node : Node) (items : Exprs)
  /-- `start..stop:step`; every bound may be left out. -/
  | range (node : Node) (start stop step : Expr) (inclusive : Bool)
  | index (node : Node) (left index : Expr)
  | member (node : Node) (left : Expr) (name : Option Ident)
  | call (node : Node) (callee : Option Ident) (arguments : Exprs)
  | block (node : Node) (statements : Stmts)
  /-- A conditional; without an alternative it has no value. -/
  | conditional (node : Node) (condition : Expr) (consequence : Body) (alternative : Expr)

inductive Exprs where
  | nil
  | cons (head : Expr) (tail : Exprs)

/-- A place where only a block may stand. -/
inductive Body where
  | missing
  | block (node : Node) (statements : Stmts)

inductive Stmt where
  | missing
  | declaration (node : Node) (isMutable : Bool) (name : Option Ident) (type : TypeExpr)
      (value : Expr)
  | assignment (node : Node) (name : Option Ident) (value : Expr)
  | returning (node : Node) (value : Expr)
  /-- The statement `-> value` gives a block its value. -/
  | yielding (node : Node) (value : Expr)
  | expression (node : Node) (value : Expr)
  | function (node : Node) (name : Option Ident) (parameters : List (Option ParameterExpr))
      (result : TypeExpr) (body : Body)

inductive Stmts where
  | nil
  | cons (head : Stmt) (tail : Stmts)

end

namespace Expr

def node : Expr → Node
  | .missing => .absent
  | .int node _ => node
  | .float node _ => node
  | .bool node _ => node
  | .string node _ => node
  | .undef node => node
  | .ident name => name.node
  | .prefixOp node _ _ => node
  | .infixOp node _ _ _ => node
  | .conversion node _ _ => node
  | .array node _ => node
  | .range node _ _ _ _ => node
  | .index node _ _ => node
  | .member node _ _ => node
  | .call node _ _ => node
  | .block node _ => node
  | .conditional node _ _ _ => node

def isMissing : Expr → Bool
  | .missing => true
  | _ => false

def isRange : Expr → Bool
  | .range _ _ _ _ _ => true
  | _ => false

def isUndef : Expr → Bool
  | .undef _ => true
  | _ => false

end Expr

namespace Exprs

def ofList : List Expr → Exprs
  | [] => .nil
  | head :: tail => .cons head (ofList tail)

def toList : Exprs → List Expr
  | .nil => []
  | .cons head tail => head :: tail.toList

def length (expressions : Exprs) : Nat :=
  expressions.toList.length

@[simp] theorem toList_ofList (expressions : List Expr) :
    (ofList expressions).toList = expressions := by
  induction expressions with
  | nil => rfl
  | cons head tail induction => simp [ofList, toList, induction]

end Exprs

namespace Body

def node : Body → Node
  | .missing => .absent
  | .block node _ => node

def isMissing : Body → Bool
  | .missing => true
  | .block _ _ => false

end Body

namespace Stmt

def node? : Stmt → Option Node
  | .missing => none
  | .declaration node _ _ _ _ => some node
  | .assignment node _ _ => some node
  | .returning node _ => some node
  | .yielding node _ => some node
  | .expression node _ => some node
  | .function node _ _ _ _ => some node

end Stmt

namespace Stmts

def ofList : List Stmt → Stmts
  | [] => .nil
  | head :: tail => .cons head (ofList tail)

def toList : Stmts → List Stmt
  | .nil => []
  | .cons head tail => head :: tail.toList

@[simp] theorem toList_ofList (statements : List Stmt) :
    (ofList statements).toList = statements := by
  induction statements with
  | nil => rfl
  | cons head tail induction => simp [ofList, toList, induction]

end Stmts

/-- One compilation unit. -/
structure Program where
  file : String
  statements : Stmts

namespace Program

/-- The token that a program starts with; it is absent in an empty program, and
there is none where the first statement is missing. -/
def firstToken? (program : Program) : Option Token :=
  match program.statements with
  | .nil => some .absent
  | .cons head _ => head.node?.map Node.token

end Program

end ComptimeTyping
