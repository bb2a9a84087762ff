import ComptimeTyping.Program.Tree
import ComptimeTyping.Text.Quoted

/-! Trees without a source text. Every token gets the next column of the current
line, so the order in which nodes are built is the order of their positions. A
node can be given a place of its own; it uses up its column all the same. -/

namespace ComptimeTyping

/-- Where the next token goes, and the identity of the next node. -/
structure Builder where
  line : Int := 1
  column : Int := 0
  next : Nat := 1
deriving DecidableEq, Repr

abbrev Build := StateM Builder

namespace Builder

/-- Go to a fresh line. -/
def newLine : Build Unit :=
  modify fun builder => { builder with line := builder.line + 1, column := 0 }

def token (kind lexeme : String) : Build Token := do
  modify fun builder => { builder with column := builder.column + 1 }
  let builder ← get
  return ⟨kind, lexeme, builder.line, builder.column⟩

/-- Give a token an identity, and a place of its own if there is one. -/
def nodeOf (place : Option Position) (token : Token) : Build Node := do
  let builder ← get
  set { builder with next := builder.next + 1 }
  return ⟨builder.next, { token with position := place.getD token.position }⟩

def node (place : Option Position) (kind lexeme : String) : Build Node := do
  nodeOf place (← token kind lexeme)

/-- A name. One that is left out uses up its column. -/
def name? : Option String → Build (Option Ident)
  | some name => return some ⟨← node none "IDENT" name, name⟩
  | none => do
      discard <| token "IDENT" ""
      return none

/-! ## Expressions -/

def int (place : Option Position) (text : String) : Build Expr :=
  return .int (← node place "INT" text) text

def float (place : Option Position) (text : String) : Build Expr :=
  return .float (← node place "FLOAT" text) text

def bool (place : Option Position) (value : Bool) : Build Expr :=
  return .bool (← node place (if value then "TRUE" else "FALSE") (toString value)) value

def string (place : Option Position) (value : String) : Build Expr :=
  return .string (← node place "STRING" (Text.quoted value)) value

def undef (place : Option Position) : Build Expr :=
  return .undef (← node place "UNDEF" "undef")

def ident (place : Option Position) (name : String) : Build Expr :=
  return .ident ⟨← node place "IDENT" name, name⟩

def prefixOp (place : Option Position) (operator : String) (right : Expr) : Build Expr :=
  return .prefixOp (← node place operator operator) operator right

def infixOp (place : Option Position) (left : Expr) (operator : String) (right : Expr) :
    Build Expr :=
  return .infixOp (← node place operator operator) left operator right

def conversion (place : Option Position) (value : Expr) (target : TypeExpr) : Build Expr :=
  return .conversion (← node place ":" ":") value target

def array (place : Option Position) (items : List Expr) : Build Expr :=
  return .array (← node place "[" "[") (.ofList items)

def range (place : Option Position) (start stop step : Expr) (inclusive : Bool) :
    Build Expr := do
  let operator := if inclusive then "..=" else ".."
  return .range (← node place operator operator) start stop step inclusive

def index (place : Option Position) (left index : Expr) : Build Expr :=
  return .index (← node place "[" "[") left index

def member (place : Option Position) (left : Expr) (name : Option String) : Build Expr := do
  let dot ← node place "." "."
  return .member dot left (← name? name)

def call (place : Option Position) (callee : Option String) (arguments : List Expr) :
    Build Expr := do
  let callee ← name? callee
  return .call (← node place "(" "(") callee (.ofList arguments)

/-- The braces of a block. Only the opening one is a node. -/
def braces (place : Option Position) : Build Node := do
  let opening ← node place "\x7b" "\x7b"
  discard <| token "\x7d" "\x7d"
  return opening

def block (place : Option Position) (statements : List Stmt) : Build Expr :=
  return .block (← braces place) (.ofList statements)

def body (place : Option Position) (statements : List Stmt) : Build Body :=
  return .block (← braces place) (.ofList statements)

def conditional (place : Option Position) (condition : Expr) (consequence : Body)
    (alternative : Expr) : Build Expr :=
  return .conditional (← node place "IF" "if") condition consequence alternative

/-! ## Types -/

def named (place : Option Position) (name : String) : Build TypeExpr :=
  return .named (← node place "IDENT" name) name

/-- An axis as it is asked for. -/
inductive DimSpec where
  | missing
  | wildcard
  | sized (size : Int)
deriving DecidableEq, Repr

/-- A negative size asks for a wildcard. -/
def DimSpec.ofInt (size : Int) : DimSpec :=
  if size < 0 then .wildcard else .sized size

def dim (spec : DimSpec) : Build (Option DimExpr) := do
  match spec with
  | .missing =>
      discard <| token "INT" ""
      return none
  | .wildcard => return some ⟨(← token "_" "_").position, none⟩
  | .sized size => return some ⟨(← token "INT" (toString size)).position, some size⟩

def arrayOf (place : Option Position) (element : TypeExpr) (dims : List DimSpec) :
    Build TypeExpr := do
  let bracket ← node place "[" "["
  return .array bracket (← dims.mapM dim) element

def rangeOf (place : Option Position) (element : TypeExpr) : Build TypeExpr :=
  return .range (← node place "RANGE" "range") element

/-! ## Statements -/

def declaration (place : Option Position) (isMutable : Bool) (name : Option String)
    (type : TypeExpr) (value : Expr) : Build Stmt := do
  let keyword ← if isMutable then node place "MUT" "mut" else node place "VAL" "val"
  return .declaration keyword isMutable (← name? name) type value

def assignment (place : Option Position) (name : Option String) (value : Expr) :
    Build Stmt := do
  let name ← name? name
  return .assignment (← node place "=" "=") name value

def returning (place : Option Position) (value : Expr) : Build Stmt :=
  return .returning (← node place "RETURN" "return") value

def yielding (place : Option Position) (value : Expr) : Build Stmt :=
  return .yielding (← node place "->" "->") value

/-- An expression as a statement. It shares the expression's token. -/
def expression (place : Option Position) (value : Expr) : Build Stmt :=
  return .expression (← nodeOf place value.node.token) value

def parameter (name : Option String) (type : TypeExpr) (isMutable : Bool) :
    Build ParameterExpr :=
  return ⟨← name? name, type, isMutable⟩

def function (place : Option Position) (name : Option String)
    (parameters : List (Option ParameterExpr)) (result : TypeExpr) (body : Body) :
    Build Stmt := do
  let keyword ← node place "FUNC" "func"
  return .function keyword (← name? name) parameters result body

end Builder

end ComptimeTyping
