import ComptimeTyping.Analysis.Annotation
import ComptimeTyping.Analysis.Materialize

/-! Bindings of variables.

* `val x = v` keeps a comptime value comptime, with what is known of it;
* `val x: T = v` and `mut x: T = v` give the value its type;
* `mut x = v` takes only a value that is already concrete;
* `mut x: T = undef` leaves the variable uninitialized. -/

namespace ComptimeTyping.Analysis

/-- Bind a name in the innermost scope. -/
def declare (name : Ident) (symbol : Symbol) : Analysis Unit := do
  match (← table).declare symbol with
  | .ok table =>
      setTable table
      record name.node symbol.type
  | .error _ => report name.position (.redeclared name.name)

/-- The type that a declaration asks for, if it asks for one. -/
def declaredType (name : String) (type : TypeExpr) : Analysis (Option Ty) := do
  if type.isMissing then return none
  let resolved ← type.resolve
  if resolved.isVoid then
    report type.node.position (.voidVariable name)
    return some .unknown
  else
    return some resolved

/-- The type that a declared variable gets from its value. -/
def bindingType (ctx : Context) (isMutable : Bool) (name : Ident) (declared : Option Ty)
    (value : Resolved) : Analysis Ty := do
  match declared with
  | some type => materialize ctx value type ""
  | none =>
      if value.type.isVoid then
        report value.position (.voidBinding name.name)
        return .unknown
      else if isMutable && value.type.isComptime then
        report name.position (.mutableComptime name.name value.type)
        return .unknown
      else
        return value.type

/-- A variable of the given type. A comptime one remembers its value. -/
def boundSymbol (isMutable : Bool) (name : String) (type : Ty) (value : Operand) : Symbol :=
  if type.isComptime then
    { name, type := some type, isMutable, value := value.value, elements := value.elements,
      bounds := value.bounds.map Bounds.values }
  else
    { name, type := some type, isMutable }

def bindValue (ctx : Context) (isMutable : Bool) (name : Ident) (declared : Option Ty)
    (value : Resolved) : Analysis Unit := do
  let type ← bindingType ctx isMutable name declared value
  declare name (boundSymbol isMutable name.name type value.operand)

/-- A declaration without a value. -/
def bindUndef (isMutable : Bool) (name : Ident) (declared : Option Ty) (value : Node) :
    Analysis Unit := do
  match declared with
  | none =>
      report value.position (.untypedUndef name.name)
      declare name { name := name.name, type := some .unknown, isMutable }
  | some type =>
      if isMutable then
        declare name { name := name.name, type := some type, isMutable, isInitialized := false }
      else
        report value.position (.immutableUndef name.name type)
        declare name { name := name.name, type := some type, isMutable }
      record value (some type)

/-- Report an assignment to a variable that is not mutable. -/
def requireMutable (name : Ident) (symbol : Symbol) : Analysis Unit := do
  if !symbol.isMutable then
    match (← table).parameter? name.name with
    | some parameter => report name.position (.assignToParameter parameter)
    | none => report name.position (.assignToImmutable name.name symbol.type)

/-- Put a resolved value into a variable. -/
def assign (ctx : Context) (name : Ident) (symbol : Symbol) (value : Resolved) :
    Analysis Unit := do
  materialize? ctx value symbol.type ("assignment to " ++ name.name)
  record name.node symbol.type
  setTable ((← table).markInitialized name.name)

end ComptimeTyping.Analysis
