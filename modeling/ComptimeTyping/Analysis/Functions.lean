import ComptimeTyping.Analysis.Annotation

/-! Signatures of functions. -/

namespace ComptimeTyping.Analysis

/-- The type of a parameter; it cannot be `void`. -/
def parameterType (name : String) (type : TypeExpr) : Analysis Ty := do
  let resolved ← type.resolve
  if resolved.isVoid then
    report type.node.position (.voidParameter name)
    return .unknown
  else
    return resolved

/-- The parameters of a function. A name that repeats is reported and left out. -/
def readParameters (node : Node) (function : String) (read : List Parameter) :
    List (Option ParameterExpr) → Analysis (List Parameter)
  | [] => return read
  | none :: _ => malformed node.position (.parameterParts function)
  | some parameter :: parameters =>
      match parameter.name with
      | none => malformed node.position (.parameterParts function)
      | some name => do
          if parameter.type.isMissing then malformed node.position (.parameterParts function)
          let type ← parameterType name.name parameter.type
          if read.any (·.name == name.name) then
            report name.position (.duplicateParameter name.name function)
            readParameters node function read parameters
          else
            readParameters node function
              (read ++ [⟨name.name, some type, parameter.isMutable⟩]) parameters

/-- Read the signature of a function as it is written. -/
def readSignature (node : Node) (name : Option Ident)
    (parameters : List (Option ParameterExpr)) (result : TypeExpr) (body : Body) :
    Analysis Signature := do
  match name with
  | none => malformed node.position .functionParts
  | some name =>
      if body.isMissing then malformed node.position .functionParts
      let parameters ← readParameters node name.name [] parameters
      let result ← if result.isMissing then pure Ty.void else result.resolve
      return ⟨name.name, parameters, some result⟩

/-- The signature of a function node. It is read once, so that what is wrong with
it is reported once. -/
def signatureOf (node : Node) (name : Option Ident)
    (parameters : List (Option ParameterExpr)) (result : TypeExpr) (body : Body) :
    Analysis Signature := do
  match ← read (·.signature? node.id) with
  | some signature => return signature
  | none =>
      let signature ← readSignature node name parameters result body
      recordSignature node signature
      return signature

/-- Register a function, so that calls may come before it. -/
def declareFunction (node : Node) (name : Option Ident)
    (parameters : List (Option ParameterExpr)) (result : TypeExpr) (body : Body) :
    Analysis Unit := do
  let signature ← signatureOf node name parameters result body
  match (← table).declareFunction (some signature) with
  | .ok table => setTable table
  | .error _ =>
      report ((name.map Ident.position).getD .nowhere) (.functionRedeclared signature.name)

/-- Bind the parameters in the scope of a function. -/
def declareParameters (node : Node) (signature : Signature) (number : Nat) :
    List Parameter → Analysis Unit
  | [] => return
  | parameter :: parameters => do
      match (← table).declareParameter parameter with
      | .ok table => setTable table
      | .error refusal =>
          report node.position
            (.parameterRefused number parameter.name signature.name refusal.message)
      declareParameters node signature (number + 1) parameters

/-- Report a function with a result that nowhere returns one. -/
def requireReturn (name : Option Ident) (signature : Signature) : Analysis Unit := do
  match signature.result with
  | none => return
  | some result =>
      if !(result.isVoid || result.isUnknown || (← read State.returned)) then
        report ((name.map Ident.position).getD .nowhere)
          (.mustReturn signature.name result "add `return value` to the body")

end ComptimeTyping.Analysis
