/-! The taxonomy of diagnostics. -/

namespace ComptimeTyping

/-- The category of a diagnostic. All but `malformedTree` are recovered from. A
diagnostic made elsewhere may carry a code of its own. -/
inductive Code where
  | typeMismatch
  | overflow
  | dimensionMismatch
  | arityMismatch
  | unsupportedConversion
  | annotationMissing
  | scope
  | mutability
  | rangeShape
  | malformedTree
  | other (text : String)
deriving DecidableEq, Repr

namespace Code

/-- The codes of the taxonomy. -/
def taxonomy : List Code :=
  [.typeMismatch, .overflow, .dimensionMismatch, .arityMismatch, .unsupportedConversion,
    .annotationMissing, .scope, .mutability, .rangeShape, .malformedTree]

def text : Code → String
  | .typeMismatch => "T001"
  | .overflow => "T002"
  | .dimensionMismatch => "T003"
  | .arityMismatch => "T004"
  | .unsupportedConversion => "T005"
  | .annotationMissing => "T006"
  | .scope => "T007"
  | .mutability => "T008"
  | .rangeShape => "T009"
  | .malformedTree => "T100"
  | .other text => text

def name : Code → String
  | .typeMismatch => "type mismatch"
  | .overflow => "overflow"
  | .dimensionMismatch => "dimension mismatch"
  | .arityMismatch => "arity mismatch"
  | .unsupportedConversion => "unsupported conversion"
  | .annotationMissing => "missing annotation"
  | .scope => "scope error"
  | .mutability => "mutability error"
  | .rangeShape => "invalid range"
  | .malformedTree => "malformed AST"
  | .other _ => "error"

/-- The code with the given text: one of the taxonomy where there is one. -/
def ofText (text : String) : Code :=
  (taxonomy.find? (·.text == text)).getD (.other text)

end Code

end ComptimeTyping
