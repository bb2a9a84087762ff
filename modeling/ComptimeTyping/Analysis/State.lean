import ComptimeTyping.Analysis.Finding
import ComptimeTyping.Analysis.Operand
import ComptimeTyping.Symbol.Table

/-! What an analysis reads, writes and stops at. A problem is reported and the
analysis goes on; only a tree that is not a program, or arithmetic without a
result, stops it. What was found until then is kept. -/

namespace ComptimeTyping

/-- What to do with branches that stay comptime but differ in kind. -/
inductive BranchPolicy where
  /-- Combine them: an integer and a float give a float. -/
  | defer
  /-- Report them. -/
  | strict
deriving DecidableEq, Repr

/-- Where in a program the analysis is. -/
structure Context where
  policy : BranchPolicy
  width : PointerWidth
  /-- The function whose body this is. -/
  function : Option Signature := none
  /-- The type that the enclosing block is asked for, inside of a block. -/
  block : Option (Option Ty) := none
deriving DecidableEq, Repr

namespace Context

/-- Inside a block that is asked for a value of type `target`. -/
def inBlock (ctx : Context) (target : Option Ty) : Context :=
  { ctx with block := some target }

/-- Inside the body of a function. -/
def inFunction (ctx : Context) (signature : Signature) : Context :=
  { ctx with function := some signature, block := none }

end Context

/-! ## Stopping -/

/-- What is wrong with a tree that is not a program. -/
inductive Defect where
  | noExpression
  | noTypeExpression
  | noStatement
  | integerLiteral (text : String)
  | floatLiteral (text : String) (cause : Literal.FloatError)
  | prefixOperator (operator : String)
  | infixOperator (operator : String)
  | conversionTarget
  | propertyName
  | functionName
  | consequence
  | arrayType
  | arrayDim
  | rangeElement
  | assignmentParts
  | declarationParts
  | yieldValue
  | functionParts
  | parameterParts (function : String)
deriving DecidableEq, Repr

def Defect.message : Defect → String
  | .noExpression => "missing expression"
  | .noTypeExpression => "missing type expression"
  | .noStatement => "nil statement"
  | .integerLiteral text => "invalid integer literal " ++ Text.quoted text
  | .floatLiteral text cause =>
      "invalid float literal " ++ Text.quoted text ++ ": " ++ cause.message
  | .prefixOperator operator => "unknown prefix operator " ++ Text.quoted operator
  | .infixOperator operator => "unknown infix operator " ++ Text.quoted operator
  | .conversionTarget => "conversion without target type"
  | .propertyName => "property access without property name"
  | .functionName => "call without function name"
  | .consequence => "if without consequence block"
  | .arrayType => "array type without dimensions or element"
  | .arrayDim => "nil array dimension"
  | .rangeElement => "range type without element"
  | .assignmentParts => "assignment without target or value"
  | .declarationParts => "declaration without name or value"
  | .yieldValue => "-> without value"
  | .functionParts => "function without name or body"
  | .parameterParts function => "incomplete parameter in " ++ function

/-- Why an analysis stopped. -/
inductive Abort where
  | noProgram
  | malformed (position : Position) (defect : Defect)
  | undefined (cause : BigFloat.Undefined)
deriving DecidableEq, Repr

/-- The words for a stop in a program of the given file. -/
def Abort.message (file : String) : Abort → String
  | .noProgram => "nil program"
  | .malformed position defect =>
      (if file = "" then "" else file ++ ": ") ++ Code.malformedTree.name ++ " at "
        ++ position.render ++ ": " ++ defect.message
  | .undefined cause => cause.message

/-! ## State -/

structure State where
  table : SymbolTable
  /-- The types of nodes, latest first. A node without a type was assigned to a
  binding that has none. -/
  types : List (Nat × Option Ty) := []
  /-- The types of the slots that nodes fill, latest first. -/
  slots : List (Nat × Ty) := []
  /-- The signatures of function nodes, which are read only once. -/
  signatures : List (Nat × Signature) := []
  /-- Everything that was reported, in order. -/
  reports : List Diagnostic := []
  /-- Whether the function at hand has returned somewhere. -/
  returned : Bool := false
deriving DecidableEq, Repr

namespace State

def ofTable (table : SymbolTable) : State := { table }

def type? (state : State) (id : Nat) : Option (Option Ty) :=
  state.types.lookup id

def slot? (state : State) (id : Nat) : Option Ty :=
  state.slots.lookup id

def signature? (state : State) (id : Nat) : Option Signature :=
  state.signatures.lookup id

theorem mem_of_signature? {state : State} {id : Nat} {signature : Signature}
    (found : state.signature? id = some signature) : (id, signature) ∈ state.signatures := by
  rcases List.lookup_eq_some_iff.mp found with ⟨before, after, equal, _⟩
  rw [equal]
  exact List.mem_append_right _ List.mem_cons_self

/-- One state comes after another: what was reported or noted is not taken back. -/
structure GrowsTo (before after : State) : Prop where
  reports : before.reports <+: after.reports
  types : before.types <:+ after.types
  slots : before.slots <:+ after.slots

namespace GrowsTo

theorem refl (state : State) : state.GrowsTo state :=
  ⟨List.prefix_rfl, List.suffix_rfl, List.suffix_rfl⟩

theorem trans {before middle after : State} (first : before.GrowsTo middle)
    (second : middle.GrowsTo after) : before.GrowsTo after :=
  ⟨first.reports.trans second.reports, first.types.trans second.types,
    first.slots.trans second.slots⟩

end GrowsTo

end State

/-! ## Computations -/

/-- How a computation ends: with a value or with a stop. What it leaves survives
either way. -/
inductive Outcome (α : Type) where
  | ok (value : α) (state : State)
  | error (abort : Abort) (state : State)
deriving DecidableEq, Repr

def Outcome.state : Outcome α → State
  | .ok _ state => state
  | .error _ state => state

/-- A computation of the analysis. It never takes back what was reported or noted
before it. -/
@[ext] structure Analysis (α : Type) where
  run : State → Outcome α
  grows : ∀ state : State, state.GrowsTo (run state).state

namespace Analysis

protected def pure (value : α) : Analysis α where
  run := .ok value
  grows := .refl

protected def bind (first : Analysis α) (next : α → Analysis β) : Analysis β where
  run state :=
    match first.run state with
    | .ok value state => (next value).run state
    | .error abort state => .error abort state
  grows state := by
    have start := first.grows state
    split
    case h_1 value middle equal =>
        rw [equal] at start
        exact start.trans ((next value).grows middle)
    case h_2 abort middle equal =>
        rw [equal] at start
        exact start

instance : Monad Analysis where
  pure := Analysis.pure
  bind := Analysis.bind

/-- Look at the state. -/
def read (view : State → α) : Analysis α where
  run state := .ok (view state) state
  grows := .refl

/-- Change the state without taking anything back. -/
def update (change : State → State)
    (grows : ∀ state : State, state.GrowsTo (change state) := by
      intro state; constructor <;> simp) : Analysis Unit where
  run state := .ok () (change state)
  grows := grows

/-- Give up, for a reason. -/
def stop (abort : Abort) : Analysis α where
  run := .error abort
  grows := .refl

def malformed (position : Position) (defect : Defect) : Analysis α :=
  stop (.malformed position defect)

def report (position : Position) (finding : Finding) : Analysis Unit :=
  update fun state => { state with reports := state.reports ++ [finding.placed position] }

def table : Analysis SymbolTable :=
  read State.table

def setTable (table : SymbolTable) : Analysis Unit :=
  update fun state => { state with table }

/-- Note the type of a node. -/
def record (node : Node) (type : Option Ty) : Analysis Unit :=
  update fun state => { state with types := (node.id, type) :: state.types }

/-- Note the type of the slot that a node fills. -/
def recordSlot (node : Node) (type : Ty) : Analysis Unit :=
  update fun state => { state with slots := (node.id, type) :: state.slots }

/-- Note the signature of a function node. -/
def recordSignature (node : Node) (signature : Signature) : Analysis Unit :=
  update fun state => { state with signatures := (node.id, signature) :: state.signatures }

/-- Note whether the function at hand has returned. -/
def setReturned (returned : Bool) : Analysis Unit :=
  update fun state => { state with returned }

/-- Resolve a node and note its type. -/
def recorded (node : Node) (resolve : Analysis Operand) : Analysis Operand := do
  let operand ← resolve
  record node operand.type
  return operand

/-- Run in a scope of its own, which is left on every way out. -/
def withScope (kind : ScopeKind) (inside : Analysis α) : Analysis α where
  run state :=
    match inside.run { state with table := state.table.enter kind } with
    | .ok value state => .ok value { state with table := state.table.exit }
    | .error abort state => .error abort { state with table := state.table.exit }
  grows state := by
    have inner := inside.grows { state with table := state.table.enter kind }
    split
    case h_1 value middle equal =>
        rw [equal] at inner
        exact ⟨inner.reports, inner.types, inner.slots⟩
    case h_2 abort middle equal =>
        rw [equal] at inner
        exact ⟨inner.reports, inner.types, inner.slots⟩

end Analysis

end ComptimeTyping
