import Mathlib.Algebra.Group.Int.Defs
import Mathlib.Logic.Function.Basic
import ComptimeTyping.Analysis.Unit
import ComptimeTyping.Proofs.Computation

/-! Folding of integers. Expressions of integer literals, of names for such expressions and
of operators on integers have a value among all integers, unless they divide by zero.
The analysis finds exactly this value, and asks whether it fits a type only where the
value gets that type. -/

namespace ComptimeTyping

open Analysis

/-! ## Values of expressions -/

/-- The operators that take integers to integers. -/
inductive IntegerOp where
  | add
  | sub
  | mul
  | quotient
  | remainder
deriving DecidableEq, Repr

namespace IntegerOp

def symbol : IntegerOp → String
  | .add => "+"
  | .sub => "-"
  | .mul => "*"
  | .quotient => "\\"
  | .remainder => "%"

/-- The operator on all integers. Division goes towards zero. -/
def apply (op : IntegerOp) (left right : Int) : Option Int :=
  match op with
  | .add => some (left + right)
  | .sub => some (left - right)
  | .mul => some (left * right)
  | .quotient => if right = 0 then none else some (left.tdiv right)
  | .remainder => if right = 0 then none else some (left.tmod right)

/-- The operator of the analysis. -/
def arith : IntegerOp → ArithOp
  | .add => .add
  | .sub => .sub
  | .mul => .mul
  | .quotient => .intDiv
  | .remainder => .rem

theorem ofSymbol?_symbol (op : IntegerOp) :
    InfixOp.ofSymbol? op.symbol = some (.arithmetic op.arith) := by
  cases op <;> rfl

end IntegerOp

/-- The value of an integer expression where names have the given values. There is none
where something is divided by zero. -/
inductive Evaluates (names : String → Option Int) : Expr → Option Int → Prop
  | literal {node : Node} {text : String} {value : Int}
      (valid : Literal.integer? text = some value) :
      Evaluates names (.int node text) (some value)
  | name {ident : Ident} {value : Int} (known : names ident.name = some value) :
      Evaluates names (.ident ident) (some value)
  | negation {node : Node} {right : Expr} {value : Option Int}
      (operand : Evaluates names right value) :
      Evaluates names (.prefixOp node "-" right) (value.map (-·))
  | operation {node : Node} {left right : Expr} {leftValue rightValue : Option Int}
      (op : IntegerOp) (leftOperand : Evaluates names left leftValue)
      (rightOperand : Evaluates names right rightValue) :
      Evaluates names (.infixOp node left op.symbol right)
        (leftValue.bind fun left => rightValue.bind fun right => op.apply left right)

/-- A declaration `val name = value`. -/
structure Definition where
  node : Node
  name : Ident
  value : Expr

def Definition.toStmt (definition : Definition) : Stmt :=
  .declaration definition.node false (some definition.name) .missing definition.value

/-- Definitions of integers, each of which may use those before it, and the values that
names have after them. -/
inductive Defines : (String → Option Int) → List Definition → (String → Option Int) → Prop
  | nil {names : String → Option Int} : Defines names [] names
  | cons {names final : String → Option Int} {definition : Definition}
      {definitions : List Definition} {value : Int}
      (evaluates : Evaluates names definition.value (some value))
      (rest : Defines (Function.update names definition.name.name (some value))
        definitions final) :
      Defines names (definition :: definitions) final

/-! ## What the analysis knows of integers -/

/-- The operand of an integer expression; unknown where it has no value. -/
def Operand.ofInteger : Option Int → Operand
  | some value => { type := .comptimeInt, value := some (.int value) }
  | none => .unknown

/-- The variable that the definition of an integer binds. -/
def Symbol.ofInteger (name : String) (value : Int) : Symbol :=
  { name, type := some .comptimeInt, isMutable := false, value := some (.int value) }

/-- Names that have a value stand for it in the table. -/
def SymbolTable.Binds (table : SymbolTable) (names : String → Option Int) : Prop :=
  ∀ name value, names name = some value →
    table.lookup? name = some (.ofInteger name value)

/-- Where a value is missing, a division by zero was reported; otherwise nothing was. -/
def Blames (reports : List Diagnostic) : Option Int → Prop
  | some _ => reports = []
  | none => ∃ position, Finding.divisionByZero.placed position ∈ reports

namespace Analysis

variable {α β : Type} {table : SymbolTable} {reports more : List Diagnostic}

/-- A computation that ends with a value, reports something and leaves the table alone. -/
structure Tells (table : SymbolTable) (computation : Analysis α) (value : α)
    (reports : List Diagnostic) : Prop where
  run : ∀ {state}, state.table = table → ∃ after, computation.run state = .ok value after ∧
    after.table = table ∧ after.reports = state.reports ++ reports

namespace Tells

theorem pure (value : α) : Tells table (Pure.pure value) value [] := by
  constructor
  intro state same
  exact ⟨state, rfl, same, (List.append_nil _).symm⟩

theorem report (position : Position) (finding : Finding) :
    Tells table (Analysis.report position finding) () [finding.placed position] := by
  constructor
  intro state same
  exact ⟨_, rfl, same, rfl⟩

theorem bind {first : Analysis α} {next : α → Analysis β} {value : α} {result : β}
    (tells : Tells table first value reports) (rest : Tells table (next value) result more) :
    Tells table (first >>= next) result (reports ++ more) := by
  constructor
  intro state same
  rcases tells.run same with ⟨middle, started, sameMiddle, told⟩
  rcases rest.run sameMiddle with ⟨after, ended, sameAfter, toldAfter⟩
  refine ⟨after, ?_, sameAfter, ?_⟩
  · rw [run_bind_of_ok started, ended]
  · rw [toldAfter, told, List.append_assoc]

/-- A first part that reports nothing. -/
theorem quietly {first : Analysis α} {next : α → Analysis β} {value : α} {result : β}
    (tells : Tells table first value []) (rest : Tells table (next value) result more) :
    Tells table (first >>= next) result more :=
  tells.bind rest

/-- A last part that reports nothing. -/
theorem before {first : Analysis α} {next : α → Analysis β} {value : α} {result : β}
    (tells : Tells table first value reports) (rest : Tells table (next value) result []) :
    Tells table (first >>= next) result reports := by
  have both := tells.bind rest
  rwa [List.append_nil] at both

theorem discard {computation : Analysis α} {value : α}
    (tells : Tells table computation value reports) :
    Tells table (Functor.discard computation) () reports :=
  tells.before (.pure _)

theorem table_bind {next : SymbolTable → Analysis β} {result : β}
    (rest : Tells table (next table) result reports) :
    Tells table (Analysis.table >>= next) result reports := by
  constructor
  rintro state rfl
  exact rest.run rfl

theorem update {change : State → State}
    {grows : ∀ state : State, state.GrowsTo (change state)}
    (table_eq : ∀ state, (change state).table = state.table)
    (reports_eq : ∀ state, (change state).reports = state.reports) :
    Tells table (Analysis.update change grows) () [] := by
  constructor
  intro state same
  refine ⟨change state, rfl, (table_eq state).trans same, ?_⟩
  rw [reports_eq, List.append_nil]

theorem record (node : Node) (type : Option Ty) :
    Tells table (Analysis.record node type) () [] :=
  update (fun _ => rfl) fun _ => rfl

theorem recordSlot (node : Node) (type : Ty) :
    Tells table (Analysis.recordSlot node type) () [] :=
  update (fun _ => rfl) fun _ => rfl

theorem recorded {resolve : Analysis Operand} {operand : Operand} (node : Node)
    (tells : Tells table resolve operand reports) :
    Tells table (Analysis.recorded node resolve) operand reports := by
  apply tells.before
  exact (record node _).quietly (.pure _)

end Tells

/-! ## Rules on integers -/

theorem integerLiteral_eq (node : Node) {text : String} {value : Int}
    (valid : Literal.integer? text = some value) :
    integerLiteral node text = pure (.ofInteger (some value)) := by
  unfold integerLiteral Constant.ofIntegerLiteral?
  rw [valid]
  rfl

theorem prefixed_integer (node : Node) (value : Option Int) :
    prefixed node "-" (.ofInteger value) = pure (.ofInteger (value.map (-·))) := by
  cases value with
  | none => rfl
  | some value => rfl

theorem arithmetic_integers (ctx : Context) (node : Node) (op : IntegerOp)
    (leftNode rightNode : Node) (left right : Int) (target : Option Ty) :
    arithmetic ctx node op.arith ⟨leftNode, .ofInteger (some left)⟩
        ⟨rightNode, .ofInteger (some right)⟩ target
      = match op.apply left right with
        | some value => pure (.ofInteger (some value))
        | none => refuse rightNode.position .divisionByZero := by
  have folds : arithmetic ctx node op.arith ⟨leftNode, .ofInteger (some left)⟩
      ⟨rightNode, .ofInteger (some right)⟩ target =
      foldComptime op.arith ⟨leftNode, .ofInteger (some left)⟩
        ⟨rightNode, .ofInteger (some right)⟩ .comptimeInt .comptimeInt := by
    cases op <;> rfl
  rw [folds]
  cases op with
  | add => rfl
  | sub => rfl
  | mul => rfl
  | quotient =>
      by_cases zero : right = 0
      · subst zero
        rfl
      · simp [foldComptime, Operand.ofInteger, Constant.fold, Constant.foldInt,
          IntegerOp.apply, IntegerOp.arith, Tag.promote, zero]
  | remainder =>
      by_cases zero : right = 0
      · subst zero
        rfl
      · simp [foldComptime, Operand.ofInteger, Constant.fold, Constant.foldInt,
          IntegerOp.apply, IntegerOp.arith, Tag.promote, zero]

/-- Arithmetic gives the value there is, and blames a zero divisor of its own. -/
theorem tells_arithmetic (ctx : Context) (node : Node) (op : IntegerOp)
    (leftNode rightNode : Node) (left right : Option Int) (target : Option Ty) :
    ∃ reports, Tells table
        (arithmetic ctx node op.arith ⟨leftNode, .ofInteger left⟩ ⟨rightNode, .ofInteger right⟩
          target)
        (.ofInteger (left.bind fun left => right.bind fun right => op.apply left right))
        reports ∧
      (left.isSome = true → right.isSome = true →
        Blames reports (left.bind fun left => right.bind fun right => op.apply left right)) := by
  cases left with
  | none => exact ⟨[], .pure _, nofun⟩
  | some left =>
      cases right with
      | none => exact ⟨[], .pure _, fun _ => nofun⟩
      | some right =>
          rw [arithmetic_integers]
          cases applied : op.apply left right with
          | some value =>
              refine ⟨[], ?_, ?_⟩
              · simpa [applied] using Tells.pure _
              · simp [applied, Blames]
          | none =>
              refine ⟨[Finding.divisionByZero.placed rightNode.position], ?_, ?_⟩
              · have refused : Tells table (refuse rightNode.position .divisionByZero)
                    (.ofInteger none) [Finding.divisionByZero.placed rightNode.position] :=
                  (Tells.report _ _).before (.pure _)
                simpa [applied] using refused
              · simp [applied, Blames]

theorem tells_identifier (name : Ident) {value : Int}
    (bound : table.lookup? name.name = some (.ofInteger name.name value)) :
    Tells table (identifier name) (.ofInteger (some value)) [] := by
  apply Tells.table_bind
  rw [bound]
  exact .pure _

end Analysis

/-! ## Expressions -/

/-- Whoever lacks a value first is to blame. -/
theorem Blames.operation {leftReports rightReports ownReports : List Diagnostic}
    {left right : Option Int} {apply : Int → Int → Option Int}
    (leftBlames : Blames leftReports left) (rightBlames : Blames rightReports right)
    (ownBlames : left.isSome = true → right.isSome = true →
      Blames ownReports (left.bind fun left => right.bind fun right => apply left right)) :
    Blames (leftReports ++ (rightReports ++ ownReports))
      (left.bind fun left => right.bind fun right => apply left right) := by
  cases left with
  | none =>
      rcases leftBlames with ⟨position, member⟩
      exact ⟨position, List.mem_append_left _ member⟩
  | some left =>
      rw [show leftReports = [] from leftBlames, List.nil_append]
      cases right with
      | none =>
          rcases rightBlames with ⟨position, member⟩
          exact ⟨position, List.mem_append_left _ member⟩
      | some right =>
          rw [show rightReports = [] from rightBlames, List.nil_append]
          exact ownBlames rfl rfl

theorem Evaluates.tells {names : String → Option Int} {expr : Expr} {value : Option Int}
    (evaluates : Evaluates names expr value) {table : SymbolTable} (bound : table.Binds names)
    (ctx : Context) (target : Option Ty) :
    ∃ reports, Tells table (expr.resolve ctx target) (.ofInteger value) reports ∧
      Blames reports value := by
  induction evaluates generalizing target with
  | @literal node text value valid =>
      refine ⟨[], ?_, rfl⟩
      apply Tells.recorded
      rw [integerLiteral_eq node valid]
      exact .pure _
  | @name ident value known =>
      exact ⟨[], .recorded _ (tells_identifier ident (bound _ _ known)), rfl⟩
  | @negation node right value operand induction =>
      rcases induction target with ⟨reports, tells, blames⟩
      refine ⟨reports, ?_, ?_⟩
      · apply Tells.recorded
        apply tells.before
        rw [prefixed_integer]
        exact .pure _
      · cases value with
        | none => exact blames
        | some value => exact blames
  | @operation node left right leftValue rightValue op leftOperand rightOperand leftInduction
      rightInduction =>
      rcases leftInduction (scalarHint target) with ⟨leftReports, leftTells, leftBlames⟩
      rcases rightInduction (scalarHint target) with ⟨rightReports, rightTells, rightBlames⟩
      rcases tells_arithmetic ctx node op left.node right.node leftValue rightValue target with
        ⟨ownReports, ownTells, ownBlames⟩
      refine ⟨leftReports ++ (rightReports ++ ownReports), ?_, ?_⟩
      · unfold Expr.resolve
        apply Tells.recorded
        rw [op.ofSymbol?_symbol]
        exact leftTells.bind (rightTells.bind ownTells)
      · exact leftBlames.operation rightBlames ownBlames

theorem Evaluates.isMissing {names : String → Option Int} {expr : Expr} {value : Option Int}
    (evaluates : Evaluates names expr value) : expr.isMissing = false := by
  cases evaluates <;> rfl

theorem Evaluates.isUndef {names : String → Option Int} {expr : Expr} {value : Option Int}
    (evaluates : Evaluates names expr value) : expr.isUndef = false := by
  cases evaluates <;> rfl

/-! ## Types that hold integers -/

/-- The least and the greatest integer of an integer type. -/
def Tag.integerRange? (width : PointerWidth) : Tag → Option (Int × Int)
  | .i32 => some (-2 ^ 31, 2 ^ 31 - 1)
  | .i64 => some (-2 ^ 63, 2 ^ 63 - 1)
  | .usize =>
      match width with
      | .bits32 => some (0, 2 ^ 32 - 1)
      | .bits64 => some (0, 2 ^ 64 - 1)
  | _ => none

/-- What is reported of a value that gets a type: that it overflows, if it does. -/
def overflowReports (position : Position) (value : Int) (tag : Tag) (width : PointerWidth) :
    List Diagnostic :=
  if (Constant.int value).fits tag width then []
  else [(Finding.overflow (.int value) tag width).placed position]

theorem Tag.cases_of_integerRange? {width : PointerWidth} {tag : Tag} {least greatest : Int}
    (range : tag.integerRange? width = some (least, greatest)) :
    tag = .i32 ∨ tag = .i64 ∨ tag = .usize := by
  cases tag with
  | i32 => exact .inl rfl
  | i64 => exact .inr (.inl rfl)
  | usize => exact .inr (.inr rfl)
  | _ => cases range

theorem Constant.fits_int_iff {width : PointerWidth} {tag : Tag} {least greatest : Int}
    (range : tag.integerRange? width = some (least, greatest)) (value : Int) :
    (Constant.int value).fits tag width = true ↔ least ≤ value ∧ value ≤ greatest := by
  have integer := Tag.cases_of_integerRange? range
  have bounds : tag.intBounds width = (least, greatest) := by
    rcases integer with rfl | rfl | rfl <;> cases width <;> cases range <;> rfl
  rw [Constant.fits_int_iff_bounds integer, bounds]

/-- Nothing is reported where a condition holds, and else a single overflow. -/
structure State.OverflowsUnless (inside : Prop) (before after : State) : Prop where
  quiet : inside → after.reports = before.reports
  single : ¬inside → ∃ diagnostic, diagnostic.code = .overflow ∧
    after.reports = before.reports ++ [diagnostic]

theorem State.overflowsUnless_of_reports {width : PointerWidth} {tag : Tag}
    {least greatest : Int} (range : tag.integerRange? width = some (least, greatest))
    {position : Position} {value : Int} {before after : State}
    (reports : after.reports = before.reports ++ overflowReports position value tag width) :
    State.OverflowsUnless (least ≤ value ∧ value ≤ greatest) before after := by
  have fits := Constant.fits_int_iff range value
  unfold overflowReports at reports
  constructor
  · intro inside
    rw [if_pos (fits.mpr inside), List.append_nil] at reports
    exact reports
  · intro outside
    rw [if_neg fun held => outside (fits.mp held)] at reports
    exact ⟨_, rfl, reports⟩

namespace Analysis

variable {table : SymbolTable} {ctx : Context} {tag : Tag} {least greatest : Int}

theorem tells_checkFits (range : tag.integerRange? ctx.width = some (least, greatest))
    (position : Position) (value : Int) :
    Tells table (checkFits ctx position (some (.int value)) tag)
      ((Constant.int value).fits tag ctx.width)
      (overflowReports position value tag ctx.width) := by
  have checked : (tag.isNumeric && !tag.isComptime) = true := by
    rcases Tag.cases_of_integerRange? range with rfl | rfl | rfl <;> rfl
  unfold checkFits overflowReports
  dsimp only
  rw [checked, Bool.true_and]
  cases fits : (Constant.int value).fits tag ctx.width with
  | true => exact .pure _
  | false => exact (Tells.report _ _).before (.pure _)

theorem tells_fill (range : tag.integerRange? ctx.width = some (least, greatest))
    (node : Node) (value : Int) (label : String) :
    Tells table (fill ctx ⟨node, .ofInteger (some value)⟩ (.scalar tag) label) (.scalar tag)
      (overflowReports node.position value tag ctx.width) := by
  have filled : fill ctx ⟨node, .ofInteger (some value)⟩ (.scalar tag) label = (do
      discard <| checkFits ctx node.position (some (.int value)) tag
      return .scalar tag) := by
    rcases Tag.cases_of_integerRange? range with rfl | rfl | rfl <;> rfl
  rw [filled]
  exact (tells_checkFits range _ _).discard.before (.pure _)

theorem tells_converted (range : tag.integerRange? ctx.width = some (least, greatest))
    (node valueNode : Node) (value : Int) :
    Tells table (converted ctx node ⟨valueNode, .ofInteger (some value)⟩ (.scalar tag))
      { type := .scalar tag, explicit := true }
      (overflowReports valueNode.position value tag ctx.width) := by
  have checked : converted ctx node ⟨valueNode, .ofInteger (some value)⟩ (.scalar tag) = (do
      discard <| checkFits ctx valueNode.position (some (.int value)) tag
      return { type := .scalar tag, explicit := true }) := by
    rcases Tag.cases_of_integerRange? range with rfl | rfl | rfl <;> rfl
  rw [checked]
  exact (tells_checkFits range _ _).discard.before (.pure _)

theorem resolve_named_eq (range : tag.integerRange? ctx.width = some (least, greatest))
    (node : Node) : (TypeExpr.named node tag.name).resolve = pure (.scalar tag) := by
  rcases Tag.cases_of_integerRange? range with rfl | rfl | rfl <;> rfl

theorem declaredType_named_eq (range : tag.integerRange? ctx.width = some (least, greatest))
    (name : String) (node : Node) :
    declaredType name (.named node tag.name) = pure (some (.scalar tag)) := by
  rcases Tag.cases_of_integerRange? range with rfl | rfl | rfl <;> rfl

end Analysis

/-! ## Declarations -/

namespace SymbolTable

/-- The table with one more binding in the innermost scope. -/
def bind (table : SymbolTable) (symbol : Symbol) : SymbolTable :=
  { table with inner := { table.inner with symbols := symbol :: table.inner.symbols } }

variable {table : SymbolTable}

theorem declare_of_fresh {symbol : Symbol}
    (fresh : table.inner.find? symbol.name = none) :
    table.declare symbol = .ok (table.bind symbol) := by
  rw [declare_eq, fresh]
  rfl

theorem find?_bind_of_ne {symbol : Symbol} {name : String} (different : symbol.name ≠ name) :
    (table.bind symbol).inner.find? name = table.inner.find? name := by
  unfold Scope.find? bind
  rw [List.find?_cons_of_neg]
  simpa using different

theorem lookup?_bind_of_ne {symbol : Symbol} {name : String} (different : symbol.name ≠ name) :
    (table.bind symbol).lookup? name = table.lookup? name := by
  unfold lookup? scopes
  rw [List.findSome?_cons, List.findSome?_cons, find?_bind_of_ne different]
  rfl

theorem lookup?_bind_self (symbol : Symbol) :
    (table.bind symbol).lookup? symbol.name = some symbol := by
  have found : (table.bind symbol).inner.find? symbol.name = some symbol := by
    unfold Scope.find? bind
    rw [List.find?_cons_of_pos]
    simp
  unfold lookup? scopes
  rw [List.findSome?_cons, found]

theorem Binds.bind {names : String → Option Int} (binds : table.Binds names) (name : String)
    (value : Int) :
    (table.bind (.ofInteger name value)).Binds (Function.update names name (some value)) := by
  intro other known found
  by_cases same : other = name
  · subst same
    rw [Function.update_self] at found
    cases found
    exact lookup?_bind_self (.ofInteger other value)
  · rw [Function.update_of_ne same] at found
    rw [lookup?_bind_of_ne fun equal => same equal.symm]
    exact binds other known found

end SymbolTable

namespace Analysis

theorem run_declare {state : State} (name : Ident) {symbol : Symbol}
    (fresh : state.table.inner.find? symbol.name = none) :
    ∃ after, (declare name symbol).run state = .ok () after ∧
      after.table = state.table.bind symbol ∧ after.reports = state.reports := by
  unfold declare
  rw [run_table_bind, SymbolTable.declare_of_fresh fresh]
  exact ⟨_, rfl, rfl, rfl⟩

/-- A declaration reports what resolving and binding its value reports. -/
theorem run_declaration {ctx : Context} (node : Node) {isMutable : Bool} {name : Ident}
    {type : TypeExpr} {expr : Expr} {declared : Option Ty} {operand : Operand} {bound : Ty}
    {resolving binding : List Diagnostic} {state : State} (notMissing : expr.isMissing = false)
    (notUndef : expr.isUndef = false)
    (declares : declaredType name.name type = pure declared)
    (resolves : Tells state.table (expr.resolve ctx declared) operand resolving)
    (binds : Tells state.table
      (bindingType ctx isMutable name declared ⟨expr.node, operand⟩) bound binding)
    (fresh : state.table.inner.find? name.name = none) :
    ∃ after, ((Stmt.declaration node isMutable (some name) type expr).analyze ctx).run state
        = .ok none after ∧
      after.table = state.table.bind (boundSymbol isMutable name.name bound operand) ∧
      after.reports = state.reports ++ (resolving ++ binding) := by
  have steps : (Stmt.declaration node isMutable (some name) type expr).analyze ctx =
      (expr.resolve ctx declared >>= fun operand =>
        bindingType ctx isMutable name declared ⟨expr.node, operand⟩ >>= fun bound =>
          pure (boundSymbol isMutable name.name bound operand)) >>= fun symbol =>
        declare name symbol >>= fun _ => pure none := by
    unfold Stmt.analyze
    simp [notMissing, notUndef, declares, bindValue]
  have symbol : Tells state.table (expr.resolve ctx declared >>= fun operand =>
      bindingType ctx isMutable name declared ⟨expr.node, operand⟩ >>= fun bound =>
        pure (boundSymbol isMutable name.name bound operand))
      (boundSymbol isMutable name.name bound operand) (resolving ++ binding) := by
    apply resolves.bind
    exact binds.before (.pure _)
  rcases symbol.run rfl with ⟨middle, started, sameTable, told⟩
  have freshBound :
      middle.table.inner.find? (boundSymbol isMutable name.name bound operand).name = none := by
    rw [sameTable]
    unfold boundSymbol
    split <;> exact fresh
  rcases run_declare name freshBound with ⟨after, ended, extended, kept⟩
  refine ⟨after, ?_, ?_, ?_⟩
  · rw [steps, run_bind_of_ok started, run_bind_of_ok ended]
    rfl
  · rw [extended, sameTable]
  · rw [kept, told]

end Analysis

section

variable {names : String → Option Int} {state : State} (ctx : Context)

theorem Evaluates.run_definition {definition : Definition} {value : Int}
    (evaluates : Evaluates names definition.value (some value))
    (bound : state.table.Binds names)
    (fresh : state.table.inner.find? definition.name.name = none) :
    ∃ after, (definition.toStmt.analyze ctx).run state = .ok none after ∧
      after.table = state.table.bind (.ofInteger definition.name.name value) ∧
      after.reports = state.reports := by
  rcases evaluates.tells bound ctx none with ⟨reports, resolves, rfl⟩
  have binds : Tells state.table (bindingType ctx false definition.name none
      ⟨definition.value.node, .ofInteger (some value)⟩) .comptimeInt [] := .pure _
  have declares : declaredType definition.name.name .missing = pure none := rfl
  rcases run_declaration definition.node evaluates.isMissing evaluates.isUndef declares
    resolves binds fresh with ⟨after, ran, table, told⟩
  exact ⟨after, ran, table, told.trans (List.append_nil _)⟩

/-- Definitions are analyzed without a report, and each name gets its value. -/
theorem Defines.run {definitions : List Definition} {final : String → Option Int}
    (defines : Defines names definitions final) (bound : state.table.Binds names)
    (distinct : (definitions.map (·.name.name)).Nodup)
    (fresh : ∀ definition ∈ definitions,
      state.table.inner.find? definition.name.name = none) :
    ∃ after, ((Stmts.ofList (definitions.map Definition.toStmt)).analyze ctx).run state
        = .ok [] after ∧
      after.table.Binds final ∧ after.reports = state.reports := by
  induction defines generalizing state with
  | nil => exact ⟨state, rfl, bound, rfl⟩
  | @cons names final definition definitions value evaluates rest induction =>
      rw [List.map_cons, List.nodup_cons] at distinct
      rw [List.forall_mem_cons] at fresh
      rcases evaluates.run_definition ctx bound fresh.1 with ⟨middle, started, table, told⟩
      have boundMiddle : middle.table.Binds
          (Function.update names definition.name.name (some value)) := by
        rw [table]
        exact bound.bind _ _
      have freshMiddle : ∀ other ∈ definitions,
          middle.table.inner.find? other.name.name = none := by
        intro other member
        have different : definition.name.name ≠ other.name.name := by
          intro same
          exact distinct.1 (List.mem_map.mpr ⟨other, member, same.symm⟩)
        rw [table, SymbolTable.find?_bind_of_ne different]
        exact fresh.2 other member
      rcases induction boundMiddle distinct.2 freshMiddle with ⟨after, ended, final, toldAfter⟩
      refine ⟨after, ?_, final, toldAfter.trans told⟩
      change (Stmts.analyze ctx (.cons definition.toStmt _)).run state = _
      unfold Stmts.analyze
      rw [run_bind_of_ok started, run_bind_of_ok ended]
      rfl

theorem Evaluates.run_annotated {expr : Expr} {value : Int}
    (evaluates : Evaluates names expr (some value)) (bound : state.table.Binds names)
    {tag : Tag} {least greatest : Int}
    (range : tag.integerRange? ctx.width = some (least, greatest)) (node typeNode : Node)
    (isMutable : Bool) {name : Ident} (fresh : state.table.inner.find? name.name = none) :
    ∃ after, ((Stmt.declaration node isMutable (some name) (.named typeNode tag.name)
        expr).analyze ctx).run state = .ok none after ∧
      State.OverflowsUnless (least ≤ value ∧ value ≤ greatest) state after := by
  rcases evaluates.tells bound ctx (some (.scalar tag)) with ⟨reports, resolves, rfl⟩
  have binds : Tells state.table (bindingType ctx isMutable name (some (.scalar tag))
      ⟨expr.node, .ofInteger (some value)⟩) (.scalar tag)
      (overflowReports expr.node.position value tag ctx.width) := by
    apply (tells_fill range _ _ _).before
    dsimp only
    split
    · exact (Tells.recordSlot _ _).quietly (.pure _)
    · exact .pure _
  rcases run_declaration node evaluates.isMissing evaluates.isUndef
    (declaredType_named_eq range name.name typeNode) resolves binds fresh with
    ⟨after, ran, _, told⟩
  exact ⟨after, ran, State.overflowsUnless_of_reports range told⟩

theorem Evaluates.run_conversion {expr : Expr} {value : Int}
    (evaluates : Evaluates names expr (some value)) (bound : state.table.Binds names)
    {tag : Tag} {least greatest : Int}
    (range : tag.integerRange? ctx.width = some (least, greatest)) (node typeNode : Node)
    (target : Option Ty) :
    ∃ operand after, ((Expr.conversion node expr (.named typeNode tag.name)).resolve ctx
        target).run state = .ok operand after ∧
      State.OverflowsUnless (least ≤ value ∧ value ≤ greatest) state after := by
  rcases evaluates.tells bound ctx none with ⟨reports, resolves, rfl⟩
  have tells : Tells state.table
      ((Expr.conversion node expr (.named typeNode tag.name)).resolve ctx target)
      { type := .scalar tag, explicit := true }
      (overflowReports expr.node.position value tag ctx.width) := by
    unfold Expr.resolve
    apply Tells.recorded
    rw [resolve_named_eq range]
    exact (Tells.pure _).quietly (resolves.quietly (tells_converted range _ _ _))
  rcases tells.run rfl with ⟨after, ran, _, told⟩
  exact ⟨_, after, ran, State.overflowsUnless_of_reports range told⟩

/-- Where names stand for integers, definitions of more of them go through without a
report. An expression with a value resolves to exactly that value, whatever is asked for;
where it gets an integer type, by an annotation or a conversion, there is one report of an
overflow if the value lies outside of the type, and none otherwise. An expression without
a value is unknown, and a division by zero is reported. -/
theorem integers_fold_exactly (bound : state.table.Binds names) :
    (∀ definitions final, Defines names definitions final →
      (definitions.map (·.name.name)).Nodup →
      (∀ definition ∈ definitions,
        state.table.inner.find? definition.name.name = none) →
      ∃ after, ((Stmts.ofList (definitions.map Definition.toStmt)).analyze ctx).run state
          = .ok [] after ∧
        after.table.Binds final ∧ after.reports = state.reports) ∧
    (∀ expr value, Evaluates names expr (some value) →
      (∀ target, ∃ after, (expr.resolve ctx target).run state
          = .ok { type := .comptimeInt, value := some (.int value) } after ∧
        after.table = state.table ∧ after.reports = state.reports) ∧
      (∀ tag least greatest, Tag.integerRange? ctx.width tag = some (least, greatest) →
        ∀ node typeNode,
          (∀ name : Ident, state.table.inner.find? name.name = none →
            ∃ after, ((Stmt.declaration node false (some name) (.named typeNode tag.name)
                expr).analyze ctx).run state = .ok none after ∧
              State.OverflowsUnless (least ≤ value ∧ value ≤ greatest) state after) ∧
          (∀ target, ∃ operand after,
            ((Expr.conversion node expr (.named typeNode tag.name)).resolve ctx
                target).run state = .ok operand after ∧
              State.OverflowsUnless (least ≤ value ∧ value ≤ greatest) state after))) ∧
    (∀ expr, Evaluates names expr none → ∀ target, ∃ after reports position,
      (expr.resolve ctx target).run state = .ok .unknown after ∧
        after.reports = state.reports ++ reports ∧
        Finding.divisionByZero.placed position ∈ reports) := by
  refine ⟨?_, ?_, ?_⟩
  · intro definitions final defines distinct fresh
    exact defines.run ctx bound distinct fresh
  · intro expr value evaluates
    refine ⟨?_, ?_⟩
    · intro target
      rcases evaluates.tells bound ctx target with ⟨reports, tells, rfl⟩
      rcases tells.run rfl with ⟨after, ran, table, told⟩
      exact ⟨after, ran, table, told.trans (List.append_nil _)⟩
    · intro tag least greatest range node typeNode
      refine ⟨?_, ?_⟩
      · intro name fresh
        exact evaluates.run_annotated ctx bound range node typeNode false fresh
      · intro target
        exact evaluates.run_conversion ctx bound range node typeNode target
  · intro expr evaluates target
    rcases evaluates.tells bound ctx target with ⟨reports, tells, position, blamed⟩
    rcases tells.run rfl with ⟨after, ran, _, told⟩
    exact ⟨after, reports, position, ran, told, blamed⟩

end

/-- The table that knows one name. -/
def sampleState : State :=
  .ofTable (SymbolTable.empty.bind (.ofInteger "seven" 7))

/-- The product `seven * -400000000`, below every `i32`. -/
def sampleProduct : Expr :=
  .infixOp .absent (.ident ⟨.absent, "seven"⟩) "*"
    (.prefixOp .absent "-" (.int .absent "400000000"))

/-- What `sampleState` knows. -/
def sampleNames : String → Option Int :=
  Function.update (fun _ => none) "seven" (some 7)

theorem integers_fold_exactly_sample :
    sampleState.table.Binds sampleNames ∧
    Evaluates sampleNames sampleProduct (some (-2800000000)) ∧
    ∃ operand after,
      ((Expr.conversion .absent sampleProduct (.named .absent "i32")).resolve
        { policy := .strict, width := .bits64 } none).run sampleState
          = .ok operand after ∧
      State.OverflowsUnless (-2 ^ 31 ≤ -2800000000 ∧ -2800000000 ≤ 2 ^ 31 - 1)
        sampleState after := by
  have unbound : SymbolTable.empty.Binds fun _ => none := fun _ _ absent => nomatch absent
  have bound : sampleState.table.Binds sampleNames := unbound.bind "seven" 7
  have literal : Literal.integer? "400000000" = some 400000000 := by rfl
  have seven : Evaluates sampleNames (.ident ⟨.absent, "seven"⟩) (some 7) :=
    .name (Function.update_self _ _ _)
  have factor : Evaluates sampleNames (.prefixOp .absent "-" (.int .absent "400000000"))
      (some (-400000000)) := .negation (.literal literal)
  have evaluates : Evaluates sampleNames sampleProduct (some (-2800000000)) :=
    seven.operation .mul factor
  have folded := integers_fold_exactly { policy := .strict, width := .bits64 } bound
  have converted := ((folded.2.1 _ _ evaluates).2 .i32 _ _ rfl .absent .absent).2 none
  exact ⟨bound, evaluates, converted⟩

end ComptimeTyping
