import ComptimeTyping.Analysis.Unit
import ComptimeTyping.Proofs.Reporting
import ComptimeTyping.Proofs.Scopes

/-! What an analysis does to the symbol table it starts from. An expression leaves
every open scope as it is, a statement adds at most to the innermost one, and this
is so on every way out, stops included. -/

namespace ComptimeTyping

namespace Analysis

variable {α β : Type} {relation : SymbolTable → SymbolTable → Prop}

/-- Every run relates the table it starts from to the table it leaves. -/
structure Moves (relation : SymbolTable → SymbolTable → Prop) (computation : Analysis α) :
    Prop where
  tables : ∀ state, relation state.table (computation.run state).state.table

namespace Moves

theorem mono {weaker : SymbolTable → SymbolTable → Prop} {computation : Analysis α}
    (moves : computation.Moves relation)
    (implied : ∀ {before after}, relation before after → weaker before after) :
    computation.Moves weaker :=
  ⟨fun state => implied (moves.tables state)⟩

theorem extending {computation : Analysis α} (moves : computation.Moves SymbolTable.KeptAs) :
    computation.Moves SymbolTable.ExtendedTo :=
  moves.mono SymbolTable.KeptAs.extendedTo

theorem update (change : State → State)
    (grows : ∀ state : State, state.GrowsTo (change state))
    (moved : ∀ state, relation state.table (change state).table) :
    (Analysis.update change grows).Moves relation :=
  ⟨moved⟩

/-- Inside of a scope of its own, a computation may bind what it likes. -/
theorem withScope {kind : ScopeKind} {inside : Analysis α}
    (moves : inside.Moves SymbolTable.ExtendedTo) :
    (Analysis.withScope kind inside).Moves SymbolTable.KeptAs := by
  constructor
  intro state
  have extended := moves.tables { state with table := state.table.enter kind }
  rw [state_withScope rfl]
  exact SymbolTable.keptAs_exit extended

variable [IsPreorder SymbolTable relation]

theorem pure (value : α) : (Pure.pure value : Analysis α).Moves relation :=
  ⟨fun state => refl state.table⟩

theorem read (view : State → α) : (Analysis.read view).Moves relation :=
  ⟨fun state => refl state.table⟩

theorem table : Analysis.table.Moves relation :=
  .read _

theorem bind {first : Analysis α} {next : α → Analysis β} (moves : first.Moves relation)
    (rest : ∀ value, (next value).Moves relation) : (first >>= next).Moves relation := by
  constructor
  intro state
  have start := moves.tables state
  rw [run_bind]
  cases started : first.run state with
  | ok value middle =>
      rw [started] at start
      exact IsTrans.trans _ _ _ start ((rest value).tables middle)
  | error abort middle =>
      rw [started] at start
      exact start

theorem discard {computation : Analysis α} (moves : computation.Moves relation) :
    (Functor.discard computation).Moves relation :=
  moves.bind fun _ => .pure _

theorem of_reporting {computation : Analysis α} (reporting : computation.Reporting fun _ => True) :
    computation.Moves relation := by
  constructor
  intro state
  rw [reporting.table_eq]
  exact refl _

theorem report (position : Position) (finding : Finding) :
    (Analysis.report position finding).Moves relation :=
  of_reporting (.report _ _)

theorem malformed (position : Position) (defect : Defect) :
    (Analysis.malformed position defect : Analysis α).Moves relation :=
  of_reporting (.malformed trivial)

theorem guarded {condition : Prop} [Decidable condition] {step : Analysis Unit}
    {rest : Unit → Analysis α} (moves : step.Moves relation)
    (after : (rest ()).Moves relation) :
    (if condition then step >>= rest else rest ()).Moves relation := by
  split
  · exact moves.bind fun _ => after
  · exact after

theorem record (node : Node) (type : Option Ty) :
    (Analysis.record node type).Moves relation :=
  .update _ _ fun _ => refl _

theorem recorded {resolve : Analysis Operand} (node : Node) (moves : resolve.Moves relation) :
    (Analysis.recorded node resolve).Moves relation := by
  apply moves.bind
  intro operand
  exact (Moves.record _ _).bind fun _ => .pure _

theorem setReturned (returned : Bool) : (Analysis.setReturned returned).Moves relation :=
  .update _ _ fun _ => refl _

end Moves

/-! ## Slots, names and signatures -/

section Unbound

variable [IsPreorder SymbolTable relation]

theorem moves_materialize (ctx : Context) (source : Resolved) (target : Ty)
    (label : String) : (materialize ctx source target label).Moves relation := by
  unfold materialize
  apply (Moves.of_reporting (reporting_fill _ _ _ _)).bind
  intro type
  apply Moves.guarded
  · exact .update _ _ fun _ => refl _
  · exact .pure _

theorem moves_materialize? (ctx : Context) (source : Resolved) (target : Option Ty)
    (label : String) : (materialize? ctx source target label).Moves relation := by
  cases target with
  | none => exact .pure _
  | some target => exact (moves_materialize _ _ _ _).discard

theorem moves_fillBranches (ctx : Context) (target : Ty) (branches : List Resolved) :
    (fillBranches ctx target branches).Moves relation := by
  induction branches with
  | nil => exact .pure _
  | cons branch branches induction =>
      exact (moves_materialize _ _ _ _).discard.bind fun _ => induction

theorem moves_unifyBranches (ctx : Context) (branches : List Resolved) (target : Option Ty) :
    (unifyBranches ctx branches target).Moves relation := by
  unfold unifyBranches
  split
  · exact (moves_fillBranches _ _ _).bind fun _ => .pure _
  · exact .of_reporting (reporting_joinBranches _ _)

theorem moves_identifier (name : Ident) : (identifier name).Moves relation := by
  unfold identifier
  apply Moves.table.bind
  intro table
  split
  · exact Moves.table.bind fun _ => .of_reporting (reporting_refuse _ _)
  · exact .guarded (.report _ _) (.pure _)

theorem moves_requireMutable (name : Ident) (symbol : Symbol) :
    (requireMutable name symbol).Moves relation := by
  unfold requireMutable
  split
  · apply Moves.table.bind
    intro table
    split
    · exact .report _ _
    · exact .report _ _
  · exact .pure _

theorem moves_signatureOf (node : Node) (name : Option Ident)
    (parameters : List (Option ParameterExpr)) (result : TypeExpr) (body : Body) :
    (signatureOf node name parameters result body).Moves relation := by
  unfold signatureOf
  apply (Moves.read _).bind
  intro known
  split
  · exact .pure _
  · apply (Moves.of_reporting (reporting_readSignature _ _ _ _ _)).bind
    intro signature
    apply Moves.bind
    · exact .update _ _ fun _ => refl _
    · exact fun _ => .pure _

theorem moves_requireReturn (name : Option Ident) (signature : Signature) :
    (requireReturn name signature).Moves relation := by
  unfold requireReturn
  split
  · exact .pure _
  · apply (Moves.read _).bind
    intro returned
    split
    · exact .report _ _
    · exact .pure _

theorem moves_withBound {resolve : Analysis Operand} (part : String) (parts : RangeParts)
    (bound : Expr) (moves : resolve.Moves relation) :
    (withBound part parts bound resolve).Moves relation := by
  unfold withBound
  split
  · exact .pure _
  · exact moves.bind fun _ => .of_reporting (reporting_addBound _ _ _)

end Unbound

/-! ## Bindings -/

theorem extends_declare (name : Ident) (symbol : Symbol) :
    (declare name symbol).Moves SymbolTable.ExtendedTo := by
  constructor
  intro state
  unfold declare
  rw [run_table_bind]
  cases declared : state.table.declare symbol with
  | ok table => exact SymbolTable.extendedTo_of_declare declared
  | error refusal => exact refl _

theorem extends_bindValue (ctx : Context) (isMutable : Bool) (name : Ident)
    (declared : Option Ty) (value : Resolved) :
    (bindValue ctx isMutable name declared value).Moves SymbolTable.ExtendedTo := by
  unfold bindValue
  apply Moves.bind
  · cases declared with
    | none => exact .of_reporting (reporting_bindingType_none _ _ _ _)
    | some type => exact moves_materialize _ _ _ _
  · exact fun type => extends_declare _ _

theorem extends_bindUndef (isMutable : Bool) (name : Ident) (declared : Option Ty)
    (value : Node) :
    (bindUndef isMutable name declared value).Moves SymbolTable.ExtendedTo := by
  unfold bindUndef
  split
  · exact (Moves.report _ _).bind fun _ => extends_declare _ _
  · dsimp only
    split
    · exact (extends_declare _ _).bind fun _ => .record _ _
    · apply (Moves.report _ _).bind
      intro _
      exact (extends_declare _ _).bind fun _ => .record _ _

theorem keeps_assign (ctx : Context) (name : Ident) (symbol : Symbol) (value : Resolved) :
    (assign ctx name symbol value).Moves SymbolTable.KeptAs := by
  unfold assign
  apply (moves_materialize? _ _ _ _).bind
  intro _
  apply (Moves.record _ _).bind
  intro _
  constructor
  intro state
  exact state.table.keptAs_markInitialized name.name

theorem extends_declareParameters (node : Node) (signature : Signature) (number : Nat)
    (parameters : List Parameter) :
    (declareParameters node signature number parameters).Moves SymbolTable.ExtendedTo := by
  induction parameters generalizing number with
  | nil => exact .pure _
  | cons parameter parameters induction =>
      constructor
      intro state
      unfold declareParameters
      rw [run_table_bind]
      cases declared : state.table.declareParameter parameter with
      | ok table =>
          have extended := SymbolTable.extendedTo_of_declareParameter declared
          exact IsTrans.trans _ _ _ extended ((induction (number + 1)).tables { state with table })
      | error refusal =>
          exact ((Moves.report _ _).bind fun _ => induction (number + 1)).tables state

theorem registers_declareFunction (node : Node) (name : Option Ident)
    (parameters : List (Option ParameterExpr)) (result : TypeExpr) (body : Body) :
    (declareFunction node name parameters result body).Moves SymbolTable.RegisteredTo := by
  unfold declareFunction
  apply (moves_signatureOf _ _ _ _ _).bind
  intro signature
  constructor
  intro state
  rw [run_table_bind]
  cases declared : state.table.declareFunction (some signature) with
  | ok table => exact SymbolTable.registeredTo_of_declareFunction declared
  | error refusal => exact refl _

theorem keeps_blockValue (ctx : Context) (target : Option Ty)
    {statements : Analysis (List Resolved)}
    (moves : statements.Moves SymbolTable.ExtendedTo) :
    (blockValue ctx target statements).Moves SymbolTable.KeptAs := by
  apply Moves.withScope
  apply moves.bind
  intro branches
  split
  · exact .pure _
  · exact moves_unifyBranches _ _ _

end Analysis

open Analysis

/-! ## Expressions and statements -/

/-- Only a declaration binds. -/
def Stmt.Moved : Stmt → SymbolTable → SymbolTable → Prop
  | .declaration _ _ _ _ _ => SymbolTable.ExtendedTo
  | _ => SymbolTable.KeptAs

theorem Stmt.Moved.extendedTo {statement : Stmt} {before after : SymbolTable}
    (moved : statement.Moved before after) : before.ExtendedTo after := by
  cases statement with
  | declaration => exact moved
  | _ => exact SymbolTable.KeptAs.extendedTo moved

mutual

theorem Expr.resolve_keeps (ctx : Context) (target : Option Ty) :
    (expr : Expr) → (expr.resolve ctx target).Moves SymbolTable.KeptAs
  | .missing => .malformed _ _
  | .int _ _ => .recorded _ (.of_reporting (reporting_integerLiteral _ _))
  | .float _ _ => .recorded _ (.of_reporting (reporting_floatLiteral _ _))
  | .bool _ _ => .recorded _ (.pure _)
  | .string _ _ => .recorded _ (.pure _)
  | .undef _ => .recorded _ (.of_reporting (reporting_refuse _ _))
  | .ident _ => .recorded _ (moves_identifier _)
  | .prefixOp _ _ right => by
      apply Moves.recorded
      apply (right.resolve_keeps ctx target).bind
      exact fun _ => .of_reporting (reporting_prefixed _ _ _)
  | .infixOp _ left operator right => by
      unfold Expr.resolve
      apply Moves.recorded
      split
      · exact .malformed _ _
      · apply (left.resolve_keeps ctx _).bind
        intro leftOperand
        apply (right.resolve_keeps ctx _).bind
        exact fun _ => .of_reporting (reporting_infixed _ _ _ _ _ _ _)
  | .conversion _ value type => by
      unfold Expr.resolve
      apply Moves.recorded
      apply Moves.guarded (.malformed _ _)
      apply (Moves.of_reporting type.reporting_resolve).bind
      intro resolved
      apply (value.resolve_keeps ctx none).bind
      exact fun _ => .of_reporting (reporting_converted _ _ _ _)
  | .array _ items => by
      unfold Expr.resolve
      apply Moves.recorded
      apply (items.resolveAll_keeps ctx _).bind
      exact fun _ => .of_reporting (reporting_arrayLiteral _ _ _ _)
  | .range _ start stop step _ => by
      unfold Expr.resolve
      apply Moves.recorded
      apply (Moves.of_reporting (reporting_startParts _ _)).bind
      intro parts
      apply (moves_withBound _ _ _ (start.resolve_keeps ctx _)).bind
      intro started
      apply (moves_withBound _ _ _ (stop.resolve_keeps ctx _)).bind
      intro stopped
      apply (moves_withBound _ _ _ (step.resolve_keeps ctx _)).bind
      exact fun _ => .of_reporting (reporting_rangeLiteral _ _ _ _ _ _ _)
  | .index _ left index => by
      unfold Expr.resolve
      apply Moves.recorded
      apply (left.resolve_keeps ctx none).bind
      intro array
      apply (index.resolve_keeps ctx _).bind
      exact fun _ => .of_reporting (reporting_indexing _ _ _ _)
  | .member _ left name => by
      cases name with
      | none => exact .recorded _ (.malformed _ _)
      | some name =>
          unfold Expr.resolve
          apply Moves.recorded
          apply (left.resolve_keeps ctx none).bind
          exact fun _ => .of_reporting (reporting_property _ _)
  | .call _ callee arguments => by
      cases callee with
      | none => exact .recorded _ (.malformed _ _)
      | some callee =>
          unfold Expr.resolve
          apply Moves.recorded
          apply Moves.table.bind
          intro table
          split
          · next signature _ =>
              apply (Moves.of_reporting (reporting_requireArity _ _ _)).bind
              intro _
              apply (arguments.resolveArguments_keeps ctx signature 1 _).bind
              exact fun _ => .pure _
          · apply Moves.table.bind
            intro _
            apply (Moves.report _ _).bind
            intro _
            exact (arguments.resolveAll_keeps ctx none).discard.bind fun _ => .pure _
  | .block _ statements => by
      unfold Expr.resolve
      exact .recorded _ (keeps_blockValue _ _ (statements.analyze_extends _))
  | .conditional _ condition consequence alternative => by
      unfold Expr.resolve
      apply Moves.recorded
      apply (condition.resolve_keeps ctx _).bind
      intro operand
      apply (Moves.of_reporting (reporting_requireCondition _)).bind
      intro _
      apply Moves.guarded (.malformed _ _)
      apply (consequence.resolve_keeps ctx target).bind
      intro first
      split
      · exact .pure _
      · apply (alternative.resolve_keeps ctx target).bind
        exact fun _ => moves_unifyBranches _ _ _

theorem Exprs.resolveAll_keeps (ctx : Context) (target : Option Ty) :
    (exprs : Exprs) → (exprs.resolveAll ctx target).Moves SymbolTable.KeptAs
  | .nil => .pure _
  | .cons head tail => by
      apply (head.resolve_keeps ctx target).bind
      intro operand
      exact (tail.resolveAll_keeps ctx target).bind fun _ => .pure _

theorem Exprs.resolveArguments_keeps (ctx : Context) (signature : Signature) (number : Nat)
    (parameters : List Parameter) :
    (exprs : Exprs) →
      (exprs.resolveArguments ctx signature number parameters).Moves SymbolTable.KeptAs
  | .nil => .pure _
  | .cons head tail => by
      cases parameters with
      | nil =>
          apply (head.resolve_keeps ctx none).discard.bind
          exact fun _ => tail.resolveArguments_keeps ctx signature (number + 1) []
      | cons parameter parameters =>
          apply (head.resolve_keeps ctx parameter.type).bind
          intro operand
          apply (moves_materialize? _ _ _ _).bind
          exact fun _ => tail.resolveArguments_keeps ctx signature (number + 1) parameters

theorem Body.resolve_keeps (ctx : Context) (target : Option Ty) :
    (body : Body) → (body.resolve ctx target).Moves SymbolTable.KeptAs
  | .missing => .malformed _ _
  | .block _ statements => by
      unfold Body.resolve
      exact .recorded _ (keeps_blockValue _ _ (statements.analyze_extends _))

theorem Stmts.analyze_extends (ctx : Context) :
    (statements : Stmts) → (statements.analyze ctx).Moves SymbolTable.ExtendedTo
  | .nil => .pure _
  | .cons head tail => by
      apply ((head.analyze_moves ctx).mono Stmt.Moved.extendedTo).bind
      intro branch
      exact (tail.analyze_extends ctx).bind fun _ => .pure _

theorem Stmt.analyze_moves (ctx : Context) :
    (statement : Stmt) → (statement.analyze ctx).Moves statement.Moved
  | .missing => by
      change Moves SymbolTable.KeptAs _
      exact .malformed _ _
  | .declaration _ isMutable name type value => by
      change Moves SymbolTable.ExtendedTo _
      cases name with
      | none => exact .malformed _ _
      | some name =>
          unfold Stmt.analyze
          apply Moves.guarded (.malformed _ _)
          apply (Moves.of_reporting (reporting_declaredType _ _)).bind
          intro declared
          split
          · exact (extends_bindUndef _ _ _ _).bind fun _ => .pure _
          · apply (value.resolve_keeps ctx declared).extending.bind
            intro operand
            exact (extends_bindValue _ _ _ _ _).bind fun _ => .pure _
  | .assignment _ name value => by
      change Moves SymbolTable.KeptAs _
      cases name with
      | none => exact .malformed _ _
      | some name =>
          unfold Stmt.analyze
          apply Moves.guarded (.malformed _ _)
          apply Moves.table.bind
          intro table
          split
          · apply (Moves.report _ _).bind
            intro _
            apply (value.resolve_keeps ctx none).discard.bind
            exact fun _ => .pure _
          · apply (moves_requireMutable _ _).bind
            intro _
            apply (value.resolve_keeps ctx _).bind
            intro operand
            exact (keeps_assign _ _ _ _).bind fun _ => .pure _
  | .returning _ value => by
      change Moves SymbolTable.KeptAs _
      unfold Stmt.analyze
      dsimp only
      split
      · apply (Moves.report _ _).bind
        intro _
        apply Moves.guarded
        · exact (value.resolve_keeps ctx none).discard
        · exact .pure _
      · apply (Moves.setReturned _).bind
        intro _
        split
        · split
          · apply (value.resolve_keeps ctx none).bind
            intro operand
            apply (Moves.of_reporting (reporting_requireNoValue _ _)).bind
            exact fun _ => .pure _
          · exact .pure _
        · split
          · exact (Moves.report _ _).bind fun _ => .pure _
          · apply (value.resolve_keeps ctx _).bind
            intro operand
            exact (moves_materialize _ _ _ _).discard.bind fun _ => .pure _
  | .yielding _ value => by
      change Moves SymbolTable.KeptAs _
      unfold Stmt.analyze
      apply Moves.guarded (.malformed _ _)
      split
      · apply (Moves.report _ _).bind
        intro _
        apply (value.resolve_keeps ctx none).discard.bind
        exact fun _ => .pure _
      · apply (value.resolve_keeps ctx _).bind
        exact fun _ => .pure _
  | .expression _ value => by
      change Moves SymbolTable.KeptAs _
      apply (value.resolve_keeps ctx none).discard.bind
      exact fun _ => .pure _
  | .function _ name parameters result body => by
      change Moves SymbolTable.KeptAs _
      unfold Stmt.analyze
      dsimp only
      split
      · exact (Moves.report _ _).bind fun _ => .pure _
      · apply (moves_signatureOf _ _ _ _ _).bind
        intro signature
        apply Moves.bind
        · apply Moves.withScope
          apply (extends_declareParameters _ _ _ _).bind
          intro _
          apply (Moves.setReturned _).bind
          intro _
          apply (body.analyze_extends _).bind
          exact fun _ => moves_requireReturn _ _
        · exact fun _ => .pure _

theorem Body.analyze_extends (ctx : Context) :
    (body : Body) → (body.analyze ctx).Moves SymbolTable.ExtendedTo
  | .missing => .pure _
  | .block _ statements => (statements.analyze_extends ctx).discard

end

/-! ## Programs -/

theorem Stmts.declareFunctions_registers :
    (statements : Stmts) → statements.declareFunctions.Moves SymbolTable.RegisteredTo
  | .nil => .pure _
  | .cons head tail => by
      have rest := tail.declareFunctions_registers
      cases head with
      | function node name parameters result body =>
          exact (registers_declareFunction _ _ _ _ _).bind fun _ => rest
      | _ => exact rest

theorem Program.analyze_grows (ctx : Context) (mode : AnalysisMode) (program : Program) :
    (program.analyze ctx mode).Moves SymbolTable.GrownTo := by
  have headers : program.statements.declareFunctions.Moves SymbolTable.GrownTo :=
    program.statements.declareFunctions_registers.mono SymbolTable.RegisteredTo.grownTo
  have bodies : (program.statements.analyze ctx).Moves SymbolTable.GrownTo :=
    (program.statements.analyze_extends ctx).mono SymbolTable.ExtendedTo.grownTo
  unfold Program.analyze
  apply Moves.guarded headers
  split
  · exact bodies.discard
  · exact .pure _

theorem Program.analyze_bodies_extends (ctx : Context) (program : Program) :
    (program.analyze ctx .bodies).Moves SymbolTable.ExtendedTo :=
  (program.statements.analyze_extends ctx).discard

/-- Whatever is analyzed and however that ends, every scope is still there with its
kind and its bindings, of which at most the first value is news. Only a program
binds, and only in the scope that was innermost; only its headers register
functions. -/
theorem analysis_keeps_table (ctx : Context) (state : State) :
    (∀ mode program,
      state.table.GrownTo ((analyzeUnit ctx mode program).run state).state.table) ∧
    (∀ program,
      state.table.ExtendedTo ((analyzeUnit ctx .bodies program).run state).state.table) ∧
    (∀ target expr,
      state.table.KeptAs ((analyzeExpr ctx target expr).run state).state.table) := by
  refine ⟨?_, ?_, ?_⟩
  · intro mode program
    cases program with
    | none => exact refl state.table
    | some program => exact (program.analyze_grows ctx mode).tables state
  · intro program
    cases program with
    | none => exact refl state.table
    | some program => exact (program.analyze_bodies_extends ctx).tables state
  · intro target expr
    have moves : (analyzeExpr ctx target expr).Moves SymbolTable.KeptAs :=
      (expr.resolve_keeps ctx target).bind fun _ => .pure _
    exact moves.tables state

end ComptimeTyping
