import ComptimeTyping.Proofs.Frame
import ComptimeTyping.Proofs.Notes

/-! What an analysis depends on. Inside of a function nothing is looked at but the open
scopes and the functions that names stand for: what was reported and noted before is at most
added to, whatever it is. -/

namespace ComptimeTyping

/-! ## States on top of others -/

/-- Two tables in which all names stand for the same. -/
structure SymbolTable.Alike (left right : SymbolTable) : Prop where
  inner : right.inner = left.inner
  outer : right.outer = left.outer
  functions : ∀ name, right.function? name = left.function? name
  depth : right.depth = left.depth

theorem SymbolTable.Alike.trans {left middle right : SymbolTable} (first : left.Alike middle)
    (second : middle.Alike right) : left.Alike right :=
  ⟨second.inner.trans first.inner, second.outer.trans first.outer,
    fun name => (second.functions name).trans (first.functions name),
    second.depth.trans first.depth⟩

theorem SymbolTable.Alike.lookup? {left right : SymbolTable} (alike : left.Alike right)
    (name : String) : right.lookup? name = left.lookup? name := by
  rw [SymbolTable.lookup?, SymbolTable.lookup?, scopes, scopes, alike.inner, alike.outer]

theorem SymbolTable.Alike.parameter? {left right : SymbolTable} (alike : left.Alike right)
    (name : String) : right.parameter? name = left.parameter? name := by
  rw [SymbolTable.parameter?, SymbolTable.parameter?, alike.lookup?]

theorem SymbolTable.functions_exit (table : SymbolTable) :
    table.exit.functions = table.functions := by
  rcases table with ⟨_, _ | ⟨inner, outer⟩, functions, depth⟩ <;> rfl

theorem SymbolTable.declare_functions (table : SymbolTable) (functions : List Signature)
    (symbol : Symbol) :
    declare { table with functions } symbol =
      (table.declare symbol).map fun after => { after with functions } := by
  rw [declare_eq, declare_eq]
  cases table.inner.find? symbol.name <;> rfl

theorem SymbolTable.declareParameter_functions (table : SymbolTable)
    (functions : List Signature) (parameter : Parameter) :
    declareParameter { table with functions } parameter =
      (table.declareParameter parameter).map fun after => { after with functions } := by
  rw [declareParameter_eq, declareParameter_eq]
  split
  · exact table.declare_functions functions parameter.toSymbol
  · rfl

theorem SymbolTable.markInitialized_functions (table : SymbolTable)
    (functions : List Signature) (name : String) :
    markInitialized { table with functions } name =
      { table.markInitialized name with functions } := by
  unfold markInitialized modify
  dsimp only
  cases table.inner.find? name <;> rfl

/-- A state in which everything that a base has noted and reported came before. -/
def State.over (state base : State) : State where
  table := { state.table with functions := base.table.functions }
  types := state.types ++ base.types
  slots := state.slots ++ base.slots
  signatures := base.signatures
  reports := base.reports ++ state.reports
  returned := state.returned

/-- Change what an outcome leaves. -/
def Outcome.mapState (change : State → State) : Outcome α → Outcome α
  | .ok value state => .ok value (change state)
  | .error abort state => .error abort (change state)

def Outcome.over (outcome : Outcome α) (base : State) : Outcome α :=
  outcome.mapState (·.over base)

/-- The functions of a base are those that a state knows. -/
def State.Hosts (base state : State) : Prop :=
  ∀ name, base.table.function? name = state.table.function? name

theorem State.Hosts.alike {base state : State} (hosts : base.Hosts state) :
    state.table.Alike (state.over base).table :=
  ⟨rfl, rfl, hosts, rfl⟩

namespace Analysis

variable {α β : Type}

/-- A computation that does the same on top of every base that knows the same functions. -/
structure Local (computation : Analysis α) : Prop where
  run : ∀ {state base : State}, base.Hosts state →
    computation.run (state.over base) = (computation.run state).over base
  functions : ∀ state, (computation.run state).state.table.functions = state.table.functions

namespace Local

theorem pure (value : α) : (Pure.pure value : Analysis α).Local :=
  ⟨fun _ => rfl, fun _ => rfl⟩

theorem malformed (position : Position) (defect : Defect) :
    (Analysis.malformed position defect : Analysis α).Local :=
  ⟨fun _ => rfl, fun _ => rfl⟩

theorem of_reporting {computation : Analysis α}
    (reporting : computation.Reporting fun _ => True) : computation.Local := by
  obtain ⟨reports, verdict, rfl, -⟩ := reporting
  constructor
  · intro state base hosts
    cases verdict <;> simp [telling, State.over, Outcome.over, Outcome.mapState]
  · intro state
    cases verdict <;> rfl

theorem report (position : Position) (finding : Finding) :
    (Analysis.report position finding).Local :=
  of_reporting (.report _ _)

theorem bind {first : Analysis α} {next : α → Analysis β} (starts : first.Local)
    (rest : ∀ value, (next value).Local) : (first >>= next).Local := by
  constructor
  · intro state base hosts
    rw [run_bind, run_bind, starts.run hosts]
    have functions := starts.functions state
    cases started : first.run state with
    | error abort middle => rfl
    | ok value middle =>
        rw [started] at functions
        refine (rest value).run fun name => (hosts name).trans ?_
        unfold SymbolTable.function?
        rw [← functions]
        rfl
  · intro state
    rw [run_bind]
    have functions := starts.functions state
    cases started : first.run state with
    | error abort middle =>
        rw [started] at functions
        exact functions
    | ok value middle =>
        rw [started] at functions
        exact ((rest value).functions middle).trans functions

theorem discard {computation : Analysis α} (starts : computation.Local) :
    (Functor.discard computation).Local :=
  starts.bind fun _ => .pure _

/-- What is asked of the table is what names stand for. -/
theorem table_bind {next : SymbolTable → Analysis α} (rest : ∀ table, (next table).Local)
    (same : ∀ left right : SymbolTable, left.Alike right → next right = next left) :
    (table >>= next).Local := by
  constructor
  · intro state base hosts
    rw [run_table_bind, run_table_bind, same _ _ hosts.alike]
    exact (rest state.table).run hosts
  · intro state
    exact (rest state.table).functions state

theorem record (node : Node) (type : Option Ty) : (Analysis.record node type).Local :=
  ⟨fun _ => rfl, fun _ => rfl⟩

theorem recordSlot (node : Node) (type : Ty) : (Analysis.recordSlot node type).Local :=
  ⟨fun _ => rfl, fun _ => rfl⟩

theorem setReturned (returned : Bool) : (Analysis.setReturned returned).Local :=
  ⟨fun _ => rfl, fun _ => rfl⟩

theorem recorded {resolve : Analysis Operand} (node : Node) (starts : resolve.Local) :
    (Analysis.recorded node resolve).Local :=
  starts.bind fun _ => (record _ _).bind fun _ => .pure _

theorem guarded {condition : Prop} [Decidable condition] {step : Analysis Unit}
    {rest : Unit → Analysis α} (starts : step.Local) (after : (rest ()).Local) :
    (if condition then step >>= rest else rest ()).Local := by
  split
  · exact starts.bind fun _ => after
  · exact after

theorem run_withScope (kind : ScopeKind) (inside : Analysis α) (state : State) :
    (Analysis.withScope kind inside).run state =
      (inside.run { state with table := state.table.enter kind }).mapState fun inner =>
        { inner with table := inner.table.exit } := by
  unfold Analysis.withScope
  dsimp only
  cases inside.run { state with table := state.table.enter kind } <;> rfl

theorem withScope {inside : Analysis α} (kind : ScopeKind) (starts : inside.Local) :
    (Analysis.withScope kind inside).Local := by
  have leaves : ∀ state base : State,
      { state.over base with table := (state.over base).table.exit } =
        ({ state with table := state.table.exit } : State).over base := by
    rintro ⟨⟨_, _ | ⟨inner, outer⟩, functions, depth⟩, _⟩ base <;> rfl
  constructor
  · intro state base hosts
    have entered : base.Hosts { state with table := state.table.enter kind } := hosts
    rw [run_withScope, run_withScope]
    refine (congrArg _ (starts.run entered)).trans ?_
    cases inside.run { state with table := state.table.enter kind } with
    | ok value inner => exact congrArg (Outcome.ok value) (leaves inner base)
    | error abort inner => exact congrArg (Outcome.error abort) (leaves inner base)
  · intro state
    have entered := starts.functions { state with table := state.table.enter kind }
    rw [state_withScope rfl]
    exact (SymbolTable.functions_exit _).trans entered

end Local

/-! ## Slots, names and bindings -/

theorem local_materialize (ctx : Context) (source : Resolved) (target : Ty) (label : String) :
    (materialize ctx source target label).Local := by
  unfold materialize
  apply (Local.of_reporting (reporting_fill _ _ _ _)).bind
  intro type
  exact .guarded (.recordSlot _ _) (.pure _)

theorem local_materialize? (ctx : Context) (source : Resolved) (target : Option Ty)
    (label : String) : (materialize? ctx source target label).Local := by
  cases target with
  | none => exact .pure _
  | some target => exact (local_materialize _ _ _ _).discard

theorem local_fillBranches (ctx : Context) (target : Ty) (branches : List Resolved) :
    (fillBranches ctx target branches).Local := by
  induction branches with
  | nil => exact .pure _
  | cons branch branches induction =>
      exact (local_materialize _ _ _ _).discard.bind fun _ => induction

theorem local_unifyBranches (ctx : Context) (branches : List Resolved) (target : Option Ty) :
    (unifyBranches ctx branches target).Local := by
  unfold unifyBranches
  split
  · exact (local_fillBranches _ _ _).bind fun _ => .pure _
  · exact .of_reporting (reporting_joinBranches _ _)

theorem local_identifier (name : Ident) : (identifier name).Local := by
  unfold identifier
  apply Local.table_bind
  · intro table
    split
    · apply Local.table_bind
      · exact fun _ => .of_reporting (reporting_refuse _ _)
      · intro left right alike
        rw [alike.functions]
    · exact .guarded (.report _ _) (.pure _)
  · intro left right alike
    rw [alike.lookup?]

theorem local_requireMutable (name : Ident) (symbol : Symbol) :
    (requireMutable name symbol).Local := by
  unfold requireMutable
  split
  · apply Local.table_bind
    · intro table
      split
      · exact .report _ _
      · exact .report _ _
    · intro left right alike
      rw [alike.parameter?]
  · exact .pure _

/-- To bind in the innermost scope is to look at that scope only. -/
theorem local_bindInner {change : SymbolTable → Except SymbolTable.Refusal SymbolTable}
    {next : Analysis α} {refused : SymbolTable.Refusal → Analysis α}
    (changes : ∀ table functions, change { table with functions } =
      (change table).map fun after => { after with functions })
    (keeps : ∀ {table after}, change table = .ok after → after.functions = table.functions)
    (rest : next.Local) (refuses : ∀ refusal, (refused refusal).Local) :
    (table >>= fun table =>
      match change table with
      | .ok table => setTable table >>= fun _ => next
      | .error refusal => refused refusal).Local := by
  constructor
  · intro state base hosts
    have changed := changes state.table base.table.functions
    rw [run_table_bind, run_table_bind]
    change (match change { state.table with functions := base.table.functions } with
      | .ok table => setTable table >>= fun _ => next
      | .error refusal => refused refusal).run (state.over base) = _
    rw [changed]
    cases ended : change state.table with
    | error refusal => exact (refuses refusal).run hosts
    | ok after =>
        have hosted : base.Hosts { state with table := after } := by
          intro name
          rw [hosts name, SymbolTable.function?, SymbolTable.function?, keeps ended]
        exact rest.run hosted
  · intro state
    rw [run_table_bind]
    cases ended : change state.table with
    | error refusal => exact (refuses refusal).functions state
    | ok after => exact (rest.functions { state with table := after }).trans (keeps ended)

theorem local_declare (name : Ident) (symbol : Symbol) : (declare name symbol).Local := by
  unfold declare
  exact local_bindInner (fun table functions => table.declare_functions functions symbol)
    (fun declared => (SymbolTable.extendedTo_of_declare declared).functions) (.record _ _)
    fun _ => .report _ _

theorem local_declareParameters (node : Node) (signature : Signature) (number : Nat)
    (parameters : List Parameter) :
    (declareParameters node signature number parameters).Local := by
  induction parameters generalizing number with
  | nil => exact .pure _
  | cons parameter parameters induction =>
      unfold declareParameters
      exact local_bindInner
        (fun table functions => table.declareParameter_functions functions parameter)
        (fun declared => (SymbolTable.extendedTo_of_declareParameter declared).functions)
        (induction _) fun _ => (Local.report _ _).bind fun _ => induction _

theorem local_bindValue (ctx : Context) (isMutable : Bool) (name : Ident)
    (declared : Option Ty) (value : Resolved) :
    (bindValue ctx isMutable name declared value).Local := by
  unfold bindValue
  apply Local.bind
  · cases declared with
    | none => exact .of_reporting (reporting_bindingType_none _ _ _ _)
    | some type => exact local_materialize _ _ _ _
  · exact fun type => local_declare _ _

theorem local_bindUndef (isMutable : Bool) (name : Ident) (declared : Option Ty)
    (value : Node) : (bindUndef isMutable name declared value).Local := by
  unfold bindUndef
  split
  · exact (Local.report _ _).bind fun _ => local_declare _ _
  · dsimp only
    split
    · exact (local_declare _ _).bind fun _ => .record _ _
    · apply (Local.report _ _).bind
      exact fun _ => (local_declare _ _).bind fun _ => .record _ _

theorem local_assign (ctx : Context) (name : Ident) (symbol : Symbol) (value : Resolved) :
    (assign ctx name symbol value).Local := by
  unfold assign
  apply (local_materialize? _ _ _ _).bind
  intro _
  apply (Local.record _ _).bind
  intro _
  constructor
  · intro state base hosts
    have marked := state.table.markInitialized_functions base.table.functions name.name
    exact congrArg (fun table => Outcome.ok () { state.over base with table }) marked
  · intro state
    exact (state.table.keptAs_markInitialized name.name).functions

theorem local_withBound {resolve : Analysis Operand} (part : String) (parts : RangeParts)
    (bound : Expr) (starts : resolve.Local) : (withBound part parts bound resolve).Local := by
  unfold withBound
  split
  · exact .pure _
  · exact starts.bind fun _ => .of_reporting (reporting_addBound _ _ _)

theorem local_blockValue (ctx : Context) (target : Option Ty)
    {statements : Analysis (List Resolved)} (starts : statements.Local) :
    (blockValue ctx target statements).Local := by
  apply Local.withScope
  apply starts.bind
  intro branches
  split
  · exact .pure _
  · exact local_unifyBranches _ _ _

theorem local_requireReturn (name : Option Ident) (signature : Signature) :
    (requireReturn name signature).Local := by
  unfold requireReturn
  split
  · exact .pure _
  · next result _ =>
      have decided : ∀ returned : Bool,
          (if !(result.isVoid || result.isUnknown || returned) then
            Analysis.report ((name.map Ident.position).getD .nowhere)
              (.mustReturn signature.name result "add `return value` to the body")
          else Pure.pure ()).Local := by
        intro returned
        split
        · exact .report _ _
        · exact .pure _
      exact ⟨fun {state _} hosts => (decided state.returned).run hosts,
        fun state => (decided state.returned).functions state⟩

end Analysis

open Analysis

/-! ## Expressions and statements -/

mutual

theorem Expr.resolve_local (ctx : Context) (target : Option Ty) :
    (expr : Expr) → (expr.resolve ctx target).Local
  | .missing => .malformed _ _
  | .int _ _ => .recorded _ (.of_reporting (reporting_integerLiteral _ _))
  | .float _ _ => .recorded _ (.of_reporting (reporting_floatLiteral _ _))
  | .bool _ _ => .recorded _ (.pure _)
  | .string _ _ => .recorded _ (.pure _)
  | .undef _ => .recorded _ (.of_reporting (reporting_refuse _ _))
  | .ident _ => .recorded _ (local_identifier _)
  | .prefixOp _ _ right => by
      apply Local.recorded
      apply (right.resolve_local ctx target).bind
      exact fun _ => .of_reporting (reporting_prefixed _ _ _)
  | .infixOp _ left operator right => by
      unfold Expr.resolve
      apply Local.recorded
      split
      · exact .malformed _ _
      · apply (left.resolve_local ctx _).bind
        intro leftOperand
        apply (right.resolve_local ctx _).bind
        exact fun _ => .of_reporting (reporting_infixed _ _ _ _ _ _ _)
  | .conversion _ value type => by
      unfold Expr.resolve
      apply Local.recorded
      apply Local.guarded (.malformed _ _)
      apply (Local.of_reporting type.reporting_resolve).bind
      intro resolved
      apply (value.resolve_local ctx none).bind
      exact fun _ => .of_reporting (reporting_converted _ _ _ _)
  | .array _ items => by
      unfold Expr.resolve
      apply Local.recorded
      apply (items.resolveAll_local ctx _).bind
      exact fun _ => .of_reporting (reporting_arrayLiteral _ _ _ _)
  | .range _ start stop step _ => by
      unfold Expr.resolve
      apply Local.recorded
      apply (Local.of_reporting (reporting_startParts _ _)).bind
      intro parts
      apply (local_withBound _ _ _ (start.resolve_local ctx _)).bind
      intro started
      apply (local_withBound _ _ _ (stop.resolve_local ctx _)).bind
      intro stopped
      apply (local_withBound _ _ _ (step.resolve_local ctx _)).bind
      exact fun _ => .of_reporting (reporting_rangeLiteral _ _ _ _ _ _ _)
  | .index _ left index => by
      unfold Expr.resolve
      apply Local.recorded
      apply (left.resolve_local ctx none).bind
      intro array
      apply (index.resolve_local ctx _).bind
      exact fun _ => .of_reporting (reporting_indexing _ _ _ _)
  | .member _ left name => by
      cases name with
      | none => exact .recorded _ (.malformed _ _)
      | some name =>
          unfold Expr.resolve
          apply Local.recorded
          apply (left.resolve_local ctx none).bind
          exact fun _ => .of_reporting (reporting_property _ _)
  | .call _ callee arguments => by
      cases callee with
      | none => exact .recorded _ (.malformed _ _)
      | some callee =>
          unfold Expr.resolve
          apply Local.recorded
          apply Local.table_bind
          · intro table
            split
            · next signature _ =>
                apply (Local.of_reporting (reporting_requireArity _ _ _)).bind
                intro _
                apply (arguments.resolveArguments_local ctx signature 1 _).bind
                exact fun _ => .pure _
            · apply Local.table_bind
              · intro _
                apply (Local.report _ _).bind
                intro _
                exact (arguments.resolveAll_local ctx none).discard.bind fun _ => .pure _
              · intro left right alike
                rw [alike.lookup?]
          · intro left right alike
            rw [alike.functions]
  | .block _ statements => by
      unfold Expr.resolve
      apply Local.recorded
      apply local_blockValue
      exact statements.analyze_local _ (ctx.isNested_inBlock target)
  | .conditional _ condition consequence alternative => by
      unfold Expr.resolve
      apply Local.recorded
      apply (condition.resolve_local ctx _).bind
      intro operand
      apply (Local.of_reporting (reporting_requireCondition _)).bind
      intro _
      apply Local.guarded (.malformed _ _)
      apply (consequence.resolve_local ctx target).bind
      intro first
      split
      · exact .pure _
      · apply (alternative.resolve_local ctx target).bind
        exact fun _ => local_unifyBranches _ _ _

theorem Exprs.resolveAll_local (ctx : Context) (target : Option Ty) :
    (exprs : Exprs) → (exprs.resolveAll ctx target).Local
  | .nil => .pure _
  | .cons head tail => by
      apply (head.resolve_local ctx target).bind
      intro operand
      exact (tail.resolveAll_local ctx target).bind fun _ => .pure _

theorem Exprs.resolveArguments_local (ctx : Context) (signature : Signature) (number : Nat)
    (parameters : List Parameter) :
    (exprs : Exprs) → (exprs.resolveArguments ctx signature number parameters).Local
  | .nil => .pure _
  | .cons head tail => by
      cases parameters with
      | nil =>
          apply (head.resolve_local ctx none).discard.bind
          exact fun _ => tail.resolveArguments_local ctx signature (number + 1) []
      | cons parameter parameters =>
          apply (head.resolve_local ctx parameter.type).bind
          intro operand
          apply (local_materialize? _ _ _ _).bind
          exact fun _ => tail.resolveArguments_local ctx signature (number + 1) parameters

theorem Body.resolve_local (ctx : Context) (target : Option Ty) :
    (body : Body) → (body.resolve ctx target).Local
  | .missing => .malformed _ _
  | .block _ statements => by
      unfold Body.resolve
      apply Local.recorded
      apply local_blockValue
      exact statements.analyze_local _ (ctx.isNested_inBlock target)

theorem Stmts.analyze_local (ctx : Context) (nested : ctx.isNested = true) :
    (statements : Stmts) → (statements.analyze ctx).Local
  | .nil => .pure _
  | .cons head tail => by
      apply (head.analyze_local ctx nested).bind
      intro branch
      exact (tail.analyze_local ctx nested).bind fun _ => .pure _

theorem Stmt.analyze_local (ctx : Context) (nested : ctx.isNested = true) :
    (statement : Stmt) → (statement.analyze ctx).Local
  | .missing => .malformed _ _
  | .declaration _ isMutable name type value => by
      cases name with
      | none => exact .malformed _ _
      | some name =>
          unfold Stmt.analyze
          apply Local.guarded (.malformed _ _)
          apply (Local.of_reporting (reporting_declaredType _ _)).bind
          intro declared
          split
          · exact (local_bindUndef _ _ _ _).bind fun _ => .pure _
          · apply (value.resolve_local ctx declared).bind
            intro operand
            exact (local_bindValue _ _ _ _ _).bind fun _ => .pure _
  | .assignment _ name value => by
      cases name with
      | none => exact .malformed _ _
      | some name =>
          unfold Stmt.analyze
          apply Local.guarded (.malformed _ _)
          apply Local.table_bind
          · intro table
            split
            · apply (Local.report _ _).bind
              intro _
              exact (value.resolve_local ctx none).discard.bind fun _ => .pure _
            · apply (local_requireMutable _ _).bind
              intro _
              apply (value.resolve_local ctx _).bind
              intro operand
              exact (local_assign _ _ _ _).bind fun _ => .pure _
          · intro left right alike
            rw [alike.lookup?]
  | .returning _ value => by
      unfold Stmt.analyze
      dsimp only
      split
      · apply (Local.report _ _).bind
        intro _
        exact .guarded (value.resolve_local ctx none).discard (.pure _)
      · apply (Local.setReturned _).bind
        intro _
        split
        · split
          · apply (value.resolve_local ctx none).bind
            intro operand
            apply (Local.of_reporting (reporting_requireNoValue _ _)).bind
            exact fun _ => .pure _
          · exact .pure _
        · split
          · exact (Local.report _ _).bind fun _ => .pure _
          · apply (value.resolve_local ctx _).bind
            intro operand
            exact (local_materialize _ _ _ _).discard.bind fun _ => .pure _
  | .yielding _ value => by
      unfold Stmt.analyze
      apply Local.guarded (.malformed _ _)
      split
      · apply (Local.report _ _).bind
        intro _
        exact (value.resolve_local ctx none).discard.bind fun _ => .pure _
      · exact (value.resolve_local ctx _).bind fun _ => .pure _
  | .expression _ value => by
      exact (value.resolve_local ctx none).discard.bind fun _ => .pure _
  | .function _ name parameters result body => by
      unfold Stmt.analyze
      dsimp only
      split
      · exact (Local.report _ _).bind fun _ => .pure _
      · next outside => exact absurd nested outside

end

theorem Body.analyze_local (ctx : Context) (nested : ctx.isNested = true) (body : Body) :
    (body.analyze ctx).Local := by
  cases body with
  | missing => exact .pure _
  | block node statements => exact (statements.analyze_local ctx nested).discard

end ComptimeTyping
