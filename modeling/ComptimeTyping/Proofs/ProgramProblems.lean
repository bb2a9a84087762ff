import ComptimeTyping.Proofs.DeclarationProblems
import ComptimeTyping.Proofs.SequenceProblems

/-! What can be wrong at a moment of an analysis. A problem is told with the state in which the
analysis comes to it, and with what it has resolved until then. -/

namespace ComptimeTyping

open Analysis

variable {ctx : Context} {target : Option Ty} {before : State} {diagnostic : Diagnostic}

/-! ## Expressions -/

/-- What is wrong with a bound of a range, after the bounds that are read before it. -/
inductive BoundsProblem (ctx : Context) (hint : Option Ty) :
    State → RangeParts → List (String × Expr) → Diagnostic → Prop
  | here {before middle : State} {parts : RangeParts} {part : String} {bound : Expr}
      {rest : List (String × Expr)} {operand : Operand} {diagnostic : Diagnostic}
      (present : bound.isMissing = false)
      (run : (bound.resolve ctx hint).run before = .ok operand middle)
      (problem : BoundProblem part parts ⟨bound.node, operand⟩ diagnostic) :
      BoundsProblem ctx hint before parts ((part, bound) :: rest) diagnostic
  | later {before middle : State} {parts : RangeParts} {part : String} {bound : Expr}
      {rest : List (String × Expr)} {read : RangeParts × Bound} {diagnostic : Diagnostic}
      (run : (withBound part parts bound (bound.resolve ctx hint)).run before = .ok read middle)
      (problem : BoundsProblem ctx hint middle read.1 rest diagnostic) :
      BoundsProblem ctx hint before parts ((part, bound) :: rest) diagnostic

/-- The bounds of a range are read in order. -/
inductive ReadsBounds (ctx : Context) (hint : Option Ty) (before : State)
    (start stop step : Expr) : RangeParts → Bounds → State → Prop
  | read {parts : RangeParts} {started stopped stepped : RangeParts × Bound}
      {begun middle late after : State}
      (begins : (startParts start step).run before = .ok parts begun)
      (starts : (withBound "start" parts start (start.resolve ctx hint)).run begun =
        .ok started middle)
      (stops : (withBound "end" started.1 stop (stop.resolve ctx hint)).run middle =
        .ok stopped late)
      (steps : (withBound "step" stopped.1 step (step.resolve ctx hint)).run late =
        .ok stepped after) :
      ReadsBounds ctx hint before start stop step stepped.1 ⟨started.2, stopped.2, stepped.2⟩ after

/-- What is wrong with an expression, apart from the expressions inside of it. -/
inductive Expr.Problem (ctx : Context) (target : Option Ty) (before : State) :
    Expr → Diagnostic → Prop
  | misplacedUndef {node : Node} :
      Problem ctx target before (.undef node) (Finding.misplacedUndef.placed node.position)
  | undeclared {name : Ident} (absent : before.table.lookup? name.name = none) :
      Problem ctx target before (.ident name)
        ((Finding.undeclared name.name (before.table.function? name.name).isSome).placed
          name.position)
  | uninitialized {name : Ident} {symbol : Symbol}
      (bound : before.table.lookup? name.name = some symbol)
      (unset : symbol.isInitialized = false) :
      Problem ctx target before (.ident name)
        ((Finding.uninitialized name.name).placed name.position)
  | prefixOp {node : Node} {operator : String} {right : Expr} {operand : Operand}
      {middle : State} {diagnostic : Diagnostic}
      (run : (right.resolve ctx target).run before = .ok operand middle)
      (problem : PrefixProblem node operator operand diagnostic) :
      Problem ctx target before (.prefixOp node operator right) diagnostic
  | infixOp {node : Node} {left right : Expr} {operator : String} {op : InfixOp}
      {leftOperand rightOperand : Operand} {middle after : State} {diagnostic : Diagnostic}
      (read : InfixOp.ofSymbol? operator = some op)
      (leftRun : (left.resolve ctx (operandHint op target)).run before = .ok leftOperand middle)
      (rightRun : (right.resolve ctx (operandHint op target)).run middle =
        .ok rightOperand after)
      (problem : InfixProblem ctx node operator op ⟨left.node, leftOperand⟩
        ⟨right.node, rightOperand⟩ target diagnostic) :
      Problem ctx target before (.infixOp node left operator right) diagnostic
  | targetType {node : Node} {value : Expr} {type : TypeExpr} {diagnostic : Diagnostic}
      (problem : type.Problem before none diagnostic) :
      Problem ctx target before (.conversion node value type) diagnostic
  | conversion {node : Node} {value : Expr} {type : TypeExpr} {resolved : Ty}
      {operand : Operand} {middle after : State} {diagnostic : Diagnostic}
      (typeRun : type.resolve.run before = .ok resolved middle)
      (valueRun : (value.resolve ctx none).run middle = .ok operand after)
      (problem : ConversionProblem ctx node ⟨value.node, operand⟩ resolved diagnostic) :
      Problem ctx target before (.conversion node value type) diagnostic
  | array {node : Node} {items : Exprs} {elements : List Resolved} {middle : State}
      {diagnostic : Diagnostic}
      (run : (items.resolveAll ctx (elementTarget target)).run before = .ok elements middle)
      (problem : ArrayProblem ctx node target elements diagnostic) :
      Problem ctx target before (.array node items) diagnostic
  | stepWithoutStart {node : Node} {start stop step : Expr} {inclusive : Bool}
      (startless : start.isMissing = true) (stepped : step.isMissing = false) :
      Problem ctx target before (.range node start stop step inclusive)
        (Finding.stepWithoutStart.placed step.node.position)
  | bound {node : Node} {start stop step : Expr} {inclusive : Bool} {parts : RangeParts}
      {begun : State} {diagnostic : Diagnostic}
      (begins : (startParts start step).run before = .ok parts begun)
      (problem : BoundsProblem ctx (boundHint (rangeHint target)) begun parts
        [("start", start), ("end", stop), ("step", step)] diagnostic) :
      Problem ctx target before (.range node start stop step inclusive) diagnostic
  | range {node : Node} {start stop step : Expr} {inclusive : Bool} {parts : RangeParts}
      {bounds : Bounds} {tag : Tag} {after : State} {diagnostic : Diagnostic}
      (reads : ReadsBounds ctx (boundHint (rangeHint target)) before start stop step parts bounds
        after)
      (valid : parts.isInvalid = false) (joined : parts.tag = some tag)
      (problem : RangeProblem ctx node step.node.position
        ⟨!start.isMissing, !stop.isMissing, !step.isMissing, inclusive⟩ (rangeHint target) tag
        bounds diagnostic) :
      Problem ctx target before (.range node start stop step inclusive) diagnostic
  | index {node : Node} {left index : Expr} {array operand : Operand} {middle after : State}
      {diagnostic : Diagnostic}
      (leftRun : (left.resolve ctx none).run before = .ok array middle)
      (indexRun : (index.resolve ctx (some (indexTarget index.isRange))).run middle =
        .ok operand after)
      (problem : IndexProblem ctx node ⟨left.node, array⟩ ⟨index.node, operand⟩ diagnostic) :
      Problem ctx target before (.index node left index) diagnostic
  | member {node : Node} {left : Expr} {name : Ident} {operand : Operand} {middle : State}
      {diagnostic : Diagnostic} (run : (left.resolve ctx none).run before = .ok operand middle)
      (problem : PropertyProblem operand name diagnostic) :
      Problem ctx target before (.member node left (some name)) diagnostic
  | arity {node : Node} {callee : Ident} {arguments : Exprs} {signature : Signature}
      (declared : before.table.function? callee.name = some signature)
      (differs : arguments.length ≠ signature.parameters.length) :
      Problem ctx target before (.call node (some callee) arguments)
        ((Finding.arity signature arguments.length).placed node.position)
  | undeclaredFunction {node : Node} {callee : Ident} {arguments : Exprs}
      (absent : before.table.function? callee.name = none) :
      Problem ctx target before (.call node (some callee) arguments)
        ((Finding.undeclaredFunction callee.name
          (before.table.lookup? callee.name).isSome).placed callee.position)
  | block {node : Node} {statements : Stmts} {branches : List Resolved} {inner : State}
      {diagnostic : Diagnostic} (valued : branches ≠ [])
      (run : (statements.analyze (ctx.inBlock target)).run
        { before with table := before.table.enter .block } = .ok branches inner)
      (problem : BranchProblem ctx branches target diagnostic) :
      Problem ctx target before (.block node statements) diagnostic
  | condition {node : Node} {condition alternative : Expr} {consequence : Body}
      {operand : Operand} {middle : State}
      (run : (condition.resolve ctx (some .bool)).run before = .ok operand middle)
      (known : operand.isUnknown = false) (other : operand.type ≠ .bool) :
      Problem ctx target before (.conditional node condition consequence alternative)
        ((Finding.conditionNotBool operand.type).placed condition.node.position)
  | conditional {node : Node} {condition alternative : Expr} {consequence : Body}
      {operand first second : Operand} {tested begun middle after : State}
      {diagnostic : Diagnostic}
      (conditionRun : (condition.resolve ctx (some .bool)).run before = .ok operand tested)
      (checked : (requireCondition ⟨condition.node, operand⟩).run tested = .ok () begun)
      (consequenceRun : (consequence.resolve ctx target).run begun = .ok first middle)
      (alternativeRun : (alternative.resolve ctx target).run middle = .ok second after)
      (problem : BranchProblem ctx [⟨consequence.node, first⟩, ⟨alternative.node, second⟩] target
        diagnostic) :
      Problem ctx target before (.conditional node condition consequence alternative) diagnostic

/-- What is wrong with the first of some arguments. -/
inductive Exprs.ArgumentProblem (ctx : Context) (signature : Signature) (number : Nat)
    (before : State) : List Parameter → Exprs → Diagnostic → Prop
  | slot {parameter : Parameter} {parameters : List Parameter} {head : Expr} {tail : Exprs}
      {type : Ty} {operand : Operand} {middle : State} {diagnostic : Diagnostic}
      (asked : parameter.type = some type)
      (run : (head.resolve ctx parameter.type).run before = .ok operand middle)
      (problem : SlotProblem ctx ⟨head.node, operand⟩ type
        (argumentLabel number parameter signature) diagnostic) :
      ArgumentProblem ctx signature number before (parameter :: parameters) (.cons head tail)
        diagnostic

theorem Expr.present_of_run {expr : Expr} {operand : Operand} {after : State}
    (run : (expr.resolve ctx target).run before = .ok operand after) :
    expr.isMissing = false := by
  cases expr <;> first | rfl | simp [resolve, malformed] at run

theorem Body.present_of_run {body : Body} {operand : Operand} {after : State}
    (run : (body.resolve ctx target).run before = .ok operand after) :
    body.isMissing = false := by
  cases body <;> first | rfl | simp [resolve, malformed] at run

namespace Analysis

theorem leaves_startParts {start step : Expr} (startless : start.isMissing = true)
    (stepped : step.isMissing = false) :
    (startParts start step).Leaves before
      (Finding.stepWithoutStart.placed step.node.position) := by
  simp [startParts, startless, stepped]

theorem leaves_withBound {hint : Option Ty} {parts : RangeParts} {part : String} {bound : Expr}
    {operand : Operand} {middle : State} (present : bound.isMissing = false)
    (run : (bound.resolve ctx hint).run before = .ok operand middle)
    (problem : BoundProblem part parts ⟨bound.node, operand⟩ diagnostic) :
    (withBound part parts bound (bound.resolve ctx hint)).Leaves before diagnostic := by
  simp only [withBound, present, Bool.false_eq_true, if_false]
  exact .after run (leaves_addBound problem)

theorem leaves_requireCondition {node : Node} {operand : Operand}
    (known : operand.isUnknown = false) (other : operand.type ≠ .bool) :
    (requireCondition ⟨node, operand⟩).Leaves before
      ((Finding.conditionNotBool operand.type).placed node.position) := by
  simp [requireCondition, Resolved.isUnknown, Resolved.type, Resolved.position, known, other]

/-- A bound that is left out is not read. -/
theorem absent_of_withBound {hint : Option Ty} {parts : RangeParts} {part : String}
    {bound : Expr} {read : RangeParts × Bound} {after : State} (missing : bound.isMissing = true)
    (run : (withBound part parts bound (bound.resolve ctx hint)).run before = .ok read after) :
    read.2 = .absent := by
  simp only [withBound, missing, if_true] at run
  cases run
  rfl

end Analysis

theorem Expr.leaves_range {node : Node} {start stop step : Expr} {inclusive : Bool}
    {parts : RangeParts} {begun : State}
    (begins : (startParts start step).run before = .ok parts begun)
    (problem : BoundsProblem ctx (boundHint (rangeHint target)) begun parts
      [("start", start), ("end", stop), ("step", step)] diagnostic) :
    ((Expr.range node start stop step inclusive).resolve ctx target).Leaves before
      diagnostic := by
  simp only [resolve]
  refine .recorded (.after begins ?_)
  cases problem with
  | here present run problem => exact (leaves_withBound present run problem).bind
  | later starts problem =>
      refine .after starts ?_
      cases problem with
      | here present run problem => exact (leaves_withBound present run problem).bind
      | later stops problem =>
          refine .after stops ?_
          cases problem with
          | here present run problem => exact (leaves_withBound present run problem).bind
          | later steps problem => cases problem

theorem Expr.Problem.leaves {expr : Expr} (problem : expr.Problem ctx target before diagnostic) :
    (expr.resolve ctx target).Leaves before diagnostic := by
  cases problem with
  | misplacedUndef => exact leaves_refuse.recorded
  | undeclared absent => exact .recorded (by simp [identifier, absent])
  | uninitialized bound unset => exact .recorded (by simp [identifier, bound, unset])
  | prefixOp run problem =>
      simp only [resolve]
      exact .recorded (.after run (leaves_prefixed problem))
  | infixOp read leftRun rightRun problem =>
      simp only [resolve, read]
      exact .recorded (.after leftRun (.after rightRun (leaves_infixed problem)))
  | targetType problem =>
      simp only [resolve, problem.present]
      exact problem.leaves_resolve.bind.recorded
  | conversion typeRun valueRun problem =>
      simp only [resolve, TypeExpr.present_of_run typeRun]
      exact .recorded (.after typeRun (.after valueRun (leaves_converted problem)))
  | array run problem =>
      simp only [resolve]
      exact .recorded (.after run (leaves_arrayLiteral problem))
  | stepWithoutStart startless stepped =>
      simp only [resolve]
      exact (leaves_startParts startless stepped).bind.recorded
  | bound begins problem => exact leaves_range begins problem
  | @range _ start stop step _ _ _ _ _ _ reads valid joined problem =>
      cases reads with
      | read begins starts stops steps =>
          simp only [resolve]
          refine .recorded (.after begins (.after starts (.after stops (.after steps ?_))))
          exact leaves_rangeLiteral valid joined
            (fun stepless => absent_of_withBound (by simpa using stepless) steps) problem
  | index leftRun indexRun problem =>
      simp only [resolve]
      exact .recorded (.after leftRun (.after indexRun (leaves_indexing problem)))
  | member run problem =>
      simp only [resolve]
      exact .recorded (.after run (leaves_property problem))
  | arity declared differs =>
      simp only [resolve]
      refine .recorded (leaves_table_bind.mpr ?_)
      simp only [declared, requireArity, if_pos differs]
      exact leaves_report_bind
  | undeclaredFunction absent =>
      simp only [resolve]
      refine .recorded (leaves_table_bind.mpr ?_)
      simp [absent]
  | @block _ _ branches _ _ valued run problem =>
      simp only [resolve, blockValue]
      refine .recorded (.withScope (.after run ?_))
      cases branches with
      | nil => exact absurd rfl valued
      | cons => exact leaves_unifyBranches problem
  | condition run known other =>
      simp only [resolve]
      exact .recorded (.after run (leaves_requireCondition known other).bind)
  | conditional conditionRun checked consequenceRun alternativeRun problem =>
      simp only [resolve, Body.present_of_run consequenceRun, Expr.present_of_run alternativeRun]
      refine .recorded (.after conditionRun (.after checked (.after consequenceRun ?_)))
      exact .after alternativeRun (leaves_unifyBranches problem)

theorem Exprs.ArgumentProblem.leaves {signature : Signature} {number : Nat}
    {parameters : List Parameter} {arguments : Exprs}
    (problem : arguments.ArgumentProblem ctx signature number before parameters diagnostic) :
    (arguments.resolveArguments ctx signature number parameters).Leaves before diagnostic := by
  cases problem with
  | slot asked run problem =>
      simp only [resolveArguments]
      refine .after run ?_
      simp only [asked, materialize?]
      exact (leaves_materialize problem).discard.bind

/-! ## Statements -/

/-- What is wrong with a statement, apart from the expressions and statements inside of it. -/
inductive Stmt.Problem (ctx : Context) (before : State) : Stmt → Diagnostic → Prop
  | declaredType {node : Node} {isMutable : Bool} {name : Ident} {type : TypeExpr} {value : Expr}
      {diagnostic : Diagnostic} (present : value.isMissing = false)
      (problem : DeclaredProblem before name.name type diagnostic) :
      Problem ctx before (.declaration node isMutable (some name) type value) diagnostic
  | undef {node : Node} {isMutable : Bool} {name : Ident} {type : TypeExpr} {value : Expr}
      {declared : Option Ty} {middle : State} {diagnostic : Diagnostic}
      (absent : value.isUndef = true)
      (typeRun : (declaredType name.name type).run before = .ok declared middle)
      (problem : UndefProblem middle.table isMutable name declared value.node diagnostic) :
      Problem ctx before (.declaration node isMutable (some name) type value) diagnostic
  | binding {node : Node} {isMutable : Bool} {name : Ident} {type : TypeExpr} {value : Expr}
      {declared : Option Ty} {operand : Operand} {middle after : State} {diagnostic : Diagnostic}
      (given : value.isUndef = false)
      (typeRun : (declaredType name.name type).run before = .ok declared middle)
      (valueRun : (value.resolve ctx declared).run middle = .ok operand after)
      (problem : BindingProblem ctx after.table isMutable name declared ⟨value.node, operand⟩
        diagnostic) :
      Problem ctx before (.declaration node isMutable (some name) type value) diagnostic
  | undeclared {node : Node} {name : Ident} {value : Expr} (present : value.isMissing = false)
      (absent : before.table.lookup? name.name = none) :
      Problem ctx before (.assignment node (some name) value)
        ((Finding.undeclared name.name false).placed name.position)
  | mutability {node : Node} {name : Ident} {value : Expr} {symbol : Symbol}
      {diagnostic : Diagnostic} (present : value.isMissing = false)
      (bound : before.table.lookup? name.name = some symbol)
      (problem : MutabilityProblem before.table name symbol diagnostic) :
      Problem ctx before (.assignment node (some name) value) diagnostic
  | assignment {node : Node} {name : Ident} {value : Expr} {symbol : Symbol} {type : Ty}
      {operand : Operand} {middle after : State} {diagnostic : Diagnostic}
      (bound : before.table.lookup? name.name = some symbol) (asked : symbol.type = some type)
      (checked : (requireMutable name symbol).run before = .ok () middle)
      (run : (value.resolve ctx symbol.type).run middle = .ok operand after)
      (problem : SlotProblem ctx ⟨value.node, operand⟩ type ("assignment to " ++ name.name)
        diagnostic) :
      Problem ctx before (.assignment node (some name) value) diagnostic
  | returnOutside {node : Node} {value : Expr} (outside : ctx.function = none) :
      Problem ctx before (.returning node value)
        (Finding.returnOutsideFunction.placed node.position)
  | resultMissing {node : Node} {value : Expr} {signature : Signature}
      (inside : ctx.function = some signature) (valued : signature.resultType.isVoid = false)
      (missing : value.isMissing = true) :
      Problem ctx before (.returning node value)
        ((Finding.mustReturn signature.name signature.resultType "").placed node.position)
  | resultFromVoid {node : Node} {value : Expr} {signature : Signature} {operand : Operand}
      {after : State} (inside : ctx.function = some signature)
      (void : signature.resultType.isVoid = true)
      (run : (value.resolve ctx none).run { before with returned := true } = .ok operand after)
      (known : operand.isUnknown = false) (valued : operand.type.isVoid = false) :
      Problem ctx before (.returning node value)
        ((Finding.valueFromVoid signature.name operand.type).placed value.node.position)
  | result {node : Node} {value : Expr} {signature : Signature} {operand : Operand}
      {after : State} {diagnostic : Diagnostic} (inside : ctx.function = some signature)
      (valued : signature.resultType.isVoid = false)
      (run : (value.resolve ctx (some signature.resultType)).run { before with returned := true } =
        .ok operand after)
      (problem : SlotProblem ctx ⟨value.node, operand⟩ signature.resultType
        ("return value of " ++ signature.name) diagnostic) :
      Problem ctx before (.returning node value) diagnostic
  | yieldOutside {node : Node} {value : Expr} (present : value.isMissing = false)
      (outside : ctx.block = none) :
      Problem ctx before (.yielding node value)
        (Finding.yieldOutsideBlock.placed node.position)
  | nested {node : Node} {name : Option Ident} {parameters : List (Option ParameterExpr)}
      {result : TypeExpr} {body : Body}
      (inside : (ctx.function.isSome || ctx.block.isSome) = true) :
      Problem ctx before (.function node name parameters result body)
        (Finding.nestedFunction.placed node.position)
  | signature {node : Node} {name : Ident} {parameters : List (Option ParameterExpr)}
      {result : TypeExpr} {body : Body} {diagnostic : Diagnostic}
      (outermost : (ctx.function.isSome || ctx.block.isSome) = false)
      (unread : before.signature? node.id = none) (present : body.isMissing = false)
      (problem : SignatureProblem before node name parameters result diagnostic) :
      Problem ctx before (.function node (some name) parameters result body) diagnostic
  | parameter {node : Node} {name : Option Ident} {parameters : List (Option ParameterExpr)}
      {result : TypeExpr} {body : Body} {signature : Signature} {earlier later : List Parameter}
      {parameter : Parameter} {read middle : State} {refusal : SymbolTable.Refusal}
      (outermost : (ctx.function.isSome || ctx.block.isSome) = false)
      (signatureRun : (signatureOf node name parameters result body).run before =
        .ok signature read)
      (parts : signature.parameters = earlier ++ parameter :: later)
      (declares : (declareParameters node signature 1 earlier).run
        { read with table := read.table.enter .function } = .ok () middle)
      (refused : middle.table.declareParameter parameter = .error refusal) :
      Problem ctx before (.function node name parameters result body)
        ((Finding.parameterRefused (earlier.length + 1) parameter.name signature.name
          refusal.message).placed node.position)
  | neverReturns {node : Node} {name : Option Ident} {parameters : List (Option ParameterExpr)}
      {result : TypeExpr} {body : Body} {signature : Signature} {type : Ty}
      {read bound after : State}
      (outermost : (ctx.function.isSome || ctx.block.isSome) = false)
      (signatureRun : (signatureOf node name parameters result body).run before =
        .ok signature read)
      (declares : (declareParameters node signature 1 signature.parameters).run
        { read with table := read.table.enter .function } = .ok () bound)
      (bodyRun : (body.analyze (ctx.inFunction signature)).run { bound with returned := false } =
        .ok () after)
      (asked : signature.result = some type) (known : type.isUnknown = false)
      (valued : type.isVoid = false) (never : after.returned = false) :
      Problem ctx before (.function node name parameters result body)
        ((Finding.mustReturn signature.name type "add `return value` to the body").placed
          ((name.map Ident.position).getD .nowhere))

namespace Analysis

theorem declareParameters_append {node : Node} {signature : Signature} {number : Nat}
    {earlier later : List Parameter} :
    declareParameters node signature number (earlier ++ later) =
      declareParameters node signature number earlier >>= fun _ =>
        declareParameters node signature (number + earlier.length) later := by
  induction earlier generalizing number with
  | nil => simp [declareParameters]
  | cons parameter earlier induction =>
      simp only [List.cons_append, declareParameters, induction, List.length_cons, Nat.add_assoc,
        Nat.add_comm 1, bind_assoc]
      refine bind_congr fun table => ?_
      cases table.declareParameter parameter <;> simp

theorem leaves_signatureOf {node : Node} {name : Ident} {parameters : List (Option ParameterExpr)}
    {result : TypeExpr} {body : Body} (unread : before.signature? node.id = none)
    (present : body.isMissing = false)
    (problem : SignatureProblem before node name parameters result diagnostic) :
    (signatureOf node (some name) parameters result body).Leaves before diagnostic := by
  simp only [signatureOf, leaves_read_bind, unread]
  exact (leaves_readSignature present problem).bind

theorem leaves_declareParameters {node : Node} {signature : Signature} {number : Nat}
    {earlier later : List Parameter} {parameter : Parameter} {middle : State}
    {refusal : SymbolTable.Refusal}
    (declares : (declareParameters node signature number earlier).run before = .ok () middle)
    (refused : middle.table.declareParameter parameter = .error refusal) :
    (declareParameters node signature number (earlier ++ parameter :: later)).Leaves before
      ((Finding.parameterRefused (number + earlier.length) parameter.name signature.name
        refusal.message).placed node.position) := by
  rw [declareParameters_append]
  refine .after declares ?_
  simp [declareParameters, refused]

theorem leaves_requireReturn {name : Option Ident} {signature : Signature} {type : Ty}
    (asked : signature.result = some type) (known : type.isUnknown = false)
    (valued : type.isVoid = false) (never : before.returned = false) :
    (requireReturn name signature).Leaves before
      ((Finding.mustReturn signature.name type "add `return value` to the body").placed
        ((name.map Ident.position).getD .nowhere)) := by
  simp [requireReturn, asked, known, valued, never]

theorem leaves_requireNoValue {node : Node} {signature : Signature} {operand : Operand}
    (known : operand.isUnknown = false) (valued : operand.type.isVoid = false) :
    (requireNoValue signature ⟨node, operand⟩).Leaves before
      ((Finding.valueFromVoid signature.name operand.type).placed node.position) := by
  simp [requireNoValue, Resolved.isUnknown, Resolved.type, Resolved.position, known, valued]

end Analysis

theorem Expr.isUndef_present {expr : Expr} (undef : expr.isUndef = true) :
    expr.isMissing = false := by
  cases expr <;> first | rfl | simp [isUndef] at undef

theorem Stmt.Problem.leaves {statement : Stmt}
    (problem : statement.Problem ctx before diagnostic) :
    (statement.analyze ctx).Leaves before diagnostic := by
  cases problem with
  | declaredType present problem =>
      simp only [analyze, present]
      exact (leaves_declaredType problem).bind
  | undef absent typeRun problem =>
      simp only [analyze, Expr.isUndef_present absent, absent, if_true]
      exact .after typeRun (leaves_bindUndef problem).bind
  | binding given typeRun valueRun problem =>
      simp only [analyze, Expr.present_of_run valueRun, given, Bool.false_eq_true, if_false]
      exact .after typeRun (.after valueRun (leaves_bindValue problem).bind)
  | undeclared present absent =>
      simp only [analyze, present, Bool.false_eq_true, if_false, leaves_table_bind, absent]
      exact leaves_report_bind
  | mutability present bound problem =>
      simp only [analyze, present, Bool.false_eq_true, if_false, leaves_table_bind, bound]
      exact (leaves_requireMutable problem).bind
  | assignment bound asked checked run problem =>
      simp only [analyze, Expr.present_of_run run, Bool.false_eq_true, if_false,
        leaves_table_bind, bound]
      exact .after checked (.after run (leaves_assign asked problem).bind)
  | returnOutside outside =>
      simp only [analyze, outside]
      exact leaves_report_bind
  | resultMissing inside valued missing =>
      simp only [analyze, inside, valued, missing, if_true]
      exact .after rfl leaves_report_bind
  | resultFromVoid inside void run known valued =>
      simp only [analyze, inside, void, Expr.present_of_run run, if_true]
      exact .after rfl (.after run (leaves_requireNoValue known valued).bind)
  | result inside valued run problem =>
      simp only [analyze, inside, valued, Expr.present_of_run run, Bool.false_eq_true, if_false]
      exact .after rfl (.after run (leaves_materialize problem).discard.bind)
  | yieldOutside present outside =>
      simp only [analyze, present, outside]
      exact leaves_report_bind
  | nested inside =>
      simp only [analyze, inside, if_true]
      exact leaves_report_bind
  | signature outermost unread present problem =>
      simp only [analyze, outermost]
      exact (leaves_signatureOf unread present problem).bind
  | parameter outermost signatureRun parts declares refused =>
      simp only [analyze, outermost]
      refine .after signatureRun (.bind (.withScope (.bind ?_)))
      rw [parts, Nat.add_comm]
      exact leaves_declareParameters declares refused
  | neverReturns outermost signatureRun declares bodyRun asked known valued never =>
      simp only [analyze, outermost]
      refine .after signatureRun (.bind (.withScope (.after declares ?_)))
      exact .after rfl (.after bodyRun (leaves_requireReturn asked known valued never))

/-! ## Programs -/

/-- What is wrong with the head of a function, where the heads are read first. -/
inductive Stmts.HeaderProblem : State → Stmts → Diagnostic → Prop
  | signature {before : State} {node : Node} {name : Ident}
      {parameters : List (Option ParameterExpr)} {result : TypeExpr} {body : Body}
      {rest : Stmts} {diagnostic : Diagnostic} (unread : before.signature? node.id = none)
      (present : body.isMissing = false)
      (problem : SignatureProblem before node name parameters result diagnostic) :
      HeaderProblem before (.cons (.function node (some name) parameters result body) rest)
        diagnostic
  | redeclared {before middle : State} {node : Node} {name : Option Ident}
      {parameters : List (Option ParameterExpr)} {result : TypeExpr} {body : Body}
      {rest : Stmts} {signature : Signature}
      (run : (signatureOf node name parameters result body).run before = .ok signature middle)
      (declared : (middle.table.function? signature.name).isSome = true) :
      HeaderProblem before (.cons (.function node name parameters result body) rest)
        ((Finding.functionRedeclared signature.name).placed
          ((name.map Ident.position).getD .nowhere))
  | later {before middle : State} {head : Stmt} {rest : Stmts} {diagnostic : Diagnostic}
      (run : (Stmts.cons head .nil).declareFunctions.run before = .ok () middle)
      (problem : HeaderProblem middle rest diagnostic) :
      HeaderProblem before (.cons head rest) diagnostic

theorem Stmts.declareFunctions_cons (head : Stmt) (rest : Stmts) :
    (Stmts.cons head rest).declareFunctions =
      (Stmts.cons head .nil).declareFunctions >>= fun _ => rest.declareFunctions := by
  cases head <;> simp [declareFunctions]

theorem Stmts.HeaderProblem.leaves {statements : Stmts}
    (problem : statements.HeaderProblem before diagnostic) :
    statements.declareFunctions.Leaves before diagnostic := by
  induction problem with
  | signature unread present problem =>
      exact (leaves_signatureOf unread present problem).bind.bind
  | redeclared run declared =>
      rcases Option.isSome_iff_exists.mp declared with ⟨earlier, found⟩
      refine .bind (.after run ?_)
      simp [SymbolTable.declareFunction_eq, found]
  | later run problem induction =>
      rw [declareFunctions_cons]
      exact .after run induction

/-- What is wrong with what is done at a moment, apart from the moments that it comes to. -/
def Moment.Problem : Moment → Diagnostic → Prop
  | ⟨.expr ctx target expr, before⟩ => expr.Problem ctx target before
  | ⟨.arguments ctx signature number parameters arguments, before⟩ =>
      arguments.ArgumentProblem ctx signature number before parameters
  | ⟨.statement ctx statement, before⟩ => statement.Problem ctx before
  | ⟨.elements _ _ _, _⟩ | ⟨.statements _ _, _⟩ => fun _ => False

theorem Moment.Problem.leaves {moment : Moment} (problem : moment.Problem diagnostic) :
    diagnostic ∈ moment.outcome.state.reports := by
  rcases moment with ⟨task, before⟩
  cases task with
  | expr => exact Leaves.discard (Expr.Problem.leaves problem)
  | elements => cases problem
  | arguments => exact Exprs.ArgumentProblem.leaves problem
  | statement => exact Leaves.discard (Stmt.Problem.leaves problem)
  | statements => cases problem

/-- What is wrong with a program where an analysis comes to it. -/
inductive Program.Problem (ctx : Context) (mode : AnalysisMode) (program : Program)
    (begun : State) : Diagnostic → Prop
  | header {diagnostic : Diagnostic} (reads : mode.readsHeaders = true)
      (problem : program.statements.HeaderProblem begun diagnostic) :
      Problem ctx mode program begun diagnostic
  | moment {first moment : Moment} {diagnostic : Diagnostic}
      (called : first ∈ program.callsFrom ctx mode begun) (reaches : first.Reaches moment)
      (problem : moment.Problem diagnostic) :
      Problem ctx mode program begun diagnostic

theorem Program.gathers_callsFrom (ctx : Context) (mode : AnalysisMode) (program : Program)
    (begun : State) :
    (program.analyze ctx mode).Gathers begun (program.callsFrom ctx mode begun) := by
  cases mode with
  | full => exact .leading fun _ _ => (Gathers.statements ctx program.statements).discard
  | headers => exact .leading fun _ _ => .nil
  | bodies => exact (Gathers.statements ctx program.statements).discard

theorem Program.Problem.leaves {mode : AnalysisMode} {program : Program} {begun : State}
    (problem : program.Problem ctx mode begun diagnostic) :
    (program.analyze ctx mode).Leaves begun diagnostic := by
  cases problem with
  | header reads problem =>
      simp only [analyze, reads, if_true]
      exact problem.leaves.bind
  | moment called reaches problem =>
      have grows := (program.gathers_callsFrom ctx mode begun).grows _ called
      exact (reaches.grows_outcome.trans grows).reports.subset problem.leaves

end ComptimeTyping
