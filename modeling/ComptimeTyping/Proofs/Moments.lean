import Mathlib.Logic.Relation
import ComptimeTyping.Proofs.Preservation

/-! The moments of an analysis: every expression, list and statement that it comes to,
with the state in which it comes there. What an analysis keeps, it keeps at every moment,
also where it stops later on and in scopes that it leaves again. -/

namespace ComptimeTyping

open Analysis

/-! ## Moments -/

/-- A piece of a program, and what the analysis is asked to do with it. -/
inductive Task where
  | expr (ctx : Context) (target : Option Ty) (expr : Expr)
  /-- Expressions that are all asked for the same. -/
  | elements (ctx : Context) (target : Option Ty) (exprs : Exprs)
  | arguments (ctx : Context) (signature : Signature) (number : Nat)
      (parameters : List Parameter) (exprs : Exprs)
  | statement (ctx : Context) (statement : Stmt)
  | statements (ctx : Context) (statements : Stmts)

def Task.run : Task → Analysis Unit
  | .expr ctx target value => discard (value.resolve ctx target)
  | .elements ctx target values => discard (values.resolveAll ctx target)
  | .arguments ctx signature number parameters values =>
      values.resolveArguments ctx signature number parameters
  | .statement ctx single => discard (single.analyze ctx)
  | .statements ctx sequence => discard (sequence.analyze ctx)

/-- A task and the state in which it is begun. -/
structure Moment where
  task : Task
  state : State

/-- How the task of a moment ends. -/
def Moment.outcome (moment : Moment) : Outcome Unit :=
  moment.task.run.run moment.state

/-- The moments after a first part, if that part ends. -/
def Analysis.leading {α : Type} (first : Analysis α) (state : State)
    (next : α → State → List Moment) : List Moment :=
  match first.run state with
  | .ok value middle => next value middle
  | .error _ _ => []

def Body.toExpr : Body → Expr
  | .missing => .missing
  | .block node statements => .block node statements

theorem Body.resolve_toExpr (ctx : Context) (target : Option Ty) (body : Body) :
    body.toExpr.resolve ctx target = body.resolve ctx target := by
  cases body with
  | missing => rfl
  | block node statements =>
      unfold Body.toExpr Expr.resolve Body.resolve
      rfl

/-- The moment of a bound, unless the bound is left out. -/
def Expr.boundCalls (ctx : Context) (target : Option Ty) (state : State) (bound : Expr) :
    List Moment :=
  if bound.isMissing then [] else [⟨.expr ctx target bound, state⟩]

/-- What the resolution of an expression comes to next, in order. -/
def Expr.calls (ctx : Context) (target : Option Ty) (state : State) : Expr → List Moment
  | .prefixOp _ _ right => [⟨.expr ctx target right, state⟩]
  | .infixOp _ left operator right =>
      match InfixOp.ofSymbol? operator with
      | none => []
      | some op =>
          ⟨.expr ctx (operandHint op target) left, state⟩ ::
            (left.resolve ctx (operandHint op target)).leading state fun _ middle =>
              [⟨.expr ctx (operandHint op target) right, middle⟩]
  | .conversion _ value type =>
      if type.isMissing then []
      else type.resolve.leading state fun _ middle => [⟨.expr ctx none value, middle⟩]
  | .array _ items => [⟨.elements ctx (elementTarget target) items, state⟩]
  | .range _ start stop step _ =>
      let hint := boundHint (rangeHint target)
      (startParts start step).leading state fun parts begun =>
        start.boundCalls ctx hint begun ++
          (withBound "start" parts start (start.resolve ctx hint)).leading begun
            fun started middle =>
              stop.boundCalls ctx hint middle ++
                (withBound "end" started.1 stop (stop.resolve ctx hint)).leading middle
                  fun _ late => step.boundCalls ctx hint late
  | .index _ left place =>
      ⟨.expr ctx none left, state⟩ ::
        (left.resolve ctx none).leading state fun _ middle =>
          [⟨.expr ctx (some (indexTarget place.isRange)) place, middle⟩]
  | .member _ left (some _) => [⟨.expr ctx none left, state⟩]
  | .call node (some callee) arguments =>
      match state.table.function? callee.name with
      | some signature =>
          (requireArity node signature arguments.length).leading state fun _ middle =>
            [⟨.arguments ctx signature 1 signature.parameters arguments, middle⟩]
      | none =>
          (report callee.position (.undeclaredFunction callee.name
            (state.table.lookup? callee.name).isSome)).leading state fun _ middle =>
              [⟨.elements ctx none arguments, middle⟩]
  | .block _ statements =>
      [⟨.statements (ctx.inBlock target) statements,
        { state with table := state.table.enter .block }⟩]
  | .conditional _ condition consequence alternative =>
      ⟨.expr ctx (some .bool) condition, state⟩ ::
        (condition.resolve ctx (some .bool)).leading state fun operand tested =>
          (requireCondition ⟨condition.node, operand⟩).leading tested fun _ begun =>
            if consequence.isMissing then []
            else
              ⟨.expr ctx target consequence.toExpr, begun⟩ ::
                (consequence.resolve ctx target).leading begun fun _ middle =>
                  if alternative.isMissing then []
                  else [⟨.expr ctx target alternative, middle⟩]
  | _ => []

def Exprs.calls (ctx : Context) (target : Option Ty) (state : State) : Exprs → List Moment
  | .nil => []
  | .cons head tail =>
      ⟨.expr ctx target head, state⟩ ::
        (head.resolve ctx target).leading state fun _ middle =>
          [⟨.elements ctx target tail, middle⟩]

def Exprs.argumentCalls (ctx : Context) (signature : Signature) (number : Nat)
    (parameters : List Parameter) (state : State) : Exprs → List Moment
  | .nil => []
  | .cons head tail =>
      match parameters with
      | [] =>
          ⟨.expr ctx none head, state⟩ ::
            (head.resolve ctx none).leading state fun _ middle =>
              [⟨.arguments ctx signature (number + 1) [] tail, middle⟩]
      | parameter :: parameters =>
          ⟨.expr ctx parameter.type head, state⟩ ::
            (head.resolve ctx parameter.type).leading state fun operand middle =>
              (materialize? ctx ⟨head.node, operand⟩ parameter.type
                (argumentLabel number parameter signature)).leading middle fun _ filled =>
                  [⟨.arguments ctx signature (number + 1) parameters tail, filled⟩]

def Body.calls (ctx : Context) (state : State) : Body → List Moment
  | .missing => []
  | .block _ statements => [⟨.statements ctx statements, state⟩]

def Stmt.calls (ctx : Context) (state : State) : Stmt → List Moment
  | .declaration _ _ (some name) type value =>
      if value.isMissing then []
      else
        (declaredType name.name type).leading state fun declared middle =>
          if value.isUndef then [] else [⟨.expr ctx declared value, middle⟩]
  | .assignment _ (some name) value =>
      if value.isMissing then []
      else
        match state.table.lookup? name.name with
        | none =>
            (report name.position (.undeclared name.name false)).leading state
              fun _ middle => [⟨.expr ctx none value, middle⟩]
        | some symbol =>
            (requireMutable name symbol).leading state fun _ middle =>
              [⟨.expr ctx symbol.type value, middle⟩]
  | .returning node value =>
      if value.isMissing then []
      else
        match ctx.function with
        | none =>
            (report node.position .returnOutsideFunction).leading state fun _ middle =>
              [⟨.expr ctx none value, middle⟩]
        | some signature =>
            markReturned.leading state fun _ middle =>
              [⟨.expr ctx ((some signature.resultType).filter (!·.isVoid)) value, middle⟩]
  | .yielding node value =>
      if value.isMissing then []
      else
        match ctx.block with
        | none =>
            (report node.position .yieldOutsideBlock).leading state fun _ middle =>
              [⟨.expr ctx none value, middle⟩]
        | some target => [⟨.expr ctx target value, state⟩]
  | .expression _ value => [⟨.expr ctx none value, state⟩]
  | .function node name parameters result body =>
      if ctx.function.isSome || ctx.block.isSome then []
      else
        (signatureOf node name parameters result body).leading state fun signature read =>
          (declareParameters node signature 1 signature.parameters).leading
            { read with table := read.table.enter .function } fun _ bound =>
              clearReturned.leading bound fun _ begun =>
                body.calls (ctx.inFunction signature) begun
  | _ => []

def Stmts.calls (ctx : Context) (state : State) : Stmts → List Moment
  | .nil => []
  | .cons head tail =>
      ⟨.statement ctx head, state⟩ ::
        (head.analyze ctx).leading state fun _ middle => [⟨.statements ctx tail, middle⟩]

namespace Moment

/-- The moments that a moment comes to directly, in order. -/
def calls : Moment → List Moment
  | ⟨.expr ctx target expr, state⟩ => expr.calls ctx target state
  | ⟨.elements ctx target exprs, state⟩ => exprs.calls ctx target state
  | ⟨.arguments ctx signature number parameters exprs, state⟩ =>
      exprs.argumentCalls ctx signature number parameters state
  | ⟨.statement ctx statement, state⟩ => statement.calls ctx state
  | ⟨.statements ctx statements, state⟩ => statements.calls ctx state

/-- What is done at one moment is part of what is done at another one. -/
def Reaches : Moment → Moment → Prop :=
  Relation.ReflTransGen fun caller callee => callee ∈ caller.calls

end Moment

/-- The moment at which the analysis of a program comes to its statements. -/
def Program.calls (ctx : Context) (mode : AnalysisMode) (program : Program) : List Moment :=
  (if mode.readsHeaders then program.statements.declareFunctions else pure ()).leading
    (.ofTable .empty) fun _ state =>
      if mode.readsBodies then [⟨.statements ctx program.statements, state⟩] else []

/-- The analysis of a program from an empty table comes to a moment. -/
def Program.Meets (ctx : Context) (mode : AnalysisMode) (program : Program)
    (moment : Moment) : Prop :=
  ∃ first ∈ program.calls ctx mode, first.Reaches moment

theorem Program.Meets.called {ctx : Context} {mode : AnalysisMode} {program : Program}
    {caller callee : Moment}
    (meets : program.Meets ctx mode caller) (called : callee ∈ caller.calls) :
    program.Meets ctx mode callee := by
  rcases meets with ⟨first, member, reaches⟩
  exact ⟨first, member, reaches.tail called⟩

/-! ## The order of moments -/

section Order

variable {α : Type} {before : State} {moments more : List Moment}

/-- Moments that come after a state. -/
structure State.Precedes (before : State) (moments : List Moment) : Prop where
  grows : ∀ moment ∈ moments, before.GrowsTo moment.state

namespace State.Precedes

theorem nil : before.Precedes [] :=
  ⟨List.forall_mem_nil _⟩

theorem cons {task : Task} (rest : before.Precedes moments) :
    before.Precedes (⟨task, before⟩ :: moments) :=
  ⟨List.forall_mem_cons.mpr ⟨.refl before, rest.grows⟩⟩

theorem one {task : Task} : before.Precedes [⟨task, before⟩] :=
  cons nil

theorem append (first : before.Precedes moments) (rest : before.Precedes more) :
    before.Precedes (moments ++ more) :=
  ⟨List.forall_mem_append.mpr ⟨first.grows, rest.grows⟩⟩

theorem later {middle : State} (grows : before.GrowsTo middle)
    (precedes : middle.Precedes moments) : before.Precedes moments :=
  ⟨fun moment member => grows.trans (precedes.grows moment member)⟩

/-- A scope is opened before anything happens in it. -/
theorem entered (kind : ScopeKind)
    (precedes : { before with table := before.table.enter kind }.Precedes moments) :
    before.Precedes moments := by
  refine ⟨fun moment member => ?_⟩
  have grows := precedes.grows moment member
  exact ⟨grows.reports, grows.types, grows.slots⟩

theorem required {condition : Prop} [Decidable condition]
    (precedes : before.Precedes moments) :
    before.Precedes (if condition then [] else moments) := by
  split
  · exact nil
  · exact precedes

theorem leading {first : Analysis α} {next : α → State → List Moment}
    (rest : ∀ value (middle : State), middle.Precedes (next value middle)) :
    before.Precedes (first.leading before next) := by
  unfold Analysis.leading
  split
  · next value middle run => exact later (first.grows_of_ok run) (rest value middle)
  · exact nil

end State.Precedes

open State

theorem Expr.precedes_calls (ctx : Context) (target : Option Ty) (expr : Expr) :
    before.Precedes (expr.calls ctx target before) := by
  have bound : ∀ (bound : Expr) hint (state : State),
      state.Precedes (bound.boundCalls ctx hint state) := fun _ _ _ => .required .one
  cases expr with
  | prefixOp | array => exact .one
  | infixOp =>
      unfold Expr.calls
      dsimp only
      split
      · exact .nil
      · exact .cons (.leading fun _ _ => .one)
  | conversion => exact .required (.leading fun _ _ => .one)
  | range =>
      apply Precedes.leading
      intro _ _
      refine .append (bound _ _ _) (.leading ?_)
      intro _ _
      exact .append (bound _ _ _) (.leading fun _ _ => bound _ _ _)
  | index => exact .cons (.leading fun _ _ => .one)
  | member _ _ name =>
      cases name with
      | none => exact .nil
      | some _ => exact .one
  | call _ callee _ =>
      cases callee with
      | none => exact .nil
      | some _ =>
          unfold Expr.calls
          dsimp only
          split
          · exact .leading fun _ _ => .one
          · exact .leading fun _ _ => .one
  | block => exact .entered .block .one
  | conditional =>
      refine .cons (.leading fun _ _ => .leading fun _ _ => .required ?_)
      exact .cons (.leading fun _ _ => .required .one)
  | _ => exact .nil

theorem Exprs.precedes_argumentCalls (ctx : Context) (signature : Signature) (number : Nat)
    (parameters : List Parameter) (exprs : Exprs) :
    before.Precedes (exprs.argumentCalls ctx signature number parameters before) := by
  cases exprs with
  | nil => exact .nil
  | cons head tail =>
      cases parameters with
      | nil => exact .cons (.leading fun _ _ => .one)
      | cons _ _ => exact .cons (.leading fun _ _ => .leading fun _ _ => .one)

theorem Stmt.precedes_calls (ctx : Context) (statement : Stmt) :
    before.Precedes (statement.calls ctx before) := by
  cases statement with
  | missing => exact .nil
  | declaration _ _ name =>
      cases name with
      | none => exact .nil
      | some _ => exact .required (.leading fun _ _ => .required .one)
  | assignment _ name =>
      cases name with
      | none => exact .nil
      | some _ =>
          apply Precedes.required
          split
          · exact .leading fun _ _ => .one
          · exact .leading fun _ _ => .one
  | returning =>
      apply Precedes.required
      split
      · exact .leading fun _ _ => .one
      · exact .leading fun _ _ => .one
  | yielding =>
      apply Precedes.required
      split
      · exact .leading fun _ _ => .one
      · exact .one
  | expression => exact .one
  | function _ _ _ _ body =>
      refine .required (.leading fun _ _ => .entered .function ?_)
      refine .leading fun _ _ => .leading fun _ _ => ?_
      cases body with
      | missing => exact .nil
      | block => exact .one

/-- An analysis never goes back. -/
theorem Moment.precedes_calls (moment : Moment) : moment.state.Precedes moment.calls := by
  rcases moment with ⟨task, state⟩
  cases task with
  | expr ctx target expr => exact expr.precedes_calls ctx target
  | elements ctx target exprs =>
      cases exprs with
      | nil => exact .nil
      | cons => exact .cons (.leading fun _ _ => .one)
  | arguments ctx signature number parameters exprs =>
      exact exprs.precedes_argumentCalls ctx signature number parameters
  | statement ctx statement => exact statement.precedes_calls ctx
  | statements ctx statements =>
      cases statements with
      | nil => exact .nil
      | cons => exact .cons (.leading fun _ _ => .one)

theorem Moment.Reaches.grows {first moment : Moment} (reaches : first.Reaches moment) :
    first.state.GrowsTo moment.state := by
  induction reaches with
  | refl => exact .refl _
  | @tail caller callee _ called induction =>
      exact induction.trans (caller.precedes_calls.grows callee called)

end Order

/-! ## Disciplines at a moment -/

namespace Discipline

variable {α : Type} {discipline : Discipline} {before : State} {moments more : List Moment}

/-- What a task is asked for is as it should be. -/
def Poses (discipline : Discipline) : Task → Prop
  | .expr ctx target _ => discipline.Admits ctx ∧ discipline.AskedIfAny target
  | .elements ctx target _ => discipline.Admits ctx ∧ discipline.AskedIfAny target
  | .arguments ctx signature _ parameters _ =>
      discipline.Admits ctx ∧ discipline.signature signature ∧
        ∀ parameter ∈ parameters, parameter ∈ signature.parameters
  | .statement ctx _ => discipline.Admits ctx
  | .statements ctx _ => discipline.Admits ctx

/-- At a moment everything is as it should be. -/
structure Ready (discipline : Discipline) (moment : Moment) : Prop where
  holds : discipline.Holds moment.state
  poses : discipline.Poses moment.task

/-- Moments that come after a state and that are ready as long as the reports are
tolerated. -/
structure Leads (discipline : Discipline) (before : State) (moments : List Moment) :
    Prop extends before.Precedes moments where
  ready : ∀ moment ∈ moments, discipline.tolerates moment.state →
    discipline.Ready moment

namespace Leads

theorem nil : discipline.Leads before [] :=
  ⟨.nil, List.forall_mem_nil _⟩

theorem cons {task : Task}
    (ready : discipline.tolerates before → discipline.Ready ⟨task, before⟩)
    (rest : discipline.Leads before moments) :
    discipline.Leads before (⟨task, before⟩ :: moments) :=
  ⟨.cons rest.toPrecedes, List.forall_mem_cons.mpr ⟨ready, rest.ready⟩⟩

theorem one {task : Task}
    (ready : discipline.tolerates before → discipline.Ready ⟨task, before⟩) :
    discipline.Leads before [⟨task, before⟩] :=
  cons ready nil

theorem append (first : discipline.Leads before moments)
    (rest : discipline.Leads before more) : discipline.Leads before (moments ++ more) :=
  ⟨first.toPrecedes.append rest.toPrecedes,
    List.forall_mem_append.mpr ⟨first.ready, rest.ready⟩⟩

theorem later {middle : State} (grows : before.GrowsTo middle)
    (leads : discipline.Leads middle moments) : discipline.Leads before moments :=
  ⟨.later grows leads.toPrecedes, leads.ready⟩

theorem entered (kind : ScopeKind)
    (leads : discipline.Leads { before with table := before.table.enter kind } moments) :
    discipline.Leads before moments :=
  ⟨.entered kind leads.toPrecedes, leads.ready⟩

theorem required {condition : Prop} [Decidable condition]
    (leads : discipline.Leads before moments) :
    discipline.Leads before (if condition then [] else moments) := by
  split
  · exact nil
  · exact leads

/-- What comes after a first part that keeps the discipline. -/
theorem leading {first : Analysis α} {good : α → State → Prop}
    {next : α → State → List Moment}
    (safe : discipline.tolerates before → discipline.Safe first before good)
    (rest : ∀ value middle, (discipline.tolerates middle →
        discipline.Holds middle ∧ good value middle) →
      discipline.Leads middle (next value middle)) :
    discipline.Leads before (first.leading before next) := by
  unfold Analysis.leading
  split
  · next value middle run =>
      have grows := first.grows_of_ok run
      apply later grows
      apply rest
      intro tolerated
      have begun := safe (discipline.earlier grows tolerated)
      have settled := begun.state
      rw [run] at settled
      exact ⟨settled tolerated, begun.result run tolerated⟩
  · exact nil

end Leads

section Calls

variable {ctx : Context} {target : Option Ty}

theorem leads_boundCalls (admits : discipline.Admits ctx)
    (asked : discipline.AskedIfAny target) (bound : Expr)
    (holds : discipline.tolerates before → discipline.Holds before) :
    discipline.Leads before (bound.boundCalls ctx target before) :=
  .required (.one fun tolerated => ⟨holds tolerated, admits, asked⟩)

theorem leads_expr (lawful : discipline.Lawful) (admits : discipline.Admits ctx)
    (asked : discipline.AskedIfAny target) (holds : discipline.Holds before) (expr : Expr) :
    discipline.Leads before (expr.calls ctx target before) := by
  cases expr with
  | prefixOp node operator right => exact .one fun _ => ⟨holds, admits, asked⟩
  | infixOp node left operator right =>
      unfold Expr.calls
      dsimp only
      split
      · exact .nil
      · next op _ =>
          have hinted := askedIfAny_operandHint lawful op asked
          refine .cons (fun _ => ⟨holds, admits, hinted⟩) ?_
          apply Leads.leading fun _ => left.resolve_safe lawful admits hinted holds
          intro _ middle kept
          exact .one fun tolerated => ⟨(kept tolerated).1, admits, hinted⟩
  | conversion node value type =>
      apply Leads.required
      apply Leads.leading fun _ => .checked holds type.reporting_resolve
      intro _ middle kept
      exact .one fun tolerated => ⟨(kept tolerated).1, admits, askedIfAny_none⟩
  | array node items => exact .one fun _ => ⟨holds, admits, lawful.askedElement asked⟩
  | range node start stop step inclusive =>
      have hinted := lawful.askedBound asked
      unfold Expr.calls
      apply Leads.leading fun _ => .of_reporting holds (reporting_startParts _ _)
        (lawful.rangeStart start step)
      intro parts begun keptBegun
      apply Leads.append
      · exact leads_boundCalls admits hinted start fun tolerated => (keptBegun tolerated).1
      apply Leads.leading fun tolerated =>
        safe_withBound lawful (keptBegun tolerated).1 _ start (keptBegun tolerated).2
          (start.resolve_safe lawful admits hinted (keptBegun tolerated).1)
      intro started middle keptMiddle
      apply Leads.append
      · exact leads_boundCalls admits hinted stop fun tolerated => (keptMiddle tolerated).1
      apply Leads.leading fun tolerated =>
        safe_withBound lawful (keptMiddle tolerated).1 _ stop (keptMiddle tolerated).2.1
          (stop.resolve_safe lawful admits hinted (keptMiddle tolerated).1)
      intro _ late keptLate
      exact leads_boundCalls admits hinted step fun tolerated => (keptLate tolerated).1
  | index node left index =>
      refine .cons (fun _ => ⟨holds, admits, askedIfAny_none⟩) ?_
      apply Leads.leading fun _ => left.resolve_safe lawful admits askedIfAny_none holds
      intro _ middle kept
      exact .one fun tolerated =>
        ⟨(kept tolerated).1, admits, askedIfAny_some (lawful.askedIndex _)⟩
  | member node left name =>
      cases name with
      | none => exact .nil
      | some name => exact .one fun _ => ⟨holds, admits, askedIfAny_none⟩
  | call node callee arguments =>
      cases callee with
      | none => exact .nil
      | some callee =>
          unfold Expr.calls
          dsimp only
          split
          · next signature found =>
              apply Leads.leading fun _ => .checked holds (reporting_requireArity _ _ _)
              intro _ middle kept
              exact .one fun tolerated =>
                ⟨(kept tolerated).1, admits, holds.of_function found, fun _ => id⟩
          · apply Leads.leading fun _ => .report holds _ _
            intro _ middle kept
            exact .one fun tolerated => ⟨(kept tolerated).1, admits, askedIfAny_none⟩
  | block node statements =>
      exact .entered .block (.one fun _ => ⟨holds.enter .block, admits.inBlock asked⟩)
  | conditional node condition consequence alternative =>
      have wanted := askedIfAny_some lawful.askedBool
      refine .cons (fun _ => ⟨holds, admits, wanted⟩) ?_
      apply Leads.leading fun _ => condition.resolve_safe lawful admits wanted holds
      intro _ tested keptTested
      apply Leads.leading fun tolerated =>
        .checked (keptTested tolerated).1 (reporting_requireCondition _)
      intro _ begun keptBegun
      apply Leads.required
      refine .cons (fun tolerated => ⟨(keptBegun tolerated).1, admits, asked⟩) ?_
      apply Leads.leading fun tolerated =>
        consequence.resolve_safe lawful admits asked (keptBegun tolerated).1
      intro _ middle keptMiddle
      apply Leads.required
      exact .one fun tolerated => ⟨(keptMiddle tolerated).1, admits, asked⟩
  | _ => exact .nil

theorem leads_elements (lawful : discipline.Lawful) (admits : discipline.Admits ctx)
    (asked : discipline.AskedIfAny target) (holds : discipline.Holds before)
    (exprs : Exprs) : discipline.Leads before (exprs.calls ctx target before) := by
  cases exprs with
  | nil => exact .nil
  | cons head tail =>
      refine .cons (fun _ => ⟨holds, admits, asked⟩) ?_
      apply Leads.leading fun _ => head.resolve_safe lawful admits asked holds
      intro _ middle kept
      exact .one fun tolerated => ⟨(kept tolerated).1, admits, asked⟩

theorem leads_arguments (lawful : discipline.Lawful) (admits : discipline.Admits ctx)
    {signature : Signature} (good : discipline.signature signature)
    {parameters : List Parameter} (within : ∀ parameter ∈ parameters,
      parameter ∈ signature.parameters) (number : Nat) (holds : discipline.Holds before)
    (exprs : Exprs) :
    discipline.Leads before (exprs.argumentCalls ctx signature number parameters before) := by
  cases exprs with
  | nil => exact .nil
  | cons head tail =>
      cases parameters with
      | nil =>
          refine .cons (fun _ => ⟨holds, admits, askedIfAny_none⟩) ?_
          apply Leads.leading fun _ => head.resolve_safe lawful admits askedIfAny_none holds
          intro _ middle kept
          exact .one fun tolerated => ⟨(kept tolerated).1, admits, good, within⟩
      | cons parameter parameters =>
          rw [List.forall_mem_cons] at within
          have wanted := lawful.askedArgument good within.1
          refine .cons (fun _ => ⟨holds, admits, wanted⟩) ?_
          apply Leads.leading fun _ => head.resolve_safe lawful admits wanted holds
          intro _ middle kept
          apply Leads.leading fun tolerated =>
            have ⟨holdsMiddle, placed⟩ := kept tolerated
            safe_materialize? lawful holdsMiddle _ placed wanted
          intro _ filled keptFilled
          exact .one fun tolerated => ⟨(keptFilled tolerated).1, admits, good, within.2⟩

theorem leads_statement (lawful : discipline.Lawful) (admits : discipline.Admits ctx)
    (holds : discipline.Holds before) (statement : Stmt) :
    discipline.Leads before (statement.calls ctx before) := by
  cases statement with
  | missing => exact .nil
  | declaration node isMutable name type value =>
      cases name with
      | none => exact .nil
      | some name =>
          apply Leads.required
          apply Leads.leading fun _ => .of_reporting holds (reporting_declaredType _ _)
            (lawful.annotatedDeclaration name.name trivial)
          intro declared middle kept
          apply Leads.required
          exact .one fun tolerated =>
            ⟨(kept tolerated).1, admits, askedIfAny_of_annotatedIfAny lawful (kept tolerated).2⟩
  | assignment node name value =>
      cases name with
      | none => exact .nil
      | some name =>
          apply Leads.required
          split
          · apply Leads.leading fun _ => .report holds _ _
            intro _ middle kept
            exact .one fun tolerated => ⟨(kept tolerated).1, admits, askedIfAny_none⟩
          · next symbol found =>
              apply Leads.leading fun _ => safe_requireMutable holds name symbol
              intro _ middle kept
              exact .one fun tolerated =>
                ⟨(kept tolerated).1, admits,
                  lawful.askedAssignment (holds.of_lookup found) (kept tolerated).2⟩
  | returning node value =>
      apply Leads.required
      split
      · apply Leads.leading fun _ => .report holds _ _
        intro _ middle kept
        exact .one fun tolerated => ⟨(kept tolerated).1, admits, askedIfAny_none⟩
      · next signature found =>
          have wanted := lawful.askedResult (admits.function signature found)
          apply Leads.leading fun _ => safe_setReturned holds true
          intro _ middle kept
          refine .one fun tolerated => ⟨(kept tolerated).1, admits, ?_⟩
          intro type equal
          exact askedIfAny_some wanted type (Option.filter_eq_some_iff.mp equal).1
  | yielding node value =>
      apply Leads.required
      split
      · apply Leads.leading fun _ => .report holds _ _
        intro _ middle kept
        exact .one fun tolerated => ⟨(kept tolerated).1, admits, askedIfAny_none⟩
      · next target found => exact .one fun _ => ⟨holds, admits, admits.block target found⟩
  | expression node value => exact .one fun _ => ⟨holds, admits, askedIfAny_none⟩
  | function node name parameters result body =>
      apply Leads.required
      apply Leads.leading fun _ =>
        safe_signatureOf lawful holds node name body (fun _ _ _ _ => trivial) trivial
      intro signature read kept
      apply Leads.entered .function
      -- The signature is good at the later moments because it was so when it was read.
      have bind : discipline.tolerates { read with table := read.table.enter .function } →
          discipline.Safe (declareParameters node signature 1 signature.parameters)
            { read with table := read.table.enter .function }
            fun _ _ => discipline.signature signature := by
        intro tolerated
        rcases kept (tolerates_of_withTable tolerated) with ⟨holdsRead, good⟩
        exact (safe_declareParameters lawful good node 1 (fun _ => id)
          (holdsRead.enter .function)).mono fun _ _ _ => good
      apply Leads.leading bind
      intro _ bound keptBound
      have clear : discipline.tolerates bound →
          discipline.Safe clearReturned bound fun _ _ => discipline.signature signature := by
        intro tolerated
        rcases keptBound tolerated with ⟨holdsBound, good⟩
        exact (safe_setReturned holdsBound false).mono fun _ _ _ => good
      apply Leads.leading clear
      intro _ begun keptBegun
      cases body with
      | missing => exact .nil
      | block node statements =>
          exact .one fun tolerated =>
            ⟨(keptBegun tolerated).1, Admits.inFunction ctx (keptBegun tolerated).2⟩

theorem leads_statements (lawful : discipline.Lawful) (admits : discipline.Admits ctx)
    (holds : discipline.Holds before) (statements : Stmts) :
    discipline.Leads before (statements.calls ctx before) := by
  cases statements with
  | nil => exact .nil
  | cons head tail =>
      refine .cons (fun _ => ⟨holds, admits⟩) ?_
      apply Leads.leading fun _ => head.analyze_safe lawful admits holds
      intro _ middle kept
      exact .one fun tolerated => ⟨(kept tolerated).1, admits⟩

theorem leads_calls (lawful : discipline.Lawful) {moment : Moment}
    (ready : discipline.Ready moment) : discipline.Leads moment.state moment.calls := by
  rcases moment with ⟨task, state⟩
  rcases ready with ⟨holds, poses⟩
  cases task with
  | expr ctx target expr => exact leads_expr lawful poses.1 poses.2 holds expr
  | elements ctx target exprs => exact leads_elements lawful poses.1 poses.2 holds exprs
  | arguments ctx signature number parameters exprs =>
      exact leads_arguments lawful poses.1 poses.2.1 poses.2.2 number holds exprs
  | statement ctx statement => exact leads_statement lawful poses holds statement
  | statements ctx statements => exact leads_statements lawful poses holds statements

end Calls

/-- From a moment that is ready, an analysis comes only to moments that are ready. -/
theorem Ready.reaches (lawful : discipline.Lawful) {first moment : Moment}
    (ready : discipline.Ready first) (reaches : first.Reaches moment)
    (tolerated : discipline.tolerates moment.state) : discipline.Ready moment := by
  induction reaches with
  | refl => exact ready
  | @tail caller callee _ called induction =>
      have grows := caller.precedes_calls.grows callee called
      have earlier := discipline.earlier grows tolerated
      exact (leads_calls lawful (induction earlier)).ready callee called tolerated

/-- What a task does at a moment that is ready. -/
theorem Ready.safe (lawful : discipline.Lawful) {moment : Moment}
    (ready : discipline.Ready moment) :
    discipline.Safe moment.task.run moment.state fun _ _ => True := by
  rcases moment with ⟨task, state⟩
  rcases ready with ⟨holds, poses⟩
  cases task with
  | expr ctx target expr => exact (expr.resolve_safe lawful poses.1 poses.2 holds).discard
  | elements ctx target exprs =>
      exact (exprs.resolveAll_safe lawful poses.1 poses.2 holds).discard
  | arguments ctx signature number parameters exprs =>
      exact exprs.resolveArguments_safe lawful poses.1 poses.2.1 poses.2.2 number holds
  | statement ctx statement => exact (statement.analyze_safe lawful poses holds).discard
  | statements ctx statements => exact (statements.analyze_safe lawful poses holds).discard

end Discipline

/-! ## Programs -/

/-- An analysis from an empty table comes only to moments that are ready. -/
theorem Program.ready_of_meets {discipline : Discipline} (lawful : discipline.Lawful)
    {policy : BranchPolicy} {width : PointerWidth} {mode : AnalysisMode} {program : Program}
    {moment : Moment} (meets : program.Meets (.start policy width) mode moment)
    (tolerated : discipline.tolerates moment.state) : discipline.Ready moment := by
  rcases meets with ⟨first, called, reaches⟩
  have empty := Discipline.Holds.empty discipline
  have headers : discipline.Safe
      (if mode.readsHeaders then program.statements.declareFunctions else pure ())
      (.ofTable .empty) fun _ _ => True := by
    split
    · exact program.statements.declareFunctions_safe lawful empty
    · exact .pure empty trivial
  have leads : discipline.Leads (.ofTable .empty) (program.calls (.start policy width) mode) := by
    apply Discipline.Leads.leading fun _ => headers
    intro _ state kept
    split
    · exact .one fun tolerated => ⟨(kept tolerated).1, Discipline.admits_start policy width⟩
    · exact .nil
  have earlier := discipline.earlier reaches.grows tolerated
  exact (leads.ready first called earlier).reaches lawful reaches tolerated

/-- What is resolved at such a moment is as it should be. -/
theorem Program.operand_of_meets {discipline : Discipline} (lawful : discipline.Lawful)
    {policy : BranchPolicy} {width : PointerWidth} {mode : AnalysisMode} {program : Program}
    {ctx : Context} {target : Option Ty} {expr : Expr} {before after : State}
    {operand : Operand}
    (meets : program.Meets (.start policy width) mode ⟨.expr ctx target expr, before⟩)
    (resolved : (expr.resolve ctx target).run before = .ok operand after)
    (tolerated : discipline.tolerates after) : discipline.operand operand := by
  have earlier := discipline.earlier ((expr.resolve ctx target).grows_of_ok resolved) tolerated
  have ready := ready_of_meets lawful meets earlier
  have safe := expr.resolve_safe lawful ready.poses.1 ready.poses.2 ready.holds
  exact (safe.result resolved tolerated).operand

end ComptimeTyping
