import ComptimeTyping.Proofs.Frame
import ComptimeTyping.Proofs.Moments
import ComptimeTyping.Proofs.Stops

/-! What is in the sink when an analysis ends, whether it comes to its end or stops. A report
stays where it is, so what is left at one moment is left in the end by whatever comes to that
moment. -/

namespace ComptimeTyping

open Analysis

namespace Analysis

variable {α β : Type} {computation inside first : Analysis α} {next : α → Analysis β}
  {before middle : State} {value : α} {position : Position} {finding : Finding}
  {diagnostic : Diagnostic} {moments : List Moment} {later : α → State → List Moment}

theorem grows_bind (first : Analysis α) (next : α → Analysis β) (before : State) :
    (first.run before).state.GrowsTo ((first >>= next).run before).state := by
  rw [run_bind]
  cases first.run before with
  | ok value middle => exact (next value).grows middle
  | error abort middle => exact .refl middle

/-! ## Diagnostics -/

/-- However the computation ends, the diagnostic is in the sink. -/
def Leaves (computation : Analysis α) (before : State) (diagnostic : Diagnostic) : Prop :=
  diagnostic ∈ (computation.run before).state.reports

namespace Leaves

theorem bind (leaves : first.Leaves before diagnostic) :
    (first >>= next).Leaves before diagnostic :=
  (grows_bind first next before).reports.subset leaves

theorem after (run : first.run before = .ok value middle)
    (leaves : (next value).Leaves middle diagnostic) :
    (first >>= next).Leaves before diagnostic := by
  simpa [Leaves, run_bind_of_ok run] using leaves

theorem past (stopping : first.StopsFor before fun _ => False)
    (leaves : ∀ value middle, (next value).Leaves middle diagnostic) :
    (first >>= next).Leaves before diagnostic := by
  cases run : first.run before with
  | ok value middle => exact .after run (leaves value middle)
  | error abort middle => exact (stopping.reason run).elim

theorem behind (reporting : first.Reporting fun _ => False)
    (leaves : ∀ value middle, (next value).Leaves middle diagnostic) :
    (first >>= next).Leaves before diagnostic :=
  past (.of_reporting reporting) leaves

/-- What does not stop and leaves the table as it is does not keep a later report away. -/
theorem beside (stopping : first.StopsFor before fun _ => False)
    (kept : first.Moves Eq)
    (leaves : ∀ value middle, middle.table = before.table →
      (next value).Leaves middle diagnostic) :
    (first >>= next).Leaves before diagnostic := by
  have table := kept.tables before
  cases run : first.run before with
  | ok value middle =>
      rw [run] at table
      exact .after run (leaves value middle table.symm)
  | error abort middle => exact (stopping.reason run).elim

theorem guarded {condition : Prop} [Decidable condition] {step : Analysis Unit}
    {rest : Unit → Analysis α} (reporting : step.Reporting fun _ => False)
    (leaves : ∀ middle, (rest ()).Leaves middle diagnostic) :
    (if condition then step >>= rest else rest ()).Leaves before diagnostic := by
  split
  · exact .behind reporting fun _ middle => leaves middle
  · exact leaves before

theorem discard (leaves : computation.Leaves before diagnostic) :
    (Functor.discard computation).Leaves before diagnostic :=
  leaves.bind

theorem recorded {node : Node} {resolve : Analysis Operand}
    (leaves : resolve.Leaves before diagnostic) :
    (Analysis.recorded node resolve).Leaves before diagnostic :=
  leaves.bind

theorem withScope {kind : ScopeKind}
    (leaves : inside.Leaves { before with table := before.table.enter kind } diagnostic) :
    (Analysis.withScope kind inside).Leaves before diagnostic := by
  rw [Leaves, state_withScope rfl]
  exact leaves

end Leaves

@[simp] theorem leaves_report :
    (report position finding).Leaves before (finding.placed position) := by
  simp [Leaves, report, update, Outcome.state]

@[simp] theorem leaves_report_bind {next : Unit → Analysis β} :
    (report position finding >>= next).Leaves before (finding.placed position) :=
  leaves_report.bind

@[simp] theorem leaves_map {change : α → β} :
    (change <$> computation).Leaves before diagnostic ↔ computation.Leaves before diagnostic := by
  rw [← bind_pure_comp]
  simp only [Leaves, run_bind]
  cases computation.run before <;> rfl

@[simp] theorem leaves_read_bind {view : State → α} :
    (read view >>= next).Leaves before diagnostic ↔
      (next (view before)).Leaves before diagnostic := Iff.rfl

@[simp] theorem leaves_table_bind {next : SymbolTable → Analysis α} :
    (table >>= next).Leaves before diagnostic ↔
      (next before.table).Leaves before diagnostic := Iff.rfl

@[simp] theorem leaves_refuse :
    (refuse position finding).Leaves before (finding.placed position) :=
  leaves_report.bind

/-! ## Moments -/

/-- Whatever is left at the moments is still there when the computation ends. -/
structure Gathers (computation : Analysis α) (before : State) (moments : List Moment) :
    Prop where
  grows : ∀ moment ∈ moments, moment.outcome.state.GrowsTo (computation.run before).state

namespace Gathers

theorem nil : computation.Gathers before [] :=
  ⟨by simp⟩

theorem bind (gathers : first.Gathers before moments) :
    (first >>= next).Gathers before moments :=
  ⟨fun moment member => (gathers.grows moment member).trans (grows_bind first next before)⟩

theorem append {more : List Moment} (gathers : computation.Gathers before moments)
    (rest : computation.Gathers before more) : computation.Gathers before (moments ++ more) :=
  ⟨List.forall_mem_append.mpr ⟨gathers.grows, rest.grows⟩⟩

theorem leading (rest : ∀ value middle, (next value).Gathers middle (later value middle)) :
    (first >>= next).Gathers before (first.leading before later) := by
  unfold Analysis.leading
  cases run : first.run before with
  | ok value middle => exact ⟨by simpa [run_bind_of_ok run] using (rest value middle).grows⟩
  | error abort middle => exact nil

/-- First what is done at some moments, and then the rest. -/
theorem first_then (gathers : first.Gathers before moments)
    (rest : ∀ value middle, (next value).Gathers middle (later value middle)) :
    (first >>= next).Gathers before (moments ++ first.leading before later) :=
  gathers.bind.append (leading rest)

theorem discard (gathers : computation.Gathers before moments) :
    (Functor.discard computation).Gathers before moments :=
  gathers.bind

theorem reading {view : State → β} {use : β → Analysis α}
    (gathers : (use (view before)).Gathers before moments) :
    (Analysis.read view >>= use).Gathers before moments :=
  ⟨gathers.grows⟩

theorem required {condition : Prop} [Decidable condition] {position : Position}
    {defect : Defect} {rest : Unit → Analysis α}
    (gathers : (rest ()).Gathers before moments) :
    (if condition then Analysis.malformed position defect >>= rest else rest ()).Gathers before
      (if condition then [] else moments) := by
  split
  · exact nil
  · exact gathers

theorem withScope {kind : ScopeKind}
    (gathers : inside.Gathers { before with table := before.table.enter kind } moments) :
    (Analysis.withScope kind inside).Gathers before moments := by
  constructor
  rw [state_withScope rfl]
  intro moment member
  have grows := gathers.grows moment member
  exact ⟨grows.reports, grows.types, grows.slots⟩

end Gathers

end Analysis

namespace Analysis.Gathers

variable {α β : Type} {first computation : Analysis α} {next : α → Analysis β} {before : State}
  {later : α → State → List Moment}

theorem task {task : Task} (run : task.run = Functor.discard computation) :
    computation.Gathers before [⟨task, before⟩] := by
  have same : ((Functor.discard computation).run before).state =
      (computation.run before).state := by
    change ((computation >>= fun _ => pure ()).run before).state = _
    rw [run_bind]
    cases computation.run before <;> rfl
  constructor
  simp [Moment.outcome, run, same, State.GrowsTo.refl]

theorem expr (ctx : Context) (target : Option Ty) (expr : Expr) :
    (expr.resolve ctx target).Gathers before [⟨.expr ctx target expr, before⟩] :=
  task rfl

theorem statements (ctx : Context) (statements : Stmts) :
    (statements.analyze ctx).Gathers before [⟨.statements ctx statements, before⟩] :=
  task rfl

theorem arguments (ctx : Context) (signature : Signature) (number : Nat)
    (parameters : List Parameter) (values : Exprs) :
    (values.resolveArguments ctx signature number parameters).Gathers before
      [⟨.arguments ctx signature number parameters values, before⟩] :=
  ⟨by simp [Moment.outcome, Task.run, State.GrowsTo.refl]⟩

theorem elements (ctx : Context) (target : Option Ty) (values : Exprs) :
    (values.resolveAll ctx target).Gathers before [⟨.elements ctx target values, before⟩] :=
  task rfl

theorem bound (ctx : Context) (hint : Option Ty) (part : String) (parts : RangeParts)
    (bound : Expr) :
    (withBound part parts bound (bound.resolve ctx hint)).Gathers before
      (bound.boundCalls ctx hint before) := by
  unfold withBound Expr.boundCalls
  cases bound.isMissing with
  | true => exact nil
  | false => exact (expr ctx hint bound).bind

end Analysis.Gathers

theorem Body.gathers (ctx : Context) (target : Option Ty) (body : Body) (before : State) :
    (body.resolve ctx target).Gathers before [⟨.expr ctx target body.toExpr, before⟩] := by
  rw [← body.resolve_toExpr]
  exact .expr ctx target body.toExpr

theorem Expr.gathers_calls (ctx : Context) (target : Option Ty) (before : State) (expr : Expr) :
    (expr.resolve ctx target).Gathers before (expr.calls ctx target before) := by
  cases expr with
  | prefixOp node operator right =>
      simp only [resolve, calls]
      exact (Gathers.expr ctx target right).bind.bind
  | infixOp node left operator right =>
      simp only [resolve, calls]
      cases InfixOp.ofSymbol? operator with
      | none => exact .nil
      | some op =>
          exact .bind (.first_then (.expr _ _ left) fun _ _ => (Gathers.expr _ _ right).bind)
  | conversion node value type =>
      simp only [resolve, calls]
      exact .bind (.required (.leading fun _ _ => (Gathers.expr _ _ value).bind))
  | array node items =>
      simp only [resolve, calls]
      exact (Gathers.elements _ _ items).bind.bind
  | range node start stop step inclusive =>
      simp only [resolve, calls]
      refine .bind (.leading fun parts begun => ?_)
      refine .first_then (.bound _ _ _ _ start) fun started middle => ?_
      exact .first_then (.bound _ _ _ _ stop) fun stopped late => (Gathers.bound _ _ _ _ step).bind
  | index node left place =>
      simp only [resolve, calls]
      exact .bind (.first_then (.expr _ _ left) fun _ _ => (Gathers.expr _ _ place).bind)
  | member node left name =>
      simp only [resolve]
      cases name with
      | none => exact .nil
      | some name => exact (Gathers.expr _ _ left).bind.bind
  | call node callee arguments =>
      simp only [resolve]
      cases callee with
      | none => exact .nil
      | some callee =>
          simp only [calls]
          refine .bind (.reading ?_)
          cases before.table.function? callee.name with
          | none =>
              exact .reading (.leading fun _ _ => (Gathers.elements _ _ arguments).discard.bind)
          | some signature => exact .leading fun _ _ => (Gathers.arguments _ _ _ _ arguments).bind
  | block node statements =>
      simp only [resolve, calls]
      exact .bind (.withScope (Gathers.statements _ statements).bind)
  | conditional node condition consequence alternative =>
      simp only [resolve, calls]
      refine .bind (.first_then (.expr _ _ condition) fun operand tested => ?_)
      refine .leading fun _ begun => .required ?_
      refine .first_then (consequence.gathers _ _ _) fun _ middle => ?_
      split
      · exact .nil
      · exact (Gathers.expr _ _ alternative).bind
  | _ => exact .nil

theorem Exprs.gathers_calls (ctx : Context) (target : Option Ty) (before : State)
    (values : Exprs) :
    (values.resolveAll ctx target).Gathers before (values.calls ctx target before) := by
  cases values with
  | nil => exact .nil
  | cons head tail =>
      simp only [resolveAll, calls]
      exact .first_then (.expr _ _ head) fun _ _ => (Gathers.elements _ _ tail).bind

theorem Exprs.gathers_argumentCalls (ctx : Context) (signature : Signature) (number : Nat)
    (parameters : List Parameter) (before : State) (values : Exprs) :
    (values.resolveArguments ctx signature number parameters).Gathers before
      (values.argumentCalls ctx signature number parameters before) := by
  cases values with
  | nil => exact .nil
  | cons head tail =>
      cases parameters with
      | nil =>
          simp only [resolveArguments, argumentCalls, discard_bind]
          exact .first_then (.expr _ _ head) fun _ _ => .arguments _ _ _ _ tail
      | cons parameter parameters =>
          simp only [resolveArguments, argumentCalls]
          refine .first_then (.expr _ _ head) fun operand middle => ?_
          exact .leading fun _ _ => .arguments _ _ _ _ tail

theorem Stmts.gathers_calls (ctx : Context) (before : State) (statements : Stmts) :
    (statements.analyze ctx).Gathers before (statements.calls ctx before) := by
  cases statements with
  | nil => exact .nil
  | cons head tail =>
      simp only [analyze, calls]
      exact .first_then (.task rfl) fun _ _ => (Gathers.statements _ tail).bind

theorem Stmt.gathers_calls (ctx : Context) (before : State) (statement : Stmt) :
    (statement.analyze ctx).Gathers before (statement.calls ctx before) := by
  cases statement with
  | missing => exact .nil
  | declaration node isMutable name type value =>
      cases name with
      | none => exact .nil
      | some name =>
          simp only [analyze, calls]
          refine .required (.leading fun declared middle => ?_)
          split
          · exact .nil
          · exact (Gathers.expr _ _ value).bind
  | assignment node name value =>
      cases name with
      | none => exact .nil
      | some name =>
          simp only [analyze, calls]
          refine .required (.reading ?_)
          cases before.table.lookup? name.name with
          | none => exact .leading fun _ _ => (Gathers.expr _ _ value).discard.bind
          | some symbol => exact .leading fun _ _ => (Gathers.expr _ _ value).bind
  | returning node value =>
      simp only [analyze, calls]
      cases value.isMissing with
      | true => exact .nil
      | false =>
          cases ctx.function with
          | none => exact .leading fun _ _ => (Gathers.expr _ _ value).discard.bind
          | some signature =>
              simp only [Bool.false_eq_true, if_false]
              refine .leading fun _ _ => ?_
              cases void : signature.resultType.isVoid with
              | true =>
                  simp only [Option.filter, void, Bool.not_true, Bool.not_false,
                    Bool.false_eq_true, if_true, if_false]
                  exact (Gathers.expr _ _ value).bind
              | false =>
                  simp only [Option.filter, void, Bool.not_false, Bool.false_eq_true, if_true,
                    if_false]
                  exact (Gathers.expr _ _ value).bind
  | yielding node value =>
      simp only [analyze, calls]
      refine .required ?_
      cases ctx.block with
      | none => exact .leading fun _ _ => (Gathers.expr _ _ value).discard.bind
      | some target => exact (Gathers.expr _ _ value).bind
  | expression node value => exact (Gathers.expr _ _ value).discard.bind
  | function node name parameters result body =>
      simp only [analyze, calls]
      split
      · exact .nil
      · refine .leading fun signature read => .bind (.withScope ?_)
        refine .leading fun _ bound => .leading fun _ begun => .bind ?_
        cases body with
        | missing => exact .nil
        | block node statements => exact (Gathers.statements _ statements).discard

theorem Moment.grows_of_mem_calls {caller callee : Moment} (called : callee ∈ caller.calls) :
    callee.outcome.state.GrowsTo caller.outcome.state := by
  rcases caller with ⟨task, state⟩
  cases task with
  | expr ctx target expr => exact (expr.gathers_calls ctx target state).discard.grows _ called
  | elements ctx target exprs =>
      exact (exprs.gathers_calls ctx target state).discard.grows _ called
  | arguments ctx signature number parameters exprs =>
      exact (exprs.gathers_argumentCalls ctx signature number parameters state).grows _ called
  | statement ctx statement => exact (statement.gathers_calls ctx state).discard.grows _ called
  | statements ctx statements =>
      exact (statements.gathers_calls ctx state).discard.grows _ called

/-- Whatever is left at a moment is left by everything that comes to it. -/
theorem Moment.Reaches.grows_outcome {first moment : Moment} (reaches : first.Reaches moment) :
    moment.outcome.state.GrowsTo first.outcome.state := by
  induction reaches with
  | refl => exact .refl _
  | tail _ called induction => exact (Moment.grows_of_mem_calls called).trans induction

end ComptimeTyping
