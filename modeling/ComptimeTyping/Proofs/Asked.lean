import ComptimeTyping.Proofs.Literals
import ComptimeTyping.Proofs.Once

/-! What a place asks for is what it gets. Where nothing is reported, an array that is
resolved for an array type has the elements of that type, unless it is still comptime: each
place that asks for a type also checks what it is given. -/

namespace ComptimeTyping

open Analysis

/-! ## Arrays that are asked for -/

/-- An array with a concrete element has the element that is asked for. -/
def Ty.Answers (type : Ty) (target : Option Ty) : Prop :=
  ∀ ⦃element dims given axes⦄, target = some (.array element dims) →
    type = .array given axes → given = element

theorem Ty.answers_of_ne {target : Option Ty}
    (other : ∀ element dims, target ≠ some (.array element dims)) (type : Ty) :
    type.Answers target :=
  fun _ _ _ _ asked => absurd asked (other _ _)

theorem Ty.answers_none (type : Ty) : type.Answers none := by
  rintro element dims given axes ⟨⟩

theorem Ty.answers_scalar (tag : Tag) (target : Option Ty) :
    (Ty.scalar tag).Answers target := by
  rintro element dims given axes _ ⟨⟩

theorem Ty.answers_self (type : Ty) : type.Answers (some type) := by
  rintro element dims given axes ⟨⟩ ⟨⟩
  rfl

namespace Asked

open Discipline Clean

/-- What a first part makes sure of does not depend on what comes after. -/
theorem kept {α β : Type} {first : Analysis α} {next : α → Analysis β} {promise : Prop}
    (yields : Yields first fun _ => promise) : Yields (first >>= next) fun _ => promise :=
  yields.bind fun _ promised => ⟨fun _ _ => promised⟩

/-! ## Places that ask -/

/-- A value that fills a slot is assigned to it, and what a comptime value is known to hold
is checked. -/
theorem assigned_fill (ctx : Context) {source : Resolved} {target : Ty} (label : String)
    (known : source.type.isUnknown = false) (asked : target.isUnknown = false) :
    Yields (fill ctx source target label) fun type =>
      source.type.assign target false = .ok type ∧ (source.type.isComptime = true →
        ∃ before after, (checkContents ctx source.position source type).run before
          = .ok () after ∧ after.reports = []) := by
  unfold fill
  split
  · next unknown =>
      change (source.type.isUnknown || target.isUnknown) = true at unknown
      rw [known, asked] at unknown
      cases unknown
  · extract_lets assigned
    have fitting : ∀ fits, fits = true → Yields (assigned fits) fun type =>
        source.type.assign target false = .ok type ∧ (source.type.isComptime = true →
          ∃ before after, (checkContents ctx source.position source type).run before
            = .ok () after ∧ after.reports = []) := by
      rintro fits rfl
      unfold assigned
      split
      · next failed => cases failed
      · split
        · exact reported _ _ _
        · next type filled =>
            dsimp only
            split
            · constructor
              intro before after result run quiet
              rcases run_bind_eq_ok.mp run with ⟨_, _, checked, ⟨⟩⟩
              exact ⟨filled, fun _ => ⟨before, after, checked, quiet⟩⟩
            · next notComptime => exact .pure ⟨filled, fun comptime => absurd comptime notComptime⟩
    split
    · exact (passes_validateShape _ _ _ _).bind fitting
    · exact fitting true rfl

theorem assign_array {source : Ty} (known : source.isUnknown = false) (element : Tag)
    (dims : Axes Dim) (explicit : Bool) :
    source.assign (.array element dims) explicit =
      source.assignArray element dims explicit := by
  unfold Ty.assign
  rw [known, if_neg]
  simp [Ty.isUnknown]

theorem element_of_assign {given element : Tag} {axes dims : Axes Dim} {type : Ty}
    (filled : (Ty.array given axes).assign (.array element dims) false = .ok type) :
    given = element := by
  rw [assign_array (by simp [Ty.isUnknown])] at filled
  unfold Ty.assignArray at filled
  dsimp only at filled
  split at filled
  · cases filled
  · split at filled
    · next same => simpa using same
    · cases filled

theorem answers_fill (ctx : Context) (source : Resolved) (target : Ty) (label : String) :
    Yields (fill ctx source target label) fun _ => source.type.Answers (some target) := by
  constructor
  rintro before after type run quiet element dims given axes ⟨⟩ array
  have known : source.type.isUnknown = false := by rw [array]; rfl
  have assigned := ((assigned_fill ctx label known rfl).result run quiet).1
  rw [array] at assigned
  exact element_of_assign assigned

theorem answers_materialize (ctx : Context) (source : Resolved) (target : Ty)
    (label : String) :
    Yields (materialize ctx source target label) fun _ =>
      source.type.Answers (some target) :=
  kept (answers_fill ctx source target label)

theorem answers_materialize? (ctx : Context) (source : Resolved) (target : Option Ty)
    (label : String) :
    Yields (materialize? ctx source target label) fun _ => source.type.Answers target := by
  cases target with
  | none => exact .pure (Ty.answers_none _)
  | some target => exact kept (answers_materialize ctx source target label)

theorem answers_fillBranches (ctx : Context) (target : Ty) (branches : List Resolved) :
    Yields (fillBranches ctx target branches) fun _ =>
      ∀ branch ∈ branches, branch.type.Answers (some target) := by
  induction branches with
  | nil => exact .pure (List.forall_mem_nil _)
  | cons branch branches induction =>
      have filled : Yields (discard (materialize ctx branch target "branch value"))
          fun _ => branch.type.Answers (some target) :=
        kept (answers_materialize ctx branch target _)
      apply filled.bind
      intro _ answers
      exact induction.mono fun _ rest => List.forall_mem_cons.mpr ⟨answers, rest⟩

/-- Branches fill what their block or conditional is asked for, and so does their value. -/
theorem answers_unifyBranches (ctx : Context) (branches : List Resolved)
    (target : Option Ty) :
    Yields (unifyBranches ctx branches target) fun operand =>
      operand.type.Answers target ∧ ∀ branch ∈ branches, branch.type.Answers target := by
  cases target with
  | none => exact ⟨fun _ _ => ⟨Ty.answers_none _, fun _ _ => Ty.answers_none _⟩⟩
  | some target =>
      unfold unifyBranches
      split
      · next asked found =>
          rcases Option.filter_eq_some_iff.mp found with ⟨⟨⟩, _⟩
          apply (answers_fillBranches ctx target branches).bind
          exact fun _ answers => .pure ⟨Ty.answers_self target, answers⟩
      · next found =>
          have void : ∀ element dims, some target ≠ some (.array element dims) := by
            rintro element dims ⟨⟩
            cases found
          exact ⟨fun _ _ => ⟨Ty.answers_of_ne void _, fun _ _ => Ty.answers_of_ne void _⟩⟩

theorem answers_bindValue (ctx : Context) (isMutable : Bool) (name : Ident)
    (declared : Option Ty) (value : Resolved) :
    Yields (bindValue ctx isMutable name declared value) fun _ =>
      value.type.Answers declared := by
  cases declared with
  | none => exact ⟨fun _ _ => Ty.answers_none _⟩
  | some type => exact kept (answers_materialize ctx value type _)

theorem answers_assign (ctx : Context) (name : Ident) (symbol : Symbol) (value : Resolved) :
    Yields (assign ctx name symbol value) fun _ => value.type.Answers symbol.type :=
  kept (answers_materialize? ctx value symbol.type _)

/-- No operator applies to an array. -/
theorem answers_prefixed (node : Node) (operator : String) (right : Operand)
    (target : Option Ty) :
    Yields (prefixed node operator right) fun _ => right.type.Answers target := by
  constructor
  rintro before after operand run quiet element dims given axes _ array
  unfold prefixed at run
  have known : ¬right.isUnknown = true := by
    unfold Operand.isUnknown
    simp [array, Ty.isUnknown]
  rw [if_neg known] at run
  split at run
  · unfold negation at run
    rw [array] at run
    exact absurd quiet (reports_ne_nil run)
  · rw [array] at run
    exact absurd quiet (reports_ne_nil run)
  · cases run

/-- A concrete row gives its element to the array. -/
theorem answers_arrayLiteral (ctx : Context) (node : Node) {elements : List Resolved}
    {target : Option Ty} (settled : ∀ element ∈ elements, element.type.Settled) :
    Yields (arrayLiteral ctx node elements target) fun operand =>
      operand.type.Answers target →
        ∀ element ∈ elements, element.type.Answers (elementTarget target) := by
  apply (Literals.built_arrayLiteral ctx node settled).mono
  rintro operand built answers row member element dims given axes asked array
  rcases Literals.exists_of_elementTarget asked with ⟨dims, rfl⟩
  have notScalar : ¬∃ tag, row.type = .scalar tag := by
    rintro ⟨tag, scalar⟩
    rw [array] at scalar
    cases scalar
  have concrete : row.type.isComptime = false := by
    rw [array]
    rfl
  cases built with
  | empty none =>
      subst none
      cases member
  | openVector scalars => exact absurd (scalars row member) notScalar
  | askedVector scalars => exact absurd (scalars row member) notScalar
  | concreteVector scalars => exact absurd (scalars row member) notScalar
  | comptimeRows _ comptime =>
      rw [comptime row member] at concrete
      cases concrete
  | concreteRows _ _ type same =>
      have element := same row member concrete
      rw [array] at element
      exact element.symm.trans (answers rfl type)

end Asked

/-! ## Moments that are served -/

def Task.ctx : Task → Context
  | .expr ctx _ _ => ctx
  | .elements ctx _ _ => ctx
  | .arguments ctx _ _ _ _ => ctx
  | .statement ctx _ => ctx
  | .statements ctx _ => ctx

/-- What a task gives is what it is asked for. -/
def Moment.Answered : Moment → Prop
  | ⟨.expr ctx target expr, before⟩ => ∀ {operand after},
      (expr.resolve ctx target).run before = .ok operand after → operand.type.Answers target
  | ⟨.elements ctx target exprs, before⟩ => ∀ {elements after},
      (exprs.resolveAll ctx target).run before = .ok elements after →
        ∀ element ∈ elements, element.type.Answers target
  | ⟨.arguments _ _ _ _ _, _⟩ => True
  | ⟨.statement ctx statement, before⟩ => ∀ {branch after},
      (statement.analyze ctx).run before = .ok branch after →
        ∀ given ∈ branch, given.type.Answers ctx.block.join
  | ⟨.statements ctx statements, before⟩ => ∀ {branches after},
      (statements.analyze ctx).run before = .ok branches after →
        ∀ given ∈ branches, given.type.Answers ctx.block.join

/-- A moment at which the width of pointers is the given one and what is asked for is
given. -/
structure Moment.Served (width : PointerWidth) (moment : Moment) : Prop where
  width_eq : moment.task.ctx.width = width
  answered : moment.Answered

namespace Analysis

open Clean

/-- Where nothing is reported, the moments that a computation comes to are served. -/
structure Serves {α : Type} (width : PointerWidth) (computation : Analysis α)
    (before : State) (calls : List Moment) : Prop where
  served : ∀ {value after}, computation.run before = .ok value after → after.reports = [] →
    ∀ callee ∈ calls, callee.Served width

namespace Serves

variable {α β : Type} {width : PointerWidth} {computation : Analysis α} {before : State}
  {calls : List Moment} {first : Analysis α} {next : α → Analysis β}
  {later : α → State → List Moment} {moment : Moment}

theorem nil : computation.Serves width before [] :=
  ⟨fun _ _ => List.forall_mem_nil _⟩

theorem never (stops : ∀ {value after}, computation.run before ≠ .ok value after) :
    computation.Serves width before calls :=
  ⟨fun run => absurd run stops⟩

theorem ending (serves : first.Serves width before calls) :
    (first >>= next).Serves width before calls := by
  constructor
  intro result after run quiet
  rcases run_bind_eq_ok.mp run with ⟨value, middle, started, ended⟩
  exact serves.served started (((next value).grows_of_ok ended).quiet quiet)

theorem leading (rest : ∀ value middle, first.run before = .ok value middle →
      (next value).Serves width middle (later value middle)) :
    (first >>= next).Serves width before (first.leading before later) := by
  constructor
  intro result after run quiet
  rcases run_bind_eq_ok.mp run with ⟨value, middle, started, ended⟩
  unfold Analysis.leading
  rw [started]
  exact (rest value middle started).served ended quiet

theorem last (served : moment.Served width) :
    computation.Serves width before [moment] :=
  ⟨fun _ _ => List.forall_mem_singleton.mpr served⟩

/-- What comes after a moment shows that it was served. -/
theorem one (here : ∀ {value middle result after}, first.run before = .ok value middle →
      (next value).run middle = .ok result after → after.reports = [] →
        moment.Served width) :
    (first >>= next).Serves width before [moment] := by
  constructor
  intro result after run quiet
  rcases run_bind_eq_ok.mp run with ⟨value, middle, started, ended⟩
  rw [List.forall_mem_singleton]
  exact here started ended quiet

theorem cons (here : ∀ {value middle result after}, first.run before = .ok value middle →
      (next value).run middle = .ok result after → after.reports = [] →
        moment.Served width)
    (rest : ∀ value middle, first.run before = .ok value middle →
      (next value).Serves width middle (later value middle)) :
    (first >>= next).Serves width before (moment :: first.leading before later) := by
  constructor
  intro result after run quiet
  rw [List.forall_mem_cons]
  exact ⟨(one here).served run quiet moment (List.mem_singleton_self _),
    (leading rest).served run quiet⟩

theorem append {more : List Moment} (serves : computation.Serves width before calls)
    (rest : computation.Serves width before more) :
    computation.Serves width before (calls ++ more) := by
  constructor
  intro result after run quiet
  exact List.forall_mem_append.mpr ⟨serves.served run quiet, rest.served run quiet⟩

theorem reading {view : State → α} (serves : (next (view before)).Serves width before calls) :
    (Analysis.read view >>= next).Serves width before calls :=
  ⟨serves.served⟩

theorem required {condition : Prop} [Decidable condition] {rest : Unit → Analysis α}
    {position : Position} {defect : Defect} (serves : (rest ()).Serves width before calls) :
    (if condition then Analysis.malformed position defect >>= rest else rest ()).Serves width
      before (if condition then [] else calls) := by
  split
  · exact .never nofun
  · exact serves

theorem withScope (kind : ScopeKind)
    (serves : computation.Serves width { before with table := before.table.enter kind } calls) :
    (Analysis.withScope kind computation).Serves width before calls := by
  constructor
  intro value after run quiet
  rcases exists_of_run_withScope run with ⟨inner, ended, rfl⟩
  exact serves.served ended quiet

end Serves

end Analysis

section Calls

open Asked Clean Serves

variable {width : PointerWidth} {ctx : Context} {target : Option Ty} {before : State}

theorem Moment.served_of_resolve {expr : Expr} {operand : Operand} {after : State}
    (same : ctx.width = width) (run : (expr.resolve ctx target).run before = .ok operand after)
    (answers : operand.type.Answers target) :
    Moment.Served width ⟨.expr ctx target expr, before⟩ := by
  refine ⟨same, ?_⟩
  intro again ended repeated
  rw [run] at repeated
  cases repeated
  exact answers

/-- An expression that is not asked for an array is always served. -/
theorem Moment.served_freely {expr : Expr} (same : ctx.width = width)
    (other : ∀ element dims, target ≠ some (.array element dims)) :
    Moment.Served width ⟨.expr ctx target expr, before⟩ :=
  ⟨same, fun _ => Ty.answers_of_ne other _⟩

theorem Moment.served_unasked {expr : Expr} (same : ctx.width = width) :
    Moment.Served width ⟨.expr ctx none expr, before⟩ :=
  served_freely same fun _ _ => nofun

theorem Expr.serves_bound (same : ctx.width = width) (bound : Expr)
    (other : ∀ element dims, target ≠ some (.array element dims)) (part : String)
    (parts : RangeParts) :
    (withBound part parts bound (bound.resolve ctx target)).Serves width before
      (bound.boundCalls ctx target before) := by
  unfold withBound Expr.boundCalls
  split
  · exact .nil
  · exact .one fun _ _ _ => Moment.served_freely same other

theorem operandHint_ne (op : InfixOp) (target : Option Ty) (element : Tag) (dims : Axes Dim) :
    operandHint op target ≠ some (.array element dims) := by
  unfold operandHint scalarHint
  split
  · split <;> nofun
  · nofun
  · nofun

theorem boundHint_ne (hint : Tag) (element : Tag) (dims : Axes Dim) :
    boundHint hint ≠ some (.array element dims) := by
  unfold boundHint
  split <;> nofun

theorem indexTarget_ne (isRange : Bool) (element : Tag) (dims : Axes Dim) :
    some (indexTarget isRange) ≠ some (.array element dims) := by
  cases isRange <;> nofun

/-- A block has the type that it is asked for, or none at all. -/
theorem Body.answers (body : Body) (ctx : Context) (target : Option Ty) :
    Yields (body.toExpr.resolve ctx target) (·.type.Answers target) := by
  rw [Body.resolve_toExpr]
  cases body with
  | missing => exact .stop _
  | block node statements =>
      constructor
      intro before after operand run quiet
      unfold Body.resolve at run
      rcases exists_of_run_recorded run with ⟨middle, resolved, grows, _⟩
      rcases exists_of_run_withScope resolved with ⟨inner, ended, rfl⟩
      rcases run_bind_eq_ok.mp ended with ⟨branches, _, _, unified⟩
      split at unified
      · cases unified
        exact Ty.answers_scalar _ _
      · exact ((answers_unifyBranches ctx _ target).result unified (grows.quiet quiet)).1

theorem Expr.serves (expr : Expr)
    (served : Moment.Served width ⟨.expr ctx target expr, before⟩)
    (ready : Discipline.clean.Ready ⟨.expr ctx target expr, before⟩) :
    (expr.resolve ctx target).Serves width before (expr.calls ctx target before) := by
  have same : ctx.width = width := served.width_eq
  cases expr with
  | prefixOp node operator right =>
      unfold Expr.resolve Expr.calls
      apply Serves.ending
      apply Serves.one
      intro operand middle result after run rest quiet
      exact Moment.served_of_resolve same run
        ((answers_prefixed node operator operand target).result rest quiet)
  | infixOp node left operator right =>
      unfold Expr.resolve Expr.calls
      apply Serves.ending
      dsimp only
      cases InfixOp.ofSymbol? operator with
      | none => exact .nil
      | some op =>
          have hinted := operandHint_ne op target
          refine .cons (fun _ _ _ => Moment.served_freely same hinted) fun _ middle _ => ?_
          exact .one fun _ _ _ => Moment.served_freely same hinted
  | conversion node value type =>
      unfold Expr.resolve Expr.calls
      apply Serves.ending
      apply Serves.required
      exact .leading fun _ middle _ => .one fun _ _ _ => Moment.served_unasked same
  | array node items =>
      constructor
      intro operand after run quiet
      have answers : operand.type.Answers target := served.answered run
      unfold Expr.resolve at run
      rcases exists_of_run_recorded run with ⟨ended, resolved, grows, _⟩
      rcases run_bind_eq_ok.mp resolved with ⟨elements, middle, ran, literal⟩
      have quietEnded := grows.quiet quiet
      have quietMiddle := ((arrayLiteral _ _ _ _).grows_of_ok literal).quiet quietEnded
      have lawful := Discipline.lawful_clean
      have safe := items.resolveAll_safe lawful ready.poses.1
        (lawful.askedElement ready.poses.2) ready.holds
      have settled : ∀ element ∈ elements, element.type.Settled :=
        fun element member => safe.result ran quietMiddle element member
      have given := (answers_arrayLiteral ctx node settled).result literal quietEnded answers
      rw [Expr.calls, List.forall_mem_singleton]
      refine ⟨same, ?_⟩
      intro again _ repeated
      rw [ran] at repeated
      cases repeated
      exact given
  | range node start stop step inclusive =>
      unfold Expr.resolve Expr.calls
      apply Serves.ending
      refine .leading fun parts begun _ => ?_
      refine .append (.ending (Expr.serves_bound same start (boundHint_ne _) _ _)) ?_
      refine .leading fun started middle _ => ?_
      refine .append (.ending (Expr.serves_bound same stop (boundHint_ne _) _ _)) ?_
      refine .leading fun stopped late _ => ?_
      exact .ending (Expr.serves_bound same step (boundHint_ne _) _ _)
  | index node left place =>
      unfold Expr.resolve Expr.calls
      apply Serves.ending
      refine .cons (fun _ _ _ => Moment.served_unasked same) fun _ middle _ => ?_
      exact .one fun _ _ _ => Moment.served_freely same (indexTarget_ne _)
  | member node left name =>
      unfold Expr.resolve Expr.calls
      apply Serves.ending
      cases name with
      | none => exact .nil
      | some name => exact .one fun _ _ _ => Moment.served_unasked same
  | call node callee arguments =>
      unfold Expr.resolve Expr.calls
      apply Serves.ending
      cases callee with
      | none => exact .nil
      | some callee =>
          apply Serves.reading
          dsimp only
          cases before.table.function? callee.name with
          | some signature =>
              exact .leading fun _ middle _ => .one fun _ _ _ => ⟨same, trivial⟩
          | none =>
              apply Serves.reading
              refine .leading fun _ middle _ => ?_
              rw [discard_bind]
              exact .one fun _ _ _ => ⟨same, fun _ _ _ => Ty.answers_none _⟩
  | block node statements =>
      unfold Expr.resolve Expr.calls
      apply Serves.ending
      apply Serves.withScope
      apply Serves.one
      intro branches middle operand after run unified quiet
      refine ⟨same, ?_⟩
      intro again _ repeated
      rw [run] at repeated
      cases repeated
      split at unified
      · exact List.forall_mem_nil _
      · exact ((answers_unifyBranches ctx _ target).result unified quiet).2
  | conditional node condition consequence alternative =>
      unfold Expr.resolve Expr.calls
      apply Serves.ending
      have asked : ∀ tag dims, some Ty.bool ≠ some (.array tag dims) := by simp [Ty.bool]
      refine .cons (fun _ _ _ => Moment.served_freely same asked) fun _ tested _ => ?_
      refine .leading fun _ begun _ => ?_
      apply Serves.required
      rw [← Body.resolve_toExpr]
      apply Serves.cons
      · intro first middle result after run rest quiet
        have answers := (consequence.answers ctx target).result run
          ((grows_of_ok _ rest).quiet quiet)
        exact Moment.served_of_resolve same run answers
      · intro first middle _
        split
        · exact .nil
        · apply Serves.one
          intro second late result after run unified quiet
          have answers := (answers_unifyBranches ctx _ target).result unified quiet
          exact Moment.served_of_resolve same run
            (answers.2 ⟨alternative.node, second⟩ (by simp))
  | _ => exact .nil

theorem Exprs.serves (exprs : Exprs)
    (served : Moment.Served width ⟨.elements ctx target exprs, before⟩) :
    (exprs.resolveAll ctx target).Serves width before (exprs.calls ctx target before) := by
  cases exprs with
  | nil => exact .nil
  | cons head tail =>
      constructor
      intro elements after run quiet
      have answers : ∀ element ∈ elements, element.type.Answers target := served.answered run
      unfold Exprs.resolveAll at run
      rcases run_bind_eq_ok.mp run with ⟨operand, middle, first, rest⟩
      rcases run_bind_eq_ok.mp rest with ⟨others, _, later, ⟨⟩⟩
      rw [List.forall_mem_cons] at answers
      unfold Exprs.calls Analysis.leading
      dsimp only
      rw [first, List.forall_mem_cons, List.forall_mem_singleton]
      refine ⟨Moment.served_of_resolve served.width_eq first answers.1, served.width_eq, ?_⟩
      intro again _ repeated
      rw [later] at repeated
      cases repeated
      exact answers.2

theorem Exprs.serves_arguments {signature : Signature} {number : Nat}
    {parameters : List Parameter} (exprs : Exprs) (same : ctx.width = width) :
    (exprs.resolveArguments ctx signature number parameters).Serves width before
      (exprs.argumentCalls ctx signature number parameters before) := by
  cases exprs with
  | nil => exact .nil
  | cons head tail =>
      unfold Exprs.resolveArguments Exprs.argumentCalls
      cases parameters with
      | nil =>
          dsimp only
          rw [discard_bind]
          refine .cons (fun _ _ _ => Moment.served_unasked same) fun _ middle _ => ?_
          exact .last ⟨same, trivial⟩
      | cons parameter parameters =>
          apply Serves.cons
          · intro operand middle result after run rest quiet
            exact Moment.served_of_resolve same run
              ((kept (answers_materialize? ctx _ parameter.type _)).result rest quiet)
          · intro operand middle _
            exact .leading fun _ filled _ => .last ⟨same, trivial⟩

theorem Stmt.serves (statement : Stmt)
    (served : Moment.Served width ⟨.statement ctx statement, before⟩) :
    (statement.analyze ctx).Serves width before (statement.calls ctx before) := by
  have same : ctx.width = width := served.width_eq
  cases statement with
  | missing => exact .nil
  | declaration node isMutable name type value =>
      unfold Stmt.analyze Stmt.calls
      cases name with
      | none => exact .nil
      | some name =>
          apply Serves.required
          refine .leading fun declared middle _ => ?_
          dsimp only
          split
          · exact .nil
          · apply Serves.one
            intro operand late result after run rest quiet
            exact Moment.served_of_resolve same run
              ((kept (answers_bindValue ctx _ _ declared _)).result rest quiet)
  | assignment node name value =>
      unfold Stmt.analyze Stmt.calls
      cases name with
      | none => exact .nil
      | some name =>
          apply Serves.required
          apply Serves.reading
          dsimp only
          cases before.table.lookup? name.name with
          | none =>
              refine .leading fun _ middle _ => ?_
              rw [discard_bind]
              exact .one fun _ _ _ => Moment.served_unasked same
          | some symbol =>
              refine .leading fun _ middle _ => ?_
              apply Serves.one
              intro operand late result after run rest quiet
              exact Moment.served_of_resolve same run
                ((kept (answers_assign ctx _ symbol _)).result rest quiet)
  | returning node value =>
      unfold Stmt.analyze Stmt.calls
      dsimp only
      cases missing : value.isMissing with
      | true => exact .nil
      | false =>
          rw [if_neg Bool.false_ne_true]
          cases ctx.function with
          | none => exact .leading fun _ middle _ => .last (Moment.served_unasked same)
          | some signature =>
              refine .leading fun _ middle _ => ?_
              cases void : signature.resultType.isVoid with
              | true =>
                  rw [Option.filter_some, void]
                  exact .last (Moment.served_unasked same)
              | false =>
                  rw [Option.filter_some, void]
                  apply Serves.one
                  intro operand late result after run rest quiet
                  rw [discard_bind] at rest
                  exact Moment.served_of_resolve same run
                    ((kept (answers_materialize ctx _ signature.resultType _)).result rest quiet)
  | yielding node value =>
      unfold Stmt.calls
      dsimp only
      split
      · exact .nil
      · next present =>
          split
          · next outside =>
              unfold Stmt.analyze
              dsimp only
              rw [if_neg present, outside]
              exact .leading fun _ middle _ => .last (Moment.served_unasked same)
          · next target inside =>
              constructor
              intro branch after run quiet
              have answers : ∀ given ∈ branch, given.type.Answers ctx.block.join :=
                served.answered run
              unfold Stmt.analyze at run
              rw [inside] at run answers
              rw [if_neg present] at run
              rcases run_bind_eq_ok.mp run with ⟨operand, _, resolved, ⟨⟩⟩
              rw [List.forall_mem_singleton]
              exact Moment.served_of_resolve same resolved
                (answers ⟨value.node, operand⟩ rfl)
  | expression node value =>
      unfold Stmt.analyze Stmt.calls
      rw [discard_bind]
      exact .one fun _ _ _ => Moment.served_unasked same
  | function node name parameters result body =>
      unfold Stmt.analyze Stmt.calls
      dsimp only
      split
      · exact .nil
      · refine .leading fun signature read _ => ?_
        refine .ending (.withScope _ ?_)
        refine .leading fun _ bound _ => ?_
        refine .leading fun _ begun _ => ?_
        apply Serves.ending
        cases body with
        | missing => exact .nil
        | block node statements =>
            exact .last ⟨same, fun _ _ _ => Ty.answers_none _⟩

theorem Stmts.serves (statements : Stmts)
    (served : Moment.Served width ⟨.statements ctx statements, before⟩) :
    (statements.analyze ctx).Serves width before (statements.calls ctx before) := by
  cases statements with
  | nil => exact .nil
  | cons head tail =>
      constructor
      intro branches after run quiet
      have answers : ∀ given ∈ branches, given.type.Answers ctx.block.join :=
        served.answered run
      unfold Stmts.analyze at run
      rcases run_bind_eq_ok.mp run with ⟨branch, middle, first, rest⟩
      rcases run_bind_eq_ok.mp rest with ⟨others, _, later, ⟨⟩⟩
      rw [List.forall_mem_append] at answers
      unfold Stmts.calls Analysis.leading
      dsimp only
      rw [first, List.forall_mem_cons, List.forall_mem_singleton]
      refine ⟨⟨served.width_eq, ?_⟩, served.width_eq, ?_⟩
      · intro again _ repeated
        rw [first] at repeated
        cases repeated
        exact fun given member => answers.1 given (Option.mem_toList.mpr member)
      · intro again _ repeated
        rw [later] at repeated
        cases repeated
        exact answers.2

/-- What is served serves what it comes to next. -/
theorem Moment.Served.calls {moment : Moment} (served : moment.Served width)
    (ready : Discipline.clean.Ready moment) {ended : State}
    (run : moment.outcome = .ok () ended) (quiet : ended.reports = []) :
    ∀ callee ∈ moment.calls, callee.Served width := by
  rcases moment with ⟨task, state⟩
  cases task with
  | expr ctx target expr => exact (expr.serves served ready).ending.served run quiet
  | elements ctx target exprs => exact (exprs.serves served).ending.served run quiet
  | arguments ctx signature number parameters exprs =>
      exact (exprs.serves_arguments served.width_eq).served run quiet
  | statement ctx statement => exact (statement.serves served).ending.served run quiet
  | statements ctx statements => exact (statements.serves served).ending.served run quiet

end Calls

/-! ## Programs -/

/-- In an analysis that reports nothing, what is asked for is given at every moment. -/
theorem Program.served_of_meets {policy : BranchPolicy} {width : PointerWidth}
    {program : Program} {state : State}
    (run : (program.analyze (.start policy width) .full).run (.ofTable .empty)
      = .ok () state)
    (quiet : state.reports = []) {moment : Moment}
    (meets : program.Meets (.start policy width) .full moment) : moment.Served width := by
  have ends : ∀ met, program.Meets (.start policy width) .full met → ∃ ended,
      met.outcome = .ok () ended ∧ ended.reports = [] := by
    intro met meets
    rcases endsBy_of_meets run meets with ⟨ended, outcome, grows⟩
    exact ⟨ended, outcome, grows.quiet quiet⟩
  rcases meets with ⟨first, called, reaches⟩
  induction reaches with
  | refl =>
      have serves : (program.analyze (.start policy width) .full).Serves width
          (.ofTable .empty) (program.calls (.start policy width) .full) :=
        .leading fun _ middle _ => .last ⟨rfl, fun _ _ _ => Ty.answers_none _⟩
      exact serves.served run quiet first called
  | @tail caller callee reaches next induction =>
      have meets : program.Meets (.start policy width) .full caller := ⟨first, called, reaches⟩
      rcases ends caller meets with ⟨ended, outcome, quietEnded⟩
      have quietCaller := (grows_of_ok _ outcome).quiet quietEnded
      have ready := ready_of_meets Discipline.lawful_clean meets quietCaller
      exact induction.calls ready outcome quietEnded callee next

end ComptimeTyping
