import ComptimeTyping.Proofs.Moments
import ComptimeTyping.Proofs.Slots

/-! The expressions that a program is made of. An analysis that ends and reports nothing has
resolved each one of them at some moment, and the type that it noted then is still noted in
the end. -/

namespace ComptimeTyping

open Analysis

/-! ## Expressions inside of others -/

/-- An expression and those inside of it. One that is left out is no expression. -/
def Expr.followedBy (expr : Expr) (inner : List Expr) : List Expr :=
  if expr.isMissing then [] else expr :: inner

mutual

/-- The expressions inside of an expression. -/
def Expr.inner : Expr → List Expr
  | .prefixOp _ _ right => right.followedBy right.inner
  | .infixOp _ left _ right => left.followedBy left.inner ++ right.followedBy right.inner
  | .conversion _ value _ => value.followedBy value.inner
  | .array _ items => items.parts
  | .range _ start stop step _ =>
      start.followedBy start.inner ++
        (stop.followedBy stop.inner ++ step.followedBy step.inner)
  | .index _ left index => left.followedBy left.inner ++ index.followedBy index.inner
  | .member _ left _ => left.followedBy left.inner
  | .call _ _ arguments => arguments.parts
  | .block _ statements => statements.parts
  | .conditional _ condition consequence alternative =>
      condition.followedBy condition.inner ++
        (consequence.parts ++ alternative.followedBy alternative.inner)
  | _ => []

def Exprs.parts : Exprs → List Expr
  | .nil => []
  | .cons head tail => head.followedBy head.inner ++ tail.parts

def Body.parts : Body → List Expr
  | .missing => []
  | .block node statements => .block node statements :: statements.parts

/-- The expressions of a statement. The `undef` of a declaration is none. -/
def Stmt.parts : Stmt → List Expr
  | .declaration _ _ _ _ value =>
      if value.isUndef then [] else value.followedBy value.inner
  | .assignment _ _ value => value.followedBy value.inner
  | .returning _ value => value.followedBy value.inner
  | .yielding _ value => value.followedBy value.inner
  | .expression _ value => value.followedBy value.inner
  | .function _ _ _ _ (.block _ statements) => statements.parts
  | _ => []

def Stmts.parts : Stmts → List Expr
  | .nil => []
  | .cons head tail => head.parts ++ tail.parts

end

/-- An expression, if there is one, and the expressions inside of it. -/
def Expr.parts (expr : Expr) : List Expr :=
  expr.followedBy expr.inner

theorem Body.parts_toExpr (body : Body) : body.toExpr.parts = body.parts := by
  cases body with
  | missing => rfl
  | block node statements =>
      unfold Body.toExpr Expr.parts Expr.inner
      rfl

theorem Body.node_toExpr (body : Body) : body.toExpr.node = body.node := by
  cases body with
  | missing => rfl
  | block node statements => rfl

/-- The expressions of a program. -/
def Program.parts (program : Program) : List Expr :=
  program.statements.parts

/-! ## Moments that end -/

namespace Moment

/-- What is done at a moment is done by the time of a state. -/
def EndsBy (moment : Moment) (after : State) : Prop :=
  ∃ ended, moment.outcome = .ok () ended ∧ ended.GrowsTo after

/-- An expression is resolved in the course of what is done at a moment. -/
def Includes (moment : Moment) (expr : Expr) : Prop :=
  ∃ ctx target start, moment.Reaches ⟨.expr ctx target expr, start⟩

/-- An operand is what an expression is resolved to in the course of a moment, where
`target` is asked for. -/
def Provides (moment : Moment) (width : PointerWidth) (target : Option Ty)
    (source : Resolved) : Prop :=
  ∃ ctx expr start ended, moment.Reaches ⟨.expr ctx target expr, start⟩ ∧
    (expr.resolve ctx target).run start = .ok source.operand ended ∧
    source.node = expr.node ∧ ctx.width = width

/-- A slot is filled by what is resolved in the course of a moment, with the type that was
asked for. -/
def Supplies (moment : Moment) (after : State) (entry : Nat × Ty) : Prop :=
  ∃ source width target, moment.Provides width (some target) source ∧
    source.node.id = entry.1 ∧ source.Fills width target entry.2 after

theorem EndsBy.mono {moment : Moment} {middle after : State} (ends : moment.EndsBy middle)
    (grows : middle.GrowsTo after) : moment.EndsBy after := by
  rcases ends with ⟨ended, run, earlier⟩
  exact ⟨ended, run, earlier.trans grows⟩

theorem Supplies.mono {moment : Moment} {middle after : State} {entry : Nat × Ty}
    (supplies : moment.Supplies middle entry) (grows : middle.GrowsTo after) :
    moment.Supplies after entry := by
  rcases supplies with ⟨source, width, target, provides, id, fills⟩
  exact ⟨source, width, target, provides, id, fills.mono grows⟩

theorem Includes.called {moment callee : Moment} {expr : Expr}
    (includes : callee.Includes expr) (called : callee ∈ moment.calls) :
    moment.Includes expr := by
  rcases includes with ⟨ctx, target, start, reaches⟩
  exact ⟨ctx, target, start, .head called reaches⟩

theorem Provides.called {moment callee : Moment} {width : PointerWidth}
    {target : Option Ty} {source : Resolved} (provides : callee.Provides width target source)
    (called : callee ∈ moment.calls) : moment.Provides width target source := by
  rcases provides with ⟨ctx, expr, start, ended, reaches, run, same⟩
  exact ⟨ctx, expr, start, ended, .head called reaches, run, same⟩

theorem Supplies.called {moment callee : Moment} {after : State} {entry : Nat × Ty}
    (supplies : callee.Supplies after entry) (called : callee ∈ moment.calls) :
    moment.Supplies after entry := by
  rcases supplies with ⟨source, width, target, provides, id, fills⟩
  exact ⟨source, width, target, provides.called called, id, fills⟩

end Moment

namespace Analysis

theorem run_discard_eq_ok {α : Type} {computation : Analysis α} {before after : State} :
    (Functor.discard computation).run before = .ok () after ↔
      ∃ value, computation.run before = .ok value after := by
  change (computation >>= fun _ => pure ()).run before = .ok () after ↔ _
  rw [run_bind_eq_ok]
  constructor
  · rintro ⟨value, middle, run, ⟨⟩⟩
    exact ⟨value, run⟩
  · rintro ⟨value, run⟩
    exact ⟨value, after, run, rfl⟩

theorem discard_bind {α β : Type} (computation : Analysis α) (next : Unit → Analysis β) :
    Functor.discard computation >>= next = computation >>= fun _ => next () :=
  bind_assoc computation (fun _ => pure ()) next

theorem leading_bind {α β : Type} (first : Analysis α) (next : α → Analysis β)
    (state : State) (later : β → State → List Moment) :
    (first >>= next).leading state later =
      first.leading state fun value middle => (next value).leading middle later := by
  unfold Analysis.leading
  rw [run_bind]
  cases first.run state with
  | ok => rfl
  | error => rfl

theorem idle_identifier (name : Ident) : (identifier name).Idle := by
  unfold identifier
  apply (Idle.read _).bind
  intro table
  split
  · exact (Idle.read _).bind fun _ => .of_reporting (reporting_refuse _ _)
  · split
    · exact (Idle.report _ _).bind fun _ => .pure _
    · exact .pure _

/-- What is reported stays reported. -/
theorem reports_ne_nil {α : Type} {position : Position} {finding : Finding}
    {next : Unit → Analysis α} {before after : State} {value : α}
    (run : (report position finding >>= next).run before = .ok value after) :
    after.reports ≠ [] := by
  rcases run_bind_eq_ok.mp run with ⟨_, middle, ⟨⟩, ended⟩
  have told := ((next ()).grows_of_ok ended).reports
  intro quiet
  rw [quiet, List.prefix_nil] at told
  simp at told

/-- A computation that ends comes to the given moments, one after the other, and adds no
slot that they do not supply. Where nothing is reported, they include the resolution of all
of the given expressions. -/
structure Visits {α : Type} (computation : Analysis α) (before : State) (calls : List Moment)
    (parts : List Expr) : Prop where
  ended : ∀ {value after}, computation.run before = .ok value after →
    ∀ callee ∈ calls, callee.EndsBy after
  ordered : ∀ {value after}, computation.run before = .ok value after →
    before.Precedes calls ∧ calls.Pairwise fun earlier later => earlier.EndsBy later.state
  supplied : ∀ {value after}, computation.run before = .ok value after →
    ∀ entry ∈ after.slots, entry ∈ before.slots ∨
      ∃ callee ∈ calls, callee.Supplies after entry
  covered : ∀ {value after}, computation.run before = .ok value after → after.reports = [] →
    ∀ part ∈ parts, ∃ callee ∈ calls, callee.Includes part

namespace Visits

open State

variable {α β : Type} {computation : Analysis α} {before : State} {calls : List Moment}
  {parts more : List Expr} {first : Analysis α} {next : α → Analysis β}
  {later : α → State → List Moment}

/-- What does not end. -/
theorem never (stops : ∀ {value after}, computation.run before ≠ .ok value after) :
    computation.Visits before calls parts :=
  ⟨fun run => absurd run stops, fun run => absurd run stops, fun run => absurd run stops,
    fun run => absurd run stops⟩

theorem none (idle : computation.Idle) : computation.Visits before [] [] where
  ended _ := List.forall_mem_nil _
  ordered _ := ⟨.nil, .nil⟩
  supplied run _ member := .inl (idle.of_run run ▸ member)
  covered _ _ := List.forall_mem_nil _

theorem malformed (position : Position) (defect : Defect) (next : β → Analysis α) :
    (Analysis.malformed position defect >>= next).Visits before calls parts :=
  never nofun

/-- After a report nothing has to be covered. -/
theorem reported (position : Position) (finding : Finding) {next : Unit → Analysis β}
    (idle : (next ()).Idle) : (report position finding >>= next).Visits before [] parts where
  ended _ := List.forall_mem_nil _
  ordered _ := ⟨.nil, .nil⟩
  supplied run _ member :=
    .inl (((Idle.report position finding).bind fun _ => idle).of_run run ▸ member)
  covered run quiet := absurd quiet (reports_ne_nil run)

theorem bind (visits : first.Visits before calls parts)
    (rest : ∀ value middle, first.run before = .ok value middle →
      (next value).Visits middle (later value middle) more) :
    (first >>= next).Visits before (calls ++ first.leading before later) (parts ++ more) := by
  have leading : ∀ {value middle}, first.run before = .ok value middle →
      first.leading before later = later value middle := by
    intro value middle started
    unfold Analysis.leading
    rw [started]
  constructor
  · intro result after run callee member
    rcases run_bind_eq_ok.mp run with ⟨value, middle, started, ended⟩
    rcases List.mem_append.mp member with here | there
    · exact (visits.ended started callee here).mono ((next value).grows_of_ok ended)
    · exact (rest value middle started).ended ended callee (leading started ▸ there)
  · intro result after run
    rcases run_bind_eq_ok.mp run with ⟨value, middle, started, ended⟩
    rcases visits.ordered started with ⟨precedes, ordered⟩
    rcases (rest value middle started).ordered ended with ⟨followed, orderedLater⟩
    rw [leading started]
    refine ⟨precedes.append (.later (first.grows_of_ok started) followed), ?_⟩
    refine List.pairwise_append.mpr ⟨ordered, orderedLater, ?_⟩
    intro earlier here late there
    exact (visits.ended started earlier here).mono (followed.grows late there)
  · intro result after run entry member
    rcases run_bind_eq_ok.mp run with ⟨value, middle, started, ended⟩
    have grows := (next value).grows_of_ok ended
    rw [leading started]
    rcases (rest value middle started).supplied ended entry member with
      earlier | ⟨callee, there, supplies⟩
    · rcases visits.supplied started entry earlier with older | ⟨callee, here, supplies⟩
      · exact .inl older
      · exact .inr ⟨callee, List.mem_append_left _ here, supplies.mono grows⟩
    · exact .inr ⟨callee, List.mem_append_right _ there, supplies⟩
  · intro result after run quiet part member
    rcases run_bind_eq_ok.mp run with ⟨value, middle, started, ended⟩
    have grows := (next value).grows_of_ok ended
    rw [leading started]
    rcases List.mem_append.mp member with here | there
    · have quietBefore : middle.reports = [] := List.prefix_nil.mp (quiet ▸ grows.reports)
      rcases visits.covered started quietBefore part here with ⟨callee, inside, includes⟩
      exact ⟨callee, List.mem_append_left _ inside, includes⟩
    · rcases (rest value middle started).covered ended quiet part there with
        ⟨callee, inside, includes⟩
      exact ⟨callee, List.mem_append_right _ inside, includes⟩

theorem leading (idle : first.Idle)
    (rest : ∀ value middle, first.run before = .ok value middle →
      (next value).Visits middle (later value middle) more) :
    (first >>= next).Visits before (first.leading before later) more :=
  (none idle).bind rest

theorem cons {moment : Moment} (visits : first.Visits before [moment] parts)
    (rest : ∀ value middle, first.run before = .ok value middle →
      (next value).Visits middle (later value middle) more) :
    (first >>= next).Visits before (moment :: first.leading before later) (parts ++ more) :=
  visits.bind rest

/-- What comes after fills slots with what was provided. -/
theorem filling (visits : first.Visits before calls parts) (width : PointerWidth)
    (target : Option Ty) (sources : α → List Resolved)
    (fills : ∀ value, (next value).FillsFrom width target (sources value))
    (provided : ∀ value middle, first.run before = .ok value middle →
      ∀ source ∈ sources value, ∃ callee ∈ calls, callee.Provides width target source) :
    (first >>= next).Visits before calls parts := by
  constructor
  · intro result after run callee member
    rcases run_bind_eq_ok.mp run with ⟨value, middle, started, ended⟩
    exact (visits.ended started callee member).mono ((next value).grows_of_ok ended)
  · intro result after run
    rcases run_bind_eq_ok.mp run with ⟨value, middle, started, ended⟩
    exact visits.ordered started
  · intro result after run entry member
    rcases run_bind_eq_ok.mp run with ⟨value, middle, started, ended⟩
    rcases (fills value).slots ended entry member with
      earlier | ⟨source, given, asked, rfl, id, filled⟩
    · rcases visits.supplied started entry earlier with older | ⟨callee, here, supplies⟩
      · exact .inl older
      · exact .inr ⟨callee, here, supplies.mono ((next value).grows_of_ok ended)⟩
    · rcases provided value middle started source given with ⟨callee, here, provides⟩
      exact .inr ⟨callee, here, source, width, asked, provides, id, filled⟩
  · intro result after run quiet part member
    rcases run_bind_eq_ok.mp run with ⟨value, middle, started, ended⟩
    have grows := (next value).grows_of_ok ended
    have quietBefore : middle.reports = [] := List.prefix_nil.mp (quiet ▸ grows.reports)
    exact visits.covered started quietBefore part member

/-- What comes after adds nothing. -/
theorem ending (visits : first.Visits before calls parts)
    (idle : ∀ value, (next value).Idle) : (first >>= next).Visits before calls parts := by
  have fills : ∀ value, (next value).FillsFrom .bits32 Option.none [] :=
    fun value => .of_idle (idle value)
  exact visits.filling _ _ _ fills fun _ _ _ => List.forall_mem_nil _

theorem discard (visits : computation.Visits before calls parts) :
    (Functor.discard computation).Visits before calls parts :=
  visits.ending fun _ => .pure _

theorem reading {view : State → α} (visits : (next (view before)).Visits before calls parts) :
    (Analysis.read view >>= next).Visits before calls parts :=
  ⟨visits.ended, visits.ordered, visits.supplied, visits.covered⟩

theorem required {condition : Prop} [Decidable condition] {rest : Unit → Analysis α}
    {position : Position} {defect : Defect}
    (visits : (rest ()).Visits before calls parts) :
    (if condition then Analysis.malformed position defect >>= rest else rest ()).Visits before
      (if condition then [] else calls) parts := by
  split
  · exact malformed _ _ _
  · exact visits

/-- A scope is opened before and left after. -/
theorem withScope (kind : ScopeKind)
    (visits : computation.Visits { before with table := before.table.enter kind } calls parts) :
    (Analysis.withScope kind computation).Visits before calls parts := by
  have left : ∀ inner : State, inner.GrowsTo { inner with table := inner.table.exit } :=
    fun _ => ⟨List.prefix_rfl, List.suffix_rfl, List.suffix_rfl⟩
  constructor
  · intro value after run callee member
    rcases exists_of_run_withScope run with ⟨inner, ended, rfl⟩
    exact (visits.ended ended callee member).mono (left inner)
  · intro value after run
    rcases exists_of_run_withScope run with ⟨inner, ended, rfl⟩
    rcases visits.ordered ended with ⟨precedes, ordered⟩
    exact ⟨.entered kind precedes, ordered⟩
  · intro value after run entry member
    rcases exists_of_run_withScope run with ⟨inner, ended, rfl⟩
    rcases visits.supplied ended entry member with older | ⟨callee, here, supplies⟩
    · exact .inl older
    · exact .inr ⟨callee, here, supplies.mono (left inner)⟩
  · intro value after run quiet part member
    rcases exists_of_run_withScope run with ⟨inner, ended, rfl⟩
    exact visits.covered ended quiet part member

/-- What comes to the moments after a moment comes to that moment itself. -/
theorem task {task : Task} (visits : computation.Visits before (Moment.calls ⟨task, before⟩)
      parts)
    (outcome : ∀ {value after}, computation.run before = .ok value after →
      task.run.run before = .ok () after) :
    computation.Visits before [⟨task, before⟩] parts := by
  constructor
  · intro value after run callee member
    rcases List.mem_singleton.mp member with rfl
    exact ⟨after, outcome run, .refl after⟩
  · intro value after run
    exact ⟨.one, List.pairwise_singleton _ _⟩
  · intro value after run entry member
    rcases visits.supplied run entry member with older | ⟨callee, called, supplies⟩
    · exact .inl older
    · exact .inr ⟨_, List.mem_singleton_self _, supplies.called called⟩
  · intro value after run quiet part member
    rcases visits.covered run quiet part member with ⟨callee, called, includes⟩
    exact ⟨_, List.mem_singleton_self _, includes.called called⟩

end Visits

end Analysis

/-! ## Resolution of one expression -/

/-- The resolution of an expression comes to the moments inside of it, and notes its type
when it is done with them. -/
inductive Expr.Visited (ctx : Context) (target : Option Ty) (before : State) (expr : Expr) :
    Prop
  | missing (stops : ∀ {operand after},
      (expr.resolve ctx target).run before ≠ .ok operand after)
  | recorded {inside : Analysis Operand}
      (same : expr.resolve ctx target = recorded expr.node inside)
      (visits : inside.Visits before (expr.calls ctx target before) expr.inner)

namespace Expr.Visited

open Visits

variable {ctx : Context} {target : Option Ty} {before : State} {expr : Expr}

theorem inner (visited : expr.Visited ctx target before) :
    (expr.resolve ctx target).Visits before (expr.calls ctx target before) expr.inner := by
  cases visited with
  | missing stops => exact .never stops
  | recorded same visits =>
      rw [same]
      exact visits.ending fun _ => (Idle.record _ _).bind fun _ => .pure _

theorem moment (visited : expr.Visited ctx target before) :
    (expr.resolve ctx target).Visits before [⟨.expr ctx target expr, before⟩]
      (expr.followedBy expr.inner) := by
  have inside : (expr.resolve ctx target).Visits before [⟨.expr ctx target expr, before⟩]
      expr.inner := visited.inner.task fun run => run_discard_eq_ok.mpr ⟨_, run⟩
  refine ⟨inside.ended, inside.ordered, inside.supplied, ?_⟩
  intro value after run quiet part member
  unfold Expr.followedBy at member
  split at member
  · cases member
  · rcases List.mem_cons.mp member with rfl | within
    · exact ⟨_, List.mem_singleton_self _, ctx, target, before, .refl⟩
    · exact inside.covered run quiet part within

/-- The value fills slots of the type that was asked for. -/
theorem filling {α : Type} {next : Operand → Analysis α} (visited : expr.Visited ctx target before)
    (fills : ∀ operand, (next operand).FillsFrom ctx.width target [⟨expr.node, operand⟩]) :
    (expr.resolve ctx target >>= next).Visits before [⟨.expr ctx target expr, before⟩]
      (expr.followedBy expr.inner) := by
  apply visited.moment.filling _ _ _ fills
  intro operand middle run source member
  rcases List.mem_singleton.mp member with rfl
  exact ⟨_, List.mem_singleton_self _, ctx, expr, before, middle, .refl, run, rfl, rfl⟩

/-- Two values fill the slot that both of them are asked for. -/
theorem unified {other : Expr} (visited : expr.Visited ctx target before)
    (rest : ∀ middle, other.Visited ctx target middle) :
    (do
      let first ← expr.resolve ctx target
      let second ← other.resolve ctx target
      unifyBranches ctx [⟨expr.node, first⟩, ⟨other.node, second⟩] target).Visits before
        (⟨.expr ctx target expr, before⟩ ::
          (expr.resolve ctx target).leading before fun _ middle =>
            [⟨.expr ctx target other, middle⟩])
        (expr.followedBy expr.inner ++ other.followedBy other.inner) := by
  have both := visited.moment.cons fun first middle _ =>
    (rest middle).moment.ending fun second => Idle.pure (first, second)
  have visits := both.filling ctx.width target
    (fun values => [⟨expr.node, values.1⟩, ⟨other.node, values.2⟩])
    (fun values => fillsFrom_unifyBranches ctx _ target) ?_
  · simpa only [bind_assoc, pure_bind] using visits
  · intro values after run source member
    rcases run_bind_eq_ok.mp run with ⟨first, middle, ranFirst, rest⟩
    rcases run_bind_eq_ok.mp rest with ⟨second, _, ranSecond, ⟨⟩⟩
    unfold Analysis.leading
    rw [ranFirst]
    rcases List.mem_cons.mp member with rfl | member
    · exact ⟨_, List.mem_cons_self, ctx, expr, before, middle, .refl, ranFirst, rfl, rfl⟩
    · rcases List.mem_singleton.mp member with rfl
      exact ⟨_, List.mem_cons_of_mem _ (List.mem_singleton_self _), ctx, other, middle, after,
        .refl, ranSecond, rfl, rfl⟩

theorem bound (visited : expr.Visited ctx target before) (part : String)
    (earlier : RangeParts) :
    (withBound part earlier expr (expr.resolve ctx target)).Visits before
      (expr.boundCalls ctx target before) (expr.followedBy expr.inner) := by
  unfold withBound Expr.boundCalls
  split
  · next missing =>
      unfold Expr.followedBy
      rw [if_pos missing]
      exact .none (.pure _)
  · exact visited.moment.ending fun _ => .of_reporting (reporting_addBound _ _ _)

end Expr.Visited

namespace Analysis.Visits

variable {before : State} {parts : List Expr} {ctx : Context} {target : Option Ty}

theorem elements {exprs : Exprs}
    (visits : (exprs.resolveAll ctx target).Visits before (exprs.calls ctx target before)
      parts) :
    (exprs.resolveAll ctx target).Visits before [⟨.elements ctx target exprs, before⟩] parts :=
  visits.task fun run => run_discard_eq_ok.mpr ⟨_, run⟩

theorem arguments {signature : Signature} {number : Nat} {parameters : List Parameter}
    {exprs : Exprs}
    (visits : (exprs.resolveArguments ctx signature number parameters).Visits before
      (exprs.argumentCalls ctx signature number parameters before) parts) :
    (exprs.resolveArguments ctx signature number parameters).Visits before
      [⟨.arguments ctx signature number parameters exprs, before⟩] parts :=
  visits.task id

theorem statement {single : Stmt}
    (visits : (single.analyze ctx).Visits before (single.calls ctx before) parts) :
    (single.analyze ctx).Visits before [⟨.statement ctx single, before⟩] parts :=
  visits.task fun run => run_discard_eq_ok.mpr ⟨_, run⟩

theorem statements {sequence : Stmts}
    (visits : (sequence.analyze ctx).Visits before (sequence.calls ctx before) parts) :
    (sequence.analyze ctx).Visits before [⟨.statements ctx sequence, before⟩] parts :=
  visits.task fun run => run_discard_eq_ok.mpr ⟨_, run⟩

end Analysis.Visits

/-! ## The values of a block -/

/-- What a statement gives to its block is the value of a `->` statement, resolved for the
type that the block is asked for. -/
theorem Stmt.provides_branch {ctx : Context} {target : Option Ty}
    (inside : ctx.block = some target) {before after : State} {branch : Resolved}
    {statement : Stmt} (run : (statement.analyze ctx).run before = .ok (some branch) after) :
    Moment.Provides ⟨.statement ctx statement, before⟩ ctx.width target branch := by
  cases statement with
  | yielding node value =>
      unfold Stmt.analyze at run
      rw [inside] at run
      dsimp only at run
      split at run
      · cases run
      · next present =>
          rcases run_bind_eq_ok.mp run with ⟨operand, _, resolved, ⟨⟩⟩
          have called : (⟨.expr ctx target value, before⟩ : Moment) ∈
              (Stmt.yielding node value).calls ctx before := by
            unfold Stmt.calls
            dsimp only
            rw [if_neg present, inside]
            exact List.mem_singleton_self _
          exact ⟨ctx, value, before, after, .single called, resolved, rfl, rfl⟩
  | _ => cases (Stmt.silent ctx rfl).none_of_run run

theorem Stmts.provides_branches {ctx : Context} {target : Option Ty}
    (inside : ctx.block = some target) {before after : State} {branches : List Resolved}
    (statements : Stmts) (run : (statements.analyze ctx).run before = .ok branches after) :
    ∀ branch ∈ branches,
      Moment.Provides ⟨.statements ctx statements, before⟩ ctx.width target branch := by
  cases statements with
  | nil =>
      cases run
      exact List.forall_mem_nil _
  | cons head tail =>
      unfold Stmts.analyze at run
      rcases run_bind_eq_ok.mp run with ⟨first, middle, started, rest⟩
      rcases run_bind_eq_ok.mp rest with ⟨others, late, followed, ⟨⟩⟩
      intro branch member
      have calls : Moment.calls ⟨.statements ctx (.cons head tail), before⟩ =
          [⟨.statement ctx head, before⟩, ⟨.statements ctx tail, middle⟩] := by
        unfold Moment.calls Stmts.calls Analysis.leading
        dsimp only
        rw [started]
      rcases List.mem_append.mp member with here | there
      · rcases Option.mem_toList.mp here with rfl
        exact (Stmt.provides_branch inside started).called (by simp [calls])
      · exact (tail.provides_branches inside followed branch there).called (by simp [calls])

/-- The values that a block gives fill the slot that the block is asked for. -/
theorem Analysis.Visits.blockValue {ctx : Context} {target : Option Ty} {before : State}
    {statements : Stmts} {parts : List Expr}
    (visits : (statements.analyze (ctx.inBlock target)).Visits
      { before with table := before.table.enter .block }
      (statements.calls (ctx.inBlock target)
        { before with table := before.table.enter .block }) parts) :
    (Analysis.blockValue ctx target (statements.analyze (ctx.inBlock target))).Visits before
      [⟨.statements (ctx.inBlock target) statements,
        { before with table := before.table.enter .block }⟩] parts := by
  apply Visits.withScope
  refine visits.statements.filling ctx.width target id ?_ ?_
  · intro branches
    split
    · exact .of_idle (.pure _)
    · exact fillsFrom_unifyBranches ctx _ target
  · intro branches middle run branch member
    exact ⟨_, List.mem_singleton_self _, statements.provides_branches rfl run branch member⟩

/-! ## Every part is resolved -/

mutual

theorem Expr.visits (ctx : Context) (target : Option Ty) (before : State) :
    (expr : Expr) → expr.Visited ctx target before
  | .missing => .missing nofun
  | .int node text =>
      .recorded rfl (.none (.of_reporting (reporting_integerLiteral node text)))
  | .float node text =>
      .recorded rfl (.none (.of_reporting (reporting_floatLiteral node text)))
  | .bool _ _ => .recorded rfl (.none (.pure _))
  | .string _ _ => .recorded rfl (.none (.pure _))
  | .undef node => .recorded rfl (.none (.of_reporting (reporting_refuse node.position _)))
  | .ident name => .recorded rfl (.none (idle_identifier name))
  | .prefixOp node operator right => by
      refine .recorded (by unfold Expr.resolve; rfl) ?_
      unfold Expr.calls Expr.inner
      apply (right.visits ctx target before).moment.ending
      exact fun operand => .of_reporting (reporting_prefixed node operator operand)
  | .infixOp node left operator right => by
      refine .recorded (by unfold Expr.resolve; rfl) ?_
      unfold Expr.calls Expr.inner
      dsimp only
      cases InfixOp.ofSymbol? operator with
      | none => exact .never nofun
      | some op =>
          refine (left.visits ctx _ before).moment.cons fun _ middle _ => ?_
          apply (right.visits ctx _ middle).moment.ending
          exact fun _ => .of_reporting (reporting_infixed _ _ _ _ _ _ _)
  | .conversion node value type => by
      refine .recorded (by unfold Expr.resolve; rfl) ?_
      unfold Expr.calls Expr.inner
      apply Visits.required
      refine .leading (.of_reporting type.reporting_resolve) fun _ middle _ => ?_
      apply (value.visits ctx none middle).moment.ending
      exact fun _ => .of_reporting (reporting_converted _ _ _ _)
  | .array node items => by
      refine .recorded (by unfold Expr.resolve; rfl) ?_
      unfold Expr.calls Expr.inner
      apply (items.visits ctx (elementTarget target) before).elements.ending
      exact fun _ => .of_reporting (reporting_arrayLiteral _ _ _ _)
  | .range node start stop step inclusive => by
      refine .recorded (by unfold Expr.resolve; rfl) ?_
      unfold Expr.calls Expr.inner
      refine .leading (.of_reporting (reporting_startParts _ _)) fun parts begun _ => ?_
      refine ((start.visits ctx _ begun).bound _ _).bind fun started middle _ => ?_
      refine ((stop.visits ctx _ middle).bound _ _).bind fun stopped late _ => ?_
      apply ((step.visits ctx _ late).bound _ _).ending
      exact fun _ => .of_reporting (reporting_rangeLiteral _ _ _ _ _ _ _)
  | .index node left index => by
      refine .recorded (by unfold Expr.resolve; rfl) ?_
      unfold Expr.calls Expr.inner
      refine (left.visits ctx none before).moment.cons fun _ middle _ => ?_
      apply (index.visits ctx _ middle).moment.ending
      exact fun _ => .of_reporting (reporting_indexing _ _ _ _)
  | .member node left name => by
      refine .recorded (by unfold Expr.resolve; rfl) ?_
      unfold Expr.calls Expr.inner
      cases name with
      | none => exact .never nofun
      | some name =>
          apply (left.visits ctx none before).moment.ending
          exact fun operand => .of_reporting (reporting_property operand name)
  | .call node callee arguments => by
      refine .recorded (by unfold Expr.resolve; rfl) ?_
      unfold Expr.calls Expr.inner
      cases callee with
      | none => exact .never nofun
      | some callee =>
          apply Visits.reading
          dsimp only
          cases before.table.function? callee.name with
          | some signature =>
              refine .leading (.of_reporting (reporting_requireArity _ _ _)) fun _ middle _ => ?_
              apply (arguments.visitsArguments ctx signature 1 _ middle).arguments.ending
              exact fun _ => .pure _
          | none =>
              apply Visits.reading
              refine .leading (.report _ _) fun _ middle _ => ?_
              exact (arguments.visits ctx none middle).elements.discard.ending fun _ => .pure _
  | .block node statements => by
      refine .recorded (by unfold Expr.resolve; rfl) ?_
      unfold Expr.calls Expr.inner
      exact (statements.visits (ctx.inBlock target) _).blockValue
  | .conditional node condition consequence alternative => by
      refine .recorded (by unfold Expr.resolve; rfl) ?_
      unfold Expr.calls Expr.inner
      refine (condition.visits ctx (some .bool) before).moment.cons fun _ tested _ => ?_
      refine .leading (.of_reporting (reporting_requireCondition _)) fun _ begun _ => ?_
      apply Visits.required
      rw [← Body.parts_toExpr, ← Body.resolve_toExpr]
      split
      · next missing =>
          unfold Expr.followedBy
          rw [if_pos missing]
          exact (consequence.visits ctx target begun).moment.cons fun _ _ _ => .none (.pure _)
      · rw [← Body.node_toExpr]
        exact (consequence.visits ctx target begun).unified
          fun middle => alternative.visits ctx target middle

theorem Exprs.visits (ctx : Context) (target : Option Ty) (before : State) :
    (exprs : Exprs) →
      (exprs.resolveAll ctx target).Visits before (exprs.calls ctx target before) exprs.parts
  | .nil => .none (.pure _)
  | .cons head tail => by
      unfold Exprs.resolveAll Exprs.calls Exprs.parts
      refine (head.visits ctx target before).moment.cons fun _ middle _ => ?_
      exact (tail.visits ctx target middle).elements.ending fun _ => .pure _

theorem Exprs.visitsArguments (ctx : Context) (signature : Signature) (number : Nat)
    (parameters : List Parameter) (before : State) :
    (exprs : Exprs) → (exprs.resolveArguments ctx signature number parameters).Visits before
      (exprs.argumentCalls ctx signature number parameters before) exprs.parts
  | .nil => .none (.pure _)
  | .cons head tail => by
      unfold Exprs.resolveArguments Exprs.argumentCalls Exprs.parts
      dsimp only
      cases parameters with
      | nil =>
          rw [discard_bind]
          refine (head.visits ctx none before).moment.cons fun _ middle _ => ?_
          exact (tail.visitsArguments ctx signature (number + 1) [] middle).arguments
      | cons parameter parameters =>
          have visits := ((head.visits ctx parameter.type before).filling fun operand =>
            fillsFrom_materialize? ctx parameter.type
              (argumentLabel number parameter signature) (List.mem_singleton_self _)).cons
            fun _ filled _ =>
              (tail.visitsArguments ctx signature (number + 1) parameters filled).arguments
          rwa [bind_assoc, leading_bind] at visits

theorem Body.visits (ctx : Context) (target : Option Ty) (before : State) :
    (body : Body) → body.toExpr.Visited ctx target before
  | .missing => .missing nofun
  | .block node statements => by
      refine .recorded (by unfold Body.toExpr Expr.resolve; rfl) ?_
      unfold Body.toExpr Expr.calls Expr.inner
      exact (statements.visits (ctx.inBlock target) _).blockValue

theorem Stmts.visits (ctx : Context) (before : State) :
    (statements : Stmts) →
      (statements.analyze ctx).Visits before (statements.calls ctx before) statements.parts
  | .nil => .none (.pure _)
  | .cons head tail => by
      unfold Stmts.analyze Stmts.calls Stmts.parts
      refine (head.visits ctx before).statement.cons fun _ middle _ => ?_
      exact (tail.visits ctx middle).statements.ending fun _ => .pure _

theorem Stmt.visits (ctx : Context) (before : State) :
    (statement : Stmt) →
      (statement.analyze ctx).Visits before (statement.calls ctx before) statement.parts
  | .missing => .never nofun
  | .declaration node isMutable name type value => by
      unfold Stmt.analyze Stmt.calls Stmt.parts
      cases name with
      | none => exact .never nofun
      | some name =>
          apply Visits.required
          refine .leading (.of_reporting (reporting_declaredType _ _)) fun declared middle _ => ?_
          dsimp only
          split
          · exact .none ((idle_bindUndef _ _ _ _).bind fun _ => .pure _)
          · apply (value.visits ctx declared middle).filling
            intro operand
            apply FillsFrom.ending
            · exact fillsFrom_bindValue ctx _ _ _ (List.mem_singleton_self _)
            · exact fun _ => .pure _
  | .assignment node name value => by
      unfold Stmt.analyze Stmt.calls Stmt.parts
      cases name with
      | none => exact .never nofun
      | some name =>
          apply Visits.required
          apply Visits.reading
          dsimp only
          cases before.table.lookup? name.name with
          | none =>
              refine .leading (.report _ _) fun _ middle _ => ?_
              exact (value.visits ctx none middle).moment.discard.ending fun _ => .pure _
          | some symbol =>
              refine .leading (idle_requireMutable _ _) fun _ middle _ => ?_
              apply (value.visits ctx symbol.type middle).filling
              intro operand
              apply FillsFrom.ending
              · exact fillsFrom_assign ctx _ _ (List.mem_singleton_self _)
              · exact fun _ => .pure _
  | .returning node value => by
      unfold Stmt.analyze Stmt.calls Stmt.parts
      dsimp only
      cases missing : value.isMissing with
      | true =>
          unfold Expr.followedBy
          rw [if_pos missing]
          apply Visits.none
          cases ctx.function with
          | none => exact (Idle.report _ _).bind fun _ => .pure _
          | some signature =>
              refine Idle.bind ⟨fun _ => rfl⟩ fun _ => ?_
              split
              · exact .pure _
              · exact (Idle.report _ _).bind fun _ => .pure _
      | false =>
          rw [if_neg Bool.false_ne_true]
          cases ctx.function with
          | none =>
              refine .leading (.report _ _) fun _ middle _ => ?_
              exact (value.visits ctx none middle).moment.discard.ending fun _ => .pure _
          | some signature =>
              refine .leading ⟨fun _ => rfl⟩ fun _ middle _ => ?_
              cases void : signature.resultType.isVoid with
              | true =>
                  rw [Option.filter_some, void]
                  apply (value.visits ctx none middle).moment.ending
                  intro operand
                  apply Idle.bind
                  · exact .of_reporting (reporting_requireNoValue _ _)
                  · exact fun _ => .pure _
              | false =>
                  rw [Option.filter_some, void]
                  apply (value.visits ctx (some signature.resultType) middle).filling
                  intro operand
                  apply FillsFrom.ending
                  · exact (fillsFrom_materialize ctx _ _ (List.mem_singleton_self _)).discard
                  · exact fun _ => .pure _
  | .yielding node value => by
      unfold Stmt.analyze Stmt.calls Stmt.parts
      apply Visits.required
      cases ctx.block with
      | none =>
          refine .leading (.report _ _) fun _ middle _ => ?_
          exact (value.visits ctx none middle).moment.discard.ending fun _ => .pure _
      | some target =>
          exact (value.visits ctx target before).moment.ending fun _ => .pure _
  | .expression node value => by
      unfold Stmt.analyze Stmt.calls Stmt.parts
      exact (value.visits ctx none before).moment.discard.ending fun _ => .pure _
  | .function node name parameters result body => by
      unfold Stmt.analyze Stmt.calls
      dsimp only
      split
      · exact .reported _ _ (.pure _)
      · refine .leading (idle_signatureOf _ _ _ _ _) fun signature read _ => ?_
        refine Visits.ending (.withScope _ ?_) fun _ => .pure _
        refine .leading (idle_declareParameters _ _ _ _) fun _ bound _ => ?_
        refine .leading ⟨fun _ => rfl⟩ fun _ begun _ => ?_
        refine Visits.ending ?_ fun _ => idle_requireReturn _ _
        cases body with
        | missing =>
            unfold Stmt.parts
            exact .none (.pure _)
        | block node statements =>
            unfold Stmt.parts
            exact (statements.visits _ begun).statements.discard

end

/-! ## Moments of an analysis that ends -/

theorem Moment.visits_calls (moment : Moment) :
    ∃ parts, moment.task.run.Visits moment.state moment.calls parts := by
  rcases moment with ⟨task, state⟩
  cases task with
  | expr ctx target expr => exact ⟨_, (expr.visits ctx target state).inner.discard⟩
  | elements ctx target exprs => exact ⟨_, (exprs.visits ctx target state).discard⟩
  | arguments ctx signature number parameters exprs =>
      exact ⟨_, exprs.visitsArguments ctx signature number parameters state⟩
  | statement ctx statement => exact ⟨_, (statement.visits ctx state).discard⟩
  | statements ctx statements => exact ⟨_, (statements.visits ctx state).discard⟩

/-- Where a moment ends, so does every moment that it comes to. -/
theorem Moment.EndsBy.reaches {first moment : Moment} {after : State}
    (ends : first.EndsBy after) (reaches : first.Reaches moment) : moment.EndsBy after := by
  induction reaches with
  | refl => exact ends
  | @tail caller callee _ called induction =>
      rcases induction with ⟨ended, run, grows⟩
      rcases caller.visits_calls with ⟨parts, visits⟩
      exact (visits.ended run callee called).mono grows

namespace Program

variable {policy : BranchPolicy} {width : PointerWidth} {program : Program} {state : State}

theorem visits (ctx : Context) (program : Program) :
    (program.analyze ctx .full).Visits (.ofTable .empty) (program.calls ctx .full)
      program.parts := by
  refine .leading (idle_declareFunctions _) fun _ middle _ => ?_
  exact (program.statements.visits ctx middle).statements.discard

theorem endsBy_of_meets {moment : Moment}
    (run : (program.analyze (.start policy width) .full).run (.ofTable .empty)
      = .ok () state)
    (meets : program.Meets (.start policy width) .full moment) : moment.EndsBy state := by
  rcases meets with ⟨first, called, reaches⟩
  exact ((program.visits _).ended run first called).reaches reaches

/-- Where nothing is reported, every expression is resolved. -/
theorem meets_of_mem_parts
    (run : (program.analyze (.start policy width) .full).run (.ofTable .empty)
      = .ok () state)
    (quiet : state.reports = []) {part : Expr} (member : part ∈ program.parts) :
    ∃ ctx target start,
      program.Meets (.start policy width) .full ⟨.expr ctx target part, start⟩ := by
  rcases (program.visits _).covered run quiet part member with
    ⟨first, called, ctx, target, start, reaches⟩
  exact ⟨ctx, target, start, first, called, reaches⟩

end Program

end ComptimeTyping
