import ComptimeTyping.Analysis.Resolve
import ComptimeTyping.Proofs.Computation

/-! What a promise about an analysis may ask of the text of a program: which types, literals,
conversions and joins it is made for. -/

namespace ComptimeTyping

open Analysis

/-! ## The values of a block -/

/-- What a statement gives to the enclosing block. -/
def Stmt.yields : Stmt → List Expr
  | .yielding _ value => [value]
  | _ => []

/-- What statements give to the enclosing block, in order. -/
def Stmts.yields : Stmts → List Expr
  | .nil => []
  | .cons head tail => head.yields ++ tail.yields

/-- Nothing is given to the enclosing block. -/
structure Analysis.Silent (computation : Analysis (Option Resolved)) : Prop where
  none_of_run : ∀ {before after branch}, computation.run before = .ok branch after →
    branch = none

namespace Analysis.Silent

theorem never {computation : Analysis (Option Resolved)}
    (stops : ∀ {before after branch}, computation.run before ≠ .ok branch after) :
    computation.Silent :=
  ⟨fun run => absurd run stops⟩

theorem nothing : (pure none : Analysis (Option Resolved)).Silent := by
  constructor
  intro before after branch run
  cases run
  rfl

theorem after {α : Type} {first : Analysis α} {next : α → Analysis (Option Resolved)}
    (rest : ∀ value, (next value).Silent) : (first >>= next).Silent := by
  constructor
  intro before after branch run
  rcases run_bind_eq_ok.mp run with ⟨value, middle, _, ended⟩
  exact (rest value).none_of_run ended

end Analysis.Silent

theorem Stmt.silent {statement : Stmt} (ctx : Context) (silent : statement.yields = []) :
    (statement.analyze ctx).Silent := by
  unfold Stmt.analyze
  cases statement with
  | missing => exact .never nofun
  | yielding => cases silent
  | declaration node isMutable name type value =>
      cases name with
      | none => exact .never nofun
      | some name =>
          dsimp only
          split
          · exact .never nofun
          · apply Silent.after
            intro declared
            split
            · exact .after fun _ => .nothing
            · exact .after fun _ => .after fun _ => .nothing
  | assignment node name value =>
      cases name with
      | none => exact .never nofun
      | some name =>
          dsimp only
          split
          · exact .never nofun
          · apply Silent.after
            intro table
            split
            · exact .after fun _ => .after fun _ => .nothing
            · exact .after fun _ => .after fun _ => .after fun _ => .nothing
  | returning node value =>
      dsimp only
      split
      · apply Silent.after
        intro _
        split
        · exact .after fun _ => .nothing
        · exact .nothing
      · apply Silent.after
        intro _
        split
        · split
          · exact .after fun _ => .after fun _ => .nothing
          · exact .nothing
        · split
          · exact .after fun _ => .nothing
          · exact .after fun _ => .after fun _ => .nothing
  | expression => exact .after fun _ => .nothing
  | function =>
      dsimp only
      split
      · exact .after fun _ => .nothing
      · exact .after fun _ => .after fun _ => .nothing

theorem Stmt.nodes_of_analyze {ctx : Context} (inside : ctx.block.isSome = true)
    {before after : State} {branch : Option Resolved} {statement : Stmt}
    (run : (statement.analyze ctx).run before = .ok branch after) :
    branch.toList.map Resolved.node = statement.yields.map Expr.node := by
  cases statement with
  | yielding node value =>
      rcases Option.isSome_iff_exists.mp inside with ⟨target, found⟩
      unfold Stmt.analyze at run
      rw [found] at run
      dsimp only at run
      split at run
      · cases run
      · rcases run_bind_eq_ok.mp run with ⟨operand, _, _, ⟨⟩⟩
        rfl
  | _ =>
      rw [(Stmt.silent ctx rfl).none_of_run run]
      rfl

/-- The branches of a block are the values that its statements give, in their order. -/
theorem Stmts.nodes_of_analyze {ctx : Context} (inside : ctx.block.isSome = true)
    {before after : State} {branches : List Resolved} {statements : Stmts}
    (run : (statements.analyze ctx).run before = .ok branches after) :
    branches.map Resolved.node = statements.yields.map Expr.node := by
  cases statements with
  | nil =>
      cases run
      rfl
  | cons head tail =>
      unfold Stmts.analyze at run
      rcases run_bind_eq_ok.mp run with ⟨first, middle, started, rest⟩
      rcases run_bind_eq_ok.mp rest with ⟨others, late, followed, ⟨⟩⟩
      rw [Stmts.yields, List.map_append, List.map_append, Stmt.nodes_of_analyze inside started,
        Stmts.nodes_of_analyze inside followed]

/-! ## The items of an array -/

theorem Exprs.length_of_resolveAll {ctx : Context} {target : Option Ty}
    {before after : State} {elements : List Resolved} {exprs : Exprs}
    (run : (exprs.resolveAll ctx target).run before = .ok elements after) :
    elements.length = exprs.length := by
  cases exprs with
  | nil =>
      cases run
      rfl
  | cons head tail =>
      unfold Exprs.resolveAll at run
      rcases run_bind_eq_ok.mp run with ⟨operand, middle, _, rest⟩
      rcases run_bind_eq_ok.mp rest with ⟨others, late, followed, ⟨⟩⟩
      exact congrArg (· + 1) (Exprs.length_of_resolveAll followed)

/-! ## Coverage -/

/-- What is asked of a program, construct by construct. -/
structure Coverage where
  /-- Types as they are written. -/
  type : TypeExpr → Prop
  /-- Array literals, by the number of their items. -/
  array : Nat → Prop
  /-- Range expressions, by the bounds that are written. -/
  range : RangeForm → Prop
  /-- Conversions, by their own node and the node of the value. -/
  conversion : Node → Node → Prop
  /-- Blocks and conditionals, by their own node and the nodes of the values that they join. -/
  join : Node → List Node → Prop

/-- Nothing is asked. -/
def Coverage.everything : Coverage :=
  ⟨fun _ => True, fun _ => True, fun _ => True, fun _ _ => True, fun _ _ => True⟩

mutual

/-- Every part of an expression is covered. -/
def Expr.Within (covers : Coverage) : Expr → Prop
  | .prefixOp _ _ right => right.Within covers
  | .infixOp _ left _ right => left.Within covers ∧ right.Within covers
  | .conversion node value type =>
      covers.type type ∧ covers.conversion node value.node ∧ value.Within covers
  | .array _ items => covers.array items.length ∧ items.Within covers
  | .range _ start stop step inclusive =>
      covers.range ⟨!start.isMissing, !stop.isMissing, !step.isMissing, inclusive⟩ ∧
        start.Within covers ∧ stop.Within covers ∧ step.Within covers
  | .index _ left index => left.Within covers ∧ index.Within covers
  | .member _ left _ => left.Within covers
  | .call _ _ arguments => arguments.Within covers
  | .block node statements =>
      covers.join node (statements.yields.map Expr.node) ∧ statements.Within covers
  | .conditional node condition consequence alternative =>
      (alternative.isMissing = false → covers.join node [consequence.node, alternative.node]) ∧
        condition.Within covers ∧ consequence.Within covers ∧ alternative.Within covers
  | _ => True

def Exprs.Within (covers : Coverage) : Exprs → Prop
  | .nil => True
  | .cons head tail => head.Within covers ∧ tail.Within covers

def Body.Within (covers : Coverage) : Body → Prop
  | .missing => True
  | .block node statements =>
      covers.join node (statements.yields.map Expr.node) ∧ statements.Within covers

def Stmt.Within (covers : Coverage) : Stmt → Prop
  | .declaration _ _ _ type value => covers.type type ∧ value.Within covers
  | .assignment _ _ value => value.Within covers
  | .returning _ value => value.Within covers
  | .yielding _ value => value.Within covers
  | .expression _ value => value.Within covers
  | .function _ _ parameters result body =>
      (∀ parameter ∈ parameters, ∀ written ∈ parameter, covers.type written.type) ∧
        covers.type result ∧ body.Within covers
  | .missing => True

def Stmts.Within (covers : Coverage) : Stmts → Prop
  | .nil => True
  | .cons head tail => head.Within covers ∧ tail.Within covers

end

def Program.Within (covers : Coverage) (program : Program) : Prop :=
  program.statements.Within covers

mutual

theorem Expr.within_everything : (expr : Expr) → expr.Within .everything
  | .prefixOp _ _ right => right.within_everything
  | .infixOp _ left _ right => ⟨left.within_everything, right.within_everything⟩
  | .conversion _ value _ => ⟨trivial, trivial, value.within_everything⟩
  | .array _ items => ⟨trivial, items.within_everything⟩
  | .range _ start stop step _ =>
      ⟨trivial, start.within_everything, stop.within_everything, step.within_everything⟩
  | .index _ left index => ⟨left.within_everything, index.within_everything⟩
  | .member _ left _ => left.within_everything
  | .call _ _ arguments => arguments.within_everything
  | .block _ statements => ⟨trivial, statements.within_everything⟩
  | .conditional _ condition consequence alternative =>
      ⟨fun _ => trivial, condition.within_everything, consequence.within_everything,
        alternative.within_everything⟩
  | .missing | .int _ _ | .float _ _ | .bool _ _ | .string _ _ | .undef _ | .ident _ => trivial

theorem Exprs.within_everything : (exprs : Exprs) → exprs.Within .everything
  | .nil => trivial
  | .cons head tail => ⟨head.within_everything, tail.within_everything⟩

theorem Body.within_everything : (body : Body) → body.Within .everything
  | .missing => trivial
  | .block _ statements => ⟨trivial, statements.within_everything⟩

theorem Stmt.within_everything : (statement : Stmt) → statement.Within .everything
  | .declaration _ _ _ _ value => ⟨trivial, value.within_everything⟩
  | .assignment _ _ value => value.within_everything
  | .returning _ value => value.within_everything
  | .yielding _ value => value.within_everything
  | .expression _ value => value.within_everything
  | .function _ _ _ _ body => ⟨fun _ _ _ _ => trivial, trivial, body.within_everything⟩
  | .missing => trivial

theorem Stmts.within_everything : (statements : Stmts) → statements.Within .everything
  | .nil => trivial
  | .cons head tail => ⟨head.within_everything, tail.within_everything⟩

end

theorem Program.within_everything (program : Program) : program.Within .everything :=
  program.statements.within_everything

end ComptimeTyping
