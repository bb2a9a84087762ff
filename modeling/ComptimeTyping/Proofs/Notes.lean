import Mathlib.Data.List.Perm.Subperm
import ComptimeTyping.Analysis.Unit
import ComptimeTyping.Proofs.Reporting

/-! Which nodes of a program get a type. An analysis that ends notes the type of
every expression that it looks at, and of no node more often than the node occurs
in the program. -/

namespace ComptimeTyping

/-! ## The nodes of a program -/

/-- What a node stands for where it occurs. -/
inductive NodeRole where
  | expression
  /-- A name that a declaration binds. -/
  | declared
  /-- A name that is assigned, called or accessed, or of a function or parameter. -/
  | name
  /-- The `undef` of a declaration. -/
  | initializer
  /-- The block that is the body of a function. -/
  | body
  /-- Part of a function that is not declared at the top level. -/
  | unread
deriving DecidableEq, Repr

/-- A node where it occurs. -/
structure Occurrence where
  id : Nat
  role : NodeRole
deriving DecidableEq, Repr

namespace Occurrence

def unread (node : Occurrence) : Occurrence :=
  { node with role := .unread }

/-- A node whose type has to be noted. A declared name gets no type where its
declaration is refused, so only an analysis that reports nothing notes all of them. -/
inductive Needed (quiet : Prop) (node : Occurrence) : Prop where
  | expression (role : node.role = .expression)
  | declared (role : node.role = .declared) (silent : quiet)

/-- A node that may be left without a type. -/
structure Spare (node : Occurrence) : Prop where
  notExpression : node.role ≠ .expression
  notDeclared : node.role ≠ .declared

theorem Needed.mono {quiet earlier : Prop} {node : Occurrence} (needed : node.Needed quiet)
    (implied : quiet → earlier) : node.Needed earlier := by
  cases needed with
  | expression role => exact .expression role
  | declared role silent => exact .declared role (implied silent)

theorem Spare.not_needed {quiet : Prop} {node : Occurrence} (spare : node.Spare) :
    ¬node.Needed quiet := by
  intro needed
  cases needed with
  | expression role => exact spare.notExpression role
  | declared role silent => exact spare.notDeclared role

end Occurrence

def nameNodes (role : NodeRole) (name : Option Ident) : List Occurrence :=
  (name.map fun name => ⟨name.node.id, role⟩).toList

def parameterNodes (parameters : List (Option ParameterExpr)) : List Occurrence :=
  parameters.flatMap fun parameter => nameNodes .name (parameter.bind ParameterExpr.name)

mutual

def Expr.nodes : Expr → List Occurrence
  | .missing => []
  | .int node _ => [⟨node.id, .expression⟩]
  | .float node _ => [⟨node.id, .expression⟩]
  | .bool node _ => [⟨node.id, .expression⟩]
  | .string node _ => [⟨node.id, .expression⟩]
  | .undef node => [⟨node.id, .expression⟩]
  | .ident name => [⟨name.node.id, .expression⟩]
  | .prefixOp node _ right => ⟨node.id, .expression⟩ :: right.nodes
  | .infixOp node left _ right => ⟨node.id, .expression⟩ :: (left.nodes ++ right.nodes)
  | .conversion node value _ => ⟨node.id, .expression⟩ :: value.nodes
  | .array node items => ⟨node.id, .expression⟩ :: items.nodes
  | .range node start stop step _ =>
      ⟨node.id, .expression⟩ :: (start.nodes ++ (stop.nodes ++ step.nodes))
  | .index node left index => ⟨node.id, .expression⟩ :: (left.nodes ++ index.nodes)
  | .member node left name => ⟨node.id, .expression⟩ :: (nameNodes .name name ++ left.nodes)
  | .call node callee arguments =>
      ⟨node.id, .expression⟩ :: (nameNodes .name callee ++ arguments.nodes)
  | .block node statements => ⟨node.id, .expression⟩ :: statements.nodes
  | .conditional node condition consequence alternative =>
      ⟨node.id, .expression⟩ ::
        (condition.nodes ++ (consequence.nodes ++ alternative.nodes))

def Exprs.nodes : Exprs → List Occurrence
  | .nil => []
  | .cons head tail => head.nodes ++ tail.nodes

def Body.nodes : Body → List Occurrence
  | .missing => []
  | .block node statements => ⟨node.id, .expression⟩ :: statements.nodes

def Stmt.nodes : Stmt → List Occurrence
  | .missing => []
  | .declaration _ _ name _ value =>
      (if value.isUndef then [⟨value.node.id, .initializer⟩] else value.nodes)
        ++ nameNodes .declared name
  | .assignment _ name value => value.nodes ++ nameNodes .name name
  | .returning _ value => value.nodes
  | .yielding _ value => value.nodes
  | .expression _ value => value.nodes
  | .function _ name parameters _ body =>
      (nameNodes .name name ++ parameterNodes parameters ++ body.nodes).map Occurrence.unread

def Stmts.nodes : Stmts → List Occurrence
  | .nil => []
  | .cons head tail => head.nodes ++ tail.nodes

end

/-- The nodes of a body that belongs to a function of the top level. -/
def Body.functionNodes : Body → List Occurrence
  | .missing => []
  | .block node statements => ⟨node.id, .body⟩ :: statements.nodes

/-- The nodes of statements at the top level, where functions are looked into. -/
def Stmts.topNodes : Stmts → List Occurrence
  | .nil => []
  | .cons (.function _ name parameters _ body) tail =>
      (nameNodes .name name ++ parameterNodes parameters ++ body.functionNodes) ++ tail.topNodes
  | .cons head tail => head.nodes ++ tail.topNodes

def Program.nodes (program : Program) : List Occurrence :=
  program.statements.topNodes

theorem Expr.nodes_of_isMissing {expr : Expr} (missing : expr.isMissing = true) :
    expr.nodes = [] := by
  cases expr with
  | missing => rfl
  | _ => cases missing

theorem spare_of_mem_singleton {id : Nat} {role : NodeRole} (notExpression : role ≠ .expression)
    (notDeclared : role ≠ .declared) : ∀ node ∈ [(⟨id, role⟩ : Occurrence)], node.Spare := by
  intro node member
  rcases List.mem_singleton.mp member with rfl
  exact ⟨notExpression, notDeclared⟩

theorem spare_of_mem_nameNodes {name : Option Ident} {node : Occurrence}
    (member : node ∈ nameNodes .name name) : node.Spare := by
  cases name with
  | none => cases member
  | some name => exact spare_of_mem_singleton NodeRole.noConfusion NodeRole.noConfusion _ member

theorem spare_of_mem_parameterNodes {parameters : List (Option ParameterExpr)}
    {node : Occurrence} (member : node ∈ parameterNodes parameters) : node.Spare := by
  rcases List.mem_flatMap.mp member with ⟨parameter, _, inside⟩
  exact spare_of_mem_nameNodes inside

theorem spare_of_mem_map_unread {nodes : List Occurrence} {node : Occurrence}
    (member : node ∈ nodes.map Occurrence.unread) : node.Spare := by
  rcases List.mem_map.mp member with ⟨source, _, rfl⟩
  exact ⟨NodeRole.noConfusion, NodeRole.noConfusion⟩

/-! ## Noting types -/

namespace Analysis

variable {α β : Type} {nodes more : List Occurrence}

/-- Every run to the end notes types of the given nodes only, each at most once, and
leaves out none whose type is needed. -/
structure Notes (nodes : List Occurrence) (computation : Analysis α) : Prop where
  run : ∀ {before after value}, computation.run before = .ok value after →
    ∃ added, after.types = added ++ before.types ∧
      (added.map Prod.fst).Subperm (nodes.map Occurrence.id) ∧
      ∀ node ∈ nodes, node.Needed (after.reports = before.reports) →
        node.id ∈ added.map Prod.fst

namespace Notes

/-- A computation that notes nothing. -/
theorem of_types_eq {computation : Analysis α}
    (same : ∀ state, (computation.run state).state.types = state.types) :
    computation.Notes [] := by
  constructor
  intro before after value run
  have equal := same before
  rw [run] at equal
  exact ⟨[], equal, List.nil_subperm, by simp⟩

theorem of_reporting {computation : Analysis α} (reporting : computation.Reporting fun _ => True) :
    computation.Notes [] :=
  of_types_eq reporting.types_eq

theorem pure (value : α) : (Pure.pure value : Analysis α).Notes [] :=
  of_reporting (.pure value)

theorem report (position : Position) (finding : Finding) :
    (Analysis.report position finding).Notes [] :=
  of_reporting (.report _ _)

theorem read (view : State → α) : (Analysis.read view).Notes [] :=
  of_types_eq fun _ => rfl

theorem table : Analysis.table.Notes [] :=
  .read _

theorem malformed (position : Position) (defect : Defect) :
    (Analysis.malformed position defect : Analysis α).Notes nodes := by
  constructor
  intro before after value run
  cases run

theorem bind {first : Analysis α} {next : α → Analysis β} (notes : first.Notes nodes)
    (rest : ∀ value, (next value).Notes more) : (first >>= next).Notes (nodes ++ more) := by
  constructor
  intro before after result run
  rcases run_bind_eq_ok.mp run with ⟨value, middle, started, ended⟩
  rcases notes.run started with ⟨added, types, within, complete⟩
  rcases (rest value).run ended with ⟨addedLater, typesLater, withinLater, completeLater⟩
  have quiet := (quiet_iff_of_grows (first.grows_of_ok started)
    ((next value).grows_of_ok ended)).mp
  refine ⟨addedLater ++ added, ?_, ?_, ?_⟩
  · rw [typesLater, types, List.append_assoc]
  · rw [List.map_append, List.map_append]
    exact (withinLater.append within).trans List.perm_append_comm.subperm
  · intro node member needed
    rw [List.map_append, List.mem_append]
    rcases List.mem_append.mp member with inFirst | inRest
    · exact .inr (complete node inFirst (needed.mono fun same => (quiet same).1))
    · exact .inl (completeLater node inRest (needed.mono fun same => (quiet same).2))

/-- A first part that notes nothing. -/
theorem after {first : Analysis α} {next : α → Analysis β} (notes : first.Notes [])
    (rest : ∀ value, (next value).Notes nodes) : (first >>= next).Notes nodes :=
  notes.bind rest

/-- A last part that notes nothing. -/
theorem before {first : Analysis α} {next : α → Analysis β} (notes : first.Notes nodes)
    (rest : ∀ value, (next value).Notes []) : (first >>= next).Notes nodes := by
  have both := notes.bind rest
  rwa [List.append_nil] at both

theorem discard {computation : Analysis α} (notes : computation.Notes nodes) :
    (Functor.discard computation).Notes nodes :=
  notes.before fun _ => .pure _

theorem perm {computation : Analysis α} (notes : computation.Notes nodes)
    (permutation : nodes.Perm more) : computation.Notes more := by
  constructor
  intro before after value run
  rcases notes.run run with ⟨added, types, within, complete⟩
  refine ⟨added, types, within.trans (permutation.map _).subperm, ?_⟩
  intro node member needed
  exact complete node (permutation.mem_iff.mpr member) needed

/-- Nodes that need no type may be left out. -/
theorem idle {computation : Analysis α} (notes : computation.Notes nodes)
    (spare : ∀ node ∈ more, node.Spare) : computation.Notes (more ++ nodes) := by
  constructor
  intro before after value run
  rcases notes.run run with ⟨added, types, within, complete⟩
  refine ⟨added, types, ?_, ?_⟩
  · rw [List.map_append]
    exact within.trans (List.sublist_append_right _ _).subperm
  · intro node member needed
    rcases List.mem_append.mp member with inMore | inNodes
    · exact absurd needed (spare node inMore).not_needed
    · exact complete node inNodes needed

theorem spare {computation : Analysis α} (notes : computation.Notes [])
    (spare : ∀ node ∈ nodes, node.Spare) : computation.Notes nodes := by
  have both := notes.idle spare
  rwa [List.append_nil] at both

/-- Where there is a report, even declared names may be left out. -/
theorem refused (position : Position) (finding : Finding)
    (undemanding : ∀ node ∈ nodes, node.role ≠ .expression) :
    (Analysis.report position finding).Notes nodes := by
  constructor
  intro before after value run
  cases run
  refine ⟨[], rfl, List.nil_subperm, ?_⟩
  intro node member needed
  cases needed with
  | expression role => exact absurd role (undemanding node member)
  | declared role silent => simp at silent

theorem record (node : Node) (type : Option Ty) (role : NodeRole) :
    (Analysis.record node type).Notes [⟨node.id, role⟩] := by
  constructor
  intro before after value run
  cases run
  exact ⟨[(node.id, type)], rfl, List.Subperm.refl _, by simp⟩

theorem recorded {resolve : Analysis Operand} (node : Node) (notes : resolve.Notes nodes) :
    (Analysis.recorded node resolve).Notes (⟨node.id, .expression⟩ :: nodes) := by
  have sequence : (Analysis.recorded node resolve).Notes
      (nodes ++ [⟨node.id, .expression⟩]) := by
    apply notes.bind
    intro operand
    exact (Notes.record _ _ _).before fun _ => .pure _
  exact sequence.perm (List.perm_append_singleton _ _)

theorem guarded {condition : Prop} [Decidable condition] {step : Analysis Unit}
    {rest : Unit → Analysis α} (notes : step.Notes [])
    (after : (rest ()).Notes nodes) :
    (if condition then step >>= rest else rest ()).Notes nodes := by
  split
  · exact notes.after fun _ => after
  · exact after

theorem withScope {inside : Analysis α} (kind : ScopeKind) (notes : inside.Notes nodes) :
    (Analysis.withScope kind inside).Notes nodes := by
  constructor
  intro before after value run
  rcases exists_of_run_withScope run with ⟨inner, ended, rfl⟩
  rcases notes.run ended with ⟨added, types, within, complete⟩
  exact ⟨added, types, within, complete⟩

end Notes

/-! ## Slots, names and signatures -/

theorem notes_materialize (ctx : Context) (source : Resolved) (target : Ty)
    (label : String) : (materialize ctx source target label).Notes [] := by
  unfold materialize
  apply (Notes.of_reporting (reporting_fill _ _ _ _)).after
  intro type
  apply Notes.guarded
  · exact .of_types_eq fun _ => rfl
  · exact .pure _

theorem notes_materialize? (ctx : Context) (source : Resolved) (target : Option Ty)
    (label : String) : (materialize? ctx source target label).Notes [] := by
  cases target with
  | none => exact .pure _
  | some target => exact (notes_materialize _ _ _ _).discard

theorem notes_unifyBranches (ctx : Context) (branches : List Resolved) (target : Option Ty) :
    (unifyBranches ctx branches target).Notes [] := by
  have filled : ∀ target, (fillBranches ctx target branches).Notes [] := by
    intro target
    induction branches with
    | nil => exact .pure _
    | cons branch branches induction =>
        exact (notes_materialize _ _ _ _).discard.after fun _ => induction
  unfold unifyBranches
  split
  · exact (filled _).after fun _ => .pure _
  · exact .of_reporting (reporting_joinBranches _ _)

theorem notes_identifier (name : Ident) : (identifier name).Notes [] := by
  unfold identifier
  apply Notes.table.after
  intro table
  split
  · exact Notes.table.after fun _ => .of_reporting (reporting_refuse _ _)
  · exact .guarded (.report _ _) (.pure _)

theorem notes_requireMutable (name : Ident) (symbol : Symbol) :
    (requireMutable name symbol).Notes [] := by
  unfold requireMutable
  split
  · apply Notes.table.after
    intro table
    split
    · exact .report _ _
    · exact .report _ _
  · exact .pure _

theorem notes_signatureOf (node : Node) (name : Option Ident)
    (parameters : List (Option ParameterExpr)) (result : TypeExpr) (body : Body) :
    (signatureOf node name parameters result body).Notes [] := by
  unfold signatureOf
  apply (Notes.read _).after
  intro known
  split
  · exact .pure _
  · apply (Notes.of_reporting (reporting_readSignature _ _ _ _ _)).after
    intro signature
    apply Notes.after
    · exact .of_types_eq fun _ => rfl
    · exact fun _ => .pure _

theorem notes_declareFunction (node : Node) (name : Option Ident)
    (parameters : List (Option ParameterExpr)) (result : TypeExpr) (body : Body) :
    (declareFunction node name parameters result body).Notes [] := by
  unfold declareFunction
  apply (notes_signatureOf _ _ _ _ _).after
  intro signature
  apply Notes.table.after
  intro table
  split
  · exact .of_types_eq fun _ => rfl
  · exact .report _ _

theorem notes_declareParameters (node : Node) (signature : Signature) (number : Nat)
    (parameters : List Parameter) :
    (declareParameters node signature number parameters).Notes [] := by
  induction parameters generalizing number with
  | nil => exact .pure _
  | cons parameter parameters induction =>
      unfold declareParameters
      apply Notes.table.after
      intro table
      dsimp only
      split
      · apply Notes.after
        · exact .of_types_eq fun _ => rfl
        · exact fun _ => induction _
      · exact (Notes.report _ _).after fun _ => induction _

theorem notes_requireReturn (name : Option Ident) (signature : Signature) :
    (requireReturn name signature).Notes [] := by
  unfold requireReturn
  split
  · exact .pure _
  · apply (Notes.read _).after
    intro returned
    split
    · exact .report _ _
    · exact .pure _

/-! ## Bindings, bounds and blocks -/

theorem notes_declare (name : Ident) (symbol : Symbol) :
    (declare name symbol).Notes [⟨name.node.id, .declared⟩] := by
  unfold declare
  apply Notes.table.after
  intro table
  split
  · apply Notes.after
    · exact .of_types_eq fun _ => rfl
    · exact fun _ => .record _ _ _
  · apply Notes.refused
    intro node member
    rcases List.mem_singleton.mp member with rfl
    exact NodeRole.noConfusion

theorem notes_bindValue (ctx : Context) (isMutable : Bool) (name : Ident)
    (declared : Option Ty) (value : Resolved) :
    (bindValue ctx isMutable name declared value).Notes [⟨name.node.id, .declared⟩] := by
  unfold bindValue
  apply Notes.after
  · cases declared with
    | none => exact .of_reporting (reporting_bindingType_none _ _ _ _)
    | some type => exact notes_materialize _ _ _ _
  · exact fun type => notes_declare _ _

theorem notes_bindUndef (isMutable : Bool) (name : Ident) (declared : Option Ty)
    (value : Node) :
    (bindUndef isMutable name declared value).Notes
      [⟨value.id, .initializer⟩, ⟨name.node.id, .declared⟩] := by
  have initializer : ∀ node ∈ [(⟨value.id, .initializer⟩ : Occurrence)], node.Spare :=
    spare_of_mem_singleton NodeRole.noConfusion NodeRole.noConfusion
  have both : ∀ symbol type, (do
      declare name symbol
      record value type).Notes [⟨value.id, .initializer⟩, ⟨name.node.id, .declared⟩] := by
    intro symbol type
    exact ((notes_declare _ _).bind fun _ => .record _ _ .initializer).perm (.swap _ _ _)
  unfold bindUndef
  split
  · apply (Notes.report _ _).after
    exact fun _ => (notes_declare _ _).idle initializer
  · dsimp only
    split
    · exact both _ _
    · exact (Notes.report _ _).after fun _ => both _ _

theorem notes_assign (ctx : Context) (name : Ident) (symbol : Symbol) (value : Resolved) :
    (assign ctx name symbol value).Notes [⟨name.node.id, .name⟩] := by
  unfold assign
  apply (notes_materialize? _ _ _ _).after
  intro _
  apply (Notes.record _ _ _).before
  intro _
  exact .of_types_eq fun _ => rfl

theorem notes_withBound {resolve : Analysis Operand} (part : String) (parts : RangeParts)
    (bound : Expr) (notes : resolve.Notes bound.nodes) :
    (withBound part parts bound resolve).Notes bound.nodes := by
  unfold withBound
  split
  · next missing =>
      rw [Expr.nodes_of_isMissing missing]
      exact .pure _
  · exact notes.before fun _ => .of_reporting (reporting_addBound _ _ _)

theorem notes_blockValue (ctx : Context) (target : Option Ty)
    {statements : Analysis (List Resolved)} (notes : statements.Notes nodes) :
    (blockValue ctx target statements).Notes nodes := by
  apply Notes.withScope
  apply notes.before
  intro branches
  split
  · exact .pure _
  · exact notes_unifyBranches _ _ _

end Analysis

open Analysis

/-! ## Expressions and statements -/

def Stmt.isFunction : Stmt → Bool
  | .function _ _ _ _ _ => true
  | _ => false

/-- Inside of a function or of a block, where no function may be declared. -/
def Context.isNested (ctx : Context) : Bool :=
  ctx.function.isSome || ctx.block.isSome

theorem Context.isNested_inBlock (ctx : Context) (target : Option Ty) :
    (ctx.inBlock target).isNested = true := by
  simp [isNested, inBlock]

mutual

theorem Expr.resolve_notes (ctx : Context) (target : Option Ty) :
    (expr : Expr) → (expr.resolve ctx target).Notes expr.nodes
  | .missing => .malformed _ _
  | .int _ _ => .recorded _ (.of_reporting (reporting_integerLiteral _ _))
  | .float _ _ => .recorded _ (.of_reporting (reporting_floatLiteral _ _))
  | .bool _ _ => .recorded _ (.pure _)
  | .string _ _ => .recorded _ (.pure _)
  | .undef _ => .recorded _ (.of_reporting (reporting_refuse _ _))
  | .ident _ => .recorded _ (notes_identifier _)
  | .prefixOp _ _ right => by
      apply Notes.recorded
      apply (right.resolve_notes ctx target).before
      exact fun _ => .of_reporting (reporting_prefixed _ _ _)
  | .infixOp _ left operator right => by
      unfold Expr.resolve
      apply Notes.recorded
      split
      · exact .malformed _ _
      · apply (left.resolve_notes ctx _).bind
        intro leftOperand
        apply (right.resolve_notes ctx _).before
        exact fun _ => .of_reporting (reporting_infixed _ _ _ _ _ _ _)
  | .conversion _ value type => by
      unfold Expr.resolve
      apply Notes.recorded
      apply Notes.guarded (.malformed _ _)
      apply (Notes.of_reporting type.reporting_resolve).after
      intro resolved
      apply (value.resolve_notes ctx none).before
      exact fun _ => .of_reporting (reporting_converted _ _ _ _)
  | .array _ items => by
      unfold Expr.resolve
      apply Notes.recorded
      apply (items.resolveAll_notes ctx _).before
      exact fun _ => .of_reporting (reporting_arrayLiteral _ _ _ _)
  | .range _ start stop step _ => by
      unfold Expr.resolve
      apply Notes.recorded
      apply (Notes.of_reporting (reporting_startParts _ _)).after
      intro parts
      apply (notes_withBound _ _ _ (start.resolve_notes ctx _)).bind
      intro started
      apply (notes_withBound _ _ _ (stop.resolve_notes ctx _)).bind
      intro stopped
      apply (notes_withBound _ _ _ (step.resolve_notes ctx _)).before
      exact fun _ => .of_reporting (reporting_rangeLiteral _ _ _ _ _ _ _)
  | .index _ left index => by
      unfold Expr.resolve
      apply Notes.recorded
      apply (left.resolve_notes ctx none).bind
      intro array
      apply (index.resolve_notes ctx _).before
      exact fun _ => .of_reporting (reporting_indexing _ _ _ _)
  | .member _ left name => by
      cases name with
      | none => exact .recorded _ (.malformed _ _)
      | some name =>
          unfold Expr.resolve
          apply Notes.recorded
          apply Notes.idle _ fun _ => spare_of_mem_nameNodes
          apply (left.resolve_notes ctx none).before
          exact fun _ => .of_reporting (reporting_property _ _)
  | .call _ callee arguments => by
      cases callee with
      | none => exact .recorded _ (.malformed _ _)
      | some callee =>
          unfold Expr.resolve
          apply Notes.recorded
          apply Notes.idle _ fun _ => spare_of_mem_nameNodes
          apply Notes.table.after
          intro table
          split
          · next signature _ =>
              apply (Notes.of_reporting (reporting_requireArity _ _ _)).after
              intro _
              apply (arguments.resolveArguments_notes ctx signature 1 _).before
              exact fun _ => .pure _
          · apply Notes.table.after
            intro _
            apply (Notes.report _ _).after
            intro _
            exact (arguments.resolveAll_notes ctx none).discard.before fun _ => .pure _
  | .block _ statements => by
      unfold Expr.resolve
      apply Notes.recorded
      apply notes_blockValue
      exact statements.analyze_notes _ (ctx.isNested_inBlock target)
  | .conditional _ condition consequence alternative => by
      unfold Expr.resolve
      apply Notes.recorded
      apply (condition.resolve_notes ctx _).bind
      intro operand
      apply (Notes.of_reporting (reporting_requireCondition _)).after
      intro _
      apply Notes.guarded (.malformed _ _)
      apply (consequence.resolve_notes ctx target).bind
      intro first
      split
      · next missing =>
          rw [Expr.nodes_of_isMissing missing]
          exact .pure _
      · apply (alternative.resolve_notes ctx target).before
        exact fun _ => notes_unifyBranches _ _ _

theorem Exprs.resolveAll_notes (ctx : Context) (target : Option Ty) :
    (exprs : Exprs) → (exprs.resolveAll ctx target).Notes exprs.nodes
  | .nil => .pure _
  | .cons head tail => by
      apply (head.resolve_notes ctx target).bind
      intro operand
      exact (tail.resolveAll_notes ctx target).before fun _ => .pure _

theorem Exprs.resolveArguments_notes (ctx : Context) (signature : Signature) (number : Nat)
    (parameters : List Parameter) :
    (exprs : Exprs) →
      (exprs.resolveArguments ctx signature number parameters).Notes exprs.nodes
  | .nil => .pure _
  | .cons head tail => by
      cases parameters with
      | nil =>
          apply (head.resolve_notes ctx none).discard.bind
          exact fun _ => tail.resolveArguments_notes ctx signature (number + 1) []
      | cons parameter parameters =>
          apply (head.resolve_notes ctx parameter.type).bind
          intro operand
          apply (notes_materialize? _ _ _ _).after
          exact fun _ => tail.resolveArguments_notes ctx signature (number + 1) parameters

theorem Body.resolve_notes (ctx : Context) (target : Option Ty) :
    (body : Body) → (body.resolve ctx target).Notes body.nodes
  | .missing => .malformed _ _
  | .block _ statements => by
      unfold Body.resolve
      apply Notes.recorded
      apply notes_blockValue
      exact statements.analyze_notes _ (ctx.isNested_inBlock target)

theorem Stmts.analyze_notes (ctx : Context) (nested : ctx.isNested = true) :
    (statements : Stmts) → (statements.analyze ctx).Notes statements.nodes
  | .nil => .pure _
  | .cons head tail => by
      apply (head.analyze_notes ctx fun _ => nested).bind
      intro branch
      exact (tail.analyze_notes ctx nested).before fun _ => .pure _

theorem Stmt.analyze_notes (ctx : Context) :
    (statement : Stmt) → (statement.isFunction = true → ctx.isNested = true) →
      (statement.analyze ctx).Notes statement.nodes
  | .missing, _ => .malformed _ _
  | .declaration _ isMutable name type value, _ => by
      cases name with
      | none => exact .malformed _ _
      | some name =>
          unfold Stmt.analyze Stmt.nodes
          apply Notes.guarded (.malformed _ _)
          apply (Notes.of_reporting (reporting_declaredType _ _)).after
          intro declared
          split
          · exact (notes_bindUndef _ _ _ _).before fun _ => .pure _
          · apply (value.resolve_notes ctx declared).bind
            intro operand
            exact (notes_bindValue _ _ _ _ _).before fun _ => .pure _
  | .assignment _ name value, _ => by
      cases name with
      | none => exact .malformed _ _
      | some name =>
          unfold Stmt.analyze Stmt.nodes
          apply Notes.guarded (.malformed _ _)
          apply Notes.table.after
          intro table
          split
          · apply (Notes.report _ _).after
            intro _
            apply Notes.before _ fun _ => .pure _
            apply Notes.perm _ List.perm_append_comm
            apply Notes.idle _ fun _ => spare_of_mem_nameNodes
            exact (value.resolve_notes ctx none).discard
          · apply (notes_requireMutable _ _).after
            intro _
            apply (value.resolve_notes ctx _).bind
            intro operand
            exact (notes_assign _ _ _ _).before fun _ => .pure _
  | .returning _ value, _ => by
      unfold Stmt.analyze Stmt.nodes
      dsimp only
      split
      · apply (Notes.report _ _).after
        intro _
        split
        · exact (value.resolve_notes ctx none).discard.before fun _ => .pure _
        · next missing =>
            rw [Expr.nodes_of_isMissing (by simpa using missing)]
            exact .pure _
      · apply Notes.after (.of_types_eq fun _ => rfl)
        intro _
        split
        · split
          · apply (value.resolve_notes ctx none).before
            intro operand
            apply (Notes.of_reporting (reporting_requireNoValue _ _)).after
            exact fun _ => .pure _
          · next missing =>
              rw [Expr.nodes_of_isMissing (by simpa using missing)]
              exact .pure _
        · split
          · next missing =>
              rw [Expr.nodes_of_isMissing missing]
              exact (Notes.report _ _).after fun _ => .pure _
          · apply (value.resolve_notes ctx _).before
            intro operand
            exact (notes_materialize _ _ _ _).discard.after fun _ => .pure _
  | .yielding _ value, _ => by
      unfold Stmt.analyze Stmt.nodes
      apply Notes.guarded (.malformed _ _)
      split
      · apply (Notes.report _ _).after
        intro _
        exact (value.resolve_notes ctx none).discard.before fun _ => .pure _
      · exact (value.resolve_notes ctx _).before fun _ => .pure _
  | .expression _ value, _ => by
      exact (value.resolve_notes ctx none).discard.before fun _ => .pure _
  | .function _ name parameters result body, nested => by
      unfold Stmt.analyze Stmt.nodes
      dsimp only
      split
      · apply (Notes.report _ _).after
        intro _
        exact (Notes.pure _).spare fun _ => spare_of_mem_map_unread
      · next outside => exact absurd (nested rfl) outside

end

/-! ## Programs -/

theorem Body.analyze_notes (ctx : Context) (nested : ctx.isNested = true) (body : Body) :
    (body.analyze ctx).Notes body.functionNodes := by
  cases body with
  | missing => exact .pure _
  | block node statements =>
      have bodyNode : ∀ occurrence ∈ [(⟨node.id, .body⟩ : Occurrence)], occurrence.Spare :=
        spare_of_mem_singleton NodeRole.noConfusion NodeRole.noConfusion
      exact (statements.analyze_notes ctx nested).discard.idle bodyNode

/-- At the top level a function is looked into. -/
theorem Stmt.analyze_function_notes (ctx : Context) (top : ctx.isNested = false) (node : Node)
    (name : Option Ident) (parameters : List (Option ParameterExpr)) (result : TypeExpr)
    (body : Body) :
    ((Stmt.function node name parameters result body).analyze ctx).Notes
      (nameNodes .name name ++ parameterNodes parameters ++ body.functionNodes) := by
  have names : ∀ node ∈ nameNodes .name name ++ parameterNodes parameters, node.Spare := by
    intro node member
    rcases List.mem_append.mp member with isName | isParameter
    · exact spare_of_mem_nameNodes isName
    · exact spare_of_mem_parameterNodes isParameter
  apply Notes.idle _ names
  unfold Stmt.analyze
  dsimp only
  split
  · next nested => exact absurd nested (ne_true_of_eq_false top)
  · apply (notes_signatureOf _ _ _ _ _).after
    intro signature
    apply Notes.before _ fun _ => .pure _
    apply Notes.withScope
    apply (notes_declareParameters _ _ _ _).after
    intro _
    apply Notes.after (.of_types_eq fun _ => rfl)
    intro _
    apply (body.analyze_notes _ rfl).before
    exact fun _ => notes_requireReturn _ _

theorem Stmts.analyze_top_notes (ctx : Context) (top : ctx.isNested = false) :
    (statements : Stmts) → (statements.analyze ctx).Notes statements.topNodes
  | .nil => .pure _
  | .cons head tail => by
      have rest := (tail.analyze_top_notes ctx top)
      cases head with
      | function node name parameters result body =>
          apply (Stmt.analyze_function_notes ctx top _ _ _ _ _).bind
          exact fun branch => rest.before fun _ => .pure _
      | _ =>
          apply (Stmt.analyze_notes ctx _ (by nofun)).bind
          exact fun branch => rest.before fun _ => .pure _

theorem Stmts.declareFunctions_notes :
    (statements : Stmts) → statements.declareFunctions.Notes []
  | .nil => .pure _
  | .cons head tail => by
      have rest := tail.declareFunctions_notes
      cases head with
      | function node name parameters result body =>
          exact (notes_declareFunction _ _ _ _ _).after fun _ => rest
      | _ => exact rest

theorem Program.analyze_notes (ctx : Context) (top : ctx.isNested = false)
    (program : Program) : (program.analyze ctx .full).Notes program.nodes := by
  apply program.statements.declareFunctions_notes.after
  exact fun _ => (program.statements.analyze_top_notes ctx top).discard

/-! ## Looking types up -/

/-- Where no node occurs twice, what was noted is what a lookup gives. -/
theorem State.type?_eq_some_of_mem {state : State} {id : Nat} {type : Option Ty}
    (distinct : (state.types.map Prod.fst).Nodup) (noted : (id, type) ∈ state.types) :
    state.type? id = some type := by
  unfold State.type?
  generalize state.types = types at distinct noted ⊢
  induction types with
  | nil => cases noted
  | cons entry entries induction =>
      rw [List.map_cons, List.nodup_cons] at distinct
      rcases List.mem_cons.mp noted with rfl | later
      · simp
      · have different : id ≠ entry.1 := by
          intro same
          exact distinct.1 (List.mem_map.mpr ⟨_, later, same⟩)
        rw [List.lookup_cons, beq_false_of_ne different]
        exact induction distinct.2 later

theorem State.mem_types_of_type? {state : State} {id : Nat} {type : Option Ty}
    (found : state.type? id = some type) : (id, type) ∈ state.types := by
  rcases List.lookup_eq_some_iff.mp found with ⟨before, after, split, _⟩
  rw [split]
  simp

theorem State.mem_slots_of_slot? {state : State} {id : Nat} {type : Ty}
    (found : state.slot? id = some type) : (id, type) ∈ state.slots := by
  rcases List.lookup_eq_some_iff.mp found with ⟨before, after, split, _⟩
  rw [split]
  simp

end ComptimeTyping
