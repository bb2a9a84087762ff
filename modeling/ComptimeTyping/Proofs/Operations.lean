import ComptimeTyping.Options.Basic
import ComptimeTyping.Proofs.Initialization
import ComptimeTyping.Proofs.Sizes
import ComptimeTyping.Proofs.Stops

/-! An analysis does nothing that is undefined. Each rule that looks up, divides, cuts out or
leaves something is applied only to operands for which there is something to look up, a
divisor, room and a scope to leave; so the analysis ends, or it stops for a reason of its
own. -/

namespace ComptimeTyping

open Analysis

/-! ## Operations -/

/-- What is undefined for some operands. -/
inductive Operation where
  /-- A type that was declared is used. -/
  | use (type : Option Ty)
  /-- The first axis of an array is read. -/
  | outermost (type : Ty)
  | index (ctx : Context) (node : Node) (array place : Resolved)
  | convert (source target : Ty)
  | fill (source : Ty) (target : Option Ty)
  | join (policy : BranchPolicy) (branches : List Resolved)
  | fold (op : ArithOp) (left right : Int)
  | leave (table : SymbolTable)

/-- The operation has a result for its operands, and it is the one that the analysis goes on
with. The elements of an array are taken to be as many as a list in memory can have. -/
def Operation.Defined : Operation → Prop
  | .use type => type.isSome = true
  | .outermost type => ∀ dims, type.dims? = some dims → dims.toList.head? = some dims.outer
  | .index ctx node array place => array.operand.Countable →
      Checked.indexing ctx node array place = some <$> indexing ctx node array place
  | .convert source target => Checked.convert source target = some (source.convert target)
  | .fill source target => ∃ type, target = some type ∧
      Checked.fill source type = some (source.assign type false)
  | .join policy branches =>
      Checked.joinFrom policy none branches = some (joinFrom policy none branches)
  | .fold op left right => Checked.foldInt op left right = some (Constant.foldInt op left right)
  | .leave table => table.exit? = some table.exit

/-! ## Where they are performed -/

/-- What is analyzed in the scope of a block. -/
def Stmts.blockInside (ctx : Context) (target : Option Ty) (statements : Stmts) :
    Analysis Operand := do
  match ← statements.analyze (ctx.inBlock target) with
  | [] => return .typed .void
  | branches => unifyBranches ctx branches target

example (ctx : Context) (target : Option Ty) (statements : Stmts) :
    blockValue ctx target (statements.analyze (ctx.inBlock target)) =
      withScope .block (statements.blockInside ctx target) := rfl

namespace Moment

/-- The branches that are united at a moment, and what is asked of them. -/
inductive Unites : Moment → Context → List Resolved → Option Ty → Prop
  | block {ctx : Context} {target : Option Ty} {node : Node} {statements : Stmts}
      {before after : State} {branches : List Resolved}
      (run : (statements.analyze (ctx.inBlock target)).run
        { before with table := before.table.enter .block } = .ok branches after) :
      Unites ⟨.expr ctx target (.block node statements), before⟩ ctx branches target
  | conditional {ctx : Context} {target : Option Ty} {node : Node}
      {condition alternative : Expr} {consequence : Body}
      {before tested begun middle after : State} {operand first second : Operand}
      (conditionRun : (condition.resolve ctx (some .bool)).run before = .ok operand tested)
      (required : (requireCondition ⟨condition.node, operand⟩).run tested = .ok () begun)
      (present : consequence.isMissing = false) (other : alternative.isMissing = false)
      (firstRun : (consequence.resolve ctx target).run begun = .ok first middle)
      (secondRun : (alternative.resolve ctx target).run middle = .ok second after) :
      Unites ⟨.expr ctx target (.conditional node condition consequence alternative), before⟩
        ctx [⟨consequence.node, first⟩, ⟨alternative.node, second⟩] target

/-- The value that fills a slot at a moment, and the type of the slot. -/
inductive Fills : Moment → Operand → Option Ty → Prop
  | argument {ctx : Context} {signature : Signature} {number : Nat} {parameter : Parameter}
      {parameters : List Parameter} {head : Expr} {tail : Exprs} {before after : State}
      {operand : Operand}
      (run : (head.resolve ctx parameter.type).run before = .ok operand after) :
      Fills ⟨.arguments ctx signature number (parameter :: parameters) (.cons head tail), before⟩
        operand parameter.type
  | declaration {ctx : Context} {node : Node} {isMutable : Bool} {name : Ident}
      {type : TypeExpr} {value : Expr} {before middle after : State} {declared : Ty}
      {operand : Operand}
      (present : value.isMissing = false) (given : value.isUndef = false)
      (declares : (declaredType name.name type).run before = .ok (some declared) middle)
      (run : (value.resolve ctx (some declared)).run middle = .ok operand after) :
      Fills ⟨.statement ctx (.declaration node isMutable (some name) type value), before⟩
        operand (some declared)
  | assignment {ctx : Context} {node : Node} {name : Ident} {value : Expr}
      {before middle after : State} {symbol : Symbol} {operand : Operand}
      (present : value.isMissing = false)
      (found : before.table.lookup? name.name = some symbol)
      (required : (requireMutable name symbol).run before = .ok () middle)
      (run : (value.resolve ctx symbol.type).run middle = .ok operand after) :
      Fills ⟨.statement ctx (.assignment node (some name) value), before⟩
        operand symbol.type
  | returning {ctx : Context} {node : Node} {value : Expr} {before middle after : State}
      {signature : Signature} {operand : Operand}
      (present : value.isMissing = false) (inside : ctx.function = some signature)
      (marked : markReturned.run before = .ok () middle)
      (notVoid : signature.resultType.isVoid = false)
      (run : (value.resolve ctx (some signature.resultType)).run middle = .ok operand after) :
      Fills ⟨.statement ctx (.returning node value), before⟩
        operand signature.result

/-- A moment performs an operation. -/
inductive Performs : Moment → Operation → Prop
  | name {ctx : Context} {target : Option Ty} {name : Ident} {before : State} {symbol : Symbol}
      (found : before.table.lookup? name.name = some symbol) :
      Performs ⟨.expr ctx target (.ident name), before⟩ (.use symbol.type)
  | call {ctx : Context} {target : Option Ty} {node : Node} {callee : Ident}
      {arguments : Exprs} {before : State} {signature : Signature}
      (found : before.table.function? callee.name = some signature) :
      Performs ⟨.expr ctx target (.call node (some callee) arguments), before⟩
        (.use signature.result)
  | integers {ctx : Context} {target : Option Ty} {node : Node} {left right : Expr}
      {operator : String} {op : ArithOp} {before middle after : State}
      {leftOperand rightOperand : Operand} {leftValue rightValue : Int}
      (known : InfixOp.ofSymbol? operator = some (.arithmetic op))
      (leftRun : (left.resolve ctx (scalarHint target)).run before = .ok leftOperand middle)
      (rightRun : (right.resolve ctx (scalarHint target)).run middle = .ok rightOperand after)
      (leftKnown : leftOperand.value = some (.int leftValue))
      (rightKnown : rightOperand.value = some (.int rightValue)) :
      Performs ⟨.expr ctx target (.infixOp node left operator right), before⟩
        (.fold op leftValue rightValue)
  | conversion {ctx : Context} {target : Option Ty} {node : Node} {value : Expr}
      {type : TypeExpr} {before middle after : State} {written : Ty} {operand : Operand}
      (typeRun : type.resolve.run before = .ok written middle)
      (run : (value.resolve ctx none).run middle = .ok operand after) :
      Performs ⟨.expr ctx target (.conversion node value type), before⟩
        (.convert operand.type written)
  | emptyArray {ctx : Context} {node : Node} {target : Ty} {before : State} :
      Performs ⟨.expr ctx (some target) (.array node .nil), before⟩ (.outermost target)
  | length {ctx : Context} {target : Option Ty} {node : Node} {left : Expr} {name : Ident}
      {before after : State} {operand : Operand}
      (run : (left.resolve ctx none).run before = .ok operand after) :
      Performs ⟨.expr ctx target (.member node left (some name)), before⟩
        (.outermost operand.type)
  | index {ctx : Context} {target : Option Ty} {node : Node} {left place : Expr}
      {before middle after : State} {array operand : Operand}
      (leftRun : (left.resolve ctx none).run before = .ok array middle)
      (placeRun : (place.resolve ctx (some (indexTarget place.isRange))).run middle =
        .ok operand after) :
      Performs ⟨.expr ctx target (.index node left place), before⟩
        (.index ctx node ⟨left.node, array⟩ ⟨place.node, operand⟩)
  | branch {moment : Moment} {ctx : Context} {branches : List Resolved} {branch : Resolved}
      {target : Option Ty} {type : Ty} (unites : moment.Unites ctx branches target)
      (wanted : target.filter (!·.isVoid) = some type) (member : branch ∈ branches) :
      Performs moment (.fill branch.type (some type))
  | branches {moment : Moment} {ctx : Context} {branches : List Resolved}
      {target : Option Ty} (unites : moment.Unites ctx branches target)
      (free : target.filter (!·.isVoid) = none) :
      Performs moment (.join ctx.policy branches)
  | slot {moment : Moment} {operand : Operand} {target : Option Ty}
      (fills : moment.Fills operand target) :
      Performs moment (.fill operand.type target)
  | leaveBlock {ctx : Context} {target : Option Ty} {node : Node} {statements : Stmts}
      {before : State} :
      Performs ⟨.expr ctx target (.block node statements), before⟩
        (.leave ((statements.blockInside ctx target).run
          { before with table := before.table.enter .block }).state.table)
  | leaveFunction {ctx : Context} {node : Node} {name : Option Ident}
      {parameters : List (Option ParameterExpr)} {result : TypeExpr} {body : Body}
      {before read : State} {signature : Signature}
      (signed : (signatureOf node name parameters result body).run before =
        .ok signature read) :
      Performs ⟨.statement ctx (.function node name parameters result body), before⟩
        (.leave ((body.called ctx node name signature).run
          { read with table := read.table.enter .function }).state.table)

end Moment

/-! ## They are defined -/

section Defined

variable {policy : BranchPolicy} {width : PointerWidth} {mode : AnalysisMode}
  {program : Program}

/-- What a place asks for has axes that are known or wildcards. -/
theorem Program.sized_of_meets {ctx : Context} {target : Option Ty} {expr : Expr}
    {before : State}
    (meets : program.Meets (.start policy width) mode ⟨.expr ctx target expr, before⟩) :
    ∀ type, target = some type → type.Sized :=
  (ready_of_meets Discipline.lawful_sized meets trivial).poses.2

/-- A scope that was entered can be left again, however what is inside of it ends. -/
theorem Analysis.Moves.exit? {α : Type} {inside : Analysis α}
    (moves : inside.Moves SymbolTable.ExtendedTo) (before : State) (kind : ScopeKind) :
    (Operation.leave (inside.run
      { before with table := before.table.enter kind }).state.table).Defined := by
  have extended := moves.tables { before with table := before.table.enter kind }
  simp only [Operation.Defined]
  generalize (inside.run _).state.table = table at extended
  have outer : List.Forall₂ Scope.KeptAs (before.table.inner :: before.table.outer) table.outer :=
    extended.outer
  rcases table with ⟨inner, _ | ⟨next, rest⟩, functions, depth⟩
  · cases outer
  · rfl

theorem Stmts.blockInside_extends (ctx : Context) (target : Option Ty) (statements : Stmts) :
    (statements.blockInside ctx target).Moves SymbolTable.ExtendedTo := by
  apply (statements.analyze_extends _).bind
  intro branches
  cases branches with
  | nil => exact .pure _
  | cons branch branches => exact moves_unifyBranches _ _ _

theorem Body.called_extends (ctx : Context) (node : Node) (name : Option Ident)
    (signature : Signature) (body : Body) :
    (body.called ctx node name signature).Moves SymbolTable.ExtendedTo := by
  apply (extends_declareParameters _ _ _ _).bind
  intro _
  apply (Moves.setReturned _).bind
  intro _
  exact (body.analyze_extends _).bind fun _ => moves_requireReturn _ _

/-- The branches that are united are sized, and so is what is asked of them. -/
theorem Moment.Unites.sized {moment : Moment} {ctx : Context} {branches : List Resolved}
    {target : Option Ty} (unites : moment.Unites ctx branches target)
    (meets : program.Meets (.start policy width) mode moment) :
    (∀ type, target = some type → type.Sized) ∧ ∀ branch ∈ branches, branch.type.Sized := by
  have lawful := Discipline.lawful_sized
  cases unites with
  | @block _ _ _ statements _ _ _ run =>
      refine ⟨Program.sized_of_meets meets, ?_⟩
      have ready := Program.ready_of_meets lawful (meets.called List.mem_cons_self) trivial
      have safe := statements.analyze_safe lawful ready.poses ready.holds
      exact fun branch member => (safe.result run trivial branch member).operand
  | conditional conditionRun required present other firstRun secondRun =>
      refine ⟨Program.sized_of_meets meets, ?_⟩
      simp only [List.forall_mem_cons, List.not_mem_nil, false_imp_iff, implies_true, and_true]
      constructor
      · rw [← Body.resolve_toExpr] at firstRun
        refine Program.operand_of_meets lawful (meets.called ?_) firstRun trivial
        refine List.mem_cons_of_mem _ (mem_leading conditionRun (mem_leading required ?_))
        simp [present]
      · refine Program.operand_of_meets lawful (meets.called ?_) secondRun trivial
        refine List.mem_cons_of_mem _ (mem_leading conditionRun (mem_leading required ?_))
        simp [present, other, mem_leading firstRun]

/-- A slot has a type, and it is sized. -/
theorem Moment.Fills.sized {moment : Moment} {operand : Operand} {target : Option Ty}
    (fills : moment.Fills operand target)
    (meets : program.Meets (.start policy width) mode moment) :
    ∃ type, target = some type ∧ type.Sized := by
  have ready := Program.ready_of_meets Discipline.lawful_plain meets trivial
  cases fills with
  | argument run =>
      rcases ready.poses with ⟨_, plain, within⟩
      rcases plain.parameters _ (within _ List.mem_cons_self) with ⟨type, typed, notComptime, _⟩
      exact ⟨type, typed, Sizes.sized_of_notComptime notComptime⟩
  | declaration present given declares run =>
      have annotated := (Bindings.annotation_declaredType _ _).result declares trivial
      exact ⟨_, rfl, Sizes.sized_of_notComptime (annotated _ rfl).1⟩
  | assignment present found required run =>
      have sized := Program.ready_of_meets Discipline.lawful_sized meets trivial
      rcases (ready.holds.of_lookup found).typed with ⟨type, typed, _⟩
      exact ⟨type, typed, sized.holds.of_lookup found type typed⟩
  | returning present inside marked notVoid run =>
      rcases (ready.poses.function _ inside).result with ⟨type, typed, notComptime⟩
      exact ⟨type, typed, Sizes.sized_of_notComptime notComptime⟩

theorem Moment.Performs.defined {moment : Moment} {operation : Operation}
    (performs : moment.Performs operation)
    (meets : program.Meets (.start policy width) mode moment) : operation.Defined := by
  have plain := Program.ready_of_meets Discipline.lawful_plain meets trivial
  cases performs with
  | name found =>
      rcases (plain.holds.of_lookup found).typed with ⟨type, typed, _⟩
      exact Option.isSome_iff_exists.mpr ⟨type, typed⟩
  | call found =>
      rcases (plain.holds.of_function found).result with ⟨type, typed, _⟩
      exact Option.isSome_iff_exists.mpr ⟨type, typed⟩
  | integers => exact Checked.foldInt_eq _ _ _
  | conversion => exact Checked.convert_eq _ _
  | emptyArray => exact fun _ _ => rfl
  | length => exact fun _ _ => rfl
  | index leftRun placeRun =>
      have lawful := Discipline.lawful_coherent
      intro countable
      apply Checked.indexing_eq _ _ _ countable
      · refine Program.operand_of_meets lawful (meets.called ?_) placeRun trivial
        exact List.mem_cons_of_mem _ (mem_leading leftRun (List.mem_singleton_self _))
      · exact Program.operand_of_meets lawful (meets.called List.mem_cons_self) leftRun trivial
  | branch unites wanted member =>
      have sized := (unites.sized meets).1 _ (Option.filter_eq_some_iff.mp wanted).1
      exact ⟨_, rfl, Checked.fill_eq _ sized⟩
  | branches unites free => exact Checked.joinFrom_eq _ _ (unites.sized meets).2
  | slot fills =>
      rcases fills.sized meets with ⟨type, typed, sized⟩
      exact ⟨type, typed, Checked.fill_eq _ sized⟩
  | leaveBlock => exact (Stmts.blockInside_extends _ _ _).exit? _ _
  | leaveFunction => exact (Body.called_extends _ _ _ _ _).exit? _ _

end Defined

/-! ## Programs -/

/-- Whatever the tree and the options, an analysis from an empty table ends, or it stops at
a defect of the tree or at an operator without a result, which then has an infinite operand.
Until then no operation is performed that is not defined. -/
theorem Program.never_crashes (options : Options) (mode : AnalysisMode) (program : Program) :
    (∀ {abort after},
      (program.analyze options.context mode).run (.ofTable .empty) = .error abort after →
      (∃ position defect, abort = .malformed position defect) ∨
        ∃ cause moment, abort = .undefined cause ∧
          program.Meets options.context mode moment ∧ moment.LacksResult cause) ∧
    ∀ {moment operation}, program.Meets options.context mode moment →
      moment.Performs operation → operation.Defined := by
  constructor
  · intro abort after stopped
    have explains := (program.analyze_stops options.context mode (.ofTable .empty)).reason stopped
    cases abort with
    | noProgram => exact explains.elim
    | malformed position defect => exact .inl ⟨position, defect, rfl⟩
    | undefined cause =>
        rcases explains with ⟨first, called, last, reaches, lacking⟩
        rw [callsFrom_empty] at called
        exact .inr ⟨cause, last, rfl, ⟨first, called, reaches⟩, lacking⟩
  · intro moment operation meets performs
    exact performs.defined meets

namespace Sample

/-- The rows that the second one is picked from. -/
def rowsRead : Resolved :=
  ⟨node 11, {
    type := .comptimeArray .comptimeInt ⟨2, [2]⟩
    elements := some [some (.int 1), some (.int 2), some (.int 3), some (.int 4)] }⟩

def placeRead : Resolved :=
  ⟨node 12, { type := .comptimeInt, value := some (.int 1) }⟩

end Sample

theorem Program.never_crashes_sample :
    Sample.picking.Meets (.start .strict .bits32) .full Sample.pick ∧
    Sample.pick.Performs
      (.index (.start .strict .bits32) (Sample.node 10) Sample.rowsRead Sample.placeRead) ∧
    Sample.rowsRead.operand.Countable ∧
    Checked.indexing (.start .strict .bits32) (Sample.node 10) Sample.rowsRead
        Sample.placeRead =
      some <$> indexing (.start .strict .bits32) (Sample.node 10) Sample.rowsRead
        Sample.placeRead := by
  have performs : Sample.pick.Performs
      (.index (.start .strict .bits32) (Sample.node 10) Sample.rowsRead Sample.placeRead) :=
    .index rfl rfl
  have countable : Sample.rowsRead.operand.Countable := by
    rintro elements ⟨⟩
    decide
  have never := never_crashes { branchPolicy := "strict", pointerWidth := 32 } .full
    Sample.picking
  exact ⟨Sample.meets_pick, performs, countable,
    never.2 Sample.meets_pick performs countable⟩

end ComptimeTyping
