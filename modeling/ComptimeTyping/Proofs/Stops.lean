import ComptimeTyping.Proofs.Parts

/-! Where an analysis stops. It stops at what is missing or cannot be read, so never in a
complete tree, and where folding an operator has no result, so never unless an operand is
infinite. -/

namespace ComptimeTyping

open Analysis

/-! ## Stops of a computation -/

namespace Analysis

variable {α β : Type} {before : State} {stops : Abort → Prop}

/-- A computation stops only for the given reasons. -/
structure StopsFor (computation : Analysis α) (before : State) (stops : Abort → Prop) :
    Prop where
  reason : ∀ {abort after}, computation.run before = .error abort after → stops abort

namespace StopsFor

variable {computation first : Analysis α} {next : α → Analysis β}

theorem of_reporting (reporting : computation.Reporting stops) :
    computation.StopsFor before stops := by
  rcases reporting with ⟨reports, verdict, rfl, stopped⟩
  constructor
  intro abort after run
  cases verdict with
  | ok value => cases run
  | error cause =>
      cases run
      exact stopped abort rfl

theorem pure (value : α) : (Pure.pure value : Analysis α).StopsFor before stops :=
  ⟨nofun⟩

theorem report (position : Position) (finding : Finding) :
    (Analysis.report position finding).StopsFor before stops :=
  ⟨nofun⟩

theorem read (view : State → α) : (Analysis.read view).StopsFor before stops :=
  ⟨nofun⟩

theorem update {change : State → State}
    {grows : ∀ state : State, state.GrowsTo (change state)} :
    (Analysis.update change grows).StopsFor before stops :=
  ⟨nofun⟩

theorem malformed {position : Position} {defect : Defect}
    (reason : stops (.malformed position defect)) :
    (Analysis.malformed position defect : Analysis α).StopsFor before stops :=
  .of_reporting (.malformed reason)

theorem bind (stopping : first.StopsFor before stops)
    (rest : ∀ value middle, first.run before = .ok value middle →
      (next value).StopsFor middle stops) : (first >>= next).StopsFor before stops := by
  constructor
  intro abort after run
  rw [run_bind] at run
  cases started : first.run before with
  | ok value middle =>
      rw [started] at run
      exact (rest value middle started).reason run
  | error cause middle =>
      rw [started] at run
      cases run
      exact stopping.reason started

theorem discard (stopping : computation.StopsFor before stops) :
    (Functor.discard computation).StopsFor before stops :=
  stopping.bind fun _ _ _ => .pure _

theorem mono {fewer : Abort → Prop} (stopping : computation.StopsFor before fewer)
    (weaken : ∀ abort, fewer abort → stops abort) : computation.StopsFor before stops :=
  ⟨fun run => weaken _ (stopping.reason run)⟩

theorem reading {view : State → α} (stopping : (next (view before)).StopsFor before stops) :
    (Analysis.read view >>= next).StopsFor before stops :=
  ⟨stopping.reason⟩

theorem required {condition : Prop} [Decidable condition] {position : Position}
    {defect : Defect} {rest : Unit → Analysis α}
    (reason : condition → stops (.malformed position defect))
    (after : ¬condition → (rest ()).StopsFor before stops) :
    (if condition then Analysis.malformed position defect >>= rest else rest ()).StopsFor
      before stops := by
  split
  · next missing => exact (malformed (reason missing)).bind nofun
  · next present => exact after present

theorem recorded {node : Node} {resolve : Analysis Operand}
    (stopping : resolve.StopsFor before stops) :
    (Analysis.recorded node resolve).StopsFor before stops :=
  stopping.bind fun _ _ _ => update.bind fun _ _ _ => .pure _

theorem withScope {kind : ScopeKind}
    (stopping : computation.StopsFor { before with table := before.table.enter kind } stops) :
    (Analysis.withScope kind computation).StopsFor before stops := by
  constructor
  intro abort after run
  simp only [Analysis.withScope] at run
  cases inside : computation.run { before with table := before.table.enter kind } with
  | ok value inner =>
      rw [inside] at run
      cases run
  | error cause inner =>
      rw [inside] at run
      cases run
      exact stopping.reason inside

end StopsFor

/-! ## Rules that look at the state -/

theorem stops_materialize (ctx : Context) (source : Resolved) (target : Ty) (label : String) :
    (materialize ctx source target label).StopsFor before stops := by
  apply StopsFor.bind (.of_reporting (reporting_fill _ _ _ _))
  intro type middle _
  dsimp only
  split
  · exact StopsFor.update.bind fun _ _ _ => .pure _
  · exact .pure _

theorem stops_materialize? (ctx : Context) (source : Resolved) (target : Option Ty)
    (label : String) : (materialize? ctx source target label).StopsFor before stops := by
  cases target with
  | none => exact .pure _
  | some target => exact (stops_materialize _ _ _ _).discard

theorem stops_fillBranches (ctx : Context) (target : Ty) (branches : List Resolved) :
    (fillBranches ctx target branches).StopsFor before stops := by
  induction branches generalizing before with
  | nil => exact .pure _
  | cons branch branches induction =>
      exact (stops_materialize _ _ _ _).discard.bind fun _ _ _ => induction

theorem stops_unifyBranches (ctx : Context) (branches : List Resolved) (target : Option Ty) :
    (unifyBranches ctx branches target).StopsFor before stops := by
  unfold unifyBranches
  split
  · exact (stops_fillBranches _ _ _).bind fun _ _ _ => .pure _
  · exact .of_reporting (reporting_joinBranches _ _)

theorem stops_identifier (name : Ident) : (identifier name).StopsFor before stops := by
  apply StopsFor.reading
  split
  · exact .reading (.of_reporting (reporting_refuse _ _))
  · split
    · exact (StopsFor.report _ _).bind fun _ _ _ => .pure _
    · exact .pure _

theorem stops_declare (name : Ident) (symbol : Symbol) :
    (declare name symbol).StopsFor before stops := by
  apply StopsFor.reading
  split
  · exact StopsFor.update.bind fun _ _ _ => .update
  · exact .report _ _

theorem stops_bindValue (ctx : Context) (isMutable : Bool) (name : Ident)
    (declared : Option Ty) (value : Resolved) :
    (bindValue ctx isMutable name declared value).StopsFor before stops := by
  refine StopsFor.bind ?_ fun _ _ _ => stops_declare _ _
  cases declared with
  | some type => exact stops_materialize _ _ _ _
  | none => exact .of_reporting (reporting_bindingType_none _ _ _ _)

theorem stops_bindUndef (isMutable : Bool) (name : Ident) (declared : Option Ty)
    (value : Node) : (bindUndef isMutable name declared value).StopsFor before stops := by
  cases declared with
  | none => exact (StopsFor.report _ _).bind fun _ _ _ => stops_declare _ _
  | some type =>
      simp only [bindUndef]
      split
      · exact (stops_declare _ _).bind fun _ _ _ => .update
      · refine (StopsFor.report _ _).bind fun _ _ _ => ?_
        exact (stops_declare _ _).bind fun _ _ _ => .update

theorem stops_requireMutable (name : Ident) (symbol : Symbol) :
    (requireMutable name symbol).StopsFor before stops := by
  unfold requireMutable
  split
  · apply StopsFor.reading
    split
    · exact .report _ _
    · exact .report _ _
  · exact .pure _

theorem stops_assign (ctx : Context) (name : Ident) (symbol : Symbol) (value : Resolved) :
    (assign ctx name symbol value).StopsFor before stops := by
  refine (stops_materialize? _ _ _ _).bind fun _ _ _ => ?_
  exact StopsFor.update.bind fun _ _ _ => .reading .update

theorem stops_signatureOf (node : Node) (name : Option Ident)
    (parameters : List (Option ParameterExpr)) (result : TypeExpr) (body : Body)
    (defects : IncludesDefects stops (isCompleteHead name parameters result body)) :
    (signatureOf node name parameters result body).StopsFor before stops := by
  apply StopsFor.reading
  split
  · exact .pure _
  · refine StopsFor.bind (.of_reporting (reporting_readSignature _ _ _ _ _ defects)) ?_
    exact fun _ _ _ => StopsFor.update.bind fun _ _ _ => .pure _

theorem stops_declareFunction (node : Node) (name : Option Ident)
    (parameters : List (Option ParameterExpr)) (result : TypeExpr) (body : Body)
    (defects : IncludesDefects stops (isCompleteHead name parameters result body)) :
    (declareFunction node name parameters result body).StopsFor before stops := by
  refine (stops_signatureOf _ _ _ _ _ defects).bind fun _ _ _ => .reading ?_
  split
  · exact .update
  · exact .report _ _

theorem stops_declareParameters (node : Node) (signature : Signature) (number : Nat)
    (parameters : List Parameter) :
    (declareParameters node signature number parameters).StopsFor before stops := by
  induction parameters generalizing number before with
  | nil => exact .pure _
  | cons parameter parameters induction =>
      apply StopsFor.reading
      split
      · exact StopsFor.update.bind fun _ _ _ => induction _
      · exact (StopsFor.report _ _).bind fun _ _ _ => induction _

theorem stops_requireReturn (name : Option Ident) (signature : Signature) :
    (requireReturn name signature).StopsFor before stops := by
  unfold requireReturn
  split
  · exact .pure _
  · apply StopsFor.reading
    split
    · exact .report _ _
    · exact .pure _

theorem stops_withBound (part : String) (parts : RangeParts) (bound : Expr)
    {resolve : Analysis Operand}
    (stopping : ¬bound.isMissing = true → resolve.StopsFor before stops) :
    (withBound part parts bound resolve).StopsFor before stops := by
  unfold withBound
  split
  · exact .pure _
  · next present =>
    refine (stopping present).bind fun _ _ _ => ?_
    exact .of_reporting (reporting_addBound _ _ _)

theorem stops_blockValue (ctx : Context) (target : Option Ty)
    {statements : Analysis (List Resolved)}
    (stopping : statements.StopsFor { before with table := before.table.enter .block } stops) :
    (blockValue ctx target statements).StopsFor before stops := by
  apply StopsFor.withScope
  refine stopping.bind fun branches _ _ => ?_
  split
  · exact .pure _
  · exact stops_unifyBranches _ _ _

end Analysis

/-! ## Arithmetic without a result -/

namespace BigFloat

variable {left right : BigFloat} {cause : Undefined}

theorem isInfinite_of_add (lacking : left.add right = .error cause) :
    left.isInfinite = true := by
  cases left with
  | infinite => rfl
  | finite =>
      cases right with
      | infinite => cases lacking
      | finite =>
          simp only [add] at lacking
          split at lacking
          · cases lacking
          · split at lacking
            · cases lacking
            · split at lacking <;> cases lacking

theorem isInfinite_of_sub (lacking : left.sub right = .error cause) :
    left.isInfinite = true := by
  simp only [sub] at lacking
  split at lacking
  · cases lacking
  · next error => exact isInfinite_of_add error

theorem isInfinite_of_mul (lacking : left.mul right = .error cause) :
    left.isInfinite = true ∨ right.isInfinite = true := by
  cases left with
  | infinite => exact .inl rfl
  | finite =>
      cases right with
      | infinite => exact .inr rfl
      | finite => cases lacking

/-- A quotient is indefinite also where both parts are zero. -/
theorem isInfinite_of_div (nonzero : ¬right.isZero = true)
    (lacking : left.div right = .error cause) : left.isInfinite = true := by
  cases left with
  | infinite => rfl
  | finite =>
      cases right with
      | infinite => cases lacking
      | finite _ size _ =>
          have positive : size ≠ 0 := fun zero => nonzero (by simp [isZero, zero])
          simp only [div, if_neg positive] at lacking
          split at lacking <;> cases lacking

end BigFloat

private theorem eq_error_of_map {α β ε : Type} {result : Except ε α} {change : α → β}
    {error : ε} (mapped : result.map change = .error error) : result = .error error := by
  cases result with
  | ok value => cases mapped
  | error cause =>
      cases mapped
      rfl

namespace Constant

variable {op : ArithOp} {cause : BigFloat.Undefined}

theorem isInfinite_of_foldFloat {left right : BigFloat}
    (lacking : foldFloat op left right = .error cause) :
    left.isInfinite = true ∨ right.isInfinite = true := by
  cases op with
  | add => exact .inl (BigFloat.isInfinite_of_add (eq_error_of_map lacking))
  | sub => exact .inl (BigFloat.isInfinite_of_sub (eq_error_of_map lacking))
  | mul => exact BigFloat.isInfinite_of_mul (eq_error_of_map lacking)
  | div =>
      simp only [foldFloat] at lacking
      split at lacking
      · cases lacking
      · next nonzero => exact .inl (BigFloat.isInfinite_of_div nonzero (eq_error_of_map lacking))
  | intDiv | rem => cases lacking

/-- Integers always fold, so what has no result is folded as floats. -/
theorem foldFloat_of_fold {left right : Constant} (lacking : left.fold op right = .error cause) :
    foldFloat op left.toFloat right.toFloat = .error cause := by
  unfold fold at lacking
  split at lacking
  · exact eq_error_of_map lacking
  · cases lacking
  · exact eq_error_of_map lacking

end Constant

/-- Two operands have no result only if one of them is infinite as a float. -/
theorem InfixOp.LacksResult.infinite {op : InfixOp} {left right : Operand}
    {cause : BigFloat.Undefined} (lacking : op.LacksResult left right cause) :
    ∃ value, (left.value = some value ∨ right.value = some value) ∧
      value.toFloat.isInfinite = true := by
  rcases lacking with ⟨_, _, leftValue, rightValue, leftKnown, rightKnown, error⟩
  rcases Constant.isInfinite_of_foldFloat (Constant.foldFloat_of_fold error) with
    infinite | infinite
  · exact ⟨leftValue, .inl leftKnown, infinite⟩
  · exact ⟨rightValue, .inr rightKnown, infinite⟩

/-! ## Stops at a moment -/

/-- An operator has no result for what its operands are resolved to, and one of them is
infinite. -/
inductive Moment.LacksResult (cause : BigFloat.Undefined) : Moment → Prop
  | infixOp {ctx : Context} {target : Option Ty} {node : Node} {left right : Expr}
      {operator : String} {op : InfixOp} {before middle after : State}
      {leftOperand rightOperand : Operand}
      (known : InfixOp.ofSymbol? operator = some op)
      (leftRun : (left.resolve ctx (operandHint op target)).run before =
        .ok leftOperand middle)
      (rightRun : (right.resolve ctx (operandHint op target)).run middle =
        .ok rightOperand after)
      (lacking : op.LacksResult leftOperand rightOperand cause)
      (infinite : ∃ value, (leftOperand.value = some value ∨ rightOperand.value = some value) ∧
        value.toFloat.isInfinite = true) :
      LacksResult cause ⟨.expr ctx target (.infixOp node left operator right), before⟩

namespace Moment

/-- What is done at a moment comes to an operator that has no result. -/
def Fails (moment : Moment) (cause : BigFloat.Undefined) : Prop :=
  ∃ last, moment.Reaches last ∧ last.LacksResult cause

/-- Why a moment stops: a defect, unless the tree is complete, or an operator without a
result. -/
def Explains (moment : Moment) (complete : Bool) : Abort → Prop
  | .noProgram => False
  | .malformed _ _ => complete = false
  | .undefined cause => moment.Fails cause

theorem Fails.called {moment callee : Moment} {cause : BigFloat.Undefined}
    (fails : callee.Fails cause) (called : callee ∈ moment.calls) : moment.Fails cause := by
  rcases fails with ⟨last, reaches, lacking⟩
  exact ⟨last, .head called reaches, lacking⟩

theorem Explains.called {moment callee : Moment} {complete part : Bool} {abort : Abort}
    (explains : callee.Explains part abort) (called : callee ∈ moment.calls)
    (incomplete : part = false → complete = false) : moment.Explains complete abort := by
  cases abort with
  | noProgram => exact explains
  | malformed position defect => exact incomplete explains
  | undefined cause => exact Fails.called explains called

end Moment

theorem Analysis.mem_leading {α : Type} {first : Analysis α} {before middle : State}
    {value : α} {next : α → State → List Moment} {moment : Moment}
    (run : first.run before = .ok value middle) (member : moment ∈ next value middle) :
    moment ∈ first.leading before next := by
  simp only [Analysis.leading, run]
  exact member

/-- The part of a task stops as it does on its own. -/
theorem Analysis.StopsFor.within {α : Type} {computation : Analysis α} {before : State}
    {moment callee : Moment} {complete part : Bool}
    (stopping : computation.StopsFor before (callee.Explains part))
    (called : callee ∈ moment.calls) (incomplete : part = false → complete = false) :
    computation.StopsFor before (moment.Explains complete) :=
  stopping.mono fun _ explains => explains.called called incomplete

mutual

theorem Expr.resolve_stops (ctx : Context) (target : Option Ty) (before : State) :
    (expr : Expr) → (expr.resolve ctx target).StopsFor before
      (Moment.Explains ⟨.expr ctx target expr, before⟩ expr.isComplete)
  | .missing => .malformed rfl
  | .int node text => by
      simp only [Expr.resolve, Expr.isComplete]
      exact .recorded (.of_reporting (reporting_integerLiteral _ _ fun lacks _ _ => lacks))
  | .float node text => by
      simp only [Expr.resolve, Expr.isComplete]
      exact .recorded (.of_reporting (reporting_floatLiteral _ _ fun lacks _ _ => lacks))
  | .bool _ _ => .recorded (.pure _)
  | .string _ _ => .recorded (.pure _)
  | .undef _ => .recorded (.of_reporting (reporting_refuse _ _))
  | .ident name => .recorded (stops_identifier name)
  | .prefixOp node operator right => by
      simp only [Expr.resolve, Expr.isComplete]
      apply StopsFor.recorded
      apply StopsFor.bind
      · apply (right.resolve_stops ctx target before).within
        · simp [Moment.calls, Expr.calls]
        · simp +contextual
      · intro operand middle _
        refine .of_reporting (reporting_prefixed _ _ _ fun unknown _ _ => ?_)
        simp [Moment.Explains, unknown]
  | .infixOp node left operator right => by
      simp only [Expr.resolve, Expr.isComplete]
      apply StopsFor.recorded
      split
      · next unknown => exact .malformed (by simp [Moment.Explains, unknown])
      · next op known =>
        apply StopsFor.bind
        · apply (left.resolve_stops ctx _ before).within
          · simp [Moment.calls, Expr.calls, known]
          · simp +contextual
        · intro leftOperand middle leftRun
          apply StopsFor.bind
          · apply (right.resolve_stops ctx _ middle).within
            · simp [Moment.calls, Expr.calls, known, mem_leading leftRun]
            · simp +contextual
          · intro rightOperand after rightRun
            refine .of_reporting (reporting_infixed _ _ _ _ _ _ _ fun cause lacking => ?_)
            exact ⟨_, .refl, .infixOp known leftRun rightRun lacking lacking.infinite⟩
  | .conversion node value type => by
      simp only [Expr.resolve, Expr.isComplete]
      apply StopsFor.recorded
      apply StopsFor.required
      · intro missing
        simp [Moment.Explains, TypeExpr.isComplete_of_isMissing missing]
      · intro present
        apply StopsFor.bind
        · apply StopsFor.of_reporting (type.reporting_resolve _)
          intro incomplete _ _
          simp [Moment.Explains, incomplete]
        · intro type middle typeRun
          apply StopsFor.bind
          · apply (value.resolve_stops ctx none middle).within
            · simp [Moment.calls, Expr.calls, present, mem_leading typeRun]
            · simp +contextual
          · exact fun _ _ _ => .of_reporting (reporting_converted _ _ _ _)
  | .array node items => by
      simp only [Expr.resolve, Expr.isComplete]
      apply StopsFor.recorded
      apply StopsFor.bind
      · apply (items.resolveAll_stops ctx _ before).within
        · simp [Moment.calls, Expr.calls]
        · exact id
      · exact fun _ _ _ => .of_reporting (reporting_arrayLiteral _ _ _ _)
  | .range node start stop step inclusive => by
      simp only [Expr.resolve, Expr.isComplete]
      apply StopsFor.recorded
      apply StopsFor.bind (.of_reporting (reporting_startParts _ _))
      intro parts begun startRun
      apply StopsFor.bind
      · refine stops_withBound _ _ _ fun present => ?_
        apply (start.resolve_stops ctx _ begun).within
        · apply mem_leading startRun
          simp [Expr.boundCalls, present]
        · simp +contextual [present]
      · intro started middle startedRun
        apply StopsFor.bind
        · refine stops_withBound _ _ _ fun present => ?_
          apply (stop.resolve_stops ctx _ middle).within
          · refine mem_leading startRun (List.mem_append_right _ (mem_leading startedRun ?_))
            simp [Expr.boundCalls, present]
          · simp +contextual [present]
        · intro stopped late stoppedRun
          apply StopsFor.bind
          · refine stops_withBound _ _ _ fun present => ?_
            apply (step.resolve_stops ctx _ late).within
            · refine mem_leading startRun (List.mem_append_right _ (mem_leading startedRun ?_))
              refine List.mem_append_right _ (mem_leading stoppedRun ?_)
              simp [Expr.boundCalls, present]
            · simp +contextual [present]
          · exact fun _ _ _ => .of_reporting (reporting_rangeLiteral _ _ _ _ _ _ _)
  | .index node left index => by
      simp only [Expr.resolve, Expr.isComplete]
      apply StopsFor.recorded
      apply StopsFor.bind
      · apply (left.resolve_stops ctx none before).within
        · simp [Moment.calls, Expr.calls]
        · simp +contextual
      · intro array middle leftRun
        apply StopsFor.bind
        · apply (index.resolve_stops ctx _ middle).within
          · simp [Moment.calls, Expr.calls, mem_leading leftRun]
          · simp +contextual
        · exact fun _ _ _ => .of_reporting (reporting_indexing _ _ _ _)
  | .member node left name => by
      simp only [Expr.resolve, Expr.isComplete]
      apply StopsFor.recorded
      cases name with
      | none => exact .malformed rfl
      | some name =>
          apply StopsFor.bind
          · apply (left.resolve_stops ctx none before).within
            · simp [Moment.calls, Expr.calls]
            · simp +contextual
          · exact fun _ _ _ => .of_reporting (reporting_property _ _)
  | .call node callee arguments => by
      simp only [Expr.resolve, Expr.isComplete]
      apply StopsFor.recorded
      cases callee with
      | none => exact .malformed rfl
      | some callee =>
          apply StopsFor.reading
          split
          · next signature found =>
            apply StopsFor.bind (.of_reporting (reporting_requireArity _ _ _))
            intro _ middle arityRun
            apply StopsFor.bind
            · apply (arguments.resolveArguments_stops ctx signature 1 _ middle).within
              · simp [Moment.calls, Expr.calls, found, mem_leading arityRun]
              · simp +contextual
            · exact fun _ _ _ => .pure _
          · next absent =>
            apply StopsFor.reading
            apply StopsFor.bind (.report _ _)
            intro _ middle told
            apply StopsFor.bind
            · apply StopsFor.discard
              apply (arguments.resolveAll_stops ctx none middle).within
              · simp [Moment.calls, Expr.calls, absent, mem_leading told]
              · simp +contextual
            · exact fun _ _ _ => .pure _
  | .block node statements => by
      simp only [Expr.resolve, Expr.isComplete]
      apply StopsFor.recorded
      apply stops_blockValue
      apply (statements.analyze_stops (ctx.inBlock target) _).within
      · simp [Moment.calls, Expr.calls]
      · exact id
  | .conditional node condition consequence alternative => by
      simp only [Expr.resolve, Expr.isComplete]
      apply StopsFor.recorded
      apply StopsFor.bind
      · apply (condition.resolve_stops ctx _ before).within
        · simp [Moment.calls, Expr.calls]
        · simp +contextual
      · intro operand tested conditionRun
        apply StopsFor.bind (.of_reporting (reporting_requireCondition _))
        intro _ begun requiredRun
        apply StopsFor.required
        · intro missing
          cases consequence with
          | missing => simp [Moment.Explains, Body.isComplete]
          | block => cases missing
        · intro present
          apply StopsFor.bind
          · apply (consequence.resolve_stops ctx target begun).within
            · refine List.mem_cons_of_mem _ (mem_leading conditionRun ?_)
              refine mem_leading requiredRun ?_
              simp [present]
            · simp +contextual
          · intro first middle firstRun
            split
            · exact .pure _
            · next given =>
              apply StopsFor.bind
              · apply (alternative.resolve_stops ctx target middle).within
                · refine List.mem_cons_of_mem _ (mem_leading conditionRun ?_)
                  refine mem_leading requiredRun ?_
                  simp [present, given, mem_leading firstRun]
                · simp +contextual [given]
              · exact fun _ _ _ => stops_unifyBranches _ _ _

theorem Exprs.resolveAll_stops (ctx : Context) (target : Option Ty) (before : State) :
    (exprs : Exprs) → (exprs.resolveAll ctx target).StopsFor before
      (Moment.Explains ⟨.elements ctx target exprs, before⟩ exprs.isComplete)
  | .nil => .pure _
  | .cons head tail => by
      simp only [Exprs.resolveAll, Exprs.isComplete]
      apply StopsFor.bind
      · apply (head.resolve_stops ctx target before).within
        · simp [Moment.calls, Exprs.calls]
        · simp +contextual
      · intro operand middle headRun
        apply StopsFor.bind
        · apply (tail.resolveAll_stops ctx target middle).within
          · simp [Moment.calls, Exprs.calls, mem_leading headRun]
          · simp +contextual
        · exact fun _ _ _ => .pure _

theorem Exprs.resolveArguments_stops (ctx : Context) (signature : Signature) (number : Nat)
    (parameters : List Parameter) (before : State) :
    (exprs : Exprs) → (exprs.resolveArguments ctx signature number parameters).StopsFor before
      (Moment.Explains ⟨.arguments ctx signature number parameters exprs, before⟩
        exprs.isComplete)
  | .nil => .pure _
  | .cons head tail => by
      simp only [Exprs.resolveArguments, Exprs.isComplete]
      cases parameters with
      | nil =>
          rw [discard_bind]
          apply StopsFor.bind
          · apply (head.resolve_stops ctx none before).within
            · simp [Moment.calls, Exprs.argumentCalls]
            · simp +contextual
          · intro operand middle headRun
            apply (tail.resolveArguments_stops ctx signature (number + 1) [] middle).within
            · simp [Moment.calls, Exprs.argumentCalls, mem_leading headRun]
            · simp +contextual
      | cons parameter parameters =>
          apply StopsFor.bind
          · apply (head.resolve_stops ctx parameter.type before).within
            · simp [Moment.calls, Exprs.argumentCalls]
            · simp +contextual
          · intro operand middle headRun
            apply StopsFor.bind (stops_materialize? _ _ _ _)
            intro _ filled fillRun
            apply (tail.resolveArguments_stops ctx signature (number + 1) parameters
              filled).within
            · refine List.mem_cons_of_mem _ (mem_leading headRun (mem_leading fillRun ?_))
              exact List.mem_singleton_self _
            · simp +contextual

theorem Body.resolve_stops (ctx : Context) (target : Option Ty) (before : State) :
    (body : Body) → (body.resolve ctx target).StopsFor before
      (Moment.Explains ⟨.expr ctx target body.toExpr, before⟩ body.isComplete)
  | .missing => .malformed rfl
  | .block node statements => by
      simp only [Body.resolve, Body.isComplete]
      apply StopsFor.recorded
      apply stops_blockValue
      apply (statements.analyze_stops (ctx.inBlock target) _).within
      · simp [Moment.calls, Body.toExpr, Expr.calls]
      · exact id

theorem Stmts.analyze_stops (ctx : Context) (before : State) :
    (statements : Stmts) → (statements.analyze ctx).StopsFor before
      (Moment.Explains ⟨.statements ctx statements, before⟩ statements.isComplete)
  | .nil => .pure _
  | .cons head tail => by
      simp only [Stmts.analyze, Stmts.isComplete]
      apply StopsFor.bind
      · apply (head.analyze_stops ctx before).within
        · simp [Moment.calls, Stmts.calls]
        · simp +contextual
      · intro branch middle headRun
        apply StopsFor.bind
        · apply (tail.analyze_stops ctx middle).within
          · simp [Moment.calls, Stmts.calls, mem_leading headRun]
          · simp +contextual
        · exact fun _ _ _ => .pure _

theorem Stmt.analyze_stops (ctx : Context) (before : State) :
    (statement : Stmt) → (statement.analyze ctx).StopsFor before
      (Moment.Explains ⟨.statement ctx statement, before⟩ statement.isComplete)
  | .missing => .malformed rfl
  | .declaration node isMutable name type value => by
      simp only [Stmt.analyze, Stmt.isComplete]
      cases name with
      | none => exact .malformed rfl
      | some name =>
          apply StopsFor.required
          · intro missing
            simp [Moment.Explains, Expr.isComplete_of_isMissing missing]
          · intro present
            apply StopsFor.bind
            · apply StopsFor.of_reporting (reporting_declaredType _ _ _)
              intro incomplete _ _
              simp [Moment.Explains, incomplete]
            · intro declared middle declaredRun
              split
              · exact (stops_bindUndef _ _ _ _).bind fun _ _ _ => .pure _
              · next given =>
                apply StopsFor.bind
                · apply (value.resolve_stops ctx declared middle).within
                  · simp [Moment.calls, Stmt.calls, present, mem_leading declaredRun, given]
                  · simp +contextual
                · intro operand _ _
                  exact (stops_bindValue _ _ _ _ _).bind fun _ _ _ => .pure _
  | .assignment node name value => by
      simp only [Stmt.analyze, Stmt.isComplete]
      cases name with
      | none => exact .malformed rfl
      | some name =>
          apply StopsFor.required
          · intro missing
            simp [Moment.Explains, Expr.isComplete_of_isMissing missing]
          · intro present
            apply StopsFor.reading
            split
            · next absent =>
              apply StopsFor.bind (.report _ _)
              intro _ middle told
              apply StopsFor.bind
              · apply StopsFor.discard
                apply (value.resolve_stops ctx none middle).within
                · simp [Moment.calls, Stmt.calls, present, absent, mem_leading told]
                · simp +contextual
              · exact fun _ _ _ => .pure _
            · next symbol found =>
              apply StopsFor.bind (stops_requireMutable _ _)
              intro _ middle requiredRun
              apply StopsFor.bind
              · apply (value.resolve_stops ctx symbol.type middle).within
                · simp [Moment.calls, Stmt.calls, present, found, mem_leading requiredRun]
                · simp +contextual
              · intro operand _ _
                exact (stops_assign _ _ _ _).bind fun _ _ _ => .pure _
  | .returning node value => by
      simp only [Stmt.analyze, Stmt.isComplete]
      cases missing : value.isMissing with
      | true =>
          cases ctx.function with
          | none => exact (StopsFor.report _ _).bind fun _ _ _ => .pure _
          | some signature =>
              refine StopsFor.update.bind fun _ _ _ => ?_
              split
              · exact .pure _
              · exact (StopsFor.report _ _).bind fun _ _ _ => .pure _
      | false =>
          cases inside : ctx.function with
          | none =>
              apply StopsFor.bind (.report _ _)
              intro _ middle told
              apply StopsFor.bind
              · apply StopsFor.discard
                apply (value.resolve_stops ctx none middle).within
                · simp [Moment.calls, Stmt.calls, missing, inside, mem_leading told]
                · exact id
              · exact fun _ _ _ => .pure _
          | some signature =>
              apply StopsFor.bind StopsFor.update
              intro _ middle marked
              cases void : signature.resultType.isVoid with
              | true =>
                  apply StopsFor.bind
                  · apply (value.resolve_stops ctx none middle).within
                    · simp only [Moment.calls, Stmt.calls, missing, inside, Bool.false_eq_true,
                        if_false]
                      apply mem_leading marked
                      simp [Option.filter_some, void]
                    · exact id
                  · intro operand _ _
                    apply StopsFor.bind (.of_reporting (reporting_requireNoValue _ _))
                    exact fun _ _ _ => .pure _
              | false =>
                  apply StopsFor.bind
                  · apply (value.resolve_stops ctx (some signature.resultType) middle).within
                    · simp only [Moment.calls, Stmt.calls, missing, inside, Bool.false_eq_true,
                        if_false]
                      apply mem_leading marked
                      simp [Option.filter_some, void]
                    · exact id
                  · intro operand _ _
                    exact (stops_materialize _ _ _ _).discard.bind fun _ _ _ => .pure _
  | .yielding node value => by
      simp only [Stmt.analyze, Stmt.isComplete]
      apply StopsFor.required
      · intro missing
        simp [Moment.Explains, Expr.isComplete_of_isMissing missing]
      · intro present
        split
        · next outside =>
          apply StopsFor.bind (.report _ _)
          intro _ middle told
          apply StopsFor.bind
          · apply StopsFor.discard
            apply (value.resolve_stops ctx none middle).within
            · simp [Moment.calls, Stmt.calls, present, outside, mem_leading told]
            · exact id
          · exact fun _ _ _ => .pure _
        · next target inside =>
          apply StopsFor.bind
          · apply (value.resolve_stops ctx target before).within
            · simp [Moment.calls, Stmt.calls, present, inside]
            · exact id
          · exact fun _ _ _ => .pure _
  | .expression node value => by
      simp only [Stmt.analyze, Stmt.isComplete]
      apply StopsFor.bind
      · apply StopsFor.discard
        apply (value.resolve_stops ctx none before).within
        · simp [Moment.calls, Stmt.calls]
        · exact id
      · exact fun _ _ _ => .pure _
  | .function node name parameters result body => by
      simp only [Stmt.analyze, Stmt.isComplete]
      split
      · exact (StopsFor.report _ _).bind fun _ _ _ => .pure _
      · next outermost =>
        apply StopsFor.bind
        · apply stops_signatureOf
          intro incomplete _ _
          simp [Moment.Explains, incomplete]
        · intro signature read signatureRun
          apply StopsFor.bind
          · apply StopsFor.withScope
            apply StopsFor.bind (stops_declareParameters _ _ _ _)
            intro _ bound boundRun
            apply StopsFor.bind StopsFor.update
            intro _ begun begunRun
            apply StopsFor.bind
            · cases body with
              | missing => exact .pure _
              | block _ statements =>
                  apply StopsFor.discard
                  apply (statements.analyze_stops _ begun).within
                  · simp only [Moment.calls, Stmt.calls, if_neg outermost]
                    refine mem_leading signatureRun (mem_leading boundRun ?_)
                    exact mem_leading begunRun (List.mem_singleton_self _)
                  · simp +contextual [Body.isComplete]
            · exact fun _ _ _ => stops_requireReturn _ _
          · exact fun _ _ _ => .pure _

end

/-! ## Programs -/

theorem Stmts.declareFunctions_stops {stops : Abort → Prop} (before : State) :
    (statements : Stmts) → IncludesDefects stops statements.isComplete →
      statements.declareFunctions.StopsFor before stops
  | .nil, _ => .pure _
  | .cons head tail, defects => by
      simp only [Stmts.isComplete] at defects
      have later := fun middle => tail.declareFunctions_stops middle defects.right
      cases head with
      | function =>
          have here := defects.left
          simp only [Stmt.isComplete] at here
          exact (stops_declareFunction _ _ _ _ _ here.left).bind fun _ middle _ => later middle
      | _ => exact later before

namespace Program

/-- The moment at which an analysis that begins in some state comes to the statements. -/
def callsFrom (ctx : Context) (mode : AnalysisMode) (program : Program) (begun : State) :
    List Moment :=
  (if mode.readsHeaders then program.statements.declareFunctions else pure ()).leading begun
    fun _ state => if mode.readsBodies then [⟨.statements ctx program.statements, state⟩] else []

theorem callsFrom_empty (ctx : Context) (mode : AnalysisMode) (program : Program) :
    program.callsFrom ctx mode (.ofTable .empty) = program.calls ctx mode := rfl

/-- Why the analysis of a program stops. -/
def Explains (ctx : Context) (mode : AnalysisMode) (program : Program) (begun : State) :
    Abort → Prop
  | .noProgram => False
  | .malformed _ _ => program.isComplete = false
  | .undefined cause => ∃ first ∈ program.callsFrom ctx mode begun, first.Fails cause

/-- The analysis of a program comes to a statement and is done with it in the end. -/
def Finishes (ctx : Context) (mode : AnalysisMode) (program : Program) (begun after : State)
    (statement : Stmt) : Prop :=
  ∃ first ∈ program.callsFrom ctx mode begun, ∃ start,
    first.Reaches ⟨.statement ctx statement, start⟩ ∧
      Moment.EndsBy ⟨.statement ctx statement, start⟩ after

theorem analyze_stops (ctx : Context) (mode : AnalysisMode) (program : Program)
    (begun : State) :
    (program.analyze ctx mode).StopsFor begun (program.Explains ctx mode begun) := by
  have headers : program.statements.declareFunctions.StopsFor begun
      (program.Explains ctx mode begun) :=
    program.statements.declareFunctions_stops begun fun incomplete _ _ => incomplete
  have bodies : ∀ middle,
      ⟨.statements ctx program.statements, middle⟩ ∈ program.callsFrom ctx mode begun →
      (Functor.discard (program.statements.analyze ctx)).StopsFor middle
        (program.Explains ctx mode begun) := by
    intro middle called
    refine (program.statements.analyze_stops ctx middle).discard.mono fun abort explains => ?_
    cases abort with
    | noProgram => exact explains
    | malformed position defect => exact explains
    | undefined cause => exact ⟨_, called, explains⟩
  cases mode with
  | full =>
      refine headers.bind fun _ middle run => bodies middle ?_
      exact mem_leading run (List.mem_singleton_self _)
  | headers => exact headers.bind fun _ _ _ => .pure _
  | bodies => exact bodies begun (List.mem_singleton_self _)

end Program

/-- Statements that are analyzed to the end are all come to. -/
theorem Stmts.reaches_of_mem {ctx : Context} {before after : State}
    {branches : List Resolved} {statement : Stmt} :
    (statements : Stmts) → (statements.analyze ctx).run before = .ok branches after →
      statement ∈ statements.toList →
      ∃ start, Moment.Reaches ⟨.statements ctx statements, before⟩
        ⟨.statement ctx statement, start⟩
  | .nil, _, member => absurd member List.not_mem_nil
  | .cons head tail, run, member => by
      rcases run_bind_eq_ok.mp run with ⟨branch, middle, headRun, rest⟩
      rcases List.mem_cons.mp member with rfl | later
      · exact ⟨before, .single (by simp [Moment.calls, Stmts.calls])⟩
      · rcases run_bind_eq_ok.mp rest with ⟨_, _, tailRun, _⟩
        rcases tail.reaches_of_mem tailRun later with ⟨start, reaches⟩
        refine ⟨start, .head ?_ reaches⟩
        simp [Moment.calls, Stmts.calls, mem_leading headRun]

namespace Program

theorem finishes_of_mem {ctx : Context} {mode : AnalysisMode} {program : Program}
    {begun after : State} {statement : Stmt}
    (run : (program.analyze ctx mode).run begun = .ok () after)
    (reads : mode.readsBodies = true) (member : statement ∈ program.statements.toList) :
    program.Finishes ctx mode begun after statement := by
  have bodies : ∀ middle,
      ⟨.statements ctx program.statements, middle⟩ ∈ program.callsFrom ctx mode begun →
      (Functor.discard (program.statements.analyze ctx)).run middle = .ok () after →
      program.Finishes ctx mode begun after statement := by
    intro middle called ran
    rcases run_discard_eq_ok.mp ran with ⟨branches, analyzed⟩
    rcases program.statements.reaches_of_mem analyzed member with ⟨start, reaches⟩
    have ends : Moment.EndsBy ⟨.statements ctx program.statements, middle⟩ after :=
      ⟨after, ran, .refl after⟩
    exact ⟨_, called, start, reaches, ends.reaches reaches⟩
  cases mode with
  | full =>
      rcases run_bind_eq_ok.mp run with ⟨_, middle, headers, rest⟩
      exact bodies middle (mem_leading headers (List.mem_singleton_self _)) rest
  | headers => cases reads
  | bodies => exact bodies begun (List.mem_singleton_self _) run

end Program

end ComptimeTyping
