import ComptimeTyping.Proofs.Completeness
import ComptimeTyping.Proofs.Computation

/-! The rules of the analysis that only report. They look at resolved operands and
type expressions, never at the state, so they mean the same wherever they are used. Few of
them ever stop: where a tree is not complete, and where folding has no result. -/

namespace ComptimeTyping

/-! ## Reasons to stop -/

/-- The reasons to stop include every defect, unless the tree is complete. -/
def IncludesDefects (stops : Abort → Prop) (complete : Bool) : Prop :=
  complete = false → ∀ position defect, stops (.malformed position defect)

namespace IncludesDefects

variable {stops : Abort → Prop} {first second : Bool}

theorem left (defects : IncludesDefects stops (first && second)) :
    IncludesDefects stops first := by
  intro incomplete
  exact defects (by simp [incomplete])

theorem right (defects : IncludesDefects stops (first && second)) :
    IncludesDefects stops second := by
  intro incomplete
  exact defects (by simp [incomplete])

end IncludesDefects

/-- Two folded operands have no result. -/
def ArithOp.LacksResult (op : ArithOp) (left right : Operand) (cause : BigFloat.Undefined) :
    Prop :=
  ∃ leftValue rightValue, left.value = some leftValue ∧ right.value = some rightValue ∧
    leftValue.fold op rightValue = .error cause

/-- An operator lacks a result if it is one that folds. -/
def InfixOp.LacksResult (op : InfixOp) (left right : Operand) (cause : BigFloat.Undefined) :
    Prop :=
  ∃ arithmetic, op = .arithmetic arithmetic ∧ arithmetic.LacksResult left right cause

namespace Analysis

variable {stops : Abort → Prop}

theorem reporting_refuse (position : Position) (finding : Finding) :
    (refuse position finding).Reporting stops :=
  .reported _ _ _

/-! ## Filling a slot -/

theorem reporting_checkFits (ctx : Context) (position : Position) (value : Option Constant)
    (tag : Tag) : (checkFits ctx position value tag).Reporting stops := by
  unfold checkFits
  split
  · exact .pure _
  · split
    · exact .reported _ _ _
    · exact .pure _

theorem reporting_checkBoundsFit (ctx : Context) (bounds : Bounds) (tag : Tag) :
    (checkBoundsFit ctx bounds tag).Reporting stops := by
  unfold checkBoundsFit
  apply (reporting_checkFits _ _ _ _).bind
  intro start
  apply (reporting_checkFits _ _ _ _).bind
  intro stop
  exact (reporting_checkFits _ _ _ _).bind fun _ => .pure _

theorem reporting_checkElementsFit (ctx : Context) (position : Position) (tag : Tag)
    (values : List (Option Constant)) :
    (checkElementsFit ctx position tag values).Reporting stops := by
  induction values with
  | nil => exact .pure _
  | cons value values induction =>
      exact (reporting_checkFits _ _ _ _).discard.bind fun _ => induction

theorem reporting_requireFloatStep (position : Position) (element : Tag) (form : RangeForm) :
    (requireFloatStep position element form).Reporting stops := by
  unfold requireFloatStep
  split
  · exact .reported _ _ _
  · exact .pure _

theorem reporting_validateShape (position : Position) (source : Ty) (target : List Dim)
    (label : String) : (validateShape position source target label).Reporting stops := by
  unfold validateShape
  split
  · exact .pure _
  · exact .reported _ _ _

theorem reporting_checkContents (ctx : Context) (site : Position) (source : Resolved)
    (type : Ty) : (checkContents ctx site source type).Reporting stops := by
  unfold checkContents
  cases type with
  | scalar tag => exact (reporting_checkFits _ _ _ _).discard
  | array element dims => exact reporting_checkElementsFit _ _ _ _
  | range element form =>
      have stepped : (discard (requireFloatStep site element form)).Reporting stops :=
        (reporting_requireFloatStep _ _ _).discard
      dsimp only
      split
      · exact (reporting_checkBoundsFit _ _ _).discard.bind fun _ => stepped
      · exact stepped
  | comptimeArray element dims => exact .pure _
  | comptimeRange element form => exact .pure _

theorem reporting_fill (ctx : Context) (source : Resolved) (target : Ty) (label : String) :
    (fill ctx source target label).Reporting stops := by
  unfold fill
  split
  · exact .pure _
  · extract_lets assigned
    have reporting : ∀ fits, (assigned fits).Reporting stops := by
      intro fits
      unfold assigned
      split
      · exact .pure _
      · split
        · exact .reported _ _ _
        · exact .guarded (reporting_checkContents _ _ _ _) (.pure _)
    split
    · exact (reporting_validateShape _ _ _ _).bind reporting
    · exact (Reporting.pure true).bind reporting

/-! ## Operators -/

theorem reporting_negation (position : Position) (right : Operand) :
    (negation position right).Reporting stops := by
  unfold negation
  split
  · exact reporting_refuse _ _
  · split
    · exact reporting_refuse _ _
    · split
      · exact reporting_refuse _ _
      · split
        · exact .pure _
        · exact .pure _

theorem reporting_prefixed (node : Node) (operator : String) (right : Operand)
    (defects : IncludesDefects stops (PrefixOp.ofSymbol? operator).isSome := by
      exact fun _ _ _ => trivial) :
    (prefixed node operator right).Reporting stops := by
  unfold prefixed
  split
  · exact .pure _
  · split
    · exact reporting_negation _ _
    · split
      · exact .pure _
      · exact reporting_refuse _ _
    · next unknown => exact .malformed (defects (by rw [unknown]; rfl) _ _)

theorem reporting_keepsFraction (source : Resolved) (result : Tag) :
    (keepsFraction source result).Reporting stops := by
  unfold keepsFraction
  split
  · split
    · exact .reported _ _ _
    · exact .pure _
  · exact .pure _

theorem reporting_foldComptime (op : ArithOp) (left right : Resolved)
    (leftTag rightTag : Tag)
    (undefined : ∀ cause, op.LacksResult left.operand right.operand cause →
      stops (.undefined cause) := by exact fun _ _ => trivial) :
    (foldComptime op left right leftTag rightTag).Reporting stops := by
  unfold foldComptime
  dsimp only
  split
  · next leftValue rightValue leftKnown rightKnown =>
    split
    · next cause lacking =>
        exact .stop (undefined cause ⟨leftValue, rightValue, leftKnown, rightKnown, lacking⟩)
    · exact .pure _
    · split
      · exact reporting_refuse _ _
      · exact .pure _
  · exact .pure _

theorem reporting_arithmeticResult (node : Node) (left right : Resolved)
    (leftTag rightTag : Tag) (target : Option Ty) :
    (arithmeticResult node left right leftTag rightTag target).Reporting stops := by
  unfold arithmeticResult
  split
  · apply (reporting_keepsFraction _ _).bind
    intro leftKept
    split
    · exact .pure _
    · apply (reporting_keepsFraction _ _).bind
      intro rightKept
      split
      · exact .pure _
      · exact .pure _
  · split
    · exact .pure _
    · exact .reported _ _ _

theorem reporting_combineNumbers (ctx : Context) (node : Node) (op : ArithOp)
    (left right : Resolved) (leftTag rightTag : Tag) (target : Option Ty)
    (undefined : ∀ cause, op.LacksResult left.operand right.operand cause →
      stops (.undefined cause) := by exact fun _ _ => trivial) :
    (combineNumbers ctx node op left right leftTag rightTag target).Reporting stops := by
  unfold combineNumbers
  dsimp only
  split
  · exact reporting_refuse _ _
  · split
    · exact reporting_foldComptime _ _ _ _ _ undefined
    · apply (reporting_arithmeticResult _ _ _ _ _ _).bind
      intro result
      split
      · exact .pure _
      · apply Reporting.guarded (reporting_checkFits _ _ _ _).discard
        apply Reporting.guarded (reporting_checkFits _ _ _ _).discard
        split
        · exact reporting_refuse _ _
        · exact .pure _

theorem reporting_arithmetic (ctx : Context) (node : Node) (op : ArithOp)
    (left right : Resolved) (target : Option Ty)
    (undefined : ∀ cause, op.LacksResult left.operand right.operand cause →
      stops (.undefined cause) := by exact fun _ _ => trivial) :
    (arithmetic ctx node op left right target).Reporting stops := by
  unfold arithmetic
  split
  · exact .pure _
  · split
    · exact reporting_combineNumbers _ _ _ _ _ _ _ _ undefined
    · exact reporting_refuse _ _
    · exact reporting_refuse _ _

theorem reporting_compareScalars (ctx : Context) (node : Node) (operator : String)
    (ordered : Bool) (left right : Resolved) (leftTag rightTag : Tag) :
    (compareScalars ctx node operator ordered left right leftTag rightTag).Reporting stops := by
  unfold compareScalars
  dsimp only
  split
  · exact .report _ _
  · split
    · exact .report _ _
    · split
      · apply Reporting.guarded (reporting_checkFits _ _ _ _).discard
        split
        · exact (reporting_checkFits _ _ _ _).discard
        · exact .pure _
      · exact .pure _

theorem reporting_comparison (ctx : Context) (node : Node) (operator : String)
    (ordered : Bool) (left right : Resolved) :
    (comparison ctx node operator ordered left right).Reporting stops := by
  unfold comparison
  split
  · split
    · exact (reporting_compareScalars _ _ _ _ _ _ _ _).bind fun _ => .pure _
    · exact .reported _ _ _
  · exact .pure _

theorem reporting_requireLogical (operator : String) (side : Resolved) :
    (requireLogical operator side).Reporting stops := by
  unfold requireLogical
  split
  · exact .report _ _
  · exact .pure _

theorem reporting_logical (operator : String) (left right : Resolved) :
    (logical operator left right).Reporting stops := by
  unfold logical
  apply (reporting_requireLogical _ _).bind
  intro _
  exact (reporting_requireLogical _ _).bind fun _ => .pure _

theorem reporting_infixed (ctx : Context) (node : Node) (operator : String) (op : InfixOp)
    (left right : Resolved) (target : Option Ty)
    (undefined : ∀ cause, op.LacksResult left.operand right.operand cause →
      stops (.undefined cause) := by exact fun _ _ => trivial) :
    (infixed ctx node operator op left right target).Reporting stops := by
  cases op with
  | arithmetic op =>
      apply reporting_arithmetic
      exact fun cause lacking => undefined cause ⟨op, rfl, lacking⟩
  | comparison ordered => exact reporting_comparison _ _ _ _ _ _
  | logical => exact reporting_logical _ _ _

theorem reporting_converted (ctx : Context) (node : Node) (value : Resolved) (target : Ty) :
    (converted ctx node value target).Reporting stops := by
  unfold converted
  split
  · exact .pure _
  · split
    · exact .reported _ _ _
    · split
      · exact (reporting_checkContents _ _ _ _).bind fun _ => .pure _
      · exact .pure _

theorem reporting_requireCondition (condition : Resolved) :
    (requireCondition condition).Reporting stops := by
  unfold requireCondition
  split
  · exact .report _ _
  · exact .pure _

/-! ## Literals -/

theorem reporting_integerLiteral (node : Node) (text : String)
    (defects : IncludesDefects stops (Constant.ofIntegerLiteral? text).isSome := by
      exact fun _ _ _ => trivial) :
    (integerLiteral node text).Reporting stops := by
  unfold integerLiteral
  split
  · exact .pure _
  · next unreadable => exact .malformed (defects (by rw [unreadable]; rfl) _ _)

theorem reporting_floatLiteral (node : Node) (text : String)
    (defects : IncludesDefects stops (Constant.ofFloatLiteral text).toOption.isSome := by
      exact fun _ _ _ => trivial) :
    (floatLiteral node text).Reporting stops := by
  unfold floatLiteral
  split
  · exact .pure _
  · next unreadable => exact .malformed (defects (by rw [unreadable]; rfl) _ _)

/-! ## Branches and arrays -/

theorem reporting_checkBranchesFit (ctx : Context) (tag : Tag) (branches : List Resolved) :
    (checkBranchesFit ctx tag branches).Reporting stops := by
  induction branches with
  | nil => exact .pure _
  | cons branch branches induction =>
      unfold checkBranchesFit
      exact .guarded (reporting_checkFits _ _ _ _).discard induction

theorem reporting_joinBranches (ctx : Context) (branches : List Resolved) :
    (joinBranches ctx branches).Reporting stops := by
  unfold joinBranches
  split
  · exact .reported _ _ _
  · exact .pure _
  · extract_lets ended
    have reporting : (ended ()).Reporting stops := by
      unfold ended
      split
      · exact .pure _
      · exact .pure _
    split
    · exact .guarded (reporting_checkBranchesFit _ _ _) reporting
    · exact reporting

theorem reporting_emptyArray (node : Node) (target : Option Ty) :
    (emptyArray node target).Reporting stops := by
  unfold emptyArray
  split
  · dsimp only
    split
    · exact .pure _
    · exact .reported _ _ _
  · exact reporting_refuse _ _

theorem reporting_vector (ctx : Context) (node : Node) (first : Tag)
    (elements : List Resolved) (target : Option Ty) :
    (vector ctx node first elements target).Reporting stops := by
  unfold vector
  split
  · exact reporting_refuse _ _
  · dsimp only
    split
    · exact reporting_refuse _ _
    · split
      · split
        · exact (reporting_checkBranchesFit _ _ _).bind fun _ => .pure _
        · exact .pure _
      · exact (reporting_checkBranchesFit _ _ _).bind fun _ => .pure _

theorem reporting_rows (first : Axes Dim) (elements : List Resolved) (firstTag : Tag) :
    (rows first elements firstTag).Reporting stops := by
  unfold rows
  split
  · exact reporting_refuse _ _
  · dsimp only
    split
    · exact .pure _
    · exact .pure _

theorem reporting_arrayLiteral (ctx : Context) (node : Node) (elements : List Resolved)
    (target : Option Ty) : (arrayLiteral ctx node elements target).Reporting stops := by
  unfold arrayLiteral
  split
  · exact reporting_emptyArray _ _
  · split
    · exact .pure _
    · split
      · exact reporting_vector _ _ _ _ _
      · split
        · exact reporting_rows _ _ _
        · exact reporting_refuse _ _

/-! ## Ranges -/

theorem reporting_startParts (start step : Expr) : (startParts start step).Reporting stops := by
  unfold startParts
  split
  · exact .reported _ _ _
  · exact .pure _

theorem reporting_addBound (part : String) (parts : RangeParts) (bound : Resolved) :
    (addBound part parts bound).Reporting stops := by
  unfold addBound
  split
  · exact .pure _
  · split
    · exact .reported _ _ _
    · dsimp only
      split
      · exact .pure _
      · split
        · exact .pure _
        · exact .reported _ _ _

theorem reporting_adaptRange (ctx : Context) (hint tag : Tag) (bounds : Bounds) :
    (adaptRange ctx hint tag bounds).Reporting stops := by
  unfold adaptRange
  split
  · apply (reporting_checkBoundsFit _ _ _).bind
    intro fits
    split
    · exact .pure _
    · exact .pure _
  · exact .pure _

theorem reporting_rangeLiteral (ctx : Context) (node : Node) (step : Position)
    (form : RangeForm) (hint : Tag) (parts : RangeParts) (bounds : Bounds) :
    (rangeLiteral ctx node step form hint parts bounds).Reporting stops := by
  unfold rangeLiteral
  split
  · exact .pure _
  · split
    · exact .pure _
    · apply (reporting_adaptRange _ _ _ _).bind
      intro adapted
      split
      · exact .pure _
      · split
        · exact reporting_refuse _ _
        · apply (reporting_requireFloatStep _ _ _).bind
          intro stepped
          split
          · exact .pure _
          · exact .pure _

theorem reporting_validateRangeIndex (position : Position) (type : Ty) :
    (validateRangeIndex position type).Reporting stops := by
  unfold validateRangeIndex
  split
  · split
    · exact .pure _
    · exact .reported _ _ _
  · dsimp only
    split
    · exact .pure _
    · split
      · exact .reported _ _ _
      · exact .reported _ _ _

/-! ## Elements, slices and properties -/

theorem reporting_literalElement (ctx : Context) (array index : Resolved) (outer : Dim) :
    (literalElement ctx array index outer).Reporting stops := by
  unfold literalElement
  dsimp only
  apply (reporting_checkFits _ _ _ _).bind
  intro fits
  split
  · split
    · exact .pure _
    · split
      · exact .pure _
      · split
        · exact .reported _ _ _
        · exact .pure _
  · exact .pure _

theorem reporting_element (ctx : Context) (array index : Resolved) (outer : Dim) :
    (element ctx array index outer).Reporting stops := by
  unfold element
  dsimp only
  split
  · exact .pure _
  · split
    · exact .reported _ _ _
    · split
      · exact reporting_literalElement _ _ _ _
      · split
        · exact .pure _
        · split
          · exact .reported _ _ _
          · split
            · exact .reported _ _ _
            · exact .reported _ _ _

theorem reporting_sliced (node : Node) (array : Operand) (span : SliceSpan) :
    (sliced node array span).Reporting stops := by
  unfold sliced
  split
  · exact .pure _
  · split
    · exact reporting_refuse _ _
    · exact .pure _
  · exact .pure _

theorem reporting_slice (ctx : Context) (node : Node) (array index : Resolved)
    (form : RangeForm) (outer : Dim) :
    (slice ctx node array index form outer).Reporting stops := by
  unfold slice
  apply (reporting_validateRangeIndex _ _).bind
  intro valid
  split
  · exact .pure _
  · extract_lets spanned
    have reporting : ∀ fits, (spanned fits).Reporting stops := by
      intro fits
      unfold spanned
      split
      · exact .pure _
      · split
        · exact reporting_refuse _ _
        · exact reporting_sliced _ _ _
    split
    · exact (reporting_checkBoundsFit _ _ _).bind reporting
    · exact (Reporting.pure true).bind reporting

theorem reporting_indexing (ctx : Context) (node : Node) (array index : Resolved) :
    (indexing ctx node array index).Reporting stops := by
  unfold indexing
  split
  · exact .pure _
  · split
    · exact reporting_refuse _ _
    · split
      · exact reporting_slice _ _ _ _ _ _
      · exact reporting_element _ _ _ _

theorem reporting_property (left : Operand) (name : Ident) :
    (property left name).Reporting stops := by
  unfold property
  split
  · exact .pure _
  · split
    · exact .pure _
    · exact .pure _
    · exact reporting_refuse _ _

/-! ## Type expressions and signatures -/

theorem reporting_readDims (node : Node) (dims : List (Option DimExpr))
    (defects : IncludesDefects stops (dims.all Option.isSome) := by
      exact fun _ _ _ => trivial) :
    (readDims node dims).Reporting stops := by
  induction dims with
  | nil => exact .pure _
  | cons dim dims induction =>
      cases dim with
      | none => exact .malformed (defects rfl _ _)
      | some dim =>
          have induction := induction defects
          unfold readDims
          split
          · exact induction.bind fun _ => .pure _
          · split
            · exact .reported _ _ _
            · exact induction.bind fun _ => .pure _

theorem reporting_enclose (enclosing : Option Enclosing) (position : Position) (element : Ty) :
    (enclose enclosing position element).Reporting stops := by
  unfold enclose
  split
  · exact .pure _
  · split
    · exact .pure _
    · split
      · exact .reported _ _ _
      · split
        · exact .pure _
        · exact .reported _ _ _

theorem reporting_namedType (node : Node) (name : String) :
    (namedType node name).Reporting stops := by
  unfold namedType
  split
  · exact .pure _
  · exact .reported _ _ _

theorem reporting_rangeType (node : Node) (element : Ty) :
    (rangeType node element).Reporting stops := by
  unfold rangeType
  split
  · exact .pure _
  · split
    · exact .pure _
    · exact .reported _ _ _

end Analysis

open Analysis

theorem TypeExpr.reporting_resolveIn {stops : Abort → Prop} (type : TypeExpr)
    (enclosing : Option Enclosing)
    (defects : IncludesDefects stops type.isComplete := by exact fun _ _ _ => trivial) :
    (type.resolveIn enclosing).Reporting stops := by
  induction type generalizing enclosing with
  | missing => exact .malformed (defects rfl _ _)
  | named node name =>
      exact (reporting_namedType _ _).bind fun _ => reporting_enclose _ _ _
  | array node dims element induction =>
      unfold TypeExpr.resolveIn
      simp only [isComplete] at defects
      apply Reporting.required
      · intro lacking
        apply defects
        rcases Bool.or_eq_true_iff.mp lacking with empty | missing
        · simp [empty]
        · simp [isComplete_of_isMissing missing]
      · apply (reporting_readDims _ _ defects.left.right).bind
        intro read
        split
        · exact .pure _
        · split
          · exact induction _ defects.right
          · exact induction _ defects.right
  | range node element induction =>
      unfold TypeExpr.resolveIn
      simp only [isComplete] at defects
      apply Reporting.required
      · exact fun missing => defects (isComplete_of_isMissing missing) _ _
      · apply (induction none defects).bind
        intro resolved
        exact (reporting_rangeType _ _).bind fun _ => reporting_enclose _ _ _

theorem TypeExpr.reporting_resolve {stops : Abort → Prop} (type : TypeExpr)
    (defects : IncludesDefects stops type.isComplete := by exact fun _ _ _ => trivial) :
    type.resolve.Reporting stops :=
  type.reporting_resolveIn none defects

namespace Analysis

variable {stops : Abort → Prop}

theorem reporting_declaredType (name : String) (type : TypeExpr)
    (defects : IncludesDefects stops type.isCompleteIfAny := by exact fun _ _ _ => trivial) :
    (declaredType name type).Reporting stops := by
  unfold declaredType
  split
  · exact .pure _
  · next present =>
    simp only [TypeExpr.isCompleteIfAny, present, Bool.false_or] at defects
    apply (type.reporting_resolve defects).bind
    intro resolved
    split
    · exact .reported _ _ _
    · exact .pure _

theorem reporting_bindingType_none (ctx : Context) (isMutable : Bool) (name : Ident)
    (value : Resolved) : (bindingType ctx isMutable name none value).Reporting stops := by
  unfold bindingType
  dsimp only
  split
  · exact .reported _ _ _
  · split
    · exact .reported _ _ _
    · exact .pure _

theorem reporting_parameterType (name : String) (type : TypeExpr)
    (defects : IncludesDefects stops type.isComplete := by exact fun _ _ _ => trivial) :
    (parameterType name type).Reporting stops := by
  unfold parameterType
  apply (type.reporting_resolve defects).bind
  intro resolved
  split
  · exact .reported _ _ _
  · exact .pure _

theorem reporting_readParameters (node : Node) (function : String) (read : List Parameter)
    (parameters : List (Option ParameterExpr))
    (defects : IncludesDefects stops
      (parameters.all fun parameter => parameter.any (·.isComplete)) := by
      exact fun _ _ _ => trivial) :
    (readParameters node function read parameters).Reporting stops := by
  induction parameters generalizing read with
  | nil => exact .pure _
  | cons parameter parameters induction =>
      cases parameter with
      | none => exact .malformed (defects rfl _ _)
      | some parameter =>
          simp only [List.all_cons, Option.any_some] at defects
          have here := defects.left
          simp only [ParameterExpr.isComplete] at here
          unfold readParameters
          split
          · next unnamed => exact .malformed (here.left (by rw [unnamed]; rfl) _ _)
          · apply Reporting.required
            · exact fun missing => here.right (TypeExpr.isComplete_of_isMissing missing) _ _
            · apply (reporting_parameterType _ _ here.right).bind
              intro type
              split
              · exact (Reporting.report _ _).bind fun _ => induction _ defects.right
              · exact induction _ defects.right

theorem reporting_readSignature (node : Node) (name : Option Ident)
    (parameters : List (Option ParameterExpr)) (result : TypeExpr) (body : Body)
    (defects : IncludesDefects stops (isCompleteHead name parameters result body) := by
      exact fun _ _ _ => trivial) :
    (readSignature node name parameters result body).Reporting stops := by
  unfold readSignature
  cases name with
  | none => exact .malformed (defects rfl _ _)
  | some name =>
      simp only [isCompleteHead, Option.isSome_some, Bool.true_and] at defects
      apply Reporting.required
      · exact fun missing => defects.right (by rw [missing]; rfl) _ _
      · apply (reporting_readParameters _ _ _ _ defects.left.left).bind
        intro read
        dsimp only
        split
        · exact .pure _
        · next present =>
          have written := defects.left.right
          simp only [TypeExpr.isCompleteIfAny, present, Bool.false_or] at written
          exact (result.reporting_resolve written).bind fun _ => .pure _

/-! ## Calls and returns -/

theorem reporting_requireArity (node : Node) (signature : Signature) (given : Nat) :
    (requireArity node signature given).Reporting stops := by
  unfold requireArity
  split
  · exact .report _ _
  · exact .pure _

theorem reporting_requireNoValue (signature : Signature) (value : Resolved) :
    (requireNoValue signature value).Reporting stops := by
  unfold requireNoValue
  split
  · exact .report _ _
  · exact .pure _

end Analysis

end ComptimeTyping
