import ComptimeTyping.Proofs.Assignment
import ComptimeTyping.Proofs.Checks
import ComptimeTyping.Proofs.Sink

/-! What can be wrong with resolved operands. Each rule of the analysis has its problems, told
from the operands alone, with what is reported of them and where. None of them is dropped: the
rule leaves it in the sink. -/

namespace ComptimeTyping.Analysis

variable {ctx : Context} {node : Node} {position : Position} {before : State}
  {diagnostic : Diagnostic}

/-! ## Values and slots -/

/-- A known value that does not fit the tag that it is given. -/
inductive OverflowProblem (ctx : Context) (position : Position) (value : Option Constant)
    (tag : Tag) : Diagnostic → Prop
  | overflow {constant : Constant} (known : value = some constant)
      (exceeds : constant.fits tag ctx.width = false) :
      OverflowProblem ctx position value tag
        ((Finding.overflow constant tag ctx.width).placed position)

/-- What a comptime operand holds does not fit the type that it is given. -/
inductive ContentsProblem (ctx : Context) (site : Position) (source : Resolved) :
    Ty → Diagnostic → Prop
  | value {tag : Tag} {diagnostic : Diagnostic}
      (problem : OverflowProblem ctx source.position source.operand.value tag diagnostic) :
      ContentsProblem ctx site source (.scalar tag) diagnostic
  | element {tag : Tag} {dims : Axes Dim} {elements : List (Option Constant)}
      {value : Option Constant} {diagnostic : Diagnostic}
      (known : source.operand.elements = some elements) (member : value ∈ elements)
      (problem : OverflowProblem ctx source.position value tag diagnostic) :
      ContentsProblem ctx site source (.array tag dims) diagnostic
  | bound {tag : Tag} {form : RangeForm} {bounds : Bounds} {bound : Bound}
      {diagnostic : Diagnostic} (known : source.operand.bounds = some bounds)
      (member : bound ∈ [bounds.start, bounds.stop, bounds.step])
      (problem : OverflowProblem ctx bound.position bound.value tag diagnostic) :
      ContentsProblem ctx site source (.range tag form) diagnostic
  | step {tag : Tag} {form : RangeForm} (float : tag.isFloat = true)
      (bounded : form.isBounded = true) (stepless : form.hasStep = false) :
      ContentsProblem ctx site source (.range tag form) (Finding.floatRangeStep.placed site)

/-- How the shape of a value differs from that of an array type. -/
def mismatch? (source target : Ty) : Option ShapeMismatch :=
  match target with
  | .array _ dims => source.dims?.bind fun given => Shape.checkConcrete given.toList dims.toList
  | _ => none

/-- A value that does not fit the slot that it is to fill. -/
inductive SlotProblem (ctx : Context) (source : Resolved) (target : Ty) (label : String) :
    Diagnostic → Prop
  | shape {mismatch : ShapeMismatch} (known : source.isUnknown = false)
      (differs : mismatch? source.type target = some mismatch) :
      SlotProblem ctx source target label ((Finding.shape label mismatch).placed source.position)
  | type {failure : CoercionFailure} (shaped : mismatch? source.type target = none)
      (refused : source.type.assign target false = .error failure) :
      SlotProblem ctx source target label
        ((Finding.coercion label failure).placed source.position)
  | contents {type : Ty} {diagnostic : Diagnostic} (known : source.isUnknown = false)
      (asked : target.isUnknown = false)
      (assigned : source.type.assign target false = .ok type)
      (comptime : source.type.isComptime = true)
      (problem : ContentsProblem ctx source.position source type diagnostic) :
      SlotProblem ctx source target label diagnostic

theorem known_of_type {side : Resolved} (type : side.type ≠ .unknown) :
    side.isUnknown = false := by
  simpa [Resolved.isUnknown, Operand.isUnknown, Ty.isUnknown, Resolved.type] using type

theorem leaves_checkFits {value : Option Constant} {tag : Tag}
    (problem : OverflowProblem ctx position value tag diagnostic) :
    (checkFits ctx position value tag).Leaves before diagnostic := by
  cases problem with
  | @overflow constant known exceeds =>
      have checked : (tag.isNumeric && !tag.isComptime && !constant.fits tag ctx.width) = true := by
        by_contra unchecked
        simp [fits_of_not_checked unchecked] at exceeds
      simp [checkFits, known, checked]

theorem leaves_checkBoundsFit {bounds : Bounds} {bound : Bound} {tag : Tag}
    (member : bound ∈ [bounds.start, bounds.stop, bounds.step])
    (problem : OverflowProblem ctx bound.position bound.value tag diagnostic) :
    (checkBoundsFit ctx bounds tag).Leaves before diagnostic := by
  simp only [List.mem_cons, List.not_mem_nil, or_false] at member
  have leaves : ∀ before, (checkFits ctx bound.position bound.value tag).Leaves before diagnostic :=
    fun _ => leaves_checkFits problem
  have silent : ∀ other : Bound,
      (checkFits ctx other.position other.value tag).Reporting fun _ => False :=
    fun _ => reporting_checkFits _ _ _ _
  rcases member with rfl | rfl | rfl
  · exact (leaves _).bind
  · exact .behind (silent _) fun _ _ => (leaves _).bind
  · exact .behind (silent _) fun _ _ => .behind (silent _) fun _ _ => (leaves _).bind

theorem leaves_checkElementsFit {values : List (Option Constant)} {value : Option Constant}
    {tag : Tag} (member : value ∈ values)
    (problem : OverflowProblem ctx position value tag diagnostic) :
    (checkElementsFit ctx position tag values).Leaves before diagnostic := by
  induction values generalizing before with
  | nil => simp at member
  | cons head values induction =>
      rcases List.mem_cons.mp member with rfl | later
      · exact (leaves_checkFits problem).discard.bind
      · exact .behind (reporting_checkFits _ _ _ _).discard fun _ _ => induction later

theorem leaves_checkBranchesFit {branches : List Resolved} {branch : Resolved} {tag : Tag}
    (member : branch ∈ branches) (comptime : branch.type.isComptime = true)
    (problem : OverflowProblem ctx branch.position branch.operand.value tag diagnostic) :
    (checkBranchesFit ctx tag branches).Leaves before diagnostic := by
  induction branches generalizing before with
  | nil => simp at member
  | cons head branches induction =>
      simp only [checkBranchesFit]
      rcases List.mem_cons.mp member with rfl | later
      · simpa [comptime] using (leaves_checkFits problem).discard.bind
      · split
        · exact .behind (reporting_checkFits _ _ _ _).discard fun _ _ => induction later
        · exact induction later

theorem leaves_requireFloatStep {tag : Tag} {form : RangeForm} (float : tag.isFloat = true)
    (bounded : form.isBounded = true) (stepless : form.hasStep = false) :
    (requireFloatStep position tag form).Leaves before
      (Finding.floatRangeStep.placed position) := by
  simp [requireFloatStep, float, bounded, stepless]

theorem leaves_checkContents {site : Position} {source : Resolved} {type : Ty}
    (problem : ContentsProblem ctx site source type diagnostic) :
    (checkContents ctx site source type).Leaves before diagnostic := by
  cases problem with
  | value problem => exact (leaves_checkFits problem).discard
  | element known member problem =>
      simpa [checkContents, known] using leaves_checkElementsFit member problem
  | bound known member problem =>
      simpa [checkContents, known] using (leaves_checkBoundsFit member problem).discard.bind
  | step float bounded stepless =>
      simp only [checkContents]
      cases source.operand.bounds with
      | none => exact (leaves_requireFloatStep float bounded stepless).discard
      | some bounds =>
          exact .behind (reporting_checkBoundsFit _ _ _).discard fun _ _ =>
            (leaves_requireFloatStep float bounded stepless).discard

/-- What may fill a slot has its shape. -/
theorem mismatch?_of_assign {source target type : Ty} (known : source.isUnknown = false)
    (asked : target.isUnknown = false) (assigned : source.assign target false = .ok type) :
    mismatch? source target = none := by
  cases Ty.enters_iff.mpr assigned with
  | unknown missing => simp [known, asked] at missing
  | literal fits accepts => simpa [mismatch?, Ty.dims?, ← Shape.check_eq] using fits
  | array fits accepts => simpa [mismatch?, Ty.dims?] using fits
  | _ => rfl

theorem leaves_fill {source : Resolved} {target : Ty} {label : String}
    (problem : SlotProblem ctx source target label diagnostic) :
    (fill ctx source target label).Leaves before diagnostic := by
  cases problem with
  | shape known differs =>
      cases target with
      | array element dims =>
          simp only [mismatch?] at differs
          simp [fill, known, Ty.isUnknown, validateShape, differs]
      | _ => simp [mismatch?] at differs
  | type shaped refused =>
      have settled : ¬(source.isUnknown || target.isUnknown) = true := by
        intro missing
        have assigned : source.type.assign target false = .ok target := if_pos missing
        simp [assigned] at refused
      unfold fill
      rw [if_neg settled]
      cases target with
      | array element dims =>
          simp only [mismatch?] at shaped
          simp [validateShape, shaped, refused]
      | _ => simp [refused]
  | @contents type _ known asked assigned comptime problem =>
      have shaped : mismatch? source.type target = none :=
        mismatch?_of_assign known asked assigned
      have leaves : (checkContents ctx source.position source type).Leaves before diagnostic :=
        leaves_checkContents problem
      cases target with
      | array element dims =>
          simp only [mismatch?] at shaped
          simpa [fill, known, asked, validateShape, shaped, assigned, comptime] using leaves
      | _ => simpa [fill, known, asked, assigned, comptime] using leaves

theorem leaves_materialize {source : Resolved} {target : Ty} {label : String}
    (problem : SlotProblem ctx source target label diagnostic) :
    (materialize ctx source target label).Leaves before diagnostic :=
  (leaves_fill problem).bind

/-! ## Operators -/

inductive PrefixProblem (node : Node) (operator : String) (right : Operand) :
    Diagnostic → Prop
  | negated (known : right.isUnknown = false)
      (read : PrefixOp.ofSymbol? operator = some .negate)
      (other : numericTag? right.type = none) :
      PrefixProblem node operator right
        ((Finding.undefinedOperator "-" right.type).placed node.position)
  | usize (read : PrefixOp.ofSymbol? operator = some .negate) (address : right.type = .usize) :
      PrefixProblem node operator right (Finding.negatedUsize.placed node.position)
  | not (known : right.isUnknown = false) (read : PrefixOp.ofSymbol? operator = some .not)
      (other : right.type ≠ .bool) :
      PrefixProblem node operator right
        ((Finding.notRequiresBool right.type).placed node.position)

theorem leaves_prefixed {operator : String} {right : Operand}
    (problem : PrefixProblem node operator right diagnostic) :
    (prefixed node operator right).Leaves before diagnostic := by
  cases problem with
  | negated known read other =>
      cases scalar : right.type.scalarTag? with
      | none => simp [prefixed, known, read, negation, scalar]
      | some tag =>
          have notNumeric : tag.isNumeric = false := by simpa [numericTag?, scalar] using other
          simp [prefixed, known, read, negation, scalar, notNumeric]
  | usize read address =>
      have known : right.isUnknown = false := by simp [Operand.isUnknown, Ty.isUnknown, address]
      simp [prefixed, known, read, negation, address, Ty.scalarTag?, Tag.isNumeric, Tag.isInteger]
  | not known read other => simp [prefixed, known, read, other]

/-- The tags of two operands that are numbers. -/
structure Numbers (left right : Resolved) (leftTag rightTag : Tag) : Prop where
  left : numericTag? left.type = some leftTag
  right : numericTag? right.type = some rightTag

/-- Integer division has no floats among its operands. -/
def TakesTags (op : ArithOp) (left right : Tag) : Prop :=
  op = .intDiv ∨ op = .rem → left.isFloat = false ∧ right.isFloat = false

/-- A float literal that is not marked, where the result is an integer. -/
def losesFraction (source : Resolved) (result : Tag) : Bool :=
  source.type == .comptimeFloat && !source.operand.explicit && result.isInteger

/-- The tag of the result where an operand is concrete and the operands agree. -/
inductive ResultTag (left right : Resolved) (leftTag rightTag : Tag) (target : Option Ty)
    (tag : Tag) : Prop
  | agreed (unmarked : (left.operand.explicit || right.operand.explicit) = false)
      (agreed : leftTag.resolve rightTag false = .ok tag)
  | chosen (marked : (left.operand.explicit || right.operand.explicit) = true)
      (chosen : explicitResult left.operand right.operand leftTag rightTag target = tag)
      (leftKept : losesFraction left tag = false) (rightKept : losesFraction right tag = false)

/-- Two numbers of which one is concrete. -/
inductive MixedProblem (ctx : Context) (node : Node) (op : ArithOp) (left right : Resolved)
    (leftTag rightTag : Tag) (target : Option Ty) : Diagnostic → Prop
  | disagree {failure : CoercionFailure}
      (unmarked : (left.operand.explicit || right.operand.explicit) = false)
      (refused : leftTag.resolve rightTag false = .error failure) :
      MixedProblem ctx node op left right leftTag rightTag target
        ((Finding.coercion "" failure).placed node.position)
  | leftFraction {tag : Tag} (marked : (left.operand.explicit || right.operand.explicit) = true)
      (chosen : explicitResult left.operand right.operand leftTag rightTag target = tag)
      (lost : losesFraction left tag = true) :
      MixedProblem ctx node op left right leftTag rightTag target
        ((Finding.coercion "" (.cannotAdapt .comptimeFloat tag)).placed left.position)
  | rightFraction {tag : Tag} (marked : (left.operand.explicit || right.operand.explicit) = true)
      (chosen : explicitResult left.operand right.operand leftTag rightTag target = tag)
      (kept : losesFraction left tag = false) (lost : losesFraction right tag = true) :
      MixedProblem ctx node op left right leftTag rightTag target
        ((Finding.coercion "" (.cannotAdapt .comptimeFloat tag)).placed right.position)
  | leftOverflow {tag : Tag} {diagnostic : Diagnostic}
      (result : ResultTag left right leftTag rightTag target tag)
      (comptime : leftTag.isComptime = true)
      (problem : OverflowProblem ctx left.position left.operand.value tag diagnostic) :
      MixedProblem ctx node op left right leftTag rightTag target diagnostic
  | rightOverflow {tag : Tag} {diagnostic : Diagnostic}
      (result : ResultTag left right leftTag rightTag target tag)
      (comptime : rightTag.isComptime = true)
      (problem : OverflowProblem ctx right.position right.operand.value tag diagnostic) :
      MixedProblem ctx node op left right leftTag rightTag target diagnostic
  | floatDivision {tag : Tag} (result : ResultTag left right leftTag rightTag target tag)
      (division : op = .div) (integer : tag.isInteger = true) :
      MixedProblem ctx node op left right leftTag rightTag target
        ((Finding.floatDivision tag).placed node.position)

inductive ArithmeticProblem (ctx : Context) (node : Node) (op : ArithOp)
    (left right : Resolved) (target : Option Ty) : Diagnostic → Prop
  | left (leftKnown : left.isUnknown = false) (rightKnown : right.isUnknown = false)
      (other : numericTag? left.type = none) :
      ArithmeticProblem ctx node op left right target
        ((Finding.undefinedOperator op.symbol left.type).placed node.position)
  | right {leftTag : Tag} (number : numericTag? left.type = some leftTag)
      (known : right.isUnknown = false) (other : numericTag? right.type = none) :
      ArithmeticProblem ctx node op left right target
        ((Finding.undefinedOperator op.symbol right.type).placed node.position)
  | integers {leftTag rightTag : Tag} (numbers : Numbers left right leftTag rightTag)
      (refused : ¬TakesTags op leftTag rightTag) :
      ArithmeticProblem ctx node op left right target
        ((Finding.integerOperator op.symbol leftTag rightTag).placed node.position)
  | zero {leftTag rightTag : Tag} {leftValue rightValue : Constant}
      (numbers : Numbers left right leftTag rightTag) (takes : TakesTags op leftTag rightTag)
      (comptime : leftTag.isComptime = true ∧ rightTag.isComptime = true)
      (leftKnown : left.operand.value = some leftValue)
      (rightKnown : right.operand.value = some rightValue)
      (division : op = .div ∨ op = .intDiv ∨ op = .rem) (zero : rightValue.sign = 0) :
      ArithmeticProblem ctx node op left right target
        (Finding.divisionByZero.placed right.position)
  | mixed {leftTag rightTag : Tag} {diagnostic : Diagnostic}
      (numbers : Numbers left right leftTag rightTag) (takes : TakesTags op leftTag rightTag)
      (concrete : ¬(leftTag.isComptime = true ∧ rightTag.isComptime = true))
      (problem : MixedProblem ctx node op left right leftTag rightTag target diagnostic) :
      ArithmeticProblem ctx node op left right target diagnostic

section Arithmetic

variable {op : ArithOp} {left right : Resolved} {leftTag rightTag tag : Tag}
  {target : Option Ty}

theorem known_of_number {side : Resolved} (number : numericTag? side.type = some tag) :
    side.isUnknown = false := by
  apply known_of_type
  intro type
  simp [numericTag?, type, Ty.scalarTag?, Tag.isNumeric, Tag.isInteger, Tag.isFloat,
    Option.filter] at number

theorem arithmetic_of_numbers (numbers : Numbers left right leftTag rightTag) :
    arithmetic ctx node op left right target =
      combineNumbers ctx node op left right leftTag rightTag target := by
  simp [arithmetic, known_of_number numbers.left, known_of_number numbers.right, numbers.left,
    numbers.right]

theorem TakesTags.accepted (takes : TakesTags op leftTag rightTag) :
    ¬((op = .intDiv ∨ op = .rem) ∧ (leftTag.isFloat = true ∨ rightTag.isFloat = true)) := by
  rintro ⟨division, float⟩
  simp [takes division] at float

theorem keepsFraction_of_kept {source : Resolved} (kept : losesFraction source tag = false) :
    keepsFraction source tag = pure true := by
  simp only [losesFraction, Bool.and_eq_false_iff, beq_eq_false_iff_ne, Bool.not_eq_false'] at kept
  unfold keepsFraction
  rw [if_neg]
  rintro ⟨literal, unmarked, integer⟩
  simp [literal, unmarked, integer] at kept

theorem keepsFraction_of_lost {source : Resolved} (lost : losesFraction source tag = true) :
    keepsFraction source tag =
      report source.position (.coercion "" (.cannotAdapt .comptimeFloat tag)) >>= fun _ =>
        pure false := by
  simp only [losesFraction, Bool.and_eq_true, beq_iff_eq, Bool.not_eq_true'] at lost
  have refused : Ty.comptimeFloat.assign (.scalar tag) false =
      .error (.cannotAdapt .comptimeFloat tag) := by
    cases tag <;> first | rfl | simp [Tag.isInteger] at lost
  simp [keepsFraction, lost, refused]

theorem arithmeticResult_eq (result : ResultTag left right leftTag rightTag target tag) :
    arithmeticResult node left right leftTag rightTag target = pure (some tag) := by
  cases result with
  | agreed unmarked agreed => simp [arithmeticResult, unmarked, agreed]
  | chosen marked chosen leftKept rightKept =>
      simp [arithmeticResult, marked, chosen, keepsFraction_of_kept leftKept,
        keepsFraction_of_kept rightKept]

theorem isZero_of_sign {value : Constant} (zero : value.sign = 0) :
    value.toFloat.isZero = true := by
  cases value with
  | int value =>
      have none : value = 0 := Int.sign_eq_zero_iff_zero.mp zero
      subst none
      rfl
  | float value =>
      simp only [Constant.sign, BigFloat.sign] at zero
      split at zero
      · assumption
      · split at zero <;> simp at zero

theorem fold_of_zero {left right : Constant} (division : op = .div ∨ op = .intDiv ∨ op = .rem)
    (zero : right.sign = 0) : left.fold op right = .ok none := by
  have isZero := isZero_of_sign zero
  rcases division with rfl | rfl | rfl
  · simp [Constant.fold, Constant.foldFloat, isZero, Except.map]
  all_goals
    cases left <;> cases right <;>
      simp_all [Constant.fold, Constant.foldInt, Constant.foldFloat, Constant.sign, Except.map]

theorem leaves_combineMixed
    (problem : MixedProblem ctx node op left right leftTag rightTag target diagnostic)
    (takes : TakesTags op leftTag rightTag)
    (concrete : ¬(leftTag.isComptime = true ∧ rightTag.isComptime = true)) :
    (combineNumbers ctx node op left right leftTag rightTag target).Leaves before diagnostic := by
  unfold combineNumbers
  rw [if_neg takes.accepted, if_neg concrete]
  cases problem with
  | disagree unmarked refused => simp [arithmeticResult, unmarked, refused]
  | leftFraction marked chosen lost =>
      simp [arithmeticResult, marked, chosen, keepsFraction_of_lost lost]
  | rightFraction marked chosen kept lost =>
      simp [arithmeticResult, marked, chosen, keepsFraction_of_kept kept,
        keepsFraction_of_lost lost]
  | leftOverflow result comptime problem =>
      simp only [arithmeticResult_eq result, pure_bind, comptime, if_true]
      exact (leaves_checkFits problem).discard.bind
  | rightOverflow result comptime problem =>
      simp only [arithmeticResult_eq result, pure_bind, comptime, if_true]
      exact .guarded (reporting_checkFits _ _ _ _).discard fun _ =>
        (leaves_checkFits problem).discard.bind
  | floatDivision result division integer =>
      simp only [arithmeticResult_eq result, pure_bind]
      refine .guarded (reporting_checkFits _ _ _ _).discard fun _ => ?_
      refine .guarded (reporting_checkFits _ _ _ _).discard fun _ => ?_
      simp [division, integer]

theorem leaves_arithmetic (problem : ArithmeticProblem ctx node op left right target diagnostic) :
    (arithmetic ctx node op left right target).Leaves before diagnostic := by
  cases problem with
  | left leftKnown rightKnown other => simp [arithmetic, leftKnown, rightKnown, other]
  | right number known other => simp [arithmetic, known_of_number number, known, number, other]
  | integers numbers refused =>
      simp only [TakesTags, not_forall, not_and_or, Bool.not_eq_false] at refused
      rcases refused with ⟨division, float⟩
      simp [arithmetic_of_numbers numbers, combineNumbers, division, float]
  | zero numbers takes comptime leftKnown rightKnown division zero =>
      rw [arithmetic_of_numbers numbers, combineNumbers, if_neg takes.accepted, if_pos comptime]
      simp [foldComptime, leftKnown, rightKnown, fold_of_zero division zero, zero]
  | mixed numbers takes concrete problem =>
      rw [arithmetic_of_numbers numbers]
      exact leaves_combineMixed problem takes concrete

end Arithmetic

/-- Two scalars that may be compared, as far as their order is concerned. -/
structure Comparable (ordered : Bool) (left right : Resolved) (leftTag rightTag : Tag) : Prop where
  leftType : left.type = .scalar leftTag
  leftKnown : left.isUnknown = false
  rightType : right.type = .scalar rightTag
  rightKnown : right.isUnknown = false
  numeric : ordered = true → leftTag.isNumeric = true ∧ rightTag.isNumeric = true

inductive ComparisonProblem (ctx : Context) (node : Node) (operator : String) (ordered : Bool)
    (left right : Resolved) : Diagnostic → Prop
  | incomparable (leftKnown : left.isUnknown = false) (rightKnown : right.isUnknown = false)
      (other : left.type.scalarTag? = none ∨ right.type.scalarTag? = none) :
      ComparisonProblem ctx node operator ordered left right
        ((Finding.incomparable operator left.type right.type).placed node.position)
  | unordered {leftTag rightTag : Tag} (order : ordered = true)
      (comparable : Comparable false left right leftTag rightTag)
      (other : leftTag.isNumeric = false ∨ rightTag.isNumeric = false) :
      ComparisonProblem ctx node operator ordered left right
        ((Finding.unordered operator leftTag rightTag).placed node.position)
  | disagree {leftTag rightTag : Tag} {failure : CoercionFailure}
      (comparable : Comparable ordered left right leftTag rightTag)
      (refused : leftTag.resolve rightTag (left.operand.explicit || right.operand.explicit) =
        .error failure) :
      ComparisonProblem ctx node operator ordered left right
        ((Finding.coercion "" failure).placed node.position)
  | leftOverflow {leftTag rightTag tag : Tag} {diagnostic : Diagnostic}
      (comparable : Comparable ordered left right leftTag rightTag)
      (agreed : leftTag.resolve rightTag (left.operand.explicit || right.operand.explicit) =
        .ok tag)
      (concrete : tag.isConcrete = true) (comptime : leftTag.isComptime = true)
      (problem : OverflowProblem ctx left.position left.operand.value tag diagnostic) :
      ComparisonProblem ctx node operator ordered left right diagnostic
  | rightOverflow {leftTag rightTag tag : Tag} {diagnostic : Diagnostic}
      (comparable : Comparable ordered left right leftTag rightTag)
      (agreed : leftTag.resolve rightTag (left.operand.explicit || right.operand.explicit) =
        .ok tag)
      (concrete : tag.isConcrete = true) (comptime : rightTag.isComptime = true)
      (problem : OverflowProblem ctx right.position right.operand.value tag diagnostic) :
      ComparisonProblem ctx node operator ordered left right diagnostic

section Comparison

variable {operator : String} {ordered : Bool} {left right : Resolved} {leftTag rightTag : Tag}

theorem comparison_of_comparable {demand : Bool}
    (comparable : Comparable demand left right leftTag rightTag) :
    comparison ctx node operator ordered left right =
      compareScalars ctx node operator ordered left right leftTag rightTag >>= fun _ =>
        pure (.typed .bool) := by
  simp only [comparison, comparable.leftType, comparable.leftKnown, comparable.rightType,
    comparable.rightKnown, Ty.scalarTag?]
  rfl

theorem Comparable.accepted (comparable : Comparable ordered left right leftTag rightTag) :
    ¬(ordered && !(leftTag.isNumeric && rightTag.isNumeric)) = true := by
  have numeric := comparable.numeric
  grind

theorem leaves_comparison
    (problem : ComparisonProblem ctx node operator ordered left right diagnostic) :
    (comparison ctx node operator ordered left right).Leaves before diagnostic := by
  cases problem with
  | incomparable leftKnown rightKnown other =>
      rcases other with other | other
      · simp [comparison, leftKnown, rightKnown, other]
      · cases left.type.scalarTag? <;> simp [comparison, leftKnown, rightKnown, other]
  | unordered order comparable other =>
      simp [comparison_of_comparable comparable, compareScalars, order, other]
  | disagree comparable refused =>
      rw [comparison_of_comparable comparable, compareScalars, if_neg comparable.accepted]
      simp [refused]
  | leftOverflow comparable agreed concrete comptime problem =>
      rw [comparison_of_comparable comparable, compareScalars, if_neg comparable.accepted]
      simp only [agreed, concrete, comptime, if_true]
      exact (leaves_checkFits problem).discard.bind.bind
  | rightOverflow comparable agreed concrete comptime problem =>
      rw [comparison_of_comparable comparable, compareScalars, if_neg comparable.accepted]
      simp only [agreed, concrete, comptime, if_true]
      apply Leaves.bind
      exact .guarded (reporting_checkFits _ _ _ _).discard fun _ =>
        (leaves_checkFits problem).discard

end Comparison

inductive LogicalProblem (operator : String) (left right : Resolved) : Diagnostic → Prop
  | other {side : Resolved} (member : side ∈ [left, right]) (known : side.isUnknown = false)
      (other : side.type ≠ .bool) :
      LogicalProblem operator left right
        ((Finding.notLogical operator side.type).placed side.position)

theorem leaves_logical {operator : String} {left right : Resolved}
    (problem : LogicalProblem operator left right diagnostic) :
    (logical operator left right).Leaves before diagnostic := by
  cases problem with
  | @other side member known other =>
      have leaves : ∀ before, (requireLogical operator side).Leaves before
          ((Finding.notLogical operator side.type).placed side.position) := by
        simp [requireLogical, known, other]
      simp only [List.mem_cons, List.not_mem_nil, or_false] at member
      rcases member with rfl | rfl
      · exact (leaves _).bind
      · exact .behind (reporting_requireLogical _ _) fun _ _ => (leaves _).bind

/-- What is wrong with the operands of an operator. -/
def InfixProblem (ctx : Context) (node : Node) (operator : String) (op : InfixOp)
    (left right : Resolved) (target : Option Ty) : Diagnostic → Prop :=
  match op with
  | .arithmetic op => ArithmeticProblem ctx node op left right target
  | .comparison ordered => ComparisonProblem ctx node operator ordered left right
  | .logical => LogicalProblem operator left right

theorem leaves_infixed {operator : String} {op : InfixOp} {left right : Resolved}
    {target : Option Ty}
    (problem : InfixProblem ctx node operator op left right target diagnostic) :
    (infixed ctx node operator op left right target).Leaves before diagnostic := by
  cases op with
  | arithmetic op => exact leaves_arithmetic problem
  | comparison ordered => exact leaves_comparison problem
  | logical => exact leaves_logical problem

inductive ConversionProblem (ctx : Context) (node : Node) (value : Resolved) (target : Ty) :
    Diagnostic → Prop
  | refused {failure : CoercionFailure} (refused : value.type.convert target = .error failure) :
      ConversionProblem ctx node value target ((Finding.coercion "" failure).placed node.position)
  | contents {type : Ty} {diagnostic : Diagnostic} (known : value.isUnknown = false)
      (asked : target.isUnknown = false) (converted : value.type.convert target = .ok type)
      (comptime : value.type.isComptime = true)
      (problem : ContentsProblem ctx node.position value type diagnostic) :
      ConversionProblem ctx node value target diagnostic

theorem leaves_converted {value : Resolved} {target : Ty}
    (problem : ConversionProblem ctx node value target diagnostic) :
    (converted ctx node value target).Leaves before diagnostic := by
  cases problem with
  | refused refused =>
      have settled : ¬(value.isUnknown || target.isUnknown) = true := by
        intro missing
        have converted : value.type.convert target = .ok target := if_pos missing
        simp [converted] at refused
      rw [converted, if_neg settled]
      simp [refused]
  | contents known asked converted comptime problem =>
      simpa [Analysis.converted, known, asked, converted, comptime] using
        leaves_checkContents problem

end ComptimeTyping.Analysis
