import ComptimeTyping.Proofs.Problems

/-! What can be wrong with array literals, ranges, indices and branches. A problem with one of
several operands is told with those before it, which are in order. -/

namespace ComptimeTyping.Analysis

variable {ctx : Context} {node : Node} {position : Position} {before : State}
  {diagnostic : Diagnostic}

/-! ## Array literals -/

/-- The tag that the elements of a vector are checked against: their own one, or the one of the
array that is asked for. -/
def VectorTag (joined : Tag) (target : Option Ty) (tag : Tag) : Prop :=
  if joined.isComptime then target.bind Ty.scalarTag? = some tag ∧ joined.canAdapt tag = true
  else joined = tag

/-- What is wrong with scalars after a first one in an array literal. -/
inductive VectorProblem (ctx : Context) (node : Node) (tag : Tag) (first : Resolved)
    (others : List Resolved) (target : Option Ty) : Diagnostic → Prop
  | notScalar {earlier later : List Resolved} {element : Resolved} {joined : Tag}
      (parts : others = earlier ++ element :: later)
      (joins : joinScalars tag 1 earlier = .ok joined) (other : element.type.scalarTag? = none) :
      VectorProblem ctx node tag first others target
        ((Finding.notScalarElement (earlier.length + 1) element.type).placed element.position)
  | disagree {earlier later : List Resolved} {element : Resolved} {joined elementTag : Tag}
      {failure : CoercionFailure} (parts : others = earlier ++ element :: later)
      (joins : joinScalars tag 1 earlier = .ok joined) (scalar : element.type = .scalar elementTag)
      (refused : joined.resolve elementTag false = .error failure) :
      VectorProblem ctx node tag first others target
        ((Finding.coercion (elementLabel (earlier.length + 1)) failure).placed element.position)
  | void (joins : joinScalars tag 1 others = .ok .void) :
      VectorProblem ctx node tag first others target (Finding.voidElements.placed node.position)
  | overflow {joined checked : Tag} {element : Resolved} {diagnostic : Diagnostic}
      (joins : joinScalars tag 1 others = .ok joined) (valued : joined ≠ .void)
      (checks : VectorTag joined target checked) (member : element ∈ first :: others)
      (comptime : element.type.isComptime = true)
      (problem : OverflowProblem ctx element.position element.operand.value checked diagnostic) :
      VectorProblem ctx node tag first others target diagnostic

/-- What is wrong with rows after a first one in an array literal. -/
inductive RowsProblem (dims : List Dim) (tag : Tag) (others : List Resolved) :
    Diagnostic → Prop
  | notArray {earlier later : List Resolved} {row : Resolved} {joined : Tag}
      (parts : others = earlier ++ row :: later)
      (joins : joinRowTags dims tag 1 earlier = .ok joined) (other : row.type.dims? = none) :
      RowsProblem dims tag others
        ((Finding.notArrayElement (earlier.length + 1) row.type).placed row.position)
  | ragged {earlier later : List Resolved} {row : Resolved} {joined : Tag}
      {rowDims : Axes Dim} (parts : others = earlier ++ row :: later)
      (joins : joinRowTags dims tag 1 earlier = .ok joined)
      (given : row.type.dims? = some rowDims) (differ : dims ≠ rowDims.toList) :
      RowsProblem dims tag others
        ((Finding.raggedRows dims (earlier.length + 1) rowDims.toList).placed row.position)
  | disagree {earlier later : List Resolved} {row : Resolved} {joined : Tag}
      {rowDims : Axes Dim} {failure : CoercionFailure} (parts : others = earlier ++ row :: later)
      (joins : joinRowTags dims tag 1 earlier = .ok joined)
      (given : row.type.dims? = some rowDims) (same : rowDims.toList = dims)
      (refused : joined.resolve row.type.elementTag false = .error failure) :
      RowsProblem dims tag others
        ((Finding.coercion (elementLabel (earlier.length + 1)) failure).placed row.position)

inductive ArrayProblem (ctx : Context) (node : Node) (target : Option Ty) :
    List Resolved → Diagnostic → Prop
  | unannotated (other : ∀ element dims, target ≠ some (.array element dims)) :
      ArrayProblem ctx node target [] (Finding.emptyArray.placed node.position)
  | length {element : Tag} {dims : Axes Dim} {size : Int}
      (asked : target = some (.array element dims)) (fixed : dims.outer = .fixed size) :
      ArrayProblem ctx node target [] ((Finding.emptyArrayLength size).placed node.position)
  | kind {first : Resolved} {others : List Resolved}
      (known : ∀ element ∈ first :: others, element.isUnknown = false)
      (notScalar : first.type.scalarTag? = none) (notArray : first.type.dims? = none) :
      ArrayProblem ctx node target (first :: others)
        ((Finding.elementKind first.type).placed first.position)
  | vector {first : Resolved} {others : List Resolved} {tag : Tag} {diagnostic : Diagnostic}
      (known : ∀ element ∈ first :: others, element.isUnknown = false)
      (scalar : first.type = .scalar tag)
      (problem : VectorProblem ctx node tag first others (elementTarget target) diagnostic) :
      ArrayProblem ctx node target (first :: others) diagnostic
  | rows {first : Resolved} {others : List Resolved} {dims : Axes Dim} {diagnostic : Diagnostic}
      (known : ∀ element ∈ first :: others, element.isUnknown = false)
      (array : first.type.dims? = some dims)
      (problem : RowsProblem dims.toList first.type.elementTag others diagnostic) :
      ArrayProblem ctx node target (first :: others) diagnostic

section Arrays

variable {tag joined : Tag} {dims : Axes Dim} {first : Resolved}
  {earlier later others elements : List Resolved} {target : Option Ty} {index : Nat}

theorem joinScalars_append (joins : joinScalars tag index earlier = .ok joined) :
    joinScalars tag index (earlier ++ later) =
      joinScalars joined (index + earlier.length) later := by
  induction earlier generalizing tag index with
  | nil =>
      cases joins
      rfl
  | cons element earlier induction =>
      rcases joinScalars_cons joins with ⟨elementTag, next, scalar, agreed, rest⟩
      simp [joinScalars, scalar, Ty.scalarTag?, agreed, induction rest, Nat.add_assoc,
        Nat.add_comm 1]

theorem joinRowTags_append {dims : List Dim}
    (joins : joinRowTags dims tag index earlier = .ok joined) :
    joinRowTags dims tag index (earlier ++ later) =
      joinRowTags dims joined (index + earlier.length) later := by
  induction earlier generalizing tag index with
  | nil =>
      cases joins
      rfl
  | cons row earlier induction =>
      rcases joinRowTags_cons joins with ⟨rowDims, next, given, same, agreed, rest⟩
      simp [joinRowTags, given, same, agreed, induction rest, Nat.add_assoc, Nat.add_comm 1]

theorem leaves_vector
    (problem : VectorProblem ctx node tag first others target diagnostic) :
    (vector ctx node tag (first :: others) target).Leaves before diagnostic := by
  cases problem with
  | notScalar parts joins other =>
      simp [vector, parts, joinScalars_append joins, joinScalars, other, Nat.add_comm]
  | disagree parts joins scalar refused =>
      simp [vector, parts, joinScalars_append joins, joinScalars, scalar, Ty.scalarTag?, refused,
        Nat.add_comm]
  | void joins => simp [vector, joins]
  | @overflow joined checked element _ joins valued checks member comptime problem =>
      have leaves : (checkBranchesFit ctx checked (first :: others)).Leaves before diagnostic :=
        leaves_checkBranchesFit member comptime problem
      simp only [vector, List.tail_cons, joins, if_neg valued, checkComptimeFit]
      cases open_ : joined.isComptime with
      | true =>
          simp only [VectorTag, open_, if_true] at checks
          simpa [checks, Option.filter] using leaves
      | false =>
          simp only [VectorTag, open_, Bool.false_eq_true, if_false] at checks
          subst checks
          exact leaves.bind

theorem leaves_rows (problem : RowsProblem dims.toList tag others diagnostic) :
    (rows dims (first :: others) tag).Leaves before diagnostic := by
  cases problem with
  | notArray parts joins other =>
      simp [rows, parts, joinRowTags_append joins, joinRowTags, other, Nat.add_comm]
  | ragged parts joins given differ =>
      simp [rows, parts, joinRowTags_append joins, joinRowTags, given, differ, Nat.add_comm]
  | disagree parts joins given same refused =>
      simp [rows, parts, joinRowTags_append joins, joinRowTags, given, same, refused, Nat.add_comm]

theorem leaves_arrayLiteral (problem : ArrayProblem ctx node target elements diagnostic) :
    (arrayLiteral ctx node elements target).Leaves before diagnostic := by
  have settled : ∀ {elements : List Resolved}, (∀ element ∈ elements, element.isUnknown = false) →
      elements.any (·.isUnknown) = false :=
    fun known => List.any_eq_false.mpr (by simpa using known)
  cases problem with
  | unannotated other => simp [arrayLiteral, emptyArray]
  | length asked fixed => simp [arrayLiteral, emptyArray, asked, fixed]
  | @kind first others known notScalar notArray =>
      cases type : first.type with
      | scalar => simp [type, Ty.scalarTag?] at notScalar
      | array | comptimeArray => simp [type, Ty.dims?] at notArray
      | range | comptimeRange => simp [arrayLiteral, settled known, type, Ty.dims?]
  | vector known scalar problem =>
      simpa [arrayLiteral, settled known, scalar] using leaves_vector problem
  | @rows first others dims _ known array problem =>
      cases type : first.type with
      | scalar => simp [type, Ty.dims?] at array
      | _ =>
          rw [type] at array problem
          simpa [arrayLiteral, settled known, type, array] using leaves_rows problem

end Arrays

/-! ## Ranges -/

/-- What is wrong with a bound of a range, after the bounds before it. -/
inductive BoundProblem (part : String) (parts : RangeParts) (bound : Resolved) :
    Diagnostic → Prop
  | notNumeric (known : bound.isUnknown = false) (other : numericTag? bound.type = none) :
      BoundProblem part parts bound
        ((Finding.boundNotNumeric part bound.type).placed bound.position)
  | disagree {joined tag : Tag} {failure : CoercionFailure} (earlier : parts.tag = some joined)
      (number : numericTag? bound.type = some tag)
      (refused : joined.resolve tag false = .error failure) :
      BoundProblem part parts bound
        ((Finding.coercion ("range " ++ part ++ " does not match the other bounds")
          failure).placed bound.position)

/-- The element of a range whose bounds agree on a tag. -/
inductive RangeElement (ctx : Context) (hint tag : Tag) (bounds : Bounds) : Tag → Prop
  | adapted (adapts : (tag.isComptime && hint.isConcrete && tag.canAdapt hint) = true)
      (fit : ∀ bound ∈ [bounds.start, bounds.stop, bounds.step], ∀ constant ∈ bound.value,
        constant.fits hint ctx.width = true) :
      RangeElement ctx hint tag bounds hint
  | kept (kept : (tag.isComptime && hint.isConcrete && tag.canAdapt hint) = false) :
      RangeElement ctx hint tag bounds tag

/-- What is wrong with bounds that agree on a tag. -/
inductive RangeProblem (ctx : Context) (node : Node) (step : Position) (form : RangeForm)
    (hint tag : Tag) (bounds : Bounds) : Diagnostic → Prop
  | overflow {bound : Bound} {diagnostic : Diagnostic}
      (adapts : (tag.isComptime && hint.isConcrete && tag.canAdapt hint) = true)
      (member : bound ∈ [bounds.start, bounds.stop, bounds.step])
      (problem : OverflowProblem ctx bound.position bound.value hint diagnostic) :
      RangeProblem ctx node step form hint tag bounds diagnostic
  | zeroStep {element : Tag} {constant : Constant}
      (chosen : RangeElement ctx hint tag bounds element)
      (known : bounds.step.value = some constant) (zero : constant.sign = 0) :
      RangeProblem ctx node step form hint tag bounds (Finding.zeroStep.placed step)
  | floatStep {element : Tag} (chosen : RangeElement ctx hint tag bounds element)
      (float : element.isFloat = true) (bounded : form.isBounded = true)
      (stepless : form.hasStep = false) :
      RangeProblem ctx node step form hint tag bounds
        (Finding.floatRangeStep.placed node.position)

section Ranges

variable {part : String} {parts : RangeParts} {bound : Resolved} {step : Position}
  {form : RangeForm} {hint tag element : Tag} {bounds : Bounds}

theorem leaves_addBound (problem : BoundProblem part parts bound diagnostic) :
    (addBound part parts bound).Leaves before diagnostic := by
  cases problem with
  | notNumeric known other => simp [addBound, known, other]
  | disagree earlier number refused =>
      simp [addBound, known_of_number number, number, earlier, refused]

theorem checkFits_of_fits {value : Option Constant}
    (fits : ∀ constant ∈ value, constant.fits tag ctx.width = true) :
    checkFits ctx position value tag = pure true := by
  cases value with
  | none => rfl
  | some constant => simp [checkFits, fits constant rfl]

theorem adaptRange_eq (chosen : RangeElement ctx hint tag bounds element) :
    adaptRange ctx hint tag bounds = pure (some element) := by
  cases chosen with
  | adapted adapts fit =>
      simp only [List.forall_mem_cons] at fit
      simp [adaptRange, adapts, checkBoundsFit, checkFits_of_fits fit.1,
        checkFits_of_fits fit.2.1, checkFits_of_fits fit.2.2.1]
  | kept kept => simp [adaptRange, kept]

theorem leaves_rangeLiteral (valid : parts.isInvalid = false) (joined : parts.tag = some tag)
    (absent : form.hasStep = false → bounds.step = .absent)
    (problem : RangeProblem ctx node step form hint tag bounds diagnostic) :
    (rangeLiteral ctx node step form hint parts bounds).Leaves before diagnostic := by
  cases problem with
  | overflow adapts member problem =>
      simp only [rangeLiteral, valid, joined, adaptRange, adapts]
      exact (leaves_checkBoundsFit member problem).bind.bind
  | zeroStep chosen known zero =>
      simp [rangeLiteral, valid, joined, adaptRange_eq chosen, known, zero]
  | floatStep chosen float bounded stepless =>
      simp only [rangeLiteral, valid, joined, adaptRange_eq chosen, absent stepless, Bound.absent]
      exact (leaves_requireFloatStep float bounded stepless).bind

end Ranges

/-! ## Indices and properties -/

/-- What is wrong with an index of one element. -/
inductive ElementProblem (ctx : Context) (index : Resolved) (outer : Dim) : Diagnostic → Prop
  | other (known : index.isUnknown = false) (other : numericTag? index.type = none) :
      ElementProblem ctx index outer ((Finding.notAnIndex index.type).placed index.position)
  | float {tag : Tag} (scalar : index.type = .scalar tag) (float : tag.isFloat = true) :
      ElementProblem ctx index outer ((Finding.floatIndex tag).placed index.position)
  | signed {tag : Tag} (scalar : index.type = .scalar tag) (integer : tag.isInteger = true)
      (other : tag ≠ .usize ∧ tag ≠ .comptimeInt) :
      ElementProblem ctx index outer ((Finding.signedIndex tag).placed index.position)
  | overflow {diagnostic : Diagnostic} (literal : index.type = .comptimeInt)
      (problem : OverflowProblem ctx index.position index.operand.value .usize diagnostic) :
      ElementProblem ctx index outer diagnostic
  | outside {value length : Int} (literal : index.type = .comptimeInt)
      (fits : ∀ constant ∈ index.operand.value, constant.fits .usize ctx.width = true)
      (known : index.operand.value.bind Constant.word? = some value)
      (fixed : outer = .fixed length) (outside : length ≤ value) :
      ElementProblem ctx index outer
        ((Finding.indexOutOfBounds value length).placed index.position)

/-- A range of indices whose known bounds are indices. -/
structure IndexRange (ctx : Context) (index : Resolved) (form : RangeForm) : Prop where
  ranged : ∃ tag, index.type.rangeParts? = some (tag, form) ∧ (tag = .usize ∨ tag = .comptimeInt)
  fit : index.type.isComptime = true → ∀ bounds ∈ index.operand.bounds,
    ∀ bound ∈ [bounds.start, bounds.stop, bounds.step], ∀ constant ∈ bound.value,
      constant.fits .usize ctx.width = true

/-- The ends and the step of a slice, as far as they are known. -/
structure SliceEnds (form : RangeForm) (bounds : Bounds) (outer : Dim) (start stop step : Int) :
    Prop where
  start : sliceStart? form bounds = some start
  stop : sliceEnd? form bounds outer = some stop
  step : sliceStep? form bounds = some step

/-- What is wrong with a range as an index. -/
inductive SliceProblem (ctx : Context) (node : Node) (array index : Resolved) (form : RangeForm)
    (outer : Dim) : Diagnostic → Prop
  | float {tag : Tag} (ranged : index.type.rangeParts? = some (tag, form))
      (float : tag.isFloat = true) :
      SliceProblem ctx node array index form outer
        ((Finding.floatIndexRange index.type).placed index.position)
  | signed {tag : Tag} (ranged : index.type.rangeParts? = some (tag, form))
      (notFloat : tag.isFloat = false) (other : tag ≠ .usize ∧ tag ≠ .comptimeInt) :
      SliceProblem ctx node array index form outer
        ((Finding.signedIndexRange index.type).placed index.position)
  | overflow {tag : Tag} {bounds : Bounds} {bound : Bound} {diagnostic : Diagnostic}
      (literal : index.type = .comptimeRange tag form) (indexes : tag = .usize ∨ tag = .comptimeInt)
      (known : index.operand.bounds = some bounds)
      (member : bound ∈ [bounds.start, bounds.stop, bounds.step])
      (problem : OverflowProblem ctx bound.position bound.value .usize diagnostic) :
      SliceProblem ctx node array index form outer diagnostic
  | negativeStep {bounds : Bounds} {start stop step : Int} (range : IndexRange ctx index form)
      (known : index.operand.bounds = some bounds)
      (ends : SliceEnds form bounds outer start stop step) (negative : step < 0) :
      SliceProblem ctx node array index form outer
        ((Finding.negativeStep step).placed bounds.step.position)
  | outside {bounds : Bounds} {start stop step length : Int} (range : IndexRange ctx index form)
      (known : index.operand.bounds = some bounds)
      (ends : SliceEnds form bounds outer start stop step) (forward : 0 ≤ step)
      (fixed : outer = .fixed length) (outside : length < start ∨ length < stop) :
      SliceProblem ctx node array index form outer
        ((Finding.sliceOutOfBounds start stop length).placed index.position)
  | empty {bounds : Bounds} {start stop step : Int} (range : IndexRange ctx index form)
      (known : index.operand.bounds = some bounds)
      (ends : SliceEnds form bounds outer start stop step) (forward : 0 ≤ step)
      (inside : isBeyond outer start stop = false) (empty : stop ≤ start) :
      SliceProblem ctx node array index form outer
        ((Finding.emptySlice start stop).placed index.position)
  | unbounded {tag : Tag} {sizes : Axes Int} {span : SliceSpan}
      (range : IndexRange ctx index form) (literal : array.type = .comptimeArray tag sizes)
      (extent : sliceSpan index.position form index.operand.bounds outer = .ok span)
      (unknown : span.length = .wildcard) :
      SliceProblem ctx node array index form outer (Finding.comptimeSlice.placed node.position)

inductive IndexProblem (ctx : Context) (node : Node) (array index : Resolved) :
    Diagnostic → Prop
  | notIndexable (known : array.isUnknown = false) (other : array.type.dims? = none) :
      IndexProblem ctx node array index
        ((Finding.notIndexable array.type).placed node.position)
  | element {dims : Axes Dim} {diagnostic : Diagnostic} (isArray : array.type.dims? = some dims)
      (single : index.type.rangeParts? = none)
      (problem : ElementProblem ctx index dims.outer diagnostic) :
      IndexProblem ctx node array index diagnostic
  | slice {dims : Axes Dim} {tag : Tag} {form : RangeForm} {diagnostic : Diagnostic}
      (isArray : array.type.dims? = some dims)
      (ranged : index.type.rangeParts? = some (tag, form))
      (problem : SliceProblem ctx node array index form dims.outer diagnostic) :
      IndexProblem ctx node array index diagnostic

inductive PropertyProblem (left : Operand) (name : Ident) : Diagnostic → Prop
  | absent (known : left.isUnknown = false)
      (other : ¬(name.name = "length" ∧ left.type.isArray = true)) :
      PropertyProblem left name ((Finding.noProperty left.type name.name).placed name.position)

section Indices

variable {array index : Resolved} {outer : Dim} {form : RangeForm}

theorem numericTag?_scalar {type : Ty} {tag : Tag} (scalar : type = .scalar tag)
    (numeric : tag.isNumeric = true) : numericTag? type = some tag := by
  simp [numericTag?, scalar, Ty.scalarTag?, numeric]

theorem ne_index_of_float {tag : Tag} (float : tag.isFloat = true) :
    tag ≠ .usize ∧ tag ≠ .comptimeInt := by
  constructor <;> rintro rfl <;> simp [Tag.isFloat] at float

theorem literalElement_of_fits
    (fits : ∀ constant ∈ index.operand.value, constant.fits .usize ctx.width = true)
    {value length : Int} (known : index.operand.value.bind Constant.word? = some value)
    (fixed : outer = .fixed length) (outside : length ≤ value) :
    (literalElement ctx array index outer).Leaves before
      ((Finding.indexOutOfBounds value length).placed index.position) := by
  simp [literalElement, checkFits_of_fits fits, known, fixed, outside]

theorem leaves_element (problem : ElementProblem ctx index outer diagnostic) :
    (element ctx array index outer).Leaves before diagnostic := by
  cases problem with
  | other known other =>
      cases scalar : index.type.scalarTag? with
      | none => simp [element, known, scalar]
      | some tag =>
          have notNumeric : tag.isNumeric = false := by simpa [numericTag?, scalar] using other
          have kinds : tag.isInteger = false ∧ tag.isFloat = false := by
            simpa [Tag.isNumeric] using notNumeric
          have others : tag ≠ .comptimeInt ∧ tag ≠ .usize := by
            constructor <;> rintro rfl <;> simp [Tag.isInteger] at kinds
          simp [element, known, scalar, kinds, others]
  | @float tag scalar float =>
      have known := known_of_number (numericTag?_scalar scalar (by simp [Tag.isNumeric, float]))
      simp [element, known, scalar, Ty.scalarTag?, float, ne_index_of_float float]
  | @signed tag scalar integer other =>
      have known := known_of_number (numericTag?_scalar scalar (by simp [Tag.isNumeric, integer]))
      have notFloat : tag.isFloat = false := by
        cases tag <;> simp [Tag.isInteger] at integer <;> rfl
      simp [element, known, scalar, Ty.scalarTag?, integer, notFloat, other]
  | overflow literal problem =>
      have known := known_of_number (numericTag?_scalar literal rfl)
      simp only [element, known, literal, Ty.scalarTag?, Bool.false_eq_true, if_false, if_true]
      exact (leaves_checkFits problem).bind
  | outside literal fits word fixed outside =>
      have known := known_of_number (numericTag?_scalar literal rfl)
      simpa [element, known, literal, Ty.scalarTag?] using
        literalElement_of_fits fits word fixed outside

theorem IndexRange.valid (range : IndexRange ctx index form) :
    validateRangeIndex index.position index.type = pure true := by
  rcases range.ranged with ⟨tag, ranged, indexes⟩
  simp [validateRangeIndex, ranged, indexes]

theorem slice_of_indexRange (range : IndexRange ctx index form) :
    slice ctx node array index form outer =
      match sliceSpan index.position form index.operand.bounds outer with
      | .error (position, finding) => refuse position finding
      | .ok span => sliced node array.operand span := by
  have fit : ∀ tag written bounds, index.type = .comptimeRange tag written →
      index.operand.bounds = some bounds → checkBoundsFit ctx bounds .usize = pure true := by
    intro tag written bounds type known
    have fit := range.fit (by simp [type, Ty.isComptime]) bounds known
    simp only [List.forall_mem_cons] at fit
    simp [checkBoundsFit, checkFits_of_fits fit.1, checkFits_of_fits fit.2.1,
      checkFits_of_fits fit.2.2.1]
  rw [slice, range.valid, pure_bind]
  cases type : index.type with
  | comptimeRange tag written =>
      cases known : index.operand.bounds with
      | none => rfl
      | some bounds =>
          simp only [fit tag written bounds type known]
          rfl
  | _ => rfl

theorem sliceSpan_of_ends {bounds : Bounds} {start stop step : Int}
    (ends : SliceEnds form bounds outer start stop step) :
    sliceSpan position form (some bounds) outer =
      boundedSpan position bounds.step.position outer start stop step := by
  simp [sliceSpan, ends.start, ends.stop, ends.step]

theorem leaves_slice (problem : SliceProblem ctx node array index form outer diagnostic) :
    (slice ctx node array index form outer).Leaves before diagnostic := by
  cases problem with
  | float ranged float =>
      simp [slice, validateRangeIndex, ranged, float, ne_index_of_float float]
  | signed ranged notFloat other =>
      simp [slice, validateRangeIndex, ranged, notFloat, other]
  | overflow literal indexes known member problem =>
      have valid : validateRangeIndex index.position index.type = pure true := by
        simp [validateRangeIndex, literal, Ty.rangeParts?, indexes]
      rw [slice, valid, pure_bind, literal, known]
      exact (leaves_checkBoundsFit member problem).bind
  | negativeStep range known ends negative =>
      simp [slice_of_indexRange range, known, sliceSpan_of_ends ends, boundedSpan, negative]
  | outside range known ends forward fixed outside =>
      subst fixed
      simp [slice_of_indexRange range, known, sliceSpan_of_ends ends, boundedSpan,
        Int.not_lt.mpr forward, isBeyond, outside, Dim.toInt]
  | empty range known ends forward inside empty =>
      simp [slice_of_indexRange range, known, sliceSpan_of_ends ends, boundedSpan,
        Int.not_lt.mpr forward, inside, empty]
  | unbounded range literal extent unknown =>
      have type : array.operand.type = _ := literal
      simp [slice_of_indexRange range, extent, sliced, type, unknown]

theorem leaves_indexing (problem : IndexProblem ctx node array index diagnostic) :
    (indexing ctx node array index).Leaves before diagnostic := by
  have known : ∀ {dims}, array.type.dims? = some dims → array.isUnknown = false :=
    fun isArray => known_of_type fun type => by simp [type, Ty.dims?] at isArray
  cases problem with
  | notIndexable known other => simp [indexing, known, other]
  | element isArray single problem =>
      simpa [indexing, known isArray, isArray, single] using leaves_element problem
  | slice isArray ranged problem =>
      simpa [indexing, known isArray, isArray, ranged] using leaves_slice problem

theorem leaves_property {left : Operand} {name : Ident}
    (problem : PropertyProblem left name diagnostic) :
    (property left name).Leaves before diagnostic := by
  cases problem with
  | absent known other =>
      simp only [property, known, Bool.false_eq_true, if_false]
      split <;> simp_all [Ty.isArray, Ty.dims?]

end Indices

/-! ## Branches -/

/-- What is wrong with the values of a block or a conditional. -/
inductive BranchProblem (ctx : Context) (branches : List Resolved) (target : Option Ty) :
    Diagnostic → Prop
  | slot {type : Ty} {branch : Resolved} {diagnostic : Diagnostic}
      (asked : target.filter (!·.isVoid) = some type) (member : branch ∈ branches)
      (problem : SlotProblem ctx branch type "branch value" diagnostic) :
      BranchProblem ctx branches target diagnostic
  | mixed {earlier later : List Resolved} {branch : Resolved} {joined : Operand}
      (free : target.filter (!·.isVoid) = none) (parts : branches = earlier ++ branch :: later)
      (joins : joinFrom ctx.policy none earlier = .ok (some joined))
      (known : branch.isUnknown = false)
      (mixes : mixesComptime joined.type branch.type = true) (strict : ctx.policy = .strict) :
      BranchProblem ctx branches target
        ((Finding.branchesDisagree joined.type branch.type).placed branch.position)
  | disagree {earlier later : List Resolved} {branch : Resolved} {joined : Operand}
      {failure : CoercionFailure} (free : target.filter (!·.isVoid) = none)
      (parts : branches = earlier ++ branch :: later)
      (joins : joinFrom ctx.policy none earlier = .ok (some joined))
      (known : branch.isUnknown = false)
      (alike : mixesComptime joined.type branch.type = false)
      (differ : joined.type.resolve branch.type false = .error failure) :
      BranchProblem ctx branches target
        ((Finding.coercion "branch value" failure).placed branch.position)
  | overflow {joined : Operand} {tag : Tag} {branch : Resolved} {diagnostic : Diagnostic}
      (free : target.filter (!·.isVoid) = none)
      (joins : joinFrom ctx.policy none branches = .ok (some joined))
      (scalar : joined.type = .scalar tag) (concrete : tag.isConcrete = true)
      (member : branch ∈ branches) (comptime : branch.type.isComptime = true)
      (problem : OverflowProblem ctx branch.position branch.operand.value tag diagnostic) :
      BranchProblem ctx branches target diagnostic

section Branches

variable {branches earlier later : List Resolved} {target : Option Ty} {policy : BranchPolicy}

theorem joinFrom_append {start joined : Option Operand}
    (joins : joinFrom policy start earlier = .ok joined) :
    joinFrom policy start (earlier ++ later) = joinFrom policy joined later := by
  induction earlier generalizing start with
  | nil =>
      cases joins
      rfl
  | cons branch earlier induction =>
      simp only [joinFrom, List.cons_append] at joins ⊢
      split at joins
      · next unknown => simp [unknown, induction joins]
      · next known =>
          rw [if_neg known]
          cases start with
          | none => exact induction joins
          | some operand =>
              cases ended : joinBranch policy operand branch with
              | ok next =>
                  simp only [ended] at joins ⊢
                  exact induction joins
              | error complaint => simp [ended] at joins

theorem leaves_fillBranches {type : Ty} {branch : Resolved} (member : branch ∈ branches)
    (problem : SlotProblem ctx branch type "branch value" diagnostic) :
    (fillBranches ctx type branches).Leaves before diagnostic := by
  induction branches generalizing before with
  | nil => simp at member
  | cons head branches induction =>
      rcases List.mem_cons.mp member with rfl | later
      · exact (leaves_materialize problem).discard.bind
      · exact .past (stops_materialize _ _ _ _).discard fun _ _ => induction later

theorem leaves_unifyBranches (problem : BranchProblem ctx branches target diagnostic) :
    (unifyBranches ctx branches target).Leaves before diagnostic := by
  cases problem with
  | slot asked member problem =>
      simp only [unifyBranches, asked]
      exact (leaves_fillBranches member problem).bind
  | mixed free parts joins known mixes strict =>
      rw [strict] at joins
      have refused : joinFrom .strict none branches = _ := parts ▸ joinFrom_append joins
      simp [unifyBranches, free, joinBranches, strict, refused, joinFrom, known, joinBranch, mixes]
  | disagree free parts joins known alike differ =>
      have refused : joinFrom ctx.policy none branches = _ := parts ▸ joinFrom_append joins
      simp [unifyBranches, free, joinBranches, refused, joinFrom, known, joinBranch, alike, differ]
  | overflow free joins scalar concrete member comptime problem =>
      simp only [unifyBranches, free, joinBranches, joins, scalar, Ty.scalarTag?, concrete, if_true]
      exact (leaves_checkBranchesFit member comptime problem).bind

end Branches

end ComptimeTyping.Analysis
