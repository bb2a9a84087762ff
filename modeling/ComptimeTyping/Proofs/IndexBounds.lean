import ComptimeTyping.Proofs.Checks
import ComptimeTyping.Proofs.Folding
import ComptimeTyping.Proofs.RangeBounds
import ComptimeTyping.Proofs.Results
import ComptimeTyping.Proofs.Slices

/-! Positions that are known to lie outside of an axis of a fixed length. They are reported, with
one exception: a position that an address holds and a word does not is taken for one that is not
known. -/

namespace ComptimeTyping

open Analysis

/-! ## Positions -/

/-- An address that is too large for a word. -/
def PointerWidth.IsUncounted (width : PointerWidth) (value : Int) : Prop :=
  (Constant.int value).fits .usize width = true ∧ Word.greatest < value

instance (width : PointerWidth) (value : Int) : Decidable (width.IsUncounted value) :=
  inferInstanceAs (Decidable (_ ∧ _))

/-- The bounds that a range of the given form has. -/
def Bounds.written (bounds : Bounds) (form : RangeForm) : List Bound :=
  (if form.hasStart then [bounds.start] else []) ++
    (if form.hasEnd then [bounds.stop] else []) ++
    (if form.hasStep then [bounds.step] else [])

/-- The row that a slice ends before. -/
def RangeForm.stopAfter (form : RangeForm) (last : Int) : Int :=
  if form.inclusive then last + 1 else last

/-- A bound of a slice is negative or beyond the end of an axis. -/
inductive SliceOutside (form : RangeForm) (bounds : Bounds) (length : Int) : Prop
  | start {value : Int} (written : form.hasStart = true)
      (known : bounds.start.value = some (.int value)) (outside : value < 0 ∨ length < value)
  | stop {value : Int} (written : form.hasEnd = true)
      (known : bounds.stop.value = some (.int value))
      (outside : form.stopAfter value < 0 ∨ length < form.stopAfter value)

/-- A slice of an array by known bounds, one of which lies outside of the first axis. A concrete
array is not sliced by addresses that are too large for a word. -/
structure MisplacedSlice (width : PointerWidth) (array : Ty) (form : RangeForm) (bounds : Bounds)
    (length : Int) : Prop where
  known : ∀ bound ∈ bounds.written form, ∃ value, bound.value = some (.int value)
  counted : array.isComptime = false → ∀ bound ∈ bounds.written form, ∀ value,
    bound.value = some (.int value) → ¬width.IsUncounted value
  outside : SliceOutside form bounds length

namespace IndexBounds

variable {ctx : Context} {before after : State} {operand : Operand}

theorem fits_usize_iff {width : PointerWidth} {value : Int} :
    (Constant.int value).fits .usize width = true ↔
      0 ≤ value ∧ value ≤ (Tag.usize.intBounds width).2 := by
  cases width <;> exact Constant.fits_int_iff_bounds (.inr (.inr rfl))

/-- Apart from the addresses beyond them, the words that are not negative are the addresses. -/
theorem word_of_address {width : PointerWidth} {value : Int}
    (fits : (Constant.int value).fits .usize width = true) (counted : ¬width.IsUncounted value) :
    0 ≤ value ∧ value ≤ Word.greatest :=
  ⟨(fits_usize_iff.mp fits).1, Int.not_lt.mp fun beyond => counted ⟨fits, beyond⟩⟩

theorem counts_of_address {width : PointerWidth} {bound : Bound} {value : Int}
    (known : bound.value = some (.int value))
    (fits : ∀ constant ∈ bound.value, constant.fits .usize width = true)
    (counted : ¬width.IsUncounted value) : bound.Counts value :=
  ⟨known, word_of_address (fits _ known) counted⟩

theorem word_of_uncounted {width : PointerWidth} {value : Int}
    (uncounted : width.IsUncounted value) :
    (some (Constant.int value)).bind Constant.word? = none := by
  have large : ¬Word.holds value = true := by
    simp only [Word.holds, decide_eq_true_eq, not_and, Int.not_le]
    exact fun _ => uncounted.2
  exact if_neg large

/-! ## Written bounds -/

section

variable {bounds : Bounds} {form : RangeForm}

theorem mem_of_mem_written {bound : Bound} (member : bound ∈ bounds.written form) :
    bound ∈ [bounds.start, bounds.stop, bounds.step] := by
  simp only [Bounds.written, List.mem_append, List.mem_ite_nil_right, List.mem_singleton] at member
  rcases member with (⟨_, rfl⟩ | ⟨_, rfl⟩) | ⟨_, rfl⟩ <;> simp

theorem start_mem_written (written : form.hasStart = true) :
    bounds.start ∈ bounds.written form := by
  simp [Bounds.written, written]

theorem stop_mem_written (written : form.hasEnd = true) : bounds.stop ∈ bounds.written form := by
  simp [Bounds.written, written]

theorem step_mem_written (written : form.hasStep = true) : bounds.step ∈ bounds.written form := by
  simp [Bounds.written, written]

end

/-! ## Slices -/

section

variable {form : RangeForm} {bounds : Bounds} {length : Int}

/-- A slice with a bound beyond the axis is refused, and so is one that ends where it starts. -/
theorem refused_boundedSpan (index step : Position) {start stop stride : Int}
    (outside : length < start ∨ length < stop ∨ stop ≤ start) :
    ∃ complaint, boundedSpan index step (.fixed length) start stop stride = .error complaint := by
  simp only [boundedSpan]
  split
  · exact ⟨_, rfl⟩
  · split
    · exact ⟨_, rfl⟩
    · next inside =>
        simp only [isBeyond, decide_eq_true_eq] at inside
        rw [if_pos (by omega)]
        exact ⟨_, rfl⟩

/-- A slice whose bounds are counted is refused if one of them lies outside. -/
theorem refused_sliceSpan (position : Position)
    (counts : ∀ bound ∈ bounds.written form, ∃ value, bound.Counts value)
    (outside : SliceOutside form bounds length) :
    ∃ complaint, sliceSpan position form (some bounds) (.fixed length) = .error complaint := by
  obtain ⟨start, starts⟩ : ∃ start,
      if form.hasStart then bounds.start.Counts start else start = 0 := by
    split
    · next written => exact counts _ (start_mem_written written)
    · exact ⟨0, rfl⟩
  obtain ⟨stop, stops⟩ : ∃ stop, if form.hasEnd then
      ∃ last, bounds.stop.Counts last ∧ stop = if form.inclusive then last + 1 else last
      else Dim.fixed length = .fixed stop := by
    split
    · next written =>
        rcases counts _ (stop_mem_written written) with ⟨last, counted⟩
        exact ⟨_, last, counted, rfl⟩
    · exact ⟨length, rfl⟩
  obtain ⟨stride, strides⟩ : ∃ stride, sliceStep? form bounds = some stride := by
    simp only [sliceStep?]
    split
    · next written =>
        rcases counts _ (step_mem_written written) with ⟨value, counted⟩
        exact ⟨value, Slices.word_of_counts counted⟩
    · exact ⟨1, rfl⟩
  have startRead := Slices.sliceStart_of_known starts
  rcases Slices.sliceEnd_of_known stops with ⟨read, stopRead, exact⟩
  have notNegative := Checked.sliceStart_nonneg startRead
  simp only [sliceSpan, startRead, stopRead, strides]
  apply refused_boundedSpan
  cases outside with
  | start written known outside =>
      rw [if_pos written] at starts
      cases starts.1.symm.trans known
      omega
  | stop written known outside =>
      rw [if_pos written] at stops
      rcases stops with ⟨last, ⟨lastKnown, lastNonneg, _⟩, same⟩
      cases lastKnown.symm.trans known
      rw [RangeForm.stopAfter, ← same] at outside
      -- An end that goes around lies before every start.
      rcases exact with rfl | around
      · split at same <;> omega
      · omega

/-- A bound that is no word leaves the extent open. -/
theorem unbounded_sliceSpan (position : Position) (outer : Dim) {bound : Bound}
    (member : bound ∈ bounds.written form) (noWord : bound.value.bind Constant.word? = none) :
    sliceSpan position form (some bounds) outer = .ok .unbounded := by
  simp only [Bounds.written, List.mem_append, List.mem_ite_nil_right, List.mem_singleton] at member
  simp only [sliceSpan]
  rcases member with (⟨written, rfl⟩ | ⟨written, rfl⟩) | ⟨written, rfl⟩
  · have starts : sliceStart? form bounds = none := by
      rw [sliceStart?, if_pos written, noWord, Option.filter_none]
    rw [starts]
  · have stops : sliceEnd? form bounds outer = none := by
      simp only [sliceEnd?, if_pos written, noWord]
    rw [stops]
    cases sliceStart? form bounds <;> rfl
  · have strides : sliceStep? form bounds = none := by
      rw [sliceStep?, if_pos written, noWord]
    rw [strides]
    cases sliceStart? form bounds <;> cases sliceEnd? form bounds outer <;> rfl

end

/-- Only the extent of a concrete array may stay open. -/
theorem reported_sliced_unbounded {node : Node} {array : Operand}
    (comptime : array.type.isComptime = true) {axes : Axes Dim}
    (found : array.type.dims? = some axes)
    (run : (sliced node array .unbounded).run before = .ok operand after) :
    after.reports ≠ before.reports := by
  simp only [sliced] at run
  cases typed : array.type with
  | comptimeArray element dims =>
      rw [typed] at run
      exact reported_refuse run
  | array => rw [typed] at comptime; cases comptime
  | scalar | range | comptimeRange => rw [typed] at found; cases found

/-- Rows are cut without a report only if there is an extent to cut them by. -/
theorem exists_of_quiet_span {node : Node} {array : Operand}
    {extent : Except (Position × Finding) SliceSpan}
    (run : (match extent with
      | .error (position, finding) => refuse position finding
      | .ok span => sliced node array span).run before = .ok operand after)
    (quiet : after.reports = before.reports) :
    ∃ span, extent = .ok span ∧ (sliced node array span).run before = .ok operand after := by
  cases extent with
  | error complaint => exact absurd quiet (reported_refuse run)
  | ok span => exact ⟨span, rfl, run⟩

/-- A range that is accepted as an index has known bounds that are addresses, if it takes them on
here or has done so before. -/
theorem fits_of_quiet_slice {node : Node} {array index : Resolved} {element : Tag}
    {form : RangeForm} {bounds : Bounds} {outer : Dim}
    (ranged : index.type.rangeParts? = some (element, form))
    (known : index.operand.bounds = some bounds)
    (run : (slice ctx node array index form outer).run before = .ok operand after)
    (quiet : after.reports = before.reports) :
    (element = .usize ∨ element = .comptimeInt) ∧
      (index.type.isComptime = true → ∀ bound ∈ [bounds.start, bounds.stop, bounds.step],
        ∀ constant ∈ bound.value, constant.fits .usize ctx.width = true) ∧
      ∃ middle span, middle.reports = before.reports ∧
        sliceSpan index.position form (some bounds) outer = .ok span ∧
        (sliced node array.operand span).run middle = .ok operand after := by
  simp only [slice, known] at run
  rcases exists_of_quiet_bind run quiet with
    ⟨valid, checked, validated, quietChecked, rest, quietRest⟩
  rcases (checks_validateRangeIndex _ ranged).accepts validated quietChecked with ⟨rfl, indexes⟩
  simp only [Bool.not_true, Bool.false_eq_true, if_false] at rest
  refine ⟨indexes, ?_⟩
  split at rest
  · next typed sameBounds =>
      cases sameBounds
      rcases exists_of_quiet_bind rest quietRest with
        ⟨fits, fitted, fitRun, quietFitted, last, quietLast⟩
      rcases (checks_checkBoundsFit _ _ _).accepts fitRun quietFitted with ⟨rfl, fit⟩
      rcases exists_of_quiet_span last quietLast with ⟨span, spanned, ended⟩
      exact ⟨fun _ => fit, fitted, span, quietFitted.trans quietChecked, spanned, ended⟩
  · next notComptime =>
      rw [pure_bind] at rest
      rcases exists_of_quiet_span rest quietRest with ⟨span, spanned, ended⟩
      refine ⟨fun comptime => ?_, checked, span, quietChecked, spanned, ended⟩
      cases typed : index.type with
      | comptimeRange tag own => exact absurd rfl (notComptime tag own bounds typed)
      | scalar | array | comptimeArray => rw [typed] at ranged; cases ranged
      | range => rw [typed] at comptime; cases comptime

theorem reported_float_slice {node : Node} {array index : Resolved} {element : Tag}
    {form : RangeForm} {bounds : Bounds} {outer : Dim}
    (run : (slice ctx node array index form outer).run before = .ok operand after)
    (ranged : index.type.rangeParts? = some (element, form))
    (known : index.operand.bounds = some bounds) (float : element.isFloat = true) :
    after.reports ≠ before.reports := by
  intro quiet
  rcases (fits_of_quiet_slice ranged known run quiet).1 with rfl | rfl <;> cases float

theorem reported_slice {node : Node} {array index : Resolved} {axes : Axes Dim} {element : Tag}
    {form : RangeForm} {bounds : Bounds} {length : Int}
    (run : (slice ctx node array index form (.fixed length)).run before = .ok operand after)
    (found : array.type.dims? = some axes)
    (ranged : index.type.rangeParts? = some (element, form))
    (known : index.operand.bounds = some bounds)
    (represented : index.type.isComptime = false → element.isComptime = false ∧
      ∀ bound ∈ bounds.written form, ∀ constant ∈ bound.value,
        constant.fits element ctx.width = true)
    (misplaced : MisplacedSlice ctx.width array.type form bounds length) :
    after.reports ≠ before.reports := by
  intro quiet
  rcases fits_of_quiet_slice ranged known run quiet with
    ⟨indexes, comptimeFits, middle, span, quietMiddle, spanned, cut⟩
  have fits : ∀ bound ∈ bounds.written form, ∀ constant ∈ bound.value,
      constant.fits .usize ctx.width = true := by
    cases comptime : index.type.isComptime with
    | false =>
        rcases represented comptime with ⟨concrete, fits⟩
        rcases indexes with rfl | rfl
        · exact fits
        · cases concrete
    | true => exact fun bound member => comptimeFits comptime bound (mem_of_mem_written member)
  by_cases counts : ∀ bound ∈ bounds.written form, ∃ value, bound.Counts value
  · rcases refused_sliceSpan index.position counts misplaced.outside with ⟨_, refused⟩
    rw [refused] at spanned
    cases spanned
  · -- A bound that is no word is an address beyond them, so the array is a literal.
    simp only [not_forall, not_exists] at counts
    rcases counts with ⟨bound, member, notCounted⟩
    rcases misplaced.known bound member with ⟨value, folded⟩
    have uncounted : ctx.width.IsUncounted value := by
      by_contra counted
      exact notCounted value (counts_of_address folded (fits bound member) counted)
    have comptime : array.type.isComptime = true := by
      by_contra concrete
      exact misplaced.counted (Bool.eq_false_iff.mpr concrete) bound member value folded uncounted
    rw [unbounded_sliceSpan _ _ member (folded ▸ word_of_uncounted uncounted)] at spanned
    cases spanned
    exact reported_sliced_unbounded comptime found cut (quiet.trans quietMiddle.symm)

/-! ## Elements -/

/-- A known number picks an element silently exactly if it is an address inside of the axis. -/
theorem silent_literalElement {array index : Resolved} {length value : Int}
    (known : index.operand.value = some (.int value)) (counted : ¬ctx.width.IsUncounted value) :
    (literalElement ctx array index (.fixed length)).SilentIff
      ((Constant.int value).fits .usize ctx.width = true ∧ value < length) := by
  intro before after operand run
  simp only [literalElement] at run
  rcases run_bind_eq_ok.mp run with ⟨fits, checked, fitRun, rest⟩
  have check : (checkFits ctx index.position index.operand.value .usize).Checks
      ((Constant.int value).fits .usize ctx.width = true) :=
    (checks_checkFits _ _ _ _).congr (by simp [known])
  cases passed : fits with
  | false =>
      rw [passed] at rest fitRun
      cases rest
      have exceeds := (check.passes fitRun).not.mp Bool.false_ne_true
      rw [check.silent fitRun]
      exact iff_of_false exceeds fun both => exceeds both.1
  | true =>
      rw [passed] at rest fitRun
      have address := (check.passes fitRun).mp rfl
      have quiet := (check.silent fitRun).mpr address
      have counts : Bound.Counts ⟨index.position, index.operand.value⟩ value :=
        ⟨known, word_of_address address counted⟩
      have word : index.operand.value.bind Constant.word? = some value :=
        Slices.word_of_counts counts
      simp only [if_true, word] at rest
      split at rest
      · next beyond =>
          rcases run_bind_eq_ok.mp rest with ⟨_, told, reported, ⟨⟩⟩
          have loud : after.reports ≠ checked.reports := by
            cases reported
            simp
          rw [← quiet]
          exact iff_of_false loud fun both => Int.not_lt.mpr beyond both.2
      · next inside =>
          cases rest
          exact iff_of_true quiet ⟨address, Int.not_le.mp inside⟩

/-- So does an expression that picks an element. -/
theorem silent_element {array index : Resolved} {length value : Int}
    (type : index.type = .comptimeInt) (known : index.operand.value = some (.int value))
    (counted : ¬ctx.width.IsUncounted value) :
    (element ctx array index (.fixed length)).SilentIff
      ((Constant.int value).fits .usize ctx.width = true ∧ value < length) := by
  intro before after operand run
  have typed : index.isUnknown = false := by
    rw [Resolved.isUnknown, Operand.isUnknown, show index.operand.type = .comptimeInt from type]
    rfl
  simp only [element, typed, type] at run
  exact silent_literalElement known counted run

/-! ## Ranges that are written as an index -/

/-- So far the bounds of a range have a comptime tag. -/
def IsOpen (parts : RangeParts) : Prop :=
  ∀ tag ∈ parts.tag, tag.isComptime = true

/-- A bound with a known value is comptime, so it leaves the range open. -/
theorem isOpen_withBound {part : String} {parts : RangeParts} {bound : Expr}
    {resolve : Analysis Operand} {result : RangeParts × Bound}
    (run : (withBound part parts bound resolve).run before = .ok result after)
    (valid : result.1.isInvalid = false) (isOpen : IsOpen parts)
    (known : bound.isMissing = false → result.2.value.isSome = true) : IsOpen result.1 := by
  simp only [withBound] at run
  split at run
  · cases run
    exact isOpen
  · next present =>
      rcases run_bind_eq_ok.mp run with ⟨operand, middle, _, added⟩
      rcases RangeBounds.exists_of_addBound added valid with ⟨tag, joined, _, rfl, joins⟩
      have comptime : tag.isComptime = true := by
        by_contra concrete
        have folded := known (Bool.eq_false_iff.mpr present)
        simp [foldedBound, concrete] at folded
      rintro _ ⟨⟩
      rcases joins with ⟨_, rfl⟩ | ⟨earlier, some, resolved⟩
      · exact comptime
      · rw [Tag.isComptime_resolve resolved, isOpen earlier some, comptime]
        rfl

/-- The bounds of a range literal that becomes concrete fit its element, if all that are written
are known. -/
theorem fits_of_range {target : Option Ty} {node : Node} {start stop step : Expr}
    {inclusive : Bool} {tag : Tag} {form : RangeForm} {bounds : Bounds}
    (run : ((Expr.range node start stop step inclusive).resolve ctx target).run before
      = .ok operand after)
    (range : operand.type = .range tag form) (bounded : operand.bounds = some bounds)
    (known : ∀ bound ∈ bounds.written form, bound.value.isSome = true) :
    tag.isComptime = false ∧ ∀ bound ∈ bounds.written form, ∀ constant ∈ bound.value,
      constant.fits tag ctx.width = true := by
  simp only [Expr.resolve] at run
  rcases exists_of_run_recorded run with ⟨ended, resolved, _, _⟩
  rcases run_bind_eq_ok.mp resolved with ⟨parts, begun, prepared, resolved⟩
  rcases run_bind_eq_ok.mp resolved with ⟨started, middle, startRead, resolved⟩
  rcases run_bind_eq_ok.mp resolved with ⟨stopped, late, stopRead, resolved⟩
  rcases run_bind_eq_ok.mp resolved with ⟨stepped, last, stepRead, literal⟩
  have accepted : ¬operand.isUnknown = true := by
    rw [Operand.isUnknown, range]
    exact Bool.false_ne_true
  rcases RangeBounds.exists_of_rangeLiteral literal range with ⟨valid, origin⟩
  rcases RangeBounds.rangeOf_of_rangeLiteral literal accepted with ⟨_, element, rfl, _⟩
  rcases RangeBounds.eq_of_rangeOf range with ⟨rfl, rfl, concrete⟩
  refine ⟨concrete, ?_⟩
  cases bounded
  obtain rfl := startParts_eq prepared
  rcases origin with untagged | ⟨tagged, _⟩ | ⟨joined, _, _, fits⟩
  · -- Without a tag there is no bound.
    have read : BoundsRead ⟨!start.isMissing, !stop.isMissing, !step.isMissing, inclusive⟩
        stepped.1 ⟨started.2, stopped.2, stepped.2⟩ :=
      boundsRead (boundRead_withBound startRead) (boundRead_withBound stopRead)
        (boundRead_withBound stepRead)
    rcases read.untagged valid untagged with ⟨noStart, noStop, noStep⟩
    dsimp only at noStart noStop noStep
    simp [Bounds.written, noStart, noStop, noStep]
  · -- A concrete tag is that of a bound without a value.
    have validStop := RangeBounds.valid_of_withBound stepRead valid
    have validStart := RangeBounds.valid_of_withBound stopRead validStop
    have noneOpen : ∀ tag ∈ (none : Option Tag), tag.isComptime = true :=
      fun tag member => absurd member (Option.not_mem_none tag)
    have startOpen := isOpen_withBound startRead validStart noneOpen fun present =>
      known _ (start_mem_written (by simp [present]))
    have stopOpen := isOpen_withBound stopRead validStop startOpen fun present =>
      known _ (stop_mem_written (by simp [present]))
    have stepOpen := isOpen_withBound stepRead valid stopOpen fun present =>
      known _ (step_mem_written (by simp [present]))
    rw [stepOpen _ tagged] at concrete
    cases concrete
  · exact fun bound member => fits bound (mem_of_mem_written member)

theorem valid_of_quiet_startParts {start step : Expr} {parts : RangeParts}
    (run : (startParts start step).run before = .ok parts after)
    (quiet : after.reports = before.reports) : parts.isInvalid = false := by
  simp only [startParts] at run
  split at run
  · cases run
    simp at quiet
  · cases run
    rfl

/-- A bound of a known type that is added without a report leaves the bounds valid. -/
theorem valid_of_quiet_addBound {part : String} {parts : RangeParts} {bound : Resolved}
    {result : RangeParts × Bound} (run : (addBound part parts bound).run before = .ok result after)
    (known : ¬bound.isUnknown = true) (valid : parts.isInvalid = false)
    (quiet : after.reports = before.reports) : result.1.isInvalid = false := by
  simp only [addBound, if_neg known] at run
  split at run
  · cases run
    simp at quiet
  · split at run
    · cases run
      exact valid
    · split at run
      · cases run
        exact valid
      · cases run
        simp at quiet

theorem valid_of_quiet_withBound {part : String} {parts : RangeParts} {bound : Expr}
    {target : Option Ty} {result : RangeParts × Bound}
    (run : (withBound part parts bound (bound.resolve ctx target)).run before
      = .ok result after)
    (known : ∀ moment ∈ bound.boundCalls ctx target before, ∀ found, moment.Finds found →
      ¬found.isUnknown = true)
    (valid : parts.isInvalid = false) (quiet : after.reports = before.reports) :
    result.1.isInvalid = false := by
  simp only [withBound] at run
  split at run
  · cases run
    exact valid
  · next present =>
      rcases exists_of_quiet_bind run quiet with
        ⟨operand, middle, resolved, _, added, quietAdded⟩
      have finds : Moment.Finds ⟨.expr ctx target bound, before⟩ operand :=
        ⟨ctx, target, bound, middle, rfl, resolved⟩
      rw [Expr.boundCalls, if_neg present, List.forall_mem_singleton] at known
      exact valid_of_quiet_addBound added (known operand finds) valid quietAdded

theorem known_rangeOf (element : Tag) (form : RangeForm) (bounds : Bounds) :
    ¬(rangeOf element form bounds).isUnknown = true := by
  simp only [rangeOf, Operand.isUnknown]
  split <;> exact Bool.false_ne_true

theorem exists_of_quiet_adaptRange {hint tag : Tag} {bounds : Bounds} {element : Option Tag}
    (run : (adaptRange ctx hint tag bounds).run before = .ok element after)
    (quiet : after.reports = before.reports) : ∃ found, element = some found := by
  simp only [adaptRange] at run
  split at run
  · rcases exists_of_quiet_bind run quiet with ⟨fits, middle, checked, quietChecked, rest, _⟩
    rcases (checks_checkBoundsFit _ _ _).accepts checked quietChecked with ⟨rfl, _⟩
    cases rest
    exact ⟨hint, rfl⟩
  · cases run
    exact ⟨tag, rfl⟩

/-- Valid bounds that are joined without a report make a range. -/
theorem known_of_quiet_rangeLiteral {node : Node} {step : Position} {form : RangeForm}
    {hint : Tag} {parts : RangeParts} {bounds : Bounds}
    (run : (rangeLiteral ctx node step form hint parts bounds).run before = .ok operand after)
    (valid : parts.isInvalid = false) (quiet : after.reports = before.reports) :
    ¬operand.isUnknown = true := by
  simp only [rangeLiteral, valid, Bool.false_eq_true, if_false] at run
  split at run
  · cases run
    exact known_rangeOf _ _ _
  · next tag some =>
      rcases exists_of_quiet_bind run quiet with
        ⟨element, middle, adapted, quietAdapted, rest, quietRest⟩
      rcases exists_of_quiet_adaptRange adapted quietAdapted with ⟨element, rfl⟩
      dsimp only at rest
      split at rest
      · exact absurd quietRest (reported_refuse rest)
      · rcases exists_of_quiet_bind rest quietRest with
          ⟨stepped, late, checked, quietChecked, last, _⟩
        rcases (checks_requireFloatStep _ _ _).accepts checked quietChecked with ⟨rfl, _⟩
        cases last
        exact known_rangeOf _ _ _

/-- A range literal that is not resolved is reported, if its bounds are resolved. -/
theorem reported_range {target : Option Ty} {range : Expr} (literal : range.isRange = true)
    (run : (range.resolve ctx target).run before = .ok operand after)
    (unresolved : operand.isUnknown = true)
    (known : ∀ moment ∈ range.calls ctx target before, ∀ bound, moment.Finds bound →
      ¬bound.isUnknown = true) :
    after.reports ≠ before.reports := by
  intro quiet
  cases range with
  | range node start stop step inclusive =>
      simp only [Expr.resolve] at run
      rcases exists_of_quiet_bind run quiet with ⟨resolved, late, inner, quietLate, noted, _⟩
      obtain rfl : resolved = operand := (Outcome.ok.inj noted).1
      rcases exists_of_quiet_bind inner quietLate with
        ⟨parts, begun, prepared, quietBegun, rest, quietRest⟩
      rcases exists_of_quiet_bind rest quietRest with
        ⟨started, middle, startRead, quietStart, rest, quietRest⟩
      rcases exists_of_quiet_bind rest quietRest with
        ⟨stopped, later, stopRead, quietStop, rest, quietRest⟩
      rcases exists_of_quiet_bind rest quietRest with
        ⟨stepped, last, stepRead, quietStep, literal, quietLiteral⟩
      simp only [Expr.calls, leading, prepared, startRead, stopRead, List.forall_mem_append]
        at known
      rcases known with ⟨startKnown, stopKnown, stepKnown⟩
      have startValid := valid_of_quiet_withBound startRead startKnown
        (valid_of_quiet_startParts prepared quietBegun) quietStart
      have stopValid := valid_of_quiet_withBound stopRead stopKnown startValid quietStop
      have stepValid := valid_of_quiet_withBound stepRead stepKnown stopValid quietStep
      exact known_of_quiet_rangeLiteral literal stepValid quietLiteral unresolved
  | _ => cases literal

/-! ## Accesses -/

variable {node arrayNode indexNode : Node} {array index : Operand} {axes : Axes Dim}

theorem indexing_of_dims (found : array.type.dims? = some axes) :
    indexing ctx node ⟨arrayNode, array⟩ ⟨indexNode, index⟩ =
      match index.type.rangeParts? with
      | some (_, form) => slice ctx node ⟨arrayNode, array⟩ ⟨indexNode, index⟩ form axes.outer
      | none => element ctx ⟨arrayNode, array⟩ ⟨indexNode, index⟩ axes.outer := by
  have known : array.isUnknown = false := by
    rw [Operand.isUnknown]
    cases typed : array.type with
    | array | comptimeArray => rfl
    | scalar | range | comptimeRange => rw [typed] at found; cases found
  rcases ranged : index.type.rangeParts? with _ | ⟨tag, form⟩
  all_goals
    simp only [indexing, Resolved.isUnknown, Resolved.type, known, found, ranged,
      Bool.false_eq_true, if_false]

/-- A known number is silent exactly if it is an address of the axis. -/
theorem silent_indexing {length value : Int} (found : array.type.dims? = some axes)
    (fixed : axes.outer = .fixed length) (type : index.type = .comptimeInt)
    (known : index.value = some (.int value)) (counted : ¬ctx.width.IsUncounted value) :
    (indexing ctx node ⟨arrayNode, array⟩ ⟨indexNode, index⟩).SilentIff
      (0 ≤ value ∧ value < length ∧ (Constant.int value).fits .usize ctx.width = true) := by
  rw [indexing_of_dims found, fixed, type]
  have silent : (element ctx ⟨arrayNode, array⟩ ⟨indexNode, index⟩ (.fixed length)).SilentIff
      ((Constant.int value).fits .usize ctx.width = true ∧ value < length) :=
    silent_element type known counted
  apply silent.congr
  constructor
  · rintro ⟨fits, below⟩
    exact ⟨(fits_usize_iff.mp fits).1, below, fits⟩
  · rintro ⟨_, below, fits⟩
    exact ⟨fits, below⟩

/-- A slice by floats is reported, and so is one that is misplaced. -/
theorem reported_indexing {element : Tag} {form : RangeForm} {bounds : Bounds} {length : Int}
    (found : array.type.dims? = some axes) (fixed : axes.outer = .fixed length)
    (ranged : index.type.rangeParts? = some (element, form)) (bounded : index.bounds = some bounds)
    (represented : (∀ bound ∈ bounds.written form, bound.value.isSome = true) →
      index.type.isComptime = false → element.isComptime = false ∧
        ∀ bound ∈ bounds.written form, ∀ constant ∈ bound.value,
          constant.fits element ctx.width = true)
    (wrong : element.isFloat = true ∨ MisplacedSlice ctx.width array.type form bounds length)
    (run : (indexing ctx node ⟨arrayNode, array⟩ ⟨indexNode, index⟩).run before
      = .ok operand after) :
    after.reports ≠ before.reports := by
  rw [indexing_of_dims found, fixed, ranged] at run
  rcases wrong with float | misplaced
  · exact reported_float_slice run ranged bounded float
  · have known : ∀ bound ∈ bounds.written form, bound.value.isSome = true := by
      intro bound member
      rcases misplaced.known bound member with ⟨value, folded⟩
      rw [folded]
      rfl
    exact reported_slice run found ranged bounded (represented known) misplaced

/-- An index that becomes a concrete range has bounds that are addresses, if they are known. -/
theorem fits_of_index {place : Expr} {index : Operand} {element : Tag} {form : RangeForm}
    {bounds : Bounds}
    (run : (place.resolve ctx (some (indexTarget place.isRange))).run before = .ok index after)
    (ranged : index.type.rangeParts? = some (element, form)) (bounded : index.bounds = some bounds)
    (known : ∀ bound ∈ bounds.written form, bound.value.isSome = true)
    (concrete : index.type.isComptime = false) :
    element.isComptime = false ∧ ∀ bound ∈ bounds.written form, ∀ constant ∈ bound.value,
      constant.fits element ctx.width = true := by
  cases literal : place.isRange with
  | true =>
      have typed : index.type = .range element form := by
        cases type : index.type with
        | range => rw [type] at ranged; cases ranged; rfl
        | comptimeRange => rw [type] at concrete; cases concrete
        | scalar | array | comptimeArray => rw [type] at ranged; cases ranged
      cases place with
      | range => exact fits_of_range run typed bounded known
      | _ => cases literal
  | false =>
      -- Only a comptime name brings bounds along.
      rw [literal] at run
      have value : (indexTarget false).isVoid = false := rfl
      rcases (Expr.bounds_of_resolve ctx value literal).result run
          (show Discipline.coherent.tolerates after from trivial) with absent | comptime
      · rw [absent] at bounded
        cases bounded
      · rw [concrete] at comptime
        cases comptime

end IndexBounds

open IndexBounds in
/-- An element or a slice of an array whose first axis has a fixed length. An element that is
picked by a known number is reported exactly if the number is no address of the axis; a slice with
known bounds is reported if one of them lies outside, and a range that is written as the index and
cannot be resolved is reported in any case. The numbers that are left out are addresses that are
too large for a word. -/
theorem misplaced_reported {ctx : Context} {target : Option Ty} {node : Node} {left place : Expr}
    {before middle later : State} {array index : Operand} {axes : Axes Dim} {length : Int}
    (resolved : (left.resolve ctx none).run before = .ok array middle)
    (selected : (place.resolve ctx (some (indexTarget place.isRange))).run middle
      = .ok index later)
    (found : array.type.dims? = some axes) (fixed : axes.outer = .fixed length) :
    ∃ operand after,
      ((Expr.index node left place).resolve ctx target).run before = .ok operand after ∧
      (∀ value, index.type = .comptimeInt → index.value = some (.int value) →
        ¬ctx.width.IsUncounted value →
        (after.reports = later.reports ↔
          0 ≤ value ∧ value < length ∧ (Constant.int value).fits .usize ctx.width = true)) ∧
      (∀ element form bounds, index.type.rangeParts? = some (element, form) →
        index.bounds = some bounds →
        element.isFloat = true ∨ MisplacedSlice ctx.width array.type form bounds length →
        after.reports ≠ later.reports) ∧
      (place.isRange = true → index.isUnknown = true →
        (∀ moment ∈ place.calls ctx (some (indexTarget place.isRange)) middle, ∀ bound,
          moment.Finds bound → ¬bound.isUnknown = true) →
        after.reports ≠ middle.reports) := by
  obtain ⟨operand, last, picked⟩ := (reporting_indexing ctx node ⟨left.node, array⟩
    ⟨place.node, index⟩).exists_run later
  have run : (do
      let array ← left.resolve ctx none
      let index ← place.resolve ctx (some (indexTarget place.isRange))
      indexing ctx node ⟨left.node, array⟩ ⟨place.node, index⟩).run before = .ok operand last := by
    rw [run_bind_of_ok resolved, run_bind_of_ok selected, picked]
  refine ⟨operand, { last with types := (node.id, some operand.type) :: last.types }, ?_, ?_, ?_,
    ?_⟩
  · simp only [Expr.resolve, recorded]
    rw [run_bind_of_ok run]
    rfl
  · intro value type known counted
    change last.reports = later.reports ↔ _
    exact silent_indexing found fixed type known counted picked
  · intro element form bounds ranged bounded wrong
    change last.reports ≠ later.reports
    exact reported_indexing found fixed ranged bounded (fits_of_index selected ranged bounded)
      wrong picked
  · intro literal unresolved known quiet
    have grows := grows_of_ok _ picked
    rcases (quiet_iff_of_grows (grows_of_ok _ selected) grows).mp quiet with ⟨quietIndex, _⟩
    exact reported_range literal selected unresolved known quietIndex

namespace Sample

/-- Where an array of three integers is stored. -/
def valuesStart : State :=
  ((storedValues.analyze (.start .strict .bits64)).run (.ofTable .empty)).state

def values : Expr :=
  .ident (name 21 "values")

/-- Where the array is read. -/
def valuesRead : State :=
  ((values.resolve (.start .strict .bits64) none).run valuesStart).state

/-- The range from one to the number that is written. -/
def fromOne (last : String) : Expr :=
  .range (node 22) (.int (node 23) "1") (.int (node 24) last) .missing false

def fromOneBounds (last : Int) : Bounds :=
  ⟨⟨(node 23).position, some (.int 1)⟩, ⟨(node 24).position, some (.int last)⟩, .absent⟩

/-- The range `-1..2`. -/
def fromBelow : Expr :=
  .range (node 22) (.prefixOp (node 23) "-" (.int (node 24) "1")) (.int (node 25) "2") .missing
    false

theorem misplaced_fromOne : MisplacedSlice .bits64 (.array .i32 ⟨.fixed 3, []⟩)
    ⟨true, true, false, false⟩ (fromOneBounds 7) 3 := by
  refine ⟨?_, ?_, .stop rfl rfl (.inr (by decide))⟩
  · simp [Bounds.written, fromOneBounds]
  · intro _ bound member value folded
    rcases List.mem_cons.mp member with rfl | later
    · cases folded
      decide
    · obtain rfl := List.mem_singleton.mp later
      cases folded
      decide

theorem values_resolved : (values.resolve (.start .strict .bits64) none).run valuesStart
    = .ok (.typed (.array .i32 ⟨.fixed 3, []⟩)) valuesRead :=
  rfl

/-- What a place is resolved to as an index of the array. -/
def index (place : Expr) : Outcome Operand :=
  (place.resolve (.start .strict .bits64) (some (indexTarget place.isRange))).run valuesRead

/-- The access of the stored array at a place. -/
def access (place : Expr) : Outcome Operand :=
  ((Expr.index (node 20) values place).resolve (.start .strict .bits64) none).run valuesStart

def Reports (place : Expr) : Prop :=
  ∃ operand after, access place = .ok operand after ∧ after.reports ≠ []

end Sample

/-- The element at seven, and the rows of `1..7` and of `-1..2`. -/
theorem misplaced_reported_sample :
    Sample.Reports (.int (Sample.node 22) "7") ∧ Sample.Reports (Sample.fromOne "7") ∧
      Sample.Reports Sample.fromBelow := by
  refine ⟨?_, ?_, ?_⟩
  · obtain ⟨later, selected, quiet⟩ : ∃ later, Sample.index (.int (Sample.node 22) "7")
        = .ok { type := .comptimeInt, value := some (.int 7) } later ∧ later.reports = [] :=
      ⟨_, rfl, rfl⟩
    rcases misplaced_reported Sample.values_resolved selected rfl rfl with
      ⟨operand, after, run, element, _⟩
    refine ⟨operand, after, run, fun silent => ?_⟩
    have inside := (element 7 rfl rfl (by decide)).mp (silent.trans quiet.symm)
    exact absurd inside.2.1 (by decide)
  · obtain ⟨index, later, selected, ranged, bounded, quiet⟩ : ∃ index later,
        Sample.index (Sample.fromOne "7") = .ok index later ∧
        index.type.rangeParts? = some (.usize, ⟨true, true, false, false⟩) ∧
        index.bounds = some (Sample.fromOneBounds 7) ∧ later.reports = [] :=
      ⟨_, _, rfl, rfl, rfl, rfl⟩
    rcases misplaced_reported Sample.values_resolved selected rfl rfl with
      ⟨operand, after, run, _, slice, _⟩
    refine ⟨operand, after, run, fun silent => ?_⟩
    exact slice _ _ _ ranged bounded (.inr Sample.misplaced_fromOne) (silent.trans quiet.symm)
  · obtain ⟨index, later, selected, unresolved⟩ : ∃ index later,
        Sample.index Sample.fromBelow = .ok index later ∧ index.isUnknown = true :=
      ⟨_, _, rfl, rfl⟩
    rcases misplaced_reported Sample.values_resolved selected rfl rfl with
      ⟨operand, after, run, _, _, literal⟩
    refine ⟨operand, after, run, fun silent => ?_⟩
    refine literal rfl unresolved ?_ silent
    intro moment member bound finds
    rcases List.mem_cons.mp member with rfl | later
    · rw [finds.eq rfl]
      decide
    · obtain rfl := List.mem_singleton.mp later
      rw [finds.eq rfl]
      decide

/-- An address that no word counts picks an element or ends a slice without a report. -/
theorem uncounted_silent :
    (∃ index later operand after, Sample.index (.int (Sample.node 22) "9223372036854775808")
        = .ok index later ∧
      index.type = .comptimeInt ∧ index.value = some (.int 9223372036854775808) ∧
      Sample.access (.int (Sample.node 22) "9223372036854775808") = .ok operand after ∧
      after.reports = []) ∧
    ∃ index later bounds operand after, Sample.index (Sample.fromOne "9223372036854775808")
        = .ok index later ∧
      index.type = .range .usize ⟨true, true, false, false⟩ ∧ index.bounds = some bounds ∧
      SliceOutside ⟨true, true, false, false⟩ bounds 3 ∧
      Sample.access (Sample.fromOne "9223372036854775808") = .ok operand after ∧
      after.reports = [] :=
  ⟨⟨_, _, _, _, rfl, rfl, rfl, rfl, rfl⟩,
    ⟨_, _, _, _, _, rfl, rfl, rfl, .stop rfl rfl (.inr (by decide)), rfl, rfl⟩⟩

end ComptimeTyping
