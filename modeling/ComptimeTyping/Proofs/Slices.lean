import Mathlib.Data.Rat.Floor
import ComptimeTyping.Proofs.Checked
import ComptimeTyping.Proofs.Once

/-! How long slices are. With known bounds the rows are counted exactly as long as counting
them stays in a word. Without known bounds the length is open, unless the range has no bound
written at all: the type of such a range is taken to select everything. -/

namespace ComptimeTyping

open Analysis

/-! ## Counting rows -/

/-- The number of rows from a start on that lie below a stop: their distance over the step,
rounded up. -/
def sliceRows (start stop step : Int) : Int :=
  ⌈((stop - start : Int) : ℚ) / step⌉

namespace Slices

variable {start stop step : Int}

theorem one_le_sliceRows (positive : 0 < step) (nonempty : start < stop) :
    1 ≤ sliceRows start stop step := by
  have distance : (0 : ℚ) < ((stop - start : Int) : ℚ) := by
    exact_mod_cast Int.sub_pos.mpr nonempty
  have divisor : (0 : ℚ) < step := by exact_mod_cast positive
  exact Int.one_le_ceil_iff.mpr (div_pos distance divisor)

/-- Rounding up is adding all but one of the step before dividing. -/
theorem sliceRows_eq (positive : 0 < step) :
    sliceRows start stop step = (stop - start + step - 1) / step := by
  have divisor : (0 : ℚ) < step := by exact_mod_cast positive
  have split := Int.mul_ediv_add_emod (stop - start + step - 1) step
  have small := Int.emod_lt_of_pos (stop - start + step - 1) positive
  have notNegative := Int.emod_nonneg (stop - start + step - 1) (Int.ne_of_gt positive)
  generalize (stop - start + step - 1) / step = rows at split ⊢
  rw [sliceRows, Int.ceil_eq_iff, lt_div_iff₀ divisor, div_le_iff₀ divisor]
  have product : (rows - 1) * step = step * rows - step := by ring
  constructor
  · have below : (rows - 1) * step < stop - start := by omega
    exact_mod_cast below
  · have above : stop - start ≤ rows * step := by
      rw [Int.mul_comm]
      omega
    exact_mod_cast above

/-- The last row lies below the stop. -/
theorem last_lt_stop (positive : 0 < step) :
    start + (sliceRows start stop step - 1) * step < stop := by
  have covered := Int.ediv_mul_le (stop - start + step - 1) (Int.ne_of_gt positive)
  rw [sliceRows_eq positive, Int.sub_mul, Int.one_mul]
  omega

/-- A number that is too large for a word goes around and falls short by more than a word. -/
theorem wrap_le_sub {value : Int} (large : Word.greatest < value) :
    Word.wrap value ≤ value - 0x10000000000000000 := by
  simp only [Word.wrap, Word.greatest] at *
  rw [Int.bmod_def]
  split <;> omega

/-- Counting in words gives the number of rows exactly if the rounded distance is a word. -/
theorem sliceCount_eq_iff (positive : 0 < step) (word : step ≤ Word.greatest)
    (nonempty : start < stop) :
    sliceCount start stop step = sliceRows start stop step ↔
      stop - start + step - 1 ≤ Word.greatest := by
  constructor
  · intro exact
    have some := one_le_sliceRows positive nonempty
    apply Int.not_lt.mp
    intro large
    have wrapped := wrap_le_sub large
    have below := Int.lt_ediv_add_one_mul_self (stop - start + step - 1) positive
    rw [← sliceRows_eq positive, Int.add_mul, Int.one_mul] at below
    rw [sliceCount] at exact
    by_cases negative : Word.wrap (stop - start + step - 1) < 0
    · have none := Int.tdiv_nonneg (Int.neg_nonneg_of_nonpos (Int.le_of_lt negative))
        (Int.le_of_lt positive)
      rw [Int.neg_tdiv] at none
      omega
    · rw [Int.tdiv_eq_ediv_of_nonneg (Int.not_lt.mp negative)] at exact
      have short : Word.wrap (stop - start + step - 1) / step < sliceRows start stop step := by
        apply Int.ediv_lt_of_lt_mul positive
        simp only [Word.greatest] at word
        omega
      omega
  · intro small
    rw [sliceRows_eq positive, sliceCount, Checked.wrap_of_le (by omega) small,
      Int.tdiv_eq_ediv_of_nonneg (by omega)]

end Slices

/-! ## Known bounds -/

/-- The bound is folded to a position that a word counts. -/
def Bound.Counts (bound : Bound) (value : Int) : Prop :=
  bound.value = some (.int value) ∧ 0 ≤ value ∧ value ≤ Word.greatest

/-- The bounds of a slice are known. It starts at zero where no start is written, ends with the
axis where no end is, and takes every row where no step is. An inclusive end is the last row. -/
structure SliceKnown (form : RangeForm) (bounds : Bounds) (outer : Dim) (start stop step : Int) :
    Prop where
  start : if form.hasStart then bounds.start.Counts start else start = 0
  stop :
    if form.hasEnd then
      ∃ last, bounds.stop.Counts last ∧ stop = if form.inclusive then last + 1 else last
    else outer = .fixed stop
  step :
    if form.hasStep then
      bounds.step.value = some (.int step) ∧ step ≠ 0 ∧ Word.holds step = true
    else step = 1

namespace Slices

variable {form : RangeForm} {bounds : Bounds} {outer : Dim} {start stop step : Int}

theorem word_of_counts {bound : Bound} {value : Int} (counts : bound.Counts value) :
    bound.value.bind Constant.word? = some value := by
  rcases counts with ⟨known, notNegative, small⟩
  have holds : Word.holds value = true := by
    apply decide_eq_true
    simp only [Word.least, Word.greatest] at *
    omega
  rw [known, Option.bind_some, Constant.word?, Word.ofInt?, if_pos holds]

theorem sliceStart_of_known
    (starts : if form.hasStart then bounds.start.Counts start else start = 0) :
    sliceStart? form bounds = some start := by
  simp only [sliceStart?]
  split at starts
  · next hasStart =>
      rw [if_pos hasStart, word_of_counts starts, Option.filter_some_pos]
      exact decide_eq_true starts.2.1
  · next noStart => rw [if_neg noStart, starts]

theorem sliceStep_of_known (known : SliceKnown form bounds outer start stop step) :
    sliceStep? form bounds = some step := by
  have steps := known.step
  simp only [sliceStep?]
  split at steps
  · next hasStep =>
      rcases steps with ⟨folded, _, holds⟩
      rw [if_pos hasStep, folded, Option.bind_some, Constant.word?, Word.ofInt?, if_pos holds]
  · next noStep => rw [if_neg noStep, steps]

/-- The end is as it is known, unless it goes around. -/
theorem sliceEnd_of_known
    (stops : if form.hasEnd then
        ∃ last, bounds.stop.Counts last ∧ stop = if form.inclusive then last + 1 else last
      else outer = .fixed stop) :
    ∃ read, sliceEnd? form bounds outer = some read ∧ (read = stop ∨ read < 0) := by
  simp only [sliceEnd?]
  split at stops
  · next hasEnd =>
      rcases stops with ⟨last, counts, rfl⟩
      rw [if_pos hasEnd, word_of_counts counts]
      rcases counts with ⟨_, notNegative, word⟩
      refine ⟨_, if_neg (Int.not_lt.mpr notNegative), ?_⟩
      split
      · by_cases fits : last + 1 ≤ Word.greatest
        · exact .inl (Checked.wrap_of_le (by omega) fits)
        · have around := wrap_le_sub (Int.not_le.mp fits)
          simp only [Word.greatest] at word
          exact .inr (by omega)
      · exact .inl rfl
  · next noEnd =>
      rw [if_neg noEnd, stops]
      exact ⟨stop, rfl, .inl rfl⟩

theorem start_nonneg (known : SliceKnown form bounds outer start stop step) : 0 ≤ start :=
  Checked.sliceStart_nonneg (sliceStart_of_known known.start)

theorem step_le (known : SliceKnown form bounds outer start stop step) :
    step ≤ Word.greatest :=
  Checked.sliceStep_le (sliceStep_of_known known)

theorem step_ne_zero (known : SliceKnown form bounds outer start stop step) : step ≠ 0 := by
  have steps := known.step
  split at steps
  · exact steps.2.1
  · omega

/-- What a slice with known bounds is, if it is accepted. -/
theorem span_of_known {position : Position} {span : SliceSpan}
    (known : SliceKnown form bounds outer start stop step)
    (accepted : sliceSpan position form (some bounds) outer = .ok span) :
    span = ⟨Dim.ofInt (sliceCount start stop step), start, step⟩ ∧ 0 < step ∧ start < stop ∧
      isBeyond outer start stop = false := by
  rcases sliceEnd_of_known known.stop with ⟨read, stops, exact⟩
  have notNegative := start_nonneg known
  have nonzero := step_ne_zero known
  simp only [sliceSpan, sliceStart_of_known known.start, stops, sliceStep_of_known known,
    boundedSpan] at accepted
  split at accepted
  · cases accepted
  · split at accepted
    · cases accepted
    · next inside =>
        split at accepted
        · cases accepted
        · next nonempty =>
            cases accepted
            rcases exact with rfl | around
            · exact ⟨rfl, by omega, by omega, Bool.eq_false_iff.mpr inside⟩
            · omega

end Slices

open Slices in
/-- A slice with known bounds that is accepted has at least one row, and its rows lie below the
end of the axis. Its length is their number exactly if the distance, rounded up to whole steps,
is a word. -/
theorem slice_length_exact {position : Position} {form : RangeForm} {bounds : Bounds}
    {outer : Dim} {start stop step : Int} {span : SliceSpan}
    (known : SliceKnown form bounds outer start stop step)
    (accepted : sliceSpan position form (some bounds) outer = .ok span) :
    span.start = start ∧ span.step = step ∧ 1 ≤ sliceRows start stop step ∧
      start + (sliceRows start stop step - 1) * step < stop ∧
      (∀ length, outer = .fixed length → stop ≤ length) ∧
      (span.length = .fixed (sliceRows start stop step) ↔
        stop - start + step - 1 ≤ Word.greatest) := by
  rcases span_of_known known accepted with ⟨rfl, positive, nonempty, inside⟩
  have rows := one_le_sliceRows positive nonempty
  refine ⟨rfl, rfl, rows, last_lt_stop positive, ?_, ?_⟩
  · rintro length rfl
    simp only [isBeyond, decide_eq_false_iff_not] at inside
    omega
  · rw [← sliceCount_eq_iff positive (step_le known) nonempty]
    constructor
    · intro same
      have counted := congrArg Dim.toInt same
      rwa [Dim.toInt_ofInt] at counted
    · intro exact
      -- Minus one row would be no length at all.
      dsimp only
      rw [exact, Dim.ofInt, if_neg (by omega)]

namespace Sample

def bound (value : Int) : Bound :=
  ⟨.nowhere, some (.int value)⟩

end Sample

/-- Every third row of `1..=7:3`. -/
theorem slice_length_exact_sample :
    SliceKnown ⟨true, true, true, true⟩ ⟨Sample.bound 1, Sample.bound 7, Sample.bound 3⟩
      (.fixed 9) 1 8 3 ∧
    sliceSpan .nowhere ⟨true, true, true, true⟩
      (some ⟨Sample.bound 1, Sample.bound 7, Sample.bound 3⟩) (.fixed 9)
        = .ok ⟨.fixed 3, 1, 3⟩ ∧
    Dim.fixed 3 = .fixed (sliceRows 1 8 3) := by
  have known : SliceKnown ⟨true, true, true, true⟩
      ⟨Sample.bound 1, Sample.bound 7, Sample.bound 3⟩ (.fixed 9) 1 8 3 :=
    ⟨⟨rfl, by decide, by decide⟩, ⟨7, ⟨rfl, by decide, by decide⟩, rfl⟩,
      ⟨rfl, by decide, by decide⟩⟩
  have accepted : sliceSpan .nowhere ⟨true, true, true, true⟩
      (some ⟨Sample.bound 1, Sample.bound 7, Sample.bound 3⟩) (.fixed 9)
        = .ok ⟨.fixed 3, 1, 3⟩ := by decide
  have exact := slice_length_exact known accepted
  exact ⟨known, accepted, exact.2.2.2.2.2.mpr (by decide)⟩

/-- The length of `0..3` with the largest step goes around to the number that stands for a
wildcard. -/
theorem long_step_opens_length :
    SliceKnown ⟨true, true, true, false⟩
      ⟨Sample.bound 0, Sample.bound 3, Sample.bound Word.greatest⟩ (.fixed 3) 0 3
      Word.greatest ∧
    sliceSpan .nowhere ⟨true, true, true, false⟩
      (some ⟨Sample.bound 0, Sample.bound 3, Sample.bound Word.greatest⟩) (.fixed 3)
        = .ok ⟨.wildcard, 0, Word.greatest⟩ ∧
    Dim.wildcard ≠ .fixed (sliceRows 0 3 Word.greatest) :=
  ⟨⟨⟨rfl, by decide, by decide⟩, ⟨3, ⟨rfl, by decide, by decide⟩, rfl⟩,
    ⟨rfl, by decide, by decide⟩⟩, by decide, nofun⟩

-- On an axis without a length it may as well become negative.
example : sliceSpan .nowhere ⟨true, true, true, false⟩
    (some ⟨Sample.bound 0, Sample.bound Word.greatest, Sample.bound 2⟩) .wildcard
      = .ok ⟨.fixed (-0x4000000000000000), 0, 2⟩ := by decide

/-! ## Ranges without folded bounds -/

/-- Some bound is written. -/
def RangeForm.hasBound (form : RangeForm) : Bool :=
  form.hasStart || form.hasEnd || form.hasStep

namespace Slices

variable {ctx : Context} {node : Node} {before after : State} {operand : Operand}

/-- A slice that is accepted keeps the length of the axis or has the one that was found. -/
theorem outer_sliced {array : Operand} {axes : Axes Dim} {span : SliceSpan}
    (found : array.type.dims? = some axes)
    (spanned : span.length = .wildcard ∨ span.length = axes.outer)
    (run : (sliced node array span).run before = .ok operand after)
    (accepted : ¬operand.type.isUnknown = true) :
    ∃ dims, operand.type.dims? = some dims ∧ dims.outer = span.length := by
  simp only [sliced] at run
  cases type : array.type with
  | array element dims =>
      rw [type] at run
      cases run
      exact ⟨_, rfl, rfl⟩
  | comptimeArray element dims =>
      rw [type] at run found
      cases found
      dsimp only at run
      split at run
      · cases run
        exact absurd rfl accepted
      · next length fixed =>
          cases run
          rw [Clean.type_selectRows]
          refine ⟨_, rfl, ?_⟩
          rcases spanned with isOpen | kept
          · rw [isOpen] at fixed
            cases fixed
          · rw [fixed] at kept ⊢
            have same : length = dims.outer := by
              rw [← Dim.toInt_ofInt dims.outer]
              exact congrArg Dim.toInt kept
            rw [kept, same]
            rfl
  | scalar | range | comptimeRange =>
      rw [type] at found
      cases found

/-- Without folded bounds, only the form of the range tells what is selected. -/
theorem sliceSpan_none (position : Position) (form : RangeForm) (outer : Dim) :
    sliceSpan position form none outer =
      .ok (if form.hasBound then .unbounded else ⟨outer, 0, 1⟩) := by
  cases written : form.hasBound with
  | true => exact if_pos written
  | false => exact if_neg (ne_true_of_eq_false written)

theorem outer_slice {array index : Resolved} {axes : Axes Dim} {form : RangeForm}
    (found : array.type.dims? = some axes) (unbounded : index.operand.bounds = none)
    (run : (slice ctx node array index form axes.outer).run before = .ok operand after)
    (accepted : ¬operand.type.isUnknown = true) :
    ∃ dims, operand.type.dims? = some dims ∧
      (dims.outer = .wildcard ↔ form.hasBound = true ∨ axes.outer = .wildcard) := by
  simp only [slice, unbounded, sliceSpan_none] at run
  rcases run_bind_eq_ok.mp run with ⟨valid, middle, validated, rest⟩
  split at rest
  · cases rest
    exact absurd rfl accepted
  · split at rest
    · next absent => cases absent
    · simp only [pure_bind, Bool.not_true, Bool.false_eq_true, if_false] at rest
      cases written : form.hasBound with
      | true =>
          rw [written, if_pos rfl] at rest
          rcases outer_sliced found (.inl rfl) rest accepted with ⟨dims, same, outer⟩
          exact ⟨dims, same, by simp [outer, SliceSpan.unbounded]⟩
      | false =>
          rw [written, if_neg Bool.false_ne_true] at rest
          rcases outer_sliced found (.inr rfl) rest accepted with ⟨dims, same, outer⟩
          exact ⟨dims, same, by simp [outer]⟩

theorem outer_indexing {array index : Resolved} {element : Tag} {form : RangeForm}
    (ranged : index.type.rangeParts? = some (element, form))
    (unbounded : index.operand.bounds = none)
    (run : (indexing ctx node array index).run before = .ok operand after)
    (accepted : ¬operand.type.isUnknown = true) :
    ∃ axes dims, array.type.dims? = some axes ∧ operand.type.dims? = some dims ∧
      (dims.outer = .wildcard ↔ form.hasBound = true ∨ axes.outer = .wildcard) := by
  simp only [indexing] at run
  split at run
  · cases run
    exact absurd rfl accepted
  · cases found : array.type.dims? with
    | none =>
        rw [found] at run
        cases run
        exact absurd rfl accepted
    | some axes =>
        simp only [found, ranged] at run
        rcases outer_slice found unbounded run accepted with ⟨dims, same, outer⟩
        exact ⟨axes, dims, rfl, same, outer⟩

end Slices

section Programs

variable {policy : BranchPolicy} {width : PointerWidth} {program : Program} {state : State}

/-- What is recorded of a slice by a range without folded bounds, if it is accepted. Its length
is open exactly if some bound of the range is written or the axis has no length itself. -/
theorem Program.unbounded_slice_open
    (run : (program.analyze (.start policy width) .full).run (.ofTable .empty)
      = .ok () state)
    (tree : (program.nodes.map Occurrence.id).Nodup) {ctx : Context} {target : Option Ty}
    {node : Node} {left place : Expr} {before middle later : State} {array index : Operand}
    {element : Tag} {form : RangeForm} {type : Ty}
    (meets : program.Meets (.start policy width) .full
      ⟨.expr ctx target (.index node left place), before⟩)
    (sliced : (left.resolve ctx none).run before = .ok array middle)
    (selected : (place.resolve ctx (some (indexTarget place.isRange))).run middle
      = .ok index later)
    (ranged : index.type.rangeParts? = some (element, form))
    (unbounded : index.bounds = none) (recorded : state.type? node.id = some (some type))
    (accepted : ¬type.isUnknown = true) :
    ∃ axes dims, array.type.dims? = some axes ∧ type.dims? = some dims ∧
      (dims.outer = .wildcard ↔ form.hasBound = true ∨ axes.outer = .wildcard) := by
  rcases (endsBy_of_meets run meets).exists_operand with ⟨operand, after, resolved, grows⟩
  have same : operand.type = type := type_of_resolve run tree resolved grows recorded
  subst same
  simp only [Expr.resolve] at resolved
  rcases exists_of_run_recorded resolved with ⟨ended, indexed, _, _⟩
  rw [run_bind_of_ok sliced, run_bind_of_ok selected] at indexed
  have selects : (Resolved.mk place.node index).type.rangeParts? = some (element, form) := ranged
  exact Slices.outer_indexing selects unbounded indexed accepted

end Programs

namespace Sample

/-- The slice `values[part]`. -/
def selection : Expr :=
  .index (node 20) (.ident (name 21 "values")) (.ident (name 22 "part"))

/-- The type `[3]i32`. -/
def triple (id : Nat) : TypeExpr :=
  .array (node id) [some ⟨.nowhere, some 3⟩] (.named (node (id + 1)) "i32")

/-- The type `range[usize]`. -/
def positions (id : Nat) : TypeExpr :=
  .range (node id) (.named (node (id + 1)) "usize")

def storedValues : Stmt :=
  .declaration (node 0) false (some (name 1 "values")) (triple 2)
    (.array (node 4) (.ofList [.int (node 5) "1", .int (node 6) "2", .int (node 7) "3"]))

def storedPart : Stmt :=
  .declaration (node 8) false (some (name 9 "part")) (positions 10)
    (.range (node 12) (.int (node 13) "0") (.int (node 14) "2") .missing false)

/-- A slice by a variable that holds `0..2`. -/
def storedSlice : Program where
  file := ""
  statements := .ofList [storedValues, storedPart, .expression (node 15) selection]

def storedSliceState : State :=
  ((storedSlice.analyze (.start .strict .bits64) .full).run (.ofTable .empty)).state

/-- Where the slice is begun. -/
def storedSliceStart : State :=
  let values := ((storedValues.analyze (.start .strict .bits64)).run (.ofTable .empty)).state
  ((storedPart.analyze (.start .strict .bits64)).run values).state

/-- A slice by a parameter. -/
def window : Program where
  file := ""
  statements := .ofList [
    .function (node 0) (some (name 1 "window"))
      [some ⟨some (name 2 "values"), triple 3, false⟩,
        some ⟨some (name 5 "part"), positions 6, false⟩] (.named (node 8) "void")
      (.block (node 9) (.ofList [.expression (node 10) selection]))]

def windowState : State :=
  ((window.analyze (.start .strict .bits64) .full).run (.ofTable .empty)).state

def windowSignature : Signature where
  name := "window"
  parameters := [⟨"values", some (.array .i32 ⟨.fixed 3, []⟩), false⟩,
    ⟨"part", some (.range .usize .bare), false⟩]
  result := some .void

def windowContext : Context :=
  (Context.start .strict .bits64).inFunction windowSignature

/-- Where the body is begun. -/
def windowStart : State :=
  let declared := (window.statements.declareFunctions.run (.ofTable .empty)).state
  let entered := { declared with table := declared.table.enter .function }
  let parameters := declareParameters (node 0) windowSignature 1 windowSignature.parameters
  (clearReturned.run (parameters.run entered).state).state

end Sample

theorem Program.unbounded_slice_open_sample :
    (Sample.storedSlice.analyze (.start .strict .bits64) .full).run (.ofTable .empty)
      = .ok () Sample.storedSliceState ∧
    (Sample.storedSlice.nodes.map Occurrence.id).Nodup ∧
    Sample.storedSliceState.type? 20 = some (some (.array .i32 ⟨.wildcard, []⟩)) ∧
    ∃ dims, (Ty.array .i32 ⟨.wildcard, []⟩).dims? = some dims ∧ dims.outer = .wildcard := by
  have run : (Sample.storedSlice.analyze (.start .strict .bits64) .full).run (.ofTable .empty)
      = .ok () Sample.storedSliceState := rfl
  have tree : (Sample.storedSlice.nodes.map Occurrence.id).Nodup := by decide
  have recorded : Sample.storedSliceState.type? 20
      = some (some (.array .i32 ⟨.wildcard, []⟩)) := rfl
  have meets : Sample.storedSlice.Meets (.start .strict .bits64) .full
      ⟨.expr (.start .strict .bits64) none Sample.selection, Sample.storedSliceStart⟩ := by
    refine ⟨_, List.mem_cons_self, ?_⟩
    refine .head (List.mem_cons_of_mem _ List.mem_cons_self) ?_
    refine .head (List.mem_cons_of_mem _ List.mem_cons_self) ?_
    refine .head List.mem_cons_self ?_
    exact .single List.mem_cons_self
  have opened := unbounded_slice_open run tree meets rfl rfl rfl rfl recorded (by decide)
  rcases opened with ⟨axes, dims, _, same, outer⟩
  exact ⟨run, tree, recorded, dims, same, outer.mpr (.inl rfl)⟩

/-- A parameter has the type of a range without bounds, whatever range it is given. The slice by
it gets the length of the whole array. -/
theorem Program.parameter_slice_fixed :
    (Sample.window.analyze (.start .strict .bits64) .full).run (.ofTable .empty)
      = .ok () Sample.windowState ∧
    Sample.windowState.reports = [] ∧ (Sample.window.nodes.map Occurrence.id).Nodup ∧
    Sample.window.Meets (.start .strict .bits64) .full
      ⟨.expr Sample.windowContext none Sample.selection, Sample.windowStart⟩ ∧
    (∃ array middle index later,
      ((Expr.ident (Sample.name 21 "values")).resolve Sample.windowContext none).run
        Sample.windowStart = .ok array middle ∧
      ((Expr.ident (Sample.name 22 "part")).resolve Sample.windowContext
        (some (indexTarget false))).run middle = .ok index later ∧
      index.type = .range .usize .bare ∧ index.bounds = none) ∧
    ∃ type dims, Sample.windowState.type? 20 = some (some type) ∧ type.dims? = some dims ∧
      dims.outer ≠ .wildcard := by
  refine ⟨rfl, rfl, by decide, ⟨_, List.mem_cons_self, ?_⟩, ⟨_, _, _, _, rfl, rfl, rfl, rfl⟩,
    .array .i32 ⟨.fixed 3, []⟩, _, rfl, rfl, nofun⟩
  refine .head List.mem_cons_self ?_
  refine .head List.mem_cons_self ?_
  refine .head List.mem_cons_self ?_
  exact .single List.mem_cons_self

end ComptimeTyping
