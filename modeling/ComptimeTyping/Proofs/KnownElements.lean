import ComptimeTyping.Proofs.ArrayElements
import ComptimeTyping.Proofs.Grids
import ComptimeTyping.Proofs.IndexBounds

/-! Folded elements of arrays. Literals, names, elements and slices are resolved on flat lists of
elements; where nothing is reported, these are the numbers of the nested list that the expression
stands for, in row-major order. -/

namespace ComptimeTyping

open Analysis

/-! ## What is known of a nested list -/

/-- The numbers of a nested list as folded elements, in row-major order. -/
def Grid.constants (grid : Grid) : List (Option Constant) :=
  grid.leaves.map (·.map .int)

/-- What is known of the elements of an array with the given axes: all of them, or none where the
nested list is lost. A slice whose length goes around to no rows is not known either. -/
inductive Grid.KnownAs (grid : Grid) (dims : List Int) : Option (List (Option Constant)) → Prop
  | all (positive : ∀ size ∈ dims, 0 < size) (shaped : grid.HasShape dims) :
      KnownAs grid dims (some grid.constants)
  | unknown (sized : ∀ size ∈ dims, size ≠ -1)
      (lost : (∀ size ∈ dims, 0 < size) → grid.Lost dims) : KnownAs grid dims none

/-- The operand that an integer or an array of integers resolves to. -/
inductive Operand.Shows (operand : Operand) : Grid → Prop
  | number {value : Option Int} (type : operand.type = .comptimeInt)
      (known : operand.value = value.map .int) : operand.Shows (.number value)
  | array {grid : Grid} {dims : Axes Int}
      (type : operand.type = .comptimeArray .comptimeInt dims)
      (known : grid.KnownAs dims.toList operand.elements) : operand.Shows grid

/-- Names that stand for nested lists are bound to them. -/
def SymbolTable.Shows (table : SymbolTable) (names : String → Option Grid) : Prop :=
  ∀ name grid, names name = some grid → grid.Countable ∧
    ∃ symbol, table.lookup? name = some symbol ∧ symbol.isInitialized = true ∧
      ∀ position, (Operand.ofSymbol position symbol).Shows grid

namespace KnownElements

variable {ctx : Context} {node : Node} {before after : State} {operand array : Operand}
  {grid : Grid} {dims : Axes Int} {items : List Grid}

theorem sized_of_knownAs {dims : List Int} {elements : Option (List (Option Constant))}
    (known : grid.KnownAs dims elements) : ∀ size ∈ dims, size ≠ -1 := by
  cases known with
  | all positive =>
      intro size member
      have := positive size member
      omega
  | unknown sized => exact sized

theorem known_of_shows (shown : operand.Shows grid) : operand.isUnknown = false := by
  rw [Operand.isUnknown]
  cases shown with
  | number type => rw [type]; rfl
  | array type => rw [type]; rfl

/-- What shows as a number is one. -/
theorem number_of_scalar {tag : Tag} (shown : operand.Shows grid)
    (scalar : operand.type = .scalar tag) :
    tag = .comptimeInt ∧ ∃ value, grid = .number value ∧ operand.value = value.map .int := by
  cases shown with
  | @number value type known =>
      rw [type] at scalar
      cases scalar
      exact ⟨rfl, value, rfl, known⟩
  | array type => rw [type] at scalar; cases scalar

theorem array_of_dims {axes : Axes Dim} (shown : operand.Shows grid)
    (found : operand.type.dims? = some axes) :
    ∃ dims, operand.type = .comptimeArray .comptimeInt dims ∧ axes = dims.map Dim.ofInt ∧
      grid.KnownAs dims.toList operand.elements := by
  cases shown with
  | number type => rw [type] at found; cases found
  | @array _ dims type known =>
      rw [type] at found
      cases found
      exact ⟨dims, type, rfl, known⟩

/-! ## Numbers -/

/-- What is negated without a report is a number. -/
theorem shows_prefixed (shown : operand.Shows grid) {result : Operand}
    (run : (prefixed node "-" operand).run before = .ok result after)
    (quiet : after.reports = before.reports) : result.Shows grid.negate := by
  simp only [prefixed, known_of_shows shown, Bool.false_eq_true, if_false, PrefixOp.ofSymbol?,
    negation] at run
  cases shown with
  | @number value type known =>
      rw [type, known] at run
      cases run
      cases value <;> exact .number rfl rfl
  | array type =>
      rw [type] at run
      exact absurd quiet (reported_refuse run)

/-- Operands that show integers are combined as those of an integer expression are. -/
theorem shows_foldComptime {op : IntegerOp} {left right : Resolved}
    {leftValue rightValue : Option Int} (leftKnown : left.operand.value = leftValue.map .int)
    (rightKnown : right.operand.value = rightValue.map .int)
    (run : (foldComptime op.arith left right .comptimeInt .comptimeInt).run before
      = .ok operand after) (quiet : after.reports = before.reports) :
    operand.Shows (Grid.combine op (.number leftValue) (.number rightValue)) := by
  have tag : (if op.arith = .div then Tag.comptimeFloat
      else Tag.comptimeInt.promote .comptimeInt) = .comptimeInt := by
    cases op <;> rfl
  simp only [foldComptime, leftKnown, rightKnown, tag] at run
  rcases leftValue with _ | leftValue
  · cases run
    exact .number rfl rfl
  · rcases rightValue with _ | rightValue
    · cases run
      exact .number rfl rfl
    · have folded : (Constant.int leftValue).fold op.arith (.int rightValue) =
          .ok ((op.apply leftValue rightValue).map .int) := by
        cases op <;> rfl
      simp only [Option.map_some, folded] at run
      cases applied : op.apply leftValue rightValue with
      | some value =>
          rw [applied] at run
          cases run
          exact .number rfl (congrArg (Option.map Constant.int) applied).symm
      | none =>
          rw [applied] at run
          dsimp only [Option.map_none] at run
          split at run
          · exact absurd quiet (reported_refuse run)
          · cases run
            exact .number rfl (congrArg (Option.map Constant.int) applied).symm

theorem shows_arithmetic {op : IntegerOp} {left right : Resolved} {target : Option Ty}
    {leftGrid rightGrid : Grid} (leftShown : left.operand.Shows leftGrid)
    (rightShown : right.operand.Shows rightGrid)
    (run : (arithmetic ctx node op.arith left right target).run before = .ok operand after)
    (quiet : after.reports = before.reports) :
    operand.Shows (Grid.combine op leftGrid rightGrid) := by
  simp only [arithmetic, Resolved.isUnknown, known_of_shows leftShown, known_of_shows rightShown,
    Bool.or_false, Bool.false_eq_true, if_false, Resolved.type] at run
  cases leftShown with
  | array type =>
      rw [type] at run
      exact absurd quiet (reported_refuse run)
  | @number leftValue leftType leftKnown =>
      rw [leftType] at run
      cases rightShown with
      | array type =>
          rw [type] at run
          exact absurd quiet (reported_refuse run)
      | @number rightValue rightType rightKnown =>
          rw [rightType] at run
          have folds : combineNumbers ctx node op.arith left right .comptimeInt .comptimeInt target =
              foldComptime op.arith left right .comptimeInt .comptimeInt := by
            cases op <;> rfl
          exact shows_foldComptime leftKnown rightKnown (folds ▸ run) quiet

/-! ## Literals -/

/-- The elements of a literal show its items. -/
abbrev AllShow (elements : List Resolved) (items : List Grid) : Prop :=
  List.Forall₂ (fun element item => element.operand.Shows item) elements items

/-- Scalars that are joined are integers. -/
theorem numbers_of_joinScalars {elements : List Resolved} {joined tag : Tag} {index : Nat}
    (shown : AllShow elements items) (comptime : joined = .comptimeInt)
    (result : joinScalars joined index elements = .ok tag) :
    tag = .comptimeInt ∧ ∃ values : List (Option Int), items = values.map .number ∧
      elements.map (·.operand.value) = values.map (·.map .int) := by
  induction shown generalizing joined index with
  | nil =>
      cases result
      exact ⟨comptime, [], rfl, rfl⟩
  | cons head _ induction =>
      obtain ⟨elementTag, next, scalar, resolved, rest⟩ := joinScalars_cons result
      obtain ⟨rfl, value, rfl, known⟩ := number_of_scalar head scalar
      subst comptime
      obtain ⟨rfl, values, rfl, constants⟩ := induction (Except.ok.inj resolved).symm rest
      refine ⟨rfl, value :: values, rfl, ?_⟩
      rw [List.map_cons, List.map_cons, known, constants]

/-- A literal of scalars is the list of their values. -/
theorem shows_vector {tag : Tag} {first : Resolved} {others : List Resolved}
    (shown : AllShow (first :: others) items) (scalar : first.operand.type = .scalar tag)
    (run : (vector ctx node tag (first :: others) none).run before = .ok operand after)
    (quiet : after.reports = before.reports) : operand.Shows (Grid.ofItems items) := by
  cases shown with
  | cons head rest =>
      obtain ⟨rfl, value, rfl, known⟩ := number_of_scalar head scalar
      simp only [vector, List.tail_cons] at run
      cases joined : joinScalars .comptimeInt 1 others with
      | error complaint =>
          rw [joined] at run
          exact absurd quiet (reported_refuse run)
      | ok tag =>
          rw [joined] at run
          obtain ⟨rfl, values, rfl, constants⟩ := numbers_of_joinScalars rest rfl joined
          cases run
          have numbers : ∀ item ∈ (value :: values).map Grid.number, item.HasShape [] := by
            intro item member
            obtain ⟨_, _, rfl⟩ := List.mem_map.mp member
            trivial
          have literal : Grid.ofItems ((value :: values).map .number) =
              .rows ((value :: values).map .number) :=
            Grid.ofItems_of_shape (List.forall_mem_nil _) numbers
          have length : others.length = values.length := by
            simpa using congrArg List.length constants
          have elements : (first :: others).map (·.operand.value) =
              (Grid.rows ((value :: values).map .number)).constants := by
            rw [Grid.constants, Grid.leaves_numbers, List.map_cons, List.map_cons, known, constants]
          rw [← List.map_cons, literal]
          refine .array rfl ?_
          rw [elements]
          refine .all ?_ ⟨?_, numbers⟩
          · simp [Axes.toList]
          · simp [length]

theorem shaped_or_lost {dims : List Int} {elements : Option (List (Option Constant))}
    (known : grid.KnownAs dims elements) (positive : ∀ size ∈ dims, 0 < size) :
    grid.HasShape dims ∨ grid.Lost dims := by
  cases known with
  | all _ shaped => exact .inl shaped
  | unknown _ lost => exact .inr (lost positive)

/-- The rows show items, all of them with the given axes. -/
abbrev AllKnown (dims : List Int) (rows : List Resolved) (items : List Grid) : Prop :=
  List.Forall₂ (fun row item => item.KnownAs dims row.operand.elements) rows items

section

variable {rows : List Resolved} {dims : List Int}

theorem exists_knownAs (known : AllKnown dims rows items) :
    ∀ item ∈ items, ∃ elements, item.KnownAs dims elements := by
  induction known with
  | nil => exact List.forall_mem_nil _
  | cons head _ induction => exact List.forall_mem_cons.mpr ⟨⟨_, head⟩, induction⟩

/-- The elements of all rows are known, or some row is not known and its item is lost if the axes
have lengths. -/
theorem known_or_unknown (known : AllKnown dims rows items) :
    (∀ item ∈ items, (∀ size ∈ dims, 0 < size) ∧ item.HasShape dims) ∧
        rows.mapM (fun row : Resolved => row.operand.elements) = some (items.map Grid.constants) ∨
      (∃ row ∈ rows, row.operand.elements = none) ∧
        ((∀ size ∈ dims, 0 < size) → ∃ item ∈ items, item.Lost dims) := by
  induction known with
  | nil => exact .inl ⟨List.forall_mem_nil _, rfl⟩
  | @cons row item rows items head _ induction =>
      generalize elements : row.operand.elements = own at head
      cases head with
      | all positive shaped =>
          rcases induction with ⟨others, folded⟩ | ⟨⟨other, member, unknown⟩, lost⟩
          · refine .inl ⟨List.forall_mem_cons.mpr ⟨⟨positive, shaped⟩, others⟩, ?_⟩
            rw [List.mapM_cons, elements, folded]
            rfl
          · refine .inr ⟨⟨other, List.mem_cons_of_mem _ member, unknown⟩, ?_⟩
            intro positive
            obtain ⟨absent, belongs, isLost⟩ := lost positive
            exact ⟨absent, List.mem_cons_of_mem _ belongs, isLost⟩
      | unknown sized lost =>
          exact .inr ⟨⟨row, List.mem_cons_self, elements⟩,
            fun positive => ⟨item, List.mem_cons_self, lost positive⟩⟩

theorem constants_rows (items : List Grid) :
    (Grid.rows items).constants = (items.map Grid.constants).flatten := by
  rw [Grid.constants, Grid.leaves_rows, List.map_flatten, List.map_map]
  rfl

theorem knownElements_constants (positive : ∀ size ∈ dims, 0 < size) (shaped : grid.HasShape dims) :
    knownElements grid.constants = some grid.constants := by
  apply if_neg
  rw [List.isEmpty_iff, Grid.constants, List.map_eq_nil_iff]
  exact Grid.leaves_ne_nil positive shaped

/-- The rows of an array make a nested list of one more axis. -/
theorem knownAs_joinRows (known : AllKnown dims rows items) (some : rows ≠ []) :
    (Grid.ofItems items).KnownAs (rows.length :: dims) (joinRows rows) := by
  have length : rows.length = items.length := known.length_eq
  have outer : 0 < rows.length := List.length_pos_iff.mpr some
  obtain ⟨item, member⟩ := List.exists_mem_of_length_pos (length ▸ outer)
  obtain ⟨elements, first⟩ := exists_knownAs known item member
  rcases known_or_unknown known with ⟨shaped, folded⟩ | ⟨⟨row, belongs, unknown⟩, lost⟩
  · obtain ⟨positive, _⟩ := shaped item member
    have all : (Grid.rows items).HasShape (rows.length :: dims) :=
      ⟨by rw [length], fun item member => (shaped item member).2⟩
    have lengths : ∀ size ∈ (rows.length : Int) :: dims, 0 < size :=
      List.forall_mem_cons.mpr ⟨by omega, positive⟩
    rw [Grid.ofItems_of_shape positive all.2, joinRows, folded, Option.bind_some,
      ← constants_rows, knownElements_constants lengths all]
    exact .all lengths all
  · rw [joinRows_of_unknown belongs unknown]
    refine .unknown ?_ ?_
    · exact List.forall_mem_cons.mpr ⟨by omega, sized_of_knownAs first⟩
    · intro positive
      obtain ⟨_, inner⟩ := List.forall_mem_cons.mp positive
      rw [length]
      refine Grid.lost_ofItems inner ?_ (lost inner)
      intro item member
      obtain ⟨_, known⟩ := exists_knownAs known item member
      exact shaped_or_lost known inner

end

/-- Rows that are joined are arrays of integers with the axes of the first one. -/
theorem arrays_of_joinRowTags {axes : Axes Dim} {joined tag : Tag} {index : Nat}
    {rows : List Resolved} (shown : AllShow rows items) (comptime : joined = .comptimeInt)
    (result : joinRowTags axes.toList joined index rows = .ok tag) :
    tag = .comptimeInt ∧ (∀ row ∈ rows, row.type.isComptime = true) ∧
      AllKnown (axes.map Dim.toInt).toList rows items := by
  induction shown generalizing joined index with
  | nil =>
      cases result
      exact ⟨comptime, List.forall_mem_nil _, .nil⟩
  | @cons row item _ _ head _ induction =>
      obtain ⟨dims, next, found, same, resolved, rest⟩ := joinRowTags_cons result
      obtain ⟨own, type, rfl, known⟩ := array_of_dims head found
      have typed : row.type = .comptimeArray .comptimeInt own := type
      subst comptime
      rw [typed] at resolved
      obtain ⟨rfl, comptime, others⟩ := induction (Except.ok.inj resolved).symm rest
      rw [Coherence.dims_of_map same] at known
      exact ⟨rfl, List.forall_mem_cons.mpr ⟨by rw [typed]; rfl, comptime⟩, .cons known others⟩

/-- A literal of arrays is the list of them. -/
theorem shows_rows {axes : Axes Dim} {first : Resolved} {others : List Resolved}
    (shown : AllShow (first :: others) items) (found : first.operand.type.dims? = some axes)
    (run : (rows axes (first :: others) first.type.elementTag).run before = .ok operand after)
    (quiet : after.reports = before.reports) : operand.Shows (Grid.ofItems items) := by
  cases shown with
  | cons head rest =>
      obtain ⟨dims, type, rfl, known⟩ := array_of_dims head found
      have typed : first.type = .comptimeArray .comptimeInt dims := type
      simp only [rows, List.tail_cons, typed, Ty.elementTag] at run
      cases joined : joinRowTags (dims.map Dim.ofInt).toList .comptimeInt 1 others with
      | error complaint =>
          rw [joined] at run
          exact absurd quiet (reported_refuse run)
      | ok tag =>
          rw [joined] at run
          obtain ⟨rfl, comptime, arrays⟩ := arrays_of_joinRowTags rest rfl joined
          rw [Coherence.dims_of_map rfl] at known
          have all : (first :: others).all (·.type.isComptime) = true := by
            rw [List.all_eq_true, List.forall_mem_cons]
            exact ⟨by rw [typed]; rfl, comptime⟩
          simp only [all, Tag.isComptime, Bool.and_self, if_true] at run
          cases run
          exact .array rfl (knownAs_joinRows (.cons known arrays) (List.cons_ne_nil _ _))

theorem known_of_allShow {elements : List Resolved} (shown : AllShow elements items) :
    elements.any (·.isUnknown) = false := by
  induction shown with
  | nil => rfl
  | cons head _ induction =>
      rw [List.any_cons, induction, Bool.or_false]
      exact known_of_shows head

/-- A literal shows the list of what its elements show. -/
theorem shows_arrayLiteral {elements : List Resolved} {target : Option Ty}
    (unasked : elementTarget target = none) (shown : AllShow elements items)
    (run : (arrayLiteral ctx node elements target).run before = .ok operand after)
    (quiet : after.reports = before.reports) : operand.Shows (Grid.ofItems items) := by
  cases elements with
  | nil =>
      simp only [arrayLiteral, emptyArray] at run
      split at run
      · cases unasked
      · exact absurd quiet (reported_refuse run)
  | cons first others =>
      simp only [arrayLiteral, known_of_allShow shown, Bool.false_eq_true, if_false, unasked] at run
      split at run
      · next scalar => exact shows_vector shown scalar run quiet
      · split at run
        · next found => exact shows_rows shown found run quiet
        · exact absurd quiet (reported_refuse run)

/-! ## Rows of an array -/

/-- The row of an array that is not known. -/
theorem shows_missing_row (type : array.type = .comptimeArray .comptimeInt dims)
    (sized : ∀ size ∈ dims.toList, size ≠ -1) :
    (Operand.typed array.type.row).Shows Grid.missing := by
  obtain ⟨outer, inner⟩ := dims
  rw [type]
  cases inner with
  | nil => exact .number rfl rfl
  | cons size sizes =>
      have inside := (List.forall_mem_cons.mp sized).2
      exact .array rfl (.unknown inside fun _ => rfl)

/-- The row of the flat list at a position inside of the axis. -/
theorem take_drop_constants {stride : Nat}
    (uniform : ∀ item ∈ items, item.leaves.length = stride) {place : Nat} {item : Grid}
    (found : items[place]? = some item) :
    ((Grid.rows items).constants.drop (place * stride)).take stride = item.constants := by
  rw [Grid.constants, ← List.map_drop, ← List.map_take, Grid.take_drop_leaves uniform found]
  rfl

/-- Rows that are picked from the flat list are those of the items that are picked. -/
theorem pickRows_constants {stride : Nat}
    (uniform : ∀ item ∈ items, item.leaves.length = stride) {start step : Int} {count : Nat}
    (inside : Grid.StepsInside items.length start step count) :
    pickRows (Grid.rows items).constants stride start step count =
      some (Grid.rows (Grid.stepped items start step count)).constants := by
  induction count generalizing start with
  | zero => rfl
  | succ count induction =>
      obtain ⟨notNegative, below⟩ := inside.here
      obtain ⟨item, _, found⟩ := Grid.exists_item rfl below notNegative
      have length : ((Grid.rows items).constants.length : Int) = items.length * stride := by
        rw [Grid.constants, List.length_map, Grid.length_leaves_rows uniform, Nat.cast_mul]
      have reached : (start + 1) * (stride : Int) ≤ items.length * stride :=
        Int.mul_le_mul_of_nonneg_right (by omega) (Int.natCast_nonneg stride)
      rw [pickRows, if_neg (by omega), take_drop_constants uniform found, induction inside.later,
        Option.map_some, Grid.stepped_succ found, constants_rows, constants_rows, List.map_cons,
        List.flatten_cons]

/-- The rows that are picked of an array that is known. -/
theorem pickedRows_eq {start step : Int} {count : Nat}
    (type : array.type = .comptimeArray .comptimeInt dims)
    (known : array.elements = some (Grid.rows items).constants)
    (positive : ∀ size ∈ dims.toList, 0 < size) (shaped : (Grid.rows items).HasShape dims.toList)
    (inside : Grid.StepsInside dims.outer start step count) :
    pickedRows array start step count =
      some (Grid.rows (Grid.stepped items start step count)).constants := by
  obtain ⟨outerPositive, _⟩ := List.forall_mem_cons.mp positive
  obtain ⟨length, all⟩ := shaped
  have uniform := fun item member => Grid.length_leaves (all item member)
  have total := Grid.length_leaves_rows uniform
  have stride : (Grid.rows items).constants.length / dims.outer.toNat =
      (dims.inner.map Int.toNat).prod := by
    rw [Grid.constants, List.length_map, total, ← length, Int.toNat_natCast,
      Nat.mul_div_cancel_left _ (by omega)]
  simp only [pickedRows, type, known, if_neg (Int.ne_of_gt outerPositive), stride]
  rw [← length] at inside
  exact pickRows_constants uniform inside

/-- Rows that make an array again. -/
theorem selectRows_array {start step : Int} {count : Nat} {tag : Tag} {dims : Axes Int} :
    selectRows array (.comptimeArray tag dims) start step count =
      { type := .comptimeArray tag dims
        elements := (pickedRows array start step count).bind knownElements } := by
  rw [selectRows]
  cases pickedRows array start step count <;> rfl

theorem pickedRows_unknown {start step : Int} {count : Nat} (unknown : array.elements = none) :
    pickedRows array start step count = none := by
  rw [pickedRows, unknown]
  cases array.type <;> rfl

/-- The row of an array whose elements are known. -/
theorem shows_known_row {index : Int} (type : array.type = .comptimeArray .comptimeInt dims)
    (known : array.elements = some grid.constants) (positive : ∀ size ∈ dims.toList, 0 < size)
    (shaped : grid.HasShape dims.toList) (notNegative : 0 ≤ index) (below : index < dims.outer) :
    (selectRows array array.type.row index 1 1).Shows (grid.item (.number (some index))) := by
  cases grid with
  | number => cases shaped
  | rows items =>
      obtain ⟨item, member, found⟩ := Grid.exists_item shaped.1 below notNegative
      have inside : Grid.StepsInside dims.outer index 1 1 := by
        intro place first
        omega
      have single : Grid.stepped items index 1 1 = [item] := Grid.stepped_succ found
      have picked := pickedRows_eq type known positive shaped inside
      rw [single, constants_rows, List.map_singleton, List.flatten_singleton] at picked
      have itemShaped := shaped.2 item member
      rw [Grid.item_eq notNegative found, type]
      obtain ⟨outer, inner⟩ := dims
      cases inner with
      | nil =>
          rw [selectRows, picked]
          cases item with
          | number value => exact .number rfl rfl
          | rows => cases itemShaped
      | cons size sizes =>
          have lengths := (List.forall_mem_cons.mp positive).2
          have row : (Ty.comptimeArray .comptimeInt ⟨outer, size :: sizes⟩).row =
              .comptimeArray .comptimeInt ⟨size, sizes⟩ := rfl
          rw [row, selectRows_array, picked, Option.bind_some,
            knownElements_constants lengths itemShaped]
          exact .array rfl (.all lengths itemShaped)

/-- The row of an array whose elements are not known. -/
theorem shows_unknown_row {index : Int} (type : array.type = .comptimeArray .comptimeInt dims)
    (unknown : array.elements = none) (sized : ∀ size ∈ dims.toList, size ≠ -1)
    (lost : (∀ size ∈ dims.toList, 0 < size) → grid.Lost dims.toList) (notNegative : 0 ≤ index)
    (below : index < dims.outer) :
    (selectRows array array.type.row index 1 1).Shows (grid.item (.number (some index))) := by
  have outerPositive : 0 < dims.outer := Int.lt_of_le_of_lt notNegative below
  rw [selectRows, pickedRows_unknown unknown, type]
  obtain ⟨outer, inner⟩ := dims
  cases inner with
  | nil =>
      have positive : ∀ size ∈ [outer], 0 < size := List.forall_mem_singleton.mpr outerPositive
      rcases Grid.lost_item (lost positive) notNegative below with isLost | ⟨_, absent⟩
      · cases isLost
      · rw [absent]
        exact .number rfl rfl
  | cons size sizes =>
      refine .array rfl (.unknown (List.forall_mem_cons.mp sized).2 fun lengths => ?_)
      have positive : ∀ length ∈ outer :: size :: sizes, 0 < length :=
        List.forall_mem_cons.mpr ⟨outerPositive, lengths⟩
      rcases Grid.lost_item (lost positive) notNegative below with isLost | ⟨nothing, _⟩
      · exact isLost
      · cases nothing

/-- A row inside of the axis is the item at its position. -/
theorem shows_row {index : Int} (type : array.type = .comptimeArray .comptimeInt dims)
    (known : grid.KnownAs dims.toList array.elements) (notNegative : 0 ≤ index)
    (below : index < dims.outer) :
    (selectRows array array.type.row index 1 1).Shows (grid.item (.number (some index))) := by
  generalize elements : array.elements = own at known
  cases known with
  | all positive shaped => exact shows_known_row type elements positive shaped notNegative below
  | unknown sized lost => exact shows_unknown_row type elements sized lost notNegative below

/-- An address that is no word lies beyond all words. -/
theorem beyond_of_fits {width : PointerWidth} {index : Int}
    (fits : (Constant.int index).fits .usize width = true)
    (noWord : (Constant.int index).word? = none) : Word.greatest < index := by
  by_contra counted
  have counts : Bound.Counts ⟨.nowhere, some (.int index)⟩ index :=
    IndexBounds.counts_of_address rfl (fun _ same => by cases same; exact fits)
      fun uncounted => counted uncounted.2
  have word := Slices.word_of_counts counts
  rw [Option.bind_some, noWord] at word
  cases word

theorem shows_literalElement {arrayNode : Node} {index : Resolved} {value : Option Int}
    (type : array.type = .comptimeArray .comptimeInt dims)
    (known : grid.KnownAs dims.toList array.elements) (countable : grid.Countable)
    (indexKnown : index.operand.value = value.map .int)
    (run : (literalElement ctx ⟨arrayNode, array⟩ index (.fixed dims.outer)).run before
      = .ok operand after) (quiet : after.reports = before.reports) :
    operand.Shows (grid.item (.number value)) := by
  simp only [literalElement] at run
  obtain ⟨passed, middle, checked, quietChecked, rest, quietRest⟩ := exists_of_quiet_bind run quiet
  obtain ⟨rfl, fits⟩ := (checks_checkFits _ _ _ _).accepts checked quietChecked
  rw [if_pos rfl, indexKnown] at rest
  split at rest
  · next noWord =>
      cases rest
      rw [Grid.item_missing countable]
      · exact shows_missing_row type (sized_of_knownAs known)
      · rintro index ⟨⟩
        exact beyond_of_fits (fits _ indexKnown) noWord
  · next index word =>
      rw [Option.bind_eq_some_iff] at word
      obtain ⟨constant, folded, word⟩ := word
      obtain ⟨rfl, holds⟩ := Checked.eq_of_word? word
      obtain ⟨_, rfl, ⟨⟩⟩ := Option.map_eq_some_iff.mp folded
      have address := (IndexBounds.fits_usize_iff.mp (fits _ indexKnown)).1
      split at rest
      · cases rest
        simp at quietRest
      · next inside =>
          cases rest
          exact shows_row type known address (Int.not_le.mp inside)

/-- What is indexed without a report is an array of a fixed length. -/
theorem array_of_indexing {arrayNode indexNode : Node} {index : Operand}
    (shown : array.Shows grid)
    (run : (indexing ctx node ⟨arrayNode, array⟩ ⟨indexNode, index⟩).run before
      = .ok operand after) (quiet : after.reports = before.reports) :
    ∃ dims, array.type = .comptimeArray .comptimeInt dims ∧
      grid.KnownAs dims.toList array.elements ∧
      array.type.dims? = some (dims.map Dim.ofInt) ∧
      (dims.map Dim.ofInt).outer = .fixed dims.outer := by
  cases found : array.type.dims? with
  | none =>
      simp only [indexing, Resolved.isUnknown, known_of_shows shown, Bool.false_eq_true,
        if_false, Resolved.type, found] at run
      exact absurd quiet (reported_refuse run)
  | some axes =>
      obtain ⟨dims, type, rfl, known⟩ := array_of_dims shown found
      exact ⟨dims, type, known, rfl, if_neg (sized_of_knownAs known _ List.mem_cons_self)⟩

/-- An element that is picked without a report is the item. -/
theorem shows_element {arrayNode indexNode : Node} {index : Operand} {place : Grid}
    (arrayShown : array.Shows grid) (countable : grid.Countable) (indexShown : index.Shows place)
    (run : (indexing ctx node ⟨arrayNode, array⟩ ⟨indexNode, index⟩).run before
      = .ok operand after) (quiet : after.reports = before.reports) :
    operand.Shows (grid.item place) := by
  obtain ⟨dims, type, known, found, fixed⟩ := array_of_indexing arrayShown run quiet
  have unknown := known_of_shows indexShown
  rw [IndexBounds.indexing_of_dims found, fixed] at run
  cases indexShown with
  | array indexType =>
      simp only [indexType, Ty.rangeParts?, element, Resolved.isUnknown, unknown,
        Resolved.type] at run
      cases run
      simp at quiet
  | @number value indexType indexKnown =>
      simp only [indexType, Ty.rangeParts?, element, Resolved.isUnknown, unknown,
        Resolved.type] at run
      exact shows_literalElement type known countable indexKnown run quiet

/-! ## Slices -/

/-- The rows from `start` below `stop`, `step` apart, of an axis of a length. -/
structure Spans (length start stop step : Int) : Prop where
  notNegative : 0 ≤ start
  nonempty : start < stop
  inside : stop ≤ length
  positive : 0 < step
  word : step ≤ Word.greatest

section

variable {length start stop step : Int}

/-- A number of rows that is positive has not gone around. -/
theorem sliceCount_eq (spans : Spans length start stop step) (counted : length ≤ Word.greatest)
    (rows : 0 < sliceCount start stop step) :
    sliceCount start stop step = sliceRows start stop step := by
  obtain ⟨notNegative, nonempty, inside, positive, word⟩ := spans
  rw [Slices.sliceCount_eq_iff positive word nonempty]
  by_contra large
  have wrapped := Slices.wrap_le_sub (Int.not_le.mp large)
  have negative : Word.wrap (stop - start + step - 1) < 0 := by
    simp only [Word.greatest] at *
    omega
  have none := Int.tdiv_nonneg (Int.neg_nonneg_of_nonpos (Int.le_of_lt negative))
    (Int.le_of_lt positive)
  rw [Int.neg_tdiv] at none
  rw [sliceCount] at rows
  omega

/-- The rows that are counted are those below the stop. -/
theorem lt_sliceRows_iff (positive : 0 < step) (place : Nat) :
    place < (sliceRows start stop step).toNat ↔ start + place * step < stop := by
  rw [Int.lt_toNat, Slices.sliceRows_eq positive, Int.lt_iff_add_one_le,
    Int.le_ediv_iff_mul_le positive, Int.add_mul, Int.one_mul]
  omega

/-- The places of the rows that a slice counts. -/
theorem stepsInside_sliceCount (spans : Spans length start stop step)
    (counted : length ≤ Word.greatest) :
    Grid.StepsInside length start step (sliceCount start stop step).toNat := by
  intro place below
  have rows : 0 < sliceCount start stop step := by omega
  rw [sliceCount_eq spans counted rows] at below
  have reached := (lt_sliceRows_iff spans.positive place).mp below
  obtain ⟨notNegative, _, inside, positive, _⟩ := spans
  have steps : 0 ≤ (place : Int) * step := by positivity
  omega

/-- The items that a slice picks, if it has rows. -/
theorem picked_sliceCount (spans : Spans items.length start stop step)
    (counted : (items.length : Int) ≤ Word.greatest) (rows : 0 < sliceCount start stop step) :
    Grid.picked items start stop step =
      Grid.stepped items start step (sliceCount start stop step).toNat := by
  refine Grid.picked_eq spans.notNegative spans.positive spans.inside ?_
  rw [sliceCount_eq spans counted rows]
  exact lt_sliceRows_iff spans.positive

theorem length_picked_sliceCount (spans : Spans items.length start stop step)
    (counted : (items.length : Int) ≤ Word.greatest) (rows : 0 < sliceCount start stop step) :
    ((Grid.picked items start stop step).length : Int) = sliceCount start stop step := by
  rw [picked_sliceCount spans counted rows,
    Grid.length_stepped (stepsInside_sliceCount spans counted),
    Int.toNat_of_nonneg (Int.le_of_lt rows)]

/-- Rows that are picked from what is lost are lost. -/
theorem lost_every {sizes : List Int} (lost : grid.Lost (length :: sizes))
    (countable : grid.Countable) (spans : Spans length start stop step)
    (rows : 0 < sliceCount start stop step) :
    (grid.every start stop step).Lost (sliceCount start stop step :: sizes) := by
  cases countable with
  | number => rfl
  | @rows items counted =>
      obtain ⟨rfl, all⟩ := lost
      exact ⟨length_picked_sliceCount spans counted rows,
        fun item member => all item (Grid.mem_of_mem_picked member)⟩

/-- Rows that are picked from an array of a shape have this shape but for their number. -/
theorem hasShape_picked {sizes : List Int} (shaped : (Grid.rows items).HasShape (length :: sizes))
    (counted : (items.length : Int) ≤ Word.greatest) (spans : Spans length start stop step)
    (rows : 0 < sliceCount start stop step) :
    (Grid.rows (Grid.picked items start stop step)).HasShape
      (sliceCount start stop step :: sizes) := by
  obtain ⟨rfl, all⟩ := shaped
  exact ⟨length_picked_sliceCount spans counted rows,
    fun item member => all item (Grid.mem_of_mem_picked member)⟩

/-- The rows of a slice of an array whose elements are known. If their number goes around, there
are none of them. -/
theorem knownAs_pickedRows (type : array.type = .comptimeArray .comptimeInt dims)
    (known : array.elements = some (Grid.rows items).constants)
    (positive : ∀ size ∈ dims.toList, 0 < size) (shaped : (Grid.rows items).HasShape dims.toList)
    (counted : (items.length : Int) ≤ Word.greatest) (spans : Spans dims.outer start stop step)
    (sized : ∀ size ∈ sliceCount start stop step :: dims.inner, size ≠ -1) :
    (Grid.rows (Grid.picked items start stop step)).KnownAs
      (sliceCount start stop step :: dims.inner)
      ((pickedRows array start step (sliceCount start stop step).toNat).bind knownElements) := by
  have length : (items.length : Int) = dims.outer := shaped.1
  rw [pickedRows_eq type known positive shaped (stepsInside_sliceCount spans (length ▸ counted)),
    Option.bind_some]
  by_cases rows : 0 < sliceCount start stop step
  · have selected := hasShape_picked shaped counted spans rows
    have lengths : ∀ size ∈ sliceCount start stop step :: dims.inner, 0 < size :=
      List.forall_mem_cons.mpr ⟨rows, (List.forall_mem_cons.mp positive).2⟩
    rw [← picked_sliceCount (length ▸ spans) counted rows,
      knownElements_constants lengths selected]
    exact .all lengths selected
  · rw [Int.toNat_of_nonpos (Int.not_lt.mp rows)]
    exact .unknown sized fun lengths => absurd (lengths _ List.mem_cons_self) rows

/-- The rows of a slice are the items that are picked. -/
theorem shows_selectRows {result : Grid} (type : array.type = .comptimeArray .comptimeInt dims)
    (known : grid.KnownAs dims.toList array.elements) (countable : grid.Countable)
    (spans : Spans dims.outer start stop step) (isFixed : sliceCount start stop step ≠ -1)
    (picks : (∀ size ∈ dims.toList, 0 < size) → result = grid.every start stop step) :
    (selectRows array (.comptimeArray .comptimeInt (dims.withOuter (sliceCount start stop step)))
      start step (sliceCount start stop step).toNat).Shows result := by
  have sized : ∀ size ∈ sliceCount start stop step :: dims.inner, size ≠ -1 :=
    List.forall_mem_cons.mpr ⟨isFixed, (List.forall_mem_cons.mp (sized_of_knownAs known)).2⟩
  rw [selectRows_array]
  refine .array rfl ?_
  change result.KnownAs (sliceCount start stop step :: dims.inner) _
  generalize elements : array.elements = own at known
  cases known with
  | unknown _ lost =>
      rw [pickedRows_unknown elements]
      refine .unknown sized fun lengths => ?_
      obtain ⟨rows, inner⟩ := List.forall_mem_cons.mp lengths
      have outer : 0 < dims.outer :=
        Int.lt_of_le_of_lt spans.notNegative (Int.lt_of_lt_of_le spans.nonempty spans.inside)
      have positive : ∀ size ∈ dims.toList, 0 < size := List.forall_mem_cons.mpr ⟨outer, inner⟩
      rw [picks positive]
      exact lost_every (lost positive) countable spans rows
  | all positive shaped =>
      cases countable with
      | number => cases shaped
      | rows counted =>
          rw [picks positive]
          exact knownAs_pickedRows type elements positive shaped counted spans sized

end

/-! ## Slices by written bounds -/

/-- What is known of a bound that may be missing. -/
inductive Reads (bound : Bound) : Bool → Option Grid → Prop
  | absent : Reads bound false none
  | number {value : Option Int} (known : bound.value = value.map .int) :
      Reads bound true (some (.number value))

section

variable {form : RangeForm} {bounds : Bounds} {start stop step : Option Grid}

theorem bound_of_reads {bound : Bound} {written : Bool} {read : Option Grid} {absent : Int}
    {place : Int → Int} (reads : Reads bound written read)
    (counts : written = true → ∃ value, bound.Counts value) :
    ∃ found, Grid.bound absent place read = some found ∧
      if written then ∃ value, bound.Counts value ∧ found = place value else found = absent := by
  cases reads with
  | absent => exact ⟨absent, rfl, rfl⟩
  | @number value known =>
      obtain ⟨index, counted⟩ := counts rfl
      rw [counted.1] at known
      obtain ⟨_, rfl, ⟨⟩⟩ := Option.map_eq_some_iff.mp known.symm
      exact ⟨place index, rfl, index, counted, rfl⟩

/-- The bounds of a range literal. -/
structure ReadsAll (form : RangeForm) (bounds : Bounds) (start stop step : Option Grid) :
    Prop where
  start : Reads bounds.start form.hasStart start
  stop : Reads bounds.stop form.hasEnd stop
  step : Reads bounds.step form.hasStep step
  nonzero : bounds.step.value ≠ some (.int 0)

theorem value_of_written (reads : ReadsAll form bounds start stop step) :
    ∀ bound ∈ bounds.written form, ∃ value : Option Int, bound.value = value.map .int := by
  have each : ∀ {bound : Bound} {read : Option Grid}, Reads bound true read →
      ∃ value : Option Int, bound.value = value.map .int := by
    intro bound read reads
    cases reads with
    | number known => exact ⟨_, known⟩
  intro bound member
  simp only [Bounds.written, List.mem_append, List.mem_ite_nil_right, List.mem_singleton] at member
  rcases member with (⟨written, rfl⟩ | ⟨written, rfl⟩) | ⟨written, rfl⟩
  · exact each (written ▸ reads.start)
  · exact each (written ▸ reads.stop)
  · exact each (written ▸ reads.step)

/-- A slice whose bounds are all counted picks the items that they stand for. -/
theorem exists_sliceKnown (reads : ReadsAll form bounds start stop step)
    (counts : ∀ bound ∈ bounds.written form, ∃ value, bound.Counts value) (length : Int) :
    ∃ first last stride, SliceKnown form bounds (.fixed length) first last stride ∧
      ∀ grid : Grid, grid.size = length →
        grid.slice start stop step form.inclusive = grid.every first last stride := by
  obtain ⟨first, starts, firstKnown⟩ : ∃ first, Grid.bound 0 id start = some first ∧
      if form.hasStart then ∃ value, bounds.start.Counts value ∧ first = id value else first = 0 :=
    bound_of_reads reads.start fun written => counts _ (IndexBounds.start_mem_written written)
  obtain ⟨last, stops, lastKnown⟩ : ∃ last, Grid.bound length
      (fun last => if form.inclusive then last + 1 else last) stop = some last ∧
      if form.hasEnd then ∃ value, bounds.stop.Counts value ∧
        last = (fun last => if form.inclusive then last + 1 else last) value
      else last = length :=
    bound_of_reads reads.stop fun written => counts _ (IndexBounds.stop_mem_written written)
  obtain ⟨stride, steps, strideKnown⟩ : ∃ stride, Grid.bound 1 id step = some stride ∧
      if form.hasStep then ∃ value, bounds.step.Counts value ∧ stride = id value
      else stride = 1 :=
    bound_of_reads reads.step fun written => counts _ (IndexBounds.step_mem_written written)
  refine ⟨first, last, stride, ⟨?_, ?_, ?_⟩, ?_⟩
  · split at firstKnown
    · next written =>
        obtain ⟨_, counted, rfl⟩ := firstKnown
        rw [if_pos written]
        exact counted
    · next absent => rw [if_neg absent, firstKnown]
  · split at lastKnown
    · next written => rw [if_pos written]; exact lastKnown
    · next absent => rw [if_neg absent, lastKnown]
  · split at strideKnown
    · next written =>
        obtain ⟨_, counted, rfl⟩ := strideKnown
        have holds : Word.holds stride = true := by
          apply decide_eq_true
          have := counted.2
          simp only [Word.least, Word.greatest] at *
          omega
        rw [if_pos written]
        refine ⟨counted.1, ?_, holds⟩
        rintro rfl
        exact reads.nonzero counted.1
    · next absent => rw [if_neg absent, strideKnown]
  · rintro grid rfl
    rw [Grid.slice, starts, stops, steps]

/-- A bound that is not counted has no word. -/
theorem noWord_of_not_counts {width : PointerWidth} {bound : Bound} {value : Option Int}
    (known : bound.value = value.map .int)
    (fits : ∀ constant ∈ bound.value, constant.fits .usize width = true)
    (notCounted : ¬∃ value, bound.Counts value) :
    bound.value.bind Constant.word? = none := by
  cases value with
  | none =>
      rw [known]
      rfl
  | some value =>
      have uncounted : width.IsUncounted value := by
        by_contra counted
        exact notCounted ⟨value, IndexBounds.counts_of_address known fits counted⟩
      rw [known]
      exact IndexBounds.word_of_uncounted uncounted

/-- A slice that is cut without a report shows the items that it picks. -/
theorem shows_slice {arrayNode indexNode : Node} {index : Operand} {element : Tag}
    (arrayShown : array.Shows grid) (countable : grid.Countable)
    (ranged : index.type.rangeParts? = some (element, form)) (bounded : index.bounds = some bounds)
    (reads : ReadsAll form bounds start stop step)
    (fits : ∀ bound ∈ [bounds.start, bounds.stop, bounds.step],
      ∀ constant ∈ bound.value, constant.fits .usize ctx.width = true)
    (run : (indexing ctx node ⟨arrayNode, array⟩ ⟨indexNode, index⟩).run before
      = .ok operand after) (quiet : after.reports = before.reports) :
    operand.Shows (grid.slice start stop step form.inclusive) := by
  obtain ⟨dims, type, known, found, fixed⟩ := array_of_indexing arrayShown run quiet
  have resolved : Resolved.type ⟨indexNode, index⟩ = index.type := rfl
  rw [IndexBounds.indexing_of_dims found, fixed, ranged] at run
  obtain ⟨_, _, middle, span, quietMiddle, spanned, cut⟩ :=
    IndexBounds.fits_of_quiet_slice (resolved ▸ ranged) bounded run quiet
  have quietCut : after.reports = middle.reports := quiet.trans quietMiddle.symm
  by_cases counts : ∀ bound ∈ bounds.written form, ∃ value, bound.Counts value
  · obtain ⟨first, last, stride, sliceKnown, slices⟩ := exists_sliceKnown reads counts dims.outer
    obtain ⟨rfl, positive, nonempty, inside⟩ := Slices.span_of_known sliceKnown spanned
    simp only [isBeyond, decide_eq_false_iff_not] at inside
    have spans : Spans dims.outer first last stride :=
      ⟨Slices.start_nonneg sliceKnown, nonempty, by omega, positive, Slices.step_le sliceKnown⟩
    simp only [sliced, type] at cut
    by_cases isOpen : sliceCount first last stride = -1
    · rw [isOpen] at cut
      exact absurd quietCut (reported_refuse cut)
    · rw [show Dim.ofInt (sliceCount first last stride) = .fixed _ from if_neg isOpen] at cut
      rw [← (Outcome.ok.inj cut).1]
      refine shows_selectRows type known countable spans isOpen fun lengths => ?_
      cases grid with
      | number => exact Grid.slice_number _ _ _ _ _
      | rows items =>
          rcases shaped_or_lost known lengths with shaped | lost
          · exact slices _ shaped.1
          · exact slices _ lost.1
  · simp only [not_forall, not_exists] at counts
    obtain ⟨bound, member, notCounted⟩ := counts
    obtain ⟨value, folded⟩ := value_of_written reads bound member
    have noWord := noWord_of_not_counts folded
      (fits bound (IndexBounds.mem_of_mem_written member)) (not_exists.mpr notCounted)
    have comptime : array.type.isComptime = true := by rw [type]; rfl
    rw [IndexBounds.unbounded_sliceSpan _ _ member noWord] at spanned
    cases spanned
    exact absurd quietCut (IndexBounds.reported_sliced_unbounded comptime found cut)

end

/-! ## Range literals -/

/-- The bounds that were read so far are integers. -/
structure IntegerParts (parts : RangeParts) : Prop where
  valid : parts.isInvalid = false
  tagged : parts.tag = none ∨ parts.tag = some .comptimeInt

theorem reads_addBound {part : String} {parts : RangeParts} {bound : Resolved}
    {result : RangeParts × Bound} (shown : bound.operand.Shows grid)
    (integers : IntegerParts parts)
    (run : (addBound part parts bound).run before = .ok result after)
    (quiet : after.reports = before.reports) :
    IntegerParts result.1 ∧ Reads result.2 true (some grid) := by
  have known : ¬bound.isUnknown = true := by
    rw [Resolved.isUnknown, known_of_shows shown]
    exact Bool.false_ne_true
  have valid := IndexBounds.valid_of_quiet_addBound run known integers.valid quiet
  obtain ⟨tag, joined, scalar, rfl, joins⟩ := RangeBounds.exists_of_addBound run valid
  obtain ⟨rfl, value, rfl, folded⟩ := number_of_scalar shown scalar
  refine ⟨⟨integers.valid, .inr (congrArg some ?_)⟩, .number folded⟩
  rcases joins with ⟨_, rfl⟩ | ⟨earlier, some, resolved⟩
  · rfl
  · rcases integers.tagged with none | integer
    · rw [none] at some
      cases some
    · rw [integer] at some
      cases some
      exact (Except.ok.inj resolved).symm

/-- A bound that is there is read as what it shows. -/
theorem reads_withBound {part : String} {parts : RangeParts} {bound : Expr}
    {resolve : Analysis Operand} {result : RangeParts × Bound} {read : Option Grid}
    (missing : bound.isMissing = true → read = none)
    (present : bound.isMissing = false → ∃ grid, read = some grid ∧
      ∀ operand middle, resolve.run before = .ok operand middle →
        middle.reports = before.reports → operand.Shows grid)
    (integers : IntegerParts parts)
    (run : (withBound part parts bound resolve).run before = .ok result after)
    (quiet : after.reports = before.reports) :
    IntegerParts result.1 ∧ Reads result.2 (!bound.isMissing) read := by
  simp only [withBound] at run
  split at run
  · next isMissing =>
      cases run
      rw [missing isMissing, isMissing]
      exact ⟨integers, .absent⟩
  · next isPresent =>
      obtain ⟨grid, rfl, shows⟩ := present (Bool.eq_false_iff.mpr isPresent)
      obtain ⟨operand, middle, resolved, quietMiddle, added, quietAdded⟩ :=
        exists_of_quiet_bind run quiet
      rw [Bool.eq_false_iff.mpr isPresent]
      exact reads_addBound (shows operand middle resolved quietMiddle) integers added quietAdded

/-- A literal of integers that is resolved as an index is a range of addresses. -/
theorem reads_rangeLiteral {step : Position} {form : RangeForm} {parts : RangeParts}
    {bounds : Bounds} (integers : IntegerParts parts) (read : BoundsRead form parts bounds)
    (run : (rangeLiteral ctx node step form .usize parts bounds).run before = .ok operand after)
    (quiet : after.reports = before.reports) :
    operand = rangeOf .usize form bounds ∧ bounds.step.value ≠ some (.int 0) ∧
      ∀ bound ∈ [bounds.start, bounds.stop, bounds.step],
        ∀ constant ∈ bound.value, constant.fits .usize ctx.width = true := by
  simp only [rangeLiteral, integers.valid, Bool.false_eq_true, if_false] at run
  split at run
  · next untagged =>
      cases run
      obtain ⟨noStart, noStop, noStep⟩ := read.untagged integers.valid untagged
      rw [read.start noStart, read.stop noStop, read.step noStep]
      refine ⟨rfl, ?_, ?_⟩ <;> simp [Bound.absent]
  · next tag tagged =>
      obtain rfl : tag = .comptimeInt := by
        rcases integers.tagged with none | integer
        · rw [none] at tagged
          cases tagged
        · rw [integer] at tagged
          exact (Option.some.inj tagged).symm
      obtain ⟨element, middle, adapted, quietAdapted, rest, quietRest⟩ :=
        exists_of_quiet_bind run quiet
      obtain ⟨fits, checked, fitRun, quietFit, taken, _⟩ :=
        exists_of_quiet_bind (show (checkBoundsFit ctx bounds .usize >>= fun fits =>
          if fits = true then pure (some .usize) else pure none).run before = .ok element middle
          from adapted) quietAdapted
      obtain ⟨rfl, fit⟩ := (checks_checkBoundsFit _ _ _).accepts fitRun quietFit
      cases taken
      dsimp only at rest
      split at rest
      · exact absurd quietRest (reported_refuse rest)
      · next nonzero =>
          cases rest
          refine ⟨rfl, ?_, fit⟩
          intro zero
          rw [zero] at nonzero
          exact nonzero rfl

end KnownElements

end ComptimeTyping
