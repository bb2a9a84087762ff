import Mathlib.Algebra.BigOperators.Ring.List
import Mathlib.Tactic.Linarith
import Mathlib.Tactic.Positivity
import ComptimeTyping.Proofs.Folding

/-! Nested lists of integers as values of expressions. Literals nest them, an index picks an item
and a range picks every so many items of a list; nothing here knows how elements are stored. Lists
that are as deep as a type says and as long as it says have a shape. -/

namespace ComptimeTyping

/-- A nested list of integers. A number need not have a value. -/
inductive Grid where
  | number (value : Option Int)
  | rows (items : List Grid)

namespace Grid

/-- What does not exist, such as an item that lies outside of a list. -/
def missing : Grid :=
  .number none

/-! ## Shapes -/

mutual

/-- The lengths of a list and of its first items, outermost first. -/
def shape : Grid → List Nat
  | .number _ => []
  | .rows items => items.length :: firstShape items

def firstShape : List Grid → List Nat
  | [] => []
  | first :: _ => first.shape

end

mutual

/-- The numbers of a nested list in row-major order. -/
def leaves : Grid → List (Option Int)
  | .number value => [value]
  | .rows items => leavesOfAll items

def leavesOfAll : List Grid → List (Option Int)
  | [] => []
  | item :: items => item.leaves ++ leavesOfAll items

end

/-- Lists of the given lengths, with numbers at the bottom. -/
def HasShape : List Int → Grid → Prop
  | [], .number _ => True
  | size :: sizes, .rows items =>
      (items.length : Int) = size ∧ ∀ item ∈ items, HasShape sizes item
  | _, _ => False

/-- Lists of the first of the given lengths, and nothing where the others should be. -/
def Lost : List Int → Grid → Prop
  | _ :: _, .number value => value = none
  | size :: sizes, .rows items => (items.length : Int) = size ∧ ∀ item ∈ items, Lost sizes item
  | [], _ => False

/-- No list is longer than a word counts. -/
inductive Countable : Grid → Prop
  | number (value : Option Int) : Countable (.number value)
  | rows {items : List Grid} (counted : (items.length : Int) ≤ Word.greatest)
      (all : ∀ item ∈ items, Countable item) : Countable (.rows items)

/-! ## Operations -/

def negate : Grid → Grid
  | .number value => .number (value.map (-·))
  | .rows _ => missing

def combine (op : IntegerOp) : Grid → Grid → Grid
  | .number left, .number right =>
      .number (left.bind fun left => right.bind fun right => op.apply left right)
  | _, _ => missing

/-- The list of items that all have the same shape. -/
def ofItems (items : List Grid) : Grid :=
  if ∀ item ∈ items, item.shape = firstShape items then .rows items else missing

/-- The item at a position. -/
def item : Grid → Grid → Grid
  | .rows items, .number (some index) =>
      if 0 ≤ index then (items[index.toNat]?).getD missing else missing
  | _, _ => missing

/-- The items at `start`, `start + step` and so on that lie below `stop`. -/
def picked (items : List Grid) (start stop step : Int) : List Grid :=
  (List.range items.length).filterMap fun count : Nat =>
    let place := start + count * step
    if 0 ≤ place ∧ place < stop then items[place.toNat]? else none

/-- The place that a bound of a slice stands for, and that of a bound that is left out. -/
def bound (absent : Int) (place : Int → Int) : Option Grid → Option Int
  | none => some absent
  | some (.number value) => value.map place
  | some (.rows _) => none

def size : Grid → Int
  | .number _ => 0
  | .rows items => items.length

def every (start stop step : Int) : Grid → Grid
  | .number _ => missing
  | .rows items => .rows (picked items start stop step)

/-- The items from a start on below an end, a step apart. An inclusive end is the last item. -/
def slice (grid : Grid) (start stop step : Option Grid) (inclusive : Bool) : Grid :=
  match bound 0 id start,
    bound grid.size (fun last => if inclusive then last + 1 else last) stop, bound 1 id step with
  | some start, some stop, some step => grid.every start stop step
  | _, _, _ => missing

end Grid

/-! ## Values of expressions -/

/-- The integer operator that is written as a text. -/
def IntegerOp.ofSymbol? (text : String) : Option IntegerOp :=
  [IntegerOp.add, .sub, .mul, .quotient, .remainder].find? (·.symbol == text)

theorem IntegerOp.symbol_of_ofSymbol? {text : String} {op : IntegerOp}
    (found : ofSymbol? text = some op) : op.symbol = text := by
  simpa using List.find?_some found

/-- A bound that may be missing, and its value. -/
def Expr.written? (bound : Expr) (value : Option Grid) : Option (Option Grid) :=
  if bound.isMissing then some none else value.map some

mutual

/-- The nested list that an expression stands for where names stand for nested lists, if it is
made of integers, names, operators on integers, literals of no more items than a word counts,
elements and slices. -/
def Expr.grid? (names : String → Option Grid) : Expr → Option Grid
  | .int _ text => (Literal.integer? text).map fun value => .number (some value)
  | .ident name => names name.name
  | .prefixOp _ operator right =>
      if operator = "-" then (right.grid? names).map Grid.negate else none
  | .infixOp _ left operator right => do
      let op ← IntegerOp.ofSymbol? operator
      return Grid.combine op (← left.grid? names) (← right.grid? names)
  | .array _ items => do
      let items ← items.grids? names
      if (items.length : Int) ≤ Word.greatest then some (Grid.ofItems items) else none
  | .index _ left (.range _ start stop step inclusive) => do
      let grid ← left.grid? names
      let start ← start.written? (start.grid? names)
      let stop ← stop.written? (stop.grid? names)
      let step ← step.written? (step.grid? names)
      return grid.slice start stop step inclusive
  | .index _ left index => do
      return (← left.grid? names).item (← index.grid? names)
  | _ => none

def Exprs.grids? (names : String → Option Grid) : Exprs → Option (List Grid)
  | .nil => some []
  | .cons head tail => do
      return (← head.grid? names) :: (← tail.grids? names)

end

/-- What is not a range picks an element. -/
theorem Expr.grid?_index {names : String → Option Grid} {node : Node} {left index : Expr}
    (notRange : index.isRange = false) :
    (Expr.index node left index).grid? names =
      (left.grid? names).bind fun grid =>
        (index.grid? names).bind fun place => some (grid.item place) := by
  cases index with
  | range => cases notRange
  | _ => rfl

/-- Definitions `val name = value` of nested lists, each of which may use those before it, and the
nested lists that names stand for after them. -/
def Definition.gridsAfter? (names : String → Option Grid) :
    List Definition → Option (String → Option Grid)
  | [] => some names
  | definition :: definitions => do
      let grid ← definition.value.grid? names
      gridsAfter? (Function.update names definition.name.name (some grid)) definitions

/-! ## Shapes of nested lists -/

namespace Grid

variable {dims sizes : List Int} {size : Int} {grid : Grid} {items : List Grid}

theorem leavesOfAll_eq (items : List Grid) : leavesOfAll items = (items.map leaves).flatten := by
  induction items with
  | nil => rfl
  | cons item items induction => rw [leavesOfAll, induction, List.map_cons, List.flatten_cons]

theorem leaves_rows (items : List Grid) :
    (Grid.rows items).leaves = (items.map leaves).flatten := by
  rw [leaves, leavesOfAll_eq]

theorem length_leaves_rows {stride : Nat}
    (uniform : ∀ item ∈ items, item.leaves.length = stride) :
    (Grid.rows items).leaves.length = items.length * stride := by
  have same : (items.map leaves).map List.length = List.replicate items.length stride := by
    rw [List.map_map, List.eq_replicate_iff]
    refine ⟨List.length_map _, ?_⟩
    intro count member
    obtain ⟨item, belongs, rfl⟩ := List.mem_map.mp member
    exact uniform item belongs
  rw [leaves_rows, List.length_flatten, same, List.sum_replicate_nat]

theorem leaves_numbers (values : List (Option Int)) :
    (Grid.rows (values.map .number)).leaves = values := by
  rw [leaves_rows, List.map_map]
  induction values with
  | nil => rfl
  | cons value values induction =>
      rw [List.map_cons, List.flatten_cons, induction]
      rfl

/-- Of items with equally many numbers, those of one stand together. -/
theorem take_drop_leaves {stride : Nat} (uniform : ∀ item ∈ items, item.leaves.length = stride)
    {place : Nat} {item : Grid} (found : items[place]? = some item) :
    ((Grid.rows items).leaves.drop (place * stride)).take stride = item.leaves := by
  induction items generalizing place with
  | nil => cases found
  | cons first others induction =>
      obtain ⟨length, rest⟩ := List.forall_mem_cons.mp uniform
      rw [leaves, leavesOfAll]
      cases place with
      | zero =>
          cases found
          rw [Nat.zero_mul, List.drop_zero, List.take_left' length]
      | succ place =>
          have skipped : (place + 1) * stride = first.leaves.length + place * stride := by
            rw [length, Nat.succ_mul, Nat.add_comm]
          rw [skipped, List.drop_length_add_append]
          exact induction rest found

/-- There are as many numbers as the product of the lengths of the axes. -/
theorem length_leaves (shaped : grid.HasShape dims) :
    grid.leaves.length = (dims.map Int.toNat).prod := by
  induction dims generalizing grid with
  | nil =>
      cases grid with
      | number => rfl
      | rows => cases shaped
  | cons size sizes induction =>
      cases grid with
      | number => cases shaped
      | rows items =>
          obtain ⟨length, all⟩ := shaped
          rw [length_leaves_rows fun item member => induction (all item member), List.map_cons,
            List.prod_cons, ← length, Int.toNat_natCast]

theorem leaves_ne_nil (positive : ∀ size ∈ dims, 0 < size) (shaped : grid.HasShape dims) :
    grid.leaves ≠ [] := by
  have factors : ∀ factor ∈ dims.map Int.toNat, factor ≠ 0 := by
    intro factor member
    obtain ⟨size, belongs, rfl⟩ := List.mem_map.mp member
    have := positive size belongs
    omega
  intro empty
  have product := length_leaves shaped
  rw [empty] at product
  exact factors 0 (List.prod_eq_zero_iff.mp product.symm) rfl

theorem shape_eq (positive : ∀ size ∈ dims, 0 < size) (shaped : grid.HasShape dims) :
    grid.shape = dims.map Int.toNat := by
  induction dims generalizing grid with
  | nil =>
      cases grid with
      | number => rfl
      | rows => cases shaped
  | cons size sizes induction =>
      obtain ⟨outer, inner⟩ := List.forall_mem_cons.mp positive
      cases grid with
      | number => cases shaped
      | rows items =>
          obtain ⟨length, all⟩ := shaped
          cases items with
          | nil => simp at length; omega
          | cons first others =>
              rw [shape, firstShape, induction inner (all first List.mem_cons_self), ← length]
              rfl

/-- What is lost has fewer axes than it should. -/
theorem length_shape_lt (positive : ∀ size ∈ dims, 0 < size) (lost : grid.Lost dims) :
    grid.shape.length < dims.length := by
  induction dims generalizing grid with
  | nil => cases lost
  | cons size sizes induction =>
      obtain ⟨outer, inner⟩ := List.forall_mem_cons.mp positive
      cases grid with
      | number => simp [shape]
      | rows items =>
          obtain ⟨length, all⟩ := lost
          cases items with
          | nil => simp at length; omega
          | cons first others =>
              have shorter := induction inner (all first List.mem_cons_self)
              simpa [shape, firstShape] using shorter

theorem not_lost_of_shape_eq {other : Grid} (positive : ∀ size ∈ dims, 0 < size)
    (shaped : grid.HasShape dims) (same : grid.shape = other.shape) : ¬other.Lost dims := by
  intro lost
  have shorter := length_shape_lt positive lost
  rw [← same, shape_eq positive shaped, List.length_map] at shorter
  omega

/-! ## Literals -/

theorem ofItems_of_shape (positive : ∀ size ∈ dims, 0 < size)
    (all : ∀ item ∈ items, item.HasShape dims) : ofItems items = .rows items := by
  apply if_pos
  intro item member
  cases items with
  | nil => cases member
  | cons first others =>
      rw [shape_eq positive (all item member), firstShape,
        shape_eq positive (all first List.mem_cons_self)]

/-- A literal with a lost item is lost. -/
theorem lost_ofItems (positive : ∀ size ∈ dims, 0 < size)
    (all : ∀ item ∈ items, item.HasShape dims ∨ item.Lost dims)
    (some : ∃ item ∈ items, item.Lost dims) : (ofItems items).Lost (items.length :: dims) := by
  rw [ofItems]
  split
  · next same =>
      obtain ⟨absent, belongs, lost⟩ := some
      refine ⟨rfl, ?_⟩
      intro item member
      refine (all item member).resolve_left fun shaped => ?_
      refine not_lost_of_shape_eq positive shaped ?_ lost
      rw [same item member, same absent belongs]
  · rfl

/-! ## Items -/

/-- Inside of its axis, the item of a list is there. -/
theorem item_eq {index : Int} {item : Grid} (notNegative : 0 ≤ index)
    (found : items[index.toNat]? = some item) :
    (Grid.rows items).item (.number (some index)) = item := by
  rw [Grid.item, if_pos notNegative, found, Option.getD_some]

theorem exists_item {index size : Int} (length : (items.length : Int) = size)
    (below : index < size) (notNegative : 0 ≤ index) :
    ∃ item ∈ items, items[index.toNat]? = some item := by
  obtain ⟨item, found⟩ : ∃ item, items[index.toNat]? = some item :=
    ⟨_, List.getElem?_eq_getElem (by omega)⟩
  exact ⟨item, List.mem_of_getElem? found, found⟩

/-- An item of what is lost is lost, or does not exist. -/
theorem lost_item {size index : Int} {sizes : List Int} (lost : grid.Lost (size :: sizes))
    (notNegative : 0 ≤ index) (below : index < size) :
    (grid.item (.number (some index))).Lost sizes ∨
      sizes = [] ∧ grid.item (.number (some index)) = .missing := by
  cases grid with
  | number value =>
      cases sizes with
      | nil => exact .inr ⟨rfl, rfl⟩
      | cons => exact .inl rfl
  | rows items =>
      obtain ⟨length, all⟩ := lost
      obtain ⟨item, member, found⟩ := exists_item length below notNegative
      rw [item_eq notNegative found]
      exact .inl (all item member)

/-- What is no place of a list has no item. -/
theorem item_missing {place : Grid} (countable : grid.Countable)
    (outside : ∀ index, place = .number (some index) → Word.greatest < index) :
    grid.item place = .missing := by
  cases countable with
  | number => rfl
  | @rows items counted all =>
      rcases place with (_ | index) | _
      · rfl
      · have beyond : items[index.toNat]? = none := by
          have far := outside index rfl
          exact List.getElem?_eq_none (by omega)
        rw [Grid.item, beyond]
        exact ite_self _
      · rfl

/-! ## Slices -/

theorem mem_of_mem_picked {start stop step : Int} {item : Grid}
    (member : item ∈ picked items start stop step) : item ∈ items := by
  obtain ⟨count, _, found⟩ := List.mem_filterMap.mp member
  dsimp only at found
  split at found
  · exact List.mem_of_getElem? found
  · cases found

theorem length_picked_le (items : List Grid) (start stop step : Int) :
    (picked items start stop step).length ≤ items.length :=
  (List.length_filterMap_le _ _).trans (List.length_range).le

/-- The items at `start`, `start + step` and so on, of as many places as are asked for. -/
def stepped (items : List Grid) (start step : Int) (count : Nat) : List Grid :=
  (List.range count).filterMap fun place : Nat => items[(start + place * step).toNat]?

/-- So many places from `start` on, `step` apart, lie inside of a length. -/
def StepsInside (length start step : Int) (count : Nat) : Prop :=
  ∀ place : Nat, place < count → 0 ≤ start + place * step ∧ start + place * step < length

section

variable {length start step : Int} {count : Nat}

theorem succ_steps (start step : Int) (place : Nat) :
    start + ((place + 1 : Nat) : Int) * step = start + step + place * step := by
  rw [Nat.cast_succ, Int.add_mul, Int.one_mul]
  omega

theorem StepsInside.here (inside : StepsInside length start step (count + 1)) :
    0 ≤ start ∧ start < length := by
  simpa using inside 0 (Nat.succ_pos count)

theorem StepsInside.later (inside : StepsInside length start step (count + 1)) :
    StepsInside length (start + step) step count := by
  intro place below
  rw [← succ_steps start step place]
  exact inside (place + 1) (Nat.succ_lt_succ below)

theorem stepped_succ {item : Grid} (found : items[start.toNat]? = some item) :
    stepped items start step (count + 1) = item :: stepped items (start + step) step count := by
  rw [stepped, List.range_succ_eq_map, List.filterMap_cons, Nat.cast_zero, Int.zero_mul,
    Int.add_zero, found, List.filterMap_map]
  simp only [stepped, Function.comp_def, Nat.succ_eq_add_one, succ_steps]

theorem length_stepped (inside : StepsInside items.length start step count) :
    (stepped items start step count).length = count := by
  induction count generalizing start with
  | zero => rfl
  | succ count induction =>
      obtain ⟨item, _, found⟩ := exists_item rfl inside.here.2 inside.here.1
      rw [stepped_succ found, List.length_cons, induction inside.later]

/-- Items that are picked from inside of a list are as many as fit below the stop. -/
theorem picked_eq {stop : Int} (notNegative : 0 ≤ start) (positive : 0 < step)
    (inside : stop ≤ items.length)
    (counts : ∀ place : Nat, place < count ↔ start + place * step < stop) :
    picked items start stop step = stepped items start step count := by
  have few : count ≤ items.length := by
    cases count with
    | zero => exact Nat.zero_le _
    | succ last =>
        have below := (counts last).mp (Nat.lt_succ_self last)
        have steps : (last : Int) ≤ last * step := by nlinarith
        omega
  obtain ⟨others, length⟩ := Nat.exists_eq_add_of_le few
  have beyond : ((List.range others).map (count + ·)).filterMap (fun place : Nat =>
      if 0 ≤ start + place * step ∧ start + place * step < stop
      then items[(start + place * step).toNat]? else none) = [] := by
    apply List.filterMap_eq_nil_iff.mpr
    intro place member
    obtain ⟨offset, _, rfl⟩ := List.mem_map.mp member
    apply if_neg
    rintro ⟨_, below⟩
    have := (counts _).mpr below
    omega
  rw [picked, stepped, length, List.range_add, List.filterMap_append, beyond, List.append_nil]
  apply List.filterMap_congr
  intro place member
  have below := (counts place).mp (List.mem_range.mp member)
  have steps : 0 ≤ (place : Int) * step := by positivity
  exact if_pos ⟨by omega, below⟩

end

theorem slice_number (value : Option Int) (start stop step : Option Grid) (inclusive : Bool) :
    (Grid.number value).slice start stop step inclusive = missing := by
  rw [slice]
  split <;> rfl

/-! ## Lengths that are counted -/

theorem countable_missing : missing.Countable := .number none

theorem Countable.negate (_ : grid.Countable) : grid.negate.Countable := by
  cases grid <;> exact .number _

theorem countable_combine (op : IntegerOp) (left right : Grid) :
    (combine op left right).Countable := by
  cases left <;> cases right <;> exact .number _

theorem countable_ofItems (counted : (items.length : Int) ≤ Word.greatest)
    (all : ∀ item ∈ items, item.Countable) : (ofItems items).Countable := by
  rw [ofItems]
  split
  · exact .rows counted all
  · exact countable_missing

theorem Countable.item {index : Grid} (countable : grid.Countable) :
    (grid.item index).Countable := by
  cases countable with
  | number => exact countable_missing
  | @rows items counted all =>
      rcases index with (_ | index) | _
      · exact countable_missing
      · rw [Grid.item]
        split
        · cases found : items[index.toNat]? with
          | none => exact countable_missing
          | some item => exact all item (List.mem_of_getElem? found)
        · exact countable_missing
      · exact countable_missing

theorem Countable.every {start stop step : Int} (countable : grid.Countable) :
    (grid.every start stop step).Countable := by
  cases countable with
  | number => exact countable_missing
  | @rows items counted all =>
      have shorter := length_picked_le items start stop step
      exact .rows (by omega) fun item member => all item (mem_of_mem_picked member)

theorem Countable.slice {start stop step : Option Grid} {inclusive : Bool}
    (countable : grid.Countable) : (grid.slice start stop step inclusive).Countable := by
  rw [Grid.slice]
  split
  · exact countable.every
  · exact countable_missing

end Grid

mutual

/-- Lists are countable if those are that names stand for. -/
theorem Expr.countable_of_grid? {names : String → Option Grid}
    (bound : ∀ name grid, names name = some grid → grid.Countable) :
    (expr : Expr) → {grid : Grid} → expr.grid? names = some grid → grid.Countable
  | .int _ _, _, found => by
      simp only [Expr.grid?, Option.map_eq_some_iff] at found
      obtain ⟨value, _, rfl⟩ := found
      exact .number _
  | .ident name, grid, found => bound name.name grid found
  | .prefixOp _ _ right, _, found => by
      simp only [Expr.grid?] at found
      split at found
      · obtain ⟨operand, inner, rfl⟩ := Option.map_eq_some_iff.mp found
        exact (right.countable_of_grid? bound inner).negate
      · cases found
  | .infixOp _ _ _ _, _, found => by
      simp only [Expr.grid?, Option.bind_eq_bind, Option.bind_eq_some_iff, Option.pure_def,
        Option.some.injEq] at found
      obtain ⟨op, _, left, _, right, _, rfl⟩ := found
      exact Grid.countable_combine op left right
  | .array _ items, _, found => by
      simp only [Expr.grid?, Option.bind_eq_bind, Option.bind_eq_some_iff] at found
      obtain ⟨grids, inner, found⟩ := found
      split at found
      · next counted =>
          cases found
          exact Grid.countable_ofItems counted (items.countable_of_grids? bound inner)
      · cases found
  | .index _ left index, _, found => by
      cases index with
      | range =>
          simp only [Expr.grid?, Option.bind_eq_bind, Option.bind_eq_some_iff, Option.pure_def,
            Option.some.injEq] at found
          obtain ⟨array, inner, _, _, _, _, _, _, rfl⟩ := found
          exact (left.countable_of_grid? bound inner).slice
      | _ =>
          rw [Expr.grid?_index rfl] at found
          simp only [Option.bind_eq_some_iff, Option.some.injEq] at found
          obtain ⟨array, inner, _, _, rfl⟩ := found
          exact (left.countable_of_grid? bound inner).item

theorem Exprs.countable_of_grids? {names : String → Option Grid}
    (bound : ∀ name grid, names name = some grid → grid.Countable) :
    (exprs : Exprs) → {grids : List Grid} → exprs.grids? names = some grids →
      ∀ grid ∈ grids, grid.Countable
  | .nil, _, found => by
      cases found
      exact List.forall_mem_nil _
  | .cons head tail, _, found => by
      simp only [Exprs.grids?, Option.bind_eq_bind, Option.bind_eq_some_iff, Option.pure_def,
        Option.some.injEq] at found
      obtain ⟨first, ofHead, others, ofTail, rfl⟩ := found
      exact List.forall_mem_cons.mpr
        ⟨head.countable_of_grid? bound ofHead, tail.countable_of_grids? bound ofTail⟩

end

end ComptimeTyping
