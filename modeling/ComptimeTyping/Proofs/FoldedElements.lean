import ComptimeTyping.Proofs.Bindings
import ComptimeTyping.Proofs.Frame
import ComptimeTyping.Proofs.KnownElements

/-! Folding of arrays. An expression of integers, names, literals, elements and slices stands for
a nested list. Resolved without a report, it has the shape and the folded elements of this list,
however deep it is and whatever names stand for. -/

namespace ComptimeTyping

open Analysis KnownElements

variable {α : Type} {names : String → Option Grid} {ctx : Context} {before after : State}
  {operand : Operand} {grid : Grid}

/-! ## Tables -/

theorem lookup_keptAs {before after : List Scope}
    (kept : List.Forall₂ Scope.KeptAs before after) {name : String} {symbol : Symbol}
    (found : before.findSome? (·.find? name) = some symbol) :
    ∃ later, after.findSome? (·.find? name) = some later ∧ symbol.KeptAs later := by
  induction kept with
  | nil => cases found
  | @cons scope _ _ _ head _ induction =>
      rw [List.findSome?_cons] at found ⊢
      cases here : scope.find? name with
      | some own =>
          rw [here] at found
          cases found
          obtain ⟨later, foundLater, same⟩ := head.bindings name symbol here
          rw [foundLater]
          exact ⟨later, rfl, same⟩
      | none =>
          rw [here] at found
          rw [head.closed name here]
          exact induction found

/-- What expressions do to a table leaves names what they stand for. -/
theorem SymbolTable.Shows.kept {before after : SymbolTable} (shown : before.Shows names)
    (kept : before.KeptAs after) : after.Shows names := by
  intro name grid known
  obtain ⟨countable, symbol, found, initialized, displayed⟩ := shown name grid known
  obtain ⟨later, foundLater, same⟩ := lookup_keptAs kept.scopes found
  rw [same.eq_of_isInitialized initialized] at foundLater
  exact ⟨countable, symbol, foundLater, initialized, displayed⟩

theorem table_of_run {computation : Analysis α} {value : α}
    (moves : computation.Moves SymbolTable.KeptAs) (shown : before.table.Shows names)
    (run : computation.run before = .ok value after) : after.table.Shows names := by
  have kept := moves.tables before
  rw [run] at kept
  exact shown.kept kept

/-! ## Expressions -/

/-- Resolved without a report, and not asked for arrays, an expression shows a nested list. -/
def Expr.Shown (ctx : Context) (names : String → Option Grid) (expr : Expr) (grid : Grid) :
    Prop :=
  ∀ ⦃target : Option Ty⦄ ⦃before after : State⦄ ⦃operand : Operand⦄, elementTarget target = none →
    before.table.Shows names → (expr.resolve ctx target).run before = .ok operand after →
      after.reports = before.reports → operand.Shows grid

def Exprs.Shown (ctx : Context) (names : String → Option Grid) (exprs : Exprs)
    (grids : List Grid) : Prop :=
  ∀ ⦃before after : State⦄ ⦃elements : List Resolved⦄, before.table.Shows names →
    (exprs.resolveAll ctx none).run before = .ok elements after →
      after.reports = before.reports → AllShow elements grids

theorem exists_of_quiet_recorded {node : Node} {resolve : Analysis Operand}
    (run : (recorded node resolve).run before = .ok operand after)
    (quiet : after.reports = before.reports) :
    ∃ late, resolve.run before = .ok operand late ∧ late.reports = before.reports := by
  obtain ⟨resolved, late, inner, quietLate, noted, _⟩ := exists_of_quiet_bind run quiet
  obtain rfl : resolved = operand := (Outcome.ok.inj noted).1
  exact ⟨late, inner, quietLate⟩

theorem elementTarget_scalarHint (target : Option Ty) :
    elementTarget (scalarHint target) = none := by
  rcases target with _ | ⟨_ | _ | _ | _ | _⟩ <;> rfl

theorem Expr.shown_int {node : Node} {text : String} {value : Int}
    (valid : Literal.integer? text = some value) :
    (Expr.int node text).Shown ctx names (.number (some value)) := by
  intro target before after operand _ _ run quiet
  obtain ⟨late, inner, _⟩ := exists_of_quiet_recorded run quiet
  rw [integerLiteral_eq node valid] at inner
  cases inner
  exact .number rfl rfl

theorem Expr.shown_ident {name : Ident} (known : names name.name = some grid) :
    (Expr.ident name).Shown ctx names grid := by
  intro target before after operand _ bound run quiet
  obtain ⟨late, inner, _⟩ := exists_of_quiet_recorded run quiet
  obtain ⟨_, symbol, found, initialized, shown⟩ := bound name.name grid known
  rw [identifier, run_table_bind, found] at inner
  simp only [initialized] at inner
  cases inner
  exact shown name.position

theorem Expr.shown_prefixOp {node : Node} {right : Expr} (shown : right.Shown ctx names grid) :
    (Expr.prefixOp node "-" right).Shown ctx names grid.negate := by
  intro target before after operand unasked bound run quiet
  obtain ⟨late, inner, quietLate⟩ := exists_of_quiet_recorded run quiet
  obtain ⟨value, middle, resolved, quietMiddle, rest, quietRest⟩ :=
    exists_of_quiet_bind inner quietLate
  exact shows_prefixed (shown unasked bound resolved quietMiddle) rest quietRest

theorem Expr.shown_infixOp {node : Node} {left right : Expr} {operator : String}
    {op : IntegerOp} {leftGrid rightGrid : Grid} (symbol : op.symbol = operator)
    (leftShown : left.Shown ctx names leftGrid) (rightShown : right.Shown ctx names rightGrid) :
    (Expr.infixOp node left operator right).Shown ctx names (.combine op leftGrid rightGrid) := by
  intro target before after operand _ bound run quiet
  subst symbol
  simp only [Expr.resolve, op.ofSymbol?_symbol] at run
  obtain ⟨late, inner, quietLate⟩ := exists_of_quiet_recorded run quiet
  obtain ⟨leftOperand, middle, leftRun, quietLeft, inner, quietInner⟩ :=
    exists_of_quiet_bind inner quietLate
  obtain ⟨rightOperand, last, rightRun, quietRight, rest, quietRest⟩ :=
    exists_of_quiet_bind inner quietInner
  have unasked : elementTarget (operandHint (.arithmetic op.arith) target) = none :=
    elementTarget_scalarHint target
  have boundRight := table_of_run (left.resolve_keeps ctx _) bound leftRun
  have leftShows := leftShown unasked bound leftRun quietLeft
  have rightShows := rightShown unasked boundRight rightRun quietRight
  have combined : (arithmetic ctx node op.arith ⟨left.node, leftOperand⟩
      ⟨right.node, rightOperand⟩ target).run last = .ok operand late := rest
  exact shows_arithmetic leftShows rightShows combined quietRest

theorem Expr.shown_array {node : Node} {items : Exprs} {grids : List Grid}
    (shown : items.Shown ctx names grids) :
    (Expr.array node items).Shown ctx names (.ofItems grids) := by
  intro target before after operand unasked bound run quiet
  simp only [Expr.resolve, unasked] at run
  obtain ⟨late, inner, quietLate⟩ := exists_of_quiet_recorded run quiet
  obtain ⟨elements, middle, resolved, quietMiddle, rest, quietRest⟩ :=
    exists_of_quiet_bind inner quietLate
  exact shows_arrayLiteral unasked (shown bound resolved quietMiddle) rest quietRest

theorem Exprs.shown_cons {head : Expr} {tail : Exprs} {grids : List Grid}
    (headShown : head.Shown ctx names grid) (tailShown : tail.Shown ctx names grids) :
    (Exprs.cons head tail).Shown ctx names (grid :: grids) := by
  intro before after elements bound run quiet
  obtain ⟨operand, middle, resolved, quietMiddle, rest, quietRest⟩ := exists_of_quiet_bind run quiet
  obtain ⟨others, last, resolvedOthers, quietLast, ended, _⟩ := exists_of_quiet_bind rest quietRest
  cases ended
  have boundTail := table_of_run (head.resolve_keeps ctx _) bound resolved
  exact .cons (headShown rfl bound resolved quietMiddle)
    (tailShown boundTail resolvedOthers quietLast)

theorem Expr.shown_element {node : Node} {left index : Expr} {place : Grid}
    (notRange : index.isRange = false) (countable : grid.Countable)
    (leftShown : left.Shown ctx names grid) (indexShown : index.Shown ctx names place) :
    (Expr.index node left index).Shown ctx names (grid.item place) := by
  intro target before after operand _ bound run quiet
  simp only [Expr.resolve, notRange] at run
  obtain ⟨late, inner, quietLate⟩ := exists_of_quiet_recorded run quiet
  obtain ⟨array, middle, arrayRun, quietArray, inner, quietInner⟩ :=
    exists_of_quiet_bind inner quietLate
  obtain ⟨position, last, indexRun, quietIndex, rest, quietRest⟩ :=
    exists_of_quiet_bind inner quietInner
  have boundIndex := table_of_run (left.resolve_keeps ctx _) bound arrayRun
  exact shows_element (leftShown rfl bound arrayRun quietArray) countable
    (indexShown rfl boundIndex indexRun quietIndex) rest quietRest

/-- A bound is missing, or it shows what it is read as. -/
structure Expr.BoundShown (ctx : Context) (names : String → Option Grid) (bound : Expr)
    (read : Option Grid) : Prop where
  missing : bound.isMissing = true → read = none
  present : bound.isMissing = false → ∃ grid, read = some grid ∧ bound.Shown ctx names grid

theorem Expr.BoundShown.reads {bound : Expr} {read : Option Grid} {part : String}
    {parts : RangeParts} {result : RangeParts × Bound} (shown : bound.BoundShown ctx names read)
    (integers : IntegerParts parts) (table : before.table.Shows names)
    (run : (withBound part parts bound (bound.resolve ctx (some .usize))).run before
      = .ok result after) (quiet : after.reports = before.reports) :
    IntegerParts result.1 ∧ Reads result.2 (!bound.isMissing) read ∧
      after.table.Shows names := by
  have moved := table_of_run (moves_withBound part parts bound (bound.resolve_keeps ctx _)) table run
  have present : bound.isMissing = false → ∃ grid, read = some grid ∧ ∀ operand middle,
      (bound.resolve ctx (some .usize)).run before = .ok operand middle →
        middle.reports = before.reports → operand.Shows grid := by
    intro isPresent
    obtain ⟨grid, known, holds⟩ := shown.present isPresent
    exact ⟨grid, known, fun operand middle => holds rfl table⟩
  obtain ⟨added, reads⟩ := reads_withBound shown.missing present integers run quiet
  exact ⟨added, reads, moved⟩

/-- A range literal that is resolved as an index without a report has the bounds that are read. -/
theorem Expr.reads_range {node : Node} {start stop step : Expr} {inclusive : Bool}
    {startRead stopRead stepRead : Option Grid} (startShown : start.BoundShown ctx names startRead)
    (stopShown : stop.BoundShown ctx names stopRead)
    (stepShown : step.BoundShown ctx names stepRead) (table : before.table.Shows names)
    (run : ((Expr.range node start stop step inclusive).resolve ctx
      (some (indexTarget true))).run before = .ok operand after)
    (quiet : after.reports = before.reports) :
    ∃ form bounds, form.inclusive = inclusive ∧ operand = rangeOf .usize form bounds ∧
      ReadsAll form bounds startRead stopRead stepRead ∧
      ∀ bound ∈ [bounds.start, bounds.stop, bounds.step],
        ∀ constant ∈ bound.value, constant.fits .usize ctx.width = true := by
  simp only [Expr.resolve] at run
  obtain ⟨_, run, quiet⟩ := exists_of_quiet_recorded run quiet
  obtain ⟨parts, begun, prepared, quietBegun, run, quiet⟩ := exists_of_quiet_bind run quiet
  obtain ⟨started, afterStart, startRun, quietStart, run, quiet⟩ := exists_of_quiet_bind run quiet
  obtain ⟨stopped, afterStop, stopRun, quietStop, run, quiet⟩ := exists_of_quiet_bind run quiet
  obtain ⟨stepped, afterStep, stepRun, quietStep, literal, quietLiteral⟩ :=
    exists_of_quiet_bind run quiet
  have valid := IndexBounds.valid_of_quiet_startParts prepared quietBegun
  have tableBegun := table_of_run (.of_reporting (reporting_startParts start step)) table prepared
  obtain rfl := startParts_eq prepared
  obtain ⟨startParts, startReads, tableStart⟩ :=
    startShown.reads ⟨valid, .inl rfl⟩ tableBegun startRun quietStart
  obtain ⟨stopParts, stopReads, tableStop⟩ :=
    stopShown.reads startParts tableStart stopRun quietStop
  obtain ⟨stepParts, stepReads, _⟩ := stepShown.reads stopParts tableStop stepRun quietStep
  have read : BoundsRead ⟨!start.isMissing, !stop.isMissing, !step.isMissing, inclusive⟩ stepped.1
      ⟨started.2, stopped.2, stepped.2⟩ :=
    boundsRead (boundRead_withBound startRun) (boundRead_withBound stopRun)
      (boundRead_withBound stepRun)
  obtain ⟨known, nonzero, fits⟩ := reads_rangeLiteral stepParts read literal quietLiteral
  exact ⟨_, _, rfl, known, ⟨startReads, stopReads, stepReads, nonzero⟩, fits⟩

theorem Expr.shown_slice {node rangeNode : Node} {left start stop step : Expr} {inclusive : Bool}
    {startRead stopRead stepRead : Option Grid} (countable : grid.Countable)
    (leftShown : left.Shown ctx names grid) (startShown : start.BoundShown ctx names startRead)
    (stopShown : stop.BoundShown ctx names stopRead)
    (stepShown : step.BoundShown ctx names stepRead) :
    (Expr.index node left (.range rangeNode start stop step inclusive)).Shown ctx names
      (grid.slice startRead stopRead stepRead inclusive) := by
  intro target before after operand _ bound run quiet
  unfold Expr.resolve at run
  obtain ⟨late, inner, quietLate⟩ := exists_of_quiet_recorded run quiet
  obtain ⟨array, middle, arrayRun, quietArray, inner, quietInner⟩ :=
    exists_of_quiet_bind inner quietLate
  obtain ⟨range, last, rangeRun, quietRange, rest, quietRest⟩ :=
    exists_of_quiet_bind inner quietInner
  have table := table_of_run (left.resolve_keeps ctx _) bound arrayRun
  obtain ⟨form, bounds, rfl, rfl, reads, fits⟩ :=
    Expr.reads_range startShown stopShown stepShown table rangeRun quietRange
  exact shows_slice (leftShown rfl bound arrayRun quietArray) countable rfl rfl reads fits rest
    quietRest

/-! ## All expressions -/

theorem Expr.boundShown_of_written {bound : Expr} {value : Option Grid} {read : Option Grid}
    (written : bound.written? value = some read)
    (shown : ∀ grid, value = some grid → bound.Shown ctx names grid) :
    bound.BoundShown ctx names read := by
  simp only [Expr.written?] at written
  split at written
  · next missing =>
      cases written
      exact ⟨fun _ => rfl, fun present => absurd missing (ne_true_of_eq_false present)⟩
  · next present =>
      obtain ⟨grid, known, rfl⟩ := Option.map_eq_some_iff.mp written
      exact ⟨fun missing => absurd missing present, fun _ => ⟨grid, rfl, shown grid known⟩⟩

mutual

theorem Expr.shown_of_grid? (ctx : Context)
    (countable : ∀ name grid, names name = some grid → grid.Countable) :
    (expr : Expr) → {grid : Grid} → expr.grid? names = some grid → expr.Shown ctx names grid
  | .int _ _, _, found => by
      simp only [Expr.grid?, Option.map_eq_some_iff] at found
      obtain ⟨value, valid, rfl⟩ := found
      exact Expr.shown_int valid
  | .ident name, grid, found => Expr.shown_ident found
  | .prefixOp _ operator right, _, found => by
      simp only [Expr.grid?] at found
      split at found
      · next minus =>
          subst minus
          obtain ⟨operand, inner, rfl⟩ := Option.map_eq_some_iff.mp found
          exact Expr.shown_prefixOp (right.shown_of_grid? ctx countable inner)
      · cases found
  | .infixOp _ left _ right, _, found => by
      simp only [Expr.grid?, Option.bind_eq_bind, Option.bind_eq_some_iff, Option.pure_def,
        Option.some.injEq] at found
      obtain ⟨op, symbol, leftGrid, leftFound, rightGrid, rightFound, rfl⟩ := found
      exact Expr.shown_infixOp (IntegerOp.symbol_of_ofSymbol? symbol)
        (left.shown_of_grid? ctx countable leftFound) (right.shown_of_grid? ctx countable rightFound)
  | .array _ items, _, found => by
      simp only [Expr.grid?, Option.bind_eq_bind, Option.bind_eq_some_iff] at found
      obtain ⟨grids, inner, found⟩ := found
      split at found
      · cases found
        exact Expr.shown_array (items.shown_of_grids? ctx countable inner)
      · cases found
  | .index _ left index, _, found => by
      cases index with
      | range _ start stop step inclusive =>
          simp only [Expr.grid?, Option.bind_eq_bind, Option.bind_eq_some_iff, Option.pure_def,
            Option.some.injEq] at found
          obtain ⟨array, inner, first, startFound, last, stopFound, stride, stepFound, rfl⟩ := found
          exact Expr.shown_slice (left.countable_of_grid? countable inner)
            (left.shown_of_grid? ctx countable inner)
            (Expr.boundShown_of_written startFound fun _ => start.shown_of_grid? ctx countable)
            (Expr.boundShown_of_written stopFound fun _ => stop.shown_of_grid? ctx countable)
            (Expr.boundShown_of_written stepFound fun _ => step.shown_of_grid? ctx countable)
      | _ =>
          rw [Expr.grid?_index rfl] at found
          simp only [Option.bind_eq_some_iff, Option.some.injEq] at found
          obtain ⟨array, inner, place, placeFound, rfl⟩ := found
          exact Expr.shown_element rfl (left.countable_of_grid? countable inner)
            (left.shown_of_grid? ctx countable inner)
            (Expr.shown_of_grid? ctx countable _ placeFound)

theorem Exprs.shown_of_grids? (ctx : Context)
    (countable : ∀ name grid, names name = some grid → grid.Countable) :
    (exprs : Exprs) → {grids : List Grid} → exprs.grids? names = some grids →
      exprs.Shown ctx names grids
  | .nil, _, found => by
      cases found
      intro before after elements _ run _
      cases run
      exact .nil
  | .cons head tail, _, found => by
      simp only [Exprs.grids?, Option.bind_eq_bind, Option.bind_eq_some_iff, Option.pure_def,
        Option.some.injEq] at found
      obtain ⟨first, ofHead, others, ofTail, rfl⟩ := found
      exact Exprs.shown_cons (head.shown_of_grid? ctx countable ofHead)
        (tail.shown_of_grids? ctx countable ofTail)

end

/-! ## Definitions -/

/-- What a definition without an annotation binds shows what its value does. -/
theorem shows_boundSymbol (shown : operand.Shows grid) (name : String) :
    (boundSymbol false name operand.type operand).name = name ∧
      (boundSymbol false name operand.type operand).isInitialized = true ∧
      ∀ position, (Operand.ofSymbol position
        (boundSymbol false name operand.type operand)).Shows grid := by
  cases shown with
  | number type known =>
      rw [type]
      exact ⟨rfl, rfl, fun _ => .number rfl known⟩
  | array type known =>
      rw [type]
      exact ⟨rfl, rfl, fun _ => .array rfl known⟩

theorem SymbolTable.Shows.bind {table : SymbolTable} (shown : table.Shows names)
    (operandShown : operand.Shows grid) (countable : grid.Countable) (name : String) :
    (table.bind (boundSymbol false name operand.type operand)).Shows
      (Function.update names name (some grid)) := by
  obtain ⟨named, initialized, displayed⟩ := shows_boundSymbol operandShown name
  generalize boundSymbol false name operand.type operand = symbol at named initialized displayed ⊢
  subst named
  intro other known found
  by_cases same : other = symbol.name
  · subst same
    rw [Function.update_self] at found
    cases found
    exact ⟨countable, symbol, table.lookup?_bind_self symbol, initialized, displayed⟩
  · rw [Function.update_of_ne same] at found
    rw [SymbolTable.lookup?_bind_of_ne fun equal => same equal.symm]
    exact shown other known found

theorem Expr.present_of_grid? {expr : Expr} (found : expr.grid? names = some grid) :
    expr.isMissing = false ∧ expr.isUndef = false := by
  cases expr with
  | missing | undef => cases found
  | _ => exact ⟨rfl, rfl⟩

theorem bindingType_of_shows {name : Ident} {node : Node} (shown : operand.Shows grid) :
    bindingType ctx false name none ⟨node, operand⟩ = pure operand.type := by
  cases shown with
  | number type => simp only [bindingType, Resolved.type, type]; rfl
  | array type => simp only [bindingType, Resolved.type, type]; rfl

theorem table_of_quiet_declare {name : Ident} {symbol : Symbol}
    (run : (declare name symbol).run before = .ok () after)
    (quiet : after.reports = before.reports) : after.table = before.table.bind symbol := by
  rw [declare, run_table_bind] at run
  cases fresh : before.table.inner.find? symbol.name with
  | none =>
      rw [SymbolTable.declare_of_fresh fresh] at run
      cases run
      rfl
  | some earlier =>
      rw [SymbolTable.declare_eq, fresh] at run
      cases run
      simp at quiet

/-- A definition that is analyzed without a report binds its name to what the value shows. -/
theorem Definition.shows_of_quiet {definition : Definition} {branch : Option Resolved}
    (found : definition.value.grid? names = some grid) (bound : before.table.Shows names)
    (run : (definition.toStmt.analyze ctx).run before = .ok branch after)
    (quiet : after.reports = before.reports) :
    after.table.Shows (Function.update names definition.name.name (some grid)) := by
  obtain ⟨notMissing, notUndef⟩ := Expr.present_of_grid? found
  have countable : ∀ name grid, names name = some grid → grid.Countable :=
    fun name grid known => (bound name grid known).1
  have declares : declaredType definition.name.name .missing = pure none := rfl
  simp only [Definition.toStmt, Stmt.analyze, notMissing, notUndef, declares, pure_bind,
    Bool.false_eq_true, if_false, bindValue] at run
  obtain ⟨operand, middle, resolved, quietMiddle, rest, quietRest⟩ := exists_of_quiet_bind run quiet
  have shown := definition.value.shown_of_grid? ctx countable found rfl bound resolved quietMiddle
  have table := table_of_run (definition.value.resolve_keeps ctx none) bound resolved
  rw [bindingType_of_shows shown, pure_bind] at rest
  obtain ⟨_, last, declared, quietDeclared, ended, _⟩ := exists_of_quiet_bind rest quietRest
  cases ended
  rw [table_of_quiet_declare declared quietDeclared]
  exact table.bind shown (definition.value.countable_of_grid? countable found) _

/-- Definitions that are analyzed without a report bind their names to nested lists. -/
theorem shows_gridsAfter {definitions : List Definition} {final : String → Option Grid}
    {branches : List Resolved}
    (defines : Definition.gridsAfter? names definitions = some final)
    (bound : before.table.Shows names)
    (run : ((Stmts.ofList (definitions.map Definition.toStmt)).analyze ctx).run before
      = .ok branches after) (quiet : after.reports = before.reports) : after.table.Shows final := by
  induction definitions generalizing names before branches with
  | nil =>
      cases defines
      cases run
      exact bound
  | cons definition definitions induction =>
      simp only [Definition.gridsAfter?, Option.bind_eq_bind, Option.bind_eq_some_iff] at defines
      obtain ⟨grid, found, defines⟩ := defines
      simp only [List.map_cons, Stmts.ofList, Stmts.analyze] at run
      obtain ⟨branch, middle, first, quietFirst, run, quietRun⟩ := exists_of_quiet_bind run quiet
      obtain ⟨others, last, rest, quietRest, ended, _⟩ := exists_of_quiet_bind run quietRun
      cases ended
      exact induction defines (Definition.shows_of_quiet found bound first quietFirst) rest quietRest

/-- Where names stand for nested lists, they still do after definitions of more of them, if these
are analyzed without a report. An expression that stands for a nested list and is then resolved on
its own and without a report is known to be just this list: the elements that are folded are its
numbers in row-major order, in the shape that the type has, and a value that is folded is the
number itself. -/
theorem folded_elements_exact (ctx : Context) {names final : String → Option Grid}
    {definitions : List Definition} {branches : List Resolved} {before middle : State}
    (bound : before.table.Shows names)
    (defines : Definition.gridsAfter? names definitions = some final)
    (defined : ((Stmts.ofList (definitions.map Definition.toStmt)).analyze ctx).run before
      = .ok branches middle) (quiet : middle.reports = before.reports) :
    middle.table.Shows final ∧
    ∀ (expr : Expr) (grid : Grid), expr.grid? final = some grid → ∀ operand after,
      (expr.resolve ctx none).run middle = .ok operand after → after.reports = middle.reports →
      (∀ element dims elements, operand.type = .comptimeArray element dims →
        operand.elements = some elements →
          grid.HasShape dims.toList ∧ elements = grid.leaves.map (Option.map .int)) ∧
      (∀ tag constant, operand.type = .scalar tag → operand.value = some constant →
        ∃ value, constant = .int value ∧ grid = .number (some value)) := by
  have table := shows_gridsAfter defines bound defined quiet
  refine ⟨table, ?_⟩
  intro expr grid found operand after run quiet
  have countable : ∀ name grid, final name = some grid → grid.Countable :=
    fun name grid known => (table name grid known).1
  have shown := expr.shown_of_grid? ctx countable found rfl table run quiet
  refine ⟨?_, ?_⟩
  · intro element dims elements type folded
    cases shown with
    | number typed => rw [typed] at type; cases type
    | array typed known =>
        rw [typed] at type
        cases type
        rw [folded] at known
        cases known with
        | all positive shaped => exact ⟨shaped, rfl⟩
  · intro tag constant scalar folded
    obtain ⟨_, value, rfl, known⟩ := number_of_scalar shown scalar
    rw [folded] at known
    obtain ⟨value, rfl, rfl⟩ := Option.map_eq_some_iff.mp known.symm
    exact ⟨value, rfl, rfl⟩

namespace Sample

def twoOf (first second : String) : Expr :=
  .array .absent (.ofList [.int .absent first, .int .absent second])

/-- The definition `val pairs = [[1, 2], [3, 4], [5, 6]]`. -/
def pairs : Definition :=
  ⟨.absent, ⟨.absent, "pairs"⟩,
    .array .absent (.ofList [twoOf "1" "2", twoOf "3" "4", twoOf "5" "6"])⟩

def pairGrid (first second : Int) : Grid :=
  .rows [.number (some first), .number (some second)]

/-- What names stand for after the definition. -/
def pairNames : String → Option Grid :=
  Function.update (fun _ => none) "pairs" (some (.rows [pairGrid 1 2, pairGrid 3 4, pairGrid 5 6]))

/-- The state after the definition. -/
def pairsDefined : State :=
  ((pairs.toStmt.analyze (.start .strict .bits64)).run (.ofTable .empty)).state

def slicedPairs (start stop step : Expr) (inclusive : Bool) : Expr :=
  .index .absent (.ident ⟨.absent, "pairs"⟩) (.range .absent start stop step inclusive)

/-- The element `[pairs[0..3:2], pairs[1..=2]][0][2 - 1]`. -/
def lastPair : Expr :=
  .index .absent
    (.index .absent
      (.array .absent (.ofList
        [slicedPairs (.int .absent "0") (.int .absent "3") (.int .absent "2") false,
          slicedPairs (.int .absent "1") (.int .absent "2") .missing true]))
      (.int .absent "0"))
    (.infixOp .absent (.int .absent "2") "-" (.int .absent "1"))

end Sample

theorem folded_elements_exact_sample :
    SymbolTable.empty.Shows (fun _ => none) ∧
    Definition.gridsAfter? (fun _ => none) [Sample.pairs] = some Sample.pairNames ∧
    ((Stmts.ofList ([Sample.pairs].map Definition.toStmt)).analyze (.start .strict .bits64)).run
      (.ofTable .empty) = .ok [] Sample.pairsDefined ∧ Sample.pairsDefined.reports = [] ∧
    Sample.lastPair.grid? Sample.pairNames = some (Sample.pairGrid 5 6) ∧
    ∃ operand after elements,
      (Sample.lastPair.resolve (.start .strict .bits64) none).run Sample.pairsDefined
        = .ok operand after ∧ after.reports = Sample.pairsDefined.reports ∧
      operand.type = .comptimeArray .comptimeInt ⟨2, []⟩ ∧ operand.elements = some elements ∧
      elements = [some (.int 5), some (.int 6)] := by
  have unbound : SymbolTable.empty.Shows fun _ => none := nofun
  have defines : Definition.gridsAfter? (fun _ => none) [Sample.pairs] = some Sample.pairNames :=
    rfl
  have defined : ((Stmts.ofList ([Sample.pairs].map Definition.toStmt)).analyze
      (.start .strict .bits64)).run (.ofTable .empty) = .ok [] Sample.pairsDefined := rfl
  have found : Sample.lastPair.grid? Sample.pairNames = some (Sample.pairGrid 5 6) := rfl
  obtain ⟨operand, after, elements, run, quiet, type, known⟩ : ∃ operand after elements,
      (Sample.lastPair.resolve (.start .strict .bits64) none).run Sample.pairsDefined
        = .ok operand after ∧ after.reports = Sample.pairsDefined.reports ∧
      operand.type = .comptimeArray .comptimeInt ⟨2, []⟩ ∧ operand.elements = some elements :=
    ⟨_, _, _, rfl, rfl, rfl, rfl⟩
  have exact := (folded_elements_exact _ unbound defines defined rfl).2 _ _ found operand after run
    quiet
  exact ⟨unbound, defines, defined, rfl, found, operand, after, elements, run, quiet, type, known,
    (exact.1 _ _ _ type known).2⟩

end ComptimeTyping
