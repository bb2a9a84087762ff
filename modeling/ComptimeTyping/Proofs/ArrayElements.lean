import ComptimeTyping.Proofs.Asked
import ComptimeTyping.Proofs.Coherence

/-! The numbers in an array literal fit the element that the array gets. They are checked where
a concrete scalar or a type that is asked for gives them a type, and otherwise stay known until
the array fills a slot. Rows that still know their elements must not stand beside rows that do
not: what such a row knows is forgotten. -/

namespace ComptimeTyping

open Analysis

/-! ## Leaves -/

/-- The constants that are known of an operand. -/
def Operand.constants (operand : Operand) : List Constant :=
  operand.value.toList ++ (operand.elements.getD []).filterMap id

mutual

/-- The constants that are known at the leaves of an array literal. Of any other expression,
also of an array that is used as a row, they are what is known of its value. -/
def Expr.leaves (ctx : Context) (target : Option Ty) (state : State) : Expr → List Constant
  | .array _ items => items.leaves ctx (elementTarget target) state
  | expr =>
      match (expr.resolve ctx target).run state with
      | .ok operand _ => operand.constants
      | .error _ _ => []

def Exprs.leaves (ctx : Context) (target : Option Ty) (state : State) : Exprs → List Constant
  | .nil => []
  | .cons head tail =>
      head.leaves ctx target state ++
        match (head.resolve ctx target).run state with
        | .ok _ middle => tail.leaves ctx target middle
        | .error _ _ => []

end

/-- Either all of the given values know their elements, or none does. -/
def agreeOnElements (rows : List Resolved) : Bool :=
  rows.all (·.operand.elements.isSome) || rows.all (·.operand.elements.isNone)

mutual

/-- In an array literal and in those inside of it, rows that know their elements stand only
beside rows that know theirs. -/
def Expr.rowsAgree (ctx : Context) (target : Option Ty) (state : State) : Expr → Bool
  | .array _ items =>
      (match (items.resolveAll ctx (elementTarget target)).run state with
        | .ok rows _ => agreeOnElements rows
        | .error _ _ => true) &&
      items.rowsAgree ctx (elementTarget target) state
  | _ => true

def Exprs.rowsAgree (ctx : Context) (target : Option Ty) (state : State) : Exprs → Bool
  | .nil => true
  | .cons head tail =>
      head.rowsAgree ctx target state &&
        match (head.resolve ctx target).run state with
        | .ok _ middle => tail.rowsAgree ctx target middle
        | .error _ _ => true

end

/-! ## Constants that are kept -/

/-- A constant inside of an array is not forgotten: it was checked against the element of the
array, it is still known, or it was checked against the element that is asked for. -/
inductive Operand.Keeps (operand : Operand) (width : PointerWidth) (target : Option Ty)
    (constant : Constant) : Prop
  | checked {element : Tag} {dims : Axes Dim} (type : operand.type = .array element dims)
      (fits : constant.fits element width = true)
  | known {elements : List (Option Constant)} (known : operand.elements = some elements)
      (member : some constant ∈ elements)
  | asked {tag element : Tag} {axes : Axes Int} {dims : Axes Dim}
      (type : operand.type = .comptimeArray tag axes) (dropped : operand.elements = none)
      (target : target = some (.array element dims))
      (fits : constant.fits element width = true)

/-- A constant is that of a scalar, or it is kept by an array. -/
def Operand.Holds (operand : Operand) (width : PointerWidth) (target : Option Ty)
    (constant : Constant) : Prop :=
  operand.value = some constant ∨ operand.Keeps width target constant

section Keeping

variable {operand : Operand} {width : PointerWidth} {target : Option Ty} {constant : Constant}
  {rows : List Resolved}

theorem Operand.Coherent.comptimeArray (coherent : operand.Coherent)
    {elements : List (Option Constant)} (known : operand.elements = some elements) :
    ∃ tag axes, operand.type = .comptimeArray tag axes := by
  have folds := coherent.array elements known
  cases type : operand.type with
  | comptimeArray tag axes => exact ⟨tag, axes, rfl⟩
  | _ =>
      rw [type] at folds
      cases folds

theorem Operand.Coherent.comptimeScalar (coherent : operand.Coherent)
    (known : operand.value = some constant) :
    ∃ tag, operand.type = .scalar tag ∧ tag.isComptime = true := by
  have folds := coherent.scalar constant known
  cases type : operand.type with
  | scalar tag =>
      rw [type] at folds
      exact ⟨tag, rfl, folds.comptime⟩
  | _ =>
      rw [type] at folds
      cases folds

theorem Operand.Keeps.isArray (keeps : operand.Keeps width target constant)
    (coherent : operand.Coherent) : operand.type.isArray = true := by
  cases keeps with
  | checked type _ => rw [type]; rfl
  | known known _ =>
      rcases coherent.comptimeArray known with ⟨tag, axes, type⟩
      rw [type]
      rfl
  | asked type _ _ _ => rw [type]; rfl

/-- Rows that all know their elements hand them on. -/
theorem joinRows_of_known (known : ∀ row ∈ rows, row.operand.elements.isSome = true)
    {row : Resolved} (member : row ∈ rows) {elements : List (Option Constant)}
    (rowKnown : row.operand.elements = some elements) (inside : some constant ∈ elements) :
    ∃ joined, joinRows rows = some joined ∧ some constant ∈ joined := by
  have read : ∃ lists, rows.mapM (fun row : Resolved => row.operand.elements) = some lists ∧
      ∀ row ∈ rows, ∀ elements ∈ row.operand.elements, elements ∈ lists := by
    clear member
    induction rows with
    | nil => exact ⟨[], rfl, List.forall_mem_nil _⟩
    | cons first rows induction =>
        rw [List.forall_mem_cons] at known
        rcases Option.isSome_iff_exists.mp known.1 with ⟨own, firstKnown⟩
        rcases induction known.2 with ⟨lists, readRest, listed⟩
        refine ⟨own :: lists, by simp [firstKnown, readRest], ?_⟩
        rw [List.forall_mem_cons]
        refine ⟨fun elements found => ?_, fun row member elements found =>
          List.mem_cons_of_mem _ (listed row member elements found)⟩
        rw [firstKnown] at found
        cases found
        exact List.mem_cons_self
  rcases read with ⟨lists, read, listed⟩
  have within : some constant ∈ lists.flatten :=
    List.mem_flatten.mpr ⟨elements, listed row member elements rowKnown, inside⟩
  refine ⟨lists.flatten, ?_, within⟩
  unfold joinRows knownElements
  rw [read, Option.bind_some, if_neg]
  intro empty
  rw [List.isEmpty_iff.mp empty] at within
  cases within

/-- One row that does not know its elements is enough to forget those of all rows. -/
theorem joinRows_of_unknown {row : Resolved} (member : row ∈ rows)
    (unknown : row.operand.elements = none) : joinRows rows = none := by
  have read : rows.mapM (fun row : Resolved => row.operand.elements) = none := by
    induction rows with
    | nil => cases member
    | cons first rows induction =>
        rw [List.mapM_cons]
        rcases List.mem_cons.mp member with rfl | there
        · rw [unknown]
          rfl
        · cases first.operand.elements with
          | none => rfl
          | some own =>
              rw [induction there]
              rfl
  unfold joinRows
  rw [read]
  rfl

theorem isSome_of_agree (agree : agreeOnElements rows = true) {row : Resolved}
    (member : row ∈ rows) {elements : List (Option Constant)}
    (known : row.operand.elements = some elements) :
    ∀ other ∈ rows, other.operand.elements.isSome = true := by
  unfold agreeOnElements at agree
  rw [Bool.or_eq_true, List.all_eq_true, List.all_eq_true] at agree
  rcases agree with all | none
  · exact all
  · have unknown := none row member
    rw [known] at unknown
    cases unknown

/-- What the elements of a literal hold is kept, if its rows agree. -/
theorem Literals.Built.keeps (built : Literals.Built width rows target operand)
    (coherent : ∀ row ∈ rows, row.operand.Coherent) (agree : agreeOnElements rows = true)
    (answers : operand.type.Answers target) {row : Resolved} (member : row ∈ rows)
    (holds : row.operand.Holds width (elementTarget target) constant) :
    operand.Keeps width target constant := by
  have rowCoherent := coherent row member
  -- A scalar holds its value, an array keeps what is inside of it.
  have value_of_scalar : (∃ tag, row.type = .scalar tag) →
      row.operand.value = some constant ∧ row.type.isComptime = true := by
    rintro ⟨tag, scalar⟩
    rcases holds with value | keeps
    · rcases rowCoherent.comptimeScalar value with ⟨valueTag, type, comptime⟩
      refine ⟨value, ?_⟩
      unfold Resolved.type
      rw [type]
      exact comptime
    · have array := keeps.isArray rowCoherent
      change row.type.isArray = true at array
      rw [scalar] at array
      cases array
  have keeps_of_array : row.type.isArray = true →
      row.operand.Keeps width (elementTarget target) constant := by
    intro array
    rcases holds with value | keeps
    · rcases rowCoherent.comptimeScalar value with ⟨tag, type, _⟩
      unfold Resolved.type at array
      rw [type] at array
      cases array
    · exact keeps
  cases built with
  | empty none =>
      subst none
      cases member
  | openVector scalars type known =>
      rcases value_of_scalar (scalars row member) with ⟨value, _⟩
      exact .known known (List.mem_map.mpr ⟨row, member, value⟩)
  | askedVector scalars type dropped target fits =>
      rcases value_of_scalar (scalars row member) with ⟨value, comptime⟩
      rcases Literals.exists_of_elementTarget target with ⟨dims, asked⟩
      exact .asked type dropped asked (fits row member comptime constant value)
  | concreteVector scalars type fits =>
      rcases value_of_scalar (scalars row member) with ⟨value, comptime⟩
      exact .checked type (fits row member comptime constant value)
  | comptimeRows arrays comptime type known =>
      cases keeps_of_array (arrays row member) with
      | checked rowType _ =>
          have rowComptime := comptime row member
          unfold Resolved.type at rowComptime
          rw [rowType] at rowComptime
          cases rowComptime
      | known rowKnown inside =>
          rcases joinRows_of_known (isSome_of_agree agree member rowKnown) member rowKnown
            inside with ⟨joined, joins, within⟩
          exact .known (known.trans joins) within
      | asked _ dropped target fits =>
          rcases Literals.exists_of_elementTarget target with ⟨dims, asked⟩
          exact .asked type (known.trans (joinRows_of_unknown member dropped)) asked fits
  | concreteRows arrays mixed type same =>
      cases keeps_of_array (arrays row member) with
      | checked rowType fits =>
          have element := same row member (by unfold Resolved.type; rw [rowType]; rfl)
          unfold Resolved.type at element
          rw [rowType] at element
          subst element
          exact .checked type fits
      | known rowKnown _ =>
          rcases mixed with ⟨other, otherMember, concrete⟩
          have otherKnown := isSome_of_agree agree member rowKnown other otherMember
          rcases Option.isSome_iff_exists.mp otherKnown with ⟨elements, found⟩
          rcases (coherent other otherMember).comptimeArray found with ⟨tag, axes, otherType⟩
          unfold Resolved.type at concrete
          rw [otherType] at concrete
          cases concrete
      | asked _ _ target fits =>
          rcases Literals.exists_of_elementTarget target with ⟨dims, asked⟩
          have element := answers asked type
          subst element
          exact .checked type fits

end Keeping

/-! ## Literals of a program -/

section Programs

variable {policy : BranchPolicy} {width : PointerWidth} {program : Program} {state : State}

/-- What is known of an expression that is no literal. -/
theorem Operand.holds_of_constants {operand : Operand} {target : Option Ty}
    {constant : Constant} (member : constant ∈ operand.constants) :
    operand.Holds width target constant := by
  unfold Operand.constants at member
  rcases List.mem_append.mp member with value | element
  · exact .inl (Option.mem_toList.mp value)
  · rcases List.mem_filterMap.mp element with ⟨_, inside, rfl⟩
    cases known : operand.elements with
    | none =>
        rw [known] at inside
        cases inside
    | some elements =>
        rw [known] at inside
        exact .inr (.known known inside)

/-- What is resolved in the course of an analysis is there until its end. -/
theorem Program.grows_of_meets
    (run : (program.analyze (.start policy width) .full).run (.ofTable .empty)
      = .ok () state) {ctx : Context} {target : Option Ty} {expr : Expr}
    {before after : State} {operand : Operand}
    (meets : program.Meets (.start policy width) .full ⟨.expr ctx target expr, before⟩)
    (resolved : (expr.resolve ctx target).run before = .ok operand after) :
    after.GrowsTo state := by
  rcases (endsBy_of_meets run meets).exists_operand with ⟨_, _, again, grows⟩
  rw [resolved] at again
  cases again
  exact grows

/-- A literal of a program that is analyzed without a report. -/
theorem Program.built_of_meets
    (run : (program.analyze (.start policy width) .full).run (.ofTable .empty)
      = .ok () state)
    (quiet : state.reports = []) {ctx : Context} {target : Option Ty} {node : Node}
    {items : Exprs} {before after : State} {operand : Operand}
    (meets : program.Meets (.start policy width) .full
      ⟨.expr ctx target (.array node items), before⟩)
    (resolved : ((Expr.array node items).resolve ctx target).run before = .ok operand after) :
    ∃ elements middle,
      (items.resolveAll ctx (elementTarget target)).run before = .ok elements middle ∧
      (∀ element ∈ elements, element.operand.Coherent) ∧
      Literals.Built width elements target operand := by
  have quietAfter := (grows_of_meets run meets resolved).quiet quiet
  have quietBefore := (grows_of_ok _ resolved).quiet quietAfter
  have same : ctx.width = width := (served_of_meets run quiet meets).width_eq
  have clean := ready_of_meets Discipline.lawful_clean meets quietBefore
  have known := ready_of_meets Discipline.lawful_coherent meets trivial
  unfold Expr.resolve at resolved
  rcases exists_of_run_recorded resolved with ⟨ended, inside, grows, _⟩
  rcases run_bind_eq_ok.mp inside with ⟨elements, middle, ran, literal⟩
  have quietEnded := grows.quiet quietAfter
  have quietMiddle := (grows_of_ok _ literal).quiet quietEnded
  have settled := (items.resolveAll_safe Discipline.lawful_clean clean.poses.1
    (Discipline.lawful_clean.askedElement clean.poses.2) clean.holds).result ran quietMiddle
  have coherent := (items.resolveAll_safe Discipline.lawful_coherent known.poses.1
    (Discipline.lawful_coherent.askedElement known.poses.2) known.holds).result ran trivial
  have built := (Literals.built_arrayLiteral ctx node settled).result literal quietEnded
  rw [same] at built
  exact ⟨elements, middle, ran, coherent, built⟩

/-- A literal keeps what its items hold. -/
theorem Program.keeps_leaves
    (run : (program.analyze (.start policy width) .full).run (.ofTable .empty)
      = .ok () state)
    (quiet : state.reports = []) {ctx : Context} {target : Option Ty} {node : Node}
    {items : Exprs} {before after : State} {operand : Operand}
    (meets : program.Meets (.start policy width) .full
      ⟨.expr ctx target (.array node items), before⟩)
    (resolved : ((Expr.array node items).resolve ctx target).run before = .ok operand after)
    (agree : (Expr.array node items).rowsAgree ctx target before = true)
    (held : ∀ {elements middle},
      (items.resolveAll ctx (elementTarget target)).run before = .ok elements middle →
      items.rowsAgree ctx (elementTarget target) before = true →
      ∀ constant ∈ items.leaves ctx (elementTarget target) before,
        ∃ element ∈ elements, element.operand.Holds width (elementTarget target) constant) :
    ∀ constant ∈ (Expr.array node items).leaves ctx target before,
      operand.Keeps width target constant := by
  rcases built_of_meets run quiet meets resolved with ⟨elements, middle, ran, coherent, built⟩
  have answers : operand.type.Answers target :=
    (served_of_meets run quiet meets).answered resolved
  unfold Expr.rowsAgree at agree
  rw [ran, Bool.and_eq_true] at agree
  unfold Expr.leaves
  intro constant member
  rcases held ran agree.2 constant member with ⟨element, inside, holds⟩
  exact built.keeps coherent agree.1 answers inside holds

mutual

/-- What is known at the leaves of an expression is held by what it is resolved to. -/
theorem Expr.holds_leaves
    (run : (program.analyze (.start policy width) .full).run (.ofTable .empty)
      = .ok () state)
    (quiet : state.reports = []) {ctx : Context} {target : Option Ty} {before after : State}
    {operand : Operand} (expr : Expr)
    (meets : program.Meets (.start policy width) .full ⟨.expr ctx target expr, before⟩)
    (resolved : (expr.resolve ctx target).run before = .ok operand after)
    (agree : expr.rowsAgree ctx target before = true) :
    ∀ constant ∈ expr.leaves ctx target before, operand.Holds width target constant := by
  cases expr with
  | array node items =>
      have keeps := Program.keeps_leaves run quiet meets resolved agree fun ran agree =>
        items.holds_leaves run quiet (meets.called (List.mem_singleton_self _)) ran agree
      exact fun constant member => .inr (keeps constant member)
  | _ =>
      unfold Expr.leaves
      rw [resolved]
      exact fun _ => Operand.holds_of_constants

theorem Exprs.holds_leaves
    (run : (program.analyze (.start policy width) .full).run (.ofTable .empty)
      = .ok () state)
    (quiet : state.reports = []) {ctx : Context} {target : Option Ty} {before after : State}
    {elements : List Resolved} (exprs : Exprs)
    (meets : program.Meets (.start policy width) .full ⟨.elements ctx target exprs, before⟩)
    (resolved : (exprs.resolveAll ctx target).run before = .ok elements after)
    (agree : exprs.rowsAgree ctx target before = true) :
    ∀ constant ∈ exprs.leaves ctx target before,
      ∃ element ∈ elements, element.operand.Holds width target constant := by
  cases exprs with
  | nil => exact List.forall_mem_nil _
  | cons head tail =>
      unfold Exprs.resolveAll at resolved
      rcases run_bind_eq_ok.mp resolved with ⟨operand, middle, first, rest⟩
      rcases run_bind_eq_ok.mp rest with ⟨others, _, later, ⟨⟩⟩
      have calls : Moment.calls ⟨.elements ctx target (.cons head tail), before⟩ =
          [⟨.expr ctx target head, before⟩, ⟨.elements ctx target tail, middle⟩] := by
        unfold Moment.calls Exprs.calls Analysis.leading
        dsimp only
        rw [first]
      have meetsHead := meets.called (calls ▸ List.mem_cons_self)
      have meetsTail := meets.called (calls ▸ List.mem_cons_of_mem _ (List.mem_singleton_self _))
      unfold Exprs.rowsAgree at agree
      rw [first, Bool.and_eq_true] at agree
      unfold Exprs.leaves
      rw [first]
      intro constant member
      rcases List.mem_append.mp member with here | there
      · exact ⟨_, List.mem_cons_self,
          head.holds_leaves run quiet meetsHead first agree.1 constant here⟩
      · rcases tail.holds_leaves run quiet meetsTail later agree.2 constant there with
          ⟨element, inside, holds⟩
        exact ⟨element, List.mem_cons_of_mem _ inside, holds⟩

end

/-- What a value keeps fits the slot that the value fills. -/
theorem Operand.Keeps.fits_of_fill {operand : Operand} {target : Ty} {constant : Constant}
    {ctx : Context} {node : Node} {label : String} {before after : State} {tag : Tag}
    {dims : Axes Dim} (keeps : operand.Keeps ctx.width (some target) constant)
    (coherent : operand.Coherent) (settled : operand.type.Settled) (concrete : target.Concrete)
    (filled : (fill ctx ⟨node, operand⟩ target label).run before = .ok (.array tag dims) after)
    (quiet : after.reports = []) : constant.fits tag ctx.width = true := by
  have source : (⟨node, operand⟩ : Resolved).type.Settled := settled
  rcases (Asked.assigned_fill ctx label source.isUnknown concrete.isUnknown).result filled
    quiet with ⟨assigned, contents⟩
  cases keeps with
  | checked type fits =>
      have fills := (Clean.fills_fill ctx label source concrete).result filled quiet
      have notComptime : operand.type.isComptime = false := by
        rw [type]
        rfl
      have same := fills.eq_source settled notComptime
      change Ty.array tag dims = operand.type at same
      rw [type] at same
      cases same
      exact fits
  | known known member =>
      rcases coherent.comptimeArray known with ⟨_, _, type⟩
      have comptime : operand.type.isComptime = true := by
        rw [type]
        rfl
      rcases contents comptime with ⟨start, ended, checked, quietEnded⟩
      unfold checkContents at checked
      have fits := (Clean.of_silent (silent_checkElementsFit ctx _ tag _)).result checked quietEnded
      apply fits _ _ _ rfl
      rw [known]
      exact member
  | asked _ _ isAsked fits =>
      cases isAsked
      rw [Asked.assign_array source.isUnknown] at assigned
      rcases Ty.exists_of_assignArray assigned with ⟨axes, same⟩
      cases same
      exact fits

/-- Where nothing is reported and no node occurs twice, what is known at the leaves of an array
literal fits the element that the literal has or that the slot of the literal has, provided
that its rows agree on whether their elements are known. -/
theorem Program.leaves_fit
    (run : (program.analyze (.start policy width) .full).run (.ofTable .empty)
      = .ok () state)
    (quiet : state.reports = []) (tree : (program.nodes.map Occurrence.id).Nodup)
    {node : Node} {items : Exprs} (member : .array node items ∈ program.parts) :
    (∃ ctx target before, program.Meets (.start policy width) .full
      ⟨.expr ctx target (.array node items), before⟩) ∧
    ∀ ctx target before, program.Meets (.start policy width) .full
        ⟨.expr ctx target (.array node items), before⟩ →
      (Expr.array node items).rowsAgree ctx target before = true →
      ∀ tag dims, (state.type? node.id = some (some (.array tag dims)) ∨
          state.slot? node.id = some (.array tag dims)) →
        ∀ constant ∈ (Expr.array node items).leaves ctx target before,
          constant.fits tag width = true := by
  refine ⟨meets_of_mem_parts run quiet member, ?_⟩
  intro ctx target before meets agree tag dims gets constant leaf
  rcases (endsBy_of_meets run meets).exists_operand with ⟨operand, after, resolved, grows⟩
  have quietAfter := grows.quiet quiet
  have same : ctx.width = width := (served_of_meets run quiet meets).width_eq
  have coherent : operand.Coherent :=
    operand_of_meets Discipline.lawful_coherent meets resolved trivial
  have settled : operand.type.Settled :=
    operand_of_meets Discipline.lawful_clean meets resolved quietAfter
  have keeps := keeps_leaves run quiet meets resolved agree
    (fun ran agree => items.holds_leaves run quiet
      (meets.called (List.mem_singleton_self _)) ran agree) constant leaf
  rcases gets with noted | filled
  · have type := type_of_resolve run tree resolved grows noted
    cases keeps with
    | checked own fits =>
        rw [type] at own
        cases own
        exact fits
    | known known _ =>
        rcases coherent.comptimeArray known with ⟨_, _, comptime⟩
        rw [type] at comptime
        cases comptime
    | asked comptime _ _ _ =>
        rw [type] at comptime
        cases comptime
  · rcases supplied_of_slot run filled with
      ⟨otherCtx, asked, other, start, given, ended, otherMeets, again, id, fills⟩
    rcases eq_of_meets run tree otherMeets meets id with ⟨rfl, rfl, rfl, rfl⟩
    rw [resolved] at again
    cases again
    rcases fills with ⟨fillCtx, label, begun, done, sameWidth, filled, doneGrows⟩
    have ready := ready_of_meets Discipline.lawful_clean meets
      ((grows_of_ok _ resolved).quiet quietAfter)
    have concrete : asked.Concrete := ready.poses.2 asked rfl
    rw [same] at sameWidth
    rw [← sameWidth] at keeps ⊢
    exact keeps.fits_of_fill coherent settled concrete filled (doneGrows.quiet quiet)

namespace Sample

def pair (id : Nat) (first second : String) : Expr :=
  .array (node id) (.ofList [.int (node (id + 1)) first, .int (node (id + 2)) second])

/-- Two rows with a name, which know their elements until the array fills its slot. -/
def namedRows : Exprs :=
  .ofList [.ident (name 12 "row"), .ident (name 13 "row")]

def namedRow : Stmt :=
  .declaration (node 0) false (some (name 1 "row")) .missing (pair 2 "1" "2")

def grid : Program where
  file := ""
  statements := .ofList [namedRow,
    .declaration (node 5) false (some (name 6 "grid"))
      (.array (node 7) [some ⟨.nowhere, some 2⟩, some ⟨.nowhere, some 2⟩]
        (.named (node 8) "i32"))
      (.array (node 9) namedRows)]

def gridState : State :=
  ((grid.analyze (.start .strict .bits32) .full).run (.ofTable .empty)).state

/-- The type of two rows of two numbers. -/
def gridType : Ty := .array .i32 ⟨.fixed 2, [.fixed 2]⟩

/-- The state in which the analysis comes to the array. -/
def gridStart : State :=
  ((namedRow.analyze (.start .strict .bits32)).run (.ofTable .empty)).state

theorem meets_grid : grid.Meets (.start .strict .bits32) .full
    ⟨.expr (.start .strict .bits32) (some gridType) (.array (node 9) namedRows), gridStart⟩ := by
  refine ⟨_, List.mem_singleton_self _, ?_⟩
  refine .head (List.mem_cons_of_mem _ List.mem_cons_self) ?_
  refine .head List.mem_cons_self ?_
  exact .single List.mem_cons_self

end Sample

theorem Program.leaves_fit_sample :
    (Sample.grid.analyze (.start .strict .bits32) .full).run (.ofTable .empty)
      = .ok () Sample.gridState ∧
    Sample.gridState.reports = [] ∧ (Sample.grid.nodes.map Occurrence.id).Nodup ∧
    Sample.gridState.slot? 9 = some Sample.gridType ∧
    (Expr.array (Sample.node 9) Sample.namedRows).leaves (.start .strict .bits32)
      (some Sample.gridType) Sample.gridStart = [.int 1, .int 2, .int 1, .int 2] ∧
    (Constant.int 2).fits .i32 .bits32 = true := by
  have run : (Sample.grid.analyze (.start .strict .bits32) .full).run (.ofTable .empty)
      = .ok () Sample.gridState := rfl
  have tree : (Sample.grid.nodes.map Occurrence.id).Nodup := by decide
  have slot : Sample.gridState.slot? 9 = some Sample.gridType := rfl
  have leaves : (Expr.array (Sample.node 9) Sample.namedRows).leaves
      (.start .strict .bits32) (some Sample.gridType) Sample.gridStart =
        [.int 1, .int 2, .int 1, .int 2] := rfl
  have member : .array (Sample.node 9) Sample.namedRows ∈ Sample.grid.parts :=
    .tail _ (.tail _ (.tail _ (.head _)))
  have fits := (leaves_fit run rfl tree member).2 _ _ _ Sample.meets_grid rfl _ _ (.inr slot)
    (.int 2) (by rw [leaves]; decide)
  exact ⟨run, rfl, tree, slot, leaves, fits⟩

namespace Sample

/-- A comptime row beside a concrete one. -/
def mixedRows : Exprs :=
  .ofList [pair 12 "1" "3000000000", .ident (name 15 "row")]

def mixedRow : Stmt :=
  .declaration (node 0) false (some (name 1 "row"))
    (.array (node 2) [some ⟨.nowhere, some 2⟩] (.named (node 3) "i32")) (pair 4 "1" "2")

def mixedGrid : Program where
  file := ""
  statements := .ofList [mixedRow,
    .declaration (node 7) false (some (name 8 "grid")) .missing (.array (node 9) mixedRows)]

def mixedGridState : State :=
  ((mixedGrid.analyze (.start .strict .bits32) .full).run (.ofTable .empty)).state

def mixedGridStart : State :=
  ((mixedRow.analyze (.start .strict .bits32)).run (.ofTable .empty)).state

end Sample

/-- A row that knows its elements beside one that does not is never checked. -/
theorem Program.leaf_exceeds_element :
    (Sample.mixedGrid.analyze (.start .strict .bits32) .full).run (.ofTable .empty)
      = .ok () Sample.mixedGridState ∧
    Sample.mixedGridState.reports = [] ∧ (Sample.mixedGrid.nodes.map Occurrence.id).Nodup ∧
    Sample.mixedGrid.Meets (.start .strict .bits32) .full
      ⟨.expr (.start .strict .bits32) none (.array (Sample.node 9) Sample.mixedRows),
        Sample.mixedGridStart⟩ ∧
    Sample.mixedGridState.type? 9 = some (some Sample.gridType) ∧
    .int 3000000000 ∈ (Expr.array (Sample.node 9) Sample.mixedRows).leaves
      (.start .strict .bits32) none Sample.mixedGridStart ∧
    (Constant.int 3000000000).fits .i32 .bits32 = false := by
  refine ⟨rfl, rfl, by decide, ⟨_, List.mem_singleton_self _, ?_⟩, rfl, .tail _ (.head _), rfl⟩
  refine .head (List.mem_cons_of_mem _ List.mem_cons_self) ?_
  refine .head List.mem_cons_self ?_
  exact .single List.mem_cons_self

end Programs

end ComptimeTyping
