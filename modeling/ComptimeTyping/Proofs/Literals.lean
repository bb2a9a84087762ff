import ComptimeTyping.Proofs.Clean

/-! Array literals that are resolved without a report. Their elements are scalars or arrays of
one shape; comptime elements stay open, or they are checked against the element that the
array gets or is asked for. -/

namespace ComptimeTyping

open Analysis

namespace Literals

open Discipline Clean

variable {elements : List Resolved} {target : Option Ty}

/-- The elements of a literal are asked for what the literal is asked for. -/
theorem exists_of_elementTarget {type : Ty} (asked : elementTarget target = some type) :
    ∃ dims, target = some (.array type.elementTag dims) := by
  unfold elementTarget at asked
  split at asked
  · unfold Ty.row at asked
    dsimp only at asked
    split at asked <;> cases asked
    · exact ⟨_, rfl⟩
    · exact ⟨_, rfl⟩
  · cases asked

/-! ## Elements of one kind -/

theorem scalars_of_joinScalars {joined tag : Tag} {index : Nat}
    (result : joinScalars joined index elements = .ok tag) :
    ∀ element ∈ elements, ∃ tag, element.type = .scalar tag := by
  induction elements generalizing joined index with
  | nil => exact List.forall_mem_nil _
  | cons element elements induction =>
      rcases joinScalars_cons result with ⟨tag, _, scalar, _, others⟩
      exact List.forall_mem_cons.mpr ⟨⟨tag, scalar⟩, induction others⟩

theorem arrays_of_joinRowTags {first : List Dim} {joined tag : Tag} {index : Nat}
    (result : joinRowTags first joined index elements = .ok tag) :
    ∀ row ∈ elements, row.type.isArray = true := by
  induction elements generalizing joined index with
  | nil => exact List.forall_mem_nil _
  | cons row rows induction =>
      rcases joinRowTags_cons result with ⟨dims, _, found, _, _, others⟩
      have array : row.type.isArray = true := by
        unfold Ty.isArray
        rw [found]
        rfl
      exact List.forall_mem_cons.mpr ⟨array, induction others⟩

/-! ## The element of an array -/

/-- Of two tags that agree without a marker, a concrete one is what they agree on. -/
theorem eq_of_resolve {left right tag : Tag} (resolved : left.resolve right false = .ok tag) :
    (left.isComptime = false → tag = left) ∧ (right.isComptime = false → tag = right) := by
  unfold Tag.resolve at resolved
  repeat' split at resolved
  all_goals cases resolved
  all_goals simp_all

/-- A row with a concrete element gives its element to the array. -/
theorem eq_of_joinRowTags {first : List Dim} {joined tag : Tag} {index : Nat}
    {rows : List Resolved} (result : joinRowTags first joined index rows = .ok tag) :
    (joined.isComptime = false → tag = joined) ∧
      ∀ row ∈ rows, row.type.elementTag.isComptime = false → tag = row.type.elementTag := by
  induction rows generalizing joined index with
  | nil =>
      cases result
      exact ⟨fun _ => rfl, List.forall_mem_nil _⟩
  | cons row rows induction =>
      rcases joinRowTags_cons result with ⟨_, joint, _, _, resolved, later⟩
      rcases eq_of_resolve resolved with ⟨left, right⟩
      rcases induction later with ⟨rest, others⟩
      refine ⟨?_, List.forall_mem_cons.mpr ⟨?_, others⟩⟩
      · intro concrete
        rw [left concrete] at rest
        exact rest concrete
      · intro concrete
        rw [right concrete] at rest
        exact rest concrete

/-- Rows that are all comptime leave the array comptime. -/
theorem comptime_of_joinRowTags {first : List Dim} {joined tag : Tag} {index : Nat}
    {rows : List Resolved} (result : joinRowTags first joined index rows = .ok tag)
    (firstComptime : joined.isComptime = true)
    (comptime : ∀ row ∈ rows, row.type.elementTag.isComptime = true) :
    tag.isComptime = true := by
  induction rows generalizing joined index with
  | nil =>
      cases result
      exact firstComptime
  | cons row rows induction =>
      rw [List.forall_mem_cons] at comptime
      rcases joinRowTags_cons result with ⟨_, joint, _, _, resolved, later⟩
      have jointComptime := Tag.isComptime_resolve resolved
      rw [firstComptime, comptime.1] at jointComptime
      exact induction later jointComptime comptime.2

/-! ## Literals -/

/-- What an array literal is resolved to. -/
inductive Built (width : PointerWidth) (elements : List Resolved) (target : Option Ty)
    (operand : Operand) : Prop
  | empty (none : elements = [])
  /-- Comptime scalars stay open. -/
  | openVector {tag : Tag} {length : Int}
      (scalars : ∀ element ∈ elements, ∃ tag, element.type = .scalar tag)
      (type : operand.type = .comptimeArray tag ⟨length, []⟩)
      (known : operand.elements = some (elements.map (·.operand.value)))
  /-- Comptime scalars are checked against what is asked for. -/
  | askedVector {tag asked : Tag} {length : Int}
      (scalars : ∀ element ∈ elements, ∃ tag, element.type = .scalar tag)
      (type : operand.type = .comptimeArray tag ⟨length, []⟩)
      (dropped : operand.elements = none) (target : elementTarget target = some (.scalar asked))
      (fits : ∀ element ∈ elements, element.type.isComptime = true →
        ∀ constant ∈ element.operand.value, constant.fits asked width = true)
  | concreteVector {tag : Tag} {axes : Axes Dim}
      (scalars : ∀ element ∈ elements, ∃ tag, element.type = .scalar tag)
      (type : operand.type = .array tag axes)
      (fits : ∀ element ∈ elements, element.type.isComptime = true →
        ∀ constant ∈ element.operand.value, constant.fits tag width = true)
  | comptimeRows {tag : Tag} {axes : Axes Int}
      (arrays : ∀ element ∈ elements, element.type.isArray = true)
      (comptime : ∀ element ∈ elements, element.type.isComptime = true)
      (type : operand.type = .comptimeArray tag axes)
      (known : operand.elements = joinRows elements)
  /-- One concrete row makes the array concrete. -/
  | concreteRows {tag : Tag} {axes : Axes Dim}
      (arrays : ∀ element ∈ elements, element.type.isArray = true)
      (mixed : ∃ element ∈ elements, element.type.isComptime = false)
      (type : operand.type = .array tag axes)
      (same : ∀ element ∈ elements, element.type.isComptime = false →
        tag = element.type.elementTag)

theorem built_vector (ctx : Context) (node : Node) {first : Tag}
    (firstScalar : ∃ element others, elements = element :: others ∧ element.type = .scalar first) :
    Yields (vector ctx node first elements (elementTarget target))
      (Built ctx.width elements target) := by
  rcases firstScalar with ⟨element, others, rfl, scalar⟩
  unfold vector
  split
  · exact refused _ _
  · next tag joined =>
      have scalars : ∀ item ∈ element :: others, ∃ tag, item.type = .scalar tag :=
        List.forall_mem_cons.mpr ⟨⟨first, scalar⟩, scalars_of_joinScalars joined⟩
      dsimp only
      split
      · exact refused _ _
      · split
        · split
          · next asked found =>
              rcases Option.filter_eq_some_iff.mp found with ⟨isAsked, _⟩
              rcases Option.bind_eq_some_iff.mp isAsked with ⟨type, element, tagged⟩
              have scalarTarget : elementTarget target = some (.scalar asked) := by
                rw [element]
                cases type <;> cases tagged
                rfl
              apply (of_silent (silent_checkBranchesFit ctx asked _)).bind
              intro _ fits
              exact .pure (.askedVector scalars rfl rfl scalarTarget fits)
          · exact .pure (.openVector scalars rfl rfl)
        · apply (of_silent (silent_checkBranchesFit ctx tag _)).bind
          intro _ fits
          exact .pure (.concreteVector scalars rfl fits)

theorem built_rows (ctx : Context) (dims : Axes Dim) {first : Resolved} {others : List Resolved}
    (array : first.type.isArray = true)
    (settled : ∀ element ∈ first :: others, element.type.Settled) :
    Yields (rows dims (first :: others) first.type.elementTag)
      (Built ctx.width (first :: others) target) := by
  unfold rows
  split
  · exact refused _ _
  · next tag joined =>
      have arrays : ∀ row ∈ first :: others, row.type.isArray = true :=
        List.forall_mem_cons.mpr ⟨array, arrays_of_joinRowTags joined⟩
      rcases eq_of_joinRowTags joined with ⟨firstSame, othersSame⟩
      have same : ∀ row ∈ first :: others, row.type.isComptime = false →
          tag = row.type.elementTag := by
        intro row member concrete
        rw [← (settled row member).coherent] at concrete
        rcases List.mem_cons.mp member with rfl | there
        · exact firstSame concrete
        · exact othersSame row there concrete
      dsimp only
      split
      · next both =>
          rw [Bool.and_eq_true, List.all_eq_true] at both
          exact .pure (.comptimeRows arrays both.1 rfl rfl)
      · next mixed =>
          have concrete : ∃ row ∈ first :: others, row.type.isComptime = false := by
            cases all : (first :: others).all (·.type.isComptime) with
            | false => simpa only [List.all_eq_false, Bool.not_eq_true] using all
            | true =>
                rw [List.all_eq_true] at all
                have comptime : ∀ row ∈ first :: others,
                    row.type.elementTag.isComptime = true :=
                  fun row member => (settled row member).coherent.trans (all row member)
                rw [List.forall_mem_cons] at comptime
                have tagComptime := comptime_of_joinRowTags joined comptime.1 comptime.2
                rw [Bool.and_eq_true, List.all_eq_true] at mixed
                exact absurd ⟨all, tagComptime⟩ mixed
          exact .pure (.concreteRows arrays concrete rfl same)

theorem built_arrayLiteral (ctx : Context) (node : Node)
    (settled : ∀ element ∈ elements, element.type.Settled) :
    Yields (arrayLiteral ctx node elements target) (Built ctx.width elements target) := by
  cases elements with
  | nil => exact ⟨fun _ _ => .empty rfl⟩
  | cons first others =>
      unfold arrayLiteral
      dsimp only
      split
      · next someUnknown =>
          rcases List.any_eq_true.mp someUnknown with ⟨element, member, unknown⟩
          exact absurd unknown (settled element member).not_unknown
      · split
        · next tag scalar => exact built_vector ctx node ⟨first, others, rfl, scalar⟩
        · split
          · next dims found =>
              have array : first.type.isArray = true := by
                unfold Ty.isArray
                rw [found]
                rfl
              exact built_rows ctx dims array settled
          · exact refused _ _

end Literals

end ComptimeTyping
