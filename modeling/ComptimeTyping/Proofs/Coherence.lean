import Mathlib.Algebra.Ring.Int.Defs
import ComptimeTyping.Proofs.Moments
import ComptimeTyping.Proofs.Typing

/-! What is known beyond a type agrees with the type. A folded value is that of a comptime
scalar, folded elements are exactly those of a comptime array, and folded bounds are those
that the form of a range has. This holds of every operand and of every binding, at every
moment and whatever is reported. -/

namespace ComptimeTyping

open Analysis

/-! ## Known values -/

/-- A value that may be known of a scalar: only of a comptime one, and only an integer of a
comptime integer. -/
structure Tag.Folds (tag : Tag) (constant : Constant) : Prop where
  comptime : tag.isComptime = true
  integer : tag = .comptimeInt → constant.isFloat = false

/-- A step needs a start to count from. -/
def RangeForm.Counted (form : RangeForm) : Prop :=
  form.hasStep = true → form.hasStart = true

/-- Bounds that may be known of a range of the given form. -/
structure RangeForm.Bounded (form : RangeForm) (bounds : RangeValues) : Prop where
  start : form.hasStart = false → bounds.start = none
  stop : form.hasEnd = false → bounds.stop = none
  step : form.hasStep = false → bounds.step = none
  steps : ∀ constant ∈ bounds.step, constant.sign ≠ 0

namespace Ty

def Folds : Ty → Constant → Prop
  | .scalar tag, constant => tag.Folds constant
  | _, _ => False

/-- Elements that may be known of an array: all of them, in an array that has some. -/
def FoldsElements : Ty → List (Option Constant) → Prop
  | .comptimeArray element dims, elements =>
      (∀ size ∈ dims.toList, 0 < size) ∧ (elements.length : Int) = dims.toList.prod ∧
        ∀ constant, some constant ∈ elements → element.Folds constant
  | _, _ => False

def FoldsBounds (type : Ty) (bounds : RangeValues) : Prop :=
  ∃ element form, type.rangeParts? = some (element, form) ∧ form.Bounded bounds

def Counted (type : Ty) : Prop :=
  ∀ element form, type.rangeParts? = some (element, form) → form.Counted

/-- What is known beyond a type agrees with the type. -/
structure Carries (type : Ty) (value : Option Constant)
    (elements : Option (List (Option Constant))) (bounds : Option RangeValues) : Prop where
  scalar : ∀ constant ∈ value, type.Folds constant
  array : ∀ known ∈ elements, type.FoldsElements known
  range : ∀ known ∈ bounds, type.FoldsBounds known
  counted : type.Counted

end Ty

def Operand.Coherent (operand : Operand) : Prop :=
  operand.type.Carries operand.value operand.elements (operand.bounds.map Bounds.values)

def Symbol.Coherent (symbol : Symbol) : Prop :=
  ∃ type, symbol.type = some type ∧
    type.Carries symbol.value symbol.elements symbol.bounds

structure Signature.Counted (signature : Signature) : Prop where
  parameters : ∀ parameter ∈ signature.parameters,
    ∃ type, parameter.type = some type ∧ type.Counted
  result : signature.resultType.Counted

/-- Whatever is reported. -/
def Discipline.coherent : Discipline where
  tolerates _ := True
  earlier _ _ := trivial
  operand := Operand.Coherent
  noted _ := True
  asked := Ty.Counted
  annotation type := type.isComptime = false ∧ type.Counted
  symbol := Symbol.Coherent
  signature := Signature.Counted
  slot _ _ := True
  parts _ := True

namespace Coherence

open Discipline

variable {α : Type}

abbrev Yields (computation : Analysis α) (good : α → Prop) : Prop :=
  Discipline.coherent.Yields computation good

/-! ## Types without more -/

theorem counted_scalar (tag : Tag) : (Ty.scalar tag).Counted := nofun

theorem counted_array (element : Tag) (dims : Axes Dim) : (Ty.array element dims).Counted := nofun

theorem counted_comptimeArray (element : Tag) (dims : Axes Int) :
    (Ty.comptimeArray element dims).Counted := nofun

theorem counted_bare (element : Tag) : (Ty.range element .bare).Counted := by
  rintro _ _ ⟨⟩ hasStep
  cases hasStep

theorem coherent_typed {type : Ty} (counted : type.Counted) : (Operand.typed type).Coherent :=
  ⟨nofun, nofun, nofun, counted⟩

theorem coherent_unknown : Operand.unknown.Coherent :=
  coherent_typed (counted_scalar _)

theorem coherent_scalar {tag : Tag} {value : Option Constant}
    (folds : ∀ constant ∈ value, tag.Folds constant) :
    Operand.Coherent { type := .scalar tag, value } :=
  ⟨folds, nofun, nofun, counted_scalar tag⟩

theorem coherent_comptimeArray {element : Tag} {dims : Axes Int}
    {elements : Option (List (Option Constant))}
    (folds : ∀ known ∈ elements, (Ty.comptimeArray element dims).FoldsElements known) :
    Operand.Coherent { type := .comptimeArray element dims, elements } :=
  ⟨nofun, folds, nofun, counted_comptimeArray element dims⟩

theorem refused (position : Position) (finding : Finding) :
    Yields (refuse position finding) Operand.Coherent :=
  .after fun _ => .pure coherent_unknown

theorem counted_row (type : Ty) : type.row.Counted := by
  cases type with
  | array element dims =>
      unfold Ty.row
      dsimp only
      split
      · exact counted_scalar element
      · exact counted_array element _
  | comptimeArray element dims =>
      unfold Ty.row
      dsimp only
      split
      · exact counted_scalar element
      · exact counted_comptimeArray element _
  | scalar | range | comptimeRange => exact counted_scalar _

/-! ## Types that agree -/

section Agreement

variable {left right source target type : Ty} {explicit : Bool}

theorem counted_resolveRanges (leftCounted : left.Counted) (rightCounted : right.Counted)
    (joined : left.resolveRanges right explicit = .ok type) : type.Counted := by
  unfold Ty.resolveRanges at joined
  split at joined
  case h_5 => cases joined
  all_goals
    unfold Except.map at joined
    split at joined
    · cases joined
    · cases joined
      rintro _ _ ⟨⟩
      first
        | exact leftCounted _ _ rfl
        | exact rightCounted _ _ rfl

theorem counted_resolve (leftCounted : left.Counted) (rightCounted : right.Counted)
    (joined : left.resolve right explicit = .ok type) : type.Counted := by
  unfold Ty.resolve at joined
  split at joined
  · cases joined
    exact counted_scalar _
  · split at joined
    · unfold Except.map at joined
      split at joined <;> cases joined
      exact counted_scalar _
    · unfold Ty.resolveComptimeArrays at joined
      split at joined <;> cases joined
      exact counted_comptimeArray _ _
    · rcases Ty.exists_of_assignArray joined with ⟨axes, rfl⟩
      exact counted_array _ axes
    · rcases Ty.exists_of_assignArray joined with ⟨axes, rfl⟩
      exact counted_array _ axes
    · rcases Ty.exists_of_assignArray joined with ⟨axes, rfl⟩
      exact counted_array _ axes
    · exact counted_resolveRanges leftCounted rightCounted joined

theorem counted_assignRange {element : Tag} {form : RangeForm} (counted : source.Counted)
    (filled : source.assignRange element form explicit = .ok type) : type.Counted := by
  unfold Ty.assignRange at filled
  repeat' split at filled
  all_goals cases filled
  all_goals
    rintro _ _ ⟨⟩
    exact counted _ _ rfl

theorem counted_assign (sourceCounted : source.Counted) (targetCounted : target.Counted)
    (filled : source.assign target explicit = .ok type) : type.Counted := by
  unfold Ty.assign at filled
  split at filled
  · cases filled
    exact targetCounted
  · split at filled
    · split at filled
      · rw [Ty.eq_of_assignScalar filled]
        exact counted_scalar _
      · cases filled
    · rcases Ty.exists_of_assignArray filled with ⟨axes, rfl⟩
      exact counted_array _ axes
    · split at filled
      · exact counted_resolve sourceCounted targetCounted filled
      · cases filled
    · exact counted_assignRange sourceCounted filled
    · exact counted_resolve sourceCounted targetCounted filled

theorem counted_convert (sourceCounted : source.Counted) (targetCounted : target.Counted)
    (converted : source.convert target = .ok type) : type.Counted := by
  unfold Ty.convert at converted
  repeat' split at converted
  all_goals first
    | cases converted
      exact targetCounted
    | exact counted_assign sourceCounted targetCounted converted
    | cases converted

/-- A slot that is not comptime holds nothing that is. -/
theorem notComptime_assign (notComptime : target.isComptime = false)
    (filled : source.assign target explicit = .ok type) : type.isComptime = false := by
  unfold Ty.assign at filled
  split at filled
  · cases filled
    exact notComptime
  · split at filled
    · split at filled
      · rw [Ty.eq_of_assignScalar filled]
        exact notComptime
      · cases filled
    · rcases Ty.exists_of_assignArray filled with ⟨axes, rfl⟩
      rfl
    · cases notComptime
    · rcases Ty.exists_of_assignRange filled with ⟨form, rfl⟩
      rfl
    · cases notComptime

end Agreement

/-! ## Tags that agree -/

/-- Tags agree on a comptime integer only if both are one. -/
theorem integers_of_resolve {left right : Tag} {explicit : Bool}
    (resolved : left.resolve right explicit = .ok .comptimeInt) :
    left = .comptimeInt ∧ right = .comptimeInt := by
  cases left <;> cases right <;> cases explicit <;> first | exact ⟨rfl, rfl⟩ | cases resolved

/-- A value of one tag is a value of the comptime tag that it is joined to. -/
theorem Folds.join {tag joined : Tag} {constant : Constant} (folds : tag.Folds constant)
    (comptime : joined.isComptime = true)
    (integers : joined = .comptimeInt → tag = .comptimeInt) : joined.Folds constant :=
  ⟨comptime, fun integer => folds.integer (integers integer)⟩

theorem integers_of_joinScalars {joined : Tag} {index : Nat} {elements : List Resolved}
    (result : joinScalars joined index elements = .ok .comptimeInt) :
    joined = .comptimeInt ∧ ∀ element ∈ elements, element.type = .comptimeInt := by
  induction elements generalizing joined index with
  | nil =>
      cases result
      exact ⟨rfl, List.forall_mem_nil _⟩
  | cons element elements induction =>
      rcases joinScalars_cons result with ⟨tag, _, scalar, resolved, others⟩
      rcases induction others with ⟨rfl, rest⟩
      rcases integers_of_resolve resolved with ⟨rfl, rfl⟩
      exact ⟨rfl, List.forall_mem_cons.mpr ⟨scalar, rest⟩⟩

theorem integers_of_joinRowTags {first : List Dim} {joined : Tag} {index : Nat}
    {rows : List Resolved} (result : joinRowTags first joined index rows = .ok .comptimeInt) :
    joined = .comptimeInt ∧ ∀ row ∈ rows, row.type.elementTag = .comptimeInt := by
  induction rows generalizing joined index with
  | nil =>
      cases result
      exact ⟨rfl, List.forall_mem_nil _⟩
  | cons row rows induction =>
      rcases joinRowTags_cons result with ⟨_, _, _, _, resolved, others⟩
      rcases induction others with ⟨rfl, rest⟩
      rcases integers_of_resolve resolved with ⟨rfl, same⟩
      exact ⟨rfl, List.forall_mem_cons.mpr ⟨same, rest⟩⟩

/-- Rows that are joined have the same axes. -/
theorem dims_of_joinRowTags {first : List Dim} {joined tag : Tag} {index : Nat}
    {rows : List Resolved} (result : joinRowTags first joined index rows = .ok tag) :
    ∀ row ∈ rows, ∃ dims, row.type.dims? = some dims ∧ dims.toList = first := by
  induction rows generalizing joined index with
  | nil => exact List.forall_mem_nil _
  | cons row rows induction =>
      rcases joinRowTags_cons result with ⟨dims, _, found, same, _, others⟩
      exact List.forall_mem_cons.mpr ⟨⟨dims, found, same⟩, induction others⟩

/-! ## Operators -/

theorem isFloat_negate (constant : Constant) : constant.negate.isFloat = constant.isFloat := by
  cases constant <;> rfl

/-- Integers fold to an integer, except where they are divided as floats. -/
theorem isFloat_fold {op : ArithOp} {left right value : Constant} (notDiv : op ≠ .div)
    (leftInteger : left.isFloat = false) (rightInteger : right.isFloat = false)
    (folded : left.fold op right = .ok (some value)) : value.isFloat = false := by
  cases left with
  | float => cases leftInteger
  | int left =>
      cases right with
      | float => cases rightInteger
      | int right =>
          unfold Constant.fold at folded
          split at folded
          · exact absurd rfl notDiv
          · simp only [Except.ok.injEq, Option.map_eq_some_iff] at folded
            rcases folded with ⟨result, _, rfl⟩
            rfl
          · next notIntegers => exact absurd rfl (notIntegers left right rfl)

theorem folds_of_type {operand : Operand} {tag : Tag} (coherent : operand.Coherent)
    (type : operand.type = .scalar tag) :
    ∀ constant ∈ operand.value, tag.Folds constant := by
  intro constant known
  have folds := coherent.scalar constant known
  rw [type] at folds
  exact folds

theorem coherent_negation (position : Position) {right : Operand} (coherent : right.Coherent) :
    Yields (negation position right) Operand.Coherent := by
  unfold negation
  split
  · exact refused _ _
  · next tag found =>
      have type : right.type = .scalar tag := by
        cases type : right.type <;> rw [type] at found <;> cases found
        rfl
      rw [type]
      split
      · exact refused _ _
      · split
        · exact refused _ _
        · split
          · apply Yields.pure
            apply coherent_scalar
            intro constant known
            rcases Option.map_eq_some_iff.mp known with ⟨before, value, rfl⟩
            have folds := folds_of_type coherent type before value
            refine ⟨folds.comptime, fun integer => ?_⟩
            rw [isFloat_negate]
            exact folds.integer integer
          · exact .pure (coherent_typed (counted_scalar tag))

theorem coherent_prefixed (node : Node) (operator : String) {right : Operand}
    (coherent : right.Coherent) :
    Yields (prefixed node operator right) Operand.Coherent := by
  unfold prefixed
  split
  · exact .pure coherent_unknown
  · split
    · exact coherent_negation _ coherent
    · split
      · exact .pure (coherent_typed (counted_scalar _))
      · exact refused _ _
    · exact .stop _

theorem integers_of_promote {left right : Tag} (leftComptime : left.isComptime = true)
    (rightComptime : right.isComptime = true) (promoted : left.promote right = .comptimeInt) :
    left = .comptimeInt ∧ right = .comptimeInt := by
  cases left <;> cases leftComptime <;> cases right <;> cases rightComptime <;>
    first | exact ⟨rfl, rfl⟩ | cases promoted

theorem coherent_foldComptime (op : ArithOp) {left right : Resolved} {leftTag rightTag : Tag}
    (leftFolds : ∀ constant ∈ left.operand.value, leftTag.Folds constant)
    (rightFolds : ∀ constant ∈ right.operand.value, rightTag.Folds constant) :
    Yields (foldComptime op left right leftTag rightTag) Operand.Coherent := by
  unfold foldComptime
  extract_lets tag
  have typed : Yields (pure (Operand.typed (.scalar tag))) Operand.Coherent :=
    .pure (coherent_typed (counted_scalar tag))
  have comptime : tag.isComptime = true := by
    unfold tag
    split
    · rfl
    · exact Tag.isComptime_promote _ _
  split
  · next leftValue rightValue leftKnown rightKnown =>
      have leftFold := leftFolds leftValue leftKnown
      have rightFold := rightFolds rightValue rightKnown
      split
      · exact .stop _
      · next value folded =>
          apply Yields.pure
          apply coherent_scalar
          rintro _ ⟨⟩
          refine ⟨comptime, fun integer => ?_⟩
          unfold tag at integer
          split at integer
          · cases integer
          · next notDiv =>
              rcases integers_of_promote leftFold.comptime rightFold.comptime integer with
                ⟨leftInteger, rightInteger⟩
              exact isFloat_fold notDiv (leftFold.integer leftInteger)
                (rightFold.integer rightInteger) folded
      · split
        · exact refused _ _
        · exact typed
  · exact typed

theorem coherent_combineNumbers (ctx : Context) (node : Node) (op : ArithOp)
    {left right : Resolved} {leftTag rightTag : Tag} (target : Option Ty)
    (leftFolds : ∀ constant ∈ left.operand.value, leftTag.Folds constant)
    (rightFolds : ∀ constant ∈ right.operand.value, rightTag.Folds constant) :
    Yields (combineNumbers ctx node op left right leftTag rightTag target)
      Operand.Coherent := by
  unfold combineNumbers
  split
  · exact refused _ _
  · split
    · exact coherent_foldComptime op leftFolds rightFolds
    · apply Yields.after
      intro result
      split
      · exact .pure coherent_unknown
      · apply Yields.guarded
        apply Yields.guarded
        split
        · exact refused _ _
        · exact .pure (coherent_typed (counted_scalar _))

theorem type_of_numericTag? {type : Ty} {tag : Tag} (found : numericTag? type = some tag) :
    type = .scalar tag := by
  have scalar := (Option.filter_eq_some_iff.mp found).1
  cases type <;> cases scalar
  rfl

theorem coherent_arithmetic (ctx : Context) (node : Node) (op : ArithOp)
    {left right : Resolved} (target : Option Ty) (leftCoherent : left.operand.Coherent)
    (rightCoherent : right.operand.Coherent) :
    Yields (arithmetic ctx node op left right target) Operand.Coherent := by
  unfold arithmetic
  split
  · exact .pure coherent_unknown
  · split
    · next leftFound rightFound =>
        exact coherent_combineNumbers _ _ _ _
          (folds_of_type leftCoherent (type_of_numericTag? leftFound))
          (folds_of_type rightCoherent (type_of_numericTag? rightFound))
    · exact refused _ _
    · exact refused _ _

theorem coherent_infixed (ctx : Context) (node : Node) (operator : String) (op : InfixOp)
    {left right : Resolved} (target : Option Ty) (leftCoherent : left.operand.Coherent)
    (rightCoherent : right.operand.Coherent) :
    Yields (infixed ctx node operator op left right target) Operand.Coherent := by
  have bool : Yields (pure (Operand.typed .bool)) Operand.Coherent :=
    .pure (coherent_typed (counted_scalar _))
  cases op with
  | arithmetic op => exact coherent_arithmetic _ _ _ _ leftCoherent rightCoherent
  | comparison ordered =>
      unfold infixed comparison
      dsimp only
      split
      · split
        · exact .after fun _ => bool
        · exact .after fun _ => bool
      · exact bool
  | logical => exact .after fun _ => .after fun _ => bool

theorem coherent_converted (ctx : Context) (node : Node) {value : Resolved} {target : Ty}
    (coherent : value.operand.Coherent) (counted : target.Counted) :
    Yields (converted ctx node value target) Operand.Coherent := by
  have marked : ∀ {type : Ty}, type.Counted →
      Operand.Coherent { type, explicit := true } := fun counted => ⟨nofun, nofun, nofun, counted⟩
  refine .converted (marked counted) fun converted => .inl (marked ?_)
  exact counted_convert coherent.counted counted converted

/-! ## Arrays -/

theorem Folds.elementTag {type : Ty} {constant : Constant} (folds : type.Folds constant) :
    type.elementTag.Folds constant := by
  cases type with
  | scalar tag => exact folds
  | array | comptimeArray | range | comptimeRange => cases folds

theorem coherent_vector (ctx : Context) (node : Node) {first : Resolved}
    {others : List Resolved} {tag : Tag} (target : Option Ty) (type : first.type = .scalar tag)
    (coherent : ∀ element ∈ first :: others, element.operand.Coherent) :
    Yields (vector ctx node tag (first :: others) target) Operand.Coherent := by
  unfold vector
  split
  · exact refused _ _
  · next joinedTag joined =>
      dsimp only
      split
      · exact refused _ _
      · split
        · next comptime =>
            split
            · exact .after fun _ => .pure (coherent_typed (counted_comptimeArray _ _))
            · apply Yields.pure
              apply coherent_comptimeArray
              rintro known ⟨⟩
              refine ⟨by simp [Axes.toList], by simp [Axes.toList], ?_⟩
              intro constant member
              rcases List.mem_map.mp member with ⟨element, inside, value⟩
              have folds := (coherent element inside).scalar constant value
              apply Folds.join (Folds.elementTag folds) comptime
              rintro rfl
              rcases integers_of_joinScalars joined with ⟨rfl, integers⟩
              rcases List.mem_cons.mp inside with rfl | other
              · exact congrArg Ty.elementTag type
              · exact congrArg Ty.elementTag (integers element other)
        · exact .after fun _ => .pure (coherent_typed (counted_array _ _))

/-- Rows of one size have together as many elements as all of them. -/
theorem shape_mapM {size : Int} {tag : Tag} {rows : List Resolved}
    {lists : List (List (Option Constant))}
    (known : ∀ row ∈ rows, ∀ elements ∈ row.operand.elements,
      (elements.length : Int) = size ∧
        ∀ constant, some constant ∈ elements → tag.Folds constant)
    (read : rows.mapM (fun row : Resolved => row.operand.elements) = some lists) :
    (lists.flatten.length : Int) = rows.length * size ∧
      ∀ constant, some constant ∈ lists.flatten → tag.Folds constant := by
  induction rows generalizing lists with
  | nil =>
      cases read
      simp
  | cons row rows induction =>
      rw [List.forall_mem_cons] at known
      rw [List.mapM_cons] at read
      rcases Option.bind_eq_some_iff.mp read with ⟨elements, own, rest⟩
      rcases Option.bind_eq_some_iff.mp rest with ⟨others, readRest, ⟨⟩⟩
      rcases known.1 elements own with ⟨length, folds⟩
      rcases induction known.2 readRest with ⟨restLength, restFolds⟩
      refine ⟨?_, ?_⟩
      · rw [List.flatten_cons, List.length_append, List.length_cons]
        push_cast
        rw [length, restLength, Int.add_mul, Int.one_mul, Int.add_comm]
      · intro constant member
        rw [List.flatten_cons, List.mem_append] at member
        rcases member with here | there
        · exact folds constant here
        · exact restFolds constant there

theorem knownElements_eq_some {elements known : List (Option Constant)}
    (found : knownElements elements = some known) : known = elements ∧ elements ≠ [] := by
  unfold knownElements at found
  split at found
  · cases found
  · next notEmpty =>
      cases found
      exact ⟨rfl, fun empty => notEmpty (List.isEmpty_iff.mpr empty)⟩

/-- A comptime array of which the axes are known as those of a row. -/
theorem dims_of_map {first : Axes Dim} {dims : Axes Int}
    (same : (dims.map Dim.ofInt).toList = first.toList) :
    dims.toList = (first.map Dim.toInt).toList := by
  rw [Axes.toList_map, ← same, Axes.toList_map, List.map_map]
  have back : Dim.toInt ∘ Dim.ofInt = id := funext Dim.toInt_ofInt
  rw [back, List.map_id]

/-- The elements of a row that has the axes of the first one. -/
theorem row_elements {first : Axes Dim} {row : Resolved} {elements : List (Option Constant)}
    (coherent : row.operand.Coherent) (known : elements ∈ row.operand.elements)
    (same : ∃ dims, row.type.dims? = some dims ∧ dims.toList = first.toList) :
    (∀ size ∈ (first.map Dim.toInt).toList, 0 < size) ∧
      (elements.length : Int) = (first.map Dim.toInt).toList.prod ∧
      ∀ constant, some constant ∈ elements → row.type.elementTag.Folds constant := by
  have folds := coherent.array elements known
  rcases same with ⟨dims, found, equal⟩
  change row.type.FoldsElements elements at folds
  cases type : row.type with
  | comptimeArray element axes =>
      rw [type] at folds found
      cases found
      rw [← dims_of_map equal]
      exact folds
  | scalar | array | range | comptimeRange =>
      rw [type] at folds
      cases folds

/-- The elements of all rows are those of the array that the rows make. -/
theorem foldsElements_joinRows {first : Resolved} {others : List Resolved} {dims : Axes Dim}
    {tag : Tag} {known : List (Option Constant)}
    (coherent : ∀ row ∈ first :: others, row.operand.Coherent)
    (same : ∀ row ∈ first :: others,
      ∃ axes, row.type.dims? = some axes ∧ axes.toList = dims.toList)
    (comptime : tag.isComptime = true)
    (integers : tag = .comptimeInt →
      ∀ row ∈ first :: others, row.type.elementTag = .comptimeInt)
    (joined : joinRows (first :: others) = some known) :
    (Ty.comptimeArray tag ((dims.map Dim.toInt).cons (first :: others).length)).FoldsElements
      known := by
  rcases Option.bind_eq_some_iff.mp joined with ⟨lists, read, nonempty⟩
  rcases knownElements_eq_some nonempty with ⟨rfl, _⟩
  have inside : ∀ row ∈ first :: others, ∀ elements ∈ row.operand.elements,
      (elements.length : Int) = (dims.map Dim.toInt).toList.prod ∧
        ∀ constant, some constant ∈ elements → tag.Folds constant := by
    intro row member elements isKnown
    rcases row_elements (coherent row member) isKnown (same row member) with
      ⟨_, length, folds⟩
    refine ⟨length, fun constant element => ?_⟩
    exact Folds.join (folds constant element) comptime fun integer => integers integer row member
  have positive : ∀ size ∈ (dims.map Dim.toInt).toList, 0 < size := by
    rw [List.mapM_cons] at read
    rcases Option.bind_eq_some_iff.mp read with ⟨elements, isKnown, _⟩
    exact (row_elements (coherent first List.mem_cons_self) isKnown
      (same first List.mem_cons_self)).1
  rcases shape_mapM inside read with ⟨length, folds⟩
  refine ⟨?_, ?_, folds⟩
  · rw [Axes.toList_cons, List.forall_mem_cons]
    exact ⟨by simp, positive⟩
  · rw [Axes.toList_cons, List.prod_cons]
    exact length

theorem coherent_rows {first : Resolved} {others : List Resolved} {dims : Axes Dim}
    (found : first.type.dims? = some dims)
    (coherent : ∀ row ∈ first :: others, row.operand.Coherent) :
    Yields (rows dims (first :: others) first.type.elementTag) Operand.Coherent := by
  unfold rows
  split
  · exact refused _ _
  · next tag joined =>
      dsimp only
      split
      · next both =>
          rw [Bool.and_eq_true] at both
          apply Yields.pure
          apply coherent_comptimeArray
          intro known isKnown
          have same : ∀ row ∈ first :: others,
              ∃ axes, row.type.dims? = some axes ∧ axes.toList = dims.toList :=
            List.forall_mem_cons.mpr ⟨⟨dims, found, rfl⟩, dims_of_joinRowTags joined⟩
          apply foldsElements_joinRows coherent same both.2 _ isKnown
          rintro rfl
          exact List.forall_mem_cons.mpr (integers_of_joinRowTags joined)
      · exact .pure (coherent_typed (counted_array _ _))

theorem coherent_arrayLiteral (ctx : Context) (node : Node) {elements : List Resolved}
    (target : Option Ty) (coherent : ∀ element ∈ elements, element.operand.Coherent) :
    Yields (arrayLiteral ctx node elements target) Operand.Coherent := by
  cases elements with
  | nil =>
      unfold arrayLiteral emptyArray
      dsimp only
      split
      · next element dims =>
          have typed : Yields (pure (Operand.typed (.array element dims))) Operand.Coherent :=
            .pure (coherent_typed (counted_array element dims))
          split
          · exact typed
          · exact .after fun _ => typed
      · exact refused _ _
  | cons first others =>
      unfold arrayLiteral
      dsimp only
      split
      · exact .pure coherent_unknown
      · split
        · next tag type => exact coherent_vector _ _ _ type coherent
        · split
          · next dims found => exact coherent_rows found coherent
          · exact refused _ _

/-! ## Ranges -/

theorem coherent_rangeOf {tag : Tag} {form : RangeForm} {bounds : Bounds}
    (counted : form.Counted) (bounded : form.Bounded bounds.values) :
    (rangeOf tag form bounds).Coherent := by
  have parts : (rangeOf tag form bounds).type.rangeParts? = some (tag, form) := by
    unfold rangeOf
    dsimp only
    split <;> rfl
  refine ⟨nofun, nofun, ?_, ?_⟩
  · rintro known ⟨⟩
    exact ⟨tag, form, parts, bounded⟩
  · intro element other found
    rw [parts] at found
    cases found
    exact counted

theorem coherent_rangeLiteral (ctx : Context) (node : Node) (step : Position)
    {form : RangeForm} (hint : Tag) {parts : RangeParts} {bounds : Bounds}
    (read : BoundsRead form parts bounds) :
    Yields (rangeLiteral ctx node step form hint parts bounds) Operand.Coherent := by
  have absent : ∀ {bound : Bound}, bound = .absent → bound.value = none := by
    rintro _ rfl
    rfl
  unfold rangeLiteral
  split
  · exact .pure coherent_unknown
  · next valid =>
      rw [Bool.not_eq_true] at valid
      have counted : form.Counted := read.counted valid
      have bounded : (∀ constant ∈ bounds.step.value, constant.sign ≠ 0) →
          form.Bounded bounds.values := fun steps =>
        ⟨fun missing => absent (read.start missing), fun missing => absent (read.stop missing),
          fun missing => absent (read.step missing), steps⟩
      split
      · next untagged =>
          have missing := absent (read.step (read.untagged valid untagged).2.2)
          apply Yields.pure
          apply coherent_rangeOf counted
          apply bounded
          rw [missing]
          nofun
      · apply Yields.after
        intro element
        split
        · exact .pure coherent_unknown
        · split
          · exact refused _ _
          · next nonzero =>
              apply Yields.after
              intro hasStep
              split
              · apply Yields.pure
                apply coherent_rangeOf counted
                apply bounded
                intro constant known zero
                apply nonzero
                rw [known, Option.map_some, zero]
              · exact .pure coherent_unknown

/-! ## Indexing -/

/-- The rows that are picked are of full length, and nothing else is in them. -/
theorem shape_pickRows {elements picked : List (Option Constant)} {stride count : Nat}
    {start step : Int} (found : pickRows elements stride start step count = some picked) :
    picked.length = count * stride ∧ ∀ element ∈ picked, element ∈ elements := by
  induction count generalizing start picked with
  | zero =>
      cases found
      simp
  | succ count induction =>
      unfold pickRows at found
      split at found
      · cases found
      · next inside =>
          rcases Option.map_eq_some_iff.mp found with ⟨rest, pickedRest, rfl⟩
          rcases induction pickedRest with ⟨length, members⟩
          have room : start.toNat * stride + stride ≤ elements.length := by
            rw [not_or, Int.not_lt, Int.not_lt] at inside
            rcases Int.eq_ofNat_of_zero_le inside.1 with ⟨index, rfl⟩
            have fits := inside.2
            rw [Int.toNat_natCast, ← Nat.succ_mul]
            exact_mod_cast fits
          have row : ((elements.drop (start.toNat * stride)).take stride).length = stride := by
            rw [List.length_take, List.length_drop]
            omega
          refine ⟨?_, ?_⟩
          · rw [List.length_append, row, length, Nat.succ_mul, Nat.add_comm]
          · intro element member
            rcases List.mem_append.mp member with first | later
            · exact List.mem_of_mem_drop (List.mem_of_mem_take first)
            · exact members element later

theorem shape_pickedRows {array : Operand} {start step : Int} {count : Nat}
    {picked : List (Option Constant)} (coherent : array.Coherent)
    (found : pickedRows array start step count = some picked) :
    ∃ element dims, array.type = .comptimeArray element dims ∧
      (∀ size ∈ dims.inner, 0 < size) ∧ (picked.length : Int) = count * dims.inner.prod ∧
      ∀ constant, some constant ∈ picked → element.Folds constant := by
  unfold pickedRows at found
  split at found
  · next element dims elements type known =>
      have folds := coherent.array elements known
      rw [type] at folds
      rcases folds with ⟨positive, length, values⟩
      unfold Axes.toList at positive length
      rw [List.forall_mem_cons] at positive
      rw [List.prod_cons] at length
      split at found
      · cases found
      · rcases shape_pickRows found with ⟨pickedLength, members⟩
        refine ⟨element, dims, type, positive.2, ?_, ?_⟩
        · have stride : ((elements.length / dims.outer.toNat : Nat) : Int) = dims.inner.prod := by
            rw [Int.natCast_ediv, Int.toNat_of_nonneg (Int.le_of_lt positive.1), length]
            exact Int.mul_ediv_cancel_left _ (Int.ne_of_gt positive.1)
          rw [pickedLength, Int.natCast_mul, stride]
        · intro constant member
          exact values constant (members _ member)
  · cases found

/-- A row, or an element where the array has one axis. -/
theorem coherent_selectRow {array : Operand} (start step : Int) (coherent : array.Coherent) :
    (selectRows array array.type.row start step 1).Coherent := by
  unfold selectRows
  split
  · exact coherent_typed (counted_row _)
  · next picked found =>
      rcases shape_pickedRows coherent found with
        ⟨element, ⟨outer, inner⟩, type, positive, length, values⟩
      rw [Int.natCast_one, Int.one_mul] at length
      rw [type]
      cases inner with
      | nil =>
          simp only [List.prod_nil] at length
          have single : picked.length = 1 := by omega
          rcases List.length_eq_one_iff.mp single with ⟨value, rfl⟩
          apply coherent_scalar
          rintro constant rfl
          exact values constant List.mem_cons_self
      | cons outer inner =>
          apply coherent_comptimeArray
          intro known isKnown
          rcases knownElements_eq_some isKnown with ⟨rfl, _⟩
          exact ⟨positive, length, values⟩

/-- Rows of an array, of which there is at least one if their elements are known. -/
theorem coherent_selectRows {array : Operand} {element : Tag} {dims : Axes Int}
    (type : array.type = .comptimeArray element dims) (start step length : Int)
    (coherent : array.Coherent) :
    (selectRows array (.comptimeArray element (dims.withOuter length)) start step
      length.toNat).Coherent := by
  unfold selectRows
  split
  · exact coherent_typed (counted_comptimeArray _ _)
  · next picked found =>
      rcases shape_pickedRows coherent found with ⟨_, _, sameType, positive, shape, values⟩
      rw [type] at sameType
      cases sameType
      apply coherent_comptimeArray
      intro known isKnown
      rcases knownElements_eq_some isKnown with ⟨rfl, notEmpty⟩
      have nonempty : 0 < length := by
        apply Int.not_le.mp
        intro noRow
        rw [Int.toNat_of_nonpos noRow] at shape
        apply notEmpty
        apply List.eq_nil_of_length_eq_zero
        simpa using shape
      refine ⟨List.forall_mem_cons.mpr ⟨nonempty, positive⟩, ?_, values⟩
      rw [shape, Int.toNat_of_nonneg (Int.le_of_lt nonempty)]
      exact List.prod_cons.symm

theorem coherent_literalElement (ctx : Context) {array : Resolved} (index : Resolved)
    (outer : Dim) (coherent : array.operand.Coherent) :
    Yields (literalElement ctx array index outer) Operand.Coherent := by
  have typed : Yields (pure (.typed array.type.row)) Operand.Coherent :=
    .pure (coherent_typed (counted_row _))
  have selected : ∀ start, Yields
      (pure (selectRows array.operand array.type.row start 1 1)) Operand.Coherent :=
    fun start => .pure (coherent_selectRow start 1 coherent)
  unfold literalElement
  dsimp only
  apply Yields.after
  intro fits
  split
  · split
    · exact typed
    · split
      · exact selected _
      · split
        · exact .after fun _ => typed
        · exact selected _
  · exact typed

theorem coherent_element (ctx : Context) {array : Resolved} (index : Resolved) (outer : Dim)
    (coherent : array.operand.Coherent) :
    Yields (element ctx array index outer) Operand.Coherent := by
  have typed : Yields (pure (.typed array.type.row)) Operand.Coherent :=
    .pure (coherent_typed (counted_row _))
  unfold element
  dsimp only
  split
  · exact typed
  · split
    · exact .after fun _ => typed
    · split
      · exact coherent_literalElement ctx index outer coherent
      · repeat' split
        all_goals first | exact typed | exact .after fun _ => typed

theorem coherent_sliced (node : Node) {array : Operand} (span : SliceSpan)
    (coherent : array.Coherent) : Yields (sliced node array span) Operand.Coherent := by
  unfold sliced
  split
  · exact .pure (coherent_typed (counted_array _ _))
  · next element dims type =>
      split
      · exact refused _ _
      · exact .pure (coherent_selectRows type _ _ _ coherent)
  · exact .pure coherent_unknown

theorem coherent_slice (ctx : Context) (node : Node) {array : Resolved} (index : Resolved)
    (form : RangeForm) (outer : Dim) (coherent : array.operand.Coherent) :
    Yields (slice ctx node array index form outer) Operand.Coherent :=
  .slice coherent_unknown fun _ => coherent_sliced node _ coherent

theorem coherent_indexing (ctx : Context) (node : Node) {array : Resolved} (index : Resolved)
    (coherent : array.operand.Coherent) :
    Yields (indexing ctx node array index) Operand.Coherent := by
  unfold indexing
  split
  · exact .pure coherent_unknown
  · split
    · exact refused _ _
    · split
      · exact coherent_slice _ _ _ _ _ coherent
      · exact coherent_element _ _ _ coherent

theorem coherent_property (left : Operand) (name : Ident) :
    Yields (property left name) Operand.Coherent := by
  unfold property
  split
  · exact .pure coherent_unknown
  · split
    · apply Yields.pure
      apply coherent_scalar
      rintro _ ⟨⟩
      exact ⟨rfl, fun _ => rfl⟩
    · exact .pure (coherent_typed (counted_scalar _))
    · exact refused _ _

/-! ## Branches -/

theorem coherent_joinBranch {policy : BranchPolicy} {joined result : Operand}
    {branch : Resolved} (joinedCoherent : joined.Coherent)
    (branchCoherent : branch.operand.Coherent)
    (ended : joinBranch policy joined branch = .ok result) : result.Coherent := by
  rcases joinBranch_cases ended with ⟨type, rfl, rfl | resolved⟩
  · exact coherent_typed (counted_scalar _)
  · exact coherent_typed
      (counted_resolve joinedCoherent.counted branchCoherent.counted resolved)

theorem coherent_joinBranches (ctx : Context) {branches : List Resolved}
    (coherent : ∀ branch ∈ branches, branch.operand.Coherent) :
    Yields (joinBranches ctx branches) Operand.Coherent := by
  refine .joinBranches coherent_unknown ?_ fun ended => ?_
  · rintro branch rfl
    exact coherent branch List.mem_cons_self
  · refine forall_joinFrom_none ?_ coherent ended _ rfl
    exact fun branch member _ _ before => coherent_joinBranch before (coherent branch member)

/-! ## Annotations

A type that is written is not comptime, and if it is that of a range, it is bare. -/

theorem annotated_scalar {tag : Tag} (notComptime : tag.isComptime = false) :
    Discipline.coherent.annotation (.scalar tag) :=
  ⟨notComptime, counted_scalar tag⟩

theorem annotated_unknown : Discipline.coherent.annotation .unknown :=
  annotated_scalar rfl

theorem annotated_resolveIn (type : TypeExpr) (enclosing : Option Enclosing) :
    Yields (type.resolveIn enclosing) Discipline.coherent.annotation := by
  refine .resolveIn annotated_unknown ?_ (fun _ _ => ⟨rfl, counted_array _ _⟩)
    (fun _ => ⟨rfl, counted_bare _⟩) type enclosing
  intro tag spellable
  apply annotated_scalar
  cases tag <;> first | rfl | cases spellable

theorem annotated_declaredType (name : String) (type : TypeExpr) :
    Yields (declaredType name type) Discipline.coherent.AnnotatedIfAny := by
  have some : ∀ {known}, Discipline.coherent.annotation known →
      Discipline.coherent.AnnotatedIfAny (some known) := by
    rintro known annotated _ ⟨⟩
    exact annotated
  unfold declaredType
  split
  · exact .pure nofun
  · apply (annotated_resolveIn type none).bind
    intro resolved annotated
    split
    · exact .after fun _ => .pure (some annotated_unknown)
    · exact .pure (some annotated)

/-! ## Signatures -/

theorem counted_readParameters (node : Node) (function : String) {read : List Parameter}
    (parameters : List (Option ParameterExpr))
    (readCounted : ∀ parameter ∈ read, ∃ type, parameter.type = some type ∧ type.Counted) :
    Yields (readParameters node function read parameters) fun result =>
      ∀ parameter ∈ result, ∃ type, parameter.type = some type ∧ type.Counted := by
  induction parameters generalizing read with
  | nil => exact .pure readCounted
  | cons parameter parameters induction =>
      cases parameter with
      | none => exact .stop _
      | some parameter =>
          have typed : ∀ name, Yields (parameterType name parameter.type) Ty.Counted := by
            intro name
            apply (annotated_resolveIn parameter.type none).bind
            intro resolved annotated
            split
            · exact .after fun _ => .pure (counted_scalar _)
            · exact .pure annotated.2
          unfold readParameters
          dsimp only
          split
          · exact .stop _
          · split
            · exact .stop _
            · apply (typed _).bind
              intro type counted
              split
              · exact .after fun _ => induction readCounted
              · apply induction
                intro other member
                rcases List.mem_append.mp member with earlier | last
                · exact readCounted other earlier
                · rcases List.mem_singleton.mp last with rfl
                  exact ⟨type, rfl, counted⟩

theorem counted_readSignature (node : Node) (name : Option Ident)
    (parameters : List (Option ParameterExpr)) (result : TypeExpr) (body : Body) :
    Yields (readSignature node name parameters result body) Signature.Counted := by
  unfold readSignature
  split
  · exact .stop _
  · dsimp only
    split
    · exact .stop _
    · apply (counted_readParameters _ _ _ (List.forall_mem_nil _)).bind
      intro read readCounted
      split
      · exact .pure ⟨readCounted, counted_scalar _⟩
      · apply (annotated_resolveIn result none).bind
        exact fun type annotated => .pure ⟨readCounted, annotated.2⟩

/-! ## Slots and bindings -/

theorem annotated_fill (ctx : Context) {source : Resolved} {target : Ty} (label : String)
    (coherent : source.operand.Coherent) (annotated : Discipline.coherent.annotation target) :
    Yields (fill ctx source target label) Discipline.coherent.annotation :=
  .fill annotated fun filled => .inl ⟨notComptime_assign annotated.1 filled,
    counted_assign coherent.counted annotated.2 filled⟩

/-- A binding without more than its type. -/
theorem coherent_plain {symbol : Symbol} {type : Ty} (typed : symbol.type = some type)
    (counted : type.Counted) (value : symbol.value = none) (elements : symbol.elements = none)
    (bounds : symbol.bounds = none) : symbol.Coherent := by
  refine ⟨type, typed, ?_⟩
  rw [value, elements, bounds]
  exact ⟨nofun, nofun, nofun, counted⟩

theorem coherent_annotated (isMutable : Bool) (name : String) {type : Ty} (value : Operand)
    (annotated : Discipline.coherent.annotation type) :
    (boundSymbol isMutable name type value).Coherent := by
  unfold boundSymbol
  rw [annotated.1, if_neg Bool.false_ne_true]
  exact coherent_plain rfl annotated.2 rfl rfl rfl

theorem coherent_inferred (ctx : Context) (isMutable : Bool) (name : Ident) {value : Resolved}
    (coherent : value.operand.Coherent) :
    Yields (bindingType ctx isMutable name none value) fun type =>
      (boundSymbol isMutable name.name type value.operand).Coherent := by
  have reported : ∀ position finding, Yields
      (report position finding >>= fun _ => pure Ty.unknown) fun type =>
        (boundSymbol isMutable name.name type value.operand).Coherent :=
    fun position finding => .after fun _ => .pure (coherent_annotated _ _ _ annotated_unknown)
  unfold bindingType
  dsimp only
  split
  · exact reported _ _
  · split
    · exact reported _ _
    · apply Yields.pure
      unfold boundSymbol
      split
      · exact ⟨_, rfl, coherent⟩
      · exact coherent_plain rfl coherent.counted rfl rfl rfl

theorem coherent_ofSymbol (position : Position) {symbol : Symbol} (coherent : symbol.Coherent) :
    (Operand.ofSymbol position symbol).Coherent := by
  rcases coherent with ⟨type, typed, carries⟩
  unfold Operand.ofSymbol
  rw [typed]
  dsimp only
  split
  · refine ⟨carries.scalar, carries.array, ?_, carries.counted⟩
    rw [Option.map_map]
    have same : Bounds.values ∘ Bounds.ofValues position = id := rfl
    rw [same, Option.map_id]
    exact carries.range
  · exact coherent_typed carries.counted

end Coherence

open Coherence in
theorem Discipline.lawful_coherent : Discipline.coherent.Lawful where
  notedOperand _ := trivial
  notedSymbol _ := trivial
  notedAsked _ := trivial
  unknown _ := coherent_unknown
  integer node text := by
    unfold integerLiteral
    split
    · next value found =>
        rcases Option.map_eq_some_iff.mp found with ⟨integer, _, rfl⟩
        apply Yields.pure
        apply coherent_scalar
        rintro _ ⟨⟩
        exact ⟨rfl, fun _ => rfl⟩
    · exact .stop _
  float node text := by
    unfold floatLiteral
    split
    · apply Yields.pure
      apply coherent_scalar
      rintro _ ⟨⟩
      exact ⟨rfl, nofun⟩
    · exact .stop _
  bool := coherent_typed (counted_scalar _)
  string := coherent_typed (counted_scalar _)
  void := coherent_typed (counted_scalar _)
  name position := coherent_ofSymbol position
  prefixed node operator := coherent_prefixed node operator
  infixed ctx node operator op left right _ :=
    coherent_infixed ctx node operator op _ left right
  converted ctx node _ _ value target :=
    (coherent_converted ctx node value target).mono fun _ coherent _ => coherent
  array ctx node _ coherent _ := coherent_arrayLiteral ctx node _ coherent
  rangeStart _ _ := ⟨fun _ _ => trivial⟩
  rangeBound _ _ _ := ⟨fun _ _ => trivial⟩
  range ctx node step _ _ read _ := coherent_rangeLiteral ctx node step _ read
  indexing ctx node array _ := coherent_indexing ctx node _ array
  property name _ := coherent_property _ name
  joined ctx _ _ _ _ coherent :=
    (coherent_joinBranches ctx coherent).mono fun _ joined _ => joined
  answered := coherent_typed
  askedBool := counted_scalar _
  askedIndex isRange := by
    cases isRange with
    | false => exact counted_scalar _
    | true => exact counted_bare _
  askedElement _ := by
    unfold elementTarget
    split
    · exact askedIfAny_some (counted_row _)
    · exact askedIfAny_none
  askedBound _ := by
    unfold boundHint
    split
    · exact askedIfAny_none
    · exact askedIfAny_some (counted_scalar _)
  askedConversion _ := (annotated_resolveIn _ none).mono fun _ annotated => annotated.2
  annotatedDeclaration name _ := annotated_declaredType name _
  askedAnnotation annotated := annotated.2
  signature node name body _ _ := counted_readSignature node name _ _ body
  parameter := by
    intro signature parameter counted member
    rcases counted.parameters parameter member with ⟨type, typed, typeCounted⟩
    exact coherent_plain typed typeCounted rfl rfl rfl
  askedArgument := by
    intro signature parameter counted member type typed
    rcases counted.parameters parameter member with ⟨known, typedAs, typeCounted⟩
    rw [typedAs] at typed
    cases typed
    exact typeCounted
  askedResult counted := counted.result
  filled _ _ _ _ := ⟨fun _ _ _ => trivial⟩
  annotated ctx isMutable name label coherent annotated :=
    (annotated_fill ctx label coherent annotated).mono fun _ => coherent_annotated _ _ _
  inferred ctx isMutable name := coherent_inferred ctx isMutable name
  untyped _ _ _ := coherent_plain rfl (counted_scalar _) rfl rfl rfl
  uninitialized _ annotated := coherent_plain rfl annotated.2 rfl rfl rfl
  immutable _ _ annotated := coherent_plain rfl annotated.2 rfl rfl rfl
  askedAssignment := by
    rintro symbol ⟨known, typed, carries⟩ _ type same
    rw [typed] at same
    cases same
    exact carries.counted
  initialized := by
    rintro symbol ⟨type, typed, carries⟩
    exact ⟨type, typed, carries⟩

/-! ## Programs -/

/-- Every binding, in whatever scope, agrees with its type. -/
def State.Coherent (state : State) : Prop :=
  ∀ scope ∈ state.table.scopes, ∀ symbol ∈ scope.symbols, symbol.Coherent

/-- At every moment of an analysis from an empty table, whatever it reports and however it
ends, what is known of an operand or of a binding agrees with its type. -/
theorem Program.coherent_throughout (policy : BranchPolicy) (width : PointerWidth)
    (mode : AnalysisMode) (program : Program) :
    ((program.analyze (.start policy width) mode).run (.ofTable .empty)).state.Coherent ∧
    ∀ moment, program.Meets (.start policy width) mode moment →
      moment.state.Coherent ∧ moment.outcome.state.Coherent ∧
      ∀ ctx target expr operand after, moment.task = .expr ctx target expr →
        (expr.resolve ctx target).run moment.state = .ok operand after →
        operand.Coherent := by
  have lawful := Discipline.lawful_coherent
  refine ⟨?_, ?_⟩
  · have safe := program.analyze_safe lawful (Discipline.admits_start policy width)
      (.empty _) mode
    exact (safe.state trivial).symbols
  · intro moment meets
    have ready := ready_of_meets lawful meets trivial
    refine ⟨ready.holds.symbols, ((ready.safe lawful).state trivial).symbols, ?_⟩
    intro ctx target expr operand after task run
    rcases moment with ⟨_, before⟩
    cases task
    exact operand_of_meets lawful meets run trivial

namespace Sample

/-- Two rows of integers. -/
def rows : Stmt :=
  .declaration (node 0) false (some (name 1 "rows")) .missing
    (.array (node 2) (.ofList [
      .array (node 3) (.ofList [.int (node 4) "1", .int (node 5) "2"]),
      .array (node 6) (.ofList [.int (node 7) "3", .int (node 8) "4"])]))

def secondRow : Expr :=
  .index (node 10) (.ident (name 11 "rows")) (.int (node 12) "1")

def picking : Program where
  file := ""
  statements := .ofList [rows, .expression (node 9) secondRow]

/-- The moment at which the second row is picked. -/
def pick : Moment where
  task := .expr (.start .strict .bits32) none secondRow
  state := ((rows.analyze (.start .strict .bits32)).run (.ofTable .empty)).state

theorem meets_pick : picking.Meets (.start .strict .bits32) .full pick := by
  refine ⟨_, List.mem_cons_self, ?_⟩
  refine .head (List.mem_cons_of_mem _ List.mem_cons_self) ?_
  refine .head List.mem_cons_self ?_
  exact .single List.mem_cons_self

end Sample

theorem Program.coherent_throughout_sample :
    Sample.picking.Meets (.start .strict .bits32) .full Sample.pick ∧
    ∃ operand after, (Sample.secondRow.resolve (.start .strict .bits32) none).run
        Sample.pick.state = .ok operand after ∧
      operand.elements = some [some (.int 3), some (.int 4)] ∧ operand.Coherent := by
  have coherent := coherent_throughout .strict .bits32 .full Sample.picking
  have resolved := (coherent.2 Sample.pick Sample.meets_pick).2.2
  exact ⟨Sample.meets_pick, _, _, rfl, rfl, resolved _ _ _ _ _ rfl rfl⟩

end ComptimeTyping
