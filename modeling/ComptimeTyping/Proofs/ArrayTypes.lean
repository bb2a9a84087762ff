import ComptimeTyping.Analysis.Annotation
import ComptimeTyping.Proofs.Computation
import ComptimeTyping.Proofs.TypeNames

/-! Array types in array types. However its axes are divided among the array types, a nest gives
one array type with all of them, outermost first. The first axis that is neither a wildcard nor
positive is reported, and then nothing else is. -/

namespace ComptimeTyping

open Analysis

/-! ## Nests -/

namespace DimExpr

/-- The axis that is written. -/
def dim (written : DimExpr) : Dim :=
  written.size.elim .wildcard .fixed

def isFault (written : DimExpr) : Bool :=
  !written.dim.isAllowed

theorem isFault_of_size {written : DimExpr} {size : Int} (isSize : written.size = some size) :
    written.isFault = true ↔ size ≤ 0 := by
  simp [isFault, dim, isSize, Dim.isAllowed]

end DimExpr

/-- One array type of a nest. Like every array type it has an axis. -/
structure ArrayLevel where
  node : Node
  axes : Axes DimExpr

namespace ArrayLevel

/-- The axes of a nest as they are written, outermost first. -/
def written (levels : List ArrayLevel) : List DimExpr :=
  levels.flatMap (·.axes.toList)

def dims (levels : List ArrayLevel) : List Dim :=
  (written levels).map DimExpr.dim

/-- The first axis at fault. -/
def fault? (levels : List ArrayLevel) : Option DimExpr :=
  (written levels).find? DimExpr.isFault

variable (level : ArrayLevel) (levels : List ArrayLevel)

theorem dims_cons :
    dims (level :: levels) = level.axes.toList.map DimExpr.dim ++ dims levels :=
  List.map_append

theorem fault?_cons :
    fault? (level :: levels) = (level.axes.toList.find? DimExpr.isFault).or (fault? levels) :=
  List.find?_append

end ArrayLevel

/-- Array types in each other, the outermost first, and an element inside of them. -/
def TypeExpr.nested (levels : List ArrayLevel) (element : TypeExpr) : TypeExpr :=
  levels.foldr (fun level inner => .array level.node (level.axes.toList.map some) inner) element

/-- The array type of a named element, unknown if there is no such type. -/
def Ty.arrayOf (name : String) (dims : List Dim) : Ty :=
  match Tag.parse? name with
  | none => .unknown
  | some element => (Ty.array? element dims).toOption.getD .unknown

/-- An axis at fault is reported. -/
def State.refusing (state : State) (fault : DimExpr) : State :=
  { state with reports :=
      state.reports ++ [(Finding.dimNotPositive fault.dim.toInt).placed fault.position] }

namespace ArrayTypes

open ArrayLevel

variable {levels : List ArrayLevel} {element : TypeExpr} {enclosing : Option Enclosing}
  {state : State}

/-! ## Axes of one array type -/

theorem readDims_cons (node : Node) (dim : DimExpr) (dims : List (Option DimExpr)) :
    readDims node (some dim :: dims) =
      if dim.isFault then do
        report dim.position (.dimNotPositive dim.dim.toInt)
        return none
      else return (← readDims node dims).map (dim.dim :: ·) := by
  rcases dim with ⟨position, size⟩
  cases size with
  | none => rfl
  | some size =>
      have fault : DimExpr.isFault ⟨position, some size⟩ = true ↔ size ≤ 0 :=
        DimExpr.isFault_of_size rfl
      simp only [readDims, fault]
      rfl

/-- All axes of an array type are read, or the first one at fault is reported. -/
theorem run_readDims (node : Node) (dims : List DimExpr) (state : State) :
    (readDims node (dims.map some)).run state =
      match dims.find? DimExpr.isFault with
      | none => .ok (some (dims.map DimExpr.dim)) state
      | some fault => .ok none (state.refusing fault) := by
  induction dims with
  | nil => rfl
  | cons dim dims induction =>
      rw [List.map_cons, readDims_cons]
      split
      · next fault =>
          rw [List.find?_cons_of_pos fault]
          rfl
      · next allowed =>
          rw [List.find?_cons_of_neg allowed, run_bind, induction]
          cases dims.find? DimExpr.isFault <;> rfl

/-! ## Nested array types -/

/-- What is known inside of an array type of the array types around. -/
def within (enclosing : Option Enclosing) (level : ArrayLevel) : Enclosing :=
  let dims := level.axes.toList.map DimExpr.dim
  match enclosing with
  | none => ⟨level.node, dims⟩
  | some outer => { outer with dims := outer.dims ++ dims }

theorem isMissing_nested (present : element.isMissing = false) :
    (TypeExpr.nested levels element).isMissing = false := by
  cases levels with
  | nil => exact present
  | cons level levels => rfl

/-- One array type is read, and what is inside of it is left. -/
theorem run_resolveIn_cons (level : ArrayLevel) (present : element.isMissing = false) :
    ((TypeExpr.nested (level :: levels) element).resolveIn enclosing).run state =
      match level.axes.toList.find? DimExpr.isFault with
      | none =>
          ((TypeExpr.nested levels element).resolveIn (some (within enclosing level))).run state
      | some fault => .ok .unknown (state.refusing fault) := by
  have unfolded : TypeExpr.nested (level :: levels) element =
      .array level.node (level.axes.toList.map some) (TypeExpr.nested levels element) := rfl
  have complete : ((level.axes.toList.map some).isEmpty ||
      (TypeExpr.nested levels element).isMissing) = false := by
    rw [isMissing_nested present]
    rfl
  rw [unfolded, TypeExpr.resolveIn, complete]
  simp only [Bool.false_eq_true, if_false, run_bind, run_readDims]
  cases level.axes.toList.find? DimExpr.isFault with
  | some fault => rfl
  | none => cases enclosing <;> rfl

/-- A nest in an array type adds all of its axes, or its first axis at fault is reported. -/
theorem run_resolveIn_nested (outer : Enclosing) (present : element.isMissing = false) :
    ((TypeExpr.nested levels element).resolveIn (some outer)).run state =
      match fault? levels with
      | none =>
          (element.resolveIn (some { outer with dims := outer.dims ++ dims levels })).run state
      | some fault => .ok .unknown (state.refusing fault) := by
  induction levels generalizing outer with
  | nil =>
      have same : outer.dims ++ dims [] = outer.dims := List.append_nil _
      rw [same]
      rfl
  | cons level levels induction =>
      rw [run_resolveIn_cons level present, fault?_cons, dims_cons, ← List.append_assoc]
      cases level.axes.toList.find? DimExpr.isFault with
      | some fault => rfl
      | none => exact induction _

theorem run_resolve_nested (outermost : ArrayLevel) (present : element.isMissing = false) :
    (TypeExpr.nested (outermost :: levels) element).resolve.run state =
      match fault? (outermost :: levels) with
      | none =>
          (element.resolveIn (some ⟨outermost.node, dims (outermost :: levels)⟩)).run state
      | some fault => .ok .unknown (state.refusing fault) := by
  rw [TypeExpr.resolve, run_resolveIn_cons outermost present, fault?_cons, dims_cons]
  cases outermost.axes.toList.find? DimExpr.isFault with
  | some fault => rfl
  | none => exact run_resolveIn_nested _ present

/-! ## Named elements -/

theorem known_of_parse {name : String} {tag : Tag} (parsed : Tag.parse? name = some tag) :
    (Ty.scalar tag).isUnknown = false := by
  have spellable : tag.isSpellable = true := (Option.filter_eq_some_iff.mp parsed).2
  cases tag <;> first | rfl | cases spellable

/-- A name in array types gives an array type, or it is reported and the type is unknown. -/
theorem exists_run_named (outer : Enclosing) (node : Node) (name : String) :
    ∃ after, ((TypeExpr.named node name).resolveIn (some outer)).run state =
        .ok (Ty.arrayOf name outer.dims) after ∧
      (Ty.arrayOf name outer.dims ≠ .unknown → after = state) := by
  unfold TypeExpr.resolveIn namedType Ty.arrayOf
  cases parsed : Tag.parse? name with
  | none => exact ⟨_, rfl, fun known => absurd rfl known⟩
  | some tag =>
      simp only [pure_bind, enclose, known_of_parse parsed]
      dsimp only [Ty.scalarTag?]
      cases formed : Ty.array? tag outer.dims with
      | ok type => exact ⟨_, rfl, fun _ => rfl⟩
      | error cause => exact ⟨_, rfl, fun known => absurd rfl known⟩

theorem arrayOf_eq {name : String} {tag : Tag} {axes : Axes Dim}
    (parsed : Tag.parse? name = some tag) (formed : (Ty.array tag axes).WellFormed) :
    Ty.arrayOf name axes.toList = .array tag axes := by
  have made : Ty.array? tag axes.toList = .ok (.array tag axes) :=
    Ty.array?_eq_ok_iff.mpr ⟨axes, rfl, formed, rfl⟩
  simp only [Ty.arrayOf, parsed, made]
  rfl

theorem arrayOf_of_fault (name : String) {fault : DimExpr} (found : fault? levels = some fault) :
    Ty.arrayOf name (dims levels) = .unknown := by
  have member : fault.dim ∈ dims levels :=
    List.mem_map_of_mem (List.mem_of_find?_eq_some found)
  have refused : fault.dim.isAllowed = false := by
    have isFault : fault.isFault = true := List.find?_some found
    exact (Bool.not_eq_true' _).mp isFault
  unfold Ty.arrayOf
  split
  · rfl
  · next tag _ =>
      cases made : Ty.array? tag (dims levels) with
      | ok type =>
          rcases Ty.array?_eq_ok_iff.mp made with ⟨axes, isAxes, formed, -⟩
          have isAllowed := formed.2 fault.dim (isAxes ▸ member)
          rw [refused] at isAllowed
          cases isAllowed
      | error cause => rfl

/-- The type of a nest around a name depends on the name and on all axes together. -/
theorem exists_run_resolve (outermost : ArrayLevel) (levels : List ArrayLevel) (node : Node)
    (name : String) (state : State) :
    ∃ after, (TypeExpr.nested (outermost :: levels) (.named node name)).resolve.run state =
        .ok (Ty.arrayOf name (dims (outermost :: levels))) after ∧
      (Ty.arrayOf name (dims (outermost :: levels)) ≠ .unknown → after = state) := by
  rw [run_resolve_nested outermost rfl]
  cases found : fault? (outermost :: levels) with
  | none => exact exists_run_named _ node name
  | some fault =>
      have unknown := arrayOf_of_fault name found
      rw [unknown]
      exact ⟨_, rfl, fun known => absurd rfl known⟩

theorem run_resolve_of_allowed (outermost : ArrayLevel) {node : Node} {name : String} {tag : Tag}
    (parsed : Tag.parse? name = some tag) (valued : tag ≠ .void)
    (allowed : ∀ dim ∈ dims (outermost :: levels), dim.isAllowed = true) :
    ∃ axes : Axes Dim, axes.toList = dims (outermost :: levels) ∧
      (TypeExpr.nested (outermost :: levels) (.named node name)).resolve.run state =
        .ok (.array tag axes) state := by
  have isElement : Ty.isArrayElement tag = true := by
    have spellable : tag.isSpellable = true := (Option.filter_eq_some_iff.mp parsed).2
    cases tag <;> first | rfl | exact absurd rfl valued | cases spellable
  obtain ⟨axes, isAxes⟩ : ∃ axes : Axes Dim, axes.toList = dims (outermost :: levels) :=
    ⟨⟨_, _⟩, rfl⟩
  rcases exists_run_resolve outermost levels node name state with ⟨after, run, quiet⟩
  rw [← isAxes, arrayOf_eq parsed ⟨isElement, isAxes ▸ allowed⟩] at run quiet
  rw [quiet nofun] at run
  exact ⟨axes, isAxes, run⟩

theorem run_resolve_of_fault (outermost : ArrayLevel) (present : element.isMissing = false)
    {before behind : List DimExpr} {fault : DimExpr} {size : Int}
    (parts : written (outermost :: levels) = before ++ fault :: behind)
    (allowed : ∀ earlier ∈ before, earlier.dim.isAllowed = true) (isSize : fault.size = some size)
    (notPositive : size ≤ 0) :
    (TypeExpr.nested (outermost :: levels) element).resolve.run state =
      .ok .unknown (state.refusing fault) := by
  have isFault := (DimExpr.isFault_of_size isSize).mpr notPositive
  have found : fault? (outermost :: levels) = some fault := by
    refine List.find?_eq_some_iff_append.mpr ⟨isFault, before, behind, parts, ?_⟩
    intro earlier member
    rw [DimExpr.isFault, allowed earlier member]
    rfl
  rw [run_resolve_nested outermost present, found]

end ArrayTypes

open ArrayLevel in
/-- Of array types in each other around a name, the axes of all of them together count. If each
is a wildcard or positive, and the name is that of a concrete type other than `void`, they are
the axes of one array type, and nothing is reported. Otherwise the first axis that is neither is
reported alone, and the type is unknown. Nests with the same axes have the same type. -/
theorem TypeExpr.nested_arrays_flatten (outermost : ArrayLevel) (levels : List ArrayLevel)
    (node : Node) (name : String) (state : State) :
    (∀ element, Tag.parse? name = some element → element ≠ .void →
      (∀ dim ∈ dims (outermost :: levels), dim.isAllowed = true) →
      ∃ axes : Axes Dim, axes.toList = dims (outermost :: levels) ∧
        (nested (outermost :: levels) (.named node name)).resolve.run state =
          .ok (.array element axes) state) ∧
    (∀ before fault behind size, written (outermost :: levels) = before ++ fault :: behind →
      (∀ earlier ∈ before, earlier.dim.isAllowed = true) → fault.size = some size → size ≤ 0 →
      (nested (outermost :: levels) (.named node name)).resolve.run state =
        .ok .unknown { state with reports := state.reports ++
          [{ code := .dimensionMismatch, position := fault.position,
             message := "array dimension must be positive, got " ++ toString size }] }) ∧
    (∀ otherOutermost otherLevels otherNode otherState,
      dims (otherOutermost :: otherLevels) = dims (outermost :: levels) →
      ∃ type after otherAfter,
        (nested (outermost :: levels) (.named node name)).resolve.run state = .ok type after ∧
        (nested (otherOutermost :: otherLevels) (.named otherNode name)).resolve.run otherState =
          .ok type otherAfter) := by
  refine ⟨?_, ?_, ?_⟩
  · intro element parsed valued allowed
    exact ArrayTypes.run_resolve_of_allowed outermost parsed valued allowed
  · intro before fault behind size parts allowed isSize notPositive
    have isDim : fault.dim.toInt = size := by
      rw [DimExpr.dim, isSize]
      rfl
    rw [ArrayTypes.run_resolve_of_fault outermost rfl parts allowed isSize notPositive,
      State.refusing, isDim]
    rfl
  · intro otherOutermost otherLevels otherNode otherState same
    rcases ArrayTypes.exists_run_resolve outermost levels node name state with ⟨after, run, _⟩
    rcases ArrayTypes.exists_run_resolve otherOutermost otherLevels otherNode name otherState with
      ⟨otherAfter, otherRun, _⟩
    rw [same] at otherRun
    exact ⟨_, after, otherAfter, run, otherRun⟩

/-- An array type without an axis is none. -/
example (node element : Node) (state : State) :
    (TypeExpr.array node [] (.named element "i64")).resolve.run state =
      .error (.malformed node.position .arrayType) state := rfl

namespace Sample

def axisAt (column : Int) (size : Option Int) : DimExpr := ⟨⟨1, column⟩, size⟩

def levelAt (id : Nat) (outer : DimExpr) (inner : List DimExpr) : ArrayLevel :=
  ⟨⟨id, .absent⟩, ⟨outer, inner⟩⟩

/-- The levels of `[2]([_][3]i64)`. -/
def nestedRows : List ArrayLevel :=
  [levelAt 0 (axisAt 1 (some 2)) [], levelAt 1 (axisAt 2 none) [axisAt 3 (some 3)]]

/-- The levels of `[2][_]([3]i64)`. -/
def nestedColumns : List ArrayLevel :=
  [levelAt 0 (axisAt 1 (some 2)) [axisAt 2 none], levelAt 1 (axisAt 3 (some 3)) []]

/-- The levels of `[2]([0][-4]never)`, where `never` is no type. -/
def faultyLevels : List ArrayLevel :=
  [levelAt 0 (axisAt 1 (some 2)) [], levelAt 1 (axisAt 2 (some 0)) [axisAt 3 (some (-4))]]

/-- The name inside of the levels. -/
def namedElement (name : String) : TypeExpr := .named ⟨2, .absent⟩ name

end Sample

open ArrayLevel Sample in
theorem TypeExpr.nested_arrays_flatten_sample :
    Tag.parse? "i64" = some .i64 ∧ Tag.i64 ≠ .void ∧
    (∀ dim ∈ dims nestedRows, dim.isAllowed = true) ∧ dims nestedColumns = dims nestedRows ∧
    (nested nestedRows (namedElement "i64")).resolve.run (.ofTable .empty) =
      .ok (.array .i64 ⟨.fixed 2, [.wildcard, .fixed 3]⟩) (.ofTable .empty) ∧
    (∃ type after otherAfter,
      (nested nestedRows (namedElement "i64")).resolve.run (.ofTable .empty) = .ok type after ∧
      (nested nestedColumns (namedElement "i64")).resolve.run (.ofTable .empty) =
        .ok type otherAfter) ∧
    written faultyLevels =
      [axisAt 1 (some 2)] ++ axisAt 2 (some 0) :: [axisAt 3 (some (-4))] ∧
    (nested faultyLevels (namedElement "never")).resolve.run (.ofTable .empty) =
      .ok .unknown { State.ofTable .empty with reports :=
        [{ code := .dimensionMismatch, position := ⟨1, 2⟩,
           message := "array dimension must be positive, got 0" }] } := by
  have parsed : Tag.parse? "i64" = some .i64 := by decide
  have valued : Tag.i64 ≠ .void := by decide
  have allowed : ∀ dim ∈ dims nestedRows, dim.isAllowed = true := by decide
  have same : dims nestedColumns = dims nestedRows := by decide
  have parts : written faultyLevels =
      [axisAt 1 (some 2)] ++ axisAt 2 (some 0) :: [axisAt 3 (some (-4))] := rfl
  have before : ∀ earlier ∈ [axisAt 1 (some 2)], earlier.dim.isAllowed = true := by decide
  rcases nested_arrays_flatten _ _ ⟨2, .absent⟩ "i64" (.ofTable .empty) with ⟨flat, _, grouped⟩
  rcases flat _ parsed valued allowed with ⟨⟨outer, inner⟩, isAxes, run⟩
  cases isAxes
  rcases nested_arrays_flatten _ _ ⟨2, .absent⟩ "never" (.ofTable .empty) with ⟨_, refused, _⟩
  have told := refused _ _ _ 0 parts before rfl (by decide)
  exact ⟨parsed, valued, allowed, same, run, grouped _ _ _ _ same, parts, told⟩

end ComptimeTyping
