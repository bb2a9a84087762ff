import ComptimeTyping.Tag
import ComptimeTyping.Dim

/-! The types that resolution produces, the contract that each kind of type
keeps, and their names in messages. -/

namespace ComptimeTyping

/-- Which parts of a range are written. They belong to the value: two ranges
over the same element have equal types whatever their form. -/
structure RangeForm where
  hasStart : Bool
  hasEnd : Bool
  hasStep : Bool
  inclusive : Bool
deriving DecidableEq, Repr

namespace RangeForm

/-- The form of a bare `range[T]` annotation. -/
def bare : RangeForm := ⟨false, false, false, false⟩

def isBounded (form : RangeForm) : Bool :=
  form.hasStart && form.hasEnd

def canIterate (form : RangeForm) : Bool :=
  form.hasStart

end RangeForm

inductive Ty where
  | scalar (tag : Tag)
  /-- An array with a concrete element. Its axes may be wildcards. -/
  | array (element : Tag) (dims : Axes Dim)
  /-- An array literal whose element is still comptime. All lengths are known. -/
  | comptimeArray (element : Tag) (dims : Axes Int)
  | range (element : Tag) (form : RangeForm)
  /-- A range whose element is still comptime. -/
  | comptimeRange (element : Tag) (form : RangeForm)
deriving DecidableEq, Repr

namespace Ty

abbrev unknown : Ty := .scalar .unknown
abbrev bool : Ty := .scalar .bool
abbrev void : Ty := .scalar .void
abbrev usize : Ty := .scalar .usize
abbrev comptimeInt : Ty := .scalar .comptimeInt
abbrev comptimeFloat : Ty := .scalar .comptimeFloat

/-! ## Formation -/

/-- Why a type cannot be formed. -/
inductive FormationError where
  | arrayElement (element : Tag)
  | noArrayAxis
  | arrayAxis (axis : Nat) (dims : List Dim) (element : Tag) (size : Int)
  | comptimeArrayElement (element : Tag)
  | noComptimeArrayAxis
  | comptimeArrayAxis (axis : Nat) (size : Int)
  | rangeElement (element : Tag)
  | comptimeRangeElement (element : Tag)
deriving DecidableEq, Repr

def FormationError.message : FormationError → String
  | .arrayElement element =>
      "array element must be a concrete value type, got " ++ element.name
  | .noArrayAxis => "array type needs at least one dimension"
  | .arrayAxis axis dims element size =>
      "dimension " ++ toString axis ++ " of " ++ Dim.renderAll dims ++ element.name
        ++ " must be positive, got " ++ toString size
  | .comptimeArrayElement element =>
      "comptime array element must be comptime_int or comptime_float, got " ++ element.name
  | .noComptimeArrayAxis => "comptime array needs at least one dimension"
  | .comptimeArrayAxis axis size =>
      "dimension " ++ toString axis ++ " of comptime array must be positive, got "
        ++ toString size
  | .rangeElement element =>
      "range element must be a concrete numeric type, got " ++ element.name
  | .comptimeRangeElement element =>
      "comptime range element must be comptime_int or comptime_float, got " ++ element.name

/-- A concrete type that a variable can hold, so not `void`. -/
def isArrayElement (element : Tag) : Bool :=
  element.isConcrete && element != .void

def isRangeElement (element : Tag) : Bool :=
  element.isNumeric && !element.isComptime

/-- Form a concrete array type. The first axis at fault is named. -/
def array? (element : Tag) (dims : List Dim) : Except FormationError Ty :=
  if isArrayElement element then
    match Axes.ofList? dims with
    | none => .error .noArrayAxis
    | some axes =>
        match dims.findIdx? (!·.isAllowed) with
        | none => .ok (.array element axes)
        | some axis =>
            .error (.arrayAxis axis dims element ((dims[axis]?.map Dim.toInt).getD 0))
  else
    .error (.arrayElement element)

def comptimeArray? (element : Tag) (dims : List Int) : Except FormationError Ty :=
  if element.isComptime then
    match Axes.ofList? dims with
    | none => .error .noComptimeArrayAxis
    | some axes =>
        match dims.findIdx? (fun size => decide (size ≤ 0)) with
        | none => .ok (.comptimeArray element axes)
        | some axis => .error (.comptimeArrayAxis axis (dims[axis]?.getD 0))
  else
    .error (.comptimeArrayElement element)

def range? (element : Tag) (form : RangeForm) : Except FormationError Ty :=
  if isRangeElement element then .ok (.range element form) else .error (.rangeElement element)

def comptimeRange? (element : Tag) (form : RangeForm) : Except FormationError Ty :=
  if element.isComptime then .ok (.comptimeRange element form)
  else .error (.comptimeRangeElement element)

/-- The contract that the checked constructors establish. -/
def WellFormed : Ty → Prop
  | .scalar _ => True
  | .array element dims =>
      isArrayElement element = true ∧ ∀ dim ∈ dims.toList, dim.isAllowed = true
  | .comptimeArray element dims =>
      element.isComptime = true ∧ ∀ size ∈ dims.toList, 0 < size
  | .range element _ => isRangeElement element = true
  | .comptimeRange element _ => element.isComptime = true

instance (type : Ty) : Decidable type.WellFormed := by
  cases type <;> unfold WellFormed <;> infer_instance

section Constructors

variable {element : Tag} {form : RangeForm} {type : Ty}

theorem array?_eq_ok_iff {dims : List Dim} :
    array? element dims = .ok type ↔
      ∃ axes, axes.toList = dims ∧ (Ty.array element axes).WellFormed ∧
        Ty.array element axes = type := by
  constructor
  · intro formed
    unfold array? at formed
    repeat' split at formed
    all_goals cases formed
    next allowed _ axes found _ noFault =>
      have same := Axes.toList_of_ofList? found
      refine ⟨axes, same, ⟨allowed, ?_⟩, rfl⟩
      rw [same]
      simpa using noFault
  · rintro ⟨axes, rfl, ⟨allowed, each⟩, rfl⟩
    have noFault : axes.toList.findIdx? (!·.isAllowed) = none := by simpa using each
    simp only [array?, if_pos allowed, Axes.ofList?_toList, noFault]

theorem comptimeArray?_eq_ok_iff {dims : List Int} :
    comptimeArray? element dims = .ok type ↔
      ∃ axes, axes.toList = dims ∧ (Ty.comptimeArray element axes).WellFormed ∧
        Ty.comptimeArray element axes = type := by
  constructor
  · intro formed
    unfold comptimeArray? at formed
    repeat' split at formed
    all_goals cases formed
    next allowed _ axes found _ noFault =>
      have same := Axes.toList_of_ofList? found
      refine ⟨axes, same, ⟨allowed, ?_⟩, rfl⟩
      rw [same]
      simpa using noFault
  · rintro ⟨axes, rfl, ⟨allowed, each⟩, rfl⟩
    have noFault : axes.toList.findIdx? (fun size => decide (size ≤ 0)) = none := by
      simpa using each
    simp only [comptimeArray?, if_pos allowed, Axes.ofList?_toList, noFault]

theorem range?_eq_ok_iff :
    range? element form = .ok type ↔
      (Ty.range element form).WellFormed ∧ Ty.range element form = type := by
  unfold range?
  split
  · next allowed =>
      rw [Except.ok.injEq]
      exact (and_iff_right allowed).symm
  · next refused => exact iff_of_false nofun fun formed => refused formed.1

theorem comptimeRange?_eq_ok_iff :
    comptimeRange? element form = .ok type ↔
      (Ty.comptimeRange element form).WellFormed ∧ Ty.comptimeRange element form = type := by
  unfold comptimeRange?
  split
  · next allowed =>
      rw [Except.ok.injEq]
      exact (and_iff_right allowed).symm
  · next refused => exact iff_of_false nofun fun formed => refused formed.1

end Constructors

/-! ## Views -/

def isUnknown (type : Ty) : Bool :=
  type == .unknown

def isVoid (type : Ty) : Bool :=
  type == .void

def isComptime : Ty → Bool
  | .scalar tag => tag.isComptime
  | .array _ _ => false
  | .comptimeArray _ _ => true
  | .range _ _ => false
  | .comptimeRange _ _ => true

def scalarTag? : Ty → Option Tag
  | .scalar tag => some tag
  | _ => none

/-- The tag of a scalar, of the elements of an array or of the bounds of a range. -/
def elementTag : Ty → Tag
  | .scalar tag => tag
  | .array element _ => element
  | .comptimeArray element _ => element
  | .range element _ => element
  | .comptimeRange element _ => element

/-- The axes of an array type, comptime or concrete. -/
def dims? : Ty → Option (Axes Dim)
  | .array _ dims => some dims
  | .comptimeArray _ dims => some (dims.map Dim.ofInt)
  | _ => none

def isArray (type : Ty) : Bool :=
  type.dims?.isSome

/-- Element and form of a range type, comptime or concrete. -/
def rangeParts? : Ty → Option (Tag × RangeForm)
  | .range element form => some (element, form)
  | .comptimeRange element form => some (element, form)
  | _ => none

/-- What one step of indexing leaves: the row type, or the element scalar. -/
def row : Ty → Ty
  | .array element dims =>
      match dims.tail? with
      | none => .scalar element
      | some inner => .array element inner
  | .comptimeArray element dims =>
      match dims.tail? with
      | none => .scalar element
      | some inner => .comptimeArray element inner
  | _ => .unknown

/-- Equality of types. The form of a range does not count. -/
def equal : Ty → Ty → Bool
  | .range left _, .range right _ => left == right
  | .comptimeRange left _, .comptimeRange right _ => left == right
  | left, right => left == right

/-! ## Names -/

def render : Ty → String
  | .scalar tag => tag.name
  | .array element dims => Dim.renderAll dims.toList ++ element.name
  | .comptimeArray element dims =>
      String.join (dims.toList.map fun size => "[" ++ toString size ++ "]") ++ element.name
  | .range element _ => "range[" ++ element.name ++ "]"
  | .comptimeRange element _ => "range[" ++ element.name ++ "]"

end Ty

end ComptimeTyping
