import Mathlib.Logic.Function.Basic
import ComptimeTyping.Ty.Basic
import ComptimeTyping.Proofs.Marks

/-! The name of a type tells the type. A name is read from the left: brackets give the axes, and
what stands behind the last of them gives the element and whether the type is a range of it. A
comptime element occurs in comptime types alone, so it gives the rest. Two types are equal
exactly when they are read alike. -/

namespace ComptimeTyping

/-! ## Names of tags -/

namespace Tag

theorem ofName?_name (tag : Tag) : ofName? tag.name = some tag := by
  cases tag <;> decide

theorem name_inj {left right : Tag} : left.name = right.name ↔ left = right := by
  constructor
  · intro same
    have found := ofName?_name left
    rw [same, ofName?_name right] at found
    exact (Option.some.inj found).symm
  · exact congrArg name

theorem bracket_not_mem_name (tag : Tag) : '[' ∉ tag.name.toList := by
  cases tag <;> decide

end Tag

/-! ## Names of axes -/

namespace Dim

theorem render_inj {left right : Dim} : left.render = right.render ↔ left = right := by
  have notNumber (size : Int) : "_" ≠ toString size := by
    intro same
    have absent : '_' ∉ (toString size).toList :=
      Text.not_mem_toString_int (by decide) (by decide) size
    rw [← same] at absent
    exact absent (List.mem_singleton_self '_')
  cases left with
  | wildcard =>
      cases right with
      | wildcard => simp only
      | fixed size => simp only [render, notNumber, reduceCtorEq]
  | fixed size =>
      cases right with
      | wildcard => simp only [render, (notNumber size).symm, reduceCtorEq]
      | fixed other => simp only [render, Text.toString_int_inj, fixed.injEq]

theorem bracket_not_mem_render (dim : Dim) : ']' ∉ dim.render.toList := by
  cases dim with
  | wildcard => decide
  | fixed size => exact Text.not_mem_toString_int (by decide) (by decide) size

theorem toList_renderAll_cons (dim : Dim) (dims : List Dim) :
    (renderAll (dim :: dims)).toList =
      '[' :: (dim.render.toList ++ ']' :: (renderAll dims).toList) := by
  simp [renderAll]

theorem head?_renderAll_cons (dim : Dim) (dims : List Dim) (ending : String) :
    (renderAll (dim :: dims) ++ ending).toList.head? = some '[' := by
  rw [String.toList_append, toList_renderAll_cons]
  rfl

theorem renderAll_nil (ending : String) : renderAll [] ++ ending = ending :=
  String.empty_append

theorem render_ofInt {size : Int} (positive : 0 < size) : (ofInt size).render = toString size := by
  unfold ofInt
  rw [if_neg (by omega)]
  rfl

/-- Axes in front of something that opens no bracket are read off together with it. -/
theorem renderAll_append_inj {left right : List Dim} {leftEnd rightEnd : String}
    (leftPlain : leftEnd.toList.head? ≠ some '[')
    (rightPlain : rightEnd.toList.head? ≠ some '[') :
    renderAll left ++ leftEnd = renderAll right ++ rightEnd ↔
      left = right ∧ leftEnd = rightEnd := by
  induction left generalizing right with
  | nil =>
      cases right with
      | nil => simp only [renderAll_nil, true_and]
      | cons dim dims =>
          refine iff_of_false (fun same => leftPlain ?_) nofun
          rw [← renderAll_nil leftEnd, same, head?_renderAll_cons]
  | cons dim dims induction =>
      cases right with
      | nil =>
          refine iff_of_false (fun same => rightPlain ?_) nofun
          rw [← renderAll_nil rightEnd, ← same, head?_renderAll_cons]
      | cons other others =>
          simp only [← String.toList_inj, String.toList_append, toList_renderAll_cons,
            List.cons_append, List.append_assoc, List.cons.injEq, true_and] at induction ⊢
          rw [Text.append_mark_inj dim.bracket_not_mem_render other.bracket_not_mem_render,
            induction, String.toList_inj, render_inj, and_assoc]

end Dim

/-! ## Contracts -/

namespace Ty

/-- What the checked constructors give. -/
inductive Constructed : Ty → Prop
  | scalar (tag : Tag) : Constructed (.scalar tag)
  | array {element : Tag} {dims : List Dim} {type : Ty}
      (checked : array? element dims = .ok type) : Constructed type
  | comptimeArray {element : Tag} {dims : List Int} {type : Ty}
      (checked : comptimeArray? element dims = .ok type) : Constructed type
  | range {element : Tag} {form : RangeForm} {type : Ty}
      (checked : range? element form = .ok type) : Constructed type
  | comptimeRange {element : Tag} {form : RangeForm} {type : Ty}
      (checked : comptimeRange? element form = .ok type) : Constructed type

theorem Constructed.wellFormed {type : Ty} (constructed : type.Constructed) :
    type.WellFormed := by
  cases constructed with
  | scalar tag => trivial
  | array checked =>
      rcases array?_eq_ok_iff.mp checked with ⟨axes, _, formed, rfl⟩
      exact formed
  | comptimeArray checked =>
      rcases comptimeArray?_eq_ok_iff.mp checked with ⟨axes, _, formed, rfl⟩
      exact formed
  | range checked =>
      rcases range?_eq_ok_iff.mp checked with ⟨formed, rfl⟩
      exact formed
  | comptimeRange checked =>
      rcases comptimeRange?_eq_ok_iff.mp checked with ⟨formed, rfl⟩
      exact formed

theorem WellFormed.constructed {type : Ty} (formed : type.WellFormed) : type.Constructed := by
  cases type with
  | scalar tag => exact .scalar tag
  | array element dims => exact .array (array?_eq_ok_iff.mpr ⟨dims, rfl, formed, rfl⟩)
  | comptimeArray element dims =>
      exact .comptimeArray (comptimeArray?_eq_ok_iff.mpr ⟨dims, rfl, formed, rfl⟩)
  | range element form => exact .range (range?_eq_ok_iff.mpr ⟨formed, rfl⟩)
  | comptimeRange element form =>
      exact .comptimeRange (comptimeRange?_eq_ok_iff.mpr ⟨formed, rfl⟩)

/-- A type keeps the contract of its kind exactly when a checked constructor gives it. -/
theorem constructed_iff_wellFormed {type : Ty} : type.Constructed ↔ type.WellFormed :=
  ⟨Constructed.wellFormed, WellFormed.constructed⟩

/-! ## Equal types -/

/-- Forget the form of a range. -/
def bare : Ty → Ty
  | .range element _ => .range element .bare
  | .comptimeRange element _ => .comptimeRange element .bare
  | type => type

variable {left right type : Ty}

theorem equal_iff_bare : left.equal right = true ↔ left.bare = right.bare := by
  cases left <;> cases right <;> simp [equal, bare]

/-- Two types are equal exactly when one map takes them to the same type. -/
theorem equivalence_equal : Equivalence fun left right : Ty => left.equal right = true := by
  simp only [equal_iff_bare]
  exact eq_equivalence.comap bare

/-! ## Reading a name -/

def axisList (type : Ty) : List Dim :=
  type.dims?.elim [] Axes.toList

def isRange (type : Ty) : Bool :=
  type.rangeParts?.isSome

/-- What stands behind the axes. -/
def ending (isRange : Bool) (element : Tag) : String :=
  if isRange then "range[" ++ element.name ++ "]" else element.name

/-- The type that is read from its axes, its element and whether it is a range. -/
def ofParts (dims : List Dim) (isRange : Bool) (element : Tag) : Ty :=
  match Axes.ofList? dims with
  | some axes =>
      if element.isComptime then .comptimeArray element (axes.map Dim.toInt)
      else .array element axes
  | none =>
      match isRange, element.isComptime with
      | false, _ => .scalar element
      | true, false => .range element .bare
      | true, true => .comptimeRange element .bare

theorem ofList?_axisList (type : Ty) : Axes.ofList? type.axisList = type.dims? := by
  unfold axisList
  cases type.dims? with
  | none => rfl
  | some axes => exact axes.ofList?_toList

theorem ofParts_parts (formed : type.WellFormed) :
    ofParts type.axisList type.isRange type.elementTag = type.bare := by
  unfold ofParts
  rw [ofList?_axisList]
  cases type with
  | scalar tag => rfl
  | array element dims =>
      have concrete : element.isComptime = false := by
        have allowed := formed.1
        simp only [isArrayElement, Tag.isConcrete, Bool.and_eq_true, Bool.not_eq_true'] at allowed
        exact allowed.1.2
      simp only [dims?, elementTag, concrete, bare, Bool.false_eq_true, if_false]
  | comptimeArray element dims =>
      have comptime : element.isComptime = true := formed.1
      have sizes : (dims.map Dim.ofInt).map Dim.toInt = dims := by
        have back : Dim.toInt ∘ Dim.ofInt = id := funext Dim.toInt_ofInt
        simp [Axes.map, back]
      simp only [dims?, elementTag, comptime, if_true, sizes, bare]
  | range element form =>
      have concrete : element.isComptime = false := by
        have allowed : isRangeElement element = true := formed
        simp only [isRangeElement, Bool.and_eq_true, Bool.not_eq_true'] at allowed
        exact allowed.2
      simp only [dims?, isRange, rangeParts?, elementTag, concrete, bare, Option.isSome_some]
  | comptimeRange element form =>
      have comptime : element.isComptime = true := formed
      simp only [dims?, isRange, rangeParts?, elementTag, comptime, bare, Option.isSome_some]

theorem axisList_bare : type.bare.axisList = type.axisList := by
  cases type <;> rfl

theorem isRange_bare : type.bare.isRange = type.isRange := by
  cases type <;> rfl

theorem elementTag_bare : type.bare.elementTag = type.elementTag := by
  cases type <;> rfl

/-- Equal types have equal parts, and the parts of a type give it back. -/
theorem equal_iff_parts (leftFormed : left.WellFormed) (rightFormed : right.WellFormed) :
    left.equal right = true ↔
      left.axisList = right.axisList ∧ left.isRange = right.isRange ∧
        left.elementTag = right.elementTag := by
  rw [equal_iff_bare]
  constructor
  · intro same
    rw [← axisList_bare, ← isRange_bare, ← elementTag_bare, same, axisList_bare, isRange_bare,
      elementTag_bare]
    exact ⟨rfl, rfl, rfl⟩
  · rintro ⟨axes, range, element⟩
    rw [← ofParts_parts leftFormed, ← ofParts_parts rightFormed, axes, range, element]

theorem head?_ending (isRange : Bool) (element : Tag) :
    (ending isRange element).toList.head? ≠ some '[' := by
  cases isRange with
  | false =>
      intro opens
      exact element.bracket_not_mem_name (List.mem_of_head? opens)
  | true =>
      unfold ending
      simp

theorem ending_inj {leftRange rightRange : Bool} {leftElement rightElement : Tag} :
    ending leftRange leftElement = ending rightRange rightElement ↔
      leftRange = rightRange ∧ leftElement = rightElement := by
  have notName (tag element : Tag) : tag.name ≠ "range[" ++ element.name ++ "]" := by
    intro same
    refine tag.bracket_not_mem_name ?_
    rw [same]
    simp
  cases leftRange with
  | false =>
      cases rightRange with
      | false => simp [ending, Tag.name_inj]
      | true => simp [ending, notName]
  | true =>
      cases rightRange with
      | false => simp [ending, (notName _ _).symm]
      | true => simp [ending, Tag.name_inj]

theorem render_eq_parts (formed : type.WellFormed) :
    type.render = Dim.renderAll type.axisList ++ ending type.isRange type.elementTag := by
  cases type with
  | scalar tag => exact (Dim.renderAll_nil tag.name).symm
  | array element dims => rfl
  | comptimeArray element dims =>
      have written : dims.toList.map (fun size => "[" ++ toString size ++ "]") =
          (dims.toList.map Dim.ofInt).map (fun dim => "[" ++ dim.render ++ "]") := by
        rw [List.map_map]
        refine List.map_congr_left fun size member => ?_
        rw [Function.comp_apply, Dim.render_ofInt (formed.2 size member)]
      rw [render, written]
      rfl
  | range element form | comptimeRange element form =>
      exact (Dim.renderAll_nil ("range[" ++ element.name ++ "]")).symm

/-! ## Names tell types -/

/-- Types that keep the contracts of their kinds are equal exactly when they have the same name,
and equality of types is an equivalence. -/
theorem equal_iff_same_name :
    (∀ left right : Ty, left.WellFormed → right.WellFormed →
      (left.equal right = true ↔ left.render = right.render)) ∧
    Equivalence fun left right : Ty => left.equal right = true := by
  refine ⟨fun left right leftFormed rightFormed => ?_, equivalence_equal⟩
  rw [equal_iff_parts leftFormed rightFormed, render_eq_parts leftFormed,
    render_eq_parts rightFormed,
    Dim.renderAll_append_inj (head?_ending _ _) (head?_ending _ _), ending_inj]

/-- Two forms of `range[i32]`, and `[_][3]f64` beside `[2][3]f64` and a literal of 2 by 3
numbers. -/
theorem equal_iff_same_name_sample :
    let openArray := Ty.array .f64 ⟨.wildcard, [.fixed 3]⟩
    let fixedArray := Ty.array .f64 ⟨.fixed 2, [.fixed 3]⟩
    let literal := Ty.comptimeArray .comptimeFloat ⟨2, [3]⟩
    (Ty.range .i32 ⟨true, false, false, false⟩).render = (Ty.range .i32 .bare).render ∧
      array? .f64 [.wildcard, .fixed 3] = .ok openArray ∧
      array? .f64 [.fixed 2, .fixed 3] = .ok fixedArray ∧
      comptimeArray? .comptimeFloat [2, 3] = .ok literal ∧
      openArray.render ≠ fixedArray.render ∧ fixedArray.render ≠ literal.render := by
  intro openArray fixedArray literal
  have openMade : array? .f64 [.wildcard, .fixed 3] = .ok openArray := rfl
  have fixedMade : array? .f64 [.fixed 2, .fixed 3] = .ok fixedArray := rfl
  have literalMade : comptimeArray? .comptimeFloat [2, 3] = .ok literal := rfl
  have openFormed := constructed_iff_wellFormed.mp (.array openMade)
  have fixedFormed := constructed_iff_wellFormed.mp (.array fixedMade)
  have literalFormed := constructed_iff_wellFormed.mp (.comptimeArray literalMade)
  have named := equal_iff_same_name.1
  refine ⟨(named _ _ (by decide) (by decide)).mp rfl, openMade, fixedMade, literalMade,
    fun same => ?_, fun same => ?_⟩
  · exact absurd ((named _ _ openFormed fixedFormed).mpr same) (by decide)
  · exact absurd ((named _ _ fixedFormed literalFormed).mpr same) (by decide)

/-- Without the contract two types can share a name. -/
example : (Ty.array .i32 ⟨.fixed 3, []⟩).render = (Ty.comptimeArray .i32 ⟨3, []⟩).render ∧
    (Ty.array .i32 ⟨.fixed 3, []⟩).equal (.comptimeArray .i32 ⟨3, []⟩) = false := by
  decide

end Ty

end ComptimeTyping
