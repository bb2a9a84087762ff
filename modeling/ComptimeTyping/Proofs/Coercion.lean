import Mathlib.Data.List.Forall2
import ComptimeTyping.Coercion.Basic

/-! Which types the coercion rules give: none that is unknown out of known ones, and
for a slot a type that the same value fills again without a change. -/

namespace ComptimeTyping

/-! ## Tags -/

namespace Tag

theorem isComptime_promote (left right : Tag) : (left.promote right).isComptime = true := by
  unfold promote
  split <;> rfl

theorem promote_ne_unknown (left right : Tag) : left.promote right ≠ .unknown := by
  unfold promote
  split <;> exact Tag.noConfusion

theorem ne_unknown_of_isNumeric {tag : Tag} (numeric : tag.isNumeric = true) :
    tag ≠ .unknown := by
  rintro rfl
  cases numeric

theorem ne_unknown_of_isComptime {tag : Tag} (comptime : tag.isComptime = true) :
    tag ≠ .unknown := by
  rintro rfl
  cases comptime

theorem resolve_ne_unknown {left right tag : Tag} {explicit : Bool}
    (leftKnown : left ≠ .unknown) (rightKnown : right ≠ .unknown)
    (resolved : left.resolve right explicit = .ok tag) : tag ≠ .unknown := by
  unfold resolve at resolved
  repeat' split at resolved
  all_goals cases resolved
  all_goals first | assumption | exact promote_ne_unknown _ _

theorem isNumeric_of_canAdapt {source target : Tag} (adapts : source.canAdapt target = true) :
    source.isNumeric = true ∧ target.isNumeric = true := by
  cases source <;> cases target <;> cases adapts <;> decide

theorem isNumeric_resolve {left right tag : Tag} {explicit : Bool}
    (leftNumeric : left.isNumeric = true) (rightNumeric : right.isNumeric = true)
    (resolved : left.resolve right explicit = .ok tag) : tag.isNumeric = true := by
  have promoted : (left.promote right).isNumeric = true := by
    unfold promote
    split <;> rfl
  unfold resolve at resolved
  repeat' split at resolved
  all_goals cases resolved
  all_goals assumption

/-- Two tags agree on a comptime tag only if both are comptime. -/
theorem isComptime_resolve {left right tag : Tag} {explicit : Bool}
    (resolved : left.resolve right explicit = .ok tag) :
    tag.isComptime = (left.isComptime && right.isComptime) := by
  unfold resolve at resolved
  repeat' split at resolved
  all_goals cases resolved
  all_goals simp_all [isComptime_promote]

end Tag

/-! ## Shapes -/

theorem Axes.eq_of_toList {α : Type} {left right : Axes α} (same : left.toList = right.toList) :
    left = right :=
  Option.some.inj (congrArg Axes.ofList? same)

/-- An axis admits another one if it leaves the length open or has the same. -/
def Dim.Admits (dim other : Dim) : Prop :=
  dim = .wildcard ∨ dim = other

namespace Shape

/-- A shape admits another one of the same rank, axis by axis. -/
abbrev Admits (outer inner : List Dim) : Prop :=
  List.Forall₂ Dim.Admits outer inner

theorem admits_refl (dims : List Dim) : Admits dims dims :=
  List.forall₂_same.mpr fun _ _ => .inr rfl

private theorem mismatchesFrom_eq_nil (first : Nat) {source target : List Dim}
    (sameRank : source.length = target.length) :
    mismatchesFrom first source target = [] ↔ List.Forall₂ Dim.Admits target source := by
  induction source generalizing first target with
  | nil =>
      cases target with
      | nil => simp [mismatchesFrom]
      | cons => cases sameRank
  | cons dim source induction =>
      cases target with
      | nil => cases sameRank
      | cons wanted target =>
          have sameRest : source.length = target.length := Nat.succ.inj sameRank
          rw [List.forall₂_cons, ← induction (first + 1) sameRest]
          cases wanted with
          | wildcard => simp [mismatchesFrom, Dim.Admits]
          | fixed size =>
              by_cases same : dim = .fixed size
              · simp [mismatchesFrom, Dim.Admits, same]
              · simp [mismatchesFrom, Dim.Admits, same, Ne.symm same]

/-- A shape fits exactly where the target admits it. -/
theorem checkConcrete_eq_none {source target : List Dim} :
    checkConcrete source target = none ↔ Admits target source := by
  by_cases sameRank : source.length = target.length
  · rw [Admits, ← mismatchesFrom_eq_nil 0 sameRank]
    simp only [checkConcrete, if_pos sameRank]
    cases mismatchesFrom 0 source target <;> simp
  · simp only [checkConcrete, if_neg sameRank, reduceCtorEq, false_iff]
    exact fun admits => sameRank admits.length_eq.symm

theorem checkConcrete_self (dims : List Dim) : checkConcrete dims dims = none :=
  checkConcrete_eq_none.mpr (admits_refl dims)

theorem check_self (sizes : List Int) : check sizes (sizes.map Dim.ofInt) = none := by
  rw [check_eq]
  exact checkConcrete_self _

private theorem zipWith_of_admits {source target : List Dim} (admits : Admits target source) :
    source.zipWith (fun source target => if target = .wildcard then source else target)
      target = source := by
  induction admits with
  | nil => rfl
  | cons head _ induction =>
      rw [List.zipWith_cons_cons, induction]
      rcases head with rfl | rfl
      · rfl
      · rw [ite_self]

/-- A source that fits keeps its own axes. -/
theorem fillWildcards_of_checkConcrete {source target : Axes Dim}
    (fits : checkConcrete source.toList target.toList = none) :
    Ty.fillWildcards source target = source :=
  Axes.eq_of_toList (zipWith_of_admits (checkConcrete_eq_none.mp fits))

end Shape

/-! ## Types -/

namespace Ty

/-- A known type that is comptime exactly if its element is. -/
structure Settled (type : Ty) : Prop where
  known : type.elementTag ≠ .unknown
  coherent : type.elementTag.isComptime = type.isComptime

/-- A known type with a representation at run time. -/
structure Concrete (type : Ty) : Prop extends type.Settled where
  notComptime : type.isComptime = false

theorem settled_scalar {tag : Tag} (known : tag ≠ .unknown) : (Ty.scalar tag).Settled :=
  ⟨known, rfl⟩

theorem concrete_scalar {tag : Tag} (known : tag ≠ .unknown)
    (notComptime : tag.isComptime = false) : (Ty.scalar tag).Concrete :=
  ⟨settled_scalar known, notComptime⟩

theorem concrete_array {element : Tag} (known : element ≠ .unknown)
    (notComptime : element.isComptime = false) (dims : Axes Dim) :
    (Ty.array element dims).Concrete :=
  ⟨⟨known, notComptime⟩, rfl⟩

theorem concrete_range {element : Tag} (known : element ≠ .unknown)
    (notComptime : element.isComptime = false) (form : RangeForm) :
    (Ty.range element form).Concrete :=
  ⟨⟨known, notComptime⟩, rfl⟩

theorem settled_comptimeArray {element : Tag} (comptime : element.isComptime = true)
    (dims : Axes Int) : (Ty.comptimeArray element dims).Settled :=
  ⟨Tag.ne_unknown_of_isComptime comptime, comptime⟩

theorem settled_comptimeRange {element : Tag} (comptime : element.isComptime = true)
    (form : RangeForm) : (Ty.comptimeRange element form).Settled :=
  ⟨Tag.ne_unknown_of_isComptime comptime, comptime⟩

/-- A known type that keeps the contract of its kind. -/
theorem WellFormed.settled {type : Ty} (formed : type.WellFormed)
    (known : ¬type.isUnknown = true) : type.Settled := by
  cases type with
  | scalar tag =>
      apply settled_scalar
      rintro rfl
      exact known rfl
  | array element dims =>
      have concrete := formed.1
      simp only [isArrayElement, Tag.isConcrete, Bool.and_eq_true, bne_iff_ne,
        Bool.not_eq_true'] at concrete
      exact ⟨concrete.1.1, concrete.1.2⟩
  | comptimeArray element dims => exact settled_comptimeArray formed.1 dims
  | range element form =>
      have numeric : isRangeElement element = true := formed
      simp only [isRangeElement, Bool.and_eq_true, Bool.not_eq_true'] at numeric
      exact ⟨Tag.ne_unknown_of_isNumeric numeric.1, numeric.2⟩
  | comptimeRange element form => exact settled_comptimeRange formed form

namespace Settled

theorem isUnknown {type : Ty} (settled : type.Settled) : type.isUnknown = false := by
  rw [Ty.isUnknown, beq_eq_false_iff_ne]
  rintro rfl
  exact settled.known rfl

theorem not_unknown {type : Ty} (settled : type.Settled) : ¬type.isUnknown = true :=
  Bool.not_eq_true _ ▸ settled.isUnknown

theorem neither_unknown {left right : Ty} (leftSettled : left.Settled)
    (rightSettled : right.Settled) : ¬(left.isUnknown || right.isUnknown) = true := by
  rw [leftSettled.isUnknown, rightSettled.isUnknown]
  exact Bool.false_ne_true

theorem concrete {type : Ty} (settled : type.Settled) (notComptime : type.isComptime = false) :
    type.Concrete :=
  ⟨settled, notComptime⟩

theorem row {type : Ty} (settled : type.Settled) (isArray : type.dims?.isSome = true) :
    type.row.Settled := by
  cases type with
  | array element dims =>
      unfold Ty.row
      dsimp only
      split
      · exact settled_scalar settled.known
      · exact (concrete_array settled.known settled.coherent _).toSettled
  | comptimeArray element dims =>
      unfold Ty.row
      dsimp only
      split
      · exact settled_scalar settled.known
      · exact settled_comptimeArray settled.coherent _
  | scalar tag => cases isArray
  | range element form => cases isArray
  | comptimeRange element form => cases isArray

end Settled

theorem Concrete.row {type : Ty} (concrete : type.Concrete)
    (isArray : type.dims?.isSome = true) : type.row.Concrete := by
  refine ⟨concrete.toSettled.row isArray, ?_⟩
  have notComptime : type.elementTag.isComptime = false :=
    concrete.coherent.trans concrete.notComptime
  cases type with
  | array element dims =>
      unfold Ty.row
      dsimp only
      split
      · exact notComptime
      · rfl
  | comptimeArray element dims => cases concrete.notComptime
  | scalar tag => cases isArray
  | range element form => cases isArray
  | comptimeRange element form => cases isArray

/-! ## Agreement -/

theorem exists_of_map_eq_ok {ε α β : Type} {transform : α → β} {result : Except ε α}
    {value : β} (mapped : result.map transform = .ok value) :
    ∃ source, result = .ok source ∧ transform source = value := by
  cases result with
  | error failure => cases mapped
  | ok source =>
      cases mapped
      exact ⟨source, rfl, rfl⟩

theorem exists_of_assignArray {source type : Ty} {element : Tag} {dims : Axes Dim}
    {explicit : Bool} (filled : assignArray source element dims explicit = .ok type) :
    ∃ axes, type = .array element axes := by
  unfold assignArray at filled
  dsimp only at filled
  repeat' split at filled
  all_goals cases filled
  all_goals exact ⟨_, rfl⟩

namespace Settled

variable {left right type : Ty} {explicit : Bool}

theorem resolveRanges (leftSettled : left.Settled) (rightSettled : right.Settled)
    (joined : left.resolveRanges right explicit = .ok type) : type.Settled := by
  have leftCoherent := leftSettled.coherent
  have rightCoherent := rightSettled.coherent
  unfold Ty.resolveRanges at joined
  split at joined
  case h_5 => cases joined
  all_goals
    rcases exists_of_map_eq_ok joined with ⟨tag, resolved, rfl⟩
    have known := Tag.resolve_ne_unknown leftSettled.known rightSettled.known resolved
    have comptime := Tag.isComptime_resolve resolved
    exact ⟨known, by simp_all [elementTag, isComptime]⟩

theorem resolve (leftSettled : left.Settled) (rightSettled : right.Settled)
    (joined : left.resolve right explicit = .ok type) : type.Settled := by
  unfold Ty.resolve at joined
  rw [leftSettled.isUnknown, rightSettled.isUnknown, Bool.or_false,
    if_neg Bool.false_ne_true] at joined
  split at joined
  · rcases exists_of_map_eq_ok joined with ⟨tag, resolved, rfl⟩
    exact settled_scalar
      (Tag.resolve_ne_unknown leftSettled.known rightSettled.known resolved)
  · unfold resolveComptimeArrays at joined
    split at joined
    · cases joined
    · cases joined
      exact settled_comptimeArray (Tag.isComptime_promote _ _) _
  · rcases exists_of_assignArray joined with ⟨axes, rfl⟩
    exact (concrete_array rightSettled.known rightSettled.coherent axes).toSettled
  · rcases exists_of_assignArray joined with ⟨axes, rfl⟩
    exact (concrete_array leftSettled.known leftSettled.coherent axes).toSettled
  · rcases exists_of_assignArray joined with ⟨axes, rfl⟩
    exact (concrete_array rightSettled.known rightSettled.coherent axes).toSettled
  · exact leftSettled.resolveRanges rightSettled joined

end Settled

/-! ## Slots -/

theorem eq_of_assignScalar {source target : Tag} {type : Ty} {explicit : Bool}
    (filled : assignScalar source target explicit = .ok type) : type = .scalar target := by
  unfold assignScalar at filled
  dsimp only at filled
  repeat' split at filled
  all_goals cases filled
  all_goals rfl

theorem exists_of_assignRange {source type : Ty} {element : Tag} {form : RangeForm}
    {explicit : Bool} (filled : assignRange source element form explicit = .ok type) :
    ∃ kept, type = .range element kept := by
  unfold assignRange at filled
  repeat' split at filled
  all_goals cases filled
  all_goals first | exact ⟨_, rfl⟩ | subst_vars; exact ⟨_, rfl⟩

/-- A slot that asks for a concrete type holds one. -/
theorem Concrete.assign {source target type : Ty} {explicit : Bool}
    (concrete : target.Concrete) (filled : source.assign target explicit = .ok type) :
    type.Concrete := by
  have notComptime : target.elementTag.isComptime = false :=
    concrete.coherent.trans concrete.notComptime
  unfold Ty.assign at filled
  split at filled
  · cases filled
    exact concrete
  · split at filled
    · split at filled
      · rw [eq_of_assignScalar filled]
        exact concrete
      · cases filled
    · rcases exists_of_assignArray filled with ⟨axes, rfl⟩
      exact concrete_array concrete.known notComptime axes
    · cases concrete.notComptime
    · rcases exists_of_assignRange filled with ⟨kept, rfl⟩
      exact concrete_range concrete.known notComptime kept
    · cases concrete.notComptime

theorem Concrete.convert {source target type : Ty} (concrete : target.Concrete)
    (converted : source.convert target = .ok type) : type.Concrete := by
  unfold Ty.convert at converted
  repeat' split at converted
  all_goals first
    | cases converted
      exact concrete
    | exact concrete.assign converted
    | cases converted

/-! ## Filling a slot once more

What a slot holds is a type that the same value fills exactly: an array keeps its own
axes and a range its own form, whatever the slot leaves open. -/

private theorem assignArray_again {source type : Ty} {element : Tag} {dims : Axes Dim}
    (filled : assignArray source element dims false = .ok type) :
    ∃ axes, type = .array element axes ∧
      assignArray source element axes false = .ok type := by
  unfold assignArray at filled
  dsimp only at filled
  split at filled
  · next sourceElement sourceDims =>
      split at filled
      · cases filled
      · split at filled
        · next adapts =>
            cases filled
            refine ⟨_, rfl, ?_⟩
            have fits : Shape.check sourceDims.toList (sourceDims.map Dim.ofInt).toList
                = none := by
              rw [Axes.toList_map]
              exact Shape.check_self _
            simp only [assignArray, fits, adapts, if_true]
        · cases filled
  · next sourceElement sourceDims =>
      split at filled
      · cases filled
      · next fits =>
          split at filled
          · next same =>
              rw [Shape.fillWildcards_of_checkConcrete fits] at filled
              cases filled
              refine ⟨_, rfl, ?_⟩
              have fitsItself := Shape.checkConcrete_self sourceDims.toList
              have kept := Shape.fillWildcards_of_checkConcrete fitsItself
              simp only [assignArray, fitsItself, same, if_true, kept]
          · cases filled
  · cases filled

private theorem assignRange_again {source type : Ty} {element : Tag} {form : RangeForm}
    (filled : assignRange source element form false = .ok type) :
    ∃ kept, type = .range element kept ∧
      assignRange source element kept false = .ok type := by
  unfold assignRange at filled
  split at filled
  · split at filled
    · next adapts =>
        cases filled
        exact ⟨_, rfl, by simp only [assignRange, adapts, if_true]⟩
    · split at filled
      · cases filled
      · cases filled
  · split at filled
    · next same =>
        cases filled
        subst same
        exact ⟨_, rfl, by simp only [assignRange, if_true]⟩
    · split at filled
      · cases filled
      · cases filled
  · cases filled

theorem assign_again {source target type : Ty} (notComptime : target.isComptime = false)
    (filled : source.assign target false = .ok type) :
    source.assign type false = .ok type := by
  have whole := filled
  unfold assign at filled
  split at filled
  · cases filled
    exact whole
  · next known =>
      rw [Bool.not_eq_true, Bool.or_eq_false_iff] at known
      split at filled
      · split at filled
        · rw [eq_of_assignScalar filled] at whole ⊢
          exact whole
        · cases filled
      · next element dims =>
          rcases assignArray_again filled with ⟨axes, rfl, again⟩
          have notUnknown : (array element axes).isUnknown = false := by simp [isUnknown]
          simpa [assign, known.1, notUnknown] using again
      · cases notComptime
      · next element form =>
          rcases assignRange_again filled with ⟨kept, rfl, again⟩
          have notUnknown : (range element kept).isUnknown = false := by simp [isUnknown]
          simpa [assign, known.1, notUnknown] using again
      · cases notComptime

/-- A slot of concrete type that the source fills without any change. -/
structure Fills (source slot : Ty) : Prop where
  concrete : slot.Concrete
  exact : source.assign slot false = .ok slot

namespace Fills

variable {source slot : Ty}

/-- Only a comptime value changes its type on the way into a slot, and an array keeps its
axes even then. -/
theorem eq_or_comptime (fills : source.Fills slot) (settled : source.Settled) :
    slot = source ∨ source.isComptime = true ∧ slot.dims? = source.dims? := by
  have filled := fills.exact
  have notComptime := fills.concrete.notComptime
  unfold assign at filled
  rw [settled.isUnknown, fills.concrete.isUnknown, Bool.or_false,
    if_neg Bool.false_ne_true] at filled
  split at filled
  · split at filled
    · next tag sourceTag =>
        simp only [assignScalar, Bool.false_and, Bool.false_eq_true, if_false] at filled
        split at filled
        · next same => exact .inl (by rw [same])
        · split at filled
          · cases filled
          · split at filled
            · next comptime => exact .inr ⟨comptime, rfl⟩
            · cases filled
    · cases filled
  · unfold assignArray at filled
    dsimp only at filled
    split at filled
    · split at filled
      · cases filled
      · split at filled
        · cases filled
          exact .inr ⟨rfl, rfl⟩
        · cases filled
    · split at filled
      · cases filled
      · next fits =>
          rw [Shape.fillWildcards_of_checkConcrete fits] at filled
          split at filled
          · next same =>
              rcases same with rfl | ⟨⟨⟩, _⟩
              exact .inl (Except.ok.inj filled).symm
          · cases filled
    · cases filled
  · cases notComptime
  · unfold assignRange at filled
    split at filled
    · exact .inr ⟨rfl, rfl⟩
    · split at filled
      · exact .inl (Except.ok.inj filled).symm
      · split at filled
        · cases filled
        · cases filled
    · cases filled
  · cases notComptime

theorem eq_source (fills : source.Fills slot) (settled : source.Settled)
    (notComptime : source.isComptime = false) : slot = source := by
  rcases fills.eq_or_comptime settled with same | ⟨comptime, _⟩
  · exact same
  · exact absurd notComptime (ne_false_of_eq_true comptime)

theorem dims?_eq (fills : source.Fills slot) (settled : source.Settled) :
    slot.dims? = source.dims? := by
  rcases fills.eq_or_comptime settled with same | ⟨_, dims⟩
  · rw [same]
  · exact dims

end Fills

end Ty

end ComptimeTyping
