import ComptimeTyping.Proofs.Literals
import ComptimeTyping.Proofs.Typing

/-! What branches are joined to. The joint is an upper bound of the branches in everything but
the lengths of arrays: where one branch leaves the length of an axis open and another one does
not, the joint may have that length, which the first branch does not have before run time. -/

namespace ComptimeTyping

open Analysis

/-! ## Tags -/

namespace Tag

/-- A value of one tag may stand where the other tag is expected. -/
def Adapts (source target : Tag) : Prop :=
  source.resolve target false = .ok target

instance (source target : Tag) : Decidable (source.Adapts target) :=
  inferInstanceAs (Decidable (_ = _))

theorem adapts_iff {source target : Tag} :
    source.Adapts target ↔ source = target ∨ source.canAdapt target = true ∨
      source = .comptimeInt ∧ target = .comptimeFloat := by
  cases source <;> cases target <;> decide

theorem isComptime_of_canAdapt {source target : Tag} (adapts : source.canAdapt target = true) :
    target.isComptime = false := by
  cases source <;> cases target <;> first | rfl | cases adapts

namespace Adapts

variable {source middle target : Tag}

theorem refl (tag : Tag) : tag.Adapts tag :=
  adapts_iff.mpr (.inl rfl)

theorem of_canAdapt (adapts : source.canAdapt target = true) : source.Adapts target :=
  adapts_iff.mpr (.inr (.inl adapts))

theorem canAdapt (adapts : source.Adapts target) (comptime : source.isComptime = true)
    (concrete : target.isComptime = false) : source.canAdapt target = true := by
  rcases adapts_iff.mp adapts with rfl | adapts | ⟨rfl, rfl⟩
  · rw [comptime] at concrete
    cases concrete
  · exact adapts
  · cases concrete

theorem promote_eq (adapts : source.Adapts target) (comptime : source.isComptime = true)
    (targetComptime : target.isComptime = true) : source.promote target = target := by
  cases source <;> cases comptime <;> cases target <;> cases targetComptime <;> first
    | rfl
    | cases adapts

/-- A concrete tag stands only for itself. -/
theorem eq_of_concrete (adapts : source.Adapts target) (concrete : source.isComptime = false) :
    target = source :=
  (Literals.eq_of_resolve adapts).1 concrete

theorem trans (first : source.Adapts middle) (second : middle.Adapts target) :
    source.Adapts target := by
  rcases adapts_iff.mp first with rfl | adapts | ⟨rfl, rfl⟩
  · exact second
  · exact second.eq_of_concrete (isComptime_of_canAdapt adapts) ▸ first
  · rcases adapts_iff.mp second with rfl | adapts | ⟨_, rfl⟩
    · exact first
    · -- What takes a float literal takes an integer literal as well.
      cases target <;> cases adapts <;> decide
    · exact first

end Adapts

/-- Both of two tags that agree may stand for what they agree on. -/
theorem adapts_of_resolve {left right tag : Tag}
    (resolved : left.resolve right false = .ok tag) : left.Adapts tag ∧ right.Adapts tag := by
  cases left <;> cases right <;> cases resolved <;> decide

theorem adapts_promote {left right : Tag} (leftComptime : left.isComptime = true)
    (rightComptime : right.isComptime = true) :
    left.Adapts (left.promote right) ∧ right.Adapts (left.promote right) := by
  cases left <;> cases leftComptime <;> cases right <;> cases rightComptime <;> decide

end Tag

/-! ## Shapes -/

namespace Shape

variable {outer middle inner : List Dim}

theorem admits_trans (first : Admits outer middle) (second : Admits middle inner) :
    Admits outer inner := by
  induction first generalizing inner with
  | nil => exact second
  | cons head _ induction =>
      cases second with
      | cons next rest =>
          apply List.Forall₂.cons _ (induction rest)
          rcases head with isOpen | rfl
          · exact .inl isOpen
          · exact next

/-- An axis that is open stays so in what admits it. -/
theorem open_of_admits (admits : Admits outer inner) {axis : Nat}
    (isOpen : inner[axis]? = some .wildcard) : outer[axis]? = some .wildcard := by
  induction admits generalizing axis with
  | nil => cases isOpen
  | cons head _ induction =>
      cases axis with
      | zero =>
          obtain rfl : _ = Dim.wildcard := Option.some.inj isOpen
          rcases head with rfl | rfl <;> rfl
      | succ axis => exact induction isOpen

/-- Two shapes of which one admits the other are the same if nothing is open in one only. -/
theorem eq_iff_of_admits (admits : Admits outer inner) :
    outer = inner ↔
      ∀ axis : Nat, outer[axis]? = some .wildcard → inner[axis]? = some .wildcard := by
  constructor
  · rintro rfl _ isOpen
    exact isOpen
  · intro stays
    induction admits with
    | nil => rfl
    | cons head _ induction =>
        have tail := induction fun axis => stays (axis + 1)
        rcases head with rfl | rfl
        · have sameHead := Option.some.inj (stays 0 rfl)
          rw [sameHead, tail]
        · rw [tail]

end Shape

/-! ## Upper bounds -/

namespace Ty

/-- The axes of an array. What is not an array has none. -/
def axes (type : Ty) : List Dim :=
  type.dims?.elim [] Axes.toList

/-- A type is below another one if it differs from it at most in an element that adapts and in
axes that it leaves open. -/
structure Below (type joint : Ty) : Prop where
  element : type.elementTag.Adapts joint.elementTag
  axes : Shape.Admits type.axes joint.axes
  range : type.rangeParts?.isSome = joint.rangeParts?.isSome

/-- The joint of two types bounds them both and has the axes of the first one. -/
structure Joins (first second joint : Ty) : Prop where
  left : first.Below joint
  right : second.Below joint
  axes : joint.axes = first.axes

namespace Below

theorem refl (type : Ty) : type.Below type :=
  ⟨.refl _, Shape.admits_refl _, rfl⟩

theorem trans {type middle joint : Ty} (first : type.Below middle)
    (second : middle.Below joint) : type.Below joint :=
  ⟨first.element.trans second.element, Shape.admits_trans first.axes second.axes,
    first.range.trans second.range⟩

/-- A concrete type does not turn into a comptime one. -/
theorem concrete {type joint : Ty} (below : type.Below joint) (settled : type.Settled)
    (jointSettled : joint.Settled) (concrete : type.isComptime = false) :
    joint.isComptime = false := by
  rw [← settled.coherent] at concrete
  rw [← jointSettled.coherent, below.element.eq_of_concrete concrete, concrete]

end Below

variable {left right type : Ty}

/-- An array that fits another one gives the joint its shape. -/
theorem joins_assignArray {source : Ty} {element : Tag} {dims : Axes Dim}
    (filled : source.assignArray element dims false = .ok type) :
    source.Joins (.array element dims) type := by
  simp only [assignArray, Shape.check_eq, Bool.false_and, Bool.or_false, Bool.false_eq_true,
    false_and, or_false] at filled
  split at filled
  · next sourceElement sourceDims =>
      split at filled
      · cases filled
      · next fits =>
          split at filled
          · next adapts =>
              cases filled
              exact ⟨⟨.of_canAdapt adapts, Shape.admits_refl _, rfl⟩,
                ⟨.refl _, Shape.checkConcrete_eq_none.mp fits, rfl⟩, rfl⟩
          · cases filled
  · next sourceElement sourceDims =>
      split at filled
      · cases filled
      · next fits =>
          rw [Shape.fillWildcards_of_checkConcrete fits] at filled
          split at filled
          · next same =>
              cases filled
              subst same
              exact ⟨.refl _, ⟨.refl _, Shape.checkConcrete_eq_none.mp fits, rfl⟩, rfl⟩
          · cases filled
  · cases filled

theorem joins_resolveComptimeArrays {leftElement rightElement : Tag} {leftDims rightDims : Axes Int}
    (leftComptime : leftElement.isComptime = true) (rightComptime : rightElement.isComptime = true)
    (resolved : resolveComptimeArrays leftElement leftDims rightElement rightDims = .ok type) :
    (Ty.comptimeArray leftElement leftDims).Joins (.comptimeArray rightElement rightDims) type := by
  simp only [resolveComptimeArrays, Shape.check_eq] at resolved
  split at resolved
  · cases resolved
  · next fits =>
      cases resolved
      rcases Tag.adapts_promote leftComptime rightComptime with ⟨leftAdapts, rightAdapts⟩
      exact ⟨⟨leftAdapts, Shape.admits_refl _, rfl⟩,
        ⟨rightAdapts, Shape.checkConcrete_eq_none.mp fits, rfl⟩, rfl⟩

theorem joins_resolveRanges (resolved : left.resolveRanges right false = .ok type) :
    left.Joins right type := by
  simp only [resolveRanges] at resolved
  split at resolved
  case h_5 => cases resolved
  all_goals
    rcases exists_of_map_eq_ok resolved with ⟨tag, agreed, rfl⟩
    rcases Tag.adapts_of_resolve agreed with ⟨leftAdapts, rightAdapts⟩
    exact ⟨⟨leftAdapts, .nil, rfl⟩, ⟨rightAdapts, .nil, rfl⟩, rfl⟩

/-- Types that agree without a marker agree on a joint. It has the axes of the left type, except
where the right type is the only array literal. -/
theorem joins_resolve (leftSettled : left.Settled) (rightSettled : right.Settled)
    (resolved : left.resolve right false = .ok type) :
    left.Joins right type ∨
      right.Joins left type ∧ left.isComptime = false ∧ right.isComptime = true := by
  simp only [resolve, leftSettled.isUnknown, rightSettled.isUnknown, Bool.or_false,
    Bool.false_eq_true, if_false] at resolved
  split at resolved
  · rcases exists_of_map_eq_ok resolved with ⟨tag, agreed, rfl⟩
    rcases Tag.adapts_of_resolve agreed with ⟨leftAdapts, rightAdapts⟩
    exact .inl ⟨⟨leftAdapts, .nil, rfl⟩, ⟨rightAdapts, .nil, rfl⟩, rfl⟩
  · exact .inl (joins_resolveComptimeArrays leftSettled.coherent rightSettled.coherent resolved)
  · exact .inl (joins_assignArray resolved)
  · exact .inr ⟨joins_assignArray resolved, rfl, rfl⟩
  · exact .inl (joins_assignArray resolved)
  · exact .inl (joins_resolveRanges resolved)

/-! ## Standing for a joint -/

/-- A value of the type may stand where the joint is expected, which does not change by it. -/
def StandsFor (type joint : Ty) : Prop :=
  ∃ agreed, type.resolve joint false = .ok agreed ∧ agreed.equal joint = true

/-- What the type leaves open the other type leaves open as well. -/
def StaysOpen (type other : Ty) : Prop :=
  ∀ axis : Nat, type.axes[axis]? = some .wildcard → other.axes[axis]? = some .wildcard

theorem equal_refl (type : Ty) : type.equal type = true := by
  cases type <;> simp [equal]

theorem axes_eq_of_equal (equal : left.equal right = true) : left.axes = right.axes := by
  cases left <;> cases right <;> simp_all [Ty.equal, axes, dims?]

/-- What a type below the joint agrees on with it has the axes of that type. -/
theorem axes_resolve (leftSettled : left.Settled) (rightSettled : right.Settled)
    (below : left.Below right) (resolved : left.resolve right false = .ok type) :
    type.axes = left.axes := by
  rcases joins_resolve leftSettled rightSettled resolved with joins | ⟨_, concrete, comptime⟩
  · exact joins.axes
  · rw [below.concrete leftSettled rightSettled concrete] at comptime
    cases comptime

/-- An array of the same shape fills the slot exactly. -/
theorem assignArray_of_axes {source : Ty} {element : Tag} {dims : Axes Dim}
    (settled : source.Settled) (concrete : element.isComptime = false)
    (adapts : source.elementTag.Adapts element) (same : source.axes = dims.toList) :
    source.assignArray element dims false = .ok (.array element dims) := by
  cases source with
  | array other axes =>
      obtain rfl : axes = dims := Axes.eq_of_toList same
      obtain rfl : element = other := adapts.eq_of_concrete settled.coherent
      have fits := Shape.checkConcrete_self axes.toList
      simp [assignArray, fits, Shape.fillWildcards_of_checkConcrete fits]
  | comptimeArray other axes =>
      obtain rfl : axes.map Dim.ofInt = dims := Axes.eq_of_toList same
      have fits : Shape.check axes.toList (axes.toList.map Dim.ofInt) = none :=
        Shape.check_self _
      have fillable : other.canAdapt element = true := adapts.canAdapt settled.coherent concrete
      simp [assignArray, fits, fillable]
  | scalar | range | comptimeRange => cases same

theorem resolveComptimeArrays_of_axes {element other : Tag} {dims others : Axes Int}
    (comptime : element.isComptime = true) (otherComptime : other.isComptime = true)
    (adapts : element.Adapts other)
    (same : (Ty.comptimeArray element dims).axes = (Ty.comptimeArray other others).axes) :
    resolveComptimeArrays element dims other others = .ok (.comptimeArray other others) := by
  have sameSizes : dims.toList = others.toList :=
    List.map_injective_iff.mpr (Function.LeftInverse.injective Dim.toInt_ofInt) same
  obtain rfl : dims = others := Axes.eq_of_toList sameSizes
  have fits : Shape.check dims.toList (dims.toList.map Dim.ofInt) = none :=
    Shape.check_self _
  simp [resolveComptimeArrays, fits, adapts.promote_eq comptime otherComptime]

/-- A type below the joint stands for it if it has the same axes. -/
theorem stands_of_axes (leftSettled : left.Settled) (rightSettled : right.Settled)
    (below : left.Below right) (same : left.axes = right.axes) : left.StandsFor right := by
  have adapts := below.element
  have concrete := below.concrete leftSettled rightSettled
  simp only [StandsFor, resolve, leftSettled.isUnknown, rightSettled.isUnknown, Bool.or_false,
    Bool.false_eq_true, if_false]
  cases right with
  | scalar other =>
      cases left with
      | scalar tag => exact ⟨_, congrArg (Except.map Ty.scalar) adapts, equal_refl _⟩
      | array | comptimeArray => cases same
      | range | comptimeRange => cases below.range
  | array other others =>
      have filled := assignArray_of_axes leftSettled rightSettled.coherent adapts same
      cases left with
      | array | comptimeArray => exact ⟨_, filled, equal_refl _⟩
      | scalar | range | comptimeRange => cases same
  | comptimeArray other others =>
      cases left with
      | comptimeArray element dims =>
          have joined := resolveComptimeArrays_of_axes leftSettled.coherent rightSettled.coherent
            adapts same
          exact ⟨_, joined, equal_refl _⟩
      | array => cases concrete rfl
      | scalar | range | comptimeRange => cases same
  | range other form =>
      cases left with
      | range element kept =>
          exact ⟨_, congrArg (Except.map (Ty.range · kept)) adapts, beq_self_eq_true other⟩
      | comptimeRange element _ =>
          exact ⟨_, congrArg (Except.map (Ty.range · form)) adapts, beq_self_eq_true other⟩
      | array | comptimeArray => cases same
      | scalar => cases below.range
  | comptimeRange other form =>
      cases left with
      | comptimeRange element kept =>
          exact ⟨_, congrArg (Except.map (Ty.comptimeRange · kept)) adapts, beq_self_eq_true other⟩
      | range => cases concrete rfl
      | array | comptimeArray => cases same
      | scalar => cases below.range

/-- A type below the joint stands for it exactly if it has the same axes. -/
theorem stands_iff (leftSettled : left.Settled) (rightSettled : right.Settled)
    (below : left.Below right) : left.StandsFor right ↔ left.axes = right.axes := by
  constructor
  · rintro ⟨agreed, resolved, equal⟩
    rw [← axes_resolve leftSettled rightSettled below resolved, axes_eq_of_equal equal]
  · exact stands_of_axes leftSettled rightSettled below

end Ty

/-! ## Branches -/

namespace Joining

variable {ctx : Context} {policy : BranchPolicy} {before after : State}

theorem exists_of_mixesComptime {left right : Ty} (mixed : mixesComptime left right = true) :
    ∃ leftTag rightTag, left = .scalar leftTag ∧ right = .scalar rightTag ∧
      leftTag.isComptime = true ∧ rightTag.isComptime = true := by
  simp only [mixesComptime] at mixed
  split at mixed
  · next leftTag rightTag leftScalar rightScalar =>
      cases left <;> cases leftScalar
      cases right <;> cases rightScalar
      simp only [Bool.and_eq_true] at mixed
      exact ⟨leftTag, rightTag, rfl, rfl, mixed.1⟩
  · cases mixed

theorem below_comptimeFloat {tag : Tag} (comptime : tag.isComptime = true) :
    (Ty.scalar tag).Below .comptimeFloat := by
  refine ⟨?_, .nil, rfl⟩
  cases tag <;> cases comptime <;> decide

/-- Two branches are joined to an upper bound, under either policy. It has the axes of one of
them. -/
theorem below_joinBranch {joined result : Operand} {branch : Resolved}
    (settled : joined.type.Settled) (branchSettled : branch.type.Settled)
    (ended : joinBranch policy joined branch = .ok result) :
    joined.type.Below result.type ∧ branch.type.Below result.type ∧
      (result.type.axes = joined.type.axes ∨ result.type.axes = branch.type.axes) := by
  simp only [joinBranch] at ended
  split at ended
  · next mixed =>
      rcases exists_of_mixesComptime mixed with
        ⟨_, _, joinedScalar, branchScalar, comptime, branchComptime⟩
      rw [joinedScalar, branchScalar]
      cases policy with
      | strict => cases ended
      | defer =>
          cases ended
          exact ⟨below_comptimeFloat comptime, below_comptimeFloat branchComptime, .inl rfl⟩
  · split at ended
    · next type resolved =>
        cases ended
        rcases Ty.joins_resolve settled branchSettled resolved with joins | ⟨joins, _⟩
        · exact ⟨joins.left, joins.right, .inl joins.axes⟩
        · exact ⟨joins.right, joins.left, .inr joins.axes⟩
    · cases ended

/-- What is joined step by step is an upper bound of all that went into it. -/
theorem below_joinFrom_some {joined result : Operand} {branches : List Resolved}
    (settled : joined.type.Settled) (branchesSettled : ∀ branch ∈ branches, branch.type.Settled)
    (ended : joinFrom policy (some joined) branches = .ok (some result)) :
    joined.type.Below result.type ∧ ∀ branch ∈ branches, branch.type.Below result.type := by
  induction branches generalizing joined with
  | nil =>
      cases ended
      exact ⟨.refl _, List.forall_mem_nil _⟩
  | cons branch branches induction =>
      rw [List.forall_mem_cons] at branchesSettled
      have known : ¬branch.isUnknown = true := branchesSettled.1.not_unknown
      simp only [joinFrom, if_neg known] at ended
      split at ended
      · next next joinedNext =>
          have nextSettled := Clean.settled_joinBranch settled branchesSettled.1 joinedNext
          rcases below_joinBranch settled branchesSettled.1 joinedNext with ⟨left, right, _⟩
          rcases induction nextSettled branchesSettled.2 ended with ⟨below, others⟩
          exact ⟨left.trans below, List.forall_mem_cons.mpr ⟨right.trans below, others⟩⟩
      · cases ended

theorem below_joinFrom {result : Operand} {branches : List Resolved}
    (settled : ∀ branch ∈ branches, branch.type.Settled)
    (ended : joinFrom policy none branches = .ok (some result)) :
    ∀ branch ∈ branches, branch.type.Below result.type := by
  cases branches with
  | nil => exact List.forall_mem_nil _
  | cons first others =>
      rw [List.forall_mem_cons] at settled
      have known : ¬first.isUnknown = true := settled.1.not_unknown
      simp only [joinFrom, if_neg known] at ended
      exact List.forall_mem_cons.mpr (below_joinFrom_some settled.1 settled.2 ended)

/-- The joint has the axes of one of the branches. -/
theorem axes_joinFrom {result : Operand} {branches : List Resolved}
    (settled : ∀ branch ∈ branches, branch.type.Settled)
    (ended : joinFrom policy none branches = .ok (some result)) :
    result.type.Settled ∧ ∃ branch ∈ branches, result.type.axes = branch.type.axes := by
  have keeps : ∀ branch ∈ branches, ∀ joined joint : Operand,
      (joined.type.Settled ∧ ∃ branch ∈ branches, joined.type.axes = branch.type.axes) →
      joinBranch policy joined branch = .ok joint →
      joint.type.Settled ∧ ∃ branch ∈ branches, joint.type.axes = branch.type.axes := by
    intro branch member joined joint given joinedNext
    rcases given with ⟨joinedSettled, first, firstMember, same⟩
    have branchSettled := settled branch member
    refine ⟨Clean.settled_joinBranch joinedSettled branchSettled joinedNext, ?_⟩
    rcases below_joinBranch joinedSettled branchSettled joinedNext with ⟨_, _, kept | taken⟩
    · exact ⟨first, firstMember, kept.trans same⟩
    · exact ⟨branch, member, taken⟩
  exact forall_joinFrom_none keeps
    (fun branch member => ⟨settled branch member, branch, member, rfl⟩) ended result rfl

/-- Branches that are joined without a report agree on a type. -/
theorem joinFrom_of_quiet {branches : List Resolved} {operand : Operand}
    (notEmpty : branches ≠ []) (settled : ∀ branch ∈ branches, branch.type.Settled)
    (run : (joinBranches ctx branches).run before = .ok operand after)
    (quiet : after.reports = before.reports) :
    joinFrom ctx.policy none branches = .ok (some operand) := by
  have joinable : ∀ {result}, joinFrom ctx.policy none branches = .ok result →
      ∃ operand, result = some operand ∧ operand.type.Settled :=
    Clean.settled_joinFrom (.inr notEmpty) (fun _ absent => nomatch absent) settled
  unfold joinBranches at run
  split at run
  · cases run
    simp at quiet
  · next ended =>
      rcases joinable ended with ⟨_, absent, _⟩
      cases absent
  · next joined ended =>
      rw [ended]
      extract_lets finish at run
      have finished : ∀ {middle : State}, (finish ()).run middle = .ok operand after →
          operand = joined := by
        intro middle rest
        simp only [finish] at rest
        split at rest
        · next branch =>
            cases rest
            have known : ¬branch.isUnknown = true := (settled _ List.mem_cons_self).not_unknown
            simp only [joinFrom, if_neg known] at ended
            cases ended
            rfl
        · cases rest
          rfl
      split at run
      · split at run
        · rcases run_bind_eq_ok.mp run with ⟨_, _, _, rest⟩
          rw [finished rest]
        · rw [finished run]
      · rw [finished run]

end Joining

open Joining in
/-- Branches that agree under either policy agree on an upper bound. A branch may stand where it
is expected exactly if every other branch leaves open the lengths that this branch leaves open. -/
theorem branches_stand {ctx : Context} {branches : List Resolved} {operand : Operand}
    {before after : State} (known : ∀ branch ∈ branches, ¬branch.isUnknown = true)
    (formed : ∀ branch ∈ branches, branch.type.WellFormed)
    (run : (unifyBranches ctx branches none).run before = .ok operand after)
    (quiet : after.reports = before.reports) :
    ∀ branch ∈ branches, branch.type.StandsFor operand.type ↔
      ∀ other ∈ branches, branch.type.StaysOpen other.type := by
  intro branch member
  have settled : ∀ branch ∈ branches, branch.type.Settled :=
    fun branch member => (formed branch member).settled (known branch member)
  have ended := joinFrom_of_quiet (List.ne_nil_of_mem member) settled run quiet
  rcases axes_joinFrom settled ended with ⟨jointSettled, shaped, shapedMember, shape⟩
  have below := below_joinFrom settled ended
  rw [Ty.stands_iff (settled branch member) jointSettled (below branch member),
    Shape.eq_iff_of_admits (below branch member).axes]
  constructor
  · -- What is open in the joint is open in every branch below it.
    intro stays other otherMember axis isOpen
    exact Shape.open_of_admits (below other otherMember).axes (stays axis isOpen)
  · intro stays axis isOpen
    rw [shape]
    exact stays shaped shapedMember axis isOpen

namespace Sample

/-- A literal of two integers, then an array of two floats. -/
def literalFirst : List Resolved :=
  [⟨node 0, .typed (.comptimeArray .comptimeInt ⟨2, []⟩)⟩,
    ⟨node 1, .typed (.array .f64 ⟨.fixed 2, []⟩)⟩]

/-- An array of a known length, then one whose length is not known. -/
def openLast : List Resolved :=
  [⟨node 0, .typed (.array .i32 ⟨.fixed 3, []⟩)⟩,
    ⟨node 1, .typed (.array .i32 ⟨.wildcard, []⟩)⟩]

end Sample

theorem branches_stand_sample :
    (∀ branch ∈ Sample.literalFirst, ¬branch.isUnknown = true) ∧
    (∀ branch ∈ Sample.literalFirst, branch.type.WellFormed) ∧
    (unifyBranches (.start .strict .bits64) Sample.literalFirst none).run (.ofTable .empty)
      = .ok (.typed (.array .f64 ⟨.fixed 2, []⟩)) (.ofTable .empty) ∧
    ∀ branch ∈ Sample.literalFirst, branch.type.StandsFor (.array .f64 ⟨.fixed 2, []⟩) := by
  have known : ∀ branch ∈ Sample.literalFirst, ¬branch.isUnknown = true := by decide
  have formed : ∀ branch ∈ Sample.literalFirst, branch.type.WellFormed := by decide
  have run : (unifyBranches (.start .strict .bits64) Sample.literalFirst none).run
      (.ofTable .empty) = .ok (.typed (.array .f64 ⟨.fixed 2, []⟩)) (.ofTable .empty) := rfl
  refine ⟨known, formed, run, fun branch member => ?_⟩
  have fixed : ∀ branch ∈ Sample.literalFirst, .wildcard ∉ branch.type.axes := by decide
  apply (branches_stand known formed run rfl branch member).mpr
  intro other _ axis isOpen
  exact absurd (List.mem_of_getElem? isOpen) (fixed branch member)

/-- The branch that leaves its length open is given the length of the other one. -/
theorem open_branch_fixed :
    (∀ branch ∈ Sample.openLast, ¬branch.isUnknown = true) ∧
    (∀ branch ∈ Sample.openLast, branch.type.WellFormed) ∧
    (unifyBranches (.start .strict .bits64) Sample.openLast none).run (.ofTable .empty)
      = .ok (.typed (.array .i32 ⟨.fixed 3, []⟩)) (.ofTable .empty) ∧
    ¬∀ branch ∈ Sample.openLast, branch.type.StandsFor (.array .i32 ⟨.fixed 3, []⟩) := by
  refine ⟨by decide, by decide, rfl, fun stands => ?_⟩
  rcases stands ⟨Sample.node 1, .typed (.array .i32 ⟨.wildcard, []⟩)⟩ (.tail _ (.head _)) with
    ⟨agreed, resolved, _⟩
  cases resolved

end ComptimeTyping
