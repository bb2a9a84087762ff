import ComptimeTyping.Proofs.Checks
import ComptimeTyping.Proofs.Joins

/-! What is known of branches that are joined to a concrete type. Comptime branches take on the
joint, and scalars are checked against it. The elements of arrays and the bounds of ranges are
not: they keep what does not fit, and nothing is reported. -/

namespace ComptimeTyping

open Analysis

/-- The folded values that an operand carries: its own, those of its elements or those of its
bounds. -/
def Operand.folded (operand : Operand) : List Constant :=
  match operand.type with
  | .scalar _ => operand.value.toList
  | .array _ _ | .comptimeArray _ _ => (operand.elements.getD []).reduceOption
  | .range _ _ | .comptimeRange _ _ =>
      match operand.bounds with
      | some bounds => [bounds.start.value, bounds.stop.value, bounds.step.value].reduceOption
      | none => []

theorem Operand.folded_scalar {operand : Operand} {tag : Tag} (scalar : operand.type = .scalar tag) :
    operand.folded = operand.value.toList := by
  simp only [folded, scalar]

/-! ## Scalars apart -/

namespace Ty

def isScalar (type : Ty) : Bool :=
  type.scalarTag?.isSome

theorem exists_of_isScalar {type : Ty} (scalar : type.isScalar = true) :
    ∃ tag, type = .scalar tag := by
  cases type with
  | scalar tag => exact ⟨tag, rfl⟩
  | array | comptimeArray | range | comptimeRange => cases scalar

/-- The operands are both scalars or both not, and so is the result. -/
structure Alike (left right type : Ty) : Prop where
  known : ¬type.isUnknown = true
  left : left.isScalar = type.isScalar
  right : right.isScalar = type.isScalar

variable {left right type : Ty}

theorem alike_assignArray {source : Ty} {element : Tag} {dims : Axes Dim}
    (filled : source.assignArray element dims false = .ok type) :
    source.Alike (.array element dims) type := by
  rcases exists_of_assignArray filled with ⟨axes, rfl⟩
  refine ⟨Bool.false_ne_true, ?_, rfl⟩
  cases source with
  | array | comptimeArray => rfl
  | scalar | range | comptimeRange => cases filled

theorem alike_resolveRanges (resolved : left.resolveRanges right false = .ok type) :
    left.Alike right type := by
  simp only [resolveRanges] at resolved
  split at resolved
  case h_5 => cases resolved
  all_goals
    rcases exists_of_map_eq_ok resolved with ⟨tag, _, rfl⟩
    exact ⟨Bool.false_ne_true, rfl, rfl⟩

/-- Known types agree on a scalar only if both are scalars, and scalars agree on nothing else. -/
theorem alike_resolve (leftKnown : ¬left.isUnknown = true) (rightKnown : ¬right.isUnknown = true)
    (resolved : left.resolve right false = .ok type) : left.Alike right type := by
  simp only [resolve, Bool.eq_false_iff.mpr leftKnown, Bool.eq_false_iff.mpr rightKnown,
    Bool.or_false, Bool.false_eq_true, if_false] at resolved
  split at resolved
  · rcases exists_of_map_eq_ok resolved with ⟨tag, agreed, rfl⟩
    have tagKnown : tag ≠ .unknown := by
      apply Tag.resolve_ne_unknown _ _ agreed
      · rintro rfl
        exact leftKnown rfl
      · rintro rfl
        exact rightKnown rfl
    exact ⟨(settled_scalar tagKnown).not_unknown, rfl, rfl⟩
  · simp only [resolveComptimeArrays] at resolved
    split at resolved
    · cases resolved
    · cases resolved
      exact ⟨Bool.false_ne_true, rfl, rfl⟩
  · exact alike_assignArray resolved
  · rcases alike_assignArray resolved with ⟨known, left, right⟩
    exact ⟨known, right, left⟩
  · exact alike_assignArray resolved
  · exact alike_resolveRanges resolved

end Ty

/-! ## Joining -/

namespace Joining

variable {policy : BranchPolicy} {ctx : Context} {before after : State}

theorem alike_joinBranch {joined result : Operand} {branch : Resolved}
    (known : ¬joined.isUnknown = true) (branchKnown : ¬branch.isUnknown = true)
    (ended : joinBranch policy joined branch = .ok result) :
    joined.type.Alike branch.type result.type := by
  simp only [joinBranch] at ended
  split at ended
  · next mixed =>
      rcases exists_of_mixesComptime mixed with ⟨_, _, joinedScalar, branchScalar, _⟩
      cases policy with
      | strict => cases ended
      | defer =>
          cases ended
          rw [joinedScalar, branchScalar]
          exact ⟨Bool.false_ne_true, rfl, rfl⟩
  · split at ended
    · next type resolved =>
        cases ended
        exact Ty.alike_resolve known branchKnown resolved
    · cases ended

/-- Branches that are known are scalars exactly if what they are joined to is one. -/
theorem isScalar_joinFrom_some {joined result : Operand} {branches : List Resolved}
    (known : ¬joined.isUnknown = true)
    (ended : joinFrom policy (some joined) branches = .ok (some result)) :
    joined.type.isScalar = result.type.isScalar ∧
      ∀ branch ∈ branches, ¬branch.isUnknown = true →
        branch.type.isScalar = result.type.isScalar := by
  induction branches generalizing joined with
  | nil =>
      cases ended
      exact ⟨rfl, List.forall_mem_nil _⟩
  | cons branch branches induction =>
      rw [List.forall_mem_cons]
      simp only [joinFrom] at ended
      split at ended
      · next unknown =>
          rcases induction known ended with ⟨same, others⟩
          exact ⟨same, fun branchKnown => absurd unknown branchKnown, others⟩
      · next branchKnown =>
          split at ended
          · next joinedNext =>
              rcases alike_joinBranch known branchKnown joinedNext with ⟨nextKnown, left, right⟩
              rcases induction nextKnown ended with ⟨same, others⟩
              exact ⟨left.trans same, fun _ => right.trans same, others⟩
          · cases ended

theorem isScalar_joinFrom {result : Operand} {branches : List Resolved}
    (ended : joinFrom policy none branches = .ok (some result)) :
    ∀ branch ∈ branches, ¬branch.isUnknown = true →
      branch.type.isScalar = result.type.isScalar := by
  induction branches with
  | nil => exact List.forall_mem_nil _
  | cons branch branches induction =>
      rw [List.forall_mem_cons]
      simp only [joinFrom] at ended
      split at ended
      · next unknown =>
          exact ⟨fun branchKnown => absurd unknown branchKnown, induction ended⟩
      · next branchKnown =>
          rcases isScalar_joinFrom_some branchKnown ended with ⟨same, others⟩
          exact ⟨fun _ => same, others⟩

/-- A single branch is joined to itself. -/
theorem joinFrom_singleton {joined : Operand} {branch : Resolved}
    (ended : joinFrom policy none [branch] = .ok (some joined)) : branch.operand = joined := by
  simp only [joinFrom] at ended
  split at ended <;> cases ended
  rfl

/-- The check of joined branches: they have to fit a joint that is concrete. -/
def checkJoint (ctx : Context) (branches : List Resolved) (joint : Ty) : Analysis Unit :=
  match joint.scalarTag? with
  | some tag => if tag.isConcrete then checkBranchesFit ctx tag branches else return
  | none => return

theorem joinBranches_of_joined {branches : List Resolved} {joined : Operand}
    (ended : joinFrom ctx.policy none branches = .ok (some joined)) :
    joinBranches ctx branches =
      checkJoint ctx branches joined.type >>= fun _ => pure joined := by
  unfold joinBranches checkJoint
  rw [ended]
  dsimp only
  match branches with
  | [] => cases ended
  | [branch] =>
      obtain rfl := joinFrom_singleton ended
      cases branch.operand.type.scalarTag? with
      | none => rfl
      | some tag =>
          dsimp only
          split <;> rfl
  | first :: second :: others =>
      cases joined.type.scalarTag? with
      | none => rfl
      | some tag =>
          dsimp only
          split <;> rfl

/-- Branches with a known joint were joined to it and then checked. -/
theorem joinFrom_of_known {branches : List Resolved} {operand : Operand}
    (run : (joinBranches ctx branches).run before = .ok operand after)
    (known : ¬operand.isUnknown = true) :
    joinFrom ctx.policy none branches = .ok (some operand) ∧
      (checkJoint ctx branches operand.type).run before = .ok () after := by
  cases ended : joinFrom ctx.policy none branches with
  | error complaint =>
      simp only [joinBranches, ended] at run
      cases run
      exact absurd rfl known
  | ok result =>
      cases result with
      | none =>
          simp only [joinBranches, ended] at run
          cases run
          exact absurd rfl known
      | some joined =>
          rw [joinBranches_of_joined ended] at run
          rcases run_bind_eq_ok.mp run with ⟨_, middle, checked, ⟨⟩⟩
          exact ⟨rfl, checked⟩

/-- Only a joint that is a scalar is checked for. -/
theorem silent_checkJoint {branches : List Resolved} {joint : Ty}
    (known : ¬joint.isUnknown = true) (concrete : joint.isComptime = false) :
    (checkJoint ctx branches joint).SilentIff
      (joint.isScalar = true → ∀ branch ∈ branches, branch.type.isComptime = true →
        ∀ constant ∈ branch.operand.value,
          constant.fits joint.elementTag ctx.width = true) := by
  unfold checkJoint
  cases joint with
  | scalar tag =>
      have tagConcrete : tag.isConcrete = true := by
        cases tag <;> first | rfl | exact absurd rfl known | cases concrete
      dsimp only [Ty.scalarTag?]
      rw [if_pos tagConcrete]
      exact (silent_checkBranchesFit ctx tag branches).congr
        ⟨fun fits _ => fits, fun fits => fits rfl⟩
  | array | comptimeArray | range | comptimeRange => exact .pure _ nofun

end Joining

open Joining in
/-- Joining branches to a concrete type is silent exactly if the values of the comptime scalars
among them fit. Where the joint is an array or a range there is no scalar among the branches, so
nothing is checked at all. -/
theorem joined_scalars_fit {ctx : Context} {branches : List Resolved} {operand : Operand}
    {before after : State}
    (run : (unifyBranches ctx branches none).run before = .ok operand after)
    (known : ¬operand.isUnknown = true) (concrete : operand.type.isComptime = false) :
    after.reports = before.reports ↔
      ∀ branch ∈ branches, branch.type.isComptime = true → branch.type.isScalar = true →
        ∀ constant ∈ branch.operand.folded,
          constant.fits operand.type.elementTag ctx.width = true := by
  rcases joinFrom_of_known run known with ⟨ended, checked⟩
  have alike : ∀ branch ∈ branches, branch.type.isComptime = true →
      branch.type.isScalar = operand.type.isScalar := by
    intro branch member comptime
    apply isScalar_joinFrom ended branch member
    intro unknown
    rw [show branch.type = .unknown from beq_iff_eq.mp unknown] at comptime
    cases comptime
  have folded : ∀ branch : Resolved, branch.type.isScalar = true →
      branch.operand.folded = branch.operand.value.toList := by
    intro branch scalar
    rcases Ty.exists_of_isScalar scalar with ⟨tag, typed⟩
    exact Operand.folded_scalar typed
  rw [silent_checkJoint known concrete checked]
  constructor
  · intro fits branch member comptime scalar constant carried
    rw [folded branch scalar, Option.mem_toList] at carried
    exact fits ((alike branch member comptime).symm.trans scalar) branch member comptime
      constant carried
  · intro fits joint branch member comptime constant held
    have scalar := (alike branch member comptime).trans joint
    apply fits branch member comptime scalar constant
    rwa [folded branch scalar, Option.mem_toList]

namespace Sample

/-- A concrete integer, then a literal that it does not hold. -/
def valueLast : List Resolved :=
  [⟨node 0, .typed (.scalar .i32)⟩,
    ⟨node 1, { type := .comptimeInt, value := some (.int 3000000000) }⟩]

/-- A literal whose elements are known. -/
def wideElements : Operand where
  type := .comptimeArray .comptimeInt ⟨2, []⟩
  elements := some [some (.int 1), some (.int 3000000000)]

/-- The literal range `1..3000000000`. -/
def wideBounds : Operand where
  type := .comptimeRange .comptimeInt ⟨true, true, false, false⟩
  bounds := some ⟨⟨.nowhere, some (.int 1)⟩, ⟨.nowhere, some (.int 3000000000)⟩, .absent⟩

/-- Two integers, then the literal. -/
def elementsLast : List Resolved :=
  [⟨node 0, .typed (.array .i32 ⟨.fixed 2, []⟩)⟩, ⟨node 1, wideElements⟩]

/-- A range of integers, then the literal. -/
def boundsLast : List Resolved :=
  [⟨node 0, .typed (.range .i32 ⟨true, true, false, false⟩)⟩, ⟨node 1, wideBounds⟩]

/-- The branches are joined to a concrete type without a report, but a value does not fit. -/
def Exceeds (branches : List Resolved) : Prop :=
  ∃ operand, (unifyBranches (.start .strict .bits64) branches none).run (.ofTable .empty)
      = .ok operand (.ofTable .empty) ∧
    ¬operand.isUnknown = true ∧ operand.type.isComptime = false ∧
    ∃ branch ∈ branches, branch.type.isComptime = true ∧ ∃ constant ∈ branch.operand.folded,
      constant.fits operand.type.elementTag .bits64 = false

end Sample

/-- A literal that does not fit beside a concrete integer is reported. -/
theorem joined_scalars_fit_sample :
    ∃ after, (unifyBranches (.start .strict .bits64) Sample.valueLast none).run
        (.ofTable .empty) = .ok (.typed (.scalar .i32)) after ∧ after.reports ≠ [] := by
  obtain ⟨after, run⟩ : ∃ after, (unifyBranches (.start .strict .bits64) Sample.valueLast
      none).run (.ofTable .empty) = .ok (.typed (.scalar .i32)) after := ⟨_, rfl⟩
  refine ⟨after, run, fun quiet => ?_⟩
  have fits := (joined_scalars_fit run (by decide) rfl).mp quiet
  have carried := fits _ (List.mem_cons_of_mem _ List.mem_cons_self) rfl rfl (.int 3000000000)
    List.mem_cons_self
  exact absurd carried (by decide)

/-- Elements and bounds that do not fit are joined without a report. -/
theorem joined_values_exceed :
    Sample.Exceeds Sample.elementsLast ∧ Sample.Exceeds Sample.boundsLast := by
  constructor
  · exact ⟨_, rfl, by decide, rfl, _, List.mem_cons_of_mem _ List.mem_cons_self, rfl,
      .int 3000000000, by decide, by decide⟩
  · exact ⟨_, rfl, by decide, rfl, _, List.mem_cons_of_mem _ List.mem_cons_self, rfl,
      .int 3000000000, by decide, by decide⟩

end ComptimeTyping
