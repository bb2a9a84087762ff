import ComptimeTyping.Analysis.Branches
import ComptimeTyping.Analysis.Ranges
import ComptimeTyping.Proofs.Computation

/-! When the checks of known values are silent. A check answers whether a condition holds, and it
reports exactly if it does not. -/

namespace ComptimeTyping.Analysis

variable {α β : Type} {condition other : Prop}

/-! ## Silence -/

/-- Wherever the computation ends, it has reported nothing exactly if the condition holds. -/
def SilentIff (computation : Analysis α) (condition : Prop) : Prop :=
  ∀ ⦃before after : State⦄ ⦃value : α⦄, computation.run before = .ok value after →
    (after.reports = before.reports ↔ condition)

namespace SilentIff

theorem pure (value : α) (holds : condition) :
    (Pure.pure value : Analysis α).SilentIff condition := by
  intro before after result run
  cases run
  exact iff_of_true rfl holds

theorem report (position : Position) (finding : Finding) (fails : ¬condition) :
    (Analysis.report position finding).SilentIff condition := by
  intro before after result run
  cases run
  exact iff_of_false (by simp) fails

theorem bind {first : Analysis α} {next : α → Analysis β} (silent : first.SilentIff condition)
    (rest : ∀ value, (next value).SilentIff other) :
    (first >>= next).SilentIff (condition ∧ other) := by
  intro before after result run
  rcases run_bind_eq_ok.mp run with ⟨value, middle, started, ended⟩
  rw [quiet_iff_of_grows (first.grows_of_ok started) ((next value).grows_of_ok ended),
    silent started, rest value ended]

theorem congr {computation : Analysis α} (silent : computation.SilentIff condition)
    (same : condition ↔ other) : computation.SilentIff other :=
  fun _ _ _ run => (silent run).trans same

end SilentIff

/-- What is refused is reported. -/
theorem reported_refuse {position : Position} {finding : Finding} {before after : State}
    {operand : Operand} (run : (refuse position finding).run before = .ok operand after) :
    after.reports ≠ before.reports := by
  cases run
  simp

/-! ## Checks -/

/-- The answer tells whether the condition holds. It is reported exactly if it is no. -/
structure Checks (computation : Analysis Bool) (condition : Prop) : Prop where
  silent : computation.SilentIff condition
  passes : ∀ {before after : State} {passed : Bool},
    computation.run before = .ok passed after → (passed = true ↔ condition)

namespace Checks

theorem yes (holds : condition) : (pure true : Analysis Bool).Checks condition where
  silent := .pure _ holds
  passes := by
    rintro _ _ _ ⟨⟩
    exact iff_of_true rfl holds

theorem no (position : Position) (finding : Finding) (fails : ¬condition) :
    (report position finding >>= fun _ => pure false).Checks condition where
  silent := by
    intro before after passed run
    cases run
    exact iff_of_false (by simp) fails
  passes := by
    rintro _ _ _ ⟨⟩
    exact iff_of_false Bool.false_ne_true fails

theorem congr {computation : Analysis Bool} (checks : computation.Checks condition)
    (same : condition ↔ other) : computation.Checks other where
  silent := checks.silent.congr same
  passes run := (checks.passes run).trans same

theorem accepts {computation : Analysis Bool} (checks : computation.Checks condition)
    {before after : State} {passed : Bool} (run : computation.run before = .ok passed after)
    (quiet : after.reports = before.reports) : passed = true ∧ condition := by
  have holds := (checks.silent run).mp quiet
  exact ⟨(checks.passes run).mpr holds, holds⟩

theorem discard {computation : Analysis Bool} (checks : computation.Checks condition) :
    (Functor.discard computation).SilentIff condition :=
  (checks.silent.bind fun _ => .pure _ trivial).congr (and_true _ ▸ Iff.rfl)

end Checks

/-- Only numbers with a representation have bounds to exceed. -/
theorem fits_of_not_checked {constant : Constant} {tag : Tag} {width : PointerWidth}
    (unchecked : ¬(tag.isNumeric && !tag.isComptime && !constant.fits tag width) = true) :
    constant.fits tag width = true := by
  simp only [Bool.and_eq_true, Bool.not_eq_true', not_and, Bool.not_eq_false] at unchecked
  cases tag <;> first | exact unchecked ⟨rfl, rfl⟩ | rfl

theorem checks_checkFits (ctx : Context) (position : Position) (value : Option Constant)
    (tag : Tag) :
    (checkFits ctx position value tag).Checks
      (∀ constant ∈ value, constant.fits tag ctx.width = true) := by
  unfold checkFits
  split
  · exact .yes nofun
  · next constant =>
      split
      · next exceeds =>
          simp only [Bool.and_eq_true, Bool.not_eq_true'] at exceeds
          apply Checks.no
          intro fits
          rw [fits constant rfl] at exceeds
          exact nomatch exceeds.2
      · next unchecked =>
          apply Checks.yes
          rintro _ ⟨⟩
          exact fits_of_not_checked unchecked

theorem checks_checkBoundsFit (ctx : Context) (bounds : Bounds) (tag : Tag) :
    (checkBoundsFit ctx bounds tag).Checks
      (∀ bound ∈ [bounds.start, bounds.stop, bounds.step], ∀ constant ∈ bound.value,
        constant.fits tag ctx.width = true) := by
  have start := checks_checkFits ctx bounds.start.position bounds.start.value tag
  have stop := checks_checkFits ctx bounds.stop.position bounds.stop.value tag
  have step := checks_checkFits ctx bounds.step.position bounds.step.value tag
  simp only [List.forall_mem_cons, List.not_mem_nil, false_imp_iff, implies_true, and_true]
  constructor
  · apply SilentIff.congr (start.silent.bind fun _ => stop.silent.bind fun _ =>
      step.silent.bind fun _ => .pure _ trivial)
    rw [and_true]
  · intro before after passed run
    rcases run_bind_eq_ok.mp run with ⟨startFits, _, startRun, run⟩
    rcases run_bind_eq_ok.mp run with ⟨stopFits, _, stopRun, run⟩
    rcases run_bind_eq_ok.mp run with ⟨stepFits, _, stepRun, ⟨⟩⟩
    rw [Bool.and_eq_true, Bool.and_eq_true, start.passes startRun, stop.passes stopRun,
      step.passes stepRun, and_assoc]

theorem checks_requireFloatStep (position : Position) (element : Tag) (form : RangeForm) :
    (requireFloatStep position element form).Checks
      (element.isFloat = true → form.isBounded = true → form.hasStep = true) := by
  unfold requireFloatStep
  split
  · next lacking =>
      simp only [Bool.and_eq_true, Bool.not_eq_true'] at lacking
      apply Checks.no
      intro stepped
      rw [stepped lacking.1.1 lacking.1.2] at lacking
      exact nomatch lacking.2
  · next stepped =>
      apply Checks.yes
      intro float bounded
      simpa [float, bounded] using stepped

theorem checks_validateRangeIndex (position : Position) {type : Ty} {element : Tag}
    {form : RangeForm} (ranged : type.rangeParts? = some (element, form)) :
    (validateRangeIndex position type).Checks (element = .usize ∨ element = .comptimeInt) := by
  unfold validateRangeIndex
  rw [ranged]
  dsimp only
  split
  · next indexes => exact .yes indexes
  · next others =>
      split
      · exact .no _ _ others
      · exact .no _ _ others

/-- The branches that stay comptime are checked by the values that they have. -/
theorem silent_checkBranchesFit (ctx : Context) (tag : Tag) (branches : List Resolved) :
    (checkBranchesFit ctx tag branches).SilentIff
      (∀ branch ∈ branches, branch.type.isComptime = true →
        ∀ constant ∈ branch.operand.value, constant.fits tag ctx.width = true) := by
  induction branches with
  | nil => exact .pure _ (List.forall_mem_nil _)
  | cons branch branches induction =>
      simp only [List.forall_mem_cons]
      unfold checkBranchesFit
      split
      · next comptime =>
          apply ((checks_checkFits _ _ _ _).discard.bind fun _ => induction).congr
          simp [comptime]
      · next concrete =>
          apply induction.congr
          simp [concrete]

theorem silent_checkElementsFit (ctx : Context) (position : Position) (tag : Tag)
    (values : List (Option Constant)) :
    (checkElementsFit ctx position tag values).SilentIff
      (∀ value ∈ values, ∀ constant ∈ value, constant.fits tag ctx.width = true) := by
  induction values with
  | nil => exact .pure _ (List.forall_mem_nil _)
  | cons value values induction =>
      rw [List.forall_mem_cons]
      exact (checks_checkFits _ _ _ _).discard.bind fun _ => induction

end ComptimeTyping.Analysis
